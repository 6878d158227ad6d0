import PrefectQiskit.AttemptProtocol

/-!
# What analytics can change

With analytics the attempt has three more things to do after it has fetched its result, and
each may raise. `Analysable` is the exact condition on metrics and result under which the
table is built; under it the attempt returns what it returns without analytics.
-/

namespace PrefectQiskit.JobAnalytics

variable {Q : Qiskit}

/-- Timestamps are subtracted when both are known. Then both must be datetimes, naive or
timezone-aware alike. -/
def Comparable (later earlier : PyValue) : Prop :=
  earlier.isNone ∨ later.isNone ∨ ∃ a b, later = .datetime a ∧ earlier = .datetime b ∧
    a.utcoffset.isSome = b.utcoffset.isSome

/-- A number that the division can coerce to a double. -/
def FloatLike : PyValue → Prop
  | .bool _ | .float _ => True
  | .int n => n.natAbs < PyValue.floatOverflow
  | _ => False

def Printable (dt : PyValue) : Prop := dt.truthy → ∃ d, dt = .datetime d

/-- The execution span of a bloc is absent or an object. -/
def SpanIsDict (metadata : PyDict) : Prop :=
  ∃ d, (metadata.get? "span").getD (.dict []) = .dict d

/-- One result per bloc, each with a readable span. -/
def MatchesBlocs (primitiveBlocs : Pubs Q) : Fetched Q → Prop
  | .primitiveResult result => result.pubResults.length = primitiveBlocs.length ∧
      ∀ pubResult ∈ result.pubResults, SpanIsDict pubResult.metadata
  | .other value => primitiveBlocs.length = 0 ∧ value.len = .ok 0

structure Analysable (primitiveBlocs : Pubs Q) (result : Fetched Q) (metrics : JobMetrics) :
    Prop where
  blocs : MatchesBlocs primitiveBlocs result
  queue : Comparable metrics.timestampStarted metrics.timestampCreated
  work : Comparable metrics.timestampCompleted metrics.timestampStarted
  qpu : metrics.timestampStarted.isNone ∨ metrics.timestampCompleted.isNone ∨
    metrics.qpuUsage.isNone ∨ FloatLike metrics.qpuUsage
  created : Printable metrics.timestampCreated
  started : Printable metrics.timestampStarted
  completed : Printable metrics.timestampCompleted

theorem dateTime_sub_ok {a b : DateTime} :
    (∃ m, a.sub b = .ok m) ↔ a.utcoffset.isSome = b.utcoffset.isSome := by
  obtain ⟨wa, oa⟩ := a
  obtain ⟨wb, ob⟩ := b
  cases oa <;> cases ob <;> simp [DateTime.sub]

theorem totalSeconds_ok {later earlier : PyValue} :
    (∃ q, totalSeconds later earlier = .ok q) ↔ ∃ a b, later = .datetime a ∧
      earlier = .datetime b ∧ a.utcoffset.isSome = b.utcoffset.isSome := by
  constructor
  · intro h
    obtain ⟨q, hq⟩ := h
    simp only [totalSeconds] at hq
    split at hq
    next a b =>
      obtain ⟨m, hm, _⟩ := bind_eq_ok.mp hq
      exact ⟨a, b, rfl, rfl, dateTime_sub_ok.mp ⟨m, hm⟩⟩
    all_goals cases hq
  · intro h
    obtain ⟨a, b, rfl, rfl, h⟩ := h
    obtain ⟨m, hm⟩ := dateTime_sub_ok.mpr h
    exact ⟨m / 1000000, bind_eq_ok.mpr ⟨m, hm, rfl⟩⟩

theorem span_ok {later earlier : PyValue} :
    (∃ o, span later earlier = .ok o) ↔ Comparable later earlier := by
  rw [span, Comparable]
  rw [← totalSeconds_ok]
  cases he : earlier.isNone with
  | true => simp [pure, Except.pure]
  | false =>
    cases hl : later.isNone with
    | true => simp [pure, Except.pure]
    | false =>
      cases totalSeconds later earlier <;> simp [Functor.map, Except.map]

/-- A span is computed exactly when both timestamps are known. -/
theorem span_eq_some {later earlier : PyValue} {o : Option ℚ} (h : span later earlier = .ok o) :
    o.isSome = (!earlier.isNone && !later.isNone) := by
  rw [span] at h
  split at h
  next hc =>
    rw [hc]
    cases ht : totalSeconds later earlier <;> rw [ht] at h <;> cases h
    rfl
  next hc =>
    cases h
    simpa using hc

theorem toFloat_ok {v : PyValue} : (∃ x, v.toFloat = .ok x) ↔ FloatLike v := by
  cases v with
  | int n =>
    simp only [PyValue.toFloat, FloatLike]
    split <;> simp_all
  | _ => simp [PyValue.toFloat, FloatLike]

theorem workEfficiency_ok {qpuUsage : PyValue} {spanWork : Option ℚ} :
    (∃ v, workEfficiency qpuUsage spanWork = .ok v) ↔
      spanWork = none ∨ qpuUsage.isNone ∨ FloatLike qpuUsage := by
  rw [← toFloat_ok]
  cases spanWork with
  | none => simp [workEfficiency, pure, Except.pure]
  | some q =>
    cases hn : qpuUsage.isNone with
    | true => simp [workEfficiency, hn, pure, Except.pure]
    | false =>
      cases hx : qpuUsage.toFloat with
      | error e => simp [workEfficiency, hn, hx, bind, Except.bind]
      | ok x =>
        cases hd : x.div q <;>
          simp [workEfficiency, hn, hx, hd, bind, Except.bind, pure, Except.pure]

theorem isoformatOrNone_ok (py : Builtins) {dt : PyValue} :
    (∃ v, isoformatOrNone py dt = .ok v) ↔ Printable dt := by
  simp only [isoformatOrNone, Printable]
  cases ht : dt.truthy with
  | false => simp [pure, Except.pure]
  | true =>
    cases dt <;> simp [PyValue.attributeError, pure, Except.pure]

theorem jobRows_ok (py : Builtins) (resourceName : String) (programType : ProgramType)
    (jobId : String) (tags : List String) (numPubs : ℕ) {metrics : JobMetrics} :
    (∃ table, jobRows py resourceName programType jobId tags numPubs metrics = .ok table) ↔
      Comparable metrics.timestampStarted metrics.timestampCreated ∧
      Comparable metrics.timestampCompleted metrics.timestampStarted ∧
      (metrics.timestampStarted.isNone ∨ metrics.timestampCompleted.isNone ∨
        metrics.qpuUsage.isNone ∨ FloatLike metrics.qpuUsage) ∧
      Printable metrics.timestampCreated ∧ Printable metrics.timestampStarted ∧
      Printable metrics.timestampCompleted := by
  rw [← span_ok, ← span_ok, ← isoformatOrNone_ok py, ← isoformatOrNone_ok py,
    ← isoformatOrNone_ok py]
  have hqpu : ∀ o, span metrics.timestampCompleted metrics.timestampStarted = .ok o →
      ((∃ v, workEfficiency metrics.qpuUsage o = .ok v) ↔
        metrics.timestampStarted.isNone ∨ metrics.timestampCompleted.isNone ∨
          metrics.qpuUsage.isNone ∨ FloatLike metrics.qpuUsage) := by
    intro o ho
    have hs := span_eq_some ho
    rw [workEfficiency_ok]
    cases o with
    | none =>
      have hn : metrics.timestampStarted.isNone ∨ metrics.timestampCompleted.isNone := by
        simpa [or_iff_not_imp_left] using hs
      simp [← or_assoc, hn]
    | some q =>
      have hn := hs.symm
      simp only [Option.isSome_some, Bool.and_eq_true, Bool.not_eq_true'] at hn
      simp [hn.1, hn.2]
  constructor
  · intro h
    obtain ⟨table, h⟩ := h
    obtain ⟨queue, hqueue, h⟩ := bind_eq_ok.mp h
    obtain ⟨work, hwork, h⟩ := bind_eq_ok.mp h
    obtain ⟨efficiency, he, h⟩ := bind_eq_ok.mp h
    obtain ⟨created, hc, h⟩ := bind_eq_ok.mp h
    obtain ⟨started, hs, h⟩ := bind_eq_ok.mp h
    obtain ⟨completed, hf, _⟩ := bind_eq_ok.mp h
    exact ⟨⟨_, hqueue⟩, ⟨_, hwork⟩, (hqpu _ hwork).mp ⟨_, he⟩, ⟨_, hc⟩, ⟨_, hs⟩, ⟨_, hf⟩⟩
  · intro h
    obtain ⟨⟨queue, hqueue⟩, ⟨work, hwork⟩, hq, ⟨created, hc⟩, ⟨started, hs⟩, ⟨completed, hf⟩⟩ := h
    obtain ⟨efficiency, he⟩ := (hqpu _ hwork).mpr hq
    exact ⟨_, bind_eq_ok.mpr ⟨_, hqueue, bind_eq_ok.mpr ⟨_, hwork, bind_eq_ok.mpr ⟨_, he,
      bind_eq_ok.mpr ⟨_, hc, bind_eq_ok.mpr ⟨_, hs, bind_eq_ok.mpr ⟨_, hf, rfl⟩⟩⟩⟩⟩⟩⟩

theorem pubRows_ok (i : ℕ) (bloc : QuantumCircuit Q × List ℕ) {metadata : PyDict} :
    (∃ rows, pubRows i bloc metadata = .ok rows) ↔ SpanIsDict metadata := by
  constructor
  · intro h
    obtain ⟨rows, h⟩ := h
    obtain ⟨started, hs, _⟩ := bind_eq_ok.mp h
    cases hv : (metadata.get? "span").getD (.dict []) with
    | dict d => exact ⟨d, hv⟩
    | _ =>
      rw [hv] at hs
      cases hs
  · intro h
    obtain ⟨d, hd⟩ := h
    rw [pubRows]
    rw [hd]
    exact ⟨_, rfl⟩

theorem addPubRows_ok (i : ℕ) (table : PyDict)
    {rest : List ((QuantumCircuit Q × List ℕ) × PyDict)} :
    (∃ t, addPubRows i rest table = .ok t) ↔ ∀ p ∈ rest, SpanIsDict p.2 := by
  induction rest generalizing i table with
  | nil => simp [addPubRows, pure, Except.pure]
  | cons p rest ih =>
    obtain ⟨bloc, metadata⟩ := p
    constructor
    · intro h
      obtain ⟨t, h⟩ := h
      obtain ⟨rows, hrows, h⟩ := bind_eq_ok.mp h
      exact List.forall_mem_cons.mpr ⟨(pubRows_ok i bloc).mp ⟨_, hrows⟩, (ih _ _).mp ⟨_, h⟩⟩
    · intro h
      obtain ⟨hp, hrest⟩ := List.forall_mem_cons.mp h
      obtain ⟨rows, hrows⟩ := (pubRows_ok i bloc).mpr hp
      obtain ⟨t, ht⟩ := (ih _ _).mpr hrest
      exact ⟨t, bind_eq_ok.mpr ⟨rows, hrows, ht⟩⟩

/-- The elements met when iterating, once the lengths agree. -/
theorem matchesBlocs_iff {primitiveBlocs : Pubs Q} {result : Fetched Q} :
    MatchesBlocs primitiveBlocs result ↔ result.len = .ok primitiveBlocs.length ∧
      ∃ metadata, result.pubMetadata = .ok metadata ∧
        ∀ p ∈ primitiveBlocs.circuits.zip metadata, SpanIsDict p.2 := by
  cases result with
  | primitiveResult result =>
    simp only [MatchesBlocs, Fetched.len, Fetched.pubMetadata, Except.ok.injEq]
    constructor
    · intro h
      obtain ⟨hl, hm⟩ := h
      refine ⟨hl, _, rfl, ?_⟩
      intro h hp
      obtain ⟨bloc, metadata⟩ := h
      obtain ⟨pubResult, hr, rfl⟩ := List.mem_map.mp (List.of_mem_zip hp).2
      exact hm pubResult hr
    · intro h
      obtain ⟨hl, _, rfl, hm⟩ := h
      refine ⟨hl, fun pubResult hr => ?_⟩
      have hz : ((primitiveBlocs.circuits.zip (result.pubResults.map PubResult.metadata)).map
          Prod.snd) = result.pubResults.map PubResult.metadata := by
        apply List.map_snd_zip
        rw [List.length_map]
        exact hl.le
      have hmem : pubResult.metadata ∈ (primitiveBlocs.circuits.zip
          (result.pubResults.map PubResult.metadata)).map Prod.snd := by
        rw [hz]
        exact List.mem_map_of_mem hr
      obtain ⟨p, hp, he⟩ := List.mem_map.mp hmem
      rw [← he]
      exact hm p hp
  | other value =>
    simp only [MatchesBlocs, Fetched.len, Fetched.pubMetadata]
    constructor
    · intro h
      obtain ⟨hl, hv⟩ := h
      obtain ⟨items, hitems, hempty⟩ := PyValue.len_eq_ok.mp hv
      rw [List.length_eq_zero_iff.mp hempty] at hitems
      rw [hl]
      exact ⟨hv, [], bind_eq_ok.mpr ⟨[], hitems, rfl⟩, by simp⟩
    · intro h
      obtain ⟨hv, metadata, hm, _⟩ := h
      obtain ⟨items, hitems, hm⟩ := bind_eq_ok.mp hm
      cases items with
      | nil =>
        have hzero : value.len = .ok 0 := PyValue.len_eq_ok.mpr ⟨[], hitems, rfl⟩
        rw [hzero] at hv
        exact ⟨(Except.ok.inj hv).symm, hzero⟩
      | cons element items => cases hm

/-- The table is built under exactly these conditions. -/
theorem makeAnalytics_ok {py : Builtins} {resourceName : String} {programType : ProgramType}
    {jobId : String} {tags : List String} {primitiveBlocs : Pubs Q} {result : Fetched Q}
    {metrics : JobMetrics} {options : Option PyDict} :
    (∃ table, makeAnalytics py resourceName programType jobId tags primitiveBlocs result metrics
      options = .ok table) ↔ Analysable primitiveBlocs result metrics := by
  constructor
  · intro h
    obtain ⟨table, h⟩ := h
    obtain ⟨n, hn, h⟩ := bind_eq_ok.mp h
    split at h
    next => cases h
    next hl =>
      obtain ⟨rows, hrows, h⟩ := bind_eq_ok.mp h
      obtain ⟨metadata, hm, h⟩ := bind_eq_ok.mp h
      obtain ⟨table', ht, _⟩ := bind_eq_ok.mp h
      obtain ⟨hqueue, hwork, hqpu, hc, hs, hf⟩ := (jobRows_ok ..).mp ⟨_, hrows⟩
      have hlen : result.len = .ok primitiveBlocs.length := by
        rw [hn, of_not_not hl]
      exact ⟨matchesBlocs_iff.mpr ⟨hlen, metadata, hm, (addPubRows_ok ..).mp ⟨_, ht⟩⟩,
        hqueue, hwork, hqpu, hc, hs, hf⟩
  · intro h
    obtain ⟨hblocs, hqueue, hwork, hqpu, hc, hs, hf⟩ := h
    obtain ⟨hlen, metadata, hm, hspans⟩ := matchesBlocs_iff.mp hblocs
    obtain ⟨rows, hrows⟩ := (jobRows_ok py resourceName programType jobId tags
      primitiveBlocs.length).mpr ⟨hqueue, hwork, hqpu, hc, hs, hf⟩
    obtain ⟨table, ht⟩ := (addPubRows_ok 0 rows).mpr hspans
    refine ⟨table.update (flattenOptions py [("options", optionsValue options)] ""), ?_⟩
    refine bind_eq_ok.mpr ⟨_, hlen, ?_⟩
    rw [if_neg (not_not.mpr rfl)]
    exact bind_eq_ok.mpr ⟨_, hrows, bind_eq_ok.mpr ⟨_, hm, bind_eq_ok.mpr ⟨_, ht, rfl⟩⟩⟩

end PrefectQiskit.JobAnalytics

namespace PrefectQiskit.PrimitiveRunner

open Coroutine JobAnalytics

variable {Q : Qiskit} {py : Builtins} {args : RunPrimitiveArgs Q}

abbrev RunPrimitiveArgs.withAnalytics (args : RunPrimitiveArgs Q) (enableAnalytics : Bool) :
    RunPrimitiveArgs Q :=
  { args with enableAnalytics := enableAnalytics }

/-- How the client, the engine and the artifact store answer after each transcript. -/
abbrev Client (Q : Qiskit) := List (Event Q) → (p : Await Q) → p.Reply

/-- The attempt against this behaviour, as far as it has come. -/
abbrev AttemptServed (py : Builtins) (args : RunPrimitiveArgs Q) (client : Client Q)
    (t : List (Event Q)) (s : AttemptStatus Q) : Prop :=
  (runPrimitive py args).Served client (.suspended .checkResourceAvailable) t s

/-- Until the result is fetched the flag is not looked at. -/
theorem resume_withAnalytics {p q : Await Q} {reply : p.Reply} {enableAnalytics : Bool}
    (h : resume py (args.withAnalytics false) p reply = .suspended q) :
    resume py (args.withAnalytics enableAnalytics) p reply = .suspended q := by
  cases p with
  | getPrimitiveResult jobId =>
    obtain ⟨b, rfl, hb⟩ := andThen_suspended h
    cases hb
  | _ => exact h

theorem served_withAnalytics {client : Client Q} {t : List (Event Q)} {q : Await Q}
    (enableAnalytics : Bool)
    (h : AttemptServed py (args.withAnalytics false) client t (.suspended q)) :
    AttemptServed py (args.withAnalytics enableAnalytics) client t (.suspended q) := by
  generalize hs : (Status.suspended q : AttemptStatus Q) = s at h
  induction h generalizing q with
  | refl =>
    cases hs
    exact .refl
  | @step t p h ih =>
    have hon := (ih rfl).step
    have hq : (runPrimitive py (args.withAnalytics enableAnalytics)).resume p (client t p) =
        .suspended q := resume_withAnalytics hs.symm
    rw [hq] at hon
    rw [← hs]
    exact hon

/-- Where the attempt returns without analytics, it asks for the metrics with analytics. -/
theorem served_getJobMetrics {client : Client Q} {t : List (Event Q)} {result : Fetched Q}
    (h : AttemptServed py (args.withAnalytics false) client t (.finished (.ok result))) :
    ∃ jobId, .getPrimitiveResult jobId (.ok result) ∈ t ∧
      AttemptServed py (args.withAnalytics true) client t
        (.suspended (.getJobMetrics jobId result)) := by
  obtain ⟨t₀, p, hr, rfl, hs⟩ := h.finished_last
  have hp := progress_of_run hr.run
  rcases resume_returned hs with ⟨jobId, rfl, he⟩ | ⟨table, rfl⟩
  · refine ⟨jobId, List.mem_append_right _ (List.mem_singleton.mpr he.symm), ?_⟩
    have hreply : client t₀ (.getPrimitiveResult jobId) = .ok result := by
      cases he' : client t₀ (.getPrimitiveResult jobId) <;> rw [he'] at he <;> cases he
      rfl
    rw [hreply]
    exact (served_withAnalytics true hr).answer hreply
  · cases hp with
    | createTableArtifact _ _ ha => cases ha

/-- The client returns metrics for the job, and the table can be built from them. -/
def MetricsAnalysable (primitiveBlocs : Pubs Q) (client : Client Q) (t : List (Event Q))
    (jobId : String) (result : Fetched Q) : Prop :=
  ∃ metrics, client t (.getJobMetrics jobId result) = .ok metrics ∧
    Analysable primitiveBlocs result metrics

theorem fetchMetrics_cases (py : Builtins) (args : RunPrimitiveArgs Q) (jobId : String)
    (result : Fetched Q) (metrics : JobMetrics) :
    (Analysable args.primitiveBlocs result metrics ∧
      ∃ table, fetchMetrics py args jobId result metrics =
        .suspended (.createTableArtifact table result)) ∨
    (¬Analysable args.primitiveBlocs result metrics ∧
      ∃ ex, fetchMetrics py args jobId result metrics = .finished (.error ex)) := by
  rw [fetchMetrics]
  split
  next table ht => exact Or.inl ⟨makeAnalytics_ok.mp ⟨table, ht⟩, table, rfl⟩
  next ex ht =>
    refine Or.inr ⟨fun ha => ?_, _, rfl⟩
    obtain ⟨table, hok⟩ := makeAnalytics_ok.mpr ha
    rw [hok] at ht
    cases ht

/-- From the request of the metrics on, the attempt returns the fetched result or raises. -/
theorem served_outcome {client : Client Q} {t : List (Event Q)} {jobId : String}
    {result : Fetched Q} (hartifact : ∀ t table result,
      client t (.createTableArtifact table result) = .ok ())
    (h : AttemptServed py (args.withAnalytics true) client t
      (.suspended (.getJobMetrics jobId result))) :
    ∃ t' o, AttemptServed py (args.withAnalytics true) client t' (.finished o) ∧
      ((MetricsAnalysable args.primitiveBlocs client t jobId result ∧ o = .ok result) ∨
        (¬MetricsAnalysable args.primitiveBlocs client t jobId result ∧ ∃ ex, o = .error ex)) := by
  cases hm : client t (.getJobMetrics jobId result) with
  | error ex =>
    refine ⟨_, .error ex, h.answer hm, Or.inr ⟨?_, ex, rfl⟩⟩
    intro h
    obtain ⟨metrics, hok, _⟩ := h
    rw [hm] at hok
    cases hok
  | ok metrics =>
    have hiff : MetricsAnalysable args.primitiveBlocs client t jobId result ↔
        Analysable args.primitiveBlocs result metrics := by
      constructor
      · intro h
        obtain ⟨metrics', hok, ha⟩ := h
        rw [hm] at hok
        cases hok
        exact ha
      · intro ha
        exact ⟨metrics, hm, ha⟩
    rw [hiff]
    have hstep : AttemptServed py (args.withAnalytics true) client _
        (fetchMetrics py (args.withAnalytics true) jobId result metrics) := h.answer hm
    rcases fetchMetrics_cases py (args.withAnalytics true) jobId result metrics with
      ⟨ha, table, hf⟩ | ⟨ha, ex, hf⟩
    · rw [hf] at hstep
      exact ⟨_, .ok result, hstep.answer (hartifact _ table result), Or.inl ⟨ha, rfl⟩⟩
    · rw [hf] at hstep
      exact ⟨_, _, hstep, Or.inr ⟨ha, ex, rfl⟩⟩

/-- Where an attempt without analytics returns a result, the one with analytics against the
same behaviour ends as well: with this result when the metrics are returned and analysable,
and with an exception otherwise. -/
theorem runPrimitive_withAnalytics (py : Builtins) (args : RunPrimitiveArgs Q)
    (client : Client Q) {t : List (Event Q)} {result : Fetched Q}
    (hartifact : ∀ t table result, client t (.createTableArtifact table result) = .ok ())
    (h : AttemptServed py (args.withAnalytics false) client t (.finished (.ok result))) :
    ∃ jobId, .getPrimitiveResult jobId (.ok result) ∈ t ∧
      (∃ t' o, AttemptServed py (args.withAnalytics true) client t' (.finished o)) ∧
      ∀ t' o, AttemptServed py (args.withAnalytics true) client t' (.finished o) →
        (MetricsAnalysable args.primitiveBlocs client t jobId result ∧ o = .ok result) ∨
        (¬MetricsAnalysable args.primitiveBlocs client t jobId result ∧ ∃ ex, o = .error ex) := by
  obtain ⟨jobId, hj, hon⟩ := served_getJobMetrics h
  obtain ⟨t', o, ho, hcases⟩ := served_outcome hartifact hon
  refine ⟨jobId, hj, ⟨t', o, ho⟩, ?_⟩
  intro t'' o' ho'
  rw [← (ho.finished_unique ho').2]
  exact hcases

section Sample

def sampleMetrics : JobMetrics where
  qpuUsage := .float (.finite 2)
  timestampCreated := .none
  timestampStarted := .datetime ⟨0, some 0⟩
  timestampCompleted := .datetime ⟨4000000, some 0⟩

def sampleArgs (enableAnalytics : Bool) : RunPrimitiveArgs plainQiskit :=
  ((sampleRuntime false 0).configuredRunner sampleContext samplePubs .sampler none).withAnalytics
    enableAnalytics

/-- A client whose job completes at once. -/
def completedClient (metrics : Except PyException JobMetrics) : Client plainQiskit :=
  fun _ => sampleClient "job-1" (.ok (.str "COMPLETED")) (.ok sampleResult) metrics

def servedSample (enableAnalytics : Bool) (metrics : Except PyException JobMetrics) :
    List (Event plainQiskit) × AttemptStatus plainQiskit :=
  (runPrimitive .ascii (sampleArgs enableAnalytics)).serve (completedClient metrics) 6 []
    (.suspended .checkResourceAvailable)

theorem servedSample_served (enableAnalytics : Bool) (metrics : Except PyException JobMetrics) :
    AttemptServed .ascii (sampleArgs enableAnalytics) (completedClient metrics)
      (servedSample enableAnalytics metrics).1 (servedSample enableAnalytics metrics).2 :=
  Served.refl.serve 6

theorem analysable_sampleMetrics : Analysable samplePubs sampleResult sampleMetrics where
  blocs := ⟨rfl, by simp [SpanIsDict]⟩
  queue := Or.inl rfl
  work := Or.inr (Or.inr ⟨_, _, rfl, rfl, rfl⟩)
  qpu := Or.inr (Or.inr (Or.inr trivial))
  created h := by cases h
  started _ := ⟨_, rfl⟩
  completed _ := ⟨_, rfl⟩

theorem runPrimitive_withAnalytics_sample :
    (∃ t o, AttemptServed .ascii (sampleArgs true) (completedClient (.ok sampleMetrics)) t
      (.finished o)) ∧
    ∀ t o, AttemptServed .ascii (sampleArgs true) (completedClient (.ok sampleMetrics)) t
      (.finished o) → o = .ok sampleResult := by
  obtain ⟨_, _, hend, hall⟩ := runPrimitive_withAnalytics .ascii (sampleArgs true)
    (completedClient (.ok sampleMetrics)) (fun _ _ _ => rfl)
    (servedSample_served false (.ok sampleMetrics))
  refine ⟨hend, fun t o ho => ?_⟩
  rcases hall t o ho with ⟨_, h⟩ | ⟨hn, _⟩
  · exact h
  · exact absurd ⟨sampleMetrics, rfl, analysable_sampleMetrics⟩ hn

/-- The metrics of a completed job cannot be fetched. -/
theorem not_runPrimitive_withAnalytics_returns :
    ¬∀ (py : Builtins) (args : RunPrimitiveArgs plainQiskit) (client : Client plainQiskit)
      (t : List (Event plainQiskit)) (result : Fetched plainQiskit),
      (∀ t table result, client t (.createTableArtifact table result) = .ok ()) →
      AttemptServed py (args.withAnalytics false) client t (.finished (.ok result)) →
      ∃ t', AttemptServed py (args.withAnalytics true) client t' (.finished (.ok result)) := by
  intro h
  obtain ⟨t', ht'⟩ := h .ascii (sampleArgs true) (completedClient (.error temporaryFailure)) _
    sampleResult (fun _ _ _ => rfl) (servedSample_served false (.error temporaryFailure))
  have hraised := servedSample_served true (.error temporaryFailure)
  cases (ht'.finished_unique hraised).2

end Sample

end PrefectQiskit.PrimitiveRunner
