import PrefectQiskit.AerLiveness
import PrefectQiskit.AnalyticsObserver

/-!
# What a call on Aer comes to

`JobOutcome.fate` is what the caller of a job gets, read off the outcome that the simulator
gives to the job. In a fair run a call that the client accepts submits one job and ends with
the fate of this job; it has no end when the job has no fate.
-/

namespace PrefectQiskit.QiskitAer

open World PrimitiveRunner Coroutine JobAnalytics FairRuns

variable {Q : Qiskit} {py : Builtins} {lib : ThirdParty Q} {sim : Simulator Q} {c : Call Q}
  {w w' : World Q} {t : List (Event Q)}

section Fate

/-- A failure with a text is reported, one without a text is not. -/
def reported (jobId : String) (ex : PyException) : Option (Outcome Q) :=
  match ex.str with
  | .ok msg => some (.error (jobFailure jobId msg))
  | .error _ => none

/-- What the caller of a job with this outcome gets. -/
def JobOutcome.fate (lib : ThirdParty Q) (out : JobOutcome Q) (jobId : String) :
    Option (Outcome Q) :=
  match out.run, out.result with
  | .error _, _ => none
  | .ok (), .error ex => reported jobId ex
  | .ok (), .ok result =>
    match lib.dumps result with
    | .ok _ => some (.ok (.primitiveResult result))
    | .error e => reported jobId (.foreign e.cls e.message)

variable {out : JobOutcome Q} {jobId : String}

theorem fate_completed {result : PrimitiveResult Q} {data : List UInt8} (h : out.run = .ok ())
    (hr : out.result = .ok result) (hd : lib.dumps result = .ok data) :
    out.fate lib jobId = some (.ok (.primitiveResult result)) := by
  rw [JobOutcome.fate, h, hr]
  simp only [hd]

theorem fate_raised {ex : PyException} (h : out.run = .ok ()) (hx : Raised lib out ex) :
    out.fate lib jobId = reported jobId ex := by
  cases hx with
  | result hr => rw [JobOutcome.fate, h, hr]
  | dumps hr hd =>
    rw [JobOutcome.fate, h, hr]
    simp only [hd]

theorem reported_eq {ex : PyException} {msg : String} (hm : ex.str = .ok msg) :
    reported jobId ex = some (.error (jobFailure jobId msg) : Outcome Q) := by
  rw [reported, hm]

/-- A job has a fate exactly when its failure is contained. -/
theorem contained_of_fate {o : Outcome Q} (h : out.fate lib jobId = some o) :
    Contained lib out := by
  cases hrun : out.run with
  | error ex =>
    rw [JobOutcome.fate, hrun] at h
    cases h
  | ok _ =>
    refine ⟨hrun, ?_⟩
    intro ex hx
    rw [fate_raised hrun hx, reported] at h
    split at h
    next msg hm => exact ⟨msg, hm⟩
    next => cases h

end Fate

/-- The client takes the jobs of the call: it is asked for the simulator, and the primitive
accepts its options. -/
structure Accepted (lib : ThirdParty Q) (c : Call Q) : Prop where
  name : c.runtime.resourceName = resourceNAME
  construct : lib.construct c.primitive = .ok ()

/-- With analytics, the results of the simulator have to fit the blocs of the call. -/
def Fits (sim : Simulator Q) (c : Call Q) : Prop :=
  c.runtime.enableJobAnalytics = true → ∀ jobId result,
    (c.outcome sim jobId).result = .ok result →
      MatchesBlocs c.primitiveBlocs (.primitiveResult result)

/-- No table was refused. -/
def Stored (t : List (Event Q)) : Prop :=
  ∀ e ∈ t, ∀ table description ex, e ≠ .createTableArtifact table description (.error ex)

/-- A call in its first attempt, which has submitted at most one job. -/
inductive SingleJob (py : Builtins) (lib : ThirdParty Q) (sim : Simulator Q) (c : Call Q)
    (w : World Q) (t : List (Event Q)) : Status (RetryPoint (Await Q)) (Outcome Q) → Prop
  | checking (ht : t.filter isSubmission = []) :
      SingleJob py lib sim c w t (.suspended ⟨0, .checkResourceAvailable⟩)
  | submitting (ht : t.filter isSubmission = []) :
      SingleJob py lib sim c w t (.suspended ⟨0, .runPrimitive⟩)
  | watching {p : Await Q} {jobId : String} (ht : t.filter isSubmission = [c.submitted jobId])
      (hw : watched p = some jobId) : SingleJob py lib sim c w t (.suspended ⟨0, p⟩)
  | fetching {jobId : String} (ht : t.filter isSubmission = [c.submitted jobId])
      (hc : getJobStatus py jobId (w.entry jobId) = .ok (.str "COMPLETED")) :
      SingleJob py lib sim c w t (.suspended ⟨0, .getPrimitiveResult jobId⟩)
  | measuring {jobId : String} {result : PrimitiveResult Q}
      (ht : t.filter isSubmission = [c.submitted jobId])
      (hc : getJobStatus py jobId (w.entry jobId) = .ok (.str "COMPLETED"))
      (hr : (c.outcome sim jobId).result = .ok result)
      (hf : (c.outcome sim jobId).fate lib jobId = some (.ok (.primitiveResult result)))
      (ha : c.runtime.enableJobAnalytics = true) :
      SingleJob py lib sim c w t (.suspended ⟨0, .getJobMetrics jobId (.primitiveResult result)⟩)
  | storing {jobId : String} {table : PyDict} {value : Fetched Q}
      (ht : t.filter isSubmission = [c.submitted jobId])
      (hf : (c.outcome sim jobId).fate lib jobId = some (.ok value))
      (ha : c.runtime.enableJobAnalytics = true) :
      SingleJob py lib sim c w t (.suspended ⟨0, .createTableArtifact table value⟩)
  | ended {jobId : String} {o : Outcome Q} (ht : t.filter isSubmission = [c.submitted jobId])
      (hf : (c.outcome sim jobId).fate lib jobId = some o) :
      SingleJob py lib sim c w t (.finished o)

theorem checkResourceAvailable_eq (h : c.runtime.resourceName = resourceNAME) :
    checkResourceAvailable py c.runtime.resourceName = .ok (.bool true) := by
  rw [checkResourceAvailable, checkName, h]
  rfl

theorem Accepted.backendPrimitive (h : Accepted lib c) :
    backendPrimitive py lib c.client c.programType c.runtime.resourceName (c.options.getD []) =
      .ok c.primitive := by
  have hc : lib.construct ⟨c.programType, c.client.backend, c.options.getD []⟩ = .ok () :=
    h.construct
  rw [QiskitAer.backendPrimitive, checkName, h.name]
  simp only [hc]
  rfl

/-- An event that submits nothing. -/
theorem filter_snoc {e : Event Q} (he : isSubmission e = false) :
    (t ++ [e]).filter isSubmission = t.filter isSubmission := by
  rw [List.filter_append]
  simp [he]

/-- The metrics of an Aer job give a table whenever the result fits the blocs. -/
theorem analysable_of_matchesBlocs {primitiveBlocs : Pubs Q} {value : Fetched Q}
    (h : MatchesBlocs primitiveBlocs value) (created started finished : ℤ) :
    Analysable primitiveBlocs value ⟨.int 0, now created, now started, now finished⟩ where
  blocs := h
  queue := Or.inr (Or.inr ⟨_, _, rfl, rfl, rfl⟩)
  work := Or.inr (Or.inr ⟨_, _, rfl, rfl, rfl⟩)
  qpu := Or.inr (Or.inr (Or.inr (by decide +kernel : 0 < PyValue.floatOverflow)))
  created _ := ⟨_, rfl⟩
  started _ := ⟨_, rfl⟩
  completed _ := ⟨_, rfl⟩

section Steps

variable {jobId : String} {lives : Lives} {budget : ℕ} {retryable : PyException → Bool}

/-- The world may move on without the call. -/
theorem SingleJob.steps {st : Status (RetryPoint (Await Q)) (Outcome Q)}
    (h : SingleJob py lib sim c w t st) (htracks : Tracks lib sim w lives)
    (hs : Steps lib sim w w') : SingleJob py lib sim c w' t st := by
  have hkept : ∀ jobId, getJobStatus py jobId (w.entry jobId) = .ok (.str "COMPLETED") →
      getJobStatus py jobId (w'.entry jobId) = .ok (.str "COMPLETED") := by
    intro jobId hc
    obtain ⟨c, r, f, _, data, he, _, _⟩ := htracks.completed_entry hs hc
    rw [he, getJobStatus_record]
    rfl
  cases h with
  | checking ht => exact .checking ht
  | submitting ht => exact .submitting ht
  | watching ht hw => exact .watching ht hw
  | fetching ht hc => exact .fetching ht (hkept _ hc)
  | measuring ht hc hr hf ha => exact .measuring ht (hkept _ hc) hr hf ha
  | storing ht hf ha => exact .storing ht hf ha
  | ended ht hf => exact .ended ht hf

/-- A poll goes on watching, finds the job completed, or ends the call with the failure. -/
theorem singleJob_poll (ht : t.filter isSubmission = [c.submitted jobId])
    (ho : c.Owns w jobId) (htracks : Tracks lib sim w lives) :
    SingleJob py lib sim c w (t ++ [.getJobStatus jobId (getJobStatus py jobId (w.entry jobId))])
      (afterAttempt .checkResourceAvailable budget
        (fun ex => retryOnFailure (.error ex : Outcome Q)) 0
        (resume py c.args (.getJobStatus jobId) (getJobStatus py jobId (w.entry jobId)))) := by
  obtain ⟨st, phase, clock, hstage, _, hreport⟩ := ho.status htracks py
  have ht' : (t ++ [Event.getJobStatus jobId (getJobStatus py jobId (w.entry jobId))]).filter
      isSubmission = [c.submitted jobId] := (filter_snoc rfl).trans ht
  cases phase with
  | queued _ | running _ _ =>
    have hrun : SingleJob py lib sim c w _ (.suspended ⟨0, .sleep jobId⟩) := .watching ht' rfl
    rw [hreport] at hrun ⊢
    exact hrun
  | completed _ _ _ _ =>
    have hrun : SingleJob py lib sim c w _ (.suspended ⟨0, .getPrimitiveResult jobId⟩) :=
      .fetching ht' hreport
    rw [hreport] at hrun ⊢
    exact hrun
  | failed _ _ _ msg =>
    have hfate : (c.outcome sim jobId).fate lib jobId =
        some (.error (jobFailure jobId msg)) := by
      cases hstage with
      | failed hrun hx hm => rw [fate_raised hrun hx, reported_eq hm]
    have hend : afterAttempt .checkResourceAvailable budget
        (fun ex => retryOnFailure (.error ex : Outcome Q)) 0
        (.finished (.error (jobFailure jobId msg)) : AttemptStatus Q) =
        .finished (.error (jobFailure jobId msg)) := afterAttempt_not_retryable rfl
    have hrun : SingleJob py lib sim c w _ (.finished (.error (jobFailure jobId msg))) :=
      .ended ht' hfate
    rw [← hend, hreport] at hrun
    rw [hreport]
    exact hrun

/-- What is there to be read of a completed job. -/
theorem completed_fate (ho : c.Owns w jobId) (htracks : Tracks lib sim w lives)
    (hc : getJobStatus py jobId (w.entry jobId) = .ok (.str "COMPLETED")) :
    ∃ result created started finished, (c.outcome sim jobId).result = .ok result ∧
      (c.outcome sim jobId).fate lib jobId = some (.ok (.primitiveResult result)) ∧
      getPrimitiveResult lib jobId (w.entry jobId) = .ok (.primitiveResult result) ∧
      getJobMetrics jobId (w.entry jobId) =
        .ok ⟨.int 0, now created, now started, now finished⟩ := by
  obtain ⟨st, phase, clock, hstage, he, hreport⟩ := ho.status htracks py
  rw [hreport] at hc
  cases phase with
  | queued | running => simp [Phase.report] at hc
  | failed => cases hc
  | completed created started finished data =>
    cases hstage with
    | @completed _ _ _ result _ hrun hr hd =>
      rw [he]
      exact ⟨result, created, started, finished, hr, fate_completed hrun hr hd,
        getPrimitiveResult_completed hd jobId, getJobMetrics_completed ..⟩

/-- The result of the completed job is what its fate says. -/
theorem singleJob_fetch (ht : t.filter isSubmission = [c.submitted jobId])
    (ho : c.Owns w jobId) (htracks : Tracks lib sim w lives)
    (hc : getJobStatus py jobId (w.entry jobId) = .ok (.str "COMPLETED")) :
    SingleJob py lib sim c w
      (t ++ [.getPrimitiveResult jobId (getPrimitiveResult lib jobId (w.entry jobId))])
      (afterAttempt .checkResourceAvailable budget retryable 0
        (resume py c.args (.getPrimitiveResult jobId)
          (getPrimitiveResult lib jobId (w.entry jobId)))) := by
  obtain ⟨result, _, _, _, hr, hfate, hf, _⟩ := completed_fate ho htracks hc
  have ht' : (t ++ [Event.getPrimitiveResult jobId (.ok (.primitiveResult result))]).filter
      isSubmission = [c.submitted jobId] := (filter_snoc rfl).trans ht
  rw [hf]
  cases ha : c.runtime.enableJobAnalytics with
  | false =>
    have hs : resume py c.args (.getPrimitiveResult jobId) (.ok (.primitiveResult result)) =
        .finished (.ok (.primitiveResult result)) := if_neg (Bool.eq_false_iff.mp ha)
    rw [hs]
    exact .ended ht' hfate
  | true =>
    have hs : resume py c.args (.getPrimitiveResult jobId) (.ok (.primitiveResult result)) =
        .suspended (.getJobMetrics jobId (.primitiveResult result)) := if_pos ha
    rw [hs]
    exact .measuring ht' hc hr hfate ha

/-- The table of a completed job can be made. -/
theorem singleJob_measure {result : PrimitiveResult Q}
    (ht : t.filter isSubmission = [c.submitted jobId])
    (ho : c.Owns w jobId) (htracks : Tracks lib sim w lives)
    (hc : getJobStatus py jobId (w.entry jobId) = .ok (.str "COMPLETED"))
    (hf : (c.outcome sim jobId).fate lib jobId = some (.ok (.primitiveResult result)))
    (hfits : MatchesBlocs c.primitiveBlocs (.primitiveResult result))
    (ha : c.runtime.enableJobAnalytics = true) :
    SingleJob py lib sim c w (t ++ [.getJobMetrics jobId (getJobMetrics jobId (w.entry jobId))])
      (afterAttempt .checkResourceAvailable budget retryable 0
        (resume py c.args (.getJobMetrics jobId (.primitiveResult result))
          (getJobMetrics jobId (w.entry jobId)))) := by
  obtain ⟨_, created, started, finished, _, _, _, hm⟩ := completed_fate ho htracks hc
  rw [hm]
  have hs : ∃ table, resume py c.args (.getJobMetrics jobId (.primitiveResult result))
      (.ok ⟨.int 0, now created, now started, now finished⟩) =
        .suspended (.createTableArtifact table (.primitiveResult result)) := by
    rcases fetchMetrics_cases py c.args jobId (.primitiveResult result)
      ⟨.int 0, now created, now started, now finished⟩ with ⟨_, htable⟩ | ⟨hnot, _⟩
    · exact htable
    · exact absurd (analysable_of_matchesBlocs hfits created started finished) hnot
  obtain ⟨table, hs⟩ := hs
  rw [hs]
  exact .storing ((filter_snoc rfl).trans ht) hf ha

/-- An answer takes a call on with its one job. -/
theorem SingleJob.answer {p : RetryPoint (Await Q)} {reply : p.point.Reply}
    (h : SingleJob py lib sim c w t (.suspended p)) (haccepted : Accepted lib c)
    (hfits : Fits sim c) (ho : ∀ jobId, c.submitted jobId ∈ t → c.Owns w jobId)
    (htracks : Tracks lib sim w lives) (hs : Serves py lib c w p.point reply w')
    (hstored : c.runtime.enableJobAnalytics = true →
      Stored (t ++ [p.point.event c.args reply])) :
    SingleJob py lib sim c w' (t ++ [p.point.event c.args reply])
      ((c.task py).resume p reply) := by
  have hmem : ∀ {jobId}, t.filter isSubmission = [c.submitted jobId] →
      c.submitted jobId ∈ t := by
    intro jobId ht
    apply List.mem_of_mem_filter
    rw [ht]
    exact List.mem_singleton.mpr rfl
  obtain ⟨n, p⟩ := p
  have hresume : (c.task py).resume ⟨n, p⟩ reply =
      afterAttempt .checkResourceAvailable c.runtime.maxRetry
        (fun ex => retryOnFailure (.error ex : Outcome Q)) n (resume py c.args p reply) := rfl
  rw [hresume]
  cases h with
  | checking ht =>
    cases hs with
    | checkResourceAvailable =>
      rw [checkResourceAvailable_eq haccepted.name]
      exact .submitting ((filter_snoc rfl).trans ht)
  | submitting ht =>
    cases hs with
    | submitted hp hfresh =>
      apply SingleJob.watching _ rfl
      rw [List.filter_append, ht]
      rfl
    | rejected hp =>
      rw [haccepted.backendPrimitive] at hp
      cases hp
  | watching ht hw =>
    rcases watched_eq_some hw with rfl | rfl
    · cases hs with
      | getJobStatus => exact singleJob_poll ht (ho _ (hmem ht)) htracks
    · cases hs with
      | sleep => exact .watching ((filter_snoc rfl).trans ht) rfl
  | fetching ht hc =>
    cases hs with
    | getPrimitiveResult => exact singleJob_fetch ht (ho _ (hmem ht)) htracks hc
  | measuring ht hc hr hf ha =>
    cases hs with
    | getJobMetrics =>
      exact singleJob_measure ht (ho _ (hmem ht)) htracks hc hf (hfits ha _ _ hr) ha
  | storing ht hf ha =>
    cases hs with
    | createTableArtifact reply =>
      cases reply with
      | ok _ => exact .ended ((filter_snoc rfl).trans ht) hf
      | error ex =>
        have hrefused := hstored ha _ (List.mem_append_right t (List.mem_singleton.mpr rfl))
        exact absurd rfl (hrefused _ _ ex)

end Steps

section Runs

variable {ι : Type} [DecidableEq ι] {calls : ι → Call Q} {i : ι}

/-- Where the run of an accepted call stands. -/
theorem FairRun.singleJob (r : FairRun py lib sim calls) (haccepted : Accepted lib (calls i))
    (hfits : Fits sim (calls i))
    (hstored : (calls i).runtime.enableJobAnalytics = true →
      ∀ n, Stored ((r.state n).calls i).transcript) (n : ℕ) :
    SingleJob py lib sim (calls i) (r.state n).world ((r.state n).calls i).transcript
      ((r.state n).calls i).status := by
  induction n with
  | zero =>
    rw [r.start]
    exact .checking rfl
  | succ n ih =>
    obtain ⟨lives, ht⟩ := (r.invariant n).tracks
    rcases (r.step n).call_or_turn i with he | h
    · rw [he]
      exact ih.steps ht (r.step n).world_steps
    · have hlast := fun ha => hstored ha (n + 1)
      generalize r.state (n + 1) = s' at h hlast ⊢
      cases h with
      | answer hp hs =>
        rw [answer_calls_self] at hlast ⊢
        rw [hp] at ih
        exact ih.answer haccepted hfits ((r.invariant n).owns i) ht hs hlast

/-- The submissions of a call that has submitted a job. -/
theorem SingleJob.submissions {st : Status (RetryPoint (Await Q)) (Outcome Q)}
    (h : SingleJob py lib sim c w t st)
    (hrank : callRank c.runtime.maxRetry st < c.runtime.maxRetry * 6 + 5) :
    ∃ jobId, t.filter isSubmission = [c.submitted jobId] := by
  cases h with
  | checking _ | submitting _ => simp [callRank, awaitRank] at hrank
  | watching ht _ | fetching ht _ | measuring ht _ _ _ _ | storing ht _ _ | ended ht _ =>
    exact ⟨_, ht⟩

/-- An accepted call submits a job. -/
theorem FairRun.submits (r : FairRun py lib sim calls) (haccepted : Accepted lib (calls i))
    (hfits : Fits sim (calls i))
    (hstored : (calls i).runtime.enableJobAnalytics = true →
      ∀ n, Stored ((r.state n).calls i).transcript) :
    ∃ n jobId, ((r.state n).calls i).transcript.filter isSubmission =
      [(calls i).submitted jobId] := by
  have hsubmits : ∀ n, ((r.state n).calls i).status = .suspended ⟨0, .runPrimitive⟩ →
      ∃ m jobId, ((r.state m).calls i).transcript.filter isSubmission =
        [(calls i).submitted jobId] := by
    intro n hp
    obtain ⟨m, _, hlower⟩ := unwatched_leadsTo r rfl n hp
    obtain ⟨jobId, hj⟩ := (r.singleJob haccepted hfits hstored m).submissions hlower
    exact ⟨m, jobId, hj⟩
  have hp : ((r.state 0).calls i).status = .suspended ⟨0, .checkResourceAvailable⟩ := by
    rw [r.start]
    rfl
  obtain ⟨m, _, hlower⟩ := unwatched_leadsTo r rfl 0 hp
  have hsingle := r.singleJob haccepted hfits hstored m
  rw [Lower] at hlower
  generalize hst : ((r.state m).calls i).status = st at hsingle hlower
  cases hsingle with
  | checking _ => simp [callRank] at hlower
  | submitting _ => exact hsubmits m hst
  | watching ht _ | fetching ht _ | measuring ht _ _ _ _ | storing ht _ _ | ended ht _ =>
    exact ⟨m, _, ht⟩

/-- A submitted job is the only one. -/
theorem SingleJob.only {st : Status (RetryPoint (Await Q)) (Outcome Q)} {jobId : String}
    (h : SingleJob py lib sim c w t st) (hj : c.submitted jobId ∈ t) :
    t.filter isSubmission = [c.submitted jobId] := by
  have hmem : c.submitted jobId ∈ t.filter isSubmission := List.mem_filter.mpr ⟨hj, rfl⟩
  cases h with
  | checking ht | submitting ht =>
    rw [ht] at hmem
    cases hmem
  | watching ht _ | fetching ht _ | measuring ht _ _ _ _ | storing ht _ _ | ended ht _ =>
    rw [ht] at hmem ⊢
    rw [List.mem_singleton.mp hmem]

/-- The end of a call is the fate of its job. -/
theorem SingleJob.fate {o : Outcome Q} {jobId : String}
    (h : SingleJob py lib sim c w t (.finished o)) (hj : c.submitted jobId ∈ t) :
    (c.outcome sim jobId).fate lib jobId = some o := by
  have honly := h.only hj
  cases h with
  | ended ht hf =>
    rw [honly] at ht
    cases ht
    exact hf

/-- In every fair run a call that the client accepts submits exactly one job, and ends with
an outcome if and only if this outcome is the fate of the job. -/
theorem finished_iff_fate (py : Builtins) (lib : ThirdParty Q) (sim : Simulator Q)
    (calls : ι → Call Q) (r : FairRun py lib sim calls) (i : ι)
    (haccepted : Accepted lib (calls i)) (hfits : Fits sim (calls i))
    (hstored : (calls i).runtime.enableJobAnalytics = true →
      ∀ n, Stored ((r.state n).calls i).transcript) :
    ∃ jobId, (∃ n, ∀ m, n ≤ m → ((r.state m).calls i).transcript.filter isSubmission =
        [(calls i).submitted jobId]) ∧
      ∀ o, (∃ n, ((r.state n).calls i).status = .finished o) ↔
        ((calls i).outcome sim jobId).fate lib jobId = some o := by
  obtain ⟨n₀, jobId, hj⟩ := r.submits haccepted hfits hstored
  have hmem : ∀ n, n₀ ≤ n → (calls i).submitted jobId ∈ ((r.state n).calls i).transcript := by
    intro n hn
    apply r.transcript_mono i hn
    apply List.mem_of_mem_filter
    rw [hj]
    exact List.mem_singleton.mpr rfl
  have hsingle := r.singleJob haccepted hfits hstored
  have hfate : ∀ n o, ((r.state n).calls i).status = .finished o →
      ((calls i).outcome sim jobId).fate lib jobId = some o := by
    intro n o ho
    have hlast := hsingle (max n n₀)
    rw [r.finished_stable i ho (le_max_left n n₀)] at hlast
    exact hlast.fate (hmem _ (le_max_right n n₀))
  refine ⟨jobId, ⟨n₀, fun n hn => (hsingle n).only (hmem n hn)⟩, ?_⟩
  intro o
  constructor
  · intro h
    obtain ⟨n, ho⟩ := h
    exact hfate n o ho
  · intro hf
    have hcontained : ∀ n jobId', (calls i).submitted jobId' ∈
        ((r.state n).calls i).transcript →
          Contained lib ((calls i).outcome sim jobId') := by
      intro n jobId' hj'
      have hlast := (hsingle (max n n₀)).only (hmem _ (le_max_right n n₀))
      rw [(hsingle (max n n₀)).only (r.transcript_mono i (le_max_left n n₀) hj')] at hlast
      cases hlast
      exact contained_of_fate hf
    obtain ⟨n, _, o', ho⟩ := leadsTo_finished r i hcontained _ 0 rfl
    have ho' := hfate n o' ho
    rw [hf] at ho'
    cases ho'
    exact ⟨n, ho⟩

/-- The sampler call returns its result in any fair run beside the failing estimator call. -/
theorem finished_iff_fate_sample :
    ∃ r : FairRun .ascii sampleLib failingSimulator sampleCalls, r.clock = 7 ∧
      (∃ n, ((r.state n).calls true).status =
        .finished (.ok (.primitiveResult samplePrimitiveResult))) ∧
      ∃ n jobId, ((r.state n).calls true).transcript.filter isSubmission =
        [(sampleCalls true).submitted jobId] := by
  obtain ⟨r, hr⟩ := exists_fairRun .ascii sampleLib failingSimulator sampleCalls 7
  obtain ⟨jobId, ⟨n, hn⟩, hiff⟩ := finished_iff_fate .ascii sampleLib failingSimulator
    sampleCalls r true ⟨rfl, rfl⟩ (fun ha => by cases ha) (fun ha => by cases ha)
  exact ⟨r, hr, (hiff _).mpr rfl, n, jobId, hn n (le_refl n)⟩

end Runs

end PrefectQiskit.QiskitAer
