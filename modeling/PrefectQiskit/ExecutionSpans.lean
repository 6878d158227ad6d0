import PrefectQiskit.IbmContract
import PrefectQiskit.MetricsTable

/-!
# Execution spans of pub results

The platform reports a list of execution spans, each for a set of pubs, while the client hands
the spans out to the pub results by position. `SpansAssigned` is what the metadata and the
metrics table rely on; `WellPaired` says when the positions happen to be right.
-/

namespace PrefectQiskit.IBMQuantum

open JobAnalytics

variable {Q : Qiskit}

/-- An execution span with the indices of the pubs that it executed. -/
structure ExecutionSpan where
  start : PyValue
  stop : PyValue
  duration : PyValue
  pubs : List ℕ

def ExecutionSpan.times (span : ExecutionSpan) : PyValue × PyValue × PyValue :=
  (span.start, span.stop, span.duration)

/-- The metadata entry `v` carries the times of `span`. -/
def Describes (lib : ThirdParty Q) (v : PyValue) (span : ExecutionSpan) : Prop :=
  ∃ started completed, lib.isoformat span.start = .ok started ∧
    lib.isoformat span.stop = .ok completed ∧
    v = .dict [("timestamp_start", started), ("timestamp_completed", completed),
      ("duration", span.duration)]

/-- The metadata does not tell the two spans apart. -/
structure SameTimes (lib : ThirdParty Q) (span span' : ExecutionSpan) : Prop where
  start : lib.isoformat span.start = lib.isoformat span'.start
  stop : lib.isoformat span.stop = lib.isoformat span'.stop
  duration : span.duration = span'.duration

/-- `v` carries the times of a span that executed the pub with index `i`. -/
def DescribesPub (lib : ThirdParty Q) (spans : List ExecutionSpan) (i : ℕ) (v : PyValue) : Prop :=
  ∃ span ∈ spans, i ∈ span.pubs ∧ Describes lib v span

/-- The execution spans of a decoded result. Their truth value is that of a list. -/
def ReportsSpans (lib : ThirdParty Q) (results : PrimitiveResult Q) (spans : List ExecutionSpan) :
    Prop :=
  ∃ execution : PyDict, (results.metadata.get? "execution").getD (.dict []) = .dict execution ∧
    (((execution.get? "execution_spans").getD (.dict [])).truthy = true →
      lib.iterSpans ((execution.get? "execution_spans").getD (.dict [])) =
        .ok (spans.map ExecutionSpan.times)) ∧
    (((execution.get? "execution_spans").getD (.dict [])).truthy = false → spans = [])

/-! ## Pairing by position -/

/-- What the result at one position is after the pairing. -/
def PairedWith (lib : ThirdParty Q) (res res' : PubResult Q) : Option ExecutionSpan → Prop
  | some span => ∃ v, Describes lib v span ∧
    res' = { res with metadata := res.metadata.set "span" v }
  | none => res' = res

theorem addSpans_paired {lib : ThirdParty Q} {results results' : List (PubResult Q)}
    {spans : List ExecutionSpan}
    (h : addSpans lib results (spans.map ExecutionSpan.times) = .ok results') :
    results'.length = results.length ∧ ∀ (i : ℕ) (res : PubResult Q), results[i]? = some res →
      ∃ res', results'[i]? = some res' ∧ PairedWith lib res res' spans[i]? := by
  induction results generalizing spans results' with
  | nil =>
    cases spans <;> cases h <;> simp
  | cons res results ih =>
    cases spans with
    | nil =>
      cases h
      exact ⟨rfl, fun i res' hres' => ⟨res', hres', rfl⟩⟩
    | cons span spans =>
      obtain ⟨started, hstarted, h⟩ := bind_eq_ok.mp h
      obtain ⟨completed, hcompleted, h⟩ := bind_eq_ok.mp h
      obtain ⟨rest, hrest, h⟩ := bind_eq_ok.mp h
      obtain ⟨hlength, hpaired⟩ := ih hrest
      cases h
      refine ⟨by simp [hlength], fun i res' hres' => ?_⟩
      cases i with
      | zero =>
        cases hres'
        exact ⟨_, rfl, _, ⟨started, completed, hstarted, hcompleted, rfl⟩, rfl⟩
      | succ i => exact hpaired i res' hres'

theorem getPrimitiveResult_paired {py : Builtins} {client : IBMQuantumPlatformClient}
    {lib : ThirdParty Q} {token text : String} {results result : PrimitiveResult Q}
    {spans : List ExecutionSpan} (hdecode : lib.decode text = .ok results)
    (hspans : ReportsSpans lib results spans)
    (h : getPrimitiveResult py client lib ⟨.ok token, .ok text⟩ = .ok result) :
    result.pubResults.length = results.pubResults.length ∧
      ∀ (i : ℕ) (res : PubResult Q), results.pubResults[i]? = some res →
        ∃ res', result.pubResults[i]? = some res' ∧ PairedWith lib res res' spans[i]? := by
  obtain ⟨execution, hexecution, htrue, hfalse⟩ := hspans
  obtain ⟨ret, hret, h⟩ := bind_eq_ok.mp h
  cases hret
  obtain ⟨decoded, hdecoded, h⟩ := bind_eq_ok.mp h
  have heq : decoded = results := by
    have hok := liftM_thirdParty_eq_ok.mp hdecoded
    rw [hdecode] at hok
    exact (Except.ok.inj hok).symm
  subst heq
  obtain ⟨popped, hpop, h⟩ := bind_eq_ok.mp h
  obtain ⟨d, hd, rfl⟩ := PyValue.pop_ok.mp (liftM_builtin_eq_ok.mp hpop)
  have hexec : execution = d := by
    rw [hexecution] at hd
    exact PyValue.dict.inj hd
  subst hexec
  simp only at h
  split at h
  next htruth =>
    obtain ⟨times, htimes, h⟩ := bind_eq_ok.mp h
    obtain ⟨pubResults, hpubResults, h⟩ := bind_eq_ok.mp h
    have hlist := liftM_thirdParty_eq_ok.mp htimes
    rw [htrue htruth] at hlist
    rw [← Except.ok.inj hlist] at hpubResults
    rw [← Except.ok.inj h]
    exact addSpans_paired (liftM_thirdParty_eq_ok.mp hpubResults)
  next htruth =>
    rw [← Except.ok.inj h, hfalse (by simpa using htruth)]
    exact ⟨rfl, fun i res hres => ⟨res, hres, rfl⟩⟩

/-! ## When the spans go to the right pub -/

/-- The rows of the metrics table for the pub with index `i`. -/
structure RowsDescribe (lib : ThirdParty Q) (spans : List ExecutionSpan) (i : ℕ) (table : PyDict) :
    Prop where
  executed : (∃ span ∈ spans, i ∈ span.pubs) → ∃ span ∈ spans, i ∈ span.pubs ∧
    ∃ started completed, lib.isoformat span.start = .ok started ∧
      lib.isoformat span.stop = .ok completed ∧
      table.get? s!"pub[{i}].timestamp.started" = some started ∧
      table.get? s!"pub[{i}].timestamp.completed" = some completed ∧
      table.get? s!"pub[{i}].duration" = some span.duration
  idle : (∀ span ∈ spans, i ∉ span.pubs) →
    table.get? s!"pub[{i}].timestamp.started" = some .none ∧
      table.get? s!"pub[{i}].timestamp.completed" = some .none ∧
      table.get? s!"pub[{i}].duration" = some .none

/-- Every span entry is one of a span that executed the pub, every pub that was executed has
one, and the metrics table repeats them. -/
structure SpansAssigned (lib : ThirdParty Q) (spans : List ExecutionSpan)
    (result : PrimitiveResult Q) : Prop where
  sound : ∀ (i : ℕ) (res : PubResult Q) (v : PyValue), result.pubResults[i]? = some res →
    res.metadata.get? "span" = some v → DescribesPub lib spans i v
  complete : ∀ (i : ℕ) (res : PubResult Q), result.pubResults[i]? = some res →
    (∃ span ∈ spans, i ∈ span.pubs) → ∃ v, res.metadata.get? "span" = some v
  rows : ∀ (py : Builtins) (resourceName : String) (programType : ProgramType) (jobId : String)
    (tags : List String) (primitiveBlocs : Pubs Q) (metrics : JobMetrics)
    (options : Option PyDict) (table : PyDict),
    makeAnalytics py resourceName programType jobId tags primitiveBlocs
      (.primitiveResult result) metrics options = .ok table →
    ∀ i < result.pubResults.length, RowsDescribe lib spans i table

/-- The spans are in the order of the pubs, one for each as far as the metadata tells, and
entries that were there before the pairing are right where they are kept. -/
structure WellPaired (lib : ThirdParty Q) (spans : List ExecutionSpan)
    (results : PrimitiveResult Q) : Prop where
  paired : ∀ (i : ℕ) (span : ExecutionSpan), spans[i]? = some span →
    i < results.pubResults.length → ∃ span' ∈ spans, i ∈ span'.pubs ∧ SameTimes lib span' span
  reached : ∀ (i : ℕ) (res : PubResult Q), results.pubResults[i]? = some res →
    (∃ span ∈ spans, i ∈ span.pubs) →
    i < spans.length ∨ ∃ v, res.metadata.get? "span" = some v
  kept : ∀ (i : ℕ) (res : PubResult Q) (v : PyValue), spans.length ≤ i →
    results.pubResults[i]? = some res → res.metadata.get? "span" = some v →
    DescribesPub lib spans i v

theorem Describes.congr {lib : ThirdParty Q} {v : PyValue} {span span' : ExecutionSpan}
    (h : Describes lib v span) (hsame : SameTimes lib span' span) : Describes lib v span' := by
  obtain ⟨started, completed, hstarted, hcompleted, rfl⟩ := h
  refine ⟨started, completed, hsame.start.trans hstarted, hsame.stop.trans hcompleted, ?_⟩
  rw [hsame.duration]

theorem Describes.sameTimes {lib : ThirdParty Q} {v : PyValue} {span span' : ExecutionSpan}
    (h : Describes lib v span) (h' : Describes lib v span') : SameTimes lib span span' := by
  obtain ⟨started, completed, hstarted, hcompleted, rfl⟩ := h
  obtain ⟨started', completed', hstarted', hcompleted', heq⟩ := h'
  have hentries : started = started' ∧ completed = completed' ∧ span.duration = span'.duration := by
    simpa using heq
  exact ⟨hstarted.trans (hentries.1 ▸ hstarted'.symm),
    hcompleted.trans (hentries.2.1 ▸ hcompleted'.symm), hentries.2.2⟩

/-- With the right entries in the metadata the table has the right rows. -/
theorem rowsDescribe {lib : ThirdParty Q} {spans : List ExecutionSpan} {i : ℕ} {table : PyDict}
    {res : PubResult Q} {bloc : QuantumCircuit Q × List ℕ} {rows : PyDict}
    (hsound : ∀ v, res.metadata.get? "span" = some v → DescribesPub lib spans i v)
    (hcomplete : (∃ span ∈ spans, i ∈ span.pubs) → ∃ v, res.metadata.get? "span" = some v)
    (hrows : JobAnalytics.pubRows i bloc res.metadata = .ok rows)
    (htable : ∀ kv ∈ rows, table.get? kv.1 = some kv.2) : RowsDescribe lib spans i table := by
  obtain ⟨span, hspan, hstarted, hcompleted, hduration⟩ := pubRows_span hrows
  have hs := htable _ hstarted
  have hc := htable _ hcompleted
  have hd := htable _ hduration
  constructor
  · intro hexecuted
    obtain ⟨v, hv⟩ := hcomplete hexecuted
    obtain ⟨span', hmem, hi, started, completed, hok, hok', rfl⟩ := hsound v hv
    rw [hv] at hspan
    rw [← PyValue.dict.inj hspan] at hs hc hd
    exact ⟨span', hmem, hi, started, completed, hok, hok', hs, hc, hd⟩
  · intro hidle
    cases hv : res.metadata.get? "span" with
    | none =>
      rw [hv] at hspan
      rw [← PyValue.dict.inj hspan] at hs hc hd
      exact ⟨hs, hc, hd⟩
    | some v =>
      obtain ⟨span', hmem, hi, -⟩ := hsound v hv
      exact absurd hi (hidle span' hmem)

section Assignment

variable {py : Builtins} {client : IBMQuantumPlatformClient} {lib : ThirdParty Q}
  {token text : String} {results result : PrimitiveResult Q} {spans : List ExecutionSpan}

theorem wellPaired_of_assigned (hdecode : lib.decode text = .ok results)
    (hspans : ReportsSpans lib results spans)
    (h : getPrimitiveResult py client lib ⟨.ok token, .ok text⟩ = .ok result)
    (hassigned : SpansAssigned lib spans result) : WellPaired lib spans results := by
  obtain ⟨-, hpaired⟩ := getPrimitiveResult_paired hdecode hspans h
  constructor
  · intro i span hspan hi
    obtain ⟨res', hres', hp⟩ := hpaired i _ (List.getElem?_eq_getElem hi)
    rw [hspan] at hp
    obtain ⟨v, hv, rfl⟩ := hp
    have hget : (Dict.set results.pubResults[i].metadata "span" v).get? "span" = some v := by
      rw [Dict.get?_set, if_pos rfl]
    obtain ⟨span', hmem, hexecuted, hv'⟩ := hassigned.sound i _ v hres' hget
    exact ⟨span', hmem, hexecuted, hv'.sameTimes hv⟩
  · intro i res hres hexecuted
    obtain ⟨res', hres', hp⟩ := hpaired i res hres
    by_cases hi : i < spans.length
    · exact .inl hi
    · rw [List.getElem?_eq_none (by omega)] at hp
      cases hp
      exact .inr (hassigned.complete i res hres' hexecuted)
  · intro i res v hi hres hv
    obtain ⟨res', hres', hp⟩ := hpaired i res hres
    rw [List.getElem?_eq_none hi] at hp
    cases hp
    exact hassigned.sound i res v hres' hv

/-- The other way round: each result comes from the decoded one at its place. -/
theorem pubResult_paired (hdecode : lib.decode text = .ok results)
    (hspans : ReportsSpans lib results spans)
    (h : getPrimitiveResult py client lib ⟨.ok token, .ok text⟩ = .ok result) {i : ℕ}
    {res' : PubResult Q} (hres' : result.pubResults[i]? = some res') :
    ∃ res, results.pubResults[i]? = some res ∧ PairedWith lib res res' spans[i]? := by
  obtain ⟨hlength, hpaired⟩ := getPrimitiveResult_paired hdecode hspans h
  have hi : i < results.pubResults.length := by
    have hlt := (List.getElem?_eq_some_iff.1 hres').1
    omega
  have hres := List.getElem?_eq_getElem hi
  obtain ⟨res'', hres'', hp⟩ := hpaired i _ hres
  have heq : res'' = res' := Option.some.inj (hres''.symm.trans hres')
  exact ⟨_, hres, heq ▸ hp⟩

theorem WellPaired.sound (hpairing : WellPaired lib spans results) {i : ℕ} {res res' : PubResult Q}
    {v : PyValue} (hres : results.pubResults[i]? = some res)
    (hp : PairedWith lib res res' spans[i]?) (hv : res'.metadata.get? "span" = some v) :
    DescribesPub lib spans i v := by
  cases hspan : spans[i]? with
  | none =>
    rw [hspan] at hp
    cases hp
    exact hpairing.kept i _ v (List.getElem?_eq_none_iff.1 hspan) hres hv
  | some span =>
    rw [hspan] at hp
    obtain ⟨v', hv', rfl⟩ := hp
    rw [Dict.get?_set, if_pos rfl] at hv
    cases hv
    have hi := (List.getElem?_eq_some_iff.1 hres).1
    obtain ⟨span', hmem, hexecuted, hsame⟩ := hpairing.paired i span hspan hi
    exact ⟨span', hmem, hexecuted, hv'.congr hsame⟩

theorem WellPaired.complete (hpairing : WellPaired lib spans results) {i : ℕ}
    {res res' : PubResult Q} (hres : results.pubResults[i]? = some res)
    (hp : PairedWith lib res res' spans[i]?) (hexecuted : ∃ span ∈ spans, i ∈ span.pubs) :
    ∃ v, res'.metadata.get? "span" = some v := by
  cases hspan : spans[i]? with
  | none =>
    rw [hspan] at hp
    cases hp
    have hi : ¬i < spans.length := by
      have hle := List.getElem?_eq_none_iff.1 hspan
      omega
    exact (hpairing.reached i _ hres hexecuted).resolve_left hi
  | some span =>
    rw [hspan] at hp
    obtain ⟨v', -, rfl⟩ := hp
    exact ⟨v', by rw [Dict.get?_set, if_pos rfl]⟩

theorem assigned_of_wellPaired (hdecode : lib.decode text = .ok results)
    (hspans : ReportsSpans lib results spans)
    (h : getPrimitiveResult py client lib ⟨.ok token, .ok text⟩ = .ok result)
    (hpairing : WellPaired lib spans results) : SpansAssigned lib spans result := by
  have hsound : ∀ (i : ℕ) (res' : PubResult Q) (v : PyValue), result.pubResults[i]? = some res' →
      res'.metadata.get? "span" = some v → DescribesPub lib spans i v := by
    intro i res' v hres' hv
    obtain ⟨res, hres, hp⟩ := pubResult_paired hdecode hspans h hres'
    exact hpairing.sound hres hp hv
  have hcomplete : ∀ (i : ℕ) (res' : PubResult Q), result.pubResults[i]? = some res' →
      (∃ span ∈ spans, i ∈ span.pubs) → ∃ v, res'.metadata.get? "span" = some v := by
    intro i res' hres' hexecuted
    obtain ⟨res, hres, hp⟩ := pubResult_paired hdecode hspans h hres'
    exact hpairing.complete hres hp hexecuted
  refine ⟨hsound, hcomplete, ?_⟩
  intro py' resourceName programType jobId tags primitiveBlocs metrics options table htable i hi
  have hres := List.getElem?_eq_getElem hi
  obtain ⟨bloc, rows, hrows, hrow⟩ := makeAnalytics_row htable hres
  exact rowsDescribe (hsound i _ · hres) (hcomplete i _ hres) hrows hrow

/-- The pairing by position is right exactly for well-paired spans. -/
theorem getPrimitiveResult_spans_iff (hdecode : lib.decode text = .ok results)
    (hspans : ReportsSpans lib results spans)
    (h : getPrimitiveResult py client lib ⟨.ok token, .ok text⟩ = .ok result) :
    SpansAssigned lib spans result ↔ WellPaired lib spans results :=
  ⟨wellPaired_of_assigned hdecode hspans h, assigned_of_wellPaired hdecode hspans h⟩

end Assignment

section Sample

def spanStart (pub : ℕ) : PyValue := .datetime ⟨pub * 1000000, some 0⟩

/-- A span of the pub with index `pub`, which ran for half a second. -/
def sampleSpan (pub : ℕ) : ExecutionSpan :=
  ⟨spanStart pub, .datetime ⟨pub * 1000000 + 500000, some 0⟩, .float (.finite (1 / 2)), [pub]⟩

/-- Decoding yields two pub results, and the spans in the given order. -/
def spansLib (spans : List ExecutionSpan) : ThirdParty plainQiskit where
  Target := Unit
  asArray _ _ := .ok (.list [])
  observablesToList _ := .ok (.list [])
  circuitValue circuit := .object circuit.name true
  modelValidate _ _ := true
  dumps _ := .ok ""
  convertToTarget _ _ := .ok ()
  decode _ := .ok ⟨[⟨(), []⟩, ⟨(), []⟩],
    [("execution", .dict [("execution_spans", .object "ExecutionSpans" (!spans.isEmpty))])]⟩
  iterSpans _ := .ok (spans.map ExecutionSpan.times)
  isoformat
    | .datetime d => .ok (.str (toString d.wall))
    | _ => .error ⟨"AttributeError", none⟩

theorem spansLib_reports (spans : List ExecutionSpan) : ReportsSpans (spansLib spans)
    ⟨[⟨(), []⟩, ⟨(), []⟩],
      [("execution", .dict [("execution_spans", .object "ExecutionSpans" (!spans.isEmpty))])]⟩
    spans := by
  refine ⟨_, rfl, fun _ => rfl, fun htruth => ?_⟩
  simpa [PyValue.truthy] using htruth

/-- Spans in the order of the pubs. -/
theorem getPrimitiveResult_spans_ordered :
    SpansAssigned (spansLib [sampleSpan 0, sampleSpan 1]) [sampleSpan 0, sampleSpan 1]
      ⟨[⟨(), [("span", .dict [("timestamp_start", .str "0"), ("timestamp_completed", .str "500000"),
          ("duration", .float (.finite (1 / 2)))])]⟩,
        ⟨(), [("span", .dict [("timestamp_start", .str "1000000"),
          ("timestamp_completed", .str "1500000"), ("duration", .float (.finite (1 / 2)))])]⟩],
        []⟩ := by
  apply (getPrimitiveResult_spans_iff
    (show (spansLib [sampleSpan 0, sampleSpan 1]).decode "" = .ok _ from rfl)
    (spansLib_reports [sampleSpan 0, sampleSpan 1])
    (show getPrimitiveResult .ascii ⟨""⟩ (spansLib [sampleSpan 0, sampleSpan 1])
      ⟨.ok "token", .ok ""⟩ = .ok _ from rfl)).mpr
  constructor
  · intro i span hspan hi
    refine ⟨span, List.mem_of_getElem? hspan, ?_, rfl, rfl, rfl⟩
    match i, hi with
    | 0, _ =>
      cases hspan
      simp [sampleSpan]
    | 1, _ =>
      cases hspan
      simp [sampleSpan]
  · intro i res hres _
    exact .inl (List.getElem?_eq_some_iff.1 hres).1
  · intro i res v hi hres _
    have hlt := (List.getElem?_eq_some_iff.1 hres).1
    exact absurd hlt (Nat.not_lt.2 hi)

/-- Spans in the opposite order go to the wrong pubs. -/
theorem not_getPrimitiveResult_spans_assigned :
    ¬∀ (py : Builtins) (client : IBMQuantumPlatformClient) (lib : ThirdParty plainQiskit)
      (token text : String) (results result : PrimitiveResult plainQiskit)
      (spans : List ExecutionSpan), lib.decode text = .ok results →
      ReportsSpans lib results spans →
      getPrimitiveResult py client lib ⟨.ok token, .ok text⟩ = .ok result →
        SpansAssigned lib spans result := by
  intro h
  have hassigned := h .ascii ⟨""⟩ (spansLib [sampleSpan 1, sampleSpan 0]) "token" "" _ _
    [sampleSpan 1, sampleSpan 0] rfl (spansLib_reports _) rfl
  obtain ⟨span, hmem, hexecuted, hv⟩ := hassigned.sound 0 _ _ rfl rfl
  have hspan : span = sampleSpan 0 := by
    have hcases : span = sampleSpan 1 ∨ span = sampleSpan 0 := by simpa using hmem
    rcases hcases with rfl | rfl
    · simp [sampleSpan] at hexecuted
    · rfl
  subst hspan
  obtain ⟨started, completed, hstarted, -, heq⟩ := hv
  cases heq
  exact absurd (PyValue.str.inj (Except.ok.inj hstarted)) (by decide)

end Sample

end PrefectQiskit.IBMQuantum
