import PrefectQiskit.IbmContract

/-!
# Partial job metrics of the IBM platform

The metrics response may lack any of its parts. `degradedMetrics` says what is left of it when
every unusable entry is given up on its own; `get_job_metrics` agrees with it as long as the
two objects around the entries are there.
-/

namespace PrefectQiskit.IBMQuantum

variable (py : Builtins)

/-- The entry of the object under `outer`, when there is such an object. -/
def entryOf (ret : PyDict) (outer key : String) : Option PyValue :=
  match ret.get? outer with
  | some (.dict d) => Dict.get? d key
  | _ => none

/-- A string in a known format gives a timestamp, anything else gives none. -/
def parsedTimestamp : Option PyValue → PyValue
  | some (.str s) => ((py.fromisoformat s).map PyValue.datetime).getD .none
  | _ => .none

/-- Each field is read off its own entry, whatever the others are. -/
def degradedMetrics (ret : PyDict) : JobMetrics where
  qpuUsage := (entryOf ret "usage" "quantum_seconds").getD .none
  timestampCreated := parsedTimestamp py (entryOf ret "timestamps" "created")
  timestampStarted := parsedTimestamp py (entryOf ret "timestamps" "running")
  timestampCompleted := parsedTimestamp py (entryOf ret "timestamps" "finished")

/-- A missing value, null, or an object. -/
def MissingNullOrObject (entry : Option PyValue) : Prop :=
  entry = none ∨ entry = some .none ∨ ∃ d, entry = some (.dict d)

/-- A missing value, null, or a number. -/
def MissingNullOrNumber (entry : Option PyValue) : Prop :=
  entry = none ∨ entry = some .none ∨ (∃ n, entry = some (.int n)) ∨ ∃ x, entry = some (.float x)

/-- The responses of the metrics endpoint. The entries of the timestamps are unrestricted. -/
structure MetricsResponse (ret : PyDict) : Prop where
  timestamps : MissingNullOrObject (ret.get? "timestamps")
  usage : MissingNullOrObject (ret.get? "usage")
  quantumSeconds : MissingNullOrNumber (entryOf ret "usage" "quantum_seconds")

theorem timestamp_eq_parsed (d : PyDict) (key : String) :
    timestamp py (.dict d) key = .ok (parsedTimestamp py (d.get? key)) := by
  simp only [timestamp, PyValue.get_dict, ok_bind]
  cases hentry : d.get? key with
  | none => rfl
  | some v =>
    cases v with
    | str s =>
      simp only [parsedTimestamp, Option.getD_some]
      cases py.fromisoformat s <;> rfl
    | _ => rfl

theorem usage_eq_entry {ret : PyDict} (h : MissingNullOrObject (ret.get? "usage"))
    (hnull : ret.get? "usage" ≠ some .none) :
    ((ret.get? "usage").getD (.dict [])).get "quantum_seconds" .none =
      .ok ((entryOf ret "usage" "quantum_seconds").getD .none) := by
  rcases h with h | h | ⟨d, h⟩
  · rw [entryOf, h]
    rfl
  · exact absurd h hnull
  · rw [entryOf, h]
    rfl

theorem parsedTimestamp_isOptionalDatetime (entry : Option PyValue) :
    (parsedTimestamp py entry).isOptionalDatetime := by
  cases entry with
  | none => rfl
  | some v =>
    cases v with
    | str s =>
      rw [parsedTimestamp]
      cases py.fromisoformat s <;> rfl
    | _ => rfl

theorem degradedMetrics_wellTyped {ret : PyDict} (h : MetricsResponse ret) :
    (degradedMetrics py ret).WellTyped where
  qpuUsage := by
    have hentry := h.quantumSeconds
    rw [degradedMetrics]
    rcases hentry with hentry | hentry | ⟨n, hentry⟩ | ⟨x, hentry⟩ <;> rw [hentry] <;> rfl
  timestampCreated := parsedTimestamp_isOptionalDatetime py _
  timestampStarted := parsedTimestamp_isOptionalDatetime py _
  timestampCompleted := parsedTimestamp_isOptionalDatetime py _

/-- Everything the method needs of a response is the object with the timestamps and a usage
that is not null. -/
theorem jobMetricsOf_eq_degraded {ret : PyDict} (h : MetricsResponse ret) :
    jobMetricsOf py ret = .ok (degradedMetrics py ret) ↔
      (∃ d, ret.get? "timestamps" = some (.dict d)) ∧ ret.get? "usage" ≠ some .none := by
  constructor
  · intro hok
    obtain ⟨⟨d, hd⟩, usage, husage, -⟩ :=
      (jobMetricsOf_ok py).mp ⟨_, hok, degradedMetrics_wellTyped py h⟩
    refine ⟨⟨d, hd⟩, fun hnull => ?_⟩
    rw [hnull] at husage
    cases husage
  · intro hparts
    obtain ⟨⟨d, hd⟩, husage⟩ := hparts
    have hentry : ∀ key, entryOf ret "timestamps" key = Dict.get? d key := by
      intro key
      rw [entryOf, hd]
    simp only [jobMetricsOf, hd, timestamp_eq_parsed, usage_eq_entry h.usage husage, ok_bind,
      pure_bind, degradedMetrics, hentry]
    rfl

/-- The metrics degrade entry by entry exactly when the response has an object with the
timestamps, be it empty, and no null usage. -/
theorem getJobMetrics_degrades_iff (client : IBMQuantumPlatformClient) (token : String)
    (ret : PyDict) (h : MetricsResponse ret) :
    getJobMetrics py client ⟨.ok token, .ok ret⟩ = .ok (degradedMetrics py ret) ↔
      (∃ d, ret.get? "timestamps" = some (.dict d)) ∧ ret.get? "usage" ≠ some .none := by
  have hcast : getJobMetrics py client ⟨.ok token, .ok ret⟩ =
      (liftM (jobMetricsOf py ret) : Except PyException JobMetrics) := rfl
  rw [hcast, ← jobMetricsOf_eq_degraded py h]
  cases jobMetricsOf py ret <;> simp

/-- Conversions that know one timestamp. -/
def newYear : Builtins :=
  { Builtins.ascii with
    fromisoformat := fun s =>
      if s = "2024-01-01T00:00:00Z" then some ⟨1704067200000000, some 0⟩ else none }

/-- One timestamp is in order, one is malformed, one is missing. -/
def mixedTimestamps : PyDict :=
  [("timestamps", .dict [("created", .str "yesterday"), ("running", .str "2024-01-01T00:00:00Z")]),
    ("usage", .dict [("quantum_seconds", .int 2)])]

theorem mixedTimestamps_response : MetricsResponse mixedTimestamps where
  timestamps := Or.inr (Or.inr ⟨_, rfl⟩)
  usage := Or.inr (Or.inr ⟨_, rfl⟩)
  quantumSeconds := Or.inr (Or.inr (Or.inl ⟨2, rfl⟩))

theorem getJobMetrics_degrades_mixed :
    getJobMetrics newYear ⟨"https://quantum.cloud.ibm.com/api/v1/"⟩
        ⟨.ok "token", .ok mixedTimestamps⟩ =
      .ok ⟨.int 2, .none, .datetime ⟨1704067200000000, some 0⟩, .none⟩ :=
  (getJobMetrics_degrades_iff newYear ⟨"https://quantum.cloud.ibm.com/api/v1/"⟩ "token"
    mixedTimestamps mixedTimestamps_response).mpr ⟨⟨_, rfl⟩, by simp [mixedTimestamps]⟩

/-- A response without timestamps. -/
theorem not_getJobMetrics_degrades :
    ¬∀ (py : Builtins) (client : IBMQuantumPlatformClient) (token : String) (ret : PyDict),
      MetricsResponse ret →
        getJobMetrics py client ⟨.ok token, .ok ret⟩ = .ok (degradedMetrics py ret) := by
  intro h
  have hret : MetricsResponse [("usage", .dict [("quantum_seconds", .int 2)])] :=
    ⟨Or.inl rfl, Or.inr (Or.inr ⟨_, rfl⟩), Or.inr (Or.inr (Or.inl ⟨2, rfl⟩))⟩
  cases h .ascii ⟨"https://quantum.cloud.ibm.com/api/v1/"⟩ "token" _ hret

end PrefectQiskit.IBMQuantum
