import PrefectQiskit.ClientContract
import PrefectQiskit.IbmClient

/-!
# The exception contract of the IBM Quantum Platform client

For each method the exact condition on arguments and environment under which a call keeps
the contract.
-/

namespace PrefectQiskit.IBMQuantum

variable {Q : Qiskit} (py : Builtins) (client : IBMQuantumPlatformClient) (lib : ThirdParty Q)

/-- The parameters among the options, when there are any, are a dictionary. -/
def UsableParams (payload : PyDict) : Prop :=
  ∀ v, payload.get? "params" = some v → ∃ d, v = .dict d

theorem paramsOf_ok {payload : PyDict} :
    (∃ params, paramsOf payload = .ok params) ↔ UsableParams payload := by
  rw [paramsOf, UsableParams]
  cases hv : Dict.get? payload "params" with
  | none => simp [pure, Except.pure]
  | some v =>
    cases v <;> simp [PyValue.copy, PyValue.update, PyValue.attributeError]

/-- The blocs are of the kind of the program and can be written out. -/
def Encodable : ProgramType → Pubs Q → Prop
  | .sampler, .sampler pubs =>
    ∀ pub ∈ pubs, ∃ v, lib.asArray pub.parameterValues pub.circuit = .ok v
  | .sampler, .estimator pubs => pubs = []
  | .estimator, .sampler pubs => pubs = []
  | .estimator, .estimator pubs => ∀ pub ∈ pubs,
    (∃ v, lib.observablesToList pub.observables = .ok v) ∧
      ∃ v, lib.asArray pub.parameterValues pub.circuit = .ok v

theorem samplerRow_ok {pub : SamplerPub Q} : (∃ row, samplerRow lib pub = .ok row) ↔
    ∃ v, lib.asArray pub.parameterValues pub.circuit = .ok v := by
  rw [samplerRow]
  cases lib.asArray pub.parameterValues pub.circuit <;> simp [pure, Except.pure]

theorem estimatorRow_ok {pub : EstimatorPub Q} : (∃ row, estimatorRow lib pub = .ok row) ↔
    (∃ v, lib.observablesToList pub.observables = .ok v) ∧
      ∃ v, lib.asArray pub.parameterValues pub.circuit = .ok v := by
  rw [estimatorRow]
  cases lib.observablesToList pub.observables <;>
    cases lib.asArray pub.parameterValues pub.circuit <;> simp [pure, Except.pure]

/-- A step that raises at every element lets only the empty list pass. -/
theorem mapM_raise_ok_iff {α β : Type} {f : α → Except PyException β} {xs : List α}
    (h : ∀ x y, f x ≠ .ok y) : (∃ ys, xs.mapM f = .ok ys) ↔ xs = [] := by
  rw [mapM_ok_iff]
  cases xs with
  | nil => simp
  | cons x xs => simp [h x]

theorem pubRows_ok (programId : ProgramType) (inputs : Pubs Q) :
    (∃ rows, pubRows lib programId inputs = .ok rows) ↔ Encodable lib programId inputs := by
  cases programId <;> cases inputs
  · simp only [pubRows, mapM_ok_iff, liftM_thirdParty_eq_ok, samplerRow_ok, Encodable]
  · refine mapM_raise_ok_iff fun pub row h => ?_
    obtain ⟨_, _, h⟩ := bind_eq_ok.mp h
    cases h
  · refine mapM_raise_ok_iff fun pub row h => ?_
    cases h
  · simp only [pubRows, mapM_ok_iff, liftM_thirdParty_eq_ok, estimatorRow_ok, Encodable]

/-- An object of timestamps, and a usage that is readable as a number when it is given. -/
def ReadableMetrics (ret : PyDict) : Prop :=
  (∃ timestamps, ret.get? "timestamps" = some (.dict timestamps)) ∧
    ∃ usage : PyDict, (ret.get? "usage").getD (.dict []) = .dict usage ∧
      ((usage.get? "quantum_seconds").getD .none).isOptionalFloat

theorem timestamp_ok {timestamps : PyValue} {key : String} {v : PyValue}
    (h : timestamp py timestamps key = .ok v) :
    (∃ d, timestamps = .dict d) ∧ v.isOptionalDatetime := by
  obtain ⟨x, hx, h⟩ := bind_eq_ok.mp h
  obtain ⟨d, hd, _⟩ := PyValue.get_ok.mp hx
  refine ⟨⟨d, hd⟩, ?_⟩
  cases x with
  | str s =>
    cases hp : py.fromisoformat s with
    | none =>
      simp only [hp] at h
      cases h
      rfl
    | some dt =>
      simp only [hp] at h
      cases h
      rfl
  | _ =>
    cases h
    rfl

theorem timestamp_dict (d : PyDict) (key : String) : ∃ v, timestamp py (.dict d) key = .ok v := by
  simp only [timestamp, PyValue.get_dict, ok_bind]
  cases (Dict.get? d key).getD .none with
  | str s =>
    simp only
    split
    · exact ⟨_, rfl⟩
    · exact ⟨_, rfl⟩
  | _ => exact ⟨_, rfl⟩

theorem jobMetricsOf_ok {ret : PyDict} :
    (∃ metrics, jobMetricsOf py ret = .ok metrics ∧ metrics.WellTyped) ↔ ReadableMetrics ret := by
  constructor
  · intro h
    obtain ⟨metrics, h, hm⟩ := h
    rw [jobMetricsOf] at h
    cases hts : Dict.get? ret "timestamps" with
    | none =>
      simp only [hts, pure_bind] at h
      obtain ⟨_, _, h⟩ := bind_eq_ok.mp h
      cases h
    | some timestamps =>
      simp only [hts, pure_bind] at h
      obtain ⟨created, hc, h⟩ := bind_eq_ok.mp h
      obtain ⟨running, hr, h⟩ := bind_eq_ok.mp h
      obtain ⟨finished, hf, h⟩ := bind_eq_ok.mp h
      obtain ⟨qpu, hq, h⟩ := bind_eq_ok.mp h
      obtain ⟨usage, hu, rfl⟩ := PyValue.get_ok.mp hq
      cases h
      obtain ⟨⟨d, rfl⟩, _⟩ := timestamp_ok py hc
      exact ⟨⟨d, hts⟩, usage, hu, hm.qpuUsage⟩
  · intro h
    obtain ⟨⟨d, hts⟩, usage, hu, hq⟩ := h
    obtain ⟨created, hc⟩ := timestamp_dict py d "created"
    obtain ⟨running, hr⟩ := timestamp_dict py d "running"
    obtain ⟨finished, hf⟩ := timestamp_dict py d "finished"
    refine ⟨⟨(Dict.get? usage "quantum_seconds").getD .none, created, running, finished⟩, ?_, ?_⟩
    · simp only [jobMetricsOf, hts, hc, hr, hf, hu, ok_bind, pure_bind, PyValue.get_dict]
      rfl
    · exact ⟨hq, (timestamp_ok py hc).2, (timestamp_ok py hr).2, (timestamp_ok py hf).2⟩

/-- What the platform answers to the requests of one call. -/
structure Environment where
  token : Except ThirdPartyError String
  json : Except HttpError PyDict
  properties : Except HttpError PyDict
  text : Except HttpError String

namespace Environment

variable (env : Environment)

def jsonExchange : Exchange PyDict := ⟨env.token, env.json⟩

def textExchange : Exchange String := ⟨env.token, env.text⟩

/-- `get_target` makes two requests one after the other. -/
def targetExchange : Exchange (PyDict × PyDict) :=
  ⟨env.token, do
    let configuration ← env.json
    let properties ← env.properties
    return (configuration, properties)⟩

end Environment

/-- The method of the client that a call names. -/
def answer (env : Environment) : MethodCall Q → Except PyException (Reply Q)
  | .checkResourceAvailable _ => .available <$> checkResourceAvailable py client env.jsonExchange
  | .getResources => .resources <$> getResources py client env.jsonExchange
  | .getTarget _ => (fun _ => .target) <$> getTarget py client lib env.targetExchange
  | .runPrimitive programId inputs resourceName options =>
    .jobId <$> runPrimitive py client lib programId inputs resourceName options env.jsonExchange
  | .getPrimitiveResult _ =>
    (fun result => .result (.primitiveResult result)) <$>
      getPrimitiveResult py client lib env.textExchange
  | .getJobStatus jobId => .status <$> getJobStatus py client jobId env.jsonExchange
  | .getJobMetrics _ => .metrics <$> getJobMetrics py client env.jsonExchange

end PrefectQiskit.IBMQuantum
