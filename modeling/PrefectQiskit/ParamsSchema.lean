import PrefectQiskit.IbmWire
import PrefectQiskit.Schema

/-!
# The schemas of job parameters

The vendored models that `run_primitive` validates parameters against. What their leaves accept
is left to the validation library. The blocs and the entries that `run_primitive` sets itself are
always accepted, so only declared entries of the user can be the reason for a rejection.
-/

namespace PrefectQiskit.IBMQuantum

open Schema

/-- The leaf types of the models. -/
inductive LeafType where
  | bool
  | int
  | conint (ge : ℤ)
  | float
  | confloat (ge : ℚ)
  | positiveFloat
  | enum (values : List PyValue)

namespace Models

abbrev Field := String × Bool × Schema LeafType

/-- `name: type | None = None` -/
def opt (name : String) (type : Schema LeafType) : Field := (name, false, .optional type)

def stringEnum (values : List String) : Schema LeafType := .leaf (.enum (values.map .str))

def bool : Schema LeafType := .leaf .bool

def int : Schema LeafType := .leaf .int

def conint (ge : ℤ) : Schema LeafType := .leaf (.conint ge)

def float : Schema LeafType := .leaf .float

def positiveFloat : Schema LeafType := .leaf .positiveFloat

def sequenceType : Schema LeafType := stringEnum ["XX", "XpXm", "XY4"]

def extraSlackDistribution : Schema LeafType := stringEnum ["middle", "edges"]

def schedulingMethod : Schema LeafType := stringEnum ["alap", "asap"]

def dynamicalDecouplingFields : List Field :=
  [opt "enable" bool, opt "sequence_type" sequenceType,
    opt "extra_slack_distribution" extraSlackDistribution,
    opt "scheduling_method" schedulingMethod]

def dynamicalDecoupling : Schema LeafType := .model "DynamicalDecoupling" dynamicalDecouplingFields

def measType : Schema LeafType := stringEnum ["classified", "kerneled", "avg_kerneled"]

def execution : Schema LeafType := .model "Execution"
  [opt "init_qubits" bool, opt "rep_delay" float, opt "meas_type" measType]

def options : Schema LeafType := .model "Options"
  [opt "default_shots" int, opt "dynamical_decoupling" dynamicalDecoupling,
    opt "execution" execution]

def version : Schema LeafType := .leaf (.enum [.int 2])

/-- `pubs: list[list]` -/
def pubs : Field := ("pubs", true, .listOf (.listOf .any))

def samplerV2Schema : Schema LeafType := .model "SamplerV2Schema"
  [pubs, opt "options" options, opt "shots" int, opt "support_qiskit" bool, opt "version" version]

def dynamicalDecoupling1 : Schema LeafType :=
  .model "DynamicalDecoupling1" dynamicalDecouplingFields

def optimizationLevel : Schema LeafType := .leaf (.enum [.int 0, .int 1])

def transpilation : Schema LeafType := .model "Transpilation"
  [opt "optimization_level" optimizationLevel]

def shotsPerRandomization : Schema LeafType := stringEnum ["auto"]

def measureNoiseLearning : Schema LeafType := .model "MeasureNoiseLearning"
  [opt "num_randomizations" (conint 1),
    opt "shots_per_randomization" (.either (conint 1) shotsPerRandomization)]

def extrapolators : List String :=
  ["linear", "exponential", "double_exponential", "polynomial_degree_1", "polynomial_degree_2",
    "polynomial_degree_3", "polynomial_degree_4", "polynomial_degree_5", "polynomial_degree_6",
    "polynomial_degree_7"]

def extrapolatorEnum : Schema LeafType := stringEnum extrapolators

def extrapolator : Schema LeafType := stringEnum extrapolators

def zne : Schema LeafType := .model "Zne"
  [opt "noise_factors" (.listOf float),
    opt "extrapolator" (.either (.listOf extrapolatorEnum) extrapolator)]

def noiseGain : Schema LeafType := stringEnum ["auto"]

def pec : Schema LeafType := .model "Pec"
  [opt "max_overhead" positiveFloat,
    opt "noise_gain" (.either (.leaf (.confloat 0)) noiseGain)]

def layerNoiseLearning : Schema LeafType := .model "LayerNoiseLearning"
  [opt "max_layers_to_learn" (conint 0), opt "shots_per_randomization" (conint 1),
    opt "num_randomizations" (conint 1), opt "layer_pair_depths" (.listOf (conint 0))]

def resilience : Schema LeafType := .model "Resilience"
  [opt "measure_mitigation" bool, opt "measure_noise_learning" measureNoiseLearning,
    opt "zne_mitigation" bool, opt "zne" zne, opt "pec_mitigation" bool, opt "pec" pec,
    opt "layer_noise_learning" layerNoiseLearning]

def execution1 : Schema LeafType := .model "Execution1"
  [opt "init_qubits" bool, opt "rep_delay" float]

def numRandomizations : Schema LeafType := stringEnum ["auto"]

def strategy : Schema LeafType := stringEnum ["active", "active-circuit", "active-accum", "all"]

def twirling : Schema LeafType := .model "Twirling"
  [opt "enable_gates" bool, opt "enable_measure" bool,
    opt "num_randomizations" (.either (conint 1) numRandomizations),
    opt "shots_per_randomization" (.either (conint 1) shotsPerRandomization),
    opt "strategy" strategy]

def options1 : Schema LeafType := .model "Options1"
  [opt "seed_estimator" int, opt "default_precision" positiveFloat,
    opt "default_shots" (conint 0), opt "dynamical_decoupling" dynamicalDecoupling1,
    opt "transpilation" transpilation, opt "resilience" resilience, opt "execution" execution1,
    opt "twirling" twirling]

def resilienceLevel : Schema LeafType := .leaf (.enum [.int 0, .int 1, .int 2])

def estimatorV2Schema : Schema LeafType := .model "EstimatorV2Schema"
  [pubs, opt "options" options1, opt "resilience_level" resilienceLevel, opt "precision" float,
    opt "support_qiskit" bool, opt "version" version]

def paramsSchema : ProgramType → Schema LeafType
  | .sampler => samplerV2Schema
  | .estimator => estimatorV2Schema

/-- The declared entries that `run_primitive` does not set itself. -/
def userFields : ProgramType → List Field
  | .sampler => [opt "options" options, opt "shots" int]
  | .estimator =>
    [opt "options" options1, opt "resilience_level" resilienceLevel, opt "precision" float]

def systemFields : List Field := [opt "support_qiskit" bool, opt "version" version]

end Models

/-- The validation library, with what it documents of booleans and of the members of an
enumeration. -/
structure Pydantic where
  accepts : LeafType → PyValue → Bool
  /-- The items of a collection that is neither a list nor a tuple. -/
  iterate : PyValue → Option (List PyValue)
  isInstance : String → PyValue → Bool
  accepts_bool : ∀ b, accepts .bool (.bool b) = true
  accepts_enum : ∀ values, ∀ v ∈ values, accepts (.enum values) v = true

namespace Pydantic

variable (pydantic : Pydantic)

def items : PyValue → Option (List PyValue)
  | .list xs | .tuple xs => some xs
  | v => pydantic.iterate v

def entries : PyValue → Option (String → Option PyValue)
  | .dict d => some (Dict.get? d)
  | _ => none

def reading : Reading LeafType PyValue where
  accepts := pydantic.accepts
  isNone := PyValue.isNone
  items := pydantic.items
  entries := entries
  isInstance := pydantic.isInstance

end Pydantic

open Models

variable {Q : Qiskit} {pydantic : Pydantic} {py : Builtins} {lib : ThirdParty Q}

theorem validate_opt {name : String} {type : Schema LeafType} {v : PyValue}
    (h : validate pydantic.reading type v = true) :
    validate pydantic.reading (opt name type).2.2 v = true := by
  rw [opt, validate, h, Bool.or_true]

/-- What `run_primitive` sets itself is accepted. -/
structure SystemEntries (params : PyDict) (rows : List PyValue) : Prop where
  lists : ∀ row ∈ rows, ∃ xs, row = .list xs
  pubs : params.get? "pubs" = some (.list rows)
  supportQiskit : params.get? "support_qiskit" = some (.bool true)
  version : params.get? "version" = some (.int 2)

theorem validate_pubs {rows : List PyValue} (h : ∀ row ∈ rows, ∃ xs, row = .list xs) :
    validate pydantic.reading pubs.2.2 (.list rows) = true := by
  rw [pubs, validate]
  have hitems : pydantic.reading.items (.list rows) = some rows := rfl
  rw [hitems, List.all_eq_true]
  intro row hrow
  obtain ⟨xs, rfl⟩ := h row hrow
  rw [validate]
  have hrow' : pydantic.reading.items (.list xs) = some xs := rfl
  rw [hrow', List.all_eq_true]
  intro x _
  rw [validate]

theorem validate_bool (b : Bool) : validate pydantic.reading bool (.bool b) = true := by
  rw [Models.bool, validate]
  exact pydantic.accepts_bool b

theorem validate_version : validate pydantic.reading version (.int 2) = true := by
  rw [version, validate]
  exact pydantic.accepts_enum _ _ List.mem_cons_self

/-- Only the entries of the user decide. -/
theorem validate_paramsSchema {params : PyDict} {rows : List PyValue}
    (h : SystemEntries params rows) (programId : ProgramType) :
    validate pydantic.reading (paramsSchema programId) (.dict params) =
      validateFields pydantic.reading (userFields programId) params.get? := by
  have hmodel : ∃ name, paramsSchema programId =
      .model name (pubs :: (userFields programId ++ systemFields)) := by
    cases programId with
    | sampler => exact ⟨"SamplerV2Schema", rfl⟩
    | estimator => exact ⟨"EstimatorV2Schema", rfl⟩
  obtain ⟨name, hmodel⟩ := hmodel
  have hentries : pydantic.reading.entries (.dict params) = some params.get? := rfl
  have hsystem : validateFields pydantic.reading systemFields params.get? = true := by
    rw [systemFields, validateFields_cons_of_validate h.supportQiskit
      (validate_opt (validate_bool true)), validateFields_cons_of_validate h.version
        (validate_opt validate_version), validateFields]
  rw [hmodel, validate]
  simp only [hentries]
  rw [validateFields_cons_of_validate h.pubs (validate_pubs h.lists), validateFields_append, hsystem,
    Bool.and_true]

theorem lists_of_forall₂ {α : Type} {encodes : α → PyValue → Prop} {pubs : List α}
    {rows : List PyValue} (h : List.Forall₂ encodes pubs rows)
    (hlist : ∀ pub row, encodes pub row → ∃ xs, row = .list xs) :
    ∀ row ∈ rows, ∃ xs, row = .list xs := by
  induction h with
  | nil => simp
  | cons hrow _ ih => exact List.forall_mem_cons.2 ⟨hlist _ _ hrow, ih⟩

/-- Each bloc is written out as a list. -/
theorem EncodedPubs.lists {inputs : Pubs Q} {rows : List PyValue} {programId : ProgramType}
    (h : EncodedPubs lib programId inputs rows) : ∀ row ∈ rows, ∃ xs, row = .list xs := by
  cases programId with
  | sampler =>
    cases inputs with
    | sampler pubs =>
      apply lists_of_forall₂ h
      intro pub row hrow
      obtain ⟨array, -, rfl⟩ := hrow
      exact ⟨_, rfl⟩
    | estimator pubs => simp [h.2]
  | estimator =>
    cases inputs with
    | sampler pubs => simp [h.2]
    | estimator pubs =>
      apply lists_of_forall₂ h
      intro pub row hrow
      obtain ⟨observables, array, -, -, rfl⟩ := hrow
      exact ⟨_, rfl⟩

/-- The schema is the vendored one, and the library is the one that checks it. -/
def Vendored (lib : ThirdParty Q) (pydantic : Pydantic) : Prop :=
  ∀ programId params, lib.modelValidate programId params =
    validate pydantic.reading (paramsSchema programId) (.dict params)

variable {programId : ProgramType} {inputs : Pubs Q} {resourceName : String} {options : PyDict}

theorem systemEntries_prepared (hkeys : options.keys.Nodup) {params : PyDict}
    {rows : List PyValue} (hparams : paramsOf (basePayload resourceName options) = .ok params)
    (hrows : pubRows lib programId inputs = .ok rows) :
    SystemEntries (params.set "pubs" (.list rows)) rows := by
  have hget := get?_paramsOf hkeys hparams
  refine ⟨(pubRows_encoded hrows).lists, ?_, ?_, ?_⟩
  · rw [Dict.get?_set, if_pos rfl]
  · rw [Dict.get?_set, if_neg (by decide), hget]
    rfl
  · rw [Dict.get?_set, if_neg (by decide), hget]
    rfl

/-- The entries of the user reach the validation as they are. -/
theorem get?_userFields (hkeys : options.keys.Nodup) {params : PyDict} (rows : List PyValue)
    (hparams : paramsOf (basePayload resourceName options) = .ok params) :
    ∀ field ∈ userFields programId,
      (params.set "pubs" (.list rows)).get? field.1 = (optionParams options).get? field.1 := by
  intro field hfield
  have hne : ∀ field ∈ userFields programId,
      "pubs" ≠ field.1 ∧ "version" ≠ field.1 ∧ "support_qiskit" ≠ field.1 := by
    cases programId <;> decide
  obtain ⟨hpubs, hversion, hsupport⟩ := hne field hfield
  rw [Dict.get?_set, if_neg hpubs, get?_paramsOf hkeys hparams, if_neg hversion, if_neg hsupport]

/-- No entry of the user is required. -/
theorem fieldViolates_userFields {get : String → Option PyValue} :
    (∃ field ∈ userFields programId, ∃ path, FieldViolates pydantic.reading get path field) ↔
      ∃ field ∈ userFields programId, ∃ v path, get field.1 = some v ∧
        Violates pydantic.reading field.2.2 v path := by
  have hoptional : ∀ field ∈ userFields programId, field.2.1 = false := by
    cases programId <;> decide
  constructor
  · intro h
    obtain ⟨field, hfield, path, ⟨-, hrequired, -⟩ | ⟨v, hv, hpath⟩⟩ := h
    · rw [hoptional field hfield] at hrequired
      cases hrequired
    · exact ⟨field, hfield, v, path, hv, hpath⟩
  · intro h
    obtain ⟨field, hfield, v, path, hv, hpath⟩ := h
    exact ⟨field, hfield, path, .inr ⟨v, hv, hpath⟩⟩

/-- A submission is rejected exactly when a declared entry among the parameters of the user breaks
its schema at some path, whatever the blocs, the resource and the other options are. -/
theorem submissionData_rejected_iff (hlib : Vendored lib pydantic) (hkeys : options.keys.Nodup)
    (hparams : UsableParams (basePayload resourceName options))
    (hinputs : Encodable lib programId inputs) :
    submissionData py lib programId inputs resourceName options = raiseFailure py
        { reason := "Primitive input doesn't match the data schema for Runtime REST API."
          retry := false } ↔
      ∃ field ∈ userFields programId, ∃ v path, (optionParams options).get? field.1 = some v ∧
        Violates pydantic.reading field.2.2 v path := by
  obtain ⟨params, hparams⟩ := paramsOf_ok.mpr hparams
  obtain ⟨rows, hrows⟩ := (pubRows_ok lib programId inputs).mpr hinputs
  have hvalidate : lib.modelValidate programId (params.set "pubs" (.list rows)) =
      validateFields pydantic.reading (userFields programId) (optionParams options).get? := by
    rw [hlib, validate_paramsSchema (systemEntries_prepared hkeys hparams hrows)]
    exact validateFields_congr (get?_userFields hkeys rows hparams)
  rw [← fieldViolates_userFields, ← validateFields_eq_false_iff, ← hvalidate, submissionData,
    hparams, hrows]
  simp only [liftM_builtin_ok, ok_bind]
  cases lib.modelValidate programId (params.set "pubs" (.list rows)) with
  | false => simp
  | true =>
    constructor
    · intro h
      cases hdumps : lib.dumps (requestPayload programId (basePayload resourceName options)
          (params.set "pubs" (.list rows))) with
      | ok data =>
        rw [hdumps] at h
        cases h
      | error e =>
        rw [hdumps] at h
        cases h
    · intro h
      cases h

section Sample

def plainNumber : PyValue → Option ℚ
  | .bool b => some (if b then 1 else 0)
  | .int n => some n
  | .float (.finite q) => some q
  | _ => none

/-- Booleans and finite numbers count for each other, as far as no digit is lost. The library also
reads texts that hold a number, infinities and NaN, which do not occur in the samples. -/
def plainAccepts : LeafType → PyValue → Bool
  | .bool, v => (plainNumber v).any fun q => q = 0 || q = 1
  | .int, v => (plainNumber v).any Rat.isInt
  | .conint ge, v => (plainNumber v).any fun q : ℚ => q.isInt && ge ≤ q
  | .float, v => (plainNumber v).isSome
  | .confloat ge, v => (plainNumber v).any fun q => ge ≤ q
  | .positiveFloat, v => (plainNumber v).any fun q => 0 < q
  | .enum values, v => values.any fun w =>
    match w with
    | .str s => v.eqStr s
    | .int n => v.eqInt n
    | _ => true

def plainPydantic : Pydantic where
  accepts := plainAccepts
  iterate _ := none
  isInstance _ _ := false
  accepts_bool b := by cases b <;> rfl
  accepts_enum values v hv := by
    rw [plainAccepts, List.any_eq_true]
    exact ⟨v, hv, by cases v <;> simp [PyValue.eqStr, PyValue.eqInt]⟩

def schemaLib : ThirdParty plainQiskit :=
  { acceptingLib with
    modelValidate := fun programId params =>
      validate plainPydantic.reading (paramsSchema programId) (.dict params) }

/-- The number of shots is a word. -/
def textShots : PyDict :=
  [("params", .dict [("options", .dict [("default_shots", .str "many"), ("note", .none)])])]

theorem submissionData_rejected_textShots :
    submissionData .ascii schemaLib .sampler bellPubs "ibm_fake" textShots = raiseFailure .ascii
        { reason := "Primitive input doesn't match the data schema for Runtime REST API."
          retry := false } :=
  (submissionData_rejected_iff (fun _ _ => rfl) (by decide)
    (paramsOf_ok.mp ⟨_, rfl⟩) ((pubRows_ok schemaLib .sampler bellPubs).mp ⟨_, rfl⟩)).mpr
    ⟨opt "options" Models.options, List.mem_cons_self, _, [.key "default_shots"], rfl,
      .optional rfl (.field rfl List.mem_cons_self rfl (.optional rfl (.leaf rfl)))⟩

end Sample

end PrefectQiskit.IBMQuantum
