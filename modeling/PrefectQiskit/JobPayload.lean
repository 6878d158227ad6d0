import PrefectQiskit.IbmContract

/-!
# The posted job payload

The options of the user are laid over the defaults of the payload, then the program, the
parameters and their system entries are set. Only the backend is not set again.
-/

namespace PrefectQiskit.IBMQuantum

variable {Q : Qiskit}

section Posting

variable (py : Builtins) (client : IBMQuantumPlatformClient) (lib : ThirdParty Q)

/-- The body with these parameters, once they are validated and can be serialized. -/
def checkedBody (programId : ProgramType) (payload params : PyDict)
    (token : Except ThirdPartyError String) : Except PyException PyDict :=
  if !lib.modelValidate programId params then
    raiseFailure py
      { reason := "Primitive input doesn't match the data schema for Runtime REST API."
        retry := false }
  else do
    let _ ← lib.dumps (requestPayload programId payload params)
    let _ ← token
    return requestPayload programId payload params

/-- The body that `run_primitive` posts, or what it raises before the request is made. -/
def preparedBody (programId : ProgramType) (inputs : Pubs Q) (resourceName : String)
    (options : PyDict) (token : Except ThirdPartyError String) : Except PyException PyDict := do
  let payload := basePayload resourceName options
  let params ← paramsOf payload
  let rows ← pubRows lib programId inputs
  checkedBody py lib programId payload (params.set "pubs" (.list rows)) token

/-- What the server answered is looked at after the body was posted, and only then. -/
theorem runPrimitive_eq (programId : ProgramType) (inputs : Pubs Q) (resourceName : String)
    (options : PyDict) (exchange : Exchange PyDict) :
    runPrimitive py client lib programId inputs resourceName options exchange = (do
      let _ ← preparedBody py lib programId inputs resourceName options exchange.token
      let ret ← runtimeSessionCtx py client exchange
      jobIdOf py ret) := by
  rw [runPrimitive, preparedBody]
  cases paramsOf (basePayload resourceName options) with
  | error e => rfl
  | ok params =>
    cases pubRows lib programId inputs with
    | error e => rfl
    | ok rows =>
      simp only [liftM_builtin_ok, ok_bind, submitParams, checkedBody]
      split
      · rfl
      · cases lib.dumps (requestPayload programId (basePayload resourceName options)
          (params.set "pubs" (.list rows))) with
        | error e => rfl
        | ok data =>
          rw [runtimeSessionCtx]
          cases exchange.token <;> rfl

theorem checkedBody_ok {programId : ProgramType} {payload params body : PyDict}
    {token : Except ThirdPartyError String}
    (h : checkedBody py lib programId payload params token = .ok body) :
    body = requestPayload programId payload params := by
  rw [checkedBody] at h
  split at h
  · cases h
  · obtain ⟨data, -, h⟩ := bind_eq_ok.mp h
    obtain ⟨token', -, h⟩ := bind_eq_ok.mp h
    exact (Except.ok.inj h).symm

theorem preparedBody_ok {programId : ProgramType} {inputs : Pubs Q} {resourceName : String}
    {options body : PyDict} {token : Except ThirdPartyError String}
    (h : preparedBody py lib programId inputs resourceName options token = .ok body) :
    ∃ params rows, paramsOf (basePayload resourceName options) = .ok params ∧
      pubRows lib programId inputs = .ok rows ∧
      body = requestPayload programId (basePayload resourceName options)
        (params.set "pubs" (.list rows)) := by
  obtain ⟨params, hparams, h⟩ := bind_eq_ok.mp h
  obtain ⟨rows, hrows, h⟩ := bind_eq_ok.mp h
  exact ⟨params, rows, liftM_builtin_eq_ok.mp hparams, hrows, checkedBody_ok py lib h⟩

end Posting

/-- The parameters among the options of the user. -/
def optionParams (options : PyDict) : PyDict :=
  match options.get? "params" with
  | some (.dict params) => params
  | _ => []

theorem get?_basePayload {options : PyDict} (h : options.keys.Nodup) (resourceName key : String) :
    (basePayload resourceName options).get? key =
      (options.get? key).or
        (Dict.get? [("program_id", .none), ("backend", .str resourceName)] key) := by
  rw [basePayload, Dict.get?_update, Dict.get?_reverse h]

theorem get?_requestPayload (programId : ProgramType) (payload params : PyDict) (key : String) :
    (requestPayload programId payload params).get? key =
      if "params" = key then some (.dict params)
      else if "program_id" = key then some (.str programId.name)
      else payload.get? key := by
  rw [requestPayload, Dict.get?_set, Dict.get?_set, Dict.get?_erase]
  by_cases hparams : "params" = key <;> simp [hparams]

/-- System entries win over the parameters of the user. -/
theorem get?_paramsOf {options params : PyDict} {resourceName : String}
    (hkeys : options.keys.Nodup) (h : paramsOf (basePayload resourceName options) = .ok params)
    (key : String) :
    params.get? key =
      if "version" = key then some (.int 2)
      else if "support_qiskit" = key then some (.bool true)
      else (optionParams options).get? key := by
  have hget := get?_basePayload hkeys resourceName "params"
  rw [paramsOf, hget] at h
  rw [optionParams]
  cases hp : options.get? "params" with
  | none =>
    rw [hp] at h
    rw [← Except.ok.inj h]
    by_cases hversion : "version" = key
    · simp [← hversion]
    · simp [hversion]
  | some v =>
    rw [hp] at h
    cases v with
    | dict d =>
      rw [← Except.ok.inj h]
      simp only [Dict.update_cons, Dict.update_nil, Dict.get?_set]
    | _ => cases h

/-- The rows for the blocs in order, as the program reads them. -/
def EncodedPubs (lib : ThirdParty Q) : ProgramType → Pubs Q → List PyValue → Prop
  | .sampler, .sampler pubs, rows => List.Forall₂ (fun pub row =>
      ∃ array, lib.asArray pub.parameterValues pub.circuit = .ok array ∧
        row = .list [lib.circuitValue pub.circuit, array, optionalShots pub.shots]) pubs rows
  | .estimator, .estimator pubs, rows => List.Forall₂ (fun pub row =>
      ∃ observables array, lib.observablesToList pub.observables = .ok observables ∧
        lib.asArray pub.parameterValues pub.circuit = .ok array ∧
        row = .list [lib.circuitValue pub.circuit, observables, array,
          optionalPrecision pub.precision]) pubs rows
  | .sampler, .estimator pubs, rows => pubs = [] ∧ rows = []
  | .estimator, .sampler pubs, rows => pubs = [] ∧ rows = []

theorem pubRows_encoded {lib : ThirdParty Q} {programId : ProgramType} {inputs : Pubs Q}
    {rows : List PyValue} (h : pubRows lib programId inputs = .ok rows) :
    EncodedPubs lib programId inputs rows := by
  cases programId with
  | sampler =>
    cases inputs with
    | sampler pubs =>
      refine (mapM_eq_ok_iff.mp h).imp fun pub row hrow => ?_
      obtain ⟨array, harray, hrow⟩ := bind_eq_ok.mp (liftM_thirdParty_eq_ok.mp hrow)
      exact ⟨array, harray, (Except.ok.inj hrow).symm⟩
    | estimator pubs =>
      have hpubs : pubs = [] := (pubRows_ok lib .sampler (.estimator pubs)).mp ⟨rows, h⟩
      subst hpubs
      exact ⟨rfl, (Except.ok.inj h).symm⟩
  | estimator =>
    cases inputs with
    | sampler pubs =>
      have hpubs : pubs = [] := (pubRows_ok lib .estimator (.sampler pubs)).mp ⟨rows, h⟩
      subst hpubs
      exact ⟨rfl, (Except.ok.inj h).symm⟩
    | estimator pubs =>
      refine (mapM_eq_ok_iff.mp h).imp fun pub row hrow => ?_
      obtain ⟨observables, hobservables, hrow⟩ := bind_eq_ok.mp (liftM_thirdParty_eq_ok.mp hrow)
      obtain ⟨array, harray, hrow⟩ := bind_eq_ok.mp hrow
      exact ⟨observables, array, hobservables, harray, (Except.ok.inj hrow).symm⟩

structure ParamsIntact (lib : ThirdParty Q) (programId : ProgramType) (inputs : Pubs Q)
    (options params : PyDict) : Prop where
  supportQiskit : params.get? "support_qiskit" = some (.bool true)
  version : params.get? "version" = some (.int 2)
  pubs : ∃ rows, params.get? "pubs" = some (.list rows) ∧ EncodedPubs lib programId inputs rows
  others : ∀ key, key ∉ ["support_qiskit", "version", "pubs"] →
    params.get? key = (optionParams options).get? key

/-- System entries as the call asks for them, all other entries as the user gave them. -/
structure PayloadIntact (lib : ThirdParty Q) (programId : ProgramType) (inputs : Pubs Q)
    (resourceName : String) (options body : PyDict) : Prop where
  backend : body.get? "backend" = some (.str resourceName)
  program : body.get? "program_id" = some (.str programId.name)
  params : ∃ params : PyDict, body.get? "params" = some (.dict params) ∧
    ParamsIntact lib programId inputs options params
  others : ∀ key, key ∉ ["backend", "program_id", "params"] → body.get? key = options.get? key

section Intact

variable {py : Builtins} {lib : ThirdParty Q} {programId : ProgramType} {inputs : Pubs Q}
  {resourceName : String} {options body : PyDict} {token : Except ThirdPartyError String}

theorem get?_body (hkeys : options.keys.Nodup)
    (h : preparedBody py lib programId inputs resourceName options token = .ok body)
    {key : String} (hparams : "params" ≠ key) (hprogram : "program_id" ≠ key) :
    body.get? key = (options.get? key).or (Dict.get? [("backend", .str resourceName)] key) := by
  obtain ⟨params, rows, -, -, rfl⟩ := preparedBody_ok py lib h
  rw [get?_requestPayload, if_neg hparams, if_neg hprogram, get?_basePayload hkeys,
    Dict.get?_cons, if_neg hprogram]

theorem body_params (hkeys : options.keys.Nodup)
    (h : preparedBody py lib programId inputs resourceName options token = .ok body) :
    ∃ params : PyDict, body.get? "params" = some (.dict params) ∧
      ParamsIntact lib programId inputs options params := by
  obtain ⟨params, rows, hparams, hrows, rfl⟩ := preparedBody_ok py lib h
  have hget : ∀ key, (params.set "pubs" (.list rows)).get? key =
      if "pubs" = key then some (.list rows)
      else if "version" = key then some (.int 2)
      else if "support_qiskit" = key then some (.bool true)
      else (optionParams options).get? key := by
    intro key
    rw [Dict.get?_set, get?_paramsOf hkeys hparams]
  refine ⟨params.set "pubs" (.list rows), ?_, ?_, ?_, ⟨rows, ?_, pubRows_encoded hrows⟩, ?_⟩
  · rw [get?_requestPayload, if_pos rfl]
  · rw [hget]
    rfl
  · rw [hget]
    rfl
  · rw [hget, if_pos rfl]
  · intro key hkey
    have hne : ¬"pubs" = key ∧ ¬"version" = key ∧ ¬"support_qiskit" = key := by
      refine ⟨?_, ?_, ?_⟩ <;> intro e <;> exact hkey (by simp [← e])
    rw [hget, if_neg hne.1, if_neg hne.2.1, if_neg hne.2.2]

/-- A posted body is intact exactly when the options do not name another backend. -/
theorem preparedBody_intact_iff (hkeys : options.keys.Nodup)
    (h : preparedBody py lib programId inputs resourceName options token = .ok body) :
    PayloadIntact lib programId inputs resourceName options body ↔
      options.get? "backend" = none ∨ options.get? "backend" = some (.str resourceName) := by
  have hbackend : body.get? "backend" =
      (options.get? "backend").or (some (.str resourceName)) :=
    get?_body hkeys h (by decide) (by decide)
  constructor
  · intro hintact
    have hname := hbackend.symm.trans hintact.backend
    cases hoption : options.get? "backend" with
    | none => exact .inl rfl
    | some v =>
      rw [hoption] at hname
      exact .inr hname
  · intro hoption
    refine ⟨?_, ?_, body_params hkeys h, ?_⟩
    · rcases hoption with hoption | hoption <;> rw [hbackend, hoption] <;> rfl
    · obtain ⟨params, rows, -, -, rfl⟩ := preparedBody_ok py lib h
      rw [get?_requestPayload, if_neg (by decide), if_pos rfl]
    · intro key hkey
      have hne : "params" ≠ key ∧ "program_id" ≠ key ∧ ¬"backend" = key := by
        refine ⟨?_, ?_, ?_⟩ <;> intro e <;> exact hkey (by simp [← e])
      rw [get?_body hkeys h hne.1 hne.2.1, Dict.get?_cons, if_neg hne.2.2, Dict.get?_nil,
        Option.or_none]

end Intact

section Sample

/-- Third-party code that accepts everything. -/
def acceptingLib : ThirdParty plainQiskit where
  Target := Unit
  asArray _ _ := .ok (.list [])
  observablesToList _ := .ok (.list [])
  circuitValue circuit := .object circuit.name true
  modelValidate _ _ := true
  dumps _ := .ok ""
  convertToTarget _ _ := .ok ()
  decode _ := .ok ⟨[], []⟩
  iterSpans _ := .ok []
  isoformat _ := .ok (.str "")

def bellPubs : Pubs plainQiskit := .sampler [⟨⟨"bell", 3, 4, ()⟩, (), some 100, []⟩]

/-- Options that overlap with system entries on both levels. -/
def systemNamedOptions : PyDict :=
  [("program_id", .str "estimator"), ("log_level", .str "debug"),
    ("params", .dict [("version", .int 1), ("options", .dict []), ("pubs", .list [])])]

theorem preparedBody_intact_systemNamed : PayloadIntact acceptingLib .sampler bellPubs "ibm_fake"
    systemNamedOptions
    [("program_id", .str "sampler"), ("backend", .str "ibm_fake"), ("log_level", .str "debug"),
      ("params", .dict [("version", .int 2), ("options", .dict []),
        ("pubs", .list [.list [.object "bell" true, .list [], .int 100]]),
        ("support_qiskit", .bool true)])] :=
  (preparedBody_intact_iff (by decide)
    (show preparedBody .ascii acceptingLib .sampler bellPubs "ibm_fake" systemNamedOptions
      (.ok "token") = .ok _ from rfl)).mpr (.inl rfl)

/-- Options that name another backend are posted to it. -/
theorem not_preparedBody_intact :
    ¬∀ (py : Builtins) (lib : ThirdParty plainQiskit) (programId : ProgramType)
      (inputs : Pubs plainQiskit) (resourceName : String) (options body : PyDict)
      (token : Except ThirdPartyError String), options.keys.Nodup →
      preparedBody py lib programId inputs resourceName options token = .ok body →
        PayloadIntact lib programId inputs resourceName options body := by
  intro h
  have hbackend := (h .ascii acceptingLib .sampler bellPubs "ibm_fake"
    [("backend", .str "ibm_other")] _ (.ok "token") (by decide) rfl).backend
  simp [requestPayload, basePayload, Dict.erase] at hbackend

end Sample

end PrefectQiskit.IBMQuantum
