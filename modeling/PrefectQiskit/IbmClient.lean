import PrefectQiskit.ClientInterface

/-!
# The IBM Quantum Platform client

Each method as a function of what its environment gave it: the outcome of the token request
and the outcome of the HTTP exchange, whose bodies are JSON objects. The serializers,
validators and decoders of other packages are parameters.
-/

namespace PrefectQiskit.IBMQuantum

variable {Q : Qiskit}

/-- How an HTTP exchange fails; every error of the HTTP library belongs to one of these. -/
inductive HttpError where
  | clientResponseError (status : ℕ) (url : String)
  | clientConnectionError
  | timeoutError
  | clientError (cls : String)

/-- What the environment answers to one session. -/
structure Exchange (β : Type) where
  token : Except ThirdPartyError String
  response : Except HttpError β

structure IBMQuantumPlatformClient where
  runtimeEndpointUrl : String

/-- Code of other packages that the client calls. -/
structure ThirdParty (Q : Qiskit) where
  Target : Type
  /-- `pub.parameter_values.as_array(pub.circuit.parameters)` -/
  asArray : Q.BindingsArray → QuantumCircuit Q → Except ThirdPartyError PyValue
  observablesToList : Q.ObservablesArray → Except ThirdPartyError PyValue
  circuitValue : QuantumCircuit Q → PyValue
  /-- The vendored schema accepts the parameters of the program. -/
  modelValidate : ProgramType → PyDict → Bool
  dumps : PyDict → Except ThirdPartyError String
  convertToTarget : PyDict → PyDict → Except ThirdPartyError Target
  decode : String → Except ThirdPartyError (PrimitiveResult Q)
  /-- The elements of the execution spans, each as its start, stop and duration. -/
  iterSpans : PyValue → Except ThirdPartyError (List (PyValue × PyValue × PyValue))
  isoformat : PyValue → Except ThirdPartyError PyValue

def avoidRetry : List ℤ := [9999]

/-- `runtime_session_ctx` around the requests of one method. The token is requested before
the handlers are in force. -/
def runtimeSessionCtx {β : Type} (py : Builtins) (client : IBMQuantumPlatformClient)
    (exchange : Exchange β) : Except PyException β := do
  let _ ← exchange.token
  match exchange.response with
  | .ok body => return body
  | .error (.clientResponseError status url) =>
    raiseFailure py { reason := s!"HTTP {status} on {url}.", retry := true }
  | .error .clientConnectionError =>
    raiseFailure py
      { reason := s!"Connection failed to {client.runtimeEndpointUrl}.", retry := true }
  | .error .timeoutError =>
    raiseFailure py { reason := "HTTP request timed out.", retry := true }
  | .error (.clientError cls) =>
    raiseFailure py { reason := s!"General HTTP client error {cls}.", retry := true }

section Methods

variable (py : Builtins) (client : IBMQuantumPlatformClient) (lib : ThirdParty Q)

def checkResourceAvailable (exchange : Exchange PyDict) : Except PyException PyValue := do
  let ret ← runtimeSessionCtx py client exchange
  return (ret.get? "state").getD (.bool false)

/-- The name of a device when it is online. -/
def onlineDevice (device : PyValue) : Except BuiltinError (Option PyValue) := do
  let status ← device.getItem "status"
  let name ← status.getItem "name"
  if name.eqStr "online" then some <$> device.getItem "name" else return none

def onlineDevices : List PyValue → Except BuiltinError (List PyValue)
  | [] => return []
  | device :: devices => do
    let name ← onlineDevice device
    let names ← onlineDevices devices
    return name.toList ++ names

def getResources (exchange : Exchange PyDict) : Except PyException (List PyValue) := do
  let ret ← runtimeSessionCtx py client exchange
  let devices ← ((ret.get? "devices").getD (.list [])).iter
  onlineDevices devices

/-- The configuration and the properties are requested in one session. -/
def getTarget (exchange : Exchange (PyDict × PyDict)) : Except PyException lib.Target := do
  let (configuration, properties) ← runtimeSessionCtx py client exchange
  lib.convertToTarget configuration properties

/-- `payload.pop("params").copy()` when the options have parameters. -/
def paramsOf (payload : PyDict) : Except BuiltinError PyDict := do
  let params ← match payload.get? "params" with
    | some params => params.copy
    | none => return [("support_qiskit", .bool true), ("version", .int 2)]
  params.update [("support_qiskit", .bool true), ("version", .int 2)]

def samplerRow (pub : SamplerPub Q) : Except ThirdPartyError PyValue := do
  let array ← lib.asArray pub.parameterValues pub.circuit
  return .list [lib.circuitValue pub.circuit, array, optionalShots pub.shots]

def estimatorRow (pub : EstimatorPub Q) : Except ThirdPartyError PyValue := do
  let observables ← lib.observablesToList pub.observables
  let array ← lib.asArray pub.parameterValues pub.circuit
  return .list [lib.circuitValue pub.circuit, observables, array, optionalPrecision pub.precision]

/-- The rows of the payload. Blocs of the other kind lack an attribute that is read. -/
def pubRows : ProgramType → Pubs Q → Except PyException (List PyValue)
  | .sampler, .sampler pubs => pubs.mapM fun pub => samplerRow lib pub
  | .sampler, .estimator pubs => pubs.mapM fun pub => do
    let _ ← lib.asArray pub.parameterValues pub.circuit
    raiseBuiltin .attributeError "'EstimatorPub' object has no attribute 'shots'"
  | .estimator, .sampler pubs => pubs.mapM fun _ =>
    raiseBuiltin .attributeError "'SamplerPub' object has no attribute 'observables'"
  | .estimator, .estimator pubs => pubs.mapM fun pub => estimatorRow lib pub

/-- The options are laid over the defaults of the payload. -/
def basePayload (resourceName : String) (options : PyDict) : PyDict :=
  Dict.update [("program_id", .none), ("backend", .str resourceName)] options

/-- The payload as it is serialized. -/
def requestPayload (programId : ProgramType) (payload params : PyDict) : PyDict :=
  ((payload.erase "params").set "program_id" (.str programId.name)).set "params" (.dict params)

/-- The identifier in the response to a submission. -/
def jobIdOf (ret : PyDict) : Except PyException PyValue :=
  let jobId := (ret.get? "id").getD .none
  if jobId.truthy then return jobId
  else raiseFailure py { reason := "Server didn't return Job ID.", retry := true }

/-- `run_primitive` from the validation of the parameters on. -/
def submitParams (programId : ProgramType) (payload params : PyDict)
    (exchange : Exchange PyDict) : Except PyException PyValue :=
  if !lib.modelValidate programId params then
    raiseFailure py
      { reason := "Primitive input doesn't match the data schema for Runtime REST API."
        retry := false }
  else do
    let _ ← lib.dumps (requestPayload programId payload params)
    let ret ← runtimeSessionCtx py client exchange
    jobIdOf py ret

def runPrimitive (programId : ProgramType) (inputs : Pubs Q) (resourceName : String)
    (options : PyDict) (exchange : Exchange PyDict) : Except PyException PyValue := do
  let payload := basePayload resourceName options
  let params ← paramsOf payload
  let rows ← pubRows lib programId inputs
  submitParams py client lib programId payload (params.set "pubs" (.list rows)) exchange

/-- `for res, span in zip(results, spans)` -/
def addSpans : List (PubResult Q) → List (PyValue × PyValue × PyValue) →
    Except ThirdPartyError (List (PubResult Q))
  | res :: results, (start, stop, duration) :: spans => do
    let started ← lib.isoformat start
    let completed ← lib.isoformat stop
    let spanInfo : PyDict := [("timestamp_start", started), ("timestamp_completed", completed),
      ("duration", duration)]
    let rest ← addSpans results spans
    return { res with metadata := res.metadata.set "span" (.dict spanInfo) } :: rest
  | results, _ => return results

def getPrimitiveResult (exchange : Exchange String) :
    Except PyException (PrimitiveResult Q) := do
  let ret ← runtimeSessionCtx py client exchange
  let results ← lib.decode ret
  let execution := (results.metadata.get? "execution").getD (.dict [])
  let metadata := results.metadata.erase "execution"
  let (spans, _) ← execution.pop "execution_spans" (.dict [])
  if spans.truthy then
    let spans ← lib.iterSpans spans
    let pubResults ← addSpans lib results.pubResults spans
    return ⟨pubResults, metadata⟩
  else return ⟨results.pubResults, metadata⟩

/-- `status.upper()`; a JSON value that is not a string has no such method. -/
def upper (status : PyValue) : Except BuiltinError String :=
  match status with
  | .str s => .ok (py.upper s)
  | v => v.attributeError "upper"

/-- The explanation of a failed job. -/
def failureReason (jobId : String) (jobState : PyValue) : Except BuiltinError String := do
  let reason ← jobState.get "reason" .none
  let solution ← jobState.get "reason_solution" .none
  let parts := [s!"Job {jobId} failed"] ++
    (if reason.truthy then [s!"The following causes were reported: {py.str reason}"] else []) ++
    (if solution.truthy then [s!"Please consider suggested solution: {py.str solution}"] else [])
  let msg := ". ".intercalate parts
  return if msg.endsWith "." then msg else msg ++ "."

theorem failureReason_dict (jobId : String) (d : PyDict) :
    ∃ msg, failureReason py jobId (.dict d) = .ok msg := by
  simp only [failureReason, PyValue.get_dict, ok_bind]
  exact ⟨_, rfl⟩

/-- What `get_job_status` makes of an upper-cased status. -/
def statusReply (jobId : String) (jobState : PyValue) (status : String) :
    Except PyException PyValue :=
  match status with
  | "QUEUED" | "RUNNING" | "COMPLETED" => return .str status
  | "CANCELLED - RAN TOO LONG" => do
    let code ← jobState.get "reason_code" .none
    raiseFailure py
      { reason := "Job ran longer than maximum execution time."
        jobId := jobId
        errorCode := code
        retry := true }
  | "CANCELLED" =>
    raiseFailure py { reason := "Job is manually cancelled.", jobId := jobId, retry := false }
  | "FAILED" => do
    let msg ← failureReason py jobId jobState
    let code ← jobState.get "reason_code" .none
    raiseFailure py
      { reason := msg
        jobId := jobId
        errorCode := code
        retry := !code.isNone && !avoidRetry.any code.eqInt }
  | _ =>
    raiseFailure py
      { reason := s!"Unknown job status reported '{status}'."
        jobId := jobId
        retry := true }

/-- `get_job_status` after the response has arrived. -/
def jobStatusOf (jobId : String) (ret : PyDict) : Except PyException PyValue := do
  let jobState := (ret.get? "state").getD (.dict [])
  let status ← upper py ((ret.get? "status").getD (.str "unknown"))
  statusReply py jobId jobState status

def getJobStatus (jobId : String) (exchange : Exchange PyDict) : Except PyException PyValue := do
  let ret ← runtimeSessionCtx py client exchange
  jobStatusOf py jobId ret

/-- `datetime.fromisoformat(timestamps.get(key, None))`, where a value that is no timestamp
gives `None`. -/
def timestamp (timestamps : PyValue) (key : String) : Except BuiltinError PyValue := do
  match ← timestamps.get key .none with
  | .str s =>
    match py.fromisoformat s with
    | some dt => return .datetime dt
    | none => return .none
  | _ => return .none

/-- `get_job_metrics` after the response has arrived. Without timestamps the local variables
for them are never assigned. -/
def jobMetricsOf (ret : PyDict) : Except BuiltinError JobMetrics := do
  let timestamps ← match ret.get? "timestamps" with
    | some timestamps =>
      let created ← timestamp py timestamps "created"
      let running ← timestamp py timestamps "running"
      let finished ← timestamp py timestamps "finished"
      pure (some (created, running, finished))
    | none => pure none
  let qpuUsage ← ((ret.get? "usage").getD (.dict [])).get "quantum_seconds" .none
  match timestamps with
  | some (created, running, finished) => return ⟨qpuUsage, created, running, finished⟩
  | none => throw ⟨.unboundLocalError,
      "cannot access local variable 'created_dt' where it is not associated with a value"⟩

def getJobMetrics (exchange : Exchange PyDict) : Except PyException JobMetrics := do
  let ret ← runtimeSessionCtx py client exchange
  jobMetricsOf py ret

end Methods

end PrefectQiskit.IBMQuantum
