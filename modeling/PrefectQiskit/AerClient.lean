import PrefectQiskit.ClientInterface

/-!
# The Qiskit Aer client

The client keeps its jobs as records of a shared store. A method is a function of the
entry it finds there; `execute_primitive` is in the next module. The simulator and the
pickling of results are parameters.
-/

namespace PrefectQiskit.QiskitAer

variable {Q : Qiskit}

/-- A backend primitive with the arguments it is made from. -/
structure BackendPrimitive (Q : Qiskit) where
  programId : ProgramType
  backend : Q.Backend
  options : PyDict

structure QiskitAerClient (Q : Qiskit) where
  backend : Q.Backend

/-- Code of other packages that the client calls. -/
structure ThirdParty (Q : Qiskit) where
  Target : Type
  target : Q.Backend → Target
  /-- The constructor of the primitive accepts its options. -/
  construct : BackendPrimitive Q → Except ThirdPartyError Unit
  dumps : PrimitiveResult Q → Except ThirdPartyError (List UInt8)
  loads : PyValue → Except ThirdPartyError (Fetched Q)
  loads_dumps : ∀ result data, dumps result = .ok data →
    loads (.bytes data) = .ok (.primitiveResult result)

def resourceNAME : String := "aer_simulator"

/-- `raise RuntimeJobFailure(...)` unless the name is the one of the simulator. -/
def checkName (py : Builtins) (resourceName : String) : Except PyException Unit :=
  if resourceName ≠ resourceNAME then
    raiseFailure py
      { reason := s!"Resource name must be '{resourceNAME}' for Qiskit Aer client."
        retry := false }
  else return ()

section Methods

variable (py : Builtins) (lib : ThirdParty Q) (client : QiskitAerClient Q)

def checkResourceAvailable (resourceName : String) : Except PyException PyValue := do
  checkName py resourceName
  return .bool true

def getResources : Except PyException (List PyValue) := return [.str resourceNAME]

def getTarget (resourceName : String) : Except PyException lib.Target := do
  checkName py resourceName
  return lib.target client.backend

/-- `run_primitive` up to the point where it creates the job. -/
def backendPrimitive (programId : ProgramType) (resourceName : String) (options : PyDict) :
    Except PyException (BackendPrimitive Q) := do
  checkName py resourceName
  let primitive : BackendPrimitive Q := ⟨programId, client.backend, options⟩
  lib.construct primitive
  return primitive

/-- `run_primitive`, when the job it creates gets this identifier. -/
def runPrimitive (programId : ProgramType) (resourceName : String) (options : PyDict)
    (jobId : String) : Except PyException PyValue := do
  let _ ← backendPrimitive py lib client programId resourceName options
  return .str jobId

/-- `datetime.now()` -/
def now (clock : ℤ) : PyValue := .datetime ⟨clock, none⟩

/-- The record that `run_primitive` adds to the store. -/
def initialRecord (clock : ℤ) : PyDict :=
  [("results", .none), ("status", .str "QUEUED"), ("msg", .none), ("created", now clock),
    ("running", .none), ("finished", .none)]

/-- `DISK_CACHE[job_id]` -/
def lookup (jobId : String) (entry : Option PyValue) : Except PyException PyValue :=
  match entry with
  | some jobStatus => return jobStatus
  | none => raiseBuiltin .runtimeError s!"Job ID {jobId} is not found"

def getPrimitiveResult (jobId : String) (entry : Option PyValue) :
    Except PyException (Fetched Q) := do
  let jobStatus ← lookup jobId entry
  let data ← jobStatus.getItem "result"
  lib.loads data

def getJobStatus (jobId : String) (entry : Option PyValue) : Except PyException PyValue := do
  let jobStatus ← lookup jobId entry
  let status ← jobStatus.getItem "status"
  if status.eqStr "FAILED" then
    let msg ← jobStatus.get "msg" .none
    raiseFailure py { reason := py.str msg, jobId := jobId, retry := false }
  else return status

def getJobMetrics (jobId : String) (entry : Option PyValue) : Except PyException JobMetrics := do
  let jobStatus ← lookup jobId entry
  let created ← jobStatus.get "created" .none
  let running ← jobStatus.get "running" .none
  let finished ← jobStatus.get "finished" .none
  return ⟨.int 0, created, running, finished⟩

end Methods

end PrefectQiskit.QiskitAer
