import PrefectQiskit.PrimitiveRunner

/-!
# The runtime block

A `QuantumRuntime` binds a resource name and vendor credentials to the runner task.
-/

namespace PrefectQiskit

open PrimitiveRunner Coroutine

inductive CouplingMapType where
  | full | ring | linear
  deriving DecidableEq

structure QiskitAerCredentials where
  numQubits : ℕ
  basisGates : List String
  noise : Bool
  couplingMapType : CouplingMapType
  deriving DecidableEq

structure IBMQuantumCredentials where
  apiKey : String
  crn : String
  authUrl : Option String
  runtimeUrl : Option String
  deriving DecidableEq

inductive QuantumCredentials where
  | ibm (credentials : IBMQuantumCredentials)
  | aer (credentials : QiskitAerCredentials)
  deriving DecidableEq

/-- The block without its retry delay and timeout, which decide when the engine acts but not
what it does. -/
structure QuantumRuntime where
  resourceName : String
  credentials : QuantumCredentials
  enableJobAnalytics : Bool
  maxRetry : ℕ
  executionCache : Bool

namespace QuantumRuntime

variable {Q : Qiskit}

/-- The arguments bound by `partial` together with those of the call. -/
def configuredRunner (self : QuantumRuntime) (context : TaskRunContext)
    (primitiveBlocs : Pubs Q) (programType : ProgramType) (options : Option PyDict) :
    RunPrimitiveArgs Q where
  primitiveBlocs := primitiveBlocs
  programType := programType
  resourceName := self.resourceName
  enableAnalytics := self.enableJobAnalytics
  options := options
  context := context

/-- What the engine executes for a call of the task when no stored result is used. -/
def buildRunnerTask (self : QuantumRuntime) (py : Builtins) (context : TaskRunContext)
    (primitiveBlocs : Pubs Q) (programType : ProgramType) (options : Option PyDict) :
    Coroutine (RetryPoint (Await Q)) (Event Q) (Outcome Q) :=
  runnerTask py (self.configuredRunner context primitiveBlocs programType options) self.maxRetry

end QuantumRuntime

end PrefectQiskit
