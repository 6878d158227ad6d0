import PrefectQiskit.Exceptions

/-!
# The vendor client interface

Primitive unified blocs, results and metrics as the runner handles them, and one event for
each call it can await. Third-party objects are opaque: `Qiskit` names their types, and the
structures below keep the attributes that this code reads.
-/

namespace PrefectQiskit

/-- Types of third-party values that are only carried along. -/
structure Qiskit where
  CircuitBody : Type
  BindingsArray : Type
  ObservablesArray : Type
  DataBin : Type
  Backend : Type

/-- Third-party types without content, for runs written out in full. -/
abbrev plainQiskit : Qiskit := ⟨Unit, Unit, Unit, Unit, Unit⟩

inductive ProgramType where
  | sampler | estimator
  deriving DecidableEq, Repr

def ProgramType.name : ProgramType → String
  | .sampler => "sampler"
  | .estimator => "estimator"

variable (Q : Qiskit)

structure QuantumCircuit where
  name : String
  depth : ℕ
  size : ℕ
  body : Q.CircuitBody

structure SamplerPub where
  circuit : QuantumCircuit Q
  parameterValues : Q.BindingsArray
  shots : Option ℕ
  shape : List ℕ

structure EstimatorPub where
  circuit : QuantumCircuit Q
  observables : Q.ObservablesArray
  parameterValues : Q.BindingsArray
  precision : Option PyFloat
  shape : List ℕ

def optionalShots : Option ℕ → PyValue
  | some shots => .int shots
  | none => .none

def optionalPrecision : Option PyFloat → PyValue
  | some precision => .float precision
  | none => .none

/-- `options: dict | None` as a value -/
def optionsValue : Option PyDict → PyValue
  | some d => .dict d
  | none => .none

/-- `list[SamplerPub] | list[EstimatorPub]` -/
inductive Pubs where
  | sampler (pubs : List (SamplerPub Q))
  | estimator (pubs : List (EstimatorPub Q))

variable {Q}

namespace Pubs

/-- Circuit and shape of each bloc, which is all that the analytics read. -/
def circuits : Pubs Q → List (QuantumCircuit Q × List ℕ)
  | .sampler pubs => pubs.map fun pub => (pub.circuit, pub.shape)
  | .estimator pubs => pubs.map fun pub => (pub.circuit, pub.shape)

def length (pubs : Pubs Q) : ℕ := pubs.circuits.length

end Pubs

variable (Q)

structure PubResult where
  data : Q.DataBin
  metadata : PyDict

structure PrimitiveResult where
  pubResults : List (PubResult Q)
  metadata : PyDict

/-- What a client hands over as a result. Only a client that breaks the declared return
type hands over anything but a `PrimitiveResult`. -/
inductive Fetched where
  | primitiveResult (result : PrimitiveResult Q)
  | other (value : PyValue)

variable {Q}

namespace Fetched

/-- `len(results)` -/
def len : Fetched Q → Except BuiltinError ℕ
  | .primitiveResult result => .ok result.pubResults.length
  | .other value => value.len

/-- The metadata of every element met when iterating over the results. -/
def pubMetadata : Fetched Q → Except BuiltinError (List PyDict)
  | .primitiveResult result => .ok (result.pubResults.map PubResult.metadata)
  | .other value => do
    match ← value.iter with
    | [] => return []
    | element :: _ => element.attributeError "metadata"

end Fetched

/-- The fields are whatever the vendor put there; `WellTyped` is their declared type. -/
structure JobMetrics where
  qpuUsage : PyValue
  timestampCreated : PyValue
  timestampStarted : PyValue
  timestampCompleted : PyValue

namespace PyValue

/-- `float | None`, where an `int` passes for a `float`. -/
def isOptionalFloat : PyValue → Bool
  | .none | .bool _ | .int _ | .float _ => true
  | _ => false

/-- `datetime | None` -/
def isOptionalDatetime : PyValue → Bool
  | .none | .datetime _ => true
  | _ => false

end PyValue

structure JobMetrics.WellTyped (metrics : JobMetrics) : Prop where
  qpuUsage : metrics.qpuUsage.isOptionalFloat
  timestampCreated : metrics.timestampCreated.isOptionalDatetime
  timestampStarted : metrics.timestampStarted.isOptionalDatetime
  timestampCompleted : metrics.timestampCompleted.isOptionalDatetime

/-- One awaited call of a task run with its outcome. The first, second, third, fifth and
sixth are the client interface. -/
inductive Event (Q : Qiskit) where
  | checkResourceAvailable (resourceName : String) (reply : Except PyException PyValue)
  | runPrimitive (programId : ProgramType) (inputs : Pubs Q) (resourceName : String)
      (options : PyDict) (reply : Except PyException PyValue)
  | getJobStatus (jobId : String) (reply : Except PyException PyValue)
  | sleep (reply : Except PyException Unit)
  | getPrimitiveResult (jobId : String) (reply : Except PyException (Fetched Q))
  | getJobMetrics (jobId : String) (reply : Except PyException JobMetrics)
  | createTableArtifact (table : List PyValue × List PyValue) (description : String)
      (reply : Except PyException Unit)

end PrefectQiskit
