import PrefectQiskit.ClientInterface
import PrefectQiskit.SeparatingEncoding

/-!
# The hash of primitive inputs

`pub_hasher` serializes each bloc on its own and then the list of these serializations
together with the options and the resource name. The exporter, the serializer and the
digest are parameters.
-/

namespace PrefectQiskit

variable (Q : Qiskit)

/-- An element of a tuple that is pickled. -/
inductive PyObject where
  | value (v : PyValue)
  | bindings (array : Q.BindingsArray)
  | observables (array : Q.ObservablesArray)

/-- One bloc, of either class that `encode_pub` dispatches on. -/
inductive Pub where
  | sampler (pub : SamplerPub Q)
  | estimator (pub : EstimatorPub Q)

/-- Code of other packages that the hash is computed with. -/
structure HashLibrary where
  oq3Dumps : QuantumCircuit Q → Except ThirdPartyError String
  /-- `pickle.dumps(t, protocol=4)` for a tuple `t`. -/
  pickleDumps : List (PyObject Q) → Except ThirdPartyError (List UInt8)
  /-- `hashlib.sha256(data).hexdigest()` -/
  sha256 : List UInt8 → String

variable {Q}

def Pubs.toList : Pubs Q → List (Pub Q)
  | .sampler pubs => pubs.map .sampler
  | .estimator pubs => pubs.map .estimator

def Pubs.programType : Pubs Q → ProgramType
  | .sampler _ => .sampler
  | .estimator _ => .estimator

/-- `circ.name = ""` -/
def QuantumCircuit.unnamed (circ : QuantumCircuit Q) : QuantumCircuit Q := { circ with name := "" }

section Hashing

variable (lib : HashLibrary Q)

def encodeSamplerPub (pub : SamplerPub Q) : Except ThirdPartyError (List UInt8) := do
  let text ← lib.oq3Dumps pub.circuit.unnamed
  lib.pickleDumps
    [.value (.str text), .bindings pub.parameterValues, .value (optionalShots pub.shots)]

def encodeEstimatorPub (pub : EstimatorPub Q) : Except ThirdPartyError (List UInt8) := do
  let text ← lib.oq3Dumps pub.circuit.unnamed
  lib.pickleDumps
    [.value (.str text), .observables pub.observables, .bindings pub.parameterValues,
      .value (optionalPrecision pub.precision)]

def encodePub : Pub Q → Except ThirdPartyError (List UInt8)
  | .sampler pub => encodeSamplerPub lib pub
  | .estimator pub => encodeEstimatorPub lib pub

/-- The bytes that `pub_hasher` digests. -/
def hashedInputs (pubs : Pubs Q) (options : Option PyDict) (resourceName : String) :
    Except ThirdPartyError (List UInt8) := do
  let pubBytes ← pubs.toList.mapM fun pub => encodePub lib pub
  lib.pickleDumps
    [.value (.list (pubBytes.map .bytes)), .value (optionsValue options),
      .value (.str resourceName)]

def pubHasher (pubs : Pubs Q) (options : Option PyDict) (resourceName : String) :
    Except ThirdPartyError String := do
  let inputs ← hashedInputs lib pubs options resourceName
  return lib.sha256 inputs

/-- The blocs as an encoder leaves them: it clears the name of a circuit before it exports
it, and a bloc that cannot be encoded is the last one it reaches. -/
def clearNames {π : Type} (encode : π → Except ThirdPartyError (List UInt8)) (clear : π → π) :
    List π → List π
  | [] => []
  | pub :: pubs =>
    match encode pub with
    | .ok _ => clear pub :: clearNames encode clear pubs
    | .error _ => clear pub :: pubs

/-- The blocs as `pub_hasher` leaves them. -/
def Pubs.afterHashing : Pubs Q → Pubs Q
  | .sampler pubs => .sampler (clearNames (encodeSamplerPub lib)
      (fun pub => { pub with circuit := pub.circuit.unnamed }) pubs)
  | .estimator pubs => .estimator (clearNames (encodeEstimatorPub lib)
      (fun pub => { pub with circuit := pub.circuit.unnamed }) pubs)

end Hashing

end PrefectQiskit
