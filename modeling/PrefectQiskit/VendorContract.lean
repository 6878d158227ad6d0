import PrefectQiskit.AerContract
import PrefectQiskit.IbmContract

/-!
# The exception contract of both vendors

A client together with the environment that a call of it meets, and when that call either
returns a value of its declared type or raises `RuntimeJobFailure`.
-/

namespace PrefectQiskit

inductive VendorClient (Q : Qiskit) where
  | ibmQuantum (client : IBMQuantum.IBMQuantumPlatformClient) (lib : IBMQuantum.ThirdParty Q)
      (env : IBMQuantum.Environment)
  | qiskitAer (client : QiskitAer.QiskitAerClient Q) (lib : QiskitAer.ThirdParty Q)
      (env : QiskitAer.Environment)

namespace VendorClient

variable {Q : Qiskit} (py : Builtins)

def answer : VendorClient Q → MethodCall Q → Except PyException (Reply Q)
  | .ibmQuantum client lib env => IBMQuantum.answer py client lib env
  | .qiskitAer client lib env => QiskitAer.answer py lib client env

end VendorClient

end PrefectQiskit
