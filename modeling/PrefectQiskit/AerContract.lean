import PrefectQiskit.AerClient
import PrefectQiskit.ClientContract

/-!
# The exception contract of the Qiskit Aer client

The record that a call finds in the store decides whether it keeps the contract. The name
of the resource never does: a wrong one is reported by a cast exception.
-/

namespace PrefectQiskit.QiskitAer

variable {Q : Qiskit} (py : Builtins) (lib : ThirdParty Q) (client : QiskitAerClient Q)

/-- The identifier that a new job gets, and the store's entry for the job that is asked for. -/
structure Environment where
  newJobId : String
  entry : Option PyValue

/-- The method of the client that a call names. -/
def answer (env : Environment) : MethodCall Q → Except PyException (Reply Q)
  | .checkResourceAvailable resourceName => .available <$> checkResourceAvailable py resourceName
  | .getResources => .resources <$> getResources
  | .getTarget resourceName => (fun _ => .target) <$> getTarget py lib client resourceName
  | .runPrimitive programId _ resourceName options =>
    .jobId <$> runPrimitive py lib client programId resourceName options env.newJobId
  | .getPrimitiveResult jobId => .result <$> getPrimitiveResult lib jobId env.entry
  | .getJobStatus jobId => .status <$> getJobStatus py jobId env.entry
  | .getJobMetrics jobId => .metrics <$> getJobMetrics jobId env.entry

end PrefectQiskit.QiskitAer
