import PrefectQiskit.ClientInterface
import PrefectQiskit.ErrorContract

/-!
# The exception contract of a client

`exceptions.py` asks every client to cast its exceptions into `RuntimeJobFailure`. The
contract of a call is that it raises nothing else and returns a value of its declared type.
-/

namespace PrefectQiskit

def IsRuntimeJobFailure : PyException → Prop
  | .runtimeJobFailure _ => True
  | _ => False

/-- The call returns a declared value or raises `RuntimeJobFailure`. -/
abbrev Conforms {α : Type} (declared : α → Prop) (outcome : Except PyException α) : Prop :=
  Within IsRuntimeJobFailure declared outcome

section Rules

variable {α : Type} {declared : α → Prop}

@[simp] theorem conforms_raiseBuiltin (cls : BuiltinException) (message : String) :
    ¬Conforms declared (raiseBuiltin cls message) := fun h => h

/-- No exception of this computation is cast into `RuntimeJobFailure`. -/
def Uncast (x : Except PyException α) : Prop := ∀ ex, x = .error ex → ¬IsRuntimeJobFailure ex

theorem Uncast.bind {β : Type} {x : Except PyException α} {f : α → Except PyException β}
    (hx : Uncast x) (hf : ∀ a, Uncast (f a)) : Uncast (x >>= f) := by
  intro ex h
  cases x with
  | ok a => exact hf a ex h
  | error e =>
    cases h
    exact hx ex rfl

theorem Uncast.mapM {β : Type} {f : β → Except PyException α} {xs : List β}
    (h : ∀ x, Uncast (f x)) : Uncast (xs.mapM f) := by
  intro ex hx
  obtain ⟨x, _, he⟩ := mapM_error hx
  exact h x ex he

end Rules

variable (Q : Qiskit)

/-- The methods of `AsyncRuntimeClientInterface` with their arguments. -/
inductive MethodCall where
  | checkResourceAvailable (resourceName : String)
  | getResources
  | getTarget (resourceName : String)
  | runPrimitive (programId : ProgramType) (inputs : Pubs Q) (resourceName : String)
      (options : PyDict)
  | getPrimitiveResult (jobId : String)
  | getJobStatus (jobId : String)
  | getJobMetrics (jobId : String)

/-- What a method returns. A target is only ever made by the target type itself. -/
inductive Reply where
  | available (state : PyValue)
  | resources (names : List PyValue)
  | target
  | jobId (id : PyValue)
  | result (results : Fetched Q)
  | status (reported : PyValue)
  | metrics (reported : JobMetrics)

variable {Q}

end PrefectQiskit
