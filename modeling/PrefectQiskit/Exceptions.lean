import PrefectQiskit.ErrorContract
import PrefectQiskit.PyValue

/-!
# Exceptions seen by the primitive runner

`RuntimeJobFailure` is the exception a client implementation is meant to raise; its `retry`
flag decides whether the runner resubmits. All other exceptions are the task timeout of the
workflow engine, the builtin exceptions, and those of third-party code.
-/

namespace PrefectQiskit

/-- Text conversions of the interpreter. They only produce text that the code passes on,
except that `upper` is compared with literals and `fromisoformat` feeds the job metrics. -/
structure Builtins where
  str : PyValue → String
  str_str : ∀ s, str (.str s) = s
  repr : PyValue → String
  isoformat : DateTime → String
  fromisoformat : String → Option DateTime
  upper : String → String
  upper_unknown : upper "unknown" = "UNKNOWN"

/-- Conversions that agree with the interpreter on plain strings, numbers and booleans. -/
def Builtins.ascii : Builtins where
  str
    | .str s => s
    | .int n => toString n
    | .bool b => if b then "True" else "False"
    | .none => "None"
    | v => v.typeName
  str_str _ := rfl
  repr
    | .str s => s!"'{s}'"
    | .int n => toString n
    | .bool b => if b then "True" else "False"
    | .none => "None"
    | v => v.typeName
  isoformat d := toString d.wall
  fromisoformat _ := none
  upper s := String.ofList (s.toList.map Char.toUpper)
  upper_unknown := by decide

/-- Arguments of the `RuntimeJobFailure` constructor with their defaults. -/
structure RuntimeJobFailureArgs where
  reason : String
  jobId : Option String := none
  errorCode : PyValue := .none
  retry : Bool := true

structure RuntimeJobFailure where
  message : String
  errorCode : Option String
  retry : Bool
  jobId : Option String
  deriving DecidableEq

namespace RuntimeJobFailure

def init (py : Builtins) (args : RuntimeJobFailureArgs) : RuntimeJobFailure :=
  if args.errorCode.isNone then
    { message := s!"Primitive Job failure; {args.reason}"
      errorCode := none
      retry := args.retry
      jobId := args.jobId }
  else
    let code := py.str args.errorCode
    { message := s!"Primitive Job failure ({code}); {args.reason}"
      errorCode := some code
      retry := args.retry
      jobId := args.jobId }

@[simp] theorem init_retry (py : Builtins) (args : RuntimeJobFailureArgs) :
    (init py args).retry = args.retry := by
  rw [init]
  split <;> rfl

@[simp] theorem init_jobId (py : Builtins) (args : RuntimeJobFailureArgs) :
    (init py args).jobId = args.jobId := by
  rw [init]
  split <;> rfl

end RuntimeJobFailure

/-- The message of a foreign exception is missing when its `__str__` raises. -/
inductive PyException where
  | runtimeJobFailure (ex : RuntimeJobFailure)
  | taskRunTimeoutError
  | builtin (error : BuiltinError)
  | foreign (cls : String) (message : Option String)
  deriving DecidableEq

namespace PyException

/-- `str(ex)` -/
def str : PyException → Except PyException String
  | .runtimeJobFailure ex => .ok ex.message
  | .taskRunTimeoutError => .ok "Scope timed out"
  | .builtin error => .ok error.message
  | .foreign _ (some message) => .ok message
  | .foreign cls none => .error (.foreign cls none)

end PyException

/-- What third-party code raises. It does not know `RuntimeJobFailure`. -/
structure ThirdPartyError where
  cls : String
  message : Option String

instance : MonadLift (Except ThirdPartyError) (Except PyException) where
  monadLift x := x.mapError fun e => .foreign e.cls e.message

instance : MonadLift (Except BuiltinError) (Except PyException) where
  monadLift x := x.mapError .builtin

@[simp] theorem liftM_builtin_ok {α : Type} (a : α) :
    (liftM (Except.ok a : Except BuiltinError α) : Except PyException α) = .ok a := rfl

@[simp] theorem liftM_thirdParty_ok {α : Type} (a : α) :
    (liftM (Except.ok a : Except ThirdPartyError α) : Except PyException α) = .ok a := rfl

@[simp] theorem liftM_builtin_error {α : Type} (e : BuiltinError) :
    (liftM (Except.error e : Except BuiltinError α) : Except PyException α) =
      .error (.builtin e) := rfl

@[simp] theorem liftM_thirdParty_error {α : Type} (e : ThirdPartyError) :
    (liftM (Except.error e : Except ThirdPartyError α) : Except PyException α) =
      .error (.foreign e.cls e.message) := rfl

theorem liftM_builtin_eq_ok {α : Type} {x : Except BuiltinError α} {a : α} :
    (liftM x : Except PyException α) = .ok a ↔ x = .ok a := by
  cases x <;> simp

theorem liftM_thirdParty_eq_ok {α : Type} {x : Except ThirdPartyError α} {a : α} :
    (liftM x : Except PyException α) = .ok a ↔ x = .ok a := by
  cases x <;> simp

/-- `raise RuntimeJobFailure(...)` -/
def raiseFailure {α : Type*} (py : Builtins) (args : RuntimeJobFailureArgs) :
    Except PyException α :=
  .error (.runtimeJobFailure (.init py args))

def raiseBuiltin {α : Type*} (cls : BuiltinException) (message : String) :
    Except PyException α :=
  .error (.builtin ⟨cls, message⟩)

end PrefectQiskit
