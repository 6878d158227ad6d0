import PrefectQiskit.Dict
import Mathlib.Data.Rat.Floor

/-!
# Dynamically typed values

The values that options, JSON bodies, cached records and metadata are made of, with the
partial operations on them and the exception each raises. Finite floats are rationals: no
result below depends on how a quotient is rounded to a double.
-/

namespace PrefectQiskit

/-- The builtin exception classes raised by the operations of this development. -/
inductive BuiltinException where
  | exception | keyError | typeError | attributeError | runtimeError | assertionError
  | overflowError | unboundLocalError
  deriving DecidableEq, Repr

structure BuiltinError where
  cls : BuiltinException
  message : String
  deriving DecidableEq, Repr

inductive PyFloat where
  | finite (q : ℚ)
  | inf (negative : Bool)
  | nan
  deriving DecidableEq

namespace PyFloat

/-- Round to the nearest integer, ties to even. -/
def roundHalfEven (q : ℚ) : ℤ :=
  let f := ⌊q⌋
  if q - f < 1 / 2 then f
  else if 1 / 2 < q - f then f + 1
  else if f % 2 = 0 then f else f + 1

/-- `x / q`, undefined exactly when the divisor is zero. -/
def div (x : PyFloat) (q : ℚ) : Option PyFloat :=
  if q = 0 then none
  else match x with
    | .finite p => some (.finite (p / q))
    | .inf negative => some (.inf (negative != decide (q < 0)))
    | .nan => some .nan

/-- `round(x * 100, 1)` -/
def percent : PyFloat → PyFloat
  | .finite p => .finite (roundHalfEven (p * 100 * 10) / 10)
  | x => x

end PyFloat

/-- A `datetime`: microseconds on its own wall clock, and its offset from UTC when it is
timezone-aware. -/
structure DateTime where
  wall : ℤ
  utcoffset : Option ℤ
  deriving DecidableEq

namespace DateTime

/-- `(a - b).total_seconds()`, in microseconds. Mixing naive and aware values raises. -/
def sub (a b : DateTime) : Except BuiltinError ℤ :=
  match a.utcoffset, b.utcoffset with
  | none, none => .ok (a.wall - b.wall)
  | some oa, some ob => .ok ((a.wall - oa) - (b.wall - ob))
  | _, _ => .error ⟨.typeError, "can't subtract offset-naive and offset-aware datetimes"⟩

end DateTime

inductive PyValue where
  | none
  | bool (b : Bool)
  | int (n : ℤ)
  | float (x : PyFloat)
  | str (s : String)
  | bytes (b : List UInt8)
  | datetime (d : DateTime)
  | list (xs : List PyValue)
  | tuple (xs : List PyValue)
  | dict (entries : List (String × PyValue))
  | object (repr : String) (truth : Bool)
  deriving Inhabited

abbrev PyDict := Dict PyValue

namespace PyValue

def typeName : PyValue → String
  | .none => "NoneType"
  | .bool _ => "bool"
  | .int _ => "int"
  | .float _ => "float"
  | .str _ => "str"
  | .bytes _ => "bytes"
  | .datetime _ => "datetime"
  | .list _ => "list"
  | .tuple _ => "tuple"
  | .dict _ => "dict"
  | .object _ _ => "object"

/-- Truth value testing. -/
def truthy : PyValue → Bool
  | .none => false
  | .bool b => b
  | .int n => n ≠ 0
  | .float x => x ≠ .finite 0
  | .str s => s ≠ ""
  | .bytes b => !b.isEmpty
  | .datetime _ => true
  | .list xs => !xs.isEmpty
  | .tuple xs => !xs.isEmpty
  | .dict d => !d.isEmpty
  | .object _ b => b

def isNone : PyValue → Bool
  | .none => true
  | _ => false

/-- `v == s` for a string `s`. -/
def eqStr (v : PyValue) (s : String) : Bool :=
  match v with
  | .str s' => s' = s
  | _ => false

/-- `v == n` for an integer `n`; `True` and integral floats compare equal to integers. -/
def eqInt (v : PyValue) (n : ℤ) : Bool :=
  match v with
  | .bool b => (if b then 1 else 0) = n
  | .int m => m = n
  | .float (.finite q) => q = n
  | _ => false

def attributeError {α : Type} (v : PyValue) (name : String) : Except BuiltinError α :=
  .error ⟨.attributeError, s!"'{v.typeName}' object has no attribute '{name}'"⟩

/-- `v.get(key, default)` -/
def get (v : PyValue) (key : String) (default : PyValue) : Except BuiltinError PyValue :=
  match v with
  | .dict d => .ok ((Dict.get? d key).getD default)
  | v => v.attributeError "get"

/-- `v[key]` for a string `key` -/
def getItem (v : PyValue) (key : String) : Except BuiltinError PyValue :=
  match v with
  | .dict d =>
    match Dict.get? d key with
    | some x => .ok x
    | .none => .error ⟨.keyError, key⟩
  | v => .error ⟨.typeError, s!"'{v.typeName}' object is not subscriptable by a string"⟩

/-- The least integer that does not round to a finite double. -/
def floatOverflow : ℕ := 2 ^ 1024 - 2 ^ 970

/-- `v.copy()` -/
def copy : PyValue → Except BuiltinError PyValue
  | .list xs => .ok (.list xs)
  | .dict d => .ok (.dict d)
  | v => v.attributeError "copy"

/-- `v.pop(key, default)`, as the value popped and the container that is left. -/
def pop (v : PyValue) (key : String) (default : PyValue) :
    Except BuiltinError (PyValue × PyValue) :=
  match v with
  | .dict d => .ok ((Dict.get? d key).getD default, .dict (Dict.erase d key))
  | .list _ => .error ⟨.typeError, "pop expected at most 1 argument, got 2"⟩
  | v => v.attributeError "pop"

/-- `v.update(d)` -/
def update (v : PyValue) (d : PyDict) : Except BuiltinError PyDict :=
  match v with
  | .dict d' => .ok (Dict.update d' d)
  | v => v.attributeError "update"

/-- The elements met when iterating over `v`. -/
def iter : PyValue → Except BuiltinError (List PyValue)
  | .list xs | .tuple xs => .ok xs
  | .dict d => .ok (d.map fun kv => .str kv.1)
  | .str s => .ok (s.toList.map fun c => .str (String.singleton c))
  | .bytes b => .ok (b.map fun x => .int x.toNat)
  | v => .error ⟨.typeError, s!"'{v.typeName}' object is not iterable"⟩

/-- `float(v)` as the numeric operators coerce their operand. An integer that rounds past
the largest double overflows. -/
def toFloat : PyValue → Except BuiltinError PyFloat
  | .bool b => .ok (.finite (if b then 1 else 0))
  | .int n =>
    if n.natAbs < floatOverflow then .ok (.finite n)
    else .error ⟨.overflowError, "int too large to convert to float"⟩
  | .float x => .ok x
  | v => .error ⟨.typeError, s!"unsupported operand type(s) for /: '{v.typeName}' and 'float'"⟩

/-- `len(v)` -/
def len : PyValue → Except BuiltinError ℕ
  | .str s => .ok s.length
  | .bytes b => .ok b.length
  | .list xs => .ok xs.length
  | .tuple xs => .ok xs.length
  | .dict d => .ok d.length
  | v => .error ⟨.typeError, s!"object of type '{v.typeName}' has no len()"⟩

/-- What has a length is what can be iterated over. -/
theorem len_eq_ok {v : PyValue} {n : ℕ} :
    v.len = .ok n ↔ ∃ items, v.iter = .ok items ∧ items.length = n := by
  cases v <;> simp [len, iter, String.length_toList]

@[simp] theorem get_dict (d : PyDict) (key : String) (default : PyValue) :
    get (.dict d) key default = .ok ((d.get? key).getD default) := rfl

theorem eqStr_iff {v : PyValue} {s : String} : v.eqStr s ↔ v = .str s := by
  cases v <;> simp [eqStr]

theorem get_ok {v : PyValue} {key : String} {default x : PyValue} :
    v.get key default = .ok x ↔ ∃ d : PyDict, v = .dict d ∧ (d.get? key).getD default = x := by
  cases v <;> simp [get, attributeError]

theorem pop_ok {v : PyValue} {key : String} {default : PyValue} {r : PyValue × PyValue} :
    v.pop key default = .ok r ↔ ∃ d : PyDict, v = .dict d ∧
      r = ((d.get? key).getD default, .dict (d.erase key)) := by
  cases v <;> simp [pop, attributeError, eq_comm]

end PyValue

end PrefectQiskit
