import PrefectQiskit.JobPayload
import PrefectQiskit.ObjectHeap

/-!
# The job payload on a heap

`run_primitive` builds its payload from dictionaries of the caller by shallow copies on two
levels and then writes into the copies. On a heap of container objects the caller's
dictionaries are left as they are, so that every attempt of a task starts from the same
options.
-/

namespace PrefectQiskit.IBMQuantum

open ObjectHeap

variable {Q : Qiskit}

/-- An atom is a value that is no dictionary or list object of the heap. -/
abbrev PayloadHeap := Heap PyValue

abbrev HeapValue := Value PyValue

def pyReading : Reading PyValue PyValue where
  atom := id
  dict := .dict
  list := .list

/-- The entries of the dictionary at an address. -/
def entriesOf (heap : PayloadHeap) (address : ℕ) : Dict HeapValue :=
  match heap[address]? with
  | some (.dict entries) => entries
  | _ => []

/-- A write into the dictionary at an address. -/
def modifyDict (heap : PayloadHeap) (address : ℕ) (f : Dict HeapValue → Dict HeapValue) :
    PayloadHeap :=
  heap.modify address fun
    | .dict entries => .dict (f entries)
    | .list items => .list items

/-- What a serializer or a validator gets to see of the dictionary at an address. -/
def readDict (heap : PayloadHeap) (address : ℕ) : Option PyDict :=
  match readBack pyReading heap (.ref address) with
  | some (.dict d) => some d
  | _ => none

/-- The entries of `params.copy()`, as far as it can be updated afterwards. -/
def copyParams (heap : PayloadHeap) : HeapValue → Except BuiltinError (Dict HeapValue)
  | .ref address =>
    match heap[address]? with
    | some (.dict entries) => .ok entries
    | _ => (PyValue.list []).attributeError "update"
  | .atom v => do
    let copied ← v.copy
    let d ← copied.update []
    return d.map fun kv => (kv.1, .atom kv.2)

/-- `payload.pop("params").copy()`, or an empty dictionary. -/
def takeParams (heap : PayloadHeap) (payload : ℕ) :
    Except BuiltinError (Dict HeapValue) × PayloadHeap :=
  match (entriesOf heap payload).get? "params" with
  | some v =>
    let heap := modifyDict heap payload fun entries => entries.erase "params"
    (copyParams heap v, heap)
  | none => (.ok [], heap)

/-- What one call posts and how it ends. -/
structure CallRecord where
  posted : Option PyDict
  outcome : Except PyException PyValue

section Calls

variable (py : Builtins) (client : IBMQuantumPlatformClient) (lib : ThirdParty Q)

/-- From the serialization of the payload on. -/
def send (body : PyDict) (exchange : Exchange PyDict) : CallRecord :=
  match lib.dumps body with
  | .error e => ⟨none, .error (.foreign e.cls e.message)⟩
  | .ok _ =>
    match exchange.token with
    | .error e => ⟨none, .error (.foreign e.cls e.message)⟩
    | .ok _ =>
      ⟨some body, do
        let ret ← runtimeSessionCtx py client exchange
        jobIdOf py ret⟩

def circularReference : CallRecord :=
  ⟨none, .error (.foreign "ValueError" (some "Circular reference detected"))⟩

/-- `run_primitive` from the rows on, with the addresses of its two dictionaries. -/
def submitAt (programId : ProgramType) (payload params : ℕ) (rows : List PyValue)
    (heap : PayloadHeap) (exchange : Exchange PyDict) : PayloadHeap × CallRecord :=
  let heap := modifyDict heap params fun entries => entries.set "pubs" (.atom (.list rows))
  match readDict heap params with
  -- A cycle ends the call at the schema or at the encoder, before a request either way.
  | none => (heap, circularReference)
  | some validated =>
    if !lib.modelValidate programId validated then
      (heap, ⟨none, raiseFailure py
        { reason := "Primitive input doesn't match the data schema for Runtime REST API."
          retry := false }⟩)
    else
      let heap := modifyDict heap payload fun entries =>
        entries.set "program_id" (.atom (.str programId.name))
      let heap := modifyDict heap payload fun entries => entries.set "params" (.ref params)
      match readDict heap payload with
      | none => (heap, circularReference)
      | some body => (heap, send py client lib body exchange)

/-- `run_primitive` with the address of the options. -/
def runPrimitiveAt (programId : ProgramType) (inputs : Pubs Q) (resourceName : String)
    (options : ℕ) (heap : PayloadHeap) (exchange : Exchange PyDict) : PayloadHeap × CallRecord :=
  let payload := heap.length
  let heap := heap ++ [.dict (Dict.update
    [("program_id", .atom .none), ("backend", .atom (.str resourceName))]
    (entriesOf heap options))]
  match takeParams heap payload with
  | (.error e, heap) => (heap, ⟨none, .error (.builtin e)⟩)
  | (.ok entries, heap) =>
    let params := heap.length
    let heap := heap ++ [.dict entries]
    let heap := modifyDict heap params fun entries => entries.update
      [("support_qiskit", .atom (.bool true)), ("version", .atom (.int 2))]
    match pubRows lib programId inputs with
    | .error e => (heap, ⟨none, .error e⟩)
    | .ok rows => submitAt py client lib programId payload params rows heap exchange

/-- Consecutive calls with the same arguments, each with its own server outcome. -/
def attempts (programId : ProgramType) (inputs : Pubs Q) (resourceName : String) (options : ℕ) :
    PayloadHeap → List (Exchange PyDict) → List (PayloadHeap × CallRecord)
  | _, [] => []
  | heap, exchange :: exchanges =>
    let call := runPrimitiveAt py client lib programId inputs resourceName options heap exchange
    call :: attempts programId inputs resourceName options call.1 exchanges

/-- A call whose body is prepared, or raises before. -/
def recordOf (prepared : Except PyException PyDict) (exchange : Exchange PyDict) : CallRecord :=
  match prepared with
  | .ok body =>
    ⟨some body, do
      let ret ← runtimeSessionCtx py client exchange
      jobIdOf py ret⟩
  | .error e => ⟨none, .error e⟩

/-- The call as the computation on values describes it. -/
def callRecord (programId : ProgramType) (inputs : Pubs Q) (resourceName : String)
    (options : PyDict) (exchange : Exchange PyDict) : CallRecord :=
  recordOf py client (preparedBody py lib programId inputs resourceName options exchange.token)
    exchange

theorem callRecord_outcome (programId : ProgramType) (inputs : Pubs Q) (resourceName : String)
    (options : PyDict) (exchange : Exchange PyDict) :
    (callRecord py client lib programId inputs resourceName options exchange).outcome =
      runPrimitive py client lib programId inputs resourceName options exchange := by
  rw [runPrimitive_eq, callRecord]
  cases preparedBody py lib programId inputs resourceName options exchange.token <;> rfl

end Calls

/-! ## Writes to new dictionaries -/

theorem getElem?_new (heap rest : PayloadHeap) (e : Dict HeapValue) :
    (heap ++ .dict e :: rest)[heap.length]? = some (.dict e) := by
  rw [List.getElem?_append_right (Nat.le_refl _), Nat.sub_self]
  rfl

section Refinement

variable (py : Builtins) (client : IBMQuantumPlatformClient) (lib : ThirdParty Q)

end Refinement

/-! ## Consecutive calls -/

section Runs

variable {py : Builtins} {client : IBMQuantumPlatformClient} {lib : ThirdParty Q}
  {programId : ProgramType} {inputs : Pubs Q} {resourceName : String} {options : PyDict}

end Runs

section Sample

end Sample

end PrefectQiskit.IBMQuantum
