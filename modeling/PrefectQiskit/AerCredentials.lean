import PrefectQiskit.LruCache
import PrefectQiskit.QuantumRuntime

/-!
# The cache of Aer clients

Credentials blocks are mutable and hold their basis gates by reference, and the backend is
handed a copy of that list which it may change. Clients are cached under the four values that
the backend is built from.
-/

namespace PrefectQiskit.AerCredentials

open LruCache

/-- `CLIENT_CACHE.maxsize` -/
def cacheSize : ℕ := 10

def noiseSeed : ℕ := 1234

/-- `CouplingMap.from_full`, `from_ring` or `from_line` with its arguments. -/
structure CouplingMap where
  topology : CouplingMapType
  numQubits : ℕ
  bidirectional : Bool
  deriving DecidableEq

/-- The arguments of `GenericBackendV2`, with the gates as they are in the list. -/
structure BackendArgs where
  numQubits : ℕ
  basisGates : List String
  couplingMap : CouplingMap
  noiseInfo : Bool
  seed : ℕ
  deriving DecidableEq

def backendArgs (fields : QiskitAerCredentials) : BackendArgs where
  numQubits := fields.numQubits
  basisGates := fields.basisGates
  couplingMap :=
    match fields.couplingMapType with
    | .full => ⟨.full, fields.numQubits, true⟩
    | .ring => ⟨.ring, fields.numQubits, true⟩
    | .linear => ⟨.linear, fields.numQubits, true⟩
  noiseInfo := fields.noise
  seed := noiseSeed

/-- `hashkey(...)`, which is compared by its parts. -/
abbrev ClientKey := ℕ × List String × Bool × CouplingMapType

def hashkey (fields : QiskitAerCredentials) : ClientKey :=
  (fields.numQubits, fields.basisGates, fields.noise, fields.couplingMapType)

/-- A client object with the arguments that its backend was built from. -/
structure ClientObject where
  id : ℕ
  backend : BackendArgs
  deriving DecidableEq

/-- `GenericBackendV2(...)`: what it leaves in the list it is given, and whether it raises. -/
abbrev BackendConstructor := BackendArgs → List String × Except ThirdPartyError Unit

/-- The fields of a block. The list of gates is an object of its own. -/
structure Block where
  numQubits : ℕ
  basisGates : ℕ
  noise : Bool
  couplingMapType : CouplingMapType

/-- List objects by address, credentials blocks and the client cache. -/
structure Heap (ι : Type) where
  lists : List (List String)
  blocks : ι → Block
  valid : ∀ i, (blocks i).basisGates < lists.length
  cache : Entries ClientKey ClientObject
  built : ℕ

namespace Heap

variable {ι : Type}

/-- The values of the four fields of a block. -/
def fields (s : Heap ι) (i : ι) : QiskitAerCredentials where
  numQubits := (s.blocks i).numQubits
  basisGates := s.lists.get ⟨(s.blocks i).basisGates, s.valid i⟩
  noise := (s.blocks i).noise
  couplingMapType := (s.blocks i).couplingMapType

/-- A new list object. -/
def newList (s : Heap ι) (gates : List String) : Heap ι where
  lists := s.lists ++ [gates]
  blocks := s.blocks
  valid i := by
    have h := s.valid i
    rw [List.length_append]
    omega
  cache := s.cache
  built := s.built

def editList (s : Heap ι) (address : ℕ) (gates : List String) : Heap ι where
  lists := s.lists.set address gates
  blocks := s.blocks
  valid i := by
    rw [List.length_set]
    exact s.valid i
  cache := s.cache
  built := s.built

/-- `get_client` under its `cached` decorator. -/
def getClient (construct : BackendConstructor) (s : Heap ι) (i : ι) :
    Except ThirdPartyError ClientObject × Heap ι :=
  let fields := s.fields i
  let key := hashkey fields
  match s.cache.find? key with
  | some client => (.ok client, { s with cache := s.cache.touch key client })
  | none =>
    -- `self.basis_gates.copy()` is the new list, and the constructor works on that one.
    let copied := s.newList fields.basisGates
    let (left, outcome) := construct (backendArgs fields)
    let constructed := copied.editList s.lists.length left
    match outcome with
    | .error e => (.error e, constructed)
    | .ok () =>
      let client := ⟨s.built, backendArgs fields⟩
      (.ok client, { constructed with
        cache := s.cache.store cacheSize key client
        built := s.built + 1 })

end Heap

/-- What happens between and in calls. An `evict` is a removal that the policy of the cache
did not ask for. -/
inductive Action (ι : Type) where
  | getClient (block : ι)
  | assign (block : ι) (fields : Block)
  | newList (gates : List String)
  | editList (address : ℕ) (gates : List String)
  | evict (key : ClientKey)

namespace Heap

variable {ι : Type} [DecidableEq ι]

/-- Fields are reassigned to values and to a list that exists. -/
def assign (s : Heap ι) (i : ι) (fields : Block) : Heap ι :=
  if h : fields.basisGates < s.lists.length then
    { s with
      blocks := Function.update s.blocks i fields
      valid := by
        intro j
        by_cases hj : j = i
        · rw [hj, Function.update_self]
          exact h
        · rw [Function.update_of_ne hj]
          exact s.valid j }
  else s

def step (construct : BackendConstructor) (s : Heap ι) : Action ι → Heap ι
  | .getClient i => (s.getClient construct i).2
  | .assign i fields => s.assign i fields
  | .newList gates => s.newList gates
  | .editList address gates => s.editList address gates
  | .evict key => { s with cache := s.cache.remove key }

def run (construct : BackendConstructor) (s : Heap ι) (actions : List (Action ι)) : Heap ι :=
  actions.foldl (step construct) s

/-- The configurations that are requested. -/
def requests (construct : BackendConstructor) : Heap ι → List (Action ι) → Finset ClientKey
  | _, [] => ∅
  | s, .getClient i :: actions =>
    insert (hashkey (s.fields i)) (requests construct (s.step construct (.getClient i)) actions)
  | s, action :: actions => requests construct (s.step construct action) actions

end Heap

section Calls

variable {ι : Type} {construct : BackendConstructor} {s : Heap ι}

/-- A call is a hit, a failed construction or a new client. -/
theorem getClient_cases (construct : BackendConstructor) (s : Heap ι) (i : ι) :
    (∃ client, s.cache.find? (hashkey (s.fields i)) = some client ∧
      s.getClient construct i =
        (.ok client, { s with cache := s.cache.touch (hashkey (s.fields i)) client })) ∨
    (s.cache.find? (hashkey (s.fields i)) = none ∧ ∃ left e,
      construct (backendArgs (s.fields i)) = (left, .error e) ∧
      s.getClient construct i =
        (.error e, (s.newList (s.fields i).basisGates).editList s.lists.length left)) ∨
    (s.cache.find? (hashkey (s.fields i)) = none ∧ ∃ left,
      construct (backendArgs (s.fields i)) = (left, .ok ()) ∧
      s.getClient construct i =
        (.ok ⟨s.built, backendArgs (s.fields i)⟩,
          { (s.newList (s.fields i).basisGates).editList s.lists.length left with
            cache := s.cache.store cacheSize (hashkey (s.fields i))
              ⟨s.built, backendArgs (s.fields i)⟩
            built := s.built + 1 })) := by
  cases hfind : s.cache.find? (hashkey (s.fields i)) with
  | some client =>
    refine .inl ⟨client, rfl, ?_⟩
    simp only [Heap.getClient, hfind]
  | none =>
    cases hconstruct : construct (backendArgs (s.fields i)) with
    | mk left outcome =>
      cases outcome with
      | error e =>
        refine .inr (.inl ⟨rfl, left, e, rfl, ?_⟩)
        simp only [Heap.getClient, hfind, hconstruct]
      | ok u =>
        refine .inr (.inr ⟨rfl, left, rfl, ?_⟩)
        simp only [Heap.getClient, hfind, hconstruct]

/-- No two configurations share a key. -/
theorem hashkey_injective {fields fields' : QiskitAerCredentials}
    (h : hashkey fields = hashkey fields') : fields = fields' := by
  cases fields
  cases fields'
  simpa [hashkey, and_assoc] using h

/-- Every cached client is one that was built for its key. -/
structure CacheInvariant (s : Heap ι) : Prop where
  valid : Valid cacheSize s.cache
  built : ∀ e ∈ s.cache, ∃ fields, e.1 = hashkey fields ∧ e.2.backend = backendArgs fields

theorem CacheInvariant.backend (h : CacheInvariant s) {fields : QiskitAerCredentials}
    {client : ClientObject} (hfind : s.cache.find? (hashkey fields) = some client) :
    client.backend = backendArgs fields := by
  obtain ⟨fields', hkey, hbackend⟩ := h.built _ ((find?_eq_some h.valid.nodup).1 hfind)
  rw [hashkey_injective hkey]
  exact hbackend

theorem CacheInvariant.getClient (h : CacheInvariant s) (i : ι) :
    CacheInvariant (s.getClient construct i).2 := by
  rcases getClient_cases construct s i with
    ⟨client, hfind, hcall⟩ | ⟨-, left, e, -, hcall⟩ | ⟨hfind, left, -, hcall⟩
  · rw [hcall]
    refine ⟨h.valid.touch hfind, fun e he => ?_⟩
    rcases mem_touch he with rfl | he
    · exact ⟨s.fields i, rfl, h.backend hfind⟩
    · exact h.built e he
  · rw [hcall]
    exact ⟨h.valid, h.built⟩
  · rw [hcall]
    refine ⟨h.valid.store hfind _, fun e he => ?_⟩
    rcases mem_store he with rfl | he
    · exact ⟨s.fields i, rfl, rfl⟩
    · exact h.built e he

section Runs

variable [DecidableEq ι]

theorem cache_assign (s : Heap ι) (i : ι) (fields : Block) : (s.assign i fields).cache = s.cache := by
  rw [Heap.assign]
  split <;> rfl

theorem CacheInvariant.step (h : CacheInvariant s) (action : Action ι) :
    CacheInvariant (s.step construct action) := by
  cases action with
  | getClient i => exact h.getClient i
  | assign i fields =>
    have hcache : (s.step construct (.assign i fields)).cache = s.cache := cache_assign s i fields
    exact ⟨hcache ▸ h.valid, hcache ▸ h.built⟩
  | newList gates => exact ⟨h.valid, h.built⟩
  | editList address gates => exact ⟨h.valid, h.built⟩
  | evict key =>
    exact ⟨h.valid.remove key, fun e he => h.built e ((remove_sublist _ _).subset he)⟩

end Runs

end Calls

section Sample

end Sample

end PrefectQiskit.AerCredentials
