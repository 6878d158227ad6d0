import PrefectQiskit.ExecutionCache
import PrefectQiskit.MemoStream

/-!
# What the cache key shows of the options

The options and the resource name are pickled as a graph of objects: dictionaries in insertion
order, and objects that occur again as references into the memo. The key is the same wherever
the objects live, so a script that builds its options again finds the result. It is not a
function of what the options compare equal to.
-/

namespace PrefectQiskit.CanonicalKey

open ObjectHeap MemoStream

variable {Q : Qiskit}

/-- Values that are pickled in place. -/
inductive Constant where
  | none
  | bool (b : Bool)
  | int (n : ℤ)
  | float (x : PyFloat)
  deriving DecidableEq

abbrev ObjectValue := Value Constant

/-- Objects that the pickler keeps track of: texts, bytes, tuples, lists and dictionaries, classes
and functions by name, and other objects by what `__reduce_ex__` returns. Sets and objects made by
`__newobj__` are not covered, and of the constants above there is one zero and one NaN. -/
inductive HeapObject where
  | str (s : String)
  | bytes (b : List UInt8)
  | tuple (items : List ObjectValue)
  | list (items : List ObjectValue)
  | dict (entries : List (ObjectValue × ObjectValue))
  /-- A class or a function, by the names of its module and of itself. -/
  | named (module qualname : ObjectValue)
  /-- An object of another class, as what its `__reduce_ex__` returns. -/
  | reduced (callable args : ObjectValue) (state : Option ObjectValue)

abbrev PyHeap := List HeapObject

/-- The opcodes of protocol 4, where those that differ in the width of an argument only are
one. -/
inductive Opcode where
  | binUnicode (s : String)
  | binBytes (b : List UInt8)
  | emptyTuple | tuple1 | tuple2 | tuple3 | tuple
  | emptyList | append | appends
  | emptyDict | setItem | setItems
  | stackGlobal | reduce | build
  | mark | pop | popMark
  | stop

abbrev PickleStep := Step Constant Opcode

abbrev PickleItem := Item Constant Opcode

def batchSize : ℕ := 1000

/-- The items after the mark of a batch, with room for as many in it. -/
def appendBatches : ℕ → List ObjectValue → List PickleStep
  | _, [] => [.emit .appends]
  | 0, x :: xs => .emit .appends :: .emit .mark :: .save x :: appendBatches (batchSize - 1) xs
  | room + 1, x :: xs => .save x :: appendBatches room xs

def batchList : List ObjectValue → List PickleStep
  | [] => []
  | [x] => [.save x, .emit .append]
  | items => .emit .mark :: appendBatches batchSize items

/-- Unlike a list, a dictionary starts another batch after a full one even when nothing is
left for it. -/
def setItemBatches : ℕ → List (ObjectValue × ObjectValue) → List PickleStep
  | 0, [] => [.emit .setItems, .emit .mark, .emit .setItems]
  | _ + 1, [] => [.emit .setItems]
  | 0, kv :: entries => .emit .setItems :: .emit .mark :: .save kv.1 :: .save kv.2 ::
      setItemBatches (batchSize - 1) entries
  | room + 1, kv :: entries => .save kv.1 :: .save kv.2 :: setItemBatches room entries

def batchDict : List (ObjectValue × ObjectValue) → List PickleStep
  | [] => []
  | [kv] => [.save kv.1, .save kv.2, .emit .setItem]
  | entries => .emit .mark :: setItemBatches batchSize entries

/-- A tuple is entered into the memo after its items, which may have entered it already. -/
def tupleSteps (items : List ObjectValue) : List PickleStep :=
  match items.length with
  | 0 => [.emit .emptyTuple]
  | 1 => items.map .save ++ [.memoize [.tuple1] [.pop]]
  | 2 => items.map .save ++ [.memoize [.tuple2] [.pop, .pop]]
  | 3 => items.map .save ++ [.memoize [.tuple3] [.pop, .pop, .pop]]
  | _ => .emit .mark :: (items.map .save ++ [.memoize [.tuple] [.popMark]])

/-- How an object is pickled that is not in the memo. -/
def recipe : HeapObject → List PickleStep
  | .str s => [.memoize [.binUnicode s] []]
  | .bytes b => [.memoize [.binBytes b] []]
  | .tuple items => tupleSteps items
  | .list items => .memoize [.emptyList] [] :: batchList items
  | .dict entries => .memoize [.emptyDict] [] :: batchDict entries
  | .named module qualname => [.save module, .save qualname, .memoize [.stackGlobal] []]
  | .reduced callable args state =>
    [.save callable, .save args, .emit .reduce, .memoize [] [.pop]] ++
      match state with
      | some state => [.save state, .emit .build]
      | none => []

/-- The opcodes of `pickle.dumps`, when the nesting stays below the recursion limit. -/
def pickleItems (limit : ℕ) (heap : PyHeap) (root : ObjectValue) : Option (List PickleItem) :=
  (stream (fun a => heap[a]?.map recipe) limit root).map fun items => items ++ [.token .stop]

/-- The objects that `pub_hasher` makes from address `n` on: the bytes of the blocs, the list of
them, and the tuple of this list, the options and the resource name. -/
def newObjects (pubBytes : List (List UInt8)) (options resourceName : ObjectValue) (n : ℕ) :
    PyHeap :=
  pubBytes.map .bytes ++
    [.list ((List.range pubBytes.length).map fun i => .ref (n + i)),
      .tuple [.ref (n + pubBytes.length), options, resourceName]]

section Hashing

/-! `layout` writes opcodes out in bytes and frames, and `limit` is the recursion limit. -/

variable (lib : HashLibrary Q) (layout : List PickleItem → List UInt8) (limit : ℕ)

/-- `pickle.dumps(root, protocol=4)` -/
def dumps (heap : PyHeap) (root : ObjectValue) : Except ThirdPartyError (List UInt8) :=
  match pickleItems limit heap root with
  | some items => .ok (layout items)
  | none => .error ⟨"RecursionError",
      some "maximum recursion depth exceeded while pickling an object"⟩

/-- `pub_hasher` with options and resource name on a heap. -/
def pubHasher (pubs : Pubs Q) (options resourceName : ObjectValue) (heap : PyHeap) :
    Except ThirdPartyError String := do
  let pubBytes ← pubs.toList.mapM fun pub => encodePub lib pub
  let inputs ← dumps layout limit (heap ++ newObjects pubBytes options resourceName heap.length)
    (.ref (heap.length + (pubBytes.length + 1)))
  return lib.sha256 inputs

def primitiveCache (pubs : Pubs Q) (options resourceName : ObjectValue) (heap : PyHeap) :
    Except ThirdPartyError String := do
  let key ← pubHasher lib layout limit pubs options resourceName heap
  return cachePrefix ++ key

/-- Where the serializer of values gives these bytes, this is the key of the values. -/
theorem primitiveCache_eq (pubs : Pubs Q) (options : Option PyDict) (resourceName : String)
    {v w : ObjectValue} {heap : PyHeap}
    (hdumps : ∀ pubBytes, dumps layout limit (heap ++ newObjects pubBytes v w heap.length)
        (.ref (heap.length + (pubBytes.length + 1))) =
      lib.pickleDumps [.value (.list (pubBytes.map .bytes)), .value (optionsValue options),
        .value (.str resourceName)]) :
    primitiveCache lib layout limit pubs v w heap =
      PrefectQiskit.primitiveCache lib ⟨pubs, options, resourceName⟩ := by
  rw [primitiveCache, PrefectQiskit.primitiveCache, pubHasher, PrefectQiskit.pubHasher,
    hashedInputs]
  cases pubs.toList.mapM fun pub => encodePub lib pub with
  | error e => rfl
  | ok pubBytes => simp only [ok_bind, hdumps]

end Hashing

/-! ## Graphs of one shape -/

/-- Objects of one type with the same contents in the same order. -/
inductive ObjectRel (R : ℕ → ℕ → Prop) : HeapObject → HeapObject → Prop
  | str (s : String) : ObjectRel R (.str s) (.str s)
  | bytes (b : List UInt8) : ObjectRel R (.bytes b) (.bytes b)
  | tuple {xs ys : List ObjectValue} (items : List.Forall₂ (ValueRel R) xs ys) :
      ObjectRel R (.tuple xs) (.tuple ys)
  | list {xs ys : List ObjectValue} (items : List.Forall₂ (ValueRel R) xs ys) :
      ObjectRel R (.list xs) (.list ys)
  | dict {d e : List (ObjectValue × ObjectValue)}
      (entries : List.Forall₂ (fun kv kw => ValueRel R kv.1 kw.1 ∧ ValueRel R kv.2 kw.2) d e) :
      ObjectRel R (.dict d) (.dict e)
  | named {m m' q q' : ObjectValue} (module : ValueRel R m m') (qualname : ValueRel R q q') :
      ObjectRel R (.named m q) (.named m' q')
  | reduced {c c' args args' : ObjectValue} {s s' : Option ObjectValue}
      (callable : ValueRel R c c') (arguments : ValueRel R args args')
      (state : Option.Rel (ValueRel R) s s') :
      ObjectRel R (.reduced c args s) (.reduced c' args' s')

/-- Corresponding addresses hold such objects, and no two addresses correspond to one. -/
structure SameGraph (R : ℕ → ℕ → Prop) (heap heap' : PyHeap) : Prop where
  biUnique : Relator.BiUnique R
  object : ∀ {a b : ℕ}, R a b → ∃ o o', heap[a]? = some o ∧ heap'[b]? = some o' ∧ ObjectRel R o o'

section Recipes

variable {R : ℕ → ℕ → Prop}

theorem saves_rel {xs ys : List ObjectValue} (h : List.Forall₂ (ValueRel R) xs ys) :
    List.Forall₂ (StepRel R) (xs.map (Step.save : ObjectValue → PickleStep)) (ys.map .save) :=
  List.rel_map (fun _ _ hvalue => .save hvalue) h

theorem appendBatches_rel {xs ys : List ObjectValue} (h : List.Forall₂ (ValueRel R) xs ys)
    (room : ℕ) : List.Forall₂ (StepRel R) (appendBatches room xs) (appendBatches room ys) := by
  induction h generalizing room with
  | nil =>
    rw [appendBatches]
    exact .cons (.emit _) .nil
  | cons hvalue _ ih =>
    cases room with
    | zero => exact .cons (.emit _) (.cons (.emit _) (.cons (.save hvalue) (ih _)))
    | succ room => exact .cons (.save hvalue) (ih room)

theorem batchList_rel {xs ys : List ObjectValue} (h : List.Forall₂ (ValueRel R) xs ys) :
    List.Forall₂ (StepRel R) (batchList xs) (batchList ys) := by
  cases h with
  | nil => exact .nil
  | cons hvalue htail =>
    cases htail with
    | nil => exact .cons (.save hvalue) (.cons (.emit _) .nil)
    | cons hvalue' htail =>
      exact .cons (.emit _) (appendBatches_rel (.cons hvalue (.cons hvalue' htail)) batchSize)

theorem setItemBatches_rel {d e : List (ObjectValue × ObjectValue)}
    (h : List.Forall₂ (fun kv kw => ValueRel R kv.1 kw.1 ∧ ValueRel R kv.2 kw.2) d e) (room : ℕ) :
    List.Forall₂ (StepRel R) (setItemBatches room d) (setItemBatches room e) := by
  induction h generalizing room with
  | nil =>
    cases room with
    | zero => exact .cons (.emit _) (.cons (.emit _) (.cons (.emit _) .nil))
    | succ room => exact .cons (.emit _) .nil
  | cons hkv _ ih =>
    cases room with
    | zero =>
      exact .cons (.emit _) (.cons (.emit _) (.cons (.save hkv.1) (.cons (.save hkv.2) (ih _))))
    | succ room => exact .cons (.save hkv.1) (.cons (.save hkv.2) (ih room))

theorem batchDict_rel {d e : List (ObjectValue × ObjectValue)}
    (h : List.Forall₂ (fun kv kw => ValueRel R kv.1 kw.1 ∧ ValueRel R kv.2 kw.2) d e) :
    List.Forall₂ (StepRel R) (batchDict d) (batchDict e) := by
  cases h with
  | nil => exact .nil
  | cons hkv htail =>
    cases htail with
    | nil => exact .cons (.save hkv.1) (.cons (.save hkv.2) (.cons (.emit _) .nil))
    | cons hkv' htail =>
      exact .cons (.emit _) (setItemBatches_rel (.cons hkv (.cons hkv' htail)) batchSize)

theorem tupleSteps_rel {xs ys : List ObjectValue} (h : List.Forall₂ (ValueRel R) xs ys) :
    List.Forall₂ (StepRel R) (tupleSteps xs) (tupleSteps ys) := by
  have hclosed : ∀ done undo, List.Forall₂ (StepRel R)
      (xs.map .save ++ [(.memoize done undo : PickleStep)])
      (ys.map .save ++ [.memoize done undo]) :=
    fun done undo => List.rel_append (saves_rel h) (.cons (.memoize done undo) .nil)
  rw [tupleSteps, tupleSteps, h.length_eq]
  generalize ys.length = n
  match n with
  | 0 => exact .cons (.emit _) .nil
  | 1 => exact hclosed _ _
  | 2 => exact hclosed _ _
  | 3 => exact hclosed _ _
  | _ + 4 => exact .cons (.emit _) (hclosed _ _)

theorem recipe_rel {o o' : HeapObject} (h : ObjectRel R o o') :
    List.Forall₂ (StepRel R) (recipe o) (recipe o') := by
  cases h with
  | str s => exact .cons (.memoize _ _) .nil
  | bytes b => exact .cons (.memoize _ _) .nil
  | tuple items => exact tupleSteps_rel items
  | list items => exact .cons (.memoize _ _) (batchList_rel items)
  | dict entries => exact .cons (.memoize _ _) (batchDict_rel entries)
  | named module qualname =>
    exact .cons (.save module) (.cons (.save qualname) (.cons (.memoize _ _) .nil))
  | reduced callable arguments state =>
    apply List.rel_append
    · exact .cons (.save callable) (.cons (.save arguments) (.cons (.emit _)
        (.cons (.memoize _ _) .nil)))
    · cases state with
      | none => exact .nil
      | some hstate => exact .cons (.save hstate) (.cons (.emit _) .nil)

theorem SameGraph.sameShape {heap heap' : PyHeap} (h : SameGraph R heap heap') :
    SameShape R (fun a => heap[a]?.map recipe) (fun a => heap'[a]?.map recipe) where
  biUnique := h.biUnique
  recipe hab := by
    obtain ⟨o, o', ho, ho', hobject⟩ := h.object hab
    rw [ho, ho']
    exact .some (recipe_rel hobject)

end Recipes

/-! ## The pickled tuple -/

section Inputs

variable {R S : ℕ → ℕ → Prop} {heap heap' : PyHeap}

theorem ObjectRel.imp (h : ∀ {a b : ℕ}, R a b → S a b) {o o' : HeapObject}
    (hobject : ObjectRel R o o') : ObjectRel S o o' := by
  cases hobject with
  | str s => exact .str s
  | bytes b => exact .bytes b
  | tuple items => exact .tuple (items.imp fun _ _ hv => hv.imp h)
  | list items => exact .list (items.imp fun _ _ hv => hv.imp h)
  | dict entries => exact .dict (entries.imp fun _ _ hkv => ⟨hkv.1.imp h, hkv.2.imp h⟩)
  | named module qualname => exact .named (module.imp h) (qualname.imp h)
  | reduced callable arguments state =>
    refine .reduced (callable.imp h) (arguments.imp h) ?_
    cases state with
    | none => exact .none
    | some hstate => exact .some (hstate.imp h)

theorem SameGraph.lt (h : SameGraph R heap heap') {a b : ℕ} (hab : R a b) :
    a < heap.length ∧ b < heap'.length := by
  obtain ⟨o, o', ho, ho', -⟩ := h.object hab
  exact ⟨(List.getElem?_eq_some_iff.1 ho).1, (List.getElem?_eq_some_iff.1 ho').1⟩

theorem newObjects_rel (pubBytes : List (List UInt8)) (n n' : ℕ)
    {options options' resourceName resourceName' : ObjectValue}
    (hoptions : ValueRel R options options') (hname : ValueRel R resourceName resourceName') :
    List.Forall₂ (ObjectRel (Extended R n n' (pubBytes.length + 2)))
      (newObjects pubBytes options resourceName n)
      (newObjects pubBytes options' resourceName' n') := by
  have hbytes : List.Forall₂ (ObjectRel (Extended R n n' (pubBytes.length + 2)))
      (pubBytes.map .bytes) (pubBytes.map .bytes) := by
    apply List.forall₂_map_left_iff.2
    apply List.forall₂_map_right_iff.2
    exact List.forall₂_same.2 fun b _ => .bytes b
  have hlist : List.Forall₂ (ValueRel (Extended R n n' (pubBytes.length + 2)))
      ((List.range pubBytes.length).map fun i => (.ref (n + i) : ObjectValue))
      ((List.range pubBytes.length).map fun i => .ref (n' + i)) := by
    apply List.forall₂_map_left_iff.2
    apply List.forall₂_map_right_iff.2
    apply List.forall₂_same.2
    intro i hi
    have hlt := List.mem_range.1 hi
    exact .ref (.new (by omega))
  have htuple : ValueRel (Extended R n n' (pubBytes.length + 2))
      (.ref (n + pubBytes.length) : ObjectValue) (.ref (n' + pubBytes.length)) :=
    .ref (.new (by omega))
  exact List.rel_append hbytes (.cons (.list hlist) (.cons (.tuple (.cons htuple
    (.cons (hoptions.imp .old) (.cons (hname.imp .old) .nil)))) .nil))

theorem getElem?_new (heap new : PyHeap) (i : ℕ) :
    (heap ++ new)[heap.length + i]? = new[i]? := by
  rw [List.getElem?_append_right (by omega), Nat.add_sub_cancel_left]

theorem SameGraph.append (h : SameGraph R heap heap') {new new' : PyHeap} {k : ℕ}
    (hk : new.length = k)
    (hnew : List.Forall₂ (ObjectRel (Extended R heap.length heap'.length k)) new new') :
    SameGraph (Extended R heap.length heap'.length k) (heap ++ new) (heap' ++ new') where
  biUnique := Extended.biUnique h.biUnique h.lt
  object hab := by
    cases hab with
    | old hab =>
      obtain ⟨o, o', ho, ho', hobject⟩ := h.object hab
      have hlt := h.lt hab
      refine ⟨o, o', ?_, ?_, hobject.imp .old⟩
      · rw [List.getElem?_append_left hlt.1, ho]
      · rw [List.getElem?_append_left hlt.2, ho']
    | @new i hi =>
      have hi' : i < new.length := by omega
      have hi'' : i < new'.length := by
        have hlength := hnew.length_eq
        omega
      refine ⟨_, _, ?_, ?_, hnew.get hi' hi''⟩
      · exact (getElem?_new heap new i).trans (List.getElem?_eq_getElem hi')
      · exact (getElem?_new heap' new' i).trans (List.getElem?_eq_getElem hi'')

/-- The inputs are pickled alike on both heaps. -/
theorem SameGraph.pickleItems_eq (h : SameGraph R heap heap') (limit : ℕ)
    (pubBytes : List (List UInt8)) {options options' resourceName resourceName' : ObjectValue}
    (hoptions : ValueRel R options options') (hname : ValueRel R resourceName resourceName') :
    pickleItems limit (heap ++ newObjects pubBytes options resourceName heap.length)
        (.ref (heap.length + (pubBytes.length + 1))) =
      pickleItems limit (heap' ++ newObjects pubBytes options' resourceName' heap'.length)
        (.ref (heap'.length + (pubBytes.length + 1))) := by
  have hgraph := h.append (by simp [newObjects])
    (newObjects_rel pubBytes heap.length heap'.length hoptions hname)
  have hroot : ValueRel (Extended R heap.length heap'.length (pubBytes.length + 2))
      (.ref (heap.length + (pubBytes.length + 1)) : ObjectValue)
      (.ref (heap'.length + (pubBytes.length + 1))) := .ref (.new (by omega))
  rw [pickleItems, pickleItems, stream_eq hgraph.sameShape hroot]

theorem primitiveCache_eq_of_sameGraph (lib : HashLibrary Q)
    (layout : List PickleItem → List UInt8) (limit : ℕ) (pubs : Pubs Q)
    {options options' resourceName resourceName' : ObjectValue} (h : SameGraph R heap heap')
    (hoptions : ValueRel R options options') (hname : ValueRel R resourceName resourceName') :
    primitiveCache lib layout limit pubs options resourceName heap =
      primitiveCache lib layout limit pubs options' resourceName' heap' := by
  rw [primitiveCache, primitiveCache, pubHasher, pubHasher]
  cases pubs.toList.mapM fun pub => encodePub lib pub with
  | error e => rfl
  | ok pubBytes => simp only [ok_bind, dumps, h.pickleItems_eq limit pubBytes hoptions hname]

end Inputs

/-! ## The recursion limit -/

/-- The value is nested at most `n` objects deep, so it has no cycle. -/
def NestedIn (heap : PyHeap) (n : ℕ) (v : ObjectValue) : Prop :=
  Nested (fun a => heap[a]?.map recipe) n v

theorem NestedIn.append {heap new : PyHeap} {n m : ℕ} (hnm : n ≤ m) {v : ObjectValue}
    (h : NestedIn heap n v) : NestedIn (heap ++ new) m v := by
  apply Nested.mono hnm _ h
  intro a steps hsteps
  obtain ⟨o, ho, rfl⟩ := Option.map_eq_some_iff.1 hsteps
  rw [List.getElem?_append_left (List.getElem?_eq_some_iff.1 ho).1, ho]
  rfl

theorem nestedIn_ref {heap : PyHeap} {a n : ℕ} {o : HeapObject} (ha : heap[a]? = some o)
    (h : ∀ v, .save v ∈ recipe o → NestedIn heap n v) : NestedIn heap (n + 1) (.ref a) :=
  ⟨recipe o, Option.map_eq_some_iff.2 ⟨o, ha, rfl⟩, h⟩

theorem mem_appendBatches {v : ObjectValue} {items : List ObjectValue} {room : ℕ}
    (h : .save v ∈ appendBatches room items) : v ∈ items := by
  induction items generalizing room with
  | nil => simp [appendBatches] at h
  | cons x xs ih =>
    cases room with
    | zero =>
      have h' : v = x ∨ .save v ∈ appendBatches (batchSize - 1) xs := by
        simpa [appendBatches] using h
      exact List.mem_cons.2 (h'.imp_right ih)
    | succ room =>
      have h' : v = x ∨ .save v ∈ appendBatches room xs := by simpa [appendBatches] using h
      exact List.mem_cons.2 (h'.imp_right ih)

theorem mem_batchList {v : ObjectValue} {items : List ObjectValue} (h : .save v ∈ batchList items) :
    v ∈ items := by
  match items with
  | [] => simp [batchList] at h
  | [x] => simpa [batchList] using h
  | x :: y :: items =>
    have h' : .save v ∈ appendBatches batchSize (x :: y :: items) := by simpa [batchList] using h
    exact mem_appendBatches h'

section NewObjects

variable (pubBytes : List (List UInt8)) {options resourceName : ObjectValue} {heap : PyHeap} {n : ℕ}

theorem newBytes_nested {i : ℕ} (hi : i < pubBytes.length) :
    NestedIn (heap ++ newObjects pubBytes options resourceName heap.length) (n + 1)
      (.ref (heap.length + i)) := by
  have hobject :
      (heap ++ newObjects pubBytes options resourceName heap.length)[heap.length + i]? =
        some (.bytes (pubBytes.get ⟨i, hi⟩)) := by
    rw [getElem?_new, newObjects, List.getElem?_append_left (by simpa using hi)]
    simp [hi]
  exact nestedIn_ref hobject fun v hv => by simp [recipe] at hv

theorem newList_nested :
    NestedIn (heap ++ newObjects pubBytes options resourceName heap.length) (n + 2)
      (.ref (heap.length + pubBytes.length)) := by
  have hobject : (heap ++ newObjects pubBytes options resourceName
      heap.length)[heap.length + pubBytes.length]? =
        some (.list ((List.range pubBytes.length).map fun i => .ref (heap.length + i))) := by
    rw [getElem?_new, newObjects, List.getElem?_append_right (by simp)]
    simp
  apply nestedIn_ref hobject
  intro v hv
  have hmem : v ∈ (List.range pubBytes.length).map fun i =>
      (.ref (heap.length + i) : ObjectValue) := mem_batchList (by simpa [recipe] using hv)
  obtain ⟨i, hi, rfl⟩ := List.mem_map.1 hmem
  exact newBytes_nested pubBytes (List.mem_range.1 hi)

/-- The new tuple adds three levels to the options and the resource name at most. -/
theorem newObjects_nested (hoptions : NestedIn heap n options)
    (hname : NestedIn heap n resourceName) :
    NestedIn (heap ++ newObjects pubBytes options resourceName heap.length) (n + 3)
      (.ref (heap.length + (pubBytes.length + 1))) := by
  have hobject : (heap ++ newObjects pubBytes options resourceName
      heap.length)[heap.length + (pubBytes.length + 1)]? =
        some (.tuple [.ref (heap.length + pubBytes.length), options, resourceName]) := by
    rw [getElem?_new, newObjects, List.getElem?_append_right (by simp)]
    simp
  apply nestedIn_ref hobject
  intro v hv
  have hparts : v = .ref (heap.length + pubBytes.length) ∨ v = options ∨ v = resourceName := by
    simpa [recipe, tupleSteps] using hv
  obtain rfl | rfl | rfl := hparts
  · exact newList_nested pubBytes
  · exact hoptions.append (by omega)
  · exact hname.append (by omega)

end NewObjects

/-- With encodable blocs and options without a cycle a key is computed, and a higher limit
changes nothing about it. -/
theorem primitiveCache_returns (lib : HashLibrary Q) (layout : List PickleItem → List UInt8)
    {pubs : Pubs Q} {options resourceName : ObjectValue} {heap : PyHeap} {n : ℕ}
    (hpubs : ∀ pub ∈ pubs.toList, ∃ bytes, encodePub lib pub = .ok bytes)
    (hoptions : NestedIn heap n options) (hname : NestedIn heap n resourceName) :
    ∃ key, ∀ limit ≥ n + 3,
      primitiveCache lib layout limit pubs options resourceName heap = .ok key := by
  obtain ⟨pubBytes, hbytes⟩ := (mapM_ok_iff _ _).2 hpubs
  have hnested := newObjects_nested pubBytes hoptions hname
  obtain ⟨items, hitems⟩ := Option.isSome_iff_exists.1 hnested.stream_isSome
  refine ⟨cachePrefix ++ lib.sha256 (layout (items ++ [.token .stop])), fun limit hlimit => ?_⟩
  rw [primitiveCache, pubHasher, hbytes, ok_bind, dumps, pickleItems, stream_mono hlimit hitems]
  rfl

/-- Where the objects of the options and of the resource name live makes no difference, and
neither does what else the heap holds. -/
theorem primitiveCache_canonical (lib : HashLibrary Q) (layout : List PickleItem → List UInt8)
    (pubs : Pubs Q) (R : ℕ → ℕ → Prop) (heap heap' : PyHeap)
    (options options' resourceName resourceName' : ObjectValue) (hgraph : SameGraph R heap heap')
    (hoptions : ValueRel R options options') (hname : ValueRel R resourceName resourceName') :
    (∀ limit, primitiveCache lib layout limit pubs options resourceName heap =
      primitiveCache lib layout limit pubs options' resourceName' heap') ∧
    ∀ n, (∀ pub ∈ pubs.toList, ∃ bytes, encodePub lib pub = .ok bytes) →
      NestedIn heap n options → NestedIn heap n resourceName → ∃ key, ∀ limit ≥ n + 3,
        primitiveCache lib layout limit pubs options resourceName heap = .ok key ∧
          primitiveCache lib layout limit pubs options' resourceName' heap' = .ok key := by
  have hkeys : ∀ limit, primitiveCache lib layout limit pubs options resourceName heap =
      primitiveCache lib layout limit pubs options' resourceName' heap' :=
    fun limit => primitiveCache_eq_of_sameGraph lib layout limit pubs hgraph hoptions hname
  refine ⟨hkeys, fun n hpubs hnested hnested' => ?_⟩
  obtain ⟨key, hkey⟩ := primitiveCache_returns lib layout hpubs hnested hnested'
  exact ⟨key, fun limit hlimit => ⟨hkey limit hlimit, hkeys limit ▸ hkey limit hlimit⟩⟩

/-! ## Options that compare equal -/

/-- The number that a constant compares as. -/
def Constant.number? : Constant → Option ℚ
  | .bool b => some (if b then 1 else 0)
  | .int n => some n
  | .float (.finite q) => some q
  | _ => Option.none

/-- `a == b` for constants. -/
def Constant.pyEq (a b : Constant) : Bool :=
  match a, b with
  | .none, .none => true
  | .float (.inf s), .float (.inf t) => s = t
  | a, b =>
    match a.number?, b.number? with
    | some p, some q => p = q
    | _, _ => false

/-- `v == w`, followed through at most `n` objects. Objects of other classes are equal to
themselves only. -/
def pyEq (heap : PyHeap) : ℕ → ObjectValue → ObjectValue → Bool
  | _, .atom a, .atom b => a.pyEq b
  | n + 1, .ref a, .ref b =>
    a = b ||
      match heap[a]?, heap[b]? with
      | some (.str s), some (.str t) => s = t
      | some (.bytes s), some (.bytes t) => s = t
      | some (.tuple xs), some (.tuple ys) | some (.list xs), some (.list ys) =>
        xs.length = ys.length && (xs.zip ys).all fun p => pyEq heap n p.1 p.2
      | some (.dict d), some (.dict e) =>
        d.length = e.length && d.all fun kv =>
          e.any fun kw => pyEq heap n kv.1 kw.1 && pyEq heap n kv.2 kw.2
      | _, _ => false
  | _, _, _ => false

/-- `options or {}` -/
def IsAbsent (heap : PyHeap) (v : ObjectValue) : Prop :=
  v = .atom .none ∨ ∃ a, v = .ref a ∧ heap[a]? = some (.dict [])

/-- The options compare equal, or both stand for no options at all. -/
def SameJob (heap : PyHeap) (options options' : ObjectValue) : Prop :=
  (∃ n, pyEq heap n options options') ∨ IsAbsent heap options ∧ IsAbsent heap options'

section Sample

/-- The bytes of an item with short strings and small numbers. -/
def itemBytes : PickleItem → List UInt8
  | .atom .none => [78]
  | .atom (.bool b) => [if b then 136 else 137]
  | .atom (.int n) => [75, UInt8.ofNat n.toNat]
  | .atom (.float _) => [71]
  | .memoize => [148]
  | .get i => [104, UInt8.ofNat i]
  | .token (.binUnicode s) =>
    140 :: UInt8.ofNat s.length :: s.toList.map fun c => UInt8.ofNat c.toNat
  | .token (.binBytes b) => 67 :: UInt8.ofNat b.length :: b
  | .token .emptyTuple => [41]
  | .token .tuple1 => [133]
  | .token .tuple2 => [134]
  | .token .tuple3 => [135]
  | .token .tuple => [116]
  | .token .emptyList => [93]
  | .token .append => [97]
  | .token .appends => [101]
  | .token .emptyDict => [125]
  | .token .setItem => [115]
  | .token .setItems => [117]
  | .token .stackGlobal => [147]
  | .token .reduce => [82]
  | .token .build => [98]
  | .token .mark => [40]
  | .token .pop => [48]
  | .token .popMark => [49]
  | .token .stop => [46]

def sampleLayout (items : List PickleItem) : List UInt8 := pickleFrame (items.flatMap itemBytes)

/-- The pickled inputs with one sample bloc and these options. -/
def sampleInputs (options : List UInt8) : List UInt8 :=
  pickleFrame ([93, 148, 67, 32] ++ samplePubBytes ++ [148, 97] ++ options ++
    pickledText "aer_simulator" ++ [135, 148, 46])

/-- `{"shots": 1, "seed": 2}` -/
def shotsSeedBytes : List UInt8 :=
  [125, 148, 40] ++ pickledText "shots" ++ [75, 1] ++ pickledText "seed" ++ [75, 2, 117]

def seedShotsBytes : List UInt8 :=
  [125, 148, 40] ++ pickledText "seed" ++ [75, 2] ++ pickledText "shots" ++ [75, 1, 117]

/-- `{"x": [], "y": []}`, where the second list is written like this. -/
def listsBytes (second : List UInt8) : List UInt8 :=
  [125, 148, 40] ++ pickledText "x" ++ [93, 148] ++ pickledText "y" ++ second ++ [117]

/-- `{"shots": …}` -/
def shotsBytes (value : List UInt8) : List UInt8 :=
  [125, 148] ++ pickledText "shots" ++ value ++ [115]

def sampleDigest (data : List UInt8) : String :=
  if data = sampleInputs shotsSeedBytes then
    "daee083c296e549b4535898f4663c816100a82769ad99402f04ecfba13aaf8b4"
  else if data = sampleInputs seedShotsBytes then
    "04ab9b531b6978ab1caca13159aecfd5b48c0bbb52258afba42a40bb70a12978"
  else if data = sampleInputs (listsBytes [104, 4]) then
    "32a412a6e1ff4c4eed30b33c115046818e286c2a132d0bd9566d44f79759e666"
  else if data = sampleInputs (listsBytes [93, 148]) then
    "318bc49218153b173c502bdb21a47101502f10cf001f17135b131d559ed809b1"
  else if data = sampleInputs [125, 148] then
    "a28f13da545435d169e88252079e642f1ac55d182d7dd4101961801b99ffd67e"
  else if data = sampleInputs (shotsBytes [136]) then
    "b7782a2898cdb25e171e489500cb3837ae2fd7942bd7c11480539dd4edcafc89"
  else if data = sampleInputs (shotsBytes [75, 1]) then
    "df225dc78595a34deef450cb631031ebc44c8b2e9f6559c53a8add899abb4d3f"
  else sampleHashLibrary.sha256 data

def sampleLibrary : HashLibrary plainQiskit := { sampleHashLibrary with sha256 := sampleDigest }

def sampleHeap : PyHeap :=
  [.str "aer_simulator", .str "shots", .str "seed", .str "x", .str "y", .list [], .list [],
    .dict [(.ref 1, .atom (.int 1)), (.ref 2, .atom (.int 2))],
    .dict [(.ref 2, .atom (.int 2)), (.ref 1, .atom (.int 1))],
    .dict [(.ref 3, .ref 5), (.ref 4, .ref 5)],
    .dict [(.ref 3, .ref 5), (.ref 4, .ref 6)],
    .dict [],
    .dict [(.ref 1, .atom (.bool true))],
    .dict [(.ref 1, .atom (.int 1))]]

def sampleKey (options : ObjectValue) : Except ThirdPartyError String :=
  primitiveCache sampleLibrary sampleLayout 10 (sampleNamedPubs "bell") options (.ref 0) sampleHeap

/-- Another order, another sharing, another type of an equal number, and `None` for an empty
dictionary each give another key. -/
theorem sameJob_keys_differ :
    (SameJob sampleHeap (.ref 7) (.ref 8) ∧ sampleKey (.ref 7) ≠ sampleKey (.ref 8)) ∧
    (SameJob sampleHeap (.ref 9) (.ref 10) ∧ sampleKey (.ref 9) ≠ sampleKey (.ref 10)) ∧
    (SameJob sampleHeap (.ref 12) (.ref 13) ∧ sampleKey (.ref 12) ≠ sampleKey (.ref 13)) ∧
    SameJob sampleHeap (.atom .none) (.ref 11) ∧
      sampleKey (.atom .none) ≠ sampleKey (.ref 11) := by
  have hkeys : ∀ v w, (sampleKey v).toOption ≠ (sampleKey w).toOption →
      sampleKey v ≠ sampleKey w := fun v w hne h => hne (congrArg Except.toOption h)
  refine ⟨⟨.inl ⟨2, by decide +kernel⟩, hkeys _ _ (by decide +kernel)⟩,
    ⟨.inl ⟨2, by decide +kernel⟩, hkeys _ _ (by decide +kernel)⟩,
    ⟨.inl ⟨2, by decide +kernel⟩, hkeys _ _ (by decide +kernel)⟩,
    .inr ⟨.inl rfl, .inr ⟨11, rfl, rfl⟩⟩, hkeys _ _ (by decide +kernel)⟩

/-- The objects of one script in two processes. -/
def firstHeap : PyHeap :=
  [.str "aer_simulator", .str "x", .str "y", .list [],
    .dict [(.ref 1, .ref 3), (.ref 2, .ref 3)]]

def secondHeap : PyHeap :=
  [.str "unrelated", .dict [(.ref 5, .ref 3), (.ref 2, .ref 3)], .str "y", .list [],
    .str "aer_simulator", .str "x"]

def heapPairs : List (ℕ × ℕ) := [(0, 4), (1, 5), (2, 2), (3, 3), (4, 1)]

theorem heapPairs_sameGraph : SameGraph (fun a b => (a, b) ∈ heapPairs) firstHeap secondHeap where
  biUnique := by
    constructor <;>
    · intro a b c
      simp only [heapPairs, List.mem_cons, Prod.mk.injEq, List.not_mem_nil, or_false]
      omega
  object {a b} hab := by
    have hpair : ∀ {c d : ℕ}, (c, d) ∈ heapPairs →
        ValueRel (fun a b => (a, b) ∈ heapPairs) (.ref c : ObjectValue) (.ref d) :=
      fun h => ValueRel.ref (R := fun a b => (a, b) ∈ heapPairs) h
    simp only [heapPairs, List.mem_cons, Prod.mk.injEq, List.not_mem_nil, or_false] at hab
    obtain ⟨rfl, rfl⟩ | ⟨rfl, rfl⟩ | ⟨rfl, rfl⟩ | ⟨rfl, rfl⟩ | ⟨rfl, rfl⟩ := hab
    · exact ⟨_, _, rfl, rfl, .str _⟩
    · exact ⟨_, _, rfl, rfl, .str _⟩
    · exact ⟨_, _, rfl, rfl, .str _⟩
    · exact ⟨_, _, rfl, rfl, .list .nil⟩
    · exact ⟨_, _, rfl, rfl, .dict (.cons ⟨hpair (by decide), hpair (by decide)⟩
        (.cons ⟨hpair (by decide), hpair (by decide)⟩ .nil))⟩

theorem primitiveCache_canonical_restarted : ∃ key, ∀ limit ≥ 5,
    primitiveCache sampleLibrary sampleLayout limit (sampleNamedPubs "bell") (.ref 4) (.ref 0)
        firstHeap = .ok key ∧
      primitiveCache sampleLibrary sampleLayout limit (sampleNamedPubs "bell") (.ref 1) (.ref 4)
        secondHeap = .ok key := by
  have hpubs : ∀ pub ∈ (sampleNamedPubs "bell").toList, ∃ bytes,
      encodePub sampleLibrary pub = .ok bytes := by
    intro pub hpub
    rw [List.mem_singleton.1 hpub]
    exact ⟨_, rfl⟩
  have hnested : NestedIn firstHeap 2 (.ref 4) := by
    simp [NestedIn, Nested, firstHeap, recipe, batchDict, setItemBatches, batchSize, batchList]
  exact (primitiveCache_canonical sampleLibrary sampleLayout (sampleNamedPubs "bell")
    (fun a b => (a, b) ∈ heapPairs) firstHeap secondHeap (.ref 4) (.ref 1) (.ref 0) (.ref 4)
    heapPairs_sameGraph (.ref (by decide)) (.ref (by decide))).2 2 hpubs hnested
    (nestedIn_ref rfl fun v hv => by simp [recipe] at hv)

end Sample

end PrefectQiskit.CanonicalKey
