import PrefectQiskit.PickledGraphs

/-!
# What two equal cache keys say

Unless the digest collides, two calls have one key exactly when their blocs have the same bytes
and their options and resource names have the same shape. The graph of the options is read off
the opcodes, so nothing is assumed about the serializer.
-/

namespace PrefectQiskit.CanonicalKey

open ObjectHeap MemoStream

variable {Q : Qiskit}

/-! ## Graphs that are read back alike -/

section Composition

theorem forall₂_meet {α β γ : Type} {P : α → γ → Prop} {P' : β → γ → Prop} {T : α → β → Prop}
    (hT : ∀ x y z, P x z → P' y z → T x y) {xs : List α} {ys : List β} {zs : List γ}
    (h : List.Forall₂ P xs zs) (h' : List.Forall₂ P' ys zs) : List.Forall₂ T xs ys := by
  induction h generalizing ys with
  | nil =>
    cases h'
    exact .nil
  | cons hx _ ih =>
    cases h' with
    | cons hy hys => exact .cons (hT _ _ _ hx hy) (ih hys)

variable {R S : ℕ → ℕ → Prop} {heap heap' heap₀ : PyHeap}

/-- Addresses that correspond to one address of a third heap. -/
def Meets (R S : ℕ → ℕ → Prop) (a b : ℕ) : Prop := ∃ c, R a c ∧ S b c

theorem ValueRel.meets {v w u : ObjectValue} (hv : ValueRel R v u) (hw : ValueRel S w u) :
    ValueRel (Meets R S) v w := by
  cases hv with
  | atom c =>
    cases hw
    exact .atom c
  | ref hac =>
    cases hw with
    | ref hbc => exact .ref ⟨_, hac, hbc⟩

theorem values_meet {vs ws us : List ObjectValue} (h : List.Forall₂ (ValueRel R) vs us)
    (h' : List.Forall₂ (ValueRel S) ws us) : List.Forall₂ (ValueRel (Meets R S)) vs ws := by
  apply forall₂_meet _ h h'
  intro v w u hv hw
  exact ValueRel.meets hv hw

theorem ObjectRel.meets {o o' p : HeapObject} (h : ObjectRel R o p) (h' : ObjectRel S o' p) :
    ObjectRel (Meets R S) o o' := by
  cases h with
  | str s =>
    cases h'
    exact .str s
  | bytes b =>
    cases h'
    exact .bytes b
  | tuple items =>
    cases h' with
    | tuple items' => exact .tuple (values_meet items items')
  | list items =>
    cases h' with
    | list items' => exact .list (values_meet items items')
  | dict entries =>
    cases h' with
    | dict entries' =>
      exact .dict (forall₂_meet (fun _ _ _ hkv hkw =>
        ⟨ValueRel.meets hkv.1 hkw.1, ValueRel.meets hkv.2 hkw.2⟩) entries entries')
  | named module qualname =>
    cases h' with
    | named module' qualname' =>
      exact .named (ValueRel.meets module module') (ValueRel.meets qualname qualname')
  | reduced callable arguments state =>
    cases h' with
    | reduced callable' arguments' state' =>
      refine .reduced (ValueRel.meets callable callable') (ValueRel.meets arguments arguments') ?_
      cases state with
      | none =>
        cases state'
        exact .none
      | some hs =>
        cases state' with
        | some hs' => exact .some (ValueRel.meets hs hs')

theorem SameGraph.meets (h : SameGraph R heap heap₀) (h' : SameGraph S heap' heap₀) :
    SameGraph (Meets R S) heap heap' where
  biUnique := by
    constructor
    · intro a a' b ⟨c, hac, hbc⟩ ⟨c', hac', hbc'⟩
      rw [h'.biUnique.2 hbc' hbc] at hac'
      exact h.biUnique.1 hac hac'
    · intro a b b' ⟨c, hac, hbc⟩ ⟨c', hac', hbc'⟩
      rw [h.biUnique.2 hac' hac] at hbc'
      exact h'.biUnique.1 hbc hbc'
  object hab := by
    obtain ⟨c, hac, hbc⟩ := hab
    obtain ⟨o, p, ho, hp, hobject⟩ := h.object hac
    obtain ⟨o', p', ho', hp', hobject'⟩ := h'.object hbc
    rw [hp] at hp'
    rw [← Option.some.inj hp'] at hobject'
    exact ⟨o, o', ho, ho', hobject.meets hobject'⟩

/-- A stream of opcodes belongs to one graph. -/
theorem sameGraph_of_pickleItems (hheap : WellFormed heap) (hheap' : WellFormed heap')
    {limit limit' : ℕ} {root root' : ObjectValue} {items : List PickleItem}
    (h : pickleItems limit heap root = some items)
    (h' : pickleItems limit' heap' root' = some items) :
    ∃ R, SameGraph R heap heap' ∧ ValueRel R root root' := by
  obtain ⟨heap₀, root₀, R, hloads, hgraph, hroot⟩ := loads_of_pickleItems hheap h
  obtain ⟨heap₁, root₁, S, hloads', hgraph', hroot'⟩ := loads_of_pickleItems hheap' h'
  obtain ⟨rfl, rfl⟩ := Prod.mk.inj (Option.some.inj (hloads.symm.trans hloads'))
  exact ⟨Meets R S, hgraph.meets hgraph', ValueRel.meets hroot hroot'⟩

end Composition

/-! ## The objects of the caller -/

/-- The values that an object refers to. -/
def HeapObject.parts : HeapObject → List ObjectValue
  | .str _ | .bytes _ => []
  | .tuple items | .list items => items
  | .dict entries => entries.flatMap fun kv => [kv.1, kv.2]
  | .named module qualname => [module, qualname]
  | .reduced callable args state => callable :: args :: state.toList

def InHeap (heap : PyHeap) (v : ObjectValue) : Prop := ∀ a, v = .ref a → a < heap.length

/-- No object refers to an address without an object. -/
def Closed (heap : PyHeap) : Prop := ∀ o ∈ heap, ∀ v ∈ o.parts, InHeap heap v

section Restriction

variable {R : ℕ → ℕ → Prop} {heap heap' new new' : PyHeap}

theorem forall₂_imp_mem {α β : Type} {P T : α → β → Prop} {xs : List α} {ys : List β}
    (h : List.Forall₂ P xs ys) (hT : ∀ x ∈ xs, ∀ y ∈ ys, P x y → T x y) :
    List.Forall₂ T xs ys := by
  induction h with
  | nil => exact .nil
  | cons hxy _ ih =>
    refine .cons (hT _ List.mem_cons_self _ List.mem_cons_self hxy) (ih ?_)
    intro x hx y hy
    exact hT x (List.mem_cons_of_mem _ hx) y (List.mem_cons_of_mem _ hy)

/-- The correspondence between old objects. -/
def Within (R : ℕ → ℕ → Prop) (n n' : ℕ) (a b : ℕ) : Prop := R a b ∧ a < n ∧ b < n'

theorem Within.biUnique {n n' : ℕ} (h : Relator.BiUnique R) :
    Relator.BiUnique (Within R n n') := by
  constructor
  · intro a a' b hab hab'
    exact h.1 hab.1 hab'.1
  · intro a b b' hab hab'
    exact h.2 hab.1 hab'.1

theorem ObjectRel.imp_parts {S : ℕ → ℕ → Prop} {o o' : HeapObject} (h : ObjectRel R o o')
    (hS : ∀ v ∈ o.parts, ∀ w ∈ o'.parts, ValueRel R v w → ValueRel S v w) : ObjectRel S o o' := by
  have hentry : ∀ {d : List (ObjectValue × ObjectValue)}, ∀ kv ∈ d, ∀ v ∈ [kv.1, kv.2],
      v ∈ HeapObject.parts (.dict d) := fun kv hkv v hv => List.mem_flatMap.2 ⟨kv, hkv, hv⟩
  cases h with
  | str s => exact .str s
  | bytes b => exact .bytes b
  | tuple items => exact .tuple (forall₂_imp_mem items hS)
  | list items => exact .list (forall₂_imp_mem items hS)
  | dict entries =>
    apply ObjectRel.dict
    apply forall₂_imp_mem entries
    intro kv hkv kw hkw h
    constructor
    · exact hS _ (hentry kv hkv _ (by simp)) _ (hentry kw hkw _ (by simp)) h.1
    · exact hS _ (hentry kv hkv _ (by simp)) _ (hentry kw hkw _ (by simp)) h.2
  | named module qualname =>
    exact .named (hS _ (by simp [HeapObject.parts]) _ (by simp [HeapObject.parts]) module)
      (hS _ (by simp [HeapObject.parts]) _ (by simp [HeapObject.parts]) qualname)
  | reduced callable arguments state =>
    refine .reduced (hS _ (by simp [HeapObject.parts]) _ (by simp [HeapObject.parts]) callable)
      (hS _ (by simp [HeapObject.parts]) _ (by simp [HeapObject.parts]) arguments) ?_
    cases state with
    | none => exact .none
    | some hs =>
      exact .some (hS _ (by simp [HeapObject.parts]) _ (by simp [HeapObject.parts]) hs)

theorem ValueRel.within {v w : ObjectValue} (h : ValueRel R v w) (hv : InHeap heap v)
    (hw : InHeap heap' w) : ValueRel (Within R heap.length heap'.length) v w := by
  cases h with
  | atom c => exact .atom c
  | ref hab => exact .ref ⟨hab, hv _ rfl, hw _ rfl⟩

/-- What corresponds to something in a heap is in it. -/
theorem SameGraph.inHeap (h : SameGraph R heap heap') {v w : ObjectValue} (hvw : ValueRel R v w) :
    InHeap heap' w := by
  intro b hb
  subst hb
  cases hvw with
  | ref hab => exact (h.lt hab).2

/-- What corresponds in larger heaps corresponds in the old ones. -/
theorem SameGraph.within (hclosed : Closed heap) (hclosed' : Closed heap')
    (h : SameGraph R (heap ++ new) (heap' ++ new')) :
    SameGraph (Within R heap.length heap'.length) heap heap' where
  biUnique := Within.biUnique h.biUnique
  object hab := by
    obtain ⟨hR, ha, hb⟩ := hab
    obtain ⟨o, o', ho, ho', hobject⟩ := h.object hR
    rw [List.getElem?_append_left ha] at ho
    rw [List.getElem?_append_left hb] at ho'
    refine ⟨o, o', ho, ho', hobject.imp_parts fun v hv w hw hvw => ?_⟩
    exact ValueRel.within hvw (hclosed o (List.mem_of_getElem? ho) v hv)
      (hclosed' o' (List.mem_of_getElem? ho') w hw)

/-- New objects on one side only, where the other heap is as large as it needs to be. -/
theorem SameGraph.within_left (hclosed : Closed heap) (h : SameGraph R (heap ++ new) heap') :
    SameGraph (Within R heap.length heap'.length) heap heap' where
  biUnique := Within.biUnique h.biUnique
  object hab := by
    obtain ⟨hR, ha, -⟩ := hab
    obtain ⟨o, o', ho, ho', hobject⟩ := h.object hR
    rw [List.getElem?_append_left ha] at ho
    refine ⟨o, o', ho, ho', hobject.imp_parts fun v hv w _ hvw => ?_⟩
    exact ValueRel.within hvw (hclosed o (List.mem_of_getElem? ho) v hv) (h.inHeap hvw)

end Restriction

/-! ## The key -/

section Key

variable (lib : HashLibrary Q) (layout : List PickleItem → List UInt8)

/-- The opcodes whose bytes a call digests. -/
def Digests (limit : ℕ) (pubs : Pubs Q) (options resourceName : ObjectValue) (heap : PyHeap)
    (items : List PickleItem) : Prop :=
  ∃ pubBytes, (pubs.toList.mapM fun pub => encodePub lib pub) = .ok pubBytes ∧
    pickleItems limit (heap ++ newObjects pubBytes options resourceName heap.length)
      (.ref (heap.length + (pubBytes.length + 1))) = some items

variable {lib} in
theorem Digests.unique {limit : ℕ} {pubs : Pubs Q} {options resourceName : ObjectValue}
    {heap : PyHeap} {items items' : List PickleItem}
    (h : Digests lib limit pubs options resourceName heap items)
    (h' : Digests lib limit pubs options resourceName heap items') : items = items' := by
  obtain ⟨pubBytes, hpubs, hitems⟩ := h
  obtain ⟨pubBytes', hpubs', hitems'⟩ := h'
  cases hpubs.symm.trans hpubs'
  exact Option.some.inj (hitems.symm.trans hitems')

theorem primitiveCache_eq_ok {limit : ℕ} {pubs : Pubs Q} {options resourceName : ObjectValue}
    {heap : PyHeap} {key : String} :
    primitiveCache lib layout limit pubs options resourceName heap = .ok key ↔
      ∃ items, Digests lib limit pubs options resourceName heap items ∧
        key = cachePrefix ++ lib.sha256 (layout items) := by
  rw [primitiveCache, pubHasher]
  constructor
  · intro h
    obtain ⟨key', hkey', hkey⟩ := bind_eq_ok.1 h
    obtain ⟨pubBytes, hpubs, hkey'⟩ := bind_eq_ok.1 hkey'
    obtain ⟨inputs, hinputs, hdigest⟩ := bind_eq_ok.1 hkey'
    cases hkey
    cases hdigest
    rw [dumps] at hinputs
    split at hinputs
    next items hitems =>
      cases hinputs
      exact ⟨items, ⟨pubBytes, hpubs, hitems⟩, rfl⟩
    next => cases hinputs
  · intro h
    obtain ⟨items, ⟨pubBytes, hpubs, hitems⟩, rfl⟩ := h
    rw [hpubs, ok_bind, dumps, hitems]
    rfl

/-- The objects that are pickled with the options are as well formed as these. -/
theorem WellFormed.newObjects {heap : PyHeap} (hheap : WellFormed heap)
    (pubBytes : List (List UInt8)) (options resourceName : ObjectValue) :
    WellFormed (heap ++ newObjects pubBytes options resourceName heap.length) := by
  have hold : ∀ {a : ℕ} {o : HeapObject}, (o = .tuple [] ∨ ∃ m q, o = .named m q) →
      (heap ++ CanonicalKey.newObjects pubBytes options resourceName heap.length)[a]? = some o →
        heap[a]? = some o := by
    intro a o ho ha
    by_cases hlt : a < heap.length
    · rwa [List.getElem?_append_left hlt] at ha
    · rw [List.getElem?_append_right (by omega)] at ha
      have hmem := List.mem_of_getElem? ha
      obtain rfl | ⟨m, q, rfl⟩ := ho
      · simp [CanonicalKey.newObjects] at hmem
      · simp [CanonicalKey.newObjects] at hmem
  constructor
  · intro a a' ha ha'
    exact hheap.emptyTuple (hold (.inl rfl) ha) (hold (.inl rfl) ha')
  · intro a m q ha v hv
    obtain ⟨c, s, hvc, hc⟩ := hheap.named (hold (.inr ⟨m, q, rfl⟩) ha) v hv
    refine ⟨c, s, hvc, ?_⟩
    rw [List.getElem?_append_left (List.getElem?_eq_some_iff.1 hc).1]
    exact hc

section NewObjects

variable (heap : PyHeap) (pubBytes : List (List UInt8)) (options resourceName : ObjectValue)

theorem getElem?_newTuple :
    (heap ++ newObjects pubBytes options resourceName
      heap.length)[heap.length + (pubBytes.length + 1)]? =
        some (.tuple [.ref (heap.length + pubBytes.length), options, resourceName]) := by
  rw [getElem?_new, newObjects, List.getElem?_append_right (by simp)]
  simp

theorem getElem?_newList :
    (heap ++ newObjects pubBytes options resourceName
      heap.length)[heap.length + pubBytes.length]? =
        some (.list ((List.range pubBytes.length).map fun i => .ref (heap.length + i))) := by
  rw [getElem?_new, newObjects, List.getElem?_append_right (by simp)]
  simp

theorem getElem?_newBytes {i : ℕ} (hi : i < pubBytes.length) :
    (heap ++ newObjects pubBytes options resourceName heap.length)[heap.length + i]? =
      some (.bytes (pubBytes.get ⟨i, hi⟩)) := by
  rw [getElem?_new, newObjects, List.getElem?_append_left (by simpa using hi)]
  simp [hi]

end NewObjects

/-- The tuple that `pub_hasher` pickles: a list of the bytes of the blocs, the options and the
resource name. -/
def IsInputs (heap : PyHeap) (root : ObjectValue) (pubBytes : List (List UInt8))
    (options resourceName : ObjectValue) : Prop :=
  ∃ a l items, root = .ref a ∧ heap[a]? = some (.tuple [.ref l, options, resourceName]) ∧
    heap[l]? = some (.list items) ∧
    List.Forall₂ (fun v b => ∃ c, v = .ref c ∧ heap[c]? = some (.bytes b)) items pubBytes

theorem IsInputs.unique {heap : PyHeap} {root options options' name name' : ObjectValue}
    {pubBytes pubBytes' : List (List UInt8)} (h : IsInputs heap root pubBytes options name)
    (h' : IsInputs heap root pubBytes' options' name') :
    pubBytes = pubBytes' ∧ options = options' ∧ name = name' := by
  obtain ⟨a, l, items, rfl, htuple, hlist, hitems⟩ := h
  obtain ⟨a', l', items', hroot, htuple', hlist', hitems'⟩ := h'
  cases hroot
  rw [htuple] at htuple'
  cases htuple'
  rw [hlist] at hlist'
  cases hlist'
  refine ⟨List.right_unique_forall₂' ?_ hitems hitems', rfl, rfl⟩
  intro v b b' hb hb'
  obtain ⟨c, rfl, hc⟩ := hb
  obtain ⟨c', hv, hc'⟩ := hb'
  cases hv
  rw [hc] at hc'
  cases hc'
  rfl

theorem isInputs_newObjects (heap : PyHeap) (pubBytes : List (List UInt8))
    (options name : ObjectValue) :
    IsInputs (heap ++ newObjects pubBytes options name heap.length)
      (.ref (heap.length + (pubBytes.length + 1))) pubBytes options name := by
  refine ⟨_, _, _, rfl, getElem?_newTuple heap pubBytes options name,
    getElem?_newList heap pubBytes options name, ?_⟩
  apply List.forall₂_iff_get.2
  refine ⟨by simp, fun i hi hi' => ⟨heap.length + i, by simp, ?_⟩⟩
  exact getElem?_newBytes heap pubBytes options name hi'

/-- What such a tuple corresponds to is one with the same bytes. -/
theorem SameGraph.isInputs {R : ℕ → ℕ → Prop} {heap heap' : PyHeap}
    {root root' options name : ObjectValue} {pubBytes : List (List UInt8)}
    (h : SameGraph R heap heap') (hroot : ValueRel R root root')
    (hinputs : IsInputs heap root pubBytes options name) :
    ∃ options' name', IsInputs heap' root' pubBytes options' name' ∧
      ValueRel R options options' ∧ ValueRel R name name' := by
  obtain ⟨a, l, items, rfl, htuple, hlist, hbytes⟩ := hinputs
  cases hroot with
  | @ref _ b hab =>
    obtain ⟨o, o', ho, hb, hobject⟩ := h.object hab
    rw [htuple] at ho
    cases ho
    obtain ⟨l', options', name', hl, hoptions, hname, rfl⟩ : ∃ l' options' name', R l l' ∧
        ValueRel R options options' ∧ ValueRel R name name' ∧
          o' = .tuple [.ref l', options', name'] := by
      cases hobject with
      | tuple values =>
        cases values with
        | cons hl values =>
          cases values with
          | cons hoptions values =>
            cases values with
            | cons hname values =>
              cases values
              cases hl with
              | ref hl => exact ⟨_, _, _, hl, hoptions, hname, rfl⟩
    obtain ⟨o, o', ho, hl', hobject⟩ := h.object hl
    rw [hlist] at ho
    cases ho
    cases hobject with
    | @list _ items' values =>
      refine ⟨options', name', ⟨b, l', items', rfl, hb, hl', ?_⟩, hoptions, hname⟩
      apply forall₂_meet _ values.flip hbytes.flip
      intro w bytes v hvw hbytes
      obtain ⟨c, rfl, hc⟩ := hbytes
      cases hvw with
      | ref hcd =>
        obtain ⟨o, o', ho, hd, hobject⟩ := h.object hcd
        rw [hc] at ho
        cases ho
        cases hobject
        exact ⟨_, rfl, hd⟩

/-- The parts of the pickled tuples correspond when the tuples do. -/
theorem SameGraph.newObjects {R : ℕ → ℕ → Prop} {heap heap' : PyHeap}
    {pubBytes pubBytes' : List (List UInt8)} {options options' name name' : ObjectValue}
    (h : SameGraph R (heap ++ newObjects pubBytes options name heap.length)
      (heap' ++ newObjects pubBytes' options' name' heap'.length))
    (hroot : R (heap.length + (pubBytes.length + 1)) (heap'.length + (pubBytes'.length + 1))) :
    pubBytes = pubBytes' ∧ ValueRel R options options' ∧ ValueRel R name name' := by
  obtain ⟨v, w, hinputs, hoptions, hname⟩ :=
    h.isInputs (.ref hroot) (isInputs_newObjects heap pubBytes options name)
  obtain ⟨hbytes, rfl, rfl⟩ := hinputs.unique (isInputs_newObjects heap' pubBytes' options' name')
  exact ⟨hbytes, hoptions, hname⟩

/-- Two calls have one key exactly when their blocs have the same bytes and their options and
resource names have one shape. -/
theorem primitiveCache_exact (limit limit' : ℕ) (pubs pubs' : Pubs Q)
    (heap heap' : PyHeap) (options options' resourceName resourceName' : ObjectValue)
    (hheap : WellFormed heap) (hheap' : WellFormed heap')
    (hclosed : Closed heap) (hclosed' : Closed heap')
    (hvalues : ∀ v ∈ [options, resourceName], InHeap heap v)
    (hvalues' : ∀ v ∈ [options', resourceName'], InHeap heap' v)
    (hdigest : Set.InjOn (fun items => lib.sha256 (layout items))
      {items | Digests lib limit pubs options resourceName heap items ∨
        Digests lib limit' pubs' options' resourceName' heap' items})
    (key key' : String)
    (h : primitiveCache lib layout limit pubs options resourceName heap = .ok key)
    (h' : primitiveCache lib layout limit' pubs' options' resourceName' heap' = .ok key') :
    key = key' ↔
      (pubs.toList.mapM fun pub => encodePub lib pub) =
          (pubs'.toList.mapM fun pub => encodePub lib pub) ∧
        ∃ R, SameGraph R heap heap' ∧ ValueRel R options options' ∧
          ValueRel R resourceName resourceName' := by
  obtain ⟨items, hitems, rfl⟩ := (primitiveCache_eq_ok lib layout).1 h
  obtain ⟨items', hitems', rfl⟩ := (primitiveCache_eq_ok lib layout).1 h'
  have hkey : cachePrefix ++ lib.sha256 (layout items) =
      cachePrefix ++ lib.sha256 (layout items') ↔ items = items' := by
    rw [String.append_right_inj]
    exact hdigest.eq_iff (.inl hitems) (.inr hitems')
  rw [hkey]
  obtain ⟨pubBytes, hpubs, hstream⟩ := hitems
  obtain ⟨pubBytes', hpubs', hstream'⟩ := hitems'
  rw [hpubs, hpubs']
  constructor
  · intro hitems
    rw [← hitems] at hstream'
    obtain ⟨R, hgraph, hroot⟩ := sameGraph_of_pickleItems
      (hheap.newObjects pubBytes options resourceName)
      (hheap'.newObjects pubBytes' options' resourceName') hstream hstream'
    cases hroot with
    | ref hroot =>
      obtain ⟨hbytes, hoptions, hname⟩ := hgraph.newObjects hroot
      refine ⟨congrArg Except.ok hbytes, _, hgraph.within hclosed hclosed', ?_, ?_⟩
      · exact ValueRel.within hoptions (hvalues _ (by simp)) (hvalues' _ (by simp))
      · exact ValueRel.within hname (hvalues _ (by simp)) (hvalues' _ (by simp))
  · intro ⟨hbytes, R, hgraph, hoptions, hname⟩
    cases hbytes
    have hmax := pickleItems_mono (Nat.le_max_left limit limit') hstream
    have hmax' := pickleItems_mono (Nat.le_max_right limit limit') hstream'
    rw [hgraph.pickleItems_eq _ pubBytes hoptions hname, hmax'] at hmax
    exact (Option.some.inj hmax).symm

variable {lib} in
theorem Digests.mono {limit limit' : ℕ} (hlimit : limit ≤ limit') {pubs : Pubs Q}
    {options resourceName : ObjectValue} {heap : PyHeap} {items : List PickleItem}
    (h : Digests lib limit pubs options resourceName heap items) :
    Digests lib limit' pubs options resourceName heap items := by
  obtain ⟨pubBytes, hpubs, hitems⟩ := h
  exact ⟨pubBytes, hpubs, pickleItems_mono hlimit hitems⟩

/-- What the opcodes give back of a call: the bytes of its blocs, and its options and resource
name as a graph of the same shape. -/
def Recovered (pubs : Pubs Q) (options resourceName : ObjectValue) (heap : PyHeap)
    (items : List PickleItem) (options' resourceName' : ObjectValue) (heap' : PyHeap) : Prop :=
  (∃ root pubBytes, loads items = some (heap', root) ∧
    IsInputs heap' root pubBytes options' resourceName' ∧
    (pubs.toList.mapM fun pub => encodePub lib pub) = .ok pubBytes) ∧
  ∃ R, SameGraph R heap heap' ∧ ValueRel R options options' ∧
    ValueRel R resourceName resourceName'

/-- A key is the digest of opcodes from which the inputs are read back, and what is read back
has the same key. -/
theorem primitiveCache_loads (limit : ℕ) (pubs : Pubs Q) (heap : PyHeap)
    (options resourceName : ObjectValue) (hheap : WellFormed heap) (hclosed : Closed heap)
    (hvalues : ∀ v ∈ [options, resourceName], InHeap heap v) (key : String)
    (h : primitiveCache lib layout limit pubs options resourceName heap = .ok key) :
    ∃ items options' resourceName' heap', key = cachePrefix ++ lib.sha256 (layout items) ∧
      Digests lib limit pubs options resourceName heap items ∧
      Recovered lib pubs options resourceName heap items options' resourceName' heap' ∧
      ∀ limit' ≥ limit,
        primitiveCache lib layout limit' pubs options' resourceName' heap' = .ok key := by
  obtain ⟨items, hitems, rfl⟩ := (primitiveCache_eq_ok lib layout).1 h
  obtain ⟨pubBytes, hpubs, hstream⟩ := id hitems
  obtain ⟨heap', root, R, hloads, hgraph, hroot, -⟩ := loads_pickleItems _
    (hheap.newObjects pubBytes options resourceName) limit _ items hstream
  obtain ⟨options', resourceName', hinputs, hoptions, hname⟩ :=
    hgraph.isInputs hroot (isInputs_newObjects heap pubBytes options resourceName)
  have hold := hgraph.within_left hclosed
  have hoptions' := ValueRel.within hoptions (hvalues _ (by simp)) (hgraph.inHeap hoptions)
  have hname' := ValueRel.within hname (hvalues _ (by simp)) (hgraph.inHeap hname)
  refine ⟨items, options', resourceName', heap', rfl, hitems,
    ⟨⟨root, pubBytes, hloads, hinputs, hpubs⟩, _, hold, hoptions', hname'⟩, ?_⟩
  intro limit' hlimit
  rw [← primitiveCache_eq_of_sameGraph lib layout limit' pubs hold hoptions' hname']
  exact (primitiveCache_eq_ok lib layout).2 ⟨items, hitems.mono hlimit, rfl⟩

end Key

section Sample

theorem sampleHeap_wellFormed : WellFormed sampleHeap := by
  constructor
  · intro a a' ha
    have hmem := List.mem_of_getElem? ha
    simp [sampleHeap] at hmem
  · intro a m q ha
    have hmem := List.mem_of_getElem? ha
    simp [sampleHeap] at hmem

theorem sampleHeap_closed : Closed sampleHeap := by
  simp [Closed, sampleHeap, HeapObject.parts, InHeap]

theorem sampleKey_eq_ok {options : ObjectValue} {key : String}
    (h : (sampleKey options).toOption = some key) : sampleKey options = .ok key := by
  revert h
  generalize sampleKey options = outcome
  intro h
  cases outcome with
  | error e => cases h
  | ok k => rw [Option.some.inj h]

theorem sampleHeap_values {a : ℕ} (ha : a < 14) :
    ∀ v ∈ [(.ref a : ObjectValue), .ref 0], InHeap sampleHeap v := by
  intro v hv b hb
  have hlength : sampleHeap.length = 14 := rfl
  subst hb
  have hb : b = a ∨ b = 0 := by simpa using hv
  omega

/-- The two orders of one dictionary. -/
theorem primitiveCache_exact_orders :
    "qiskit-primitive-daee083c296e549b4535898f4663c816100a82769ad99402f04ecfba13aaf8b4" =
      "qiskit-primitive-04ab9b531b6978ab1caca13159aecfd5b48c0bbb52258afba42a40bb70a12978" ↔
    ((sampleNamedPubs "bell").toList.mapM fun pub => encodePub sampleLibrary pub) =
        ((sampleNamedPubs "bell").toList.mapM fun pub => encodePub sampleLibrary pub) ∧
      ∃ R, SameGraph R sampleHeap sampleHeap ∧ ValueRel R (.ref 7 : ObjectValue) (.ref 8) ∧
        ValueRel R (.ref 0 : ObjectValue) (.ref 0) := by
  have hkey : sampleKey (.ref 7) = .ok
      "qiskit-primitive-daee083c296e549b4535898f4663c816100a82769ad99402f04ecfba13aaf8b4" :=
    sampleKey_eq_ok (by decide +kernel)
  have hkey' : sampleKey (.ref 8) = .ok
      "qiskit-primitive-04ab9b531b6978ab1caca13159aecfd5b48c0bbb52258afba42a40bb70a12978" :=
    sampleKey_eq_ok (by decide +kernel)
  refine primitiveCache_exact sampleLibrary sampleLayout 10 10 (sampleNamedPubs "bell")
    (sampleNamedPubs "bell") sampleHeap sampleHeap (.ref 7) (.ref 8) (.ref 0) (.ref 0)
    sampleHeap_wellFormed sampleHeap_wellFormed sampleHeap_closed sampleHeap_closed
    (sampleHeap_values (by omega)) (sampleHeap_values (by omega)) ?_ _ _ hkey hkey'
  obtain ⟨items, hitems, hdigest⟩ := (primitiveCache_eq_ok sampleLibrary sampleLayout).1 hkey
  obtain ⟨items', hitems', hdigest'⟩ := (primitiveCache_eq_ok sampleLibrary sampleLayout).1 hkey'
  have hne : sampleLibrary.sha256 (sampleLayout items) ≠
      sampleLibrary.sha256 (sampleLayout items') := by
    intro heq
    rw [heq, ← hdigest'] at hdigest
    exact absurd hdigest (by decide +kernel)
  intro x hx y hy hxy
  obtain hx | hx := hx
  · obtain hy | hy := hy
    · exact hx.unique hy
    · rw [hx.unique hitems, hy.unique hitems'] at hxy
      exact absurd hxy hne
  · obtain hy | hy := hy
    · rw [hx.unique hitems', hy.unique hitems] at hxy
      exact absurd hxy.symm hne
    · exact hx.unique hy

/-- A list that the options hold twice comes back as one list. -/
theorem primitiveCache_loads_shared : ∃ items options' resourceName' heap',
    "qiskit-primitive-32a412a6e1ff4c4eed30b33c115046818e286c2a132d0bd9566d44f79759e666" =
        cachePrefix ++ sampleLibrary.sha256 (sampleLayout items) ∧
      Digests sampleLibrary 10 (sampleNamedPubs "bell") (.ref 9) (.ref 0) sampleHeap items ∧
      Recovered sampleLibrary (sampleNamedPubs "bell") (.ref 9) (.ref 0) sampleHeap items options'
        resourceName' heap' ∧
      ∀ limit' ≥ 10, primitiveCache sampleLibrary sampleLayout limit' (sampleNamedPubs "bell")
        options' resourceName' heap' = .ok
          "qiskit-primitive-32a412a6e1ff4c4eed30b33c115046818e286c2a132d0bd9566d44f79759e666" :=
  primitiveCache_loads sampleLibrary sampleLayout 10 (sampleNamedPubs "bell") sampleHeap (.ref 9)
    (.ref 0) sampleHeap_wellFormed sampleHeap_closed (sampleHeap_values (by omega)) _
    (sampleKey_eq_ok (by decide +kernel))

end Sample

end PrefectQiskit.CanonicalKey
