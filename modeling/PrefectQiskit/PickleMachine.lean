import PrefectQiskit.CanonicalKey

/-!
# The machine that reads pickled graphs

Opcodes work on a stack, a memo and the objects made so far. While a stream is read, the
memo corresponds to that of the pickler position by position, and every object that is not
open any more has the shape of the one that was saved. Lists and dictionaries are open while
they are filled, so they may contain themselves.
-/

namespace PrefectQiskit.CanonicalKey

open ObjectHeap MemoStream

/-! ## The machine -/

inductive Entry where
  | mark
  | value (v : ObjectValue)

/-- The top of the stack comes first. The empty tuple is at address zero from the start. -/
structure Reader where
  stack : List Entry
  memo : List ℕ
  heap : PyHeap

/-- The values above the topmost mark, oldest first, and what is below it. -/
def unmark : List ObjectValue → List Entry → Option (List ObjectValue × List Entry)
  | vs, .mark :: stack => some (vs, stack)
  | vs, .value v :: stack => unmark (v :: vs) stack
  | _, [] => none

def pairs : List ObjectValue → Option (List (ObjectValue × ObjectValue))
  | [] => some []
  | k :: v :: vs => (pairs vs).map fun entries => (k, v) :: entries
  | [_] => none

namespace Reader

def start : Reader := ⟨[], [], [.tuple []]⟩

def push (r : Reader) (v : ObjectValue) : Reader := { r with stack := .value v :: r.stack }

/-- Put a new object on top of `stack`. -/
def alloc (r : Reader) (stack : List Entry) (o : HeapObject) : Reader :=
  { r with stack := .value (.ref r.heap.length) :: stack, heap := r.heap ++ [o] }

/-- Replace the object at the top of `stack`. -/
def modify (r : Reader) (stack : List Entry) (f : HeapObject → Option HeapObject) :
    Option Reader :=
  match stack with
  | .value (.ref a) :: _ => (r.heap[a]?.bind f).map fun o => { r with stack, heap := r.heap.set a o }
  | _ => none

def addItems (vs : List ObjectValue) : HeapObject → Option HeapObject
  | .list items => some (.list (items ++ vs))
  | _ => none

/-- The keys of a dictionary that was pickled are distinct, so each is a new entry. -/
def addEntries (entries' : List (ObjectValue × ObjectValue)) : HeapObject → Option HeapObject
  | .dict entries => some (.dict (entries ++ entries'))
  | _ => none

def setState (state : ObjectValue) : HeapObject → Option HeapObject
  | .reduced callable args _ => some (.reduced callable args (some state))
  | _ => none

def exec (r : Reader) : Opcode → Option Reader
  | .binUnicode s => some (r.alloc r.stack (.str s))
  | .binBytes b => some (r.alloc r.stack (.bytes b))
  | .emptyTuple => some (r.push (.ref 0))
  | .tuple1 =>
    match r.stack with
    | .value x :: stack => some (r.alloc stack (.tuple [x]))
    | _ => none
  | .tuple2 =>
    match r.stack with
    | .value y :: .value x :: stack => some (r.alloc stack (.tuple [x, y]))
    | _ => none
  | .tuple3 =>
    match r.stack with
    | .value z :: .value y :: .value x :: stack => some (r.alloc stack (.tuple [x, y, z]))
    | _ => none
  | .tuple => (unmark [] r.stack).map fun p => r.alloc p.2 (.tuple p.1)
  | .emptyList => some (r.alloc r.stack (.list []))
  | .append =>
    match r.stack with
    | .value v :: stack => r.modify stack (addItems [v])
    | _ => none
  | .appends => (unmark [] r.stack).bind fun p => r.modify p.2 (addItems p.1)
  | .emptyDict => some (r.alloc r.stack (.dict []))
  | .setItem =>
    match r.stack with
    | .value v :: .value k :: stack => r.modify stack (addEntries [(k, v)])
    | _ => none
  | .setItems => (unmark [] r.stack).bind fun p =>
      (pairs p.1).bind fun entries => r.modify p.2 (addEntries entries)
  | .stackGlobal =>
    match r.stack with
    | .value qualname :: .value module :: stack => some (r.alloc stack (.named module qualname))
    | _ => none
  | .reduce =>
    match r.stack with
    | .value args :: .value callable :: stack => some (r.alloc stack (.reduced callable args none))
    | _ => none
  | .build =>
    match r.stack with
    | .value state :: stack => r.modify stack (setState state)
    | _ => none
  | .mark => some { r with stack := .mark :: r.stack }
  | .pop =>
    match r.stack with
    | _ :: stack => some { r with stack }
    | [] => none
  | .popMark => (unmark [] r.stack).map fun p => { r with stack := p.2 }
  | .stop => some r

def step (r : Reader) : PickleItem → Option Reader
  | .token t => r.exec t
  | .atom c => some (r.push (.atom c))
  | .memoize =>
    match r.stack with
    | .value (.ref a) :: _ => some { r with memo := r.memo ++ [a] }
    | _ => none
  | .get i => r.memo[i]?.map fun a => r.push (.ref a)

def run : Reader → List PickleItem → Option Reader
  | r, [] => some r
  | r, item :: items => (r.step item).bind fun r => run r items

@[simp] theorem run_nil (r : Reader) : r.run [] = some r := rfl

@[simp] theorem run_cons (r : Reader) (item : PickleItem) (items : List PickleItem) :
    r.run (item :: items) = (r.step item).bind fun r => r.run items := rfl

theorem run_append (r : Reader) (items items' : List PickleItem) :
    r.run (items ++ items') = (r.run items).bind fun r => r.run items' := by
  induction items generalizing r with
  | nil => rfl
  | cons item items ih =>
    rw [List.cons_append, run_cons, run_cons]
    cases r.step item with
    | none => rfl
    | some r' => exact ih r'

theorem run_trans {r r₁ r₂ : Reader} {items items' : List PickleItem}
    (h : r.run items = some r₁) (h' : r₁.run items' = some r₂) :
    r.run (items ++ items') = some r₂ := by
  rw [run_append, h]
  exact h'

end Reader

/-- `pickle.loads` of a stream of opcodes. Classes and functions are not looked up, and nothing is
called: what they would make is kept by its parts. -/
def loads (items : List PickleItem) : Option (PyHeap × ObjectValue) :=
  match Reader.start.run items with
  | some ⟨[.value v], _, heap⟩ => some (heap, v)
  | _ => none

/-! ## What is rebuilt -/

/-- There is one empty tuple, and classes and functions are named by strings. -/
structure WellFormed (heap : PyHeap) : Prop where
  emptyTuple : ∀ {a a' : ℕ}, heap[a]? = some (.tuple []) → heap[a']? = some (.tuple []) → a = a'
  named : ∀ {a : ℕ} {m q : ObjectValue}, heap[a]? = some (.named m q) →
    ∀ v ∈ [m, q], ∃ c s, v = .ref c ∧ heap[c]? = some (.str s)

/-- Objects of one memo position, and the two empty tuples. -/
def Linked (heap : PyHeap) (memo memo' : List ℕ) (a b : ℕ) : Prop :=
  (∃ i : ℕ, memo[i]? = some a ∧ memo'[i]? = some b) ∨ heap[a]? = some (.tuple []) ∧ b = 0

theorem Linked.mono {heap : PyHeap} {memo memo' memo₁ memo₁' : List ℕ} (h : memo <+: memo₁)
    (h' : memo' <+: memo₁') {a b : ℕ} (hab : Linked heap memo memo' a b) :
    Linked heap memo₁ memo₁' a b := by
  obtain ⟨i, ha, hb⟩ | hempty := hab
  · have ha' := List.getElem?_eq_some_iff.1 ha
    have hb' := List.getElem?_eq_some_iff.1 hb
    exact .inl ⟨i, (List.prefix_iff_getElem?.1 h i ha'.1).trans (congrArg some ha'.2),
      (List.prefix_iff_getElem?.1 h' i hb'.1).trans (congrArg some hb'.2)⟩
  · exact .inr hempty

/-- The memos correspond, and each object that is not open any more has been rebuilt. -/
structure Rebuilt (heap : PyHeap) (opened : ℕ → Prop) (memo : List ℕ) (r : Reader) : Prop where
  length_eq : memo.length = r.memo.length
  nodup : memo.Nodup
  nodup_read : r.memo.Nodup
  not_empty : ∀ a ∈ memo, heap[a]? ≠ some (.tuple [])
  allocated : ∀ b ∈ r.memo, b ≠ 0 ∧ b < r.heap.length
  emptyTuple : r.heap[0]? = some (.tuple [])
  entered : ∀ a, opened a → a ∈ memo
  complete : ∀ {a b : ℕ}, Linked heap memo r.memo a b → ¬opened a →
    ∃ o o', heap[a]? = some o ∧ r.heap[b]? = some o' ∧ ObjectRel (Linked heap memo r.memo) o o'

theorem start_rebuilt (heap : PyHeap) : Rebuilt heap (fun _ => False) [] Reader.start where
  length_eq := rfl
  nodup := .nil
  nodup_read := .nil
  not_empty := by simp
  allocated := by simp [Reader.start]
  emptyTuple := rfl
  entered _ h := h.elim
  complete hab _ := by
    obtain ⟨i, ha, -⟩ | ⟨ha, rfl⟩ := hab
    · simp at ha
    · exact ⟨_, _, ha, rfl, .tuple .nil⟩

/-- What a part of a stream does to the memos and to the objects that were there before it. -/
structure Grows (except : ℕ → Prop) (memo : List ℕ) (r : Reader) (memo' : List ℕ)
    (r' : Reader) : Prop where
  memo : memo <+: memo'
  read : r.memo <+: r'.memo
  length_le : r.heap.length ≤ r'.heap.length
  heap : ∀ {b : ℕ}, b < r.heap.length → ¬except b → r'.heap[b]? = r.heap[b]?
  fresh : ∀ b ∈ r'.memo, b ∈ r.memo ∨ r.heap.length ≤ b

section Growth

variable {heap : PyHeap} {opened except except' : ℕ → Prop} {memo memo₁ memo₂ : List ℕ}
  {r r₁ r₂ : Reader} {a b : ℕ}

theorem Grows.refl : Grows except memo r memo r :=
  ⟨List.prefix_rfl, List.prefix_rfl, Nat.le_refl _, fun _ _ => rfl, fun _ hb => .inl hb⟩

theorem Grows.trans (h : Grows except memo r memo₁ r₁) (h' : Grows except memo₁ r₁ memo₂ r₂) :
    Grows except memo r memo₂ r₂ where
  memo := h.memo.trans h'.memo
  read := h.read.trans h'.read
  length_le := Nat.le_trans h.length_le h'.length_le
  heap hb hexcept := (h'.heap (Nat.lt_of_lt_of_le hb h.length_le) hexcept).trans
    (h.heap hb hexcept)
  fresh b hb := by
    obtain hb | hb := h'.fresh b hb
    · exact h.fresh b hb
    · exact .inr (Nat.le_trans h.length_le hb)

theorem Grows.mono (hexcept : ∀ b, b < r.heap.length → except b → except' b)
    (h : Grows except memo r memo₁ r₁) : Grows except' memo r memo₁ r₁ :=
  { h with heap := fun hb hn => h.heap hb fun he => hn (hexcept _ hb he) }

theorem Grows.linked (h : Grows except memo r memo₁ r₁) (hab : Linked heap memo r.memo a b) :
    Linked heap memo₁ r₁.memo a b := hab.mono h.memo h.read

theorem Rebuilt.linked_lt (h : Rebuilt heap opened memo r) (hab : Linked heap memo r.memo a b) :
    b < r.heap.length := by
  obtain ⟨i, -, hb⟩ | ⟨-, rfl⟩ := hab
  · exact (h.allocated b (List.mem_of_getElem? hb)).2
  · exact (List.getElem?_eq_some_iff.1 h.emptyTuple).1

theorem Rebuilt.linked_biUnique (hheap : WellFormed heap) (h : Rebuilt heap opened memo r) :
    Relator.BiUnique (Linked heap memo r.memo) := by
  constructor
  · intro a a' b hab hab'
    obtain ⟨i, ha, hb⟩ | ⟨ha, rfl⟩ := hab
    · obtain ⟨j, ha', hb'⟩ | ⟨-, rfl⟩ := hab'
      · have hlt := (List.getElem?_eq_some_iff.1 hb).1
        have hij : i = j := (List.getElem?_inj hlt h.nodup_read).1 (hb.trans hb'.symm)
        rw [← hij, ha] at ha'
        exact Option.some.inj ha'
      · exact absurd rfl (h.allocated 0 (List.mem_of_getElem? hb)).1
    · obtain ⟨j, -, hb'⟩ | ⟨ha', -⟩ := hab'
      · exact absurd rfl (h.allocated 0 (List.mem_of_getElem? hb')).1
      · exact hheap.emptyTuple ha ha'
  · intro a b b' hab hab'
    obtain ⟨i, ha, hb⟩ | ⟨ha, rfl⟩ := hab
    · obtain ⟨j, ha', hb'⟩ | ⟨ha', -⟩ := hab'
      · have hlt := (List.getElem?_eq_some_iff.1 ha).1
        have hij : i = j := (List.getElem?_inj hlt h.nodup).1 (ha.trans ha'.symm)
        rw [← hij, hb] at hb'
        exact Option.some.inj hb'
      · exact absurd ha' (h.not_empty a (List.mem_of_getElem? ha))
    · obtain ⟨j, ha', -⟩ | ⟨-, rfl⟩ := hab'
      · exact absurd ha (h.not_empty a (List.mem_of_getElem? ha'))
      · rfl

/-- An object of the memo is read at its own position. -/
theorem Rebuilt.linked_idxOf (h : Rebuilt heap opened memo r) (ha : a ∈ memo) :
    ∃ b, r.memo[memo.idxOf a]? = some b ∧ Linked heap memo r.memo a b := by
  have hlt : memo.idxOf a < memo.length := List.idxOf_lt_length_of_mem ha
  have hlt' : memo.idxOf a < r.memo.length := h.length_eq ▸ hlt
  have hget : memo[memo.idxOf a]? = some a := by
    rw [List.getElem?_eq_getElem hlt, List.getElem_idxOf hlt]
  exact ⟨_, List.getElem?_eq_getElem hlt', .inl ⟨_, hget, List.getElem?_eq_getElem hlt'⟩⟩

/-- New objects and changes of the stack leave everything as it was rebuilt. -/
theorem Rebuilt.of_kept (h : Rebuilt heap opened memo r) (hmemo : r₁.memo = r.memo)
    (hlength : r.heap.length ≤ r₁.heap.length)
    (hkept : ∀ {a b : ℕ}, Linked heap memo r.memo a b → ¬opened a → r₁.heap[b]? = r.heap[b]?)
    (hempty : r₁.heap[0]? = r.heap[0]?) : Rebuilt heap opened memo r₁ where
  length_eq := hmemo ▸ h.length_eq
  nodup := h.nodup
  nodup_read := hmemo ▸ h.nodup_read
  not_empty := h.not_empty
  allocated b hb := by
    obtain ⟨hne, hlt⟩ := h.allocated b (hmemo ▸ hb)
    exact ⟨hne, Nat.lt_of_lt_of_le hlt hlength⟩
  emptyTuple := hempty.trans h.emptyTuple
  entered := h.entered
  complete hab hopen := by
    rw [hmemo] at hab ⊢
    obtain ⟨o, o', ho, ho', hobject⟩ := h.complete hab hopen
    exact ⟨o, o', ho, (hkept hab hopen).trans ho', hobject⟩

theorem Rebuilt.of_grows (h : Rebuilt heap opened memo r)
    (hgrows : Grows (fun _ => False) memo r memo r₁) (hmemo : r₁.memo = r.memo) :
    Rebuilt heap opened memo r₁ :=
  h.of_kept hmemo hgrows.length_le (fun hab _ => hgrows.heap (h.linked_lt hab) id)
    (hgrows.heap (List.getElem?_eq_some_iff.1 h.emptyTuple).1 id)

/-- An object is entered into both memos, and stays open. -/
theorem Rebuilt.enter (h : Rebuilt heap opened memo r) (ha : a ∉ memo)
    (hne : heap[a]? ≠ some (.tuple [])) (hb : b ∉ r.memo) (hb₀ : b ≠ 0)
    (hlt : b < r.heap.length) :
    Rebuilt heap (fun c => c = a ∨ opened c) (memo ++ [a]) { r with memo := r.memo ++ [b] } where
  length_eq := by simp [h.length_eq]
  nodup := h.nodup.append (List.nodup_singleton a) (by simpa using ha)
  nodup_read := h.nodup_read.append (List.nodup_singleton b) (by simpa using hb)
  not_empty c hc := by
    obtain hc | hc := List.mem_append.1 hc
    · exact h.not_empty c hc
    · rwa [List.mem_singleton.1 hc]
  allocated c hc := by
    obtain hc | hc := List.mem_append.1 hc
    · exact h.allocated c hc
    · rw [List.mem_singleton.1 hc]
      exact ⟨hb₀, hlt⟩
  emptyTuple := h.emptyTuple
  entered c hc := by
    obtain rfl | hc := hc
    · exact List.mem_append_right _ List.mem_cons_self
    · exact List.mem_append_left _ (h.entered c hc)
  complete {c d} hcd hopen := by
    have hmono := fun {c d : ℕ} (hcd : Linked heap memo r.memo c d) =>
      hcd.mono (List.prefix_append memo [a]) (List.prefix_append r.memo [b])
    have hold : Linked heap memo r.memo c d := by
      obtain ⟨i, hc, hd⟩ | hempty := hcd
      · have hi : i < memo.length := by
          by_contra hi
          have hlast := (List.getElem?_eq_some_iff.1 hc).1
          have hi' : i = memo.length := by
            rw [List.length_append, List.length_singleton] at hlast
            omega
          have hca : a = c := by simpa [hi'] using hc
          exact hopen (.inl hca.symm)
        rw [List.getElem?_append_left hi] at hc
        rw [List.getElem?_append_left (h.length_eq ▸ hi)] at hd
        exact .inl ⟨i, hc, hd⟩
      · exact .inr hempty
    obtain ⟨o, o', ho, ho', hobject⟩ := h.complete hold fun hc => hopen (.inr hc)
    exact ⟨o, o', ho, ho', hobject.imp hmono⟩

theorem linked_append (h : memo.length = r.memo.length) :
    Linked heap (memo ++ [a]) (r.memo ++ [b]) a b := by
  refine .inl ⟨memo.length, by simp, ?_⟩
  rw [h]
  simp

/-- An object is closed once it has been rebuilt. -/
theorem Rebuilt.close (h : Rebuilt heap (fun c => c = a ∨ opened c) memo r)
    {o o' : HeapObject} (hheap : WellFormed heap) (hab : Linked heap memo r.memo a b)
    (ho : heap[a]? = some o) (ho' : r.heap[b]? = some o')
    (hobject : ObjectRel (Linked heap memo r.memo) o o') : Rebuilt heap opened memo r :=
  { h with
    entered := fun c hc => h.entered c (.inr hc)
    complete := by
      intro c d hcd hopen
      by_cases hca : c = a
      · subst hca
        rw [(h.linked_biUnique hheap).2 hcd hab]
        exact ⟨o, o', ho, ho', hobject⟩
      · exact h.complete hcd fun hc => hc.elim hca hopen }

theorem Rebuilt.reopen (h : Rebuilt heap opened memo r) (ha : a ∈ memo) :
    Rebuilt heap (fun c => c = a ∨ opened c) memo r :=
  { h with
    entered := fun c hc => hc.elim (fun he => he ▸ ha) (h.entered c)
    complete := fun hcd hclosed => h.complete hcd fun hc => hclosed (.inr hc) }

/-- Writing to an open object leaves the closed ones alone. -/
theorem Rebuilt.set (hheap : WellFormed heap) (h : Rebuilt heap opened memo r)
    (hopen : opened a) (hab : Linked heap memo r.memo a b)
    (stack : List Entry) (o : HeapObject) :
    Rebuilt heap opened memo { r with stack, heap := r.heap.set b o } := by
  have hunique := h.linked_biUnique hheap
  have hb : b ≠ 0 := by
    obtain ⟨i, -, hb⟩ | ⟨hempty, -⟩ := hab
    · exact (h.allocated b (List.mem_of_getElem? hb)).1
    · exact absurd hempty (h.not_empty a (h.entered a hopen))
  refine h.of_kept rfl ?_ ?_ ?_
  · simp
  · intro c d hcd hclosed
    apply List.getElem?_set_ne
    intro hbd
    subst hbd
    exact hclosed (hunique.1 hcd hab ▸ hopen)
  · exact List.getElem?_set_ne hb

end Growth

/-! ## Saved values -/

/-- The items of `vs` leave as many values on the stack, and nothing but new objects. -/
structure Pushes (heap : PyHeap) (opened : ℕ → Prop) (memo : List ℕ) (r : Reader)
    (vs : List ObjectValue) (memo' : List ℕ) (r' : Reader) (ws : List ObjectValue) : Prop where
  stack : r'.stack = (ws.map .value).reverse ++ r.stack
  values : List.Forall₂ (ValueRel (Linked heap memo' r'.memo)) vs ws
  rebuilt : Rebuilt heap opened memo' r'
  grows : Grows (fun _ => False) memo r memo' r'

/-- What is saved is read back. -/
def SaveReads (heap : PyHeap)
    (save : List ℕ → ObjectValue → Option (Saved Constant Opcode)) : Prop :=
  ∀ {opened : ℕ → Prop} {memo memo' : List ℕ} {v : ObjectValue} {items : List PickleItem}
    {r : Reader}, save memo v = some (items, memo') → Rebuilt heap opened memo r →
    ∃ r' w, r.run items = some r' ∧ Pushes heap opened memo r [v] memo' r' [w]

section Saving

variable {heap : PyHeap} {opened : ℕ → Prop} {memo memo' memo₁ memo₂ : List ℕ}
  {r r₁ r₂ : Reader} {a : ℕ} {vs vs' ws ws' : List ObjectValue} {items : List PickleItem}
  {save : List ℕ → ObjectValue → Option (Saved Constant Opcode)} {steps : List PickleStep}

theorem Pushes.nil (h : Rebuilt heap opened memo r) : Pushes heap opened memo r [] memo r [] :=
  ⟨rfl, .nil, h, .refl⟩

theorem Pushes.append (h : Pushes heap opened memo r vs memo₁ r₁ ws)
    (h' : Pushes heap opened memo₁ r₁ vs' memo₂ r₂ ws') :
    Pushes heap opened memo r (vs ++ vs') memo₂ r₂ (ws ++ ws') where
  stack := by rw [h'.stack, h.stack, List.map_append, List.reverse_append, List.append_assoc]
  values := List.rel_append (h.values.imp fun _ _ hv => hv.imp h'.grows.linked) h'.values
  rebuilt := h'.rebuilt
  grows := h.grows.trans h'.grows

/-- Saving values one after another. -/
theorem SaveReads.saves (hsave : SaveReads heap save) (vs : List ObjectValue)
    (h : runSteps save a memo (vs.map .save ++ steps) = some (items, memo'))
    (hr : Rebuilt heap opened memo r) :
    ∃ part rest memo₁ r₁ ws, items = part ++ rest ∧ r.run part = some r₁ ∧
      Pushes heap opened memo r vs memo₁ r₁ ws ∧
      runSteps save a memo₁ steps = some (rest, memo') := by
  induction vs generalizing memo r items with
  | nil => exact ⟨[], items, memo, r, [], rfl, rfl, .nil hr, h⟩
  | cons v vs ih =>
    obtain ⟨⟨part, memo₁⟩, hpart, h⟩ := Option.bind_eq_some_iff.1 h
    obtain ⟨⟨rest, memo₂⟩, hrest, h⟩ := Option.bind_eq_some_iff.1 h
    cases h
    obtain ⟨r₁, w, hrun, hpush⟩ := hsave hpart hr
    obtain ⟨part', rest', memo₃, r₂, ws, rfl, hrun', hpush', hsteps⟩ := ih hrest hpush.rebuilt
    exact ⟨part ++ part', rest', memo₃, r₂, w :: ws, (List.append_assoc _ _ _).symm,
      Reader.run_trans hrun hrun', hpush.append hpush', hsteps⟩

theorem runSteps_emit {t : Opcode}
    (h : runSteps save a memo (.emit t :: steps) = some (items, memo')) :
    ∃ rest, items = .token t :: rest ∧ runSteps save a memo steps = some (rest, memo') := by
  obtain ⟨⟨rest, memo₁⟩, hrest, h⟩ := Option.bind_eq_some_iff.1 h
  cases h
  exact ⟨rest, rfl, hrest⟩

theorem runSteps_memoize_new {done undo : List Opcode} (ha : a ∉ memo)
    (h : runSteps save a memo (.memoize done undo :: steps) = some (items, memo')) :
    ∃ rest, items = done.map .token ++ .memoize :: rest ∧
      runSteps save a (memo ++ [a]) steps = some (rest, memo') := by
  rw [runSteps, if_neg ha] at h
  obtain ⟨⟨rest, memo₁⟩, hrest, h⟩ := Option.bind_eq_some_iff.1 h
  cases h
  exact ⟨rest, rfl, hrest⟩

theorem runSteps_memoize_old {done undo : List Opcode} (ha : a ∈ memo)
    (h : runSteps save a memo (.memoize done undo :: steps) = some (items, memo')) :
    ∃ rest, items = undo.map .token ++ .get (memo.idxOf a) :: rest ∧
      runSteps save a memo steps = some (rest, memo') := by
  rw [runSteps, if_pos ha] at h
  obtain ⟨⟨rest, memo₁⟩, hrest, h⟩ := Option.bind_eq_some_iff.1 h
  cases h
  exact ⟨rest, rfl, hrest⟩

/-- A new object on top of a stack that held parts of it before. -/
theorem alloc_grows (r : Reader) (stack : List Entry) (o : HeapObject) :
    Grows (fun _ => False) memo r memo (r.alloc stack o) where
  memo := List.prefix_rfl
  read := List.prefix_rfl
  length_le := by simp [Reader.alloc]
  heap hb _ := List.getElem?_append_left hb
  fresh _ hb := .inl hb

/-- The object is made and entered, with nothing left to fill in. -/
theorem Rebuilt.create (h : Rebuilt heap opened memo r) (ha : a ∉ memo)
    (hne : heap[a]? ≠ some (.tuple [])) (stack : List Entry) (o : HeapObject) :
    Rebuilt heap (fun c => c = a ∨ opened c) (memo ++ [a])
        { r.alloc stack o with memo := r.memo ++ [r.heap.length] } ∧
      Grows (fun _ => False) memo r (memo ++ [a])
        { r.alloc stack o with memo := r.memo ++ [r.heap.length] } := by
  have hpos : r.heap.length ≠ 0 := by
    have hlt := (List.getElem?_eq_some_iff.1 h.emptyTuple).1
    omega
  have hnew : r.heap.length ∉ r.memo := fun hmem => Nat.lt_irrefl _ (h.allocated _ hmem).2
  have halloc := h.of_grows (alloc_grows r stack o) rfl
  refine ⟨halloc.enter ha hne hnew hpos (by simp [Reader.alloc]), List.prefix_append _ _,
    List.prefix_append _ _, by simp [Reader.alloc], fun hb _ => List.getElem?_append_left hb, ?_⟩
  intro b hb
  obtain hb | hb := List.mem_append.1 hb
  · exact .inl hb
  · exact .inr (Nat.le_of_eq (List.mem_singleton.1 hb).symm)

/-- The last step of an object without cycles through it: it is made and entered, or what has
been put on the stack is withdrawn when it is in the memo already. -/
theorem reads_memoize (hheap : WellFormed heap) {done undo : List Opcode} {o o' : HeapObject}
    (hr : Rebuilt heap opened memo₁ r₁) (hgrows : Grows (fun _ => False) memo r memo₁ r₁)
    (ho : heap[a]? = some o) (hne : o ≠ .tuple [])
    (hobject : ObjectRel (Linked heap memo₁ r₁.memo) o o')
    (hdone : r₁.run (done.map .token) = some (r₁.alloc r.stack o'))
    (hundo : a ∈ memo₁ → ∃ r₂, r₁.run (undo.map .token) = some r₂ ∧ r₂.stack = r.stack ∧
      r₂.memo = r₁.memo ∧ Grows (fun _ => False) memo₁ r₁ memo₁ r₂)
    (h : runSteps save a memo₁ [.memoize done undo] = some (items, memo')) :
    ∃ r' w, r₁.run items = some r' ∧ Pushes heap opened memo r [.ref a] memo' r' [w] := by
  by_cases ha : a ∈ memo₁
  · obtain ⟨rest, rfl, hrest⟩ := runSteps_memoize_old ha h
    cases hrest
    obtain ⟨r₂, hrun, hstack, hmemo, hgrows'⟩ := hundo ha
    have hr₂ : Rebuilt heap opened memo' r₂ := hr.of_grows hgrows' hmemo
    obtain ⟨b, hb, hab⟩ := hr₂.linked_idxOf ha
    have hget : r₂.run [.get (memo'.idxOf a)] = some (r₂.push (.ref b)) := by
      rw [Reader.run_cons, Reader.step, hb]
      rfl
    refine ⟨_, _, Reader.run_trans hrun hget, ?_, .cons (.ref hab) .nil, ?_, ?_⟩
    · rw [Reader.push, hstack]
      rfl
    · exact hr₂.of_kept rfl (Nat.le_refl _) (fun _ _ => rfl) rfl
    · have hpush : Grows (fun _ => False) memo' r₂ memo' (r₂.push (.ref b)) :=
        { Grows.refl with }
      exact (hgrows.trans hgrows').trans hpush
  · obtain ⟨rest, rfl, hrest⟩ := runSteps_memoize_new ha h
    cases hrest
    have hne' : heap[a]? ≠ some (.tuple []) := fun he => hne (Option.some.inj (ho.symm.trans he))
    obtain ⟨hopen, hcreate⟩ := hr.create ha hne' r.stack o'
    have hab : Linked heap (memo₁ ++ [a]) (r₁.memo ++ [r₁.heap.length]) a r₁.heap.length :=
      linked_append hr.length_eq
    have hnew : (r₁.heap ++ [o'])[r₁.heap.length]? = some o' := by simp
    exact ⟨_, _, Reader.run_trans hdone rfl, rfl, .cons (.ref hab) .nil,
      hopen.close hheap hab ho hnew (hobject.imp hcreate.linked), hgrows.trans hcreate⟩

/-- Writing an opcode before either ending is writing it before the object is entered. -/
theorem runSteps_emit_memoize (t : Opcode) (done undo : List Opcode) :
    runSteps save a memo (.emit t :: .memoize done undo :: steps) =
      runSteps save a memo (.memoize (t :: done) (t :: undo) :: steps) := by
  by_cases ha : a ∈ memo
  · rw [runSteps, runSteps, runSteps, if_pos ha, if_pos ha]
    cases runSteps save a memo steps <;> rfl
  · rw [runSteps, runSteps, runSteps, if_neg ha, if_neg ha]
    cases runSteps save a (memo ++ [a]) steps <;> rfl

end Saving

/-! ## Lists and dictionaries -/

theorem unmark_values (vs ws : List ObjectValue) (stack : List Entry) :
    unmark vs ((ws.map .value).reverse ++ .mark :: stack) = some (ws ++ vs, stack) := by
  induction ws using List.reverseRecOn generalizing vs with
  | nil => rfl
  | append_singleton ws w ih =>
    have htail : unmark vs (((ws ++ [w]).map .value).reverse ++ .mark :: stack) =
        unmark (w :: vs) ((ws.map .value).reverse ++ .mark :: stack) := by
      rw [List.map_append, List.reverse_append, List.append_assoc]
      rfl
    rw [htail, ih, List.append_assoc]
    rfl

theorem pairs_flatMap (entries : List (ObjectValue × ObjectValue)) :
    pairs (entries.flatMap fun kv => [kv.1, kv.2]) = some entries := by
  induction entries with
  | nil => rfl
  | cons kv entries ih =>
    rw [List.flatMap_cons, List.cons_append, List.cons_append, List.nil_append, pairs, ih]
    rfl

/-- An object that is entered into the memo empty and filled in batches. -/
structure Container (β : Type) where
  build : List β → HeapObject
  parts : β → List ObjectValue
  fillOne : Opcode
  fillMany : Opcode
  shape : ∀ x ws, ws.length = (parts x).length → ∃ y, parts y = ws
  fillOne_exec : ∀ {r : Reader} {xs : List β} {b : ℕ} (y : β) (stack : List Entry),
    r.heap[b]? = some (build xs) →
    r.stack = ((parts y).map .value).reverse ++ .value (.ref b) :: stack →
    r.exec fillOne = some { r with
      stack := .value (.ref b) :: stack, heap := r.heap.set b (build (xs ++ [y])) }
  fillMany_exec : ∀ {r : Reader} {xs : List β} {b : ℕ} (ys : List β) (stack : List Entry),
    r.heap[b]? = some (build xs) →
    r.stack = ((ys.flatMap parts).map .value).reverse ++ .mark :: .value (.ref b) :: stack →
    r.exec fillMany = some { r with
      stack := .value (.ref b) :: stack, heap := r.heap.set b (build (xs ++ ys)) }

def listContainer : Container ObjectValue where
  build := .list
  parts v := [v]
  fillOne := .append
  fillMany := .appends
  shape _ ws h := by
    obtain ⟨w, rfl⟩ := List.length_eq_one_iff.1 h
    exact ⟨w, rfl⟩
  fillOne_exec {r xs b} y stack hb hstack := by
    rw [Reader.exec, hstack]
    simp [Reader.modify, hb, Reader.addItems]
  fillMany_exec {r xs b} ys stack hb hstack := by
    rw [Reader.exec, hstack, unmark_values]
    simp [Reader.modify, hb, Reader.addItems]

def dictContainer : Container (ObjectValue × ObjectValue) where
  build := .dict
  parts kv := [kv.1, kv.2]
  fillOne := .setItem
  fillMany := .setItems
  shape _ ws h := by
    obtain ⟨k, v, rfl⟩ := List.length_eq_two.1 h
    exact ⟨(k, v), rfl⟩
  fillOne_exec {r xs b} y stack hb hstack := by
    rw [Reader.exec, hstack]
    simp [Reader.modify, hb, Reader.addEntries]
  fillMany_exec {r xs b} ys stack hb hstack := by
    rw [Reader.exec, hstack, unmark_values, List.append_nil, Option.bind_some, pairs_flatMap]
    simp [Reader.modify, hb, Reader.addEntries]

namespace Container

variable {β : Type} (C : Container β)

/-- Elements with related parts. -/
def Related (R : ℕ → ℕ → Prop) (x y : β) : Prop :=
  List.Forall₂ (ValueRel R) (C.parts x) (C.parts y)

def batch (xs : List β) : List PickleStep :=
  .emit .mark :: ((xs.flatMap C.parts).map .save ++ [.emit C.fillMany])

/-- The values that are read for the parts of elements are the parts of elements. -/
theorem exists_related {R : ℕ → ℕ → Prop} {xs : List β} {ws : List ObjectValue}
    (h : List.Forall₂ (ValueRel R) (xs.flatMap C.parts) ws) :
    ∃ ys, ws = ys.flatMap C.parts ∧ List.Forall₂ (C.Related R) xs ys := by
  induction xs generalizing ws with
  | nil =>
    cases h
    exact ⟨[], rfl, .nil⟩
  | cons x xs ih =>
    have h₁ := (List.forall₂_take_append _ _ _ h.flip).flip
    have h₂ := (List.forall₂_drop_append _ _ _ h.flip).flip
    obtain ⟨y, hy⟩ := C.shape x _ h₁.length_eq.symm
    obtain ⟨ys, hys, hrelated⟩ := ih h₂
    have hx : C.Related R x y := by
      rw [Related, hy]
      exact h₁
    refine ⟨y :: ys, ?_, .cons hx hrelated⟩
    rw [List.flatMap_cons, hy, ← hys, List.take_append_drop]

theorem Related.imp {R S : ℕ → ℕ → Prop} (h : ∀ {a b : ℕ}, R a b → S a b) {x y : β}
    (hxy : C.Related R x y) : C.Related S x y :=
  List.Forall₂.imp (fun _ _ hv => hv.imp h) hxy

/-- The object at `a` is open, and of its elements `xs` have been read so far. -/
structure Filling (heap : PyHeap) (opened : ℕ → Prop) (memo : List ℕ) (r : Reader) (a b : ℕ)
    (stack : List Entry) (xs : List β) : Prop where
  rebuilt : Rebuilt heap opened memo r
  isOpen : opened a
  linked : Linked heap memo r.memo a b
  stack_eq : r.stack = .value (.ref b) :: stack
  object : ∃ ys, r.heap[b]? = some (C.build ys) ∧
    List.Forall₂ (C.Related (Linked heap memo r.memo)) xs ys

section Filling

variable {C} {heap : PyHeap} {opened : ℕ → Prop} {memo memo' : List ℕ} {r : Reader} {a b : ℕ}
  {stack : List Entry} {xs : List β} {items : List PickleItem}
  {save : List ℕ → ObjectValue → Option (Saved Constant Opcode)} {steps : List PickleStep}

/-- What is filled in goes to the end of what was there. -/
theorem Filling.add (hheap : WellFormed heap) {ys : List β} {r₁ : Reader} {memo₁ : List ℕ}
    (h : Filling C heap opened memo r a b stack xs)
    (hgrows : Grows (fun _ => False) memo r memo₁ r₁) (hr₁ : Rebuilt heap opened memo₁ r₁)
    {zs : List β} (hzs : List.Forall₂ (C.Related (Linked heap memo₁ r₁.memo)) ys zs)
    {t : Opcode} (hexec : ∀ {xs'}, r₁.heap[b]? = some (C.build xs') → r₁.exec t = some { r₁ with
      stack := .value (.ref b) :: stack, heap := r₁.heap.set b (C.build (xs' ++ zs)) }) :
    ∃ r₂, r₁.run [.token t] = some r₂ ∧ Filling C heap opened memo₁ r₂ a b stack (xs ++ ys) ∧
      Grows (fun c => c = b) memo r memo₁ r₂ := by
  obtain ⟨xs', hxs', hrelated⟩ := h.object
  have hlt : b < r.heap.length := (List.getElem?_eq_some_iff.1 hxs').1
  have hkept : r₁.heap[b]? = some (C.build xs') := (hgrows.heap hlt id).trans hxs'
  have hab := hgrows.linked h.linked
  have hrun : r₁.run [.token t] = some { r₁ with
      stack := .value (.ref b) :: stack, heap := r₁.heap.set b (C.build (xs' ++ zs)) } := by
    rw [Reader.run_cons, Reader.step, hexec hkept]
    rfl
  refine ⟨_, hrun, ⟨hr₁.set hheap h.isOpen hab _ _, h.isOpen, hab, rfl, xs' ++ zs, ?_, ?_⟩,
    hgrows.memo, hgrows.read, ?_, ?_, hgrows.fresh⟩
  · exact List.getElem?_set_self (List.getElem?_eq_some_iff.1 hkept).1
  · exact List.rel_append (hrelated.imp fun _ _ hx => Related.imp C hgrows.linked hx) hzs
  · simpa using hgrows.length_le
  · intro c hc hne
    exact (List.getElem?_set_ne (Ne.symm hne)).trans (hgrows.heap hc id)

theorem Filling.one (hheap : WellFormed heap) (hsave : SaveReads heap save) {x : β}
    (h : Filling C heap opened memo r a b stack xs)
    (hsteps : runSteps save a memo ((C.parts x).map .save ++ [.emit C.fillOne]) =
      some (items, memo')) :
    ∃ r', r.run items = some r' ∧ Filling C heap opened memo' r' a b stack (xs ++ [x]) ∧
      Grows (fun c => c = b) memo r memo' r' := by
  obtain ⟨part, rest, memo₁, r₁, ws, rfl, hrun, hpush, hrest⟩ := hsave.saves _ hsteps h.rebuilt
  obtain ⟨rest, rfl, hnil⟩ := runSteps_emit hrest
  cases hnil
  obtain ⟨y, hy⟩ := C.shape x ws hpush.values.length_eq.symm
  have hxy : C.Related (Linked heap memo' r₁.memo) x y := by
    rw [Related, hy]
    exact hpush.values
  have hstack : r₁.stack = ((C.parts y).map .value).reverse ++ .value (.ref b) :: stack := by
    rw [hpush.stack, hy, h.stack_eq]
  obtain ⟨r₂, hfill, hfilled, hgrows⟩ := h.add hheap hpush.grows hpush.rebuilt (.cons hxy .nil)
    fun hb => C.fillOne_exec y stack hb hstack
  exact ⟨r₂, Reader.run_trans hrun hfill, hfilled, hgrows⟩

theorem Filling.batch (hheap : WellFormed heap) (hsave : SaveReads heap save) {ys : List β}
    (h : Filling C heap opened memo r a b stack xs)
    (hsteps : runSteps save a memo (C.batch ys ++ steps) = some (items, memo')) :
    ∃ part rest memo₁ r₁, items = part ++ rest ∧ r.run part = some r₁ ∧
      Filling C heap opened memo₁ r₁ a b stack (xs ++ ys) ∧
      Grows (fun c => c = b) memo r memo₁ r₁ ∧
      runSteps save a memo₁ steps = some (rest, memo') := by
  rw [Container.batch, List.cons_append, List.append_assoc] at hsteps
  obtain ⟨rest, rfl, hmarked⟩ := runSteps_emit hsteps
  have hr : Rebuilt heap opened memo { r with stack := .mark :: r.stack } :=
    h.rebuilt.of_kept rfl (Nat.le_refl _) (fun _ _ => rfl) rfl
  obtain ⟨part, rest, memo₁, r₁, ws, rfl, hrun, hpush, hrest⟩ := hsave.saves _ hmarked hr
  obtain ⟨rest, rfl, htail⟩ := runSteps_emit hrest
  obtain ⟨zs, rfl, hzs⟩ := C.exists_related hpush.values
  have hgrows : Grows (fun _ => False) memo r memo₁ r₁ := { hpush.grows with }
  have hstack : r₁.stack =
      ((zs.flatMap C.parts).map .value).reverse ++ .mark :: .value (.ref b) :: stack := by
    rw [hpush.stack, h.stack_eq]
  obtain ⟨r₂, hfill, hfilled, hgrows'⟩ := h.add hheap hgrows hpush.rebuilt hzs
    fun hb => C.fillMany_exec zs stack hb hstack
  have hmark : r.run (.token .mark :: (part ++ [.token C.fillMany])) = some r₂ :=
    Reader.run_trans hrun hfill
  refine ⟨_, rest, memo₁, r₂, ?_, hmark, hfilled, hgrows', htail⟩
  simp

theorem Filling.batches (hheap : WellFormed heap) (hsave : SaveReads heap save)
    (chunks : List (List β)) (h : Filling C heap opened memo r a b stack xs)
    (hsteps : runSteps save a memo (chunks.flatMap C.batch) = some (items, memo')) :
    ∃ r', r.run items = some r' ∧
      Filling C heap opened memo' r' a b stack (xs ++ chunks.flatten) ∧
      Grows (fun c => c = b) memo r memo' r' := by
  induction chunks generalizing memo r xs items with
  | nil =>
    cases hsteps
    refine ⟨r, rfl, ?_, .refl⟩
    rw [List.flatten_nil, List.append_nil]
    exact h
  | cons ys chunks ih =>
    rw [List.flatMap_cons] at hsteps
    obtain ⟨part, rest, memo₁, r₁, rfl, hrun, hfilled, hgrows, hrest⟩ := h.batch hheap hsave hsteps
    obtain ⟨r₂, hrun', hfilled', hgrows'⟩ := ih hfilled hrest
    refine ⟨r₂, Reader.run_trans hrun hrun', ?_, hgrows.trans hgrows'⟩
    rw [List.flatten_cons, ← List.append_assoc]
    exact hfilled'

end Filling

end Container

theorem appendBatches_eq (room : ℕ) (items : List ObjectValue) :
    ∃ (ys : List ObjectValue) (chunks : List (List ObjectValue)), ys ++ chunks.flatten = items ∧ appendBatches room items =
      (ys.flatMap listContainer.parts).map .save ++
        .emit .appends :: chunks.flatMap listContainer.batch := by
  induction items generalizing room with
  | nil => exact ⟨[], [], rfl, by rw [appendBatches]; rfl⟩
  | cons x items ih =>
    cases room with
    | zero =>
      obtain ⟨ys, chunks, rfl, h⟩ := ih (batchSize - 1)
      refine ⟨[], (x :: ys) :: chunks, rfl, ?_⟩
      rw [appendBatches, h]
      simp [Container.batch, listContainer]
    | succ room =>
      obtain ⟨ys, chunks, rfl, h⟩ := ih room
      refine ⟨x :: ys, chunks, rfl, ?_⟩
      rw [appendBatches, h]
      rfl

theorem setItemBatches_eq (room : ℕ) (entries : List (ObjectValue × ObjectValue)) :
    ∃ (ys : List (ObjectValue × ObjectValue)) (chunks : List (List (ObjectValue × ObjectValue))),
      ys ++ chunks.flatten = entries ∧ setItemBatches room entries =
      (ys.flatMap dictContainer.parts).map .save ++
        .emit .setItems :: chunks.flatMap dictContainer.batch := by
  induction entries generalizing room with
  | nil =>
    cases room with
    | zero => exact ⟨[], [[]], rfl, rfl⟩
    | succ room => exact ⟨[], [], rfl, rfl⟩
  | cons kv entries ih =>
    cases room with
    | zero =>
      obtain ⟨ys, chunks, rfl, h⟩ := ih (batchSize - 1)
      refine ⟨[], (kv :: ys) :: chunks, rfl, ?_⟩
      rw [setItemBatches, h]
      simp [Container.batch, dictContainer]
    | succ room =>
      obtain ⟨ys, chunks, rfl, h⟩ := ih room
      refine ⟨kv :: ys, chunks, rfl, ?_⟩
      rw [setItemBatches, h]
      rfl

/-- How the recipes of containers fill them: with one element, or batch by batch. -/
def Container.Fills {β : Type} (C : Container β) (xs : List β) (steps : List PickleStep) : Prop :=
  (∃ x, xs = [x] ∧ steps = (C.parts x).map .save ++ [.emit C.fillOne]) ∨
    ∃ chunks : List (List β), chunks.flatten = xs ∧ steps = chunks.flatMap C.batch

theorem batchList_fills (items : List ObjectValue) :
    listContainer.Fills items (batchList items) := by
  match items with
  | [] => exact .inr ⟨[], rfl, rfl⟩
  | [x] => exact .inl ⟨x, rfl, rfl⟩
  | x :: y :: items =>
    obtain ⟨ys, chunks, hflatten, h⟩ := appendBatches_eq batchSize (x :: y :: items)
    have hbatch : batchList (x :: y :: items) =
        .emit .mark :: appendBatches batchSize (x :: y :: items) := rfl
    refine .inr ⟨ys :: chunks, hflatten, ?_⟩
    rw [hbatch, h]
    simp [Container.batch, listContainer]

theorem batchDict_fills (entries : List (ObjectValue × ObjectValue)) :
    dictContainer.Fills entries (batchDict entries) := by
  match entries with
  | [] => exact .inr ⟨[], rfl, rfl⟩
  | [kv] => exact .inl ⟨kv, rfl, rfl⟩
  | kv :: kw :: entries =>
    obtain ⟨ys, chunks, hflatten, h⟩ := setItemBatches_eq batchSize (kv :: kw :: entries)
    have hbatch : batchDict (kv :: kw :: entries) =
        .emit .mark :: setItemBatches batchSize (kv :: kw :: entries) := rfl
    refine .inr ⟨ys :: chunks, hflatten, ?_⟩
    rw [hbatch, h]
    simp [Container.batch, dictContainer]

end PrefectQiskit.CanonicalKey
