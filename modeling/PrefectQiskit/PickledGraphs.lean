import PrefectQiskit.PickleMachine

/-!
# Reading pickled graphs back

Every kind of object is read back in the shape in which it was saved. So a pickled graph is
rebuilt up to the addresses of its objects, and a stream of opcodes belongs to one graph.
-/

namespace PrefectQiskit.CanonicalKey

open ObjectHeap MemoStream

/-! ## Objects -/

section Objects

variable {heap : PyHeap} {opened : ℕ → Prop} {memo memo' memo₁ : List ℕ} {r r₁ : Reader}
  {a b : ℕ} {o : HeapObject} {vs : List ObjectValue} {items : List PickleItem}
  {save : List ℕ → ObjectValue → Option (Saved Constant Opcode)}

/-- A container is read back with everything that refers to it while it is filled. -/
theorem reads_container {β : Type} (C : Container β) (hheap : WellFormed heap)
    (hsave : SaveReads heap save) {t : Opcode} {xs : List β} {body : List PickleStep}
    (hr : Rebuilt heap opened memo r) (ha : a ∉ memo) (ho : heap[a]? = some (C.build xs))
    (hne : C.build xs ≠ .tuple [])
    (hempty : ∀ r : Reader, r.exec t = some (r.alloc r.stack (C.build [])))
    (hrel : ∀ {R ys}, List.Forall₂ (C.Related R) xs ys → ObjectRel R (C.build xs) (C.build ys))
    (hbody : C.Fills xs body)
    (h : runSteps save a memo (.memoize [t] [] :: body) = some (items, memo')) :
    ∃ r' w, r.run items = some r' ∧ Pushes heap opened memo r [.ref a] memo' r' [w] := by
  obtain ⟨rest, rfl, hrest⟩ := runSteps_memoize_new ha h
  have hne' : heap[a]? ≠ some (.tuple []) := fun he => hne (Option.some.inj (ho.symm.trans he))
  obtain ⟨hopen, hcreate⟩ := hr.create ha hne' r.stack (C.build [])
  have hrun : r.run [.token t, .memoize] = some
      { r.alloc r.stack (C.build []) with memo := r.memo ++ [r.heap.length] } := by
    rw [Reader.run_cons, Reader.step, hempty]
    rfl
  have hfilling : C.Filling heap (fun c => c = a ∨ opened c) (memo ++ [a])
      { r.alloc r.stack (C.build []) with memo := r.memo ++ [r.heap.length] } a r.heap.length
      r.stack [] :=
    ⟨hopen, .inl rfl, linked_append hr.length_eq, rfl, [], by simp [Reader.alloc], .nil⟩
  have hfill : ∃ r', Reader.run { r.alloc r.stack (C.build []) with
        memo := r.memo ++ [r.heap.length] } rest = some r' ∧
      C.Filling heap (fun c => c = a ∨ opened c) memo' r' a r.heap.length r.stack xs ∧
      Grows (fun c => c = r.heap.length) (memo ++ [a]) { r.alloc r.stack (C.build []) with
        memo := r.memo ++ [r.heap.length] } memo' r' := by
    obtain ⟨x, rfl, rfl⟩ | ⟨chunks, rfl, rfl⟩ := hbody
    · exact hfilling.one hheap hsave hrest
    · exact hfilling.batches hheap hsave chunks hrest
  obtain ⟨r', hrun', hfilled, hgrows⟩ := hfill
  obtain ⟨ys, hys, hrelated⟩ := hfilled.object
  have hall : r.run ([.token t, .memoize] ++ rest) = some r' := Reader.run_trans hrun hrun'
  refine ⟨r', .ref r.heap.length, hall, hfilled.stack_eq,
    .cons (.ref hfilled.linked) .nil,
    hfilled.rebuilt.close hheap hfilled.linked ho hys (hrel hrelated), ?_⟩
  have htotal : Grows (fun c => c = r.heap.length) memo r memo' r' :=
    (hcreate.mono fun _ _ => False.elim).trans hgrows
  refine htotal.mono ?_
  intro c hc he
  have heq : c = r.heap.length := he
  omega

/-- An object that is made of values on the stack. -/
theorem reads_parts (base : List Entry) (hheap : WellFormed heap) (hsave : SaveReads heap save)
    (hr : Rebuilt heap opened memo r) {done undo : List Opcode}
    (ho : heap[a]? = some o) (hne : o ≠ .tuple []) (build : List ObjectValue → HeapObject)
    (hrel : ∀ {R ws}, List.Forall₂ (ValueRel R) vs ws → ObjectRel R o (build ws))
    (hdone : ∀ {r₁ : Reader} {ws : List ObjectValue}, ws.length = vs.length →
      r₁.stack = (ws.map .value).reverse ++ r.stack →
      r₁.run (done.map .token) = some (r₁.alloc base (build ws)))
    (hundo : ∀ {r₁ : Reader} {ws : List ObjectValue}, ws.length = vs.length →
      r₁.stack = (ws.map .value).reverse ++ r.stack →
      r₁.run (undo.map .token) = some { r₁ with stack := base })
    (h : runSteps save a memo (vs.map .save ++ [.memoize done undo]) = some (items, memo')) :
    ∃ r' w, r.run items = some r' ∧
      Pushes heap opened memo { r with stack := base } [.ref a] memo' r' [w] := by
  obtain ⟨part, rest, memo₁, r₁, ws, rfl, hrun, hpush, hrest⟩ := hsave.saves vs h hr
  have hlength := hpush.values.length_eq.symm
  have hgrows : Grows (fun _ => False) memo { r with stack := base } memo₁ r₁ :=
    { hpush.grows with }
  obtain ⟨r', w, hrun', hpush'⟩ := reads_memoize hheap hpush.rebuilt hgrows ho hne
    (hrel hpush.values) (hdone hlength hpush.stack)
    (fun _ => ⟨_, hundo hlength hpush.stack, rfl, rfl, { Grows.refl with }⟩) hrest
  exact ⟨r', w, Reader.run_trans hrun hrun', hpush'⟩

theorem reads_tuple (hheap : WellFormed heap) (hsave : SaveReads heap save)
    (hr : Rebuilt heap opened memo r) (ho : heap[a]? = some (.tuple vs))
    (h : runSteps save a memo (tupleSteps vs) = some (items, memo')) :
    ∃ r' w, r.run items = some r' ∧ Pushes heap opened memo r [.ref a] memo' r' [w] := by
  match vs with
  | [] =>
    obtain ⟨rest, rfl, hrest⟩ := runSteps_emit h
    cases hrest
    refine ⟨r.push (.ref 0), .ref 0, rfl, rfl, .cons (.ref (.inr ⟨ho, rfl⟩)) .nil, ?_,
      { Grows.refl with }⟩
    exact hr.of_kept rfl (Nat.le_refl _) (fun _ _ => rfl) rfl
  | [x] =>
    refine reads_parts r.stack hheap hsave hr ho (by simp) .tuple .tuple ?_ ?_ h
    · intro r₁ ws hlength hstack
      obtain ⟨w, rfl⟩ := List.length_eq_one_iff.1 hlength
      simp [Reader.step, Reader.exec, hstack]
    · intro r₁ ws hlength hstack
      obtain ⟨w, rfl⟩ := List.length_eq_one_iff.1 hlength
      simp [Reader.step, Reader.exec, hstack]
  | [x, y] =>
    refine reads_parts r.stack hheap hsave hr ho (by simp) .tuple .tuple ?_ ?_ h
    · intro r₁ ws hlength hstack
      obtain ⟨w, w', rfl⟩ := List.length_eq_two.1 hlength
      simp [Reader.step, Reader.exec, hstack]
    · intro r₁ ws hlength hstack
      obtain ⟨w, w', rfl⟩ := List.length_eq_two.1 hlength
      simp [Reader.step, Reader.exec, hstack]
  | [x, y, z] =>
    refine reads_parts r.stack hheap hsave hr ho (by simp) .tuple .tuple ?_ ?_ h
    · intro r₁ ws hlength hstack
      obtain ⟨w, w', w'', rfl⟩ := List.length_eq_three.1 hlength
      simp [Reader.step, Reader.exec, hstack]
    · intro r₁ ws hlength hstack
      obtain ⟨w, w', w'', rfl⟩ := List.length_eq_three.1 hlength
      simp [Reader.step, Reader.exec, hstack]
  | x :: y :: z :: x' :: vs =>
    obtain ⟨rest, rfl, hrest⟩ := runSteps_emit h
    have hmarked : Rebuilt heap opened memo { r with stack := .mark :: r.stack } :=
      hr.of_kept rfl (Nat.le_refl _) (fun _ _ => rfl) rfl
    have hparts := reads_parts r.stack hheap hsave hmarked ho (by simp) .tuple .tuple
      (fun {r₁ ws} _ hstack => by simp [Reader.step, Reader.exec, hstack, unmark_values])
      (fun {r₁ ws} _ hstack => by simp [Reader.step, Reader.exec, hstack, unmark_values]) hrest
    exact hparts

/-- The names of a class or a function are strings, so they do not lead back to it. -/
theorem reads_named (hheap : WellFormed heap) (hsave : SaveReads heap save)
    (hstrings : ∀ {memo memo' c s items}, heap[c]? = some (.str s) →
      save memo (.ref c) = some (items, memo') → ∀ d ∈ memo', d ∈ memo ∨ d = c)
    (hr : Rebuilt heap opened memo r) (ha : a ∉ memo) {m q : ObjectValue}
    (ho : heap[a]? = some (.named m q))
    (h : runSteps save a memo [.save m, .save q, .memoize [.stackGlobal] []] =
      some (items, memo')) :
    ∃ r' w, r.run items = some r' ∧ Pushes heap opened memo r [.ref a] memo' r' [w] := by
  have hnot : ∀ {v memo memo' items}, v ∈ [m, q] → save memo v = some (items, memo') → a ∉ memo →
      a ∉ memo' := by
    intro v memo memo' items hv hitems ha ha'
    obtain ⟨c, s, rfl, hc⟩ := hheap.named ho v hv
    obtain hold | rfl := hstrings hc hitems a ha'
    · exact ha hold
    · cases ho.symm.trans hc
  obtain ⟨⟨part, memo₁⟩, hm, h⟩ := Option.bind_eq_some_iff.1 h
  obtain ⟨⟨rest, memo₃⟩, h', heq⟩ := Option.bind_eq_some_iff.1 h
  cases heq
  obtain ⟨⟨part', memo₂⟩, hq, h'⟩ := Option.bind_eq_some_iff.1 h'
  obtain ⟨⟨rest', memo₃⟩, hrest, heq⟩ := Option.bind_eq_some_iff.1 h'
  cases heq
  obtain ⟨r₁, w, hrun, hpush⟩ := hsave hm hr
  obtain ⟨r₂, w', hrun', hpush'⟩ := hsave hq hpush.rebuilt
  have hboth := hpush.append hpush'
  have hstack : r₂.stack = .value w' :: .value w :: r.stack := hboth.stack
  have hobject : ObjectRel (Linked heap memo₂ r₂.memo) (.named m q) (.named w w') := by
    cases hboth.values with
    | cons hw hrest =>
      cases hrest with
      | cons hw' hrest => exact .named hw hw'
  have hdone : r₂.run ([Opcode.stackGlobal].map .token) = some (r₂.alloc r.stack (.named w w')) := by
    simp [Reader.step, Reader.exec, hstack]
  obtain ⟨r₃, w'', hrun'', hpush''⟩ := reads_memoize hheap hboth.rebuilt hboth.grows ho (by simp)
    hobject hdone (fun ha₂ => absurd ha₂ (hnot (by simp) hq (hnot (by simp) hm ha))) hrest
  exact ⟨r₃, w'', Reader.run_trans hrun (Reader.run_trans hrun' hrun''), hpush''⟩

/-- An object whose state is still to be set. -/
theorem reads_build (hheap : WellFormed heap) (hsave : SaveReads heap save)
    {callable args state callable' args' : ObjectValue} {state' : Option ObjectValue}
    (ho : heap[a]? = some (.reduced callable args (some state)))
    (hr : Rebuilt heap (fun c => c = a ∨ opened c) memo₁ r₁)
    (hgrows : Grows (fun _ => False) memo r memo₁ r₁)
    (hstack : r₁.stack = .value (.ref b) :: r.stack)
    (hab : Linked heap memo₁ r₁.memo a b) (hb : r.heap.length ≤ b)
    (hobject : r₁.heap[b]? = some (.reduced callable' args' state'))
    (hcallable : ValueRel (Linked heap memo₁ r₁.memo) callable callable')
    (hargs : ValueRel (Linked heap memo₁ r₁.memo) args args')
    (h : runSteps save a memo₁ [.save state, .emit .build] = some (items, memo')) :
    ∃ r' w, r₁.run items = some r' ∧ Pushes heap opened memo r [.ref a] memo' r' [w] := by
  obtain ⟨⟨part, memo₂⟩, hstate, h⟩ := Option.bind_eq_some_iff.1 h
  have heq : some (part ++ [.token .build], memo₂) = some (items, memo') := h
  obtain ⟨rfl, hmemo⟩ := Prod.mk.inj (Option.some.inj heq)
  rw [← hmemo]
  obtain ⟨r₂, w, hrun, hpush⟩ := hsave hstate hr
  have hlt : b < r₁.heap.length := (List.getElem?_eq_some_iff.1 hobject).1
  have hkept : r₂.heap[b]? = some (.reduced callable' args' state') :=
    (hpush.grows.heap hlt id).trans hobject
  have hstack' : r₂.stack = .value w :: .value (.ref b) :: r.stack := by
    rw [hpush.stack, hstack]
    rfl
  have hbuild : r₂.run [.token .build] = some { r₂ with
      stack := .value (.ref b) :: r.stack,
      heap := r₂.heap.set b (.reduced callable' args' (some w)) } := by
    simp [Reader.step, Reader.exec, hstack', Reader.modify, hkept, Reader.setState]
  have hab' := hpush.grows.linked hab
  have hw : ValueRel (Linked heap memo₂ r₂.memo) state w := by
    cases hpush.values with
    | cons hw _ => exact hw
  have hset := hpush.rebuilt.set hheap (.inl rfl) hab' (.value (.ref b) :: r.stack)
    (.reduced callable' args' (some w))
  refine ⟨_, .ref b, Reader.run_trans hrun hbuild, rfl, .cons (.ref hab') .nil,
    hset.close hheap hab' ho (List.getElem?_set_self (List.getElem?_eq_some_iff.1 hkept).1)
      (.reduced (hcallable.imp hpush.grows.linked) (hargs.imp hpush.grows.linked) (.some hw)), ?_⟩
  have htotal := hgrows.trans hpush.grows
  refine ⟨htotal.memo, htotal.read, ?_, ?_, htotal.fresh⟩
  · simpa using htotal.length_le
  · intro c hc _
    have hne : b ≠ c := by omega
    exact (List.getElem?_set_ne hne).trans (htotal.heap hc id)

/-- An object that was not in the memo before is read at a new address. -/
theorem Grows.le_of_linked (hheap : WellFormed heap) (hr : Rebuilt heap opened memo r)
    (hr₁ : Rebuilt heap opened memo₁ r₁) (hgrows : Grows (fun _ => False) memo r memo₁ r₁)
    (ha : a ∉ memo) (hne : heap[a]? ≠ some (.tuple []))
    (hab : Linked heap memo₁ r₁.memo a b) : r.heap.length ≤ b := by
  obtain ⟨i, -, hb⟩ | ⟨hempty, -⟩ := id hab
  · obtain hold | hnew := hgrows.fresh b (List.mem_of_getElem? hb)
    · obtain ⟨j, hj⟩ := List.mem_iff_getElem?.1 hold
      have hlt : j < memo.length := hr.length_eq ▸ (List.getElem?_eq_some_iff.1 hj).1
      have hjb : Linked heap memo r.memo memo[j] b :=
        .inl ⟨j, List.getElem?_eq_getElem hlt, hj⟩
      have heq : memo[j] = a := (hr₁.linked_biUnique hheap).1 (hgrows.linked hjb) hab
      exact absurd (heq ▸ List.getElem_mem hlt) ha
    · exact hnew
  · exact absurd hempty hne

/-- Its state may lead back to the object, and its arguments may, through an object that is
filled afterwards. Then it is in the memo before it is made here. -/
theorem reads_reduced (hheap : WellFormed heap) (hsave : SaveReads heap save)
    (hr : Rebuilt heap opened memo r) (ha : a ∉ memo) {callable args : ObjectValue}
    {state : Option ObjectValue} (ho : heap[a]? = some (.reduced callable args state))
    (h : runSteps save a memo (recipe (.reduced callable args state)) = some (items, memo')) :
    ∃ r' w, r.run items = some r' ∧ Pushes heap opened memo r [.ref a] memo' r' [w] := by
  obtain ⟨tail, hsteps, hnone, hsome⟩ : ∃ tail, runSteps save a memo
      ([callable, args].map .save ++ .emit .reduce :: .memoize [] [.pop] :: tail) =
        some (items, memo') ∧ (state = none → tail = []) ∧
          ∀ s, state = some s → tail = [.save s, .emit .build] := by
    cases state with
    | none => exact ⟨[], h, fun _ => rfl, fun s hs => by cases hs⟩
    | some state =>
      exact ⟨[.save state, .emit .build], h, by simp, fun s hs => by rw [Option.some.inj hs]⟩
  obtain ⟨part, rest, memo₁, r₁, ws, rfl, hrun, hpush, hrest⟩ := hsave.saves _ hsteps hr
  rw [runSteps_emit_memoize] at hrest
  obtain ⟨callable', args', rfl⟩ := List.length_eq_two.1 hpush.values.length_eq.symm
  have hstack : r₁.stack = .value args' :: .value callable' :: r.stack := hpush.stack
  obtain ⟨hcallable, hargs⟩ : ValueRel (Linked heap memo₁ r₁.memo) callable callable' ∧
      ValueRel (Linked heap memo₁ r₁.memo) args args' := by
    simpa using hpush.values
  have hne : heap[a]? ≠ some (.tuple []) := by simp [ho]
  have hdone : r₁.run ([Opcode.reduce].map .token) =
      some (r₁.alloc r.stack (.reduced callable' args' none)) := by
    simp [Reader.step, Reader.exec, hstack]
  -- an object that is in the memo already is made once more and thrown away
  obtain ⟨r₂, hundo, hstack₂, hmemo₂, hgarbage⟩ : ∃ r₂,
      r₁.run ([Opcode.reduce, .pop].map .token) = some r₂ ∧ r₂.stack = r.stack ∧
        r₂.memo = r₁.memo ∧ Grows (fun _ => False) memo₁ r₁ memo₁ r₂ := by
    refine ⟨{ r₁.alloc r.stack (.reduced callable' args' none) with stack := r.stack }, ?_, rfl,
      rfl, { alloc_grows r₁ r.stack (.reduced callable' args' none) with }⟩
    simp [Reader.step, Reader.exec, hstack, Reader.alloc]
  cases state with
  | none =>
    rw [hnone rfl] at hrest
    obtain ⟨r', w, hrun', hpush'⟩ := reads_memoize hheap hpush.rebuilt hpush.grows ho (by simp)
      (.reduced hcallable hargs .none) hdone (fun _ => ⟨r₂, hundo, hstack₂, hmemo₂, hgarbage⟩)
      hrest
    exact ⟨r', w, Reader.run_trans hrun hrun', hpush'⟩
  | some state =>
    rw [hsome state rfl] at hrest
    by_cases ha₁ : a ∈ memo₁
    · obtain ⟨rest, rfl, htail⟩ := runSteps_memoize_old ha₁ hrest
      have hr₂ : Rebuilt heap opened memo₁ r₂ := hpush.rebuilt.of_grows hgarbage hmemo₂
      have hgrows := hpush.grows.trans hgarbage
      obtain ⟨b, hb, hab⟩ := hr₂.linked_idxOf ha₁
      have hle := hgrows.le_of_linked hheap hr hr₂ ha hne hab
      have hclosed : ¬opened a := fun hopen => ha (hr.entered a hopen)
      obtain ⟨o, o', ho₁, ho', hobject⟩ := hr₂.complete hab hclosed
      cases ho.symm.trans ho₁
      have hopen : Rebuilt heap (fun c => c = a ∨ opened c) memo₁ (r₂.push (.ref b)) :=
        (hr₂.reopen ha₁).of_kept rfl (Nat.le_refl _) (fun _ _ => rfl) rfl
      have hpushed : (r₂.push (.ref b)).stack = .value (.ref b) :: r.stack :=
        congrArg (List.cons (Entry.value (.ref b))) hstack₂
      cases hobject with
      | reduced hcallable' hargs' hstate =>
        obtain ⟨r', w, hrun', hpush'⟩ := reads_build hheap hsave ho hopen { hgrows with } hpushed
          hab hle ho' hcallable' hargs' htail
        have hrecalled : r₂.run (.get (memo₁.idxOf a) :: rest) = some r' := by
          rw [Reader.run_cons, Reader.step, hb]
          exact hrun'
        exact ⟨r', w, Reader.run_trans hrun (Reader.run_trans hundo hrecalled), hpush'⟩
    · obtain ⟨rest, rfl, htail⟩ := runSteps_memoize_new ha₁ hrest
      obtain ⟨hopen, hcreate⟩ := hpush.rebuilt.create ha₁ hne r.stack
        (.reduced callable' args' none)
      have hab : Linked heap (memo₁ ++ [a]) (r₁.memo ++ [r₁.heap.length]) a r₁.heap.length :=
        linked_append hpush.rebuilt.length_eq
      have hnew : (r₁.alloc r.stack (.reduced callable' args' none)).heap[r₁.heap.length]? =
          some (.reduced callable' args' none) := by simp [Reader.alloc]
      obtain ⟨r', w, hrun', hpush'⟩ := reads_build hheap hsave ho hopen (hpush.grows.trans hcreate)
        rfl hab hpush.grows.length_le hnew (hcallable.imp hcreate.linked)
        (hargs.imp hcreate.linked) htail
      have hmemoized : r₁.run ([Opcode.reduce].map .token ++ .memoize :: rest) = some r' :=
        Reader.run_trans hdone hrun'
      exact ⟨r', w, Reader.run_trans hrun hmemoized, hpush'⟩

theorem reads_atom (c : Constant) (hr : Rebuilt heap opened memo r) :
    Pushes heap opened memo r [.atom c] memo (r.push (.atom c)) [.atom c] :=
  ⟨rfl, .cons (.atom c) .nil, hr.of_kept rfl (Nat.le_refl _) (fun _ _ => rfl) rfl,
    { Grows.refl with }⟩

theorem reads_get (hr : Rebuilt heap opened memo r) (ha : a ∈ memo) :
    ∃ r' w, r.run [.get (memo.idxOf a)] = some r' ∧
      Pushes heap opened memo r [.ref a] memo r' [w] := by
  obtain ⟨b, hb, hab⟩ := hr.linked_idxOf ha
  refine ⟨r.push (.ref b), .ref b, ?_, rfl, .cons (.ref hab) .nil,
    hr.of_kept rfl (Nat.le_refl _) (fun _ _ => rfl) rfl, { Grows.refl with }⟩
  rw [Reader.run_cons, Reader.step, hb]
  rfl

theorem save_string {n : ℕ} {c : ℕ} {s : String} (hc : heap[c]? = some (.str s))
    (h : MemoStream.save (fun a => heap[a]?.map recipe) n memo (.ref c) = some (items, memo')) :
    ∀ d ∈ memo', d ∈ memo ∨ d = c := by
  intro d hd
  cases n with
  | zero => cases h
  | succ n =>
    rw [MemoStream.save] at h
    split at h
    · cases h
      exact .inl hd
    next hmem =>
      rw [hc] at h
      obtain ⟨rest, -, hrest⟩ := runSteps_memoize_new hmem h
      cases hrest
      exact (List.mem_append.1 hd).imp_right List.mem_singleton.1

/-- One case for each kind of object. -/
theorem reads_recipe (hheap : WellFormed heap) (hsave : SaveReads heap save)
    (hstrings : ∀ {memo memo' c s items}, heap[c]? = some (.str s) →
      save memo (.ref c) = some (items, memo') → ∀ d ∈ memo', d ∈ memo ∨ d = c)
    (hr : Rebuilt heap opened memo r) (ha : a ∉ memo) (ho : heap[a]? = some o)
    (h : runSteps save a memo (recipe o) = some (items, memo')) :
    ∃ r' w, r.run items = some r' ∧ Pushes heap opened memo r [.ref a] memo' r' [w] := by
  cases o with
  | str s =>
    exact reads_memoize hheap hr .refl ho (by simp) (.str s) rfl (fun hmem => absurd hmem ha) h
  | bytes b =>
    exact reads_memoize hheap hr .refl ho (by simp) (.bytes b) rfl (fun hmem => absurd hmem ha) h
  | tuple vs => exact reads_tuple hheap hsave hr ho h
  | list vs =>
    refine reads_container listContainer hheap hsave hr ha ho (by simp [listContainer])
      (fun _ => rfl) ?_ (batchList_fills vs) h
    intro R ys hys
    exact .list (hys.imp fun _ _ hv => by simpa [Container.Related, listContainer] using hv)
  | dict entries =>
    refine reads_container dictContainer hheap hsave hr ha ho (by simp [dictContainer])
      (fun _ => rfl) ?_ (batchDict_fills entries) h
    intro R ys hys
    exact .dict (hys.imp fun _ _ hkv => by simpa [Container.Related, dictContainer] using hkv)
  | named module qualname => exact reads_named hheap hsave hstrings hr ha ho h
  | reduced callable args state => exact reads_reduced hheap hsave hr ha ho h

/-- Whatever is saved, the reader ends up with an object of the same shape. -/
theorem save_reads (hheap : WellFormed heap) (n : ℕ) :
    SaveReads heap (MemoStream.save (fun a => heap[a]?.map recipe) n) := by
  induction n with
  | zero =>
    intro opened memo memo' v items r h hr
    cases v with
    | atom c =>
      cases h
      exact ⟨_, _, rfl, reads_atom c hr⟩
    | ref a => cases h
  | succ n ih =>
    intro opened memo memo' v items r h hr
    cases v with
    | atom c =>
      cases h
      exact ⟨_, _, rfl, reads_atom c hr⟩
    | ref a =>
      rw [MemoStream.save] at h
      split at h
      next ha =>
        cases h
        exact reads_get hr ha
      next ha =>
        obtain ⟨steps, hsteps, h⟩ := Option.bind_eq_some_iff.1 h
        obtain ⟨o, ho, rfl⟩ := Option.map_eq_some_iff.1 hsteps
        exact reads_recipe hheap ih save_string hr ha ho h

end Objects

theorem loads_of_pickleItems {heap : PyHeap} (hheap : WellFormed heap) {limit : ℕ}
    {root : ObjectValue} {items : List PickleItem}
    (h : pickleItems limit heap root = some items) :
    ∃ heap' root' R, loads items = some (heap', root') ∧ SameGraph R heap heap' ∧
      ValueRel R root root' := by
  obtain ⟨written, hwritten, rfl⟩ := Option.map_eq_some_iff.1 h
  obtain ⟨⟨items, memo⟩, hsave, rfl⟩ := Option.map_eq_some_iff.1 hwritten
  obtain ⟨r, w, hrun, hpush⟩ := save_reads hheap limit hsave (start_rebuilt heap)
  have hstop : Reader.start.run (items ++ [.token .stop]) = some r := Reader.run_trans hrun rfl
  have hroot : ValueRel (Linked heap memo r.memo) root w := by
    simpa using hpush.values
  have hstack : r.stack = [.value w] := hpush.stack
  refine ⟨r.heap, w, Linked heap memo r.memo, ?_, ⟨hpush.rebuilt.linked_biUnique hheap, ?_⟩, hroot⟩
  · obtain ⟨stack, memo', heap'⟩ := r
    cases hstack
    rw [loads, hstop]
  · intro a b hab
    exact hpush.rebuilt.complete hab id

theorem SameGraph.pickleItems_root {R : ℕ → ℕ → Prop} {heap heap' : PyHeap}
    (h : SameGraph R heap heap') {root root' : ObjectValue} (hroot : ValueRel R root root')
    (limit : ℕ) : pickleItems limit heap root = pickleItems limit heap' root' := by
  rw [pickleItems, pickleItems, stream_eq h.sameShape hroot]

theorem pickleItems_mono {heap : PyHeap} {root : ObjectValue} {items : List PickleItem}
    {n m : ℕ} (hnm : n ≤ m) (h : pickleItems n heap root = some items) :
    pickleItems m heap root = some items := by
  obtain ⟨written, hwritten, rfl⟩ := Option.map_eq_some_iff.1 h
  rw [pickleItems, stream_mono hnm hwritten]
  rfl

/-- What is pickled is read back as a graph of the same shape: nothing that is shared comes back
twice, and nothing that was distinct comes back as one. It pickles to the same stream again. -/
theorem loads_pickleItems (heap : PyHeap) (hheap : WellFormed heap) (limit : ℕ)
    (root : ObjectValue) (items : List PickleItem)
    (h : pickleItems limit heap root = some items) :
    ∃ heap' root' R, loads items = some (heap', root') ∧ SameGraph R heap heap' ∧
      ValueRel R root root' ∧ ∀ limit' ≥ limit, pickleItems limit' heap' root' = some items := by
  obtain ⟨heap', root', R, hloads, hgraph, hroot⟩ := loads_of_pickleItems hheap h
  refine ⟨heap', root', R, hloads, hgraph, hroot, fun limit' hle => ?_⟩
  rw [← hgraph.pickleItems_root hroot limit']
  exact pickleItems_mono hle h

section Sample

/-- A dictionary that contains itself, next to a list that it holds twice. -/
def cyclicHeap : PyHeap :=
  [.str "loop", .str "x", .str "y", .list [.atom (.int 1), .atom (.int 2)],
    .dict [(.ref 0, .ref 4), (.ref 1, .ref 3), (.ref 2, .ref 3)]]

def cyclicItems : List PickleItem :=
  [.token .emptyDict, .memoize, .token .mark, .token (.binUnicode "loop"), .memoize, .get 0,
    .token (.binUnicode "x"), .memoize, .token .emptyList, .memoize, .token .mark,
    .atom (.int 1), .atom (.int 2), .token .appends, .token (.binUnicode "y"), .memoize, .get 3,
    .token .setItems, .token .stop]

example : pickleItems 2 cyclicHeap (.ref 4) = some cyclicItems := rfl

end Sample

end PrefectQiskit.CanonicalKey
