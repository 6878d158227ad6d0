import PrefectQiskit.ObjectHeap
import Mathlib.Logic.Relator

/-!
# Serialization of object graphs with a memo

An object is written by a recipe: tokens, the values that are saved between them, and the
moment at which the object is entered into the memo. An object of the memo is written as its
position there. So the stream shows which occurrences are one object, but no addresses: heaps
of one shape have the same streams.
-/

namespace PrefectQiskit.MemoStream

open ObjectHeap

universe u v

inductive Step (α : Type u) (τ : Type v) where
  | emit (token : τ)
  | save (v : Value α)
  /-- The tokens before the object is entered into the memo, and those that withdraw it when
  saving a part of it has entered it already. -/
  | memoize (done undo : List τ)

inductive Item (α : Type u) (τ : Type v) where
  | token (t : τ)
  | atom (a : α)
  | memoize
  | get (index : ℕ)

variable {α : Type u} {τ : Type v}

/-- The items written and the memo afterwards, which lists addresses in the order of their
positions. -/
abbrev Saved (α : Type u) (τ : Type v) := List (Item α τ) × List ℕ

/-- The recipe of the object at an address. -/
def runSteps (save : List ℕ → Value α → Option (Saved α τ)) (self : ℕ) :
    List ℕ → List (Step α τ) → Option (Saved α τ)
  | memo, [] => some ([], memo)
  | memo, .emit t :: steps => do
    let (items, memo) ← runSteps save self memo steps
    return (.token t :: items, memo)
  | memo, .save v :: steps => do
    let (part, memo) ← save memo v
    let (items, memo) ← runSteps save self memo steps
    return (part ++ items, memo)
  | memo, .memoize done undo :: steps =>
    if self ∈ memo then do
      let (items, memo') ← runSteps save self memo steps
      return (undo.map .token ++ .get (memo.idxOf self) :: items, memo')
    else do
      let (items, memo) ← runSteps save self (memo ++ [self]) steps
      return (done.map .token ++ .memoize :: items, memo)

/-- Saving a value, unless it is nested more than `n` deep. -/
def save (recipes : ℕ → Option (List (Step α τ))) :
    ℕ → List ℕ → Value α → Option (Saved α τ)
  | _, memo, .atom a => some ([.atom a], memo)
  | 0, _, .ref _ => none
  | n + 1, memo, .ref a =>
    if a ∈ memo then some ([.get (memo.idxOf a)], memo)
    else (recipes a).bind (runSteps (save recipes n) a memo)

/-- What is written for a value on its own. -/
def stream (recipes : ℕ → Option (List (Step α τ))) (n : ℕ) (v : Value α) :
    Option (List (Item α τ)) :=
  (save recipes n [] v).map Prod.fst

variable {recipes recipes' : ℕ → Option (List (Step α τ))}

/-! ## Nesting -/

/-- Every path through saved values ends after at most `n` objects. -/
def Nested (recipes : ℕ → Option (List (Step α τ))) : ℕ → Value α → Prop
  | _, .atom _ => True
  | 0, .ref _ => False
  | n + 1, .ref a => ∃ steps, recipes a = some steps ∧ ∀ v, .save v ∈ steps → Nested recipes n v

theorem Nested.mono {n m : ℕ} (hnm : n ≤ m) {v : Value α}
    (hrecipes : ∀ a steps, recipes a = some steps → recipes' a = some steps)
    (h : Nested recipes n v) : Nested recipes' m v := by
  induction n generalizing m v with
  | zero =>
    cases v with
    | atom a => simp [Nested]
    | ref a => exact h.elim
  | succ n ih =>
    cases v with
    | atom a => simp [Nested]
    | ref a =>
      obtain ⟨m, rfl⟩ := Nat.exists_eq_add_of_le' (Nat.one_le_of_lt hnm)
      obtain ⟨steps, hsteps, hnested⟩ := h
      exact ⟨steps, hrecipes a steps hsteps, fun v hv => ih (by omega) (hnested v hv)⟩

theorem runSteps_isSome {save : List ℕ → Value α → Option (Saved α τ)} {self : ℕ}
    {steps : List (Step α τ)}
    (hsave : ∀ v, .save v ∈ steps → ∀ memo, (save memo v).isSome) (memo : List ℕ) :
    (runSteps save self memo steps).isSome := by
  induction steps generalizing memo with
  | nil => rfl
  | cons step steps ih =>
    have htail := ih fun v hv => hsave v (List.mem_cons_of_mem _ hv)
    cases step with
    | emit t =>
      obtain ⟨r, hr⟩ := Option.isSome_iff_exists.1 (htail memo)
      rw [runSteps, hr]
      rfl
    | save v =>
      obtain ⟨part, hpart⟩ := Option.isSome_iff_exists.1 (hsave v List.mem_cons_self memo)
      obtain ⟨r, hr⟩ := Option.isSome_iff_exists.1 (htail part.2)
      simp only [runSteps, hpart, hr, Option.bind_eq_bind, Option.bind_some]
      rfl
    | memoize done undo =>
      rw [runSteps]
      split
      · obtain ⟨r, hr⟩ := Option.isSome_iff_exists.1 (htail memo)
        rw [hr]
        rfl
      · obtain ⟨r, hr⟩ := Option.isSome_iff_exists.1 (htail (memo ++ [self]))
        rw [hr]
        rfl

theorem Nested.save_isSome {n : ℕ} {v : Value α} (h : Nested recipes n v) (memo : List ℕ) :
    (save recipes n memo v).isSome := by
  induction n generalizing v memo with
  | zero =>
    cases v with
    | atom a => rfl
    | ref a => exact h.elim
  | succ n ih =>
    cases v with
    | atom a => rfl
    | ref a =>
      obtain ⟨steps, hsteps, hnested⟩ := h
      rw [save]
      split
      · rfl
      · rw [hsteps, Option.bind_some]
        exact runSteps_isSome (fun v hv memo => ih (hnested v hv) memo) memo

theorem runSteps_mono {save save' : List ℕ → Value α → Option (Saved α τ)} {self : ℕ}
    (hsave : ∀ memo v r, save memo v = some r → save' memo v = some r) {memo : List ℕ}
    {steps : List (Step α τ)} {r : Saved α τ} (h : runSteps save self memo steps = some r) :
    runSteps save' self memo steps = some r := by
  induction steps generalizing memo r with
  | nil => exact h
  | cons step steps ih =>
    cases step with
    | emit t =>
      obtain ⟨r', hr', h⟩ := Option.bind_eq_some_iff.1 h
      exact Option.bind_eq_some_iff.2 ⟨r', ih hr', h⟩
    | save v =>
      obtain ⟨part, hpart, h⟩ := Option.bind_eq_some_iff.1 h
      obtain ⟨r', hr', h⟩ := Option.bind_eq_some_iff.1 h
      exact Option.bind_eq_some_iff.2 ⟨part, hsave _ _ _ hpart,
        Option.bind_eq_some_iff.2 ⟨r', ih hr', h⟩⟩
    | memoize done undo =>
      rw [runSteps] at h ⊢
      split at h
      next hself =>
        obtain ⟨r', hr', h⟩ := Option.bind_eq_some_iff.1 h
        rw [if_pos hself]
        exact Option.bind_eq_some_iff.2 ⟨r', ih hr', h⟩
      next hself =>
        obtain ⟨r', hr', h⟩ := Option.bind_eq_some_iff.1 h
        rw [if_neg hself]
        exact Option.bind_eq_some_iff.2 ⟨r', ih hr', h⟩

theorem save_mono {n m : ℕ} (hnm : n ≤ m) {memo : List ℕ} {v : Value α} {r : Saved α τ}
    (h : save recipes n memo v = some r) : save recipes m memo v = some r := by
  induction n generalizing m memo v r with
  | zero =>
    cases v with
    | atom a => simpa [save] using h
    | ref a => simp [save] at h
  | succ n ih =>
    cases v with
    | atom a => simpa [save] using h
    | ref a =>
      obtain ⟨m, rfl⟩ := Nat.exists_eq_add_of_le' (Nat.one_le_of_lt hnm)
      rw [save] at h ⊢
      split at h
      next hmem =>
        rw [if_pos hmem]
        exact h
      next hmem =>
        obtain ⟨steps, hsteps, h⟩ := Option.bind_eq_some_iff.1 h
        rw [if_neg hmem, hsteps, Option.bind_some]
        exact runSteps_mono (fun memo v r hr => ih (by omega) hr) h

/-- A higher limit changes nothing that was written. -/
theorem stream_mono {n m : ℕ} (hnm : n ≤ m) {v : Value α} {items : List (Item α τ)}
    (h : stream recipes n v = some items) : stream recipes m v = some items := by
  obtain ⟨r, hr, rfl⟩ := Option.map_eq_some_iff.1 h
  rw [stream, save_mono hnm hr]
  rfl

theorem Nested.stream_isSome {n : ℕ} {v : Value α} (h : Nested recipes n v) :
    (stream recipes n v).isSome := by
  rw [stream, Option.isSome_map]
  exact h.save_isSome []

/-! ## Heaps of one shape -/

/-- The same atom, or objects at corresponding addresses. -/
inductive ValueRel (R : ℕ → ℕ → Prop) : Value α → Value α → Prop
  | atom (a : α) : ValueRel R (.atom a) (.atom a)
  | ref {a b : ℕ} (h : R a b) : ValueRel R (.ref a) (.ref b)

inductive StepRel (R : ℕ → ℕ → Prop) : Step α τ → Step α τ → Prop
  | emit (t : τ) : StepRel R (.emit t) (.emit t)
  | save {v w : Value α} (h : ValueRel R v w) : StepRel R (.save v) (.save w)
  | memoize (done undo : List τ) : StepRel R (.memoize done undo) (.memoize done undo)

/-- Corresponding objects have the same recipe, with corresponding values. -/
structure SameShape (R : ℕ → ℕ → Prop) (recipes recipes' : ℕ → Option (List (Step α τ))) :
    Prop where
  biUnique : Relator.BiUnique R
  recipe : ∀ {a b : ℕ}, R a b → Option.Rel (List.Forall₂ (StepRel R)) (recipes a) (recipes' b)

/-- The same items, and memos that correspond position by position. -/
abbrev SavedRel (R : ℕ → ℕ → Prop) : Option (Saved α τ) → Option (Saved α τ) → Prop :=
  Option.Rel fun r r' => r.1 = r'.1 ∧ List.Forall₂ R r.2 r'.2

variable {R : ℕ → ℕ → Prop}

theorem rel_bind {β β' γ γ' : Type*} {P : β → β' → Prop} {S : γ → γ' → Prop} {x : Option β}
    {x' : Option β'} {f : β → Option γ} {f' : β' → Option γ'} (hx : Option.Rel P x x')
    (hf : ∀ b b', P b b' → Option.Rel S (f b) (f' b')) :
    Option.Rel S (x.bind f) (x'.bind f') := by
  cases hx with
  | none => exact .none
  | some hb => exact hf _ _ hb

theorem idxOf_eq (hR : Relator.BiUnique R) {a b : ℕ} (hab : R a b) {memo memo' : List ℕ}
    (h : List.Forall₂ R memo memo') : memo.idxOf a = memo'.idxOf b := by
  induction h with
  | nil => rfl
  | @cons c d memo memo' hcd _ ih =>
    by_cases hc : c = a
    · have hd : d = b := hR.2 (hc ▸ hcd) hab
      rw [hc, hd, List.idxOf_cons_self, List.idxOf_cons_self]
    · have hd : d ≠ b := fun e => hc (hR.1 (e ▸ hcd) hab)
      rw [List.idxOf_cons_ne _ hc, List.idxOf_cons_ne _ hd, ih]

theorem runSteps_rel {save save' : List ℕ → Value α → Option (Saved α τ)}
    (hR : Relator.BiUnique R)
    (hsave : ∀ {memo memo' v w}, List.Forall₂ R memo memo' → ValueRel R v w →
      SavedRel R (save memo v) (save' memo' w))
    {a b : ℕ} (hab : R a b) {memo memo' : List ℕ} (hmemo : List.Forall₂ R memo memo')
    {steps steps' : List (Step α τ)} (h : List.Forall₂ (StepRel R) steps steps') :
    SavedRel R (runSteps save a memo steps) (runSteps save' b memo' steps') := by
  induction h generalizing memo memo' with
  | nil => exact .some ⟨rfl, hmemo⟩
  | cons hstep _ ih =>
    cases hstep with
    | emit t =>
      apply rel_bind (ih hmemo)
      intro r r' hr
      exact .some ⟨congrArg (List.cons _) hr.1, hr.2⟩
    | save hvalue =>
      apply rel_bind (hsave hmemo hvalue)
      intro part part' hpart
      apply rel_bind (ih hpart.2)
      intro r r' hr
      have hitems : part.1 ++ r.1 = part'.1 ++ r'.1 := by rw [hpart.1, hr.1]
      exact .some ⟨hitems, hr.2⟩
    | memoize done undo =>
      have hmem : a ∈ memo ↔ b ∈ memo' := List.rel_mem hR hab hmemo
      rw [runSteps, runSteps]
      by_cases ha : a ∈ memo
      · rw [if_pos ha, if_pos (hmem.1 ha), idxOf_eq hR hab hmemo]
        apply rel_bind (ih hmemo)
        intro r r' hr
        exact .some ⟨congrArg (fun items => undo.map .token ++ .get (memo'.idxOf b) :: items) hr.1,
          hr.2⟩
      · have hentered : List.Forall₂ R (memo ++ [a]) (memo' ++ [b]) :=
          List.rel_append hmemo (.cons hab .nil)
        rw [if_neg ha, if_neg fun hb => ha (hmem.2 hb)]
        apply rel_bind (ih hentered)
        intro r r' hr
        exact .some ⟨congrArg (fun items => done.map .token ++ .memoize :: items) hr.1, hr.2⟩

/-- Addresses do not show in a stream. -/
theorem save_rel (hshape : SameShape R recipes recipes') {n : ℕ} {memo memo' : List ℕ}
    {v w : Value α} (hmemo : List.Forall₂ R memo memo') (hvalue : ValueRel R v w) :
    SavedRel R (save recipes n memo v) (save recipes' n memo' w) := by
  induction n generalizing memo memo' v w with
  | zero =>
    cases hvalue with
    | atom a => exact .some ⟨rfl, hmemo⟩
    | ref hab => exact .none
  | succ n ih =>
    cases hvalue with
    | atom a => exact .some ⟨rfl, hmemo⟩
    | @ref a b hab =>
      have hmem : a ∈ memo ↔ b ∈ memo' := List.rel_mem hshape.biUnique hab hmemo
      rw [save, save]
      by_cases ha : a ∈ memo
      · rw [if_pos ha, if_pos (hmem.1 ha), idxOf_eq hshape.biUnique hab hmemo]
        exact .some ⟨rfl, hmemo⟩
      · rw [if_neg ha, if_neg fun hb => ha (hmem.2 hb)]
        apply rel_bind (hshape.recipe hab)
        intro steps steps' hsteps
        exact runSteps_rel hshape.biUnique ih hab hmemo hsteps

/-- Heaps of one shape have the same streams, or none at all. -/
theorem stream_eq (hshape : SameShape R recipes recipes') {v w : Value α}
    (hvalue : ValueRel R v w) (n : ℕ) : stream recipes n v = stream recipes' n w := by
  rw [stream, stream]
  have hsaved := save_rel hshape (n := n) .nil hvalue
  revert hsaved
  generalize save recipes n [] v = r
  generalize save recipes' n [] w = r'
  intro hsaved
  cases hsaved with
  | none => rfl
  | some hr => exact congrArg some hr.1

/-! ## New objects -/

theorem ValueRel.imp {S : ℕ → ℕ → Prop} (h : ∀ {a b : ℕ}, R a b → S a b) {v w : Value α}
    (hvalue : ValueRel R v w) : ValueRel S v w := by
  cases hvalue with
  | atom a => exact .atom a
  | ref hab => exact .ref (h hab)

/-- Old objects correspond as before, and the first `k` new ones in their order. -/
inductive Extended (R : ℕ → ℕ → Prop) (n n' k : ℕ) : ℕ → ℕ → Prop
  | old {a b : ℕ} (h : R a b) : Extended R n n' k a b
  | new {i : ℕ} (hi : i < k) : Extended R n n' k (n + i) (n' + i)

theorem Extended.cases_iff {n n' k a b : ℕ} :
    Extended R n n' k a b ↔ R a b ∨ ∃ i < k, a = n + i ∧ b = n' + i := by
  constructor
  · intro h
    cases h with
    | old h => exact .inl h
    | new hi => exact .inr ⟨_, hi, rfl, rfl⟩
  · intro h
    obtain h | ⟨i, hi, rfl, rfl⟩ := h
    · exact .old h
    · exact .new hi

theorem Extended.biUnique {n n' k : ℕ} (hR : Relator.BiUnique R)
    (hlt : ∀ {a b}, R a b → a < n ∧ b < n') : Relator.BiUnique (Extended R n n' k) := by
  constructor
  · intro a b c hac hbc
    obtain hac | ⟨i, -, rfl, hi⟩ := Extended.cases_iff.1 hac
    · obtain hbc | ⟨j, -, rfl, hj⟩ := Extended.cases_iff.1 hbc
      · exact hR.1 hac hbc
      · have hc := (hlt hac).2
        omega
    · obtain hbc | ⟨j, -, rfl, hj⟩ := Extended.cases_iff.1 hbc
      · have hc := (hlt hbc).2
        omega
      · omega
  · intro a b c hab hac
    obtain hab | ⟨i, -, hi, rfl⟩ := Extended.cases_iff.1 hab
    · obtain hac | ⟨j, -, hj, rfl⟩ := Extended.cases_iff.1 hac
      · exact hR.2 hab hac
      · have ha := (hlt hab).1
        omega
    · obtain hac | ⟨j, -, hj, rfl⟩ := Extended.cases_iff.1 hac
      · have ha := (hlt hac).1
        omega
      · omega

end PrefectQiskit.MemoStream
