import Mathlib.Data.List.Forall2

/-!
# Contracts of fallible computations

`Within allowed declared x` says that `x` ends with a value that is as declared or with an
error that is allowed. It is computed backwards through a sequence of steps, as a weakest
precondition is.
-/

namespace PrefectQiskit

universe u v w

variable {ε : Type u} {α : Type v} {β : Type v}

/-- A bind succeeds when both of its steps do. -/
theorem bind_eq_ok {x : Except ε α} {f : α → Except ε β} {b : β} :
    x >>= f = .ok b ↔ ∃ a, x = .ok a ∧ f a = .ok b := by
  cases x with
  | ok a =>
    constructor
    · intro h
      exact ⟨a, rfl, h⟩
    · intro h
      obtain ⟨_, ⟨⟩, h⟩ := h
      exact h
  | error e =>
    constructor
    · intro h
      cases h
    · intro h
      obtain ⟨_, ⟨⟩, _⟩ := h

@[simp] theorem ok_bind (a : α) (f : α → Except ε β) :
    (Except.ok a >>= f) = f a := rfl

@[simp] theorem error_bind (e : ε) (f : α → Except ε β) :
    (Except.error e >>= f) = .error e := rfl

def Within (allowed : ε → Prop) (declared : α → Prop) : Except ε α → Prop
  | .ok a => declared a
  | .error e => allowed e

variable {allowed : ε → Prop} {declared : α → Prop}

@[simp] theorem within_ok (a : α) : Within allowed declared (.ok a) ↔ declared a := Iff.rfl

@[simp] theorem within_error (e : ε) : Within allowed declared (.error e) ↔ allowed e := Iff.rfl

/-- A list is mapped in sequence by mapping each of its elements, position by position. -/
theorem mapM_eq_ok_iff {γ : Type v} {f : γ → Except ε α} {xs : List γ} {ys : List α} :
    xs.mapM f = .ok ys ↔ List.Forall₂ (fun x y => f x = .ok y) xs ys := by
  induction xs generalizing ys with
  | nil =>
    constructor
    · intro h
      cases h
      exact .nil
    · intro h
      cases h
      rfl
  | cons x xs ih =>
    rw [List.mapM_cons]
    constructor
    · intro h
      obtain ⟨y, hx, h⟩ := bind_eq_ok.mp h
      obtain ⟨ys, hxs, h⟩ := bind_eq_ok.mp h
      cases h
      exact .cons hx (ih.mp hxs)
    · intro h
      cases h with
      | cons hx hxs =>
        rw [hx, ih.mpr hxs]
        rfl

/-- Mapping in sequence succeeds when it does at every element. -/
theorem mapM_ok_iff {γ : Type v} (f : γ → Except ε α) (xs : List γ) :
    (∃ ys, xs.mapM f = .ok ys) ↔ ∀ x ∈ xs, ∃ y, f x = .ok y := by
  simp only [mapM_eq_ok_iff]
  constructor
  · intro h
    obtain ⟨ys, h⟩ := h
    induction h with
    | nil => simp
    | cons hx _ ih => exact List.forall_mem_cons.mpr ⟨⟨_, hx⟩, ih⟩
  · intro h
    induction xs with
    | nil => exact ⟨[], .nil⟩
    | cons x xs ih =>
      obtain ⟨⟨y, hx⟩, hxs⟩ := List.forall_mem_cons.mp h
      obtain ⟨ys, hys⟩ := ih hxs
      exact ⟨y :: ys, .cons hx hys⟩

/-- An error of a sequence is the error of one of its elements. -/
theorem mapM_error {γ : Type v} {f : γ → Except ε α} {xs : List γ} {e : ε}
    (h : xs.mapM f = .error e) : ∃ x ∈ xs, f x = .error e := by
  induction xs with
  | nil => cases h
  | cons x xs ih =>
    rw [List.mapM_cons] at h
    cases hx : f x with
    | error e' =>
      rw [hx] at h
      cases h
      exact ⟨x, List.mem_cons_self, hx⟩
    | ok y =>
      cases hxs : xs.mapM f with
      | error e' =>
        rw [hx, hxs] at h
        cases h
        obtain ⟨x', hm, hx'⟩ := ih hxs
        exact ⟨x', List.mem_cons_of_mem _ hm, hx'⟩
      | ok ys =>
        rw [hx, hxs] at h
        cases h

end PrefectQiskit
