import PrefectQiskit.ErrorContract

/-!
# Encodings that separate

A partial encoding separates its inputs up to a relation when inputs with the same code are
related. Encoding a list element by element separates what its elements are separated up to.
-/

namespace PrefectQiskit

universe u v w

variable {ε : Type u} {α : Type v} {β : Type w}

def Separates (encode : α → Except ε β) (R : α → α → Prop) : Prop :=
  ∀ ⦃a a' b⦄, encode a = .ok b → encode a' = .ok b → R a a'

namespace Separates

variable {encode : α → Except ε β} {R : α → α → Prop}

/-- What can be decoded was separated. -/
theorem of_decode (decode : β → α) (h : ∀ a b, encode a = .ok b → decode b = a) :
    Separates encode Eq := by
  intro a a' b ha ha'
  rw [← h a b ha, ← h a' b ha']

end Separates

/-- Lists with the same codes have the same length and related elements. -/
theorem Separates.mapM {α : Type w} {encode : α → Except ε β} {R : α → α → Prop}
    (h : Separates encode R) :
    Separates (fun xs : List α => xs.mapM encode) (List.Forall₂ R) := by
  intro xs xs' ys hxs hxs'
  have hx := mapM_eq_ok_iff.mp hxs
  have hx' := mapM_eq_ok_iff.mp hxs'
  induction hx generalizing xs' with
  | nil =>
    cases hx'
    exact .nil
  | cons hd tl ih =>
    cases hx' with
    | cons hd' tl' =>
      exact .cons (h hd hd') (ih (mapM_eq_ok_iff.mpr tl) (mapM_eq_ok_iff.mpr tl') tl')

end PrefectQiskit
