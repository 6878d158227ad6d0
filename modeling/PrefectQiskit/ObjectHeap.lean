import PrefectQiskit.Dict
import Mathlib.Data.Finset.Card
import Mathlib.Data.Finset.Range
import Mathlib.Data.List.Forall2

/-!
# Heaps of container objects

Dictionaries and lists as objects with an identity. A value is an atom or a reference, and
reading a value back follows the references. Allocation and writes to new objects leave
everything alone that can be read from the old ones.
-/

namespace PrefectQiskit.ObjectHeap

universe u v

inductive Value (α : Type u) where
  | atom (a : α)
  | ref (address : ℕ)

inductive Object (α : Type u) where
  | dict (entries : Dict (Value α))
  | list (items : List (Value α))

/-- The object at an address is the one at this position. -/
abbrev Heap (α : Type u) := List (Object α)

/-- What the parts of a value are read back as. -/
structure Reading (α : Type u) (β : Type v) where
  atom : α → β
  dict : Dict β → β
  list : List β → β

variable {α : Type u} {β : Type v}

namespace Object

def children : Object α → List (Value α)
  | .dict entries => entries.map Prod.snd
  | .list items => items

/-- The object with its parts read. -/
def readWith (R : Reading α β) (read : Value α → Option β) : Object α → Option β
  | .dict entries => (entries.mapM fun kv => (read kv.2).map fun b => (kv.1, b)).map R.dict
  | .list items => (items.mapM read).map R.list

end Object

/-- Reading back through at most `n` nested containers. -/
def read (R : Reading α β) (heap : Heap α) : ℕ → Value α → Option β
  | _, .atom a => some (R.atom a)
  | 0, .ref _ => none
  | n + 1, .ref a => heap[a]?.bind (Object.readWith R (read R heap n))

/-- A path through more containers than there are comes back to one of them, so this much
nesting is enough. -/
def readBack (R : Reading α β) (heap : Heap α) (v : Value α) : Option β :=
  read R heap heap.length v

/-- The value can be read back, as `b`. -/
def Reads (R : Reading α β) (heap : Heap α) (v : Value α) (b : β) : Prop :=
  ∃ n, read R heap n v = some b

variable {R : Reading α β} {heap heap' : Heap α}

theorem mapM_mono {γ : Type u} {δ : Type v} {f g : γ → Option δ} {xs : List γ} {ys : List δ}
    (hfg : ∀ x ∈ xs, ∀ y, f x = some y → g x = some y) (h : xs.mapM f = some ys) :
    xs.mapM g = some ys := by
  induction xs generalizing ys with
  | nil => exact h
  | cons x xs ih =>
    obtain ⟨hx, hxs⟩ := List.forall_mem_cons.1 hfg
    rw [List.mapM_cons] at h ⊢
    obtain ⟨y, hy, h⟩ := Option.bind_eq_some_iff.1 h
    obtain ⟨ys', hys, h⟩ := Option.bind_eq_some_iff.1 h
    rw [hx y hy, ih hxs hys]
    exact h

theorem mapM_isSome_iff {γ : Type u} {δ : Type v} {f : γ → Option δ} {xs : List γ} :
    (xs.mapM f).isSome ↔ ∀ x ∈ xs, (f x).isSome := by
  induction xs with
  | nil => simp
  | cons x xs ih =>
    rw [List.mapM_cons, List.forall_mem_cons, ← ih]
    cases f x with
    | none => simp
    | some y => cases xs.mapM f <;> simp

theorem readWith_mono {f g : Value α → Option β} {obj : Object α} {b : β}
    (hfg : ∀ v ∈ obj.children, ∀ b, f v = some b → g v = some b)
    (h : obj.readWith R f = some b) : obj.readWith R g = some b := by
  cases obj with
  | dict entries =>
    obtain ⟨d, hd, rfl⟩ := Option.map_eq_some_iff.1 h
    have hmono : entries.mapM (fun kv => (g kv.2).map fun b => (kv.1, b)) = some d := by
      refine mapM_mono (fun kv hkv kb hkb => ?_) hd
      obtain ⟨b, hb, rfl⟩ := Option.map_eq_some_iff.1 hkb
      rw [hfg kv.2 (List.mem_map_of_mem hkv) b hb]
      rfl
    rw [Object.readWith, hmono]
    rfl
  | list items =>
    obtain ⟨bs, hbs, rfl⟩ := Option.map_eq_some_iff.1 h
    have hmono : items.mapM g = some bs := mapM_mono hfg hbs
    rw [Object.readWith, hmono]
    rfl

theorem readWith_isSome_iff {f : Value α → Option β} {obj : Object α} :
    (obj.readWith R f).isSome ↔ ∀ v ∈ obj.children, (f v).isSome := by
  cases obj with
  | dict entries =>
    rw [Object.readWith, Option.isSome_map, mapM_isSome_iff, Object.children]
    simp only [Option.isSome_map, List.forall_mem_map]
  | list items =>
    rw [Object.readWith, Option.isSome_map, mapM_isSome_iff]
    rfl

theorem read_ref_isSome_iff {n a : ℕ} : (read R heap (n + 1) (.ref a)).isSome ↔
    ∃ obj, heap[a]? = some obj ∧ ∀ v ∈ obj.children, (read R heap n v).isSome := by
  rw [read]
  cases heap[a]? with
  | none => simp
  | some obj => simp [readWith_isSome_iff]

/-- More fuel and more objects change nothing that was read. -/
theorem read_mono {n m : ℕ} {v : Value α} {b : β} (hnm : n ≤ m) (hheap : heap <+: heap')
    (h : read R heap n v = some b) : read R heap' m v = some b := by
  induction n generalizing m v b with
  | zero =>
    cases v with
    | atom a => simpa [read] using h
    | ref a => simp [read] at h
  | succ n ih =>
    cases v with
    | atom a => simpa [read] using h
    | ref a =>
      obtain ⟨m, rfl⟩ := Nat.exists_eq_add_of_le' (Nat.one_le_of_lt hnm)
      obtain ⟨obj, hobj, hread⟩ := Option.bind_eq_some_iff.1 h
      have hobj' : heap'[a]? = some obj := by
        obtain ⟨rest, rfl⟩ := hheap
        have hlt := (List.getElem?_eq_some_iff.1 hobj).1
        rw [List.getElem?_append_left hlt, hobj]
      rw [read, hobj']
      exact readWith_mono (fun v _ b hb => ih (by omega) hb) hread

/-! ## Enough fuel -/

/-- The objects that can be read through at most `n` nested containers. -/
def readable (R : Reading α β) (heap : Heap α) (n : ℕ) : Finset ℕ :=
  (Finset.range heap.length).filter fun a => (read R heap n (.ref a)).isSome

theorem mem_readable {n a : ℕ} : a ∈ readable R heap n ↔ (read R heap n (.ref a)).isSome := by
  rw [readable, Finset.mem_filter, Finset.mem_range]
  refine ⟨And.right, fun h => ⟨?_, h⟩⟩
  cases n with
  | zero => simp [read] at h
  | succ n =>
    obtain ⟨obj, hobj, -⟩ := read_ref_isSome_iff.1 h
    exact (List.getElem?_eq_some_iff.1 hobj).1

theorem isSome_mono {n m : ℕ} {v : Value α} (hnm : n ≤ m) (h : (read R heap n v).isSome) :
    (read R heap m v).isSome := by
  obtain ⟨b, hb⟩ := Option.isSome_iff_exists.1 h
  rw [read_mono hnm (List.prefix_refl heap) hb]
  rfl

theorem readable_mono {n m : ℕ} (hnm : n ≤ m) : readable R heap n ⊆ readable R heap m := by
  intro a ha
  exact mem_readable.2 (isSome_mono hnm (mem_readable.1 ha))

/-- Once no further object can be read, none ever can. -/
theorem readable_stationary {n : ℕ} (h : readable R heap (n + 1) = readable R heap n) (k : ℕ) :
    readable R heap (n + k) = readable R heap n := by
  induction k with
  | zero => rfl
  | succ k ih =>
    apply Finset.Subset.antisymm
    · intro a ha
      rw [← h]
      obtain ⟨obj, hobj, hchildren⟩ := read_ref_isSome_iff.1 (mem_readable.1 ha)
      refine mem_readable.2 (read_ref_isSome_iff.2 ⟨obj, hobj, fun v hv => ?_⟩)
      cases v with
      | atom x => simp [read]
      | ref c =>
        have hc : c ∈ readable R heap (n + k) := mem_readable.2 (hchildren _ hv)
        rw [ih] at hc
        exact mem_readable.1 hc
    · exact readable_mono (by omega)

/-- Until then every further nesting adds an object. -/
theorem le_card_readable {n : ℕ} (h : ∀ k < n, readable R heap (k + 1) ≠ readable R heap k) :
    n ≤ (readable R heap n).card := by
  induction n with
  | zero => exact Nat.zero_le _
  | succ n ih =>
    have hle := ih fun k hk => h k (by omega)
    have hlt : (readable R heap n).card < (readable R heap (n + 1)).card := by
      apply Finset.card_lt_card
      exact (readable_mono (by omega)).ssubset_of_ne (h n (by omega)).symm
    omega

theorem readable_subset_length (n : ℕ) : readable R heap n ⊆ readable R heap heap.length := by
  have hstop : ∃ k ≤ heap.length, readable R heap (k + 1) = readable R heap k := by
    by_contra hnot
    have hcard : heap.length + 1 ≤ (readable R heap (heap.length + 1)).card := by
      apply le_card_readable
      intro k hk heq
      exact hnot ⟨k, by omega, heq⟩
    have hrange : (readable R heap (heap.length + 1)).card ≤ heap.length := by
      have hle := Finset.card_le_card
        (Finset.filter_subset (fun a => (read R heap (heap.length + 1) (.ref a)).isSome)
          (Finset.range heap.length))
      rwa [Finset.card_range] at hle
    omega
  obtain ⟨k, hk, heq⟩ := hstop
  by_cases hn : n ≤ k
  · exact readable_mono (hn.trans hk)
  · obtain ⟨j, rfl⟩ := Nat.exists_eq_add_of_le (Nat.le_of_not_le hn)
    rw [readable_stationary heq]
    exact readable_mono hk

/-- Whatever can be read at all is read back. -/
theorem readBack_eq_some {v : Value α} {b : β} : readBack R heap v = some b ↔ Reads R heap v b := by
  refine ⟨fun h => ⟨_, h⟩, fun h => ?_⟩
  obtain ⟨n, hn⟩ := h
  cases v with
  | atom a => simpa [readBack, read] using hn
  | ref a =>
    have hmem : a ∈ readable R heap heap.length :=
      readable_subset_length n (mem_readable.2 (by rw [hn]; rfl))
    obtain ⟨b', hb'⟩ := Option.isSome_iff_exists.1 (mem_readable.1 hmem)
    have hsame := read_mono (Nat.le_max_left n heap.length) (List.prefix_refl heap) hn
    have hsame' := read_mono (Nat.le_max_right n heap.length) (List.prefix_refl heap) hb'
    rw [readBack, hb', ← hsame, hsame']

theorem Reads.mono {v : Value α} {b : β} (hheap : heap <+: heap') (h : Reads R heap v b) :
    Reads R heap' v b := by
  obtain ⟨n, hn⟩ := h
  exact ⟨n, read_mono (Nat.le_refl n) hheap hn⟩

theorem reads_atom (a : α) : Reads R heap (.atom a) (R.atom a) := ⟨0, rfl⟩

theorem Reads.unique {v : Value α} {b b' : β} (h : Reads R heap v b) (h' : Reads R heap v b') :
    b = b' := by
  rw [← readBack_eq_some] at h h'
  exact Option.some.inj (h.symm.trans h')

/-! ## Dictionaries and what they are read back as -/

/-- The same keys in the same order, with the values read back. -/
def EntriesRead (R : Reading α β) (heap : Heap α) : Dict (Value α) → Dict β → Prop :=
  List.Forall₂ fun kv kb => kv.1 = kb.1 ∧ Reads R heap kv.2 kb.2

theorem EntriesRead.mono {e : Dict (Value α)} {d : Dict β} (hheap : heap <+: heap')
    (h : EntriesRead R heap e d) : EntriesRead R heap' e d :=
  h.imp fun _ _ hkv => ⟨hkv.1, hkv.2.mono hheap⟩

/-- Finitely many values can be read with one fuel. -/
theorem EntriesRead.mapM {e : Dict (Value α)} {d : Dict β} (h : EntriesRead R heap e d) :
    ∃ n, e.mapM (fun kv => (read R heap n kv.2).map fun b => (kv.1, b)) = some d := by
  induction h with
  | nil => exact ⟨0, rfl⟩
  | @cons kv kb e d hkv _ ih =>
    obtain ⟨hkey, n, hn⟩ := hkv
    obtain ⟨m, hm⟩ := ih
    refine ⟨max n m, ?_⟩
    have htail : e.mapM (fun kv => (read R heap (max n m) kv.2).map fun b => (kv.1, b)) =
        some d := by
      refine mapM_mono (fun kv _ kb hkb => ?_) hm
      obtain ⟨b, hb, rfl⟩ := Option.map_eq_some_iff.1 hkb
      rw [read_mono (Nat.le_max_right n m) (List.prefix_refl heap) hb]
      rfl
    rw [List.mapM_cons, htail, read_mono (Nat.le_max_left n m) (List.prefix_refl heap) hn]
    simp [hkey]

theorem EntriesRead.set {e : Dict (Value α)} {d : Dict β} (h : EntriesRead R heap e d) (k : String)
    {v : Value α} {b : β} (hv : Reads R heap v b) : EntriesRead R heap (e.set k v) (d.set k b) := by
  induction h with
  | nil => exact .cons ⟨rfl, hv⟩ .nil
  | @cons kv kb e d hkv htail ih =>
    obtain ⟨k₁, v₁⟩ := kv
    obtain ⟨k₂, b₂⟩ := kb
    obtain ⟨rfl, hread⟩ : k₁ = k₂ ∧ _ := hkv
    by_cases hk : k₁ = k
    · simp only [Dict.set_cons, if_pos hk]
      exact .cons ⟨rfl, hv⟩ htail
    · simp only [Dict.set_cons, if_neg hk]
      exact .cons ⟨rfl, hread⟩ ih

theorem EntriesRead.update {e e' : Dict (Value α)} {d d' : Dict β} (h : EntriesRead R heap e d)
    (h' : EntriesRead R heap e' d') : EntriesRead R heap (e.update e') (d.update d') := by
  induction h' generalizing e d with
  | nil => exact h
  | cons hkv _ ih =>
    rw [Dict.update_cons, Dict.update_cons, hkv.1]
    exact ih (h.set _ hkv.2)

theorem EntriesRead.erase {e : Dict (Value α)} {d : Dict β} (h : EntriesRead R heap e d)
    (k : String) : EntriesRead R heap (e.erase k) (d.erase k) := by
  induction h with
  | nil => exact .nil
  | @cons kv kb e d hkv htail ih =>
    by_cases hk : kb.1 = k
    · have hk' : kv.1 = k := hkv.1.trans hk
      simpa [Dict.erase, hk, hk'] using ih
    · have hk' : ¬kv.1 = k := fun e => hk (hkv.1.symm.trans e)
      have hcons : EntriesRead R heap (kv :: Dict.erase e k) (kb :: Dict.erase d k) :=
        .cons hkv ih
      simpa [Dict.erase, hk, hk'] using hcons

/-- Looking a key up before or after reading back makes no difference. -/
theorem EntriesRead.get? {e : Dict (Value α)} {d : Dict β} (h : EntriesRead R heap e d)
    (k : String) : Option.Rel (Reads R heap) (e.get? k) (d.get? k) := by
  induction h with
  | nil => exact .none
  | @cons kv kb e d hkv htail ih =>
    obtain ⟨k₁, v₁⟩ := kv
    obtain ⟨k₂, b₂⟩ := kb
    obtain ⟨rfl, hread⟩ : k₁ = k₂ ∧ _ := hkv
    by_cases hk : k₁ = k
    · simp only [Dict.get?_cons, if_pos hk]
      exact .some hread
    · simp only [Dict.get?_cons, if_neg hk]
      exact ih

end PrefectQiskit.ObjectHeap
