import Mathlib.Data.Finset.Card
import Mathlib.Data.List.Nodup

/-!
# Least recently used caches

A cache as the list of its entries, the most recently used first. Serving an entry moves it to
the front, storing a new one pushes out what does not fit. An entry stays as long as fewer
other keys than the capacity are requested after it.
-/

namespace PrefectQiskit.LruCache

universe u v

variable {κ : Type u} {ν : Type v}

abbrev Entries (κ : Type u) (ν : Type v) := List (κ × ν)

namespace Entries

def keys (c : Entries κ ν) : List κ := c.map Prod.fst

/-- A miss whose value was built. -/
def store (capacity : ℕ) (c : Entries κ ν) (k : κ) (v : ν) : Entries κ ν :=
  ((k, v) :: c).take capacity

variable [DecidableEq κ]

def find? (c : Entries κ ν) (k : κ) : Option ν := (List.find? (fun e => e.1 = k) c).map Prod.snd

/-- Removal of a key, by whatever decision. -/
def remove (c : Entries κ ν) (k : κ) : Entries κ ν := c.filter fun e => e.1 ≠ k

/-- A hit. -/
def touch (c : Entries κ ν) (k : κ) (v : ν) : Entries κ ν := (k, v) :: c.remove k

end Entries

open Entries

/-- At most `capacity` entries, each key once. -/
structure Valid (capacity : ℕ) (c : Entries κ ν) : Prop where
  length : c.length ≤ capacity
  nodup : c.keys.Nodup

/-- The entry is in the cache, and every more recent one has a key in `recent`. -/
def Held (k : κ) (v : ν) (recent : Finset κ) (c : Entries κ ν) : Prop :=
  ∃ before after, c = before ++ (k, v) :: after ∧ ∀ e ∈ before, e.1 ∈ recent

variable {capacity : ℕ} {c : Entries κ ν} {k k' : κ} {v v' : ν} {recent recent' : Finset κ}

theorem Held.mem (h : Held k v recent c) : (k, v) ∈ c := by
  obtain ⟨before, after, rfl, -⟩ := h
  simp

theorem Held.mono (h : Held k v recent c) (hsub : recent ⊆ recent') : Held k v recent' c := by
  obtain ⟨before, after, hc, hbefore⟩ := h
  exact ⟨before, after, hc, fun e he => hsub (hbefore e he)⟩

theorem mem_store {e : κ × ν} (h : e ∈ c.store capacity k v) : e = (k, v) ∨ e ∈ c :=
  List.mem_cons.1 (List.mem_of_mem_take h)

variable [DecidableEq κ]

theorem find?_eq_some (h : c.keys.Nodup) : c.find? k = some v ↔ (k, v) ∈ c := by
  constructor
  · intro hf
    obtain ⟨e, he, rfl⟩ := Option.map_eq_some_iff.1 hf
    have hk : e.1 = k := by simpa using List.find?_some he
    rw [← hk]
    exact List.mem_of_find?_eq_some he
  · intro hm
    cases hf : List.find? (fun e => e.1 = k) c with
    | none =>
      have hnone := List.find?_eq_none.1 hf (k, v) hm
      simp at hnone
    | some e =>
      have hk : e.1 = k := by simpa using List.find?_some hf
      have he : e = (k, v) := List.inj_on_of_nodup_map h (List.mem_of_find?_eq_some hf) hm hk
      rw [find?, hf, he]
      rfl

theorem find?_eq_none : c.find? k = none ↔ k ∉ c.keys := by
  rw [find?, Option.map_eq_none_iff, List.find?_eq_none, keys]
  constructor
  · intro h hm
    obtain ⟨e, he, rfl⟩ := List.mem_map.1 hm
    simpa using h e he
  · intro h e he hk
    have hk' : e.1 = k := by simpa using hk
    exact h (hk' ▸ List.mem_map_of_mem he)

theorem remove_sublist (c : Entries κ ν) (k : κ) : (c.remove k).Sublist c := List.filter_sublist

theorem not_mem_keys_remove (c : Entries κ ν) (k : κ) : k ∉ (c.remove k).keys := by
  intro h
  obtain ⟨e, he, hk⟩ := List.mem_map.1 h
  have hne : e.1 ≠ k := by simpa using (List.mem_filter.1 he).2
  exact hne hk

theorem mem_touch {e : κ × ν} (h : e ∈ c.touch k v) : e = (k, v) ∨ e ∈ c := by
  rcases List.mem_cons.1 h with h | h
  · exact .inl h
  · exact .inr ((remove_sublist c k).subset h)

theorem Valid.remove (h : Valid capacity c) (k : κ) : Valid capacity (c.remove k) where
  length := (remove_sublist c k).length_le.trans h.length
  nodup := ((remove_sublist c k).map Prod.fst).nodup h.nodup

theorem Valid.touch (h : Valid capacity c) (hf : c.find? k = some v) :
    Valid capacity (c.touch k v) where
  length := by
    have hm := (find?_eq_some h.nodup).1 hf
    have hlt : (c.remove k).length < c.length := by
      apply List.length_filter_lt_length_iff_exists.2
      exact ⟨(k, v), hm, by simp⟩
    have hle := h.length
    rw [Entries.touch, List.length_cons]
    omega
  nodup := List.nodup_cons.2 ⟨not_mem_keys_remove c k, (h.remove k).nodup⟩

theorem Valid.store (h : Valid capacity c) (hf : c.find? k = none) (v : ν) :
    Valid capacity (c.store capacity k v) where
  length := by
    rw [Entries.store, List.length_take]
    exact Nat.min_le_left _ _
  nodup := by
    have hcons : (Entries.keys ((k, v) :: c)).Nodup :=
      List.nodup_cons.2 ⟨find?_eq_none.1 hf, h.nodup⟩
    exact ((List.take_sublist _ _).map Prod.fst).nodup hcons

/-! ## How long an entry stays -/

theorem Held.remove (h : Held k v recent c) (hne : k' ≠ k) : Held k v recent (c.remove k') := by
  obtain ⟨before, after, rfl, hbefore⟩ := h
  have hne' : k ≠ k' := hne.symm
  refine ⟨before.remove k', Entries.remove after k', ?_, ?_⟩
  · simp [Entries.remove, hne']
  · intro e he
    exact hbefore e (List.mem_filter.1 he).1

theorem Held.touch (h : Held k v recent c) (hne : k' ≠ k) (v' : ν) :
    Held k v (insert k' recent) (c.touch k' v') := by
  obtain ⟨before, after, hc, hbefore⟩ := h.remove hne
  refine ⟨(k', v') :: before, after, ?_, ?_⟩
  · rw [Entries.touch, hc]
    rfl
  · intro e he
    rcases List.mem_cons.1 he with rfl | he
    · exact Finset.mem_insert_self _ _
    · exact Finset.mem_insert_of_mem (hbefore e he)

/-- Entries with distinct keys are at most as many as the keys they can have. -/
theorem length_le_card {front : Entries κ ν} (hnodup : front.keys.Nodup)
    (hkeys : ∀ e ∈ front, e.1 ∈ recent) : front.length ≤ recent.card := by
  have hsub : front.keys.toFinset ⊆ recent := by
    intro key hkey
    obtain ⟨e, he, rfl⟩ := List.mem_map.1 (List.mem_toFinset.1 hkey)
    exact hkeys e he
  have hle := Finset.card_le_card hsub
  rwa [List.toFinset_card_of_nodup hnodup, Entries.keys, List.length_map] at hle

theorem Held.store (h : Held k v recent c) (hvalid : Valid capacity c) (hf : c.find? k' = none)
    (hcard : (insert k' recent).card < capacity) (v' : ν) :
    Held k v (insert k' recent) (c.store capacity k' v') := by
  obtain ⟨before, after, rfl, hbefore⟩ := h
  have hfront : ∀ e ∈ (k', v') :: before, e.1 ∈ insert k' recent := by
    intro e he
    rcases List.mem_cons.1 he with rfl | he
    · exact Finset.mem_insert_self _ _
    · exact Finset.mem_insert_of_mem (hbefore e he)
  have hnodup : (Entries.keys ((k', v') :: before)).Nodup := by
    have hall : (Entries.keys ((k', v') :: before ++ (k, v) :: after)).Nodup :=
      List.nodup_cons.2 ⟨find?_eq_none.1 hf, hvalid.nodup⟩
    exact ((List.sublist_append_left _ _).map Prod.fst).nodup hall
  have hlength : ((k', v') :: before).length < capacity :=
    (length_le_card hnodup hfront).trans_lt hcard
  -- The entry itself still fits behind the more recent ones.
  have hroom : capacity - ((k', v') :: before).length =
      capacity - ((k', v') :: before).length - 1 + 1 := by omega
  refine ⟨(k', v') :: before, after.take (capacity - ((k', v') :: before).length - 1), ?_, hfront⟩
  have happend : Entries.store capacity (before ++ (k, v) :: after) k' v' =
      (((k', v') :: before) ++ (k, v) :: after).take capacity := rfl
  rw [happend, List.take_append, List.take_of_length_le hlength.le, hroom, List.take_succ_cons]
  rfl

end PrefectQiskit.LruCache
