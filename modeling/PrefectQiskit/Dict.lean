import Mathlib.Data.List.Induction
import Mathlib.Data.List.Nodup

/-!
# Insertion-ordered dictionaries

String-keyed dictionaries as association lists in insertion order. Assigning to a key that
is present keeps its position, assigning to a new key appends, and `update` assigns the
entries of its argument one after another.
-/

namespace PrefectQiskit

universe u

abbrev Dict (α : Type u) := List (String × α)

namespace Dict

variable {α : Type u}

def get? : Dict α → String → Option α
  | [], _ => none
  | (k', v) :: d, k => if k' = k then some v else get? d k

def set : Dict α → String → α → Dict α
  | [], k, v => [(k, v)]
  | (k', v') :: d, k, v => if k' = k then (k', v) :: d else (k', v') :: set d k v

def update (d e : Dict α) : Dict α := e.foldl (fun d kv => d.set kv.1 kv.2) d

def erase (d : Dict α) (k : String) : Dict α := d.filter fun kv => kv.1 ≠ k

def keys (d : Dict α) : List String := d.map Prod.fst

def values (d : Dict α) : List α := d.map Prod.snd

@[simp] theorem get?_nil (k : String) : get? ([] : Dict α) k = none := rfl

@[simp] theorem get?_cons (k' k : String) (v : α) (d : Dict α) :
    get? ((k', v) :: d) k = if k' = k then some v else get? d k := rfl

@[simp] theorem set_nil (k : String) (v : α) : set ([] : Dict α) k v = [(k, v)] := rfl

@[simp] theorem set_cons (k' k : String) (v' v : α) (d : Dict α) :
    set ((k', v') :: d) k v = if k' = k then (k', v) :: d else (k', v') :: set d k v := rfl

@[simp] theorem update_nil (d : Dict α) : update d [] = d := rfl

@[simp] theorem update_cons (d e : Dict α) (kv : String × α) :
    update d (kv :: e) = update (d.set kv.1 kv.2) e := rfl

@[simp] theorem keys_nil : keys ([] : Dict α) = [] := rfl

@[simp] theorem keys_cons (kv : String × α) (d : Dict α) : keys (kv :: d) = kv.1 :: keys d := rfl

@[simp] theorem keys_append (d e : Dict α) : keys (d ++ e) = keys d ++ keys e := List.map_append

theorem get?_set (d : Dict α) (k k' : String) (v : α) :
    (d.set k v).get? k' = if k = k' then some v else d.get? k' := by
  induction d with
  | nil => simp
  | cons kv d ih =>
    obtain ⟨k₀, v₀⟩ := kv
    by_cases hk : k₀ = k
    · by_cases hk' : k = k' <;> simp [hk, hk']
    · by_cases hk' : k₀ = k'
      · have hne : ¬k = k' := fun h => hk (hk'.trans h.symm)
        rw [set_cons, if_neg hk, get?_cons, if_pos hk', if_neg hne, get?_cons, if_pos hk']
      · simp [hk, hk', ih]

theorem get?_append (d e : Dict α) (k : String) :
    Dict.get? (d ++ e) k = (d.get? k).or (e.get? k) := by
  induction d with
  | nil => simp
  | cons kv d ih =>
    obtain ⟨k₀, v₀⟩ := kv
    by_cases hk : k₀ = k <;> simp [hk, ih]

theorem get?_erase (d : Dict α) (k k' : String) :
    (d.erase k).get? k' = if k = k' then none else d.get? k' := by
  induction d with
  | nil => simp [erase]
  | cons kv d ih =>
    obtain ⟨k₀, v₀⟩ := kv
    rw [erase] at ih ⊢
    by_cases hk : k₀ = k
    · by_cases hk' : k = k'
      · simpa [hk, hk'] using ih
      · simpa [hk, hk'] using ih
    · by_cases hk' : k₀ = k'
      · have hne : ¬k' = k := fun h => hk (hk'.trans h)
        simp [hk', hne, Ne.symm hne]
      · simpa [hk, hk'] using ih

theorem get?_eq_some_iff {d : Dict α} (h : d.keys.Nodup) {k : String} {v : α} :
    d.get? k = some v ↔ (k, v) ∈ d := by
  induction d with
  | nil => simp
  | cons kv d ih =>
    obtain ⟨k₀, v₀⟩ := kv
    have hcons : k₀ ∉ keys d ∧ (keys d).Nodup := by simpa using h
    by_cases hk : k₀ = k
    · have hnot : (k, v) ∉ d := fun hm => hcons.1 (hk ▸ List.mem_map_of_mem hm)
      simp [hk, hnot, eq_comm]
    · simp [hk, Ne.symm hk, ih hcons.2]

/-- Without repeated keys the order of the entries does not matter to a lookup. -/
theorem get?_reverse {d : Dict α} (h : d.keys.Nodup) (k : String) :
    Dict.get? d.reverse k = d.get? k := by
  have hreverse : (Dict.keys d.reverse).Nodup := by
    rw [keys, List.map_reverse]
    exact List.nodup_reverse.2 h
  apply Option.ext
  intro v
  rw [get?_eq_some_iff hreverse, get?_eq_some_iff h, List.mem_reverse]

theorem mem_keys_set (d : Dict α) (k k' : String) (v : α) :
    k' ∈ (d.set k v).keys ↔ k' ∈ d.keys ∨ k' = k := by
  induction d with
  | nil => simp
  | cons kv d ih =>
    obtain ⟨k₀, v₀⟩ := kv
    by_cases hk : k₀ = k
    · simp [hk, or_comm]
    · simp [hk, ih, or_assoc]

theorem set_of_not_mem {d : Dict α} {k : String} (h : k ∉ d.keys) (v : α) :
    d.set k v = d ++ [(k, v)] := by
  induction d with
  | nil => rfl
  | cons kv d ih =>
    obtain ⟨k₀, v₀⟩ := kv
    have hne : k₀ ≠ k := fun e => h (by simp [e])
    have hd : k ∉ keys d := fun m => h (by simp [m])
    simp [hne, ih hd]

theorem keys_set_of_mem {d : Dict α} {k : String} (h : k ∈ d.keys) (v : α) :
    (d.set k v).keys = d.keys := by
  induction d with
  | nil => simp at h
  | cons kv d ih =>
    obtain ⟨k₀, v₀⟩ := kv
    by_cases hk : k₀ = k
    · simp [hk]
    · have hd : k ∈ keys d := by
        have h' : k = k₀ ∨ k ∈ keys d := by simpa using h
        exact h'.resolve_left (Ne.symm hk)
      simp [hk, ih hd]

theorem nodup_keys_set {d : Dict α} (h : d.keys.Nodup) (k : String) (v : α) :
    (d.set k v).keys.Nodup := by
  by_cases hk : k ∈ d.keys
  · rwa [keys_set_of_mem hk]
  · rw [set_of_not_mem hk, keys_append]
    exact h.append (List.nodup_singleton k) (by simpa using hk)

theorem set_set (d : Dict α) (k : String) (v w : α) : (d.set k v).set k w = d.set k w := by
  induction d with
  | nil => simp
  | cons kv d ih =>
    obtain ⟨k₀, v₀⟩ := kv
    by_cases hk : k₀ = k <;> simp [hk, ih]

/-- Reassigning a key that is present does not move it. -/
theorem set_comm {d : Dict α} {k k' : String} (hk : k ∈ d.keys) (hne : k ≠ k') (v w : α) :
    (d.set k v).set k' w = (d.set k' w).set k v := by
  induction d with
  | nil => simp at hk
  | cons kv d ih =>
    obtain ⟨k₀, v₀⟩ := kv
    by_cases h : k₀ = k
    · simp [h, hne]
    · have hd : k ∈ keys d := by
        have h' : k = k₀ ∨ k ∈ keys d := by simpa using hk
        exact h'.resolve_left (Ne.symm h)
      by_cases h' : k₀ = k'
      · have hne' : k' ≠ k := hne.symm
        simp [h', hne']
      · simp [h, h', ih hd]

theorem update_append (d e f : Dict α) : d.update (e ++ f) = (d.update e).update f :=
  List.foldl_append

theorem mem_keys_update (d e : Dict α) (k : String) :
    k ∈ (d.update e).keys ↔ k ∈ d.keys ∨ k ∈ e.keys := by
  induction e generalizing d with
  | nil => simp
  | cons kv e ih => simp [ih, mem_keys_set, or_assoc]

theorem nodup_keys_update {d : Dict α} (h : d.keys.Nodup) (e : Dict α) :
    (d.update e).keys.Nodup := by
  induction e generalizing d with
  | nil => exact h
  | cons kv e ih => exact ih (nodup_keys_set h kv.1 kv.2)

/-- The last entry of a key decides its value. -/
theorem get?_update (d e : Dict α) (k : String) :
    (d.update e).get? k = (Dict.get? e.reverse k).or (d.get? k) := by
  induction e generalizing d with
  | nil => simp
  | cons kv e ih =>
    obtain ⟨k₀, v₀⟩ := kv
    rw [update_cons, ih, List.reverse_cons, get?_append, get?_set, Option.or_assoc]
    by_cases hk : k₀ = k <;> simp [hk]

theorem update_eq_append {d e : Dict α} (hn : e.keys.Nodup) (hd : ∀ k ∈ e.keys, k ∉ d.keys) :
    d.update e = d ++ e := by
  induction e generalizing d with
  | nil => simp
  | cons kv e ih =>
    have hcons : kv.1 ∉ keys e ∧ (keys e).Nodup := by simpa using hn
    have hfresh : ∀ k ∈ keys e, k ∉ Dict.keys (d ++ [kv]) := by
      intro k hk
      have hne : k ≠ kv.1 := fun h => hcons.1 (h ▸ hk)
      have hnew : k ∉ d.keys := hd k (by simp [hk])
      simp [hne, hnew]
    calc d.update (kv :: e) = Dict.update (d ++ [kv]) e := by
          rw [update_cons, set_of_not_mem (hd kv.1 (by simp))]
      _ = (d ++ [kv]) ++ e := ih hcons.2 hfresh
      _ = d ++ kv :: e := by simp

theorem update_set_comm {d e : Dict α} {k : String} (hk : k ∈ d.keys) (he : k ∉ e.keys) (v : α) :
    (d.set k v).update e = (d.update e).set k v := by
  induction e generalizing d with
  | nil => rfl
  | cons kv e ih =>
    have hne : k ≠ kv.1 := fun h => he (by simp [h])
    have he' : k ∉ keys e := fun h => he (by simp [h])
    have hk' : k ∈ (d.set kv.1 kv.2).keys := (mem_keys_set _ _ _ _).2 (.inl hk)
    rw [update_cons, update_cons, set_comm hk hne, ih hk' he']

theorem update_set {e : Dict α} (he : e.keys.Nodup) (d : Dict α) (k : String) (v : α) :
    d.update (e.set k v) = (d.update e).set k v := by
  induction e generalizing d with
  | nil => rfl
  | cons kv e ih =>
    have hcons : kv.1 ∉ keys e ∧ (keys e).Nodup := by simpa using he
    by_cases hk : kv.1 = k
    · have hmem : k ∈ (d.set k kv.2).keys := (mem_keys_set _ _ _ _).2 (.inr rfl)
      have hnot : k ∉ keys e := hk ▸ hcons.1
      rw [set_cons, if_pos hk, update_cons, update_cons, hk, ← update_set_comm hmem hnot, set_set]
    · rw [set_cons, if_neg hk, update_cons, update_cons, ih hcons.2]

/-- Collecting assignments in an empty dictionary first makes no difference. -/
theorem update_update_nil (d e : Dict α) : d.update (Dict.update [] e) = d.update e := by
  induction e using List.reverseRecOn with
  | nil => rfl
  | append_singleton e kv ih =>
    have hn : (Dict.update [] e).keys.Nodup := nodup_keys_update (by simp) e
    calc d.update (Dict.update [] (e ++ [kv]))
        = d.update ((Dict.update [] e).set kv.1 kv.2) := by rw [update_append]; rfl
      _ = (d.update (Dict.update [] e)).set kv.1 kv.2 := update_set hn d kv.1 kv.2
      _ = d.update (e ++ [kv]) := by rw [ih, update_append]; rfl

end Dict

end PrefectQiskit
