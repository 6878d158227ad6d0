import Mathlib.Data.Countable.Basic
import Mathlib.Data.Nat.Pairing
import Mathlib.Order.Filter.AtTopBot.Basic

/-!
# Fair runs

Infinite runs of a system, the fairness of an action along a run, and the rules by which
something is shown to happen: an enabled action that nothing but itself can undo, a
condition kept on the way, a rank that goes down. Countably many actions have a scheduler
that is fair to all of them.
-/

namespace PrefectQiskit.FairRuns

open Filter

universe u v

variable {σ : Type u} {run : ℕ → σ} {P P' R R' : σ → Prop} {action : σ → σ → Prop}

/-- An action that is possible from some time on is taken again and again. -/
def WeakFair (run : ℕ → σ) (action : σ → σ → Prop) : Prop :=
  (∀ᶠ n in atTop, ∃ s, action (run n) s) → ∃ᶠ n in atTop, action (run n) (run (n + 1))

/-- Whenever `P` holds, `R` holds then or later. -/
def LeadsTo (run : ℕ → σ) (P R : σ → Prop) : Prop :=
  ∀ n, P (run n) → ∃ m, n ≤ m ∧ R (run m)

/-- Where `P` holds it goes on to hold, at least until `R` does. -/
def Unless (run : ℕ → σ) (P R : σ → Prop) : Prop :=
  ∀ n, P (run n) → P (run (n + 1)) ∨ R (run (n + 1))

theorem WeakFair.taken (h : WeakFair run action) {n : ℕ}
    (hen : ∀ m, n ≤ m → ∃ s, action (run m) s) : ∃ m, n ≤ m ∧ action (run m) (run (m + 1)) :=
  frequently_atTop.mp (h (eventually_atTop.mpr ⟨n, hen⟩)) n

theorem Unless.of_le (h : Unless run P R) {n m : ℕ} (hn : P (run n)) (hm : n ≤ m) :
    P (run m) ∨ ∃ k, n ≤ k ∧ k ≤ m ∧ R (run k) := by
  induction m, hm using Nat.le_induction with
  | base => exact Or.inl hn
  | succ m hm ih =>
    rcases ih with hP | ⟨k, hk, hkm, hR⟩
    · rcases h m hP with hP | hR
      · exact Or.inl hP
      · exact Or.inr ⟨m + 1, by omega, le_refl (m + 1), hR⟩
    · exact Or.inr ⟨k, hk, by omega, hR⟩

namespace LeadsTo

theorem of_imp (h : ∀ n, P (run n) → R (run n)) : LeadsTo run P R :=
  fun n hP => ⟨n, le_refl n, h n hP⟩

theorem trans (h : LeadsTo run P R) (h' : LeadsTo run R R') : LeadsTo run P R' := by
  intro n hP
  obtain ⟨m, hm, hR⟩ := h n hP
  obtain ⟨k, hk, hR'⟩ := h' m hR
  exact ⟨k, hm.trans hk, hR'⟩

theorem or (h : LeadsTo run P R) (h' : LeadsTo run P' R) :
    LeadsTo run (fun s => P s ∨ P' s) R := by
  intro n hP
  rcases hP with hP | hP
  · exact h n hP
  · exact h' n hP

/-- A condition that holds on the way still holds at the end, or has been given up. -/
theorem and_unless (h : LeadsTo run P R) (hu : Unless run P' R') :
    LeadsTo run (fun s => P s ∧ P' s) (fun s => R s ∧ P' s ∨ R' s) := by
  intro n hn
  obtain ⟨m, hm, hR⟩ := h n hn.1
  rcases hu.of_le hn.2 hm with hP' | ⟨k, hk, _, hR'⟩
  · exact ⟨m, hm, Or.inl ⟨hR, hP'⟩⟩
  · exact ⟨k, hk, Or.inr hR'⟩

/-- What stays until `R` holds, and lets a fair action bring `R` about, leads to `R`. -/
theorem of_fair (hfair : WeakFair run action) (hu : Unless run P R)
    (hen : ∀ n, P (run n) → ∃ s, action (run n) s)
    (hact : ∀ n, P (run n) → action (run n) (run (n + 1)) → R (run (n + 1))) :
    LeadsTo run P R := by
  intro n hP
  by_contra hR
  have hnot : ∀ m, n ≤ m → ¬R (run m) := fun m hm h => hR ⟨m, hm, h⟩
  have hall : ∀ m, n ≤ m → P (run m) := by
    intro m hm
    rcases hu.of_le hP hm with hP | ⟨k, hk, _, hRk⟩
    · exact hP
    · exact absurd hRk (hnot k hk)
  obtain ⟨m, hm, ha⟩ := hfair.taken fun m hm => hen m (hall m hm)
  exact hnot (m + 1) (by omega) (hact m (hall m hm) ha)

/-- What leads to `R` or to itself at a lower rank leads to `R`. -/
theorem of_rank {α : Type v} [LT α] [WellFoundedLT α] {P : α → σ → Prop}
    (h : ∀ a, LeadsTo run (P a) fun s => R s ∨ ∃ b, b < a ∧ P b s) (a : α) :
    LeadsTo run (P a) R := by
  induction a using WellFoundedLT.induction with
  | ind a ih =>
    intro n hP
    obtain ⟨m, hm, hR | ⟨b, hlt, hP'⟩⟩ := h a n hP
    · exact ⟨m, hm, hR⟩
    · obtain ⟨k, hk, hR⟩ := ih b hlt m hP'
      exact ⟨k, hm.trans hk, hR⟩

end LeadsTo

section Scheduler

variable {κ : Type v} {step : σ → σ → Prop} {actions : κ → σ → σ → Prop}

open Classical in
/-- Take the action whose turn it is, when it is possible. -/
noncomputable def schedule (actions : κ → σ → σ → Prop) (turn : ℕ → κ) (s : σ) : ℕ → σ
  | 0 => s
  | n + 1 =>
    if h : ∃ s', actions (turn n) (schedule actions turn s n) s' then h.choose
    else schedule actions turn s n

theorem schedule_taken {turn : ℕ → κ} {s : σ} {n : ℕ}
    (h : ∃ s', actions (turn n) (schedule actions turn s n) s') :
    actions (turn n) (schedule actions turn s n) (schedule actions turn s (n + 1)) := by
  rw [schedule, dif_pos h]
  exact h.choose_spec

theorem schedule_idle {turn : ℕ → κ} {s : σ} {n : ℕ}
    (h : ¬∃ s', actions (turn n) (schedule actions turn s n) s') :
    schedule actions turn s (n + 1) = schedule actions turn s n := by
  rw [schedule, dif_neg h]

/-- Everyone gets a turn again and again. -/
theorem exists_turns (κ : Type v) [Countable κ] [Nonempty κ] :
    ∃ turn : ℕ → κ, ∀ k n, ∃ m, n ≤ m ∧ turn m = k := by
  obtain ⟨f, hf⟩ := exists_surjective_nat κ
  refine ⟨fun n => f n.unpair.1, ?_⟩
  intro k n
  obtain ⟨a, rfl⟩ := hf k
  exact ⟨Nat.pair a n, Nat.right_le_pair a n, by simp⟩

/-- From any state there is a run that is fair to each of countably many actions. -/
theorem exists_fair [Countable κ] [Nonempty κ] (hidle : ∀ s, step s s)
    (hactions : ∀ k s s', actions k s s' → step s s') (s : σ) :
    ∃ run : ℕ → σ, run 0 = s ∧ (∀ n, step (run n) (run (n + 1))) ∧
      ∀ k, WeakFair run (actions k) := by
  obtain ⟨turn, hturn⟩ := exists_turns κ
  refine ⟨schedule actions turn s, rfl, ?_, ?_⟩
  · intro n
    by_cases h : ∃ s', actions (turn n) (schedule actions turn s n) s'
    · exact hactions _ _ _ (schedule_taken h)
    · rw [schedule_idle h]
      exact hidle _
  · intro k hen
    obtain ⟨n₀, hen⟩ := eventually_atTop.mp hen
    apply frequently_atTop.mpr
    intro n
    obtain ⟨m, hm, rfl⟩ := hturn k (max n n₀)
    exact ⟨m, (le_max_left n n₀).trans hm, schedule_taken (hen m ((le_max_right n n₀).trans hm))⟩

end Scheduler

end PrefectQiskit.FairRuns
