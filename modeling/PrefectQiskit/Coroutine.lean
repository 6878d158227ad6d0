import Mathlib.Data.List.Induction

/-!
# Coroutines and their transcripts

A coroutine is observed only at its suspension points. Each point accepts replies of its
own type, and any reply either suspends the coroutine again or finishes it. A run carries
the transcript of everything exchanged, so a server or a scheduler is just a condition on
transcripts, and an unfinished run is as good a run as a finished one.
-/

namespace PrefectQiskit

universe u v w

/-- An element of an extended list is the new one or was there before. -/
theorem eq_of_append_singleton {α : Type u} {l pre post : List α} {x e : α}
    (h : l ++ [x] = pre ++ e :: post) :
    (post = [] ∧ pre = l ∧ e = x) ∨ ∃ post', post = post' ++ [x] ∧ l = pre ++ e :: post' := by
  rcases List.eq_nil_or_concat post with rfl | ⟨post', y, rfl⟩
  · obtain ⟨hpre, he⟩ := List.append_inj' h rfl
    exact Or.inl ⟨rfl, hpre.symm, (List.singleton_inj.mp he).symm⟩
  · have h' : l ++ [x] = (pre ++ e :: post') ++ [y] := by simpa using h
    obtain ⟨hpre, hx⟩ := List.append_inj' h' rfl
    rw [List.singleton_inj.mp hx]
    exact Or.inr ⟨post', by simp, hpre⟩

/-- A computation waits at a point or has produced its outcome. -/
inductive Status (σ : Type u) (α : Type v) where
  | suspended (point : σ)
  | finished (outcome : α)

/-- `event` is what an observer sees when a point is answered. -/
structure Coroutine (σ : Type u) (Ev : Type w) (α : Type v) where
  Reply : σ → Type
  event : (p : σ) → Reply p → Ev
  resume : (p : σ) → Reply p → Status σ α

namespace Coroutine

variable {σ : Type u} {Ev : Type w} {α : Type v}

/-- A finite run with its transcript, oldest event first. -/
inductive Run (C : Coroutine σ Ev α) (s : Status σ α) : List Ev → Status σ α → Prop
  | refl : Run C s [] s
  | step {t p} (h : Run C s t (.suspended p)) (reply : C.Reply p) :
      Run C s (t ++ [C.event p reply]) (C.resume p reply)

/-- Execute against a script that holds, for each step, a reply to every point. -/
def play (C : Coroutine σ Ev α) : List ((p : σ) → C.Reply p) → Status σ α →
    List Ev × Status σ α
  | [], s => ([], s)
  | _ :: _, .finished a => ([], .finished a)
  | reply :: script, .suspended p =>
    let r := C.play script (C.resume p (reply p))
    (C.event p (reply p) :: r.1, r.2)

namespace Run

variable {C : Coroutine σ Ev α} {s s' s'' : Status σ α} {t t' : List Ev}

theorem trans (h : Run C s t s') (h' : Run C s' t' s'') : Run C s (t ++ t') s'' := by
  induction h' with
  | refl => simpa using h
  | step _ reply ih =>
    rw [← List.append_assoc]
    exact ih.step reply

/-- A run is empty or ends with the answer to a point it was suspended at. -/
theorem eq_or_last (h : Run C s t s') :
    (t = [] ∧ s' = s) ∨ ∃ t₀ p reply, Run C s t₀ (.suspended p) ∧
      t = t₀ ++ [C.event p reply] ∧ s' = C.resume p reply := by
  cases h with
  | refl => exact Or.inl ⟨rfl, rfl⟩
  | step h reply => exact Or.inr ⟨_, _, reply, h, rfl, rfl⟩

/-- A finished coroutine exchanges nothing more. -/
theorem of_finished {a : α} (h : Run C (.finished a) t s) : t = [] ∧ s = .finished a := by
  induction h with
  | refl => exact ⟨rfl, rfl⟩
  | step _ _ ih => cases ih.2

/-- Every event of a run is the answer to a point the run was suspended at just before, and
the rest of the run continues from that answer. -/
theorem split {e : Ev} {pre post : List Ev} (h : Run C s (pre ++ e :: post) s') :
    ∃ p reply, Run C s pre (.suspended p) ∧ e = C.event p reply ∧
      Run C (C.resume p reply) post s' := by
  induction post using List.reverseRecOn generalizing s' with
  | nil =>
    rcases h.eq_or_last with ⟨ht, _⟩ | ⟨t₀, p, reply, hr, ht, hs⟩
    · simp at ht
    · obtain ⟨rfl, he⟩ := List.append_inj' ht rfl
      exact ⟨p, reply, hr, List.singleton_inj.mp he, hs ▸ .refl⟩
  | append_singleton post x ih =>
    rcases h.eq_or_last with ⟨ht, _⟩ | ⟨t₀, q, reply', hr, ht, hs⟩
    · simp at ht
    · have ht' : (pre ++ e :: post) ++ [x] = t₀ ++ [C.event q reply'] := by simpa using ht
      obtain ⟨rfl, hx⟩ := List.append_inj' ht' rfl
      obtain ⟨p, reply, hpre, he, hpost⟩ := ih hr
      refine ⟨p, reply, hpre, he, ?_⟩
      rw [List.singleton_inj.mp hx, hs]
      exact hpost.step reply'

/-- A property of point and transcript that every answer preserves holds wherever a run
is suspended. -/
theorem suspended_induction {p₀ : σ} {P : σ → List Ev → Prop} (hstart : P p₀ [])
    (hstep : ∀ p t q reply, P p t → C.resume p reply = .suspended q →
      P q (t ++ [C.event p reply]))
    {q : σ} (h : Run C (.suspended p₀) t (.suspended q)) : P q t := by
  generalize hs : (Status.suspended q : Status σ α) = s at h
  induction h generalizing q with
  | refl =>
    cases hs
    exact hstart
  | step _ reply ih => exact hstep _ _ _ reply (ih rfl) hs.symm

/-- Only an answer finishes a suspended coroutine. -/
theorem finished_last {p₀ : σ} {a : α} (h : Run C (.suspended p₀) t (.finished a)) :
    ∃ t₀ p reply, Run C (.suspended p₀) t₀ (.suspended p) ∧
      t = t₀ ++ [C.event p reply] ∧ C.resume p reply = .finished a := by
  rcases h.eq_or_last with ⟨_, hs⟩ | ⟨t₀, p, reply, hr, ht, hs⟩
  · cases hs
  · exact ⟨t₀, p, reply, hr, ht, hs.symm⟩

end Run

theorem run_play (C : Coroutine σ Ev α) (script : List ((p : σ) → C.Reply p))
    (s : Status σ α) : Run C s (C.play script s).1 (C.play script s).2 := by
  induction script generalizing s with
  | nil => exact .refl
  | cons reply script ih =>
    cases s with
    | finished a => exact .refl
    | suspended p =>
      have hp : Run C (.suspended p) [C.event p (reply p)] (C.resume p (reply p)) :=
        Run.refl.step (reply p)
      exact hp.trans (ih _)

/-- A run in which `client` decides every reply from the transcript so far. -/
inductive Served (C : Coroutine σ Ev α) (client : List Ev → (p : σ) → C.Reply p)
    (s : Status σ α) : List Ev → Status σ α → Prop
  | refl : Served C client s [] s
  | step {t p} (h : Served C client s t (.suspended p)) :
      Served C client s (t ++ [C.event p (client t p)]) (C.resume p (client t p))

namespace Served

variable {C : Coroutine σ Ev α} {client : List Ev → (p : σ) → C.Reply p}
  {s s₁ s₂ : Status σ α} {t t₁ t₂ : List Ev}

theorem answer {p : σ} {reply : C.Reply p} (h : Served C client s t (.suspended p))
    (hr : client t p = reply) :
    Served C client s (t ++ [C.event p reply]) (C.resume p reply) :=
  hr ▸ h.step

theorem run (h : Served C client s t s₁) : C.Run s t s₁ := by
  induction h with
  | refl => exact .refl
  | step _ ih => exact ih.step _

theorem eq_or_last (h : Served C client s t s₁) :
    (t = [] ∧ s₁ = s) ∨ ∃ t₀ p, Served C client s t₀ (.suspended p) ∧
      t = t₀ ++ [C.event p (client t₀ p)] ∧ s₁ = C.resume p (client t₀ p) := by
  cases h with
  | refl => exact Or.inl ⟨rfl, rfl⟩
  | step h => exact Or.inr ⟨_, _, h, rfl, rfl⟩

/-- Only a served answer finishes a suspended coroutine. -/
theorem finished_last {p₀ : σ} {a : α} (h : Served C client (.suspended p₀) t (.finished a)) :
    ∃ t₀ p, Served C client (.suspended p₀) t₀ (.suspended p) ∧
      t = t₀ ++ [C.event p (client t₀ p)] ∧ C.resume p (client t₀ p) = .finished a := by
  rcases h.eq_or_last with ⟨_, hs⟩ | ⟨t₀, p, hr, ht, hs⟩
  · cases hs
  · exact ⟨t₀, p, hr, ht, hs.symm⟩

/-- The client leaves no choice in how a run of a given length goes. -/
theorem unique (h₁ : Served C client s t₁ s₁) (h₂ : Served C client s t₂ s₂)
    (hl : t₁.length = t₂.length) : t₁ = t₂ ∧ s₁ = s₂ := by
  induction h₁ generalizing t₂ s₂ with
  | refl =>
    cases h₂ with
    | refl => exact ⟨rfl, rfl⟩
    | step _ => simp at hl
  | step _ ih =>
    cases h₂ with
    | refl => simp at hl
    | step h =>
      have hl' := by simpa using hl
      obtain ⟨rfl, hs⟩ := ih h hl'
      cases hs
      exact ⟨rfl, rfl⟩

/-- No run against the same client goes on for longer than one that finished. -/
theorem length_le {a : α} (h₁ : Served C client s t₁ (.finished a))
    (h₂ : Served C client s t₂ s₂) : t₂.length ≤ t₁.length := by
  induction h₂ with
  | refl => simp
  | step h ih =>
    rcases Nat.lt_or_eq_of_le ih with hlt | heq
    · rw [List.length_append, List.length_singleton]
      omega
    · have hs := (h₁.unique h heq.symm).2
      cases hs

/-- Two runs against the same client that both finish are the same run. -/
theorem finished_unique {a b : α} (h₁ : Served C client s t₁ (.finished a))
    (h₂ : Served C client s t₂ (.finished b)) : t₁ = t₂ ∧ a = b := by
  have hl := Nat.le_antisymm (h₂.length_le h₁) (h₁.length_le h₂)
  obtain ⟨ht, hs⟩ := h₁.unique h₂ hl
  cases hs
  exact ⟨ht, rfl⟩

end Served

/-- Execute at most `n` steps against a client. -/
def serve (C : Coroutine σ Ev α) (client : List Ev → (p : σ) → C.Reply p) :
    ℕ → List Ev → Status σ α → List Ev × Status σ α
  | 0, t, s => (t, s)
  | _ + 1, t, .finished a => (t, .finished a)
  | n + 1, t, .suspended p =>
    C.serve client n (t ++ [C.event p (client t p)]) (C.resume p (client t p))

theorem Served.serve {C : Coroutine σ Ev α} {client : List Ev → (p : σ) → C.Reply p}
    {s s₁ : Status σ α} {t : List Ev} (n : ℕ) (h : Served C client s t s₁) :
    Served C client s (C.serve client n t s₁).1 (C.serve client n t s₁).2 := by
  induction n generalizing t s₁ with
  | zero => exact h
  | succ n ih =>
    cases s₁ with
    | finished a => exact h
    | suspended p => exact ih h.step

end Coroutine

end PrefectQiskit
