import PrefectQiskit.Coroutine

/-!
# Retrying a coroutine

`retrying` reruns a fallible coroutine from its start while a budget lasts and a condition
on the error holds. `RetryTrace` describes a run of the result as the failed attempts
followed by the current one, each an ordinary run of the coroutine that is retried.
-/

namespace PrefectQiskit.Coroutine

universe u v w x

variable {σ : Type u} {Ev : Type w} {ε : Type x} {α : Type v}

/-- A suspension point together with the number of retries already spent. -/
structure RetryPoint (σ : Type u) where
  retries : ℕ
  point : σ

/-- Put the outcome of one attempt back into the loop. -/
def afterAttempt (start : σ) (budget : ℕ) (retryable : ε → Bool) (n : ℕ) :
    Status σ (Except ε α) → Status (RetryPoint σ) (Except ε α)
  | .suspended p => .suspended ⟨n, p⟩
  | .finished (.ok a) => .finished (.ok a)
  | .finished (.error e) =>
    if n < budget ∧ retryable e then .suspended ⟨n + 1, start⟩ else .finished (.error e)

/-- Rerun `C` from `start` on a retryable error, at most `budget` times. -/
def retrying (C : Coroutine σ Ev (Except ε α)) (start : σ) (budget : ℕ)
    (retryable : ε → Bool) : Coroutine (RetryPoint σ) Ev (Except ε α) where
  Reply p := C.Reply p.point
  event p reply := C.event p.point reply
  resume p reply := afterAttempt start budget retryable p.retries (C.resume p.point reply)

/-- An error that is not retryable ends the loop. -/
theorem afterAttempt_not_retryable {start : σ} {budget : ℕ} {retryable : ε → Bool} {n : ℕ} {e : ε}
    (h : retryable e = false) :
    afterAttempt start budget retryable n (.finished (.error e) : Status σ (Except ε α)) =
      .finished (.error e) := by
  simp [afterAttempt, h]

/-- The loop waits because its attempt waits or because the attempt is rerun. -/
theorem afterAttempt_suspended {start : σ} {budget : ℕ} {retryable : ε → Bool} {n : ℕ}
    {st : Status σ (Except ε α)} {q : RetryPoint σ}
    (h : afterAttempt start budget retryable n st = .suspended q) :
    (st = .suspended q.point ∧ q.retries = n) ∨
      ∃ e, st = .finished (.error e) ∧ retryable e ∧ n < budget ∧ q = ⟨n + 1, start⟩ := by
  cases st with
  | suspended p =>
    cases h
    exact Or.inl ⟨rfl, rfl⟩
  | finished o =>
    cases o with
    | ok a => cases h
    | error e =>
      simp only [afterAttempt] at h
      split at h
      next hc =>
        cases h
        exact Or.inr ⟨e, rfl, hc.2, hc.1, rfl⟩
      next => cases h

/-- A run of the retry loop: every failed attempt with its error, then the current attempt
and where it stands. -/
structure RetryTrace (C : Coroutine σ Ev (Except ε α)) (start : σ) (budget : ℕ)
    (retryable : ε → Bool) (t : List Ev) (s : Status (RetryPoint σ) (Except ε α))
    (failed : List (List Ev × ε)) (current : List Ev) (st : Status σ (Except ε α)) : Prop where
  transcript_eq : t = (failed.map Prod.fst).flatten ++ current
  failed_run : ∀ a ∈ failed, C.Run (.suspended start) a.1 (.finished (.error a.2))
  failed_retryable : ∀ a ∈ failed, retryable a.2
  failed_length : failed.length ≤ budget
  current_run : C.Run (.suspended start) current st
  status_eq : s = match st with
    | .suspended p => .suspended ⟨failed.length, p⟩
    | .finished o => .finished o
  given_up : ∀ e, st = .finished (.error e) → budget ≤ failed.length ∨ retryable e = false

variable {C : Coroutine σ Ev (Except ε α)} {start : σ} {budget : ℕ} {retryable : ε → Bool}

/-- Answering the current attempt either continues it, or closes it as one more failed
attempt, or ends the loop. -/
theorem RetryTrace.answer {t : List Ev} {p : RetryPoint σ} {failed : List (List Ev × ε)}
    {current : List Ev} {st : Status σ (Except ε α)}
    (h : RetryTrace C start budget retryable t (.suspended p) failed current st)
    (reply : C.Reply p.point) :
    ∃ failed' current' st', RetryTrace C start budget retryable
      (t ++ [C.event p.point reply])
      ((retrying C start budget retryable).resume p reply) failed' current' st' := by
  obtain ⟨q, rfl⟩ : ∃ q, st = .suspended q := by
    cases st with
    | suspended q => exact ⟨q, rfl⟩
    | finished o => cases h.status_eq
  have hp : p = ⟨failed.length, q⟩ := Status.suspended.inj h.status_eq
  subst hp
  have hrun := h.current_run.step reply
  have ht : t ++ [C.event q reply] =
      (failed.map Prod.fst).flatten ++ (current ++ [C.event q reply]) := by
    rw [h.transcript_eq, List.append_assoc]
  cases hr : C.resume q reply with
  | suspended q' =>
    rw [hr] at hrun
    refine ⟨failed, _, _, ht, h.failed_run, h.failed_retryable, h.failed_length, hrun, ?_, ?_⟩
    · simp [retrying, afterAttempt, hr]
    · intro e he
      cases he
  | finished o =>
    rw [hr] at hrun
    cases o with
    | ok a =>
      refine ⟨failed, _, _, ht, h.failed_run, h.failed_retryable, h.failed_length, hrun, ?_, ?_⟩
      · simp [retrying, afterAttempt, hr]
      · intro e he
        cases he
    | error e =>
      by_cases hc : failed.length < budget ∧ retryable e
      · -- the attempt is spent: it joins the failed ones and a fresh attempt starts
        refine ⟨failed ++ [(current ++ [C.event q reply], e)], [], .suspended start,
          ?_, ?_, ?_, ?_, .refl, ?_, ?_⟩
        · simpa using ht
        · intro a ha
          rcases List.mem_append.mp ha with ha | ha
          · exact h.failed_run a ha
          · rw [List.mem_singleton.mp ha]
            exact hrun
        · intro a ha
          rcases List.mem_append.mp ha with ha | ha
          · exact h.failed_retryable a ha
          · rw [List.mem_singleton.mp ha]
            exact hc.2
        · rw [List.length_append]
          exact hc.1
        · simp [retrying, afterAttempt, hr, hc]
        · intro e he
          cases he
      · refine ⟨failed, _, _, ht, h.failed_run, h.failed_retryable, h.failed_length, hrun, ?_, ?_⟩
        · simp [retrying, afterAttempt, hr, hc]
        · intro e' he'
          cases he'
          by_cases hb : failed.length < budget
          · exact Or.inr (by simpa [hb] using hc)
          · exact Or.inl (by omega)

/-- Every run of the retry loop splits into its attempts. -/
theorem retrying_trace {t : List Ev} {s : Status (RetryPoint σ) (Except ε α)}
    (h : (retrying C start budget retryable).Run (.suspended ⟨0, start⟩) t s) :
    ∃ failed current st, RetryTrace C start budget retryable t s failed current st := by
  induction h with
  | refl =>
    exact ⟨[], [], .suspended start, rfl, by simp, by simp, by simp, .refl, rfl,
      by intro e he; cases he⟩
  | step _ reply ih =>
    obtain ⟨failed, current, st, h⟩ := ih
    exact h.answer reply

end PrefectQiskit.Coroutine
