import PrefectQiskit.RetryingCoroutine

/-!
# Programs with calls, exceptions and loops

A program calls operations of an environment, which answers each call with a value or an
exception. `Exec` is what can be observed of a program: the calls answered so far and how it
stands after them. Programs that cannot be told apart may replace each other in a program, and
a coroutine implements the programs that its points stand for. A coroutine that is retried
implements the program that is tried again when it raises.
-/

namespace PrefectQiskit

universe u

/-- The values that the calls of `Op` return are of the types `Value`. -/
inductive Program (Op : Type) (Value : Op → Type) (ε : Type) : Type → Type 1 where
  | pure {α : Type} (a : α) : Program Op Value ε α
  | throw {α : Type} (e : ε) : Program Op Value ε α
  | call (op : Op) : Program Op Value ε (Value op)
  | bind {α β : Type} (p : Program Op Value ε β) (k : β → Program Op Value ε α) :
      Program Op Value ε α
  | tryCatch {α : Type} (p : Program Op Value ε α) (k : ε → Program Op Value ε α) :
      Program Op Value ε α
  /-- Repeat the body while it returns `true`. -/
  | loop (body : Program Op Value ε Bool) : Program Op Value ε Unit

/-- Why a program has not returned. -/
inductive Halt (Op ε : Type) where
  | waiting (op : Op)
  | raised (e : ε)

inductive Observed (Op ε α : Type) where
  | returned (a : α)
  | halted (reason : Halt Op ε)

namespace Program

variable {Op : Type} {Value : Op → Type} {ε α β γ : Type} {Ev : Type u}

instance : Monad (Program Op Value ε) where
  pure := Program.pure
  bind := Program.bind

def lift : Except ε α → Program Op Value ε α
  | .ok a => .pure a
  | .error e => .throw e

/-- Run the program, and run it again while it raises what may be retried and the budget
lasts. -/
def retry (p : Program Op Value ε α) (retryable : ε → Bool) : ℕ → Program Op Value ε α
  | 0 => p
  | budget + 1 => p.tryCatch fun e => if retryable e then retry p retryable budget else .throw e

/-- What a call returns or raises. -/
def answered (Op : Type) : Except ε α → Observed Op ε α
  | .ok a => .returned a
  | .error e => .halted (.raised e)

/-- Rounds of a loop. -/
inductive Rounds (body : List Ev → Observed Op ε Bool → Prop) :
    List Ev → Observed Op ε Unit → Prop
  | done {t : List Ev} (h : body t (.returned false)) : Rounds body t (.returned ())
  | again {t t' : List Ev} {r : Observed Op ε Unit} (h : body t (.returned true))
      (h' : Rounds body t' r) : Rounds body (t ++ t') r
  | halted {t : List Ev} {x : Halt Op ε} (h : body t (.halted x)) : Rounds body t (.halted x)

/-- Attempts of a program that is run again. -/
inductive Retried (body : List Ev → Observed Op ε α → Prop) (retryable : ε → Bool) :
    ℕ → List Ev → Observed Op ε α → Prop
  | last {budget : ℕ} {t : List Ev} {r : Observed Op ε α} (h : body t r)
      (hr : ∀ e, r = .halted (.raised e) → budget = 0 ∨ retryable e = false) :
      Retried body retryable budget t r
  | again {budget : ℕ} {t t' : List Ev} {e : ε} {r : Observed Op ε α}
      (h : body t (.halted (.raised e))) (he : retryable e)
      (h' : Retried body retryable budget t' r) : Retried body retryable (budget + 1) (t ++ t') r

/-- The attempts that failed, each with what it raised, and the last one. -/
theorem retried_iff {body : List Ev → Observed Op ε α → Prop} {retryable : ε → Bool} {budget : ℕ}
    {t : List Ev} {r : Observed Op ε α} : Retried body retryable budget t r ↔
      ∃ (failed : List (List Ev × ε)) (last : List Ev),
        (∀ a ∈ failed, body a.1 (.halted (.raised a.2)) ∧ retryable a.2) ∧ body last r ∧
        failed.length ≤ budget ∧
        (∀ e, r = .halted (.raised e) → failed.length = budget ∨ retryable e = false) ∧
        t = (failed.map Prod.fst).flatten ++ last := by
  constructor
  · intro h
    induction h with
    | last h hr =>
      exact ⟨[], _, by simp, h, Nat.zero_le _, fun e he => (hr e he).imp_left Eq.symm, rfl⟩
    | @again budget t t' e r h he h' ih =>
      obtain ⟨failed, last, hfailed, hlast, hlen, hr, rfl⟩ := ih
      refine ⟨(t, e) :: failed, last, ?_, hlast, by simpa using hlen, fun e' he' => ?_, by simp⟩
      · intro a ha
        obtain rfl | ha := List.mem_cons.1 ha
        · exact ⟨h, he⟩
        · exact hfailed a ha
      · rw [List.length_cons]
        exact (hr e' he').imp_left fun hfull => by omega
  · intro h
    obtain ⟨failed, last, hfailed, hlast, hlen, hr, ht⟩ := h
    induction failed generalizing budget t with
    | nil =>
      rw [ht]
      exact .last hlast fun e he => (hr e he).imp_left Eq.symm
    | cons a failed ih =>
      obtain ⟨ha, hfailed⟩ := List.forall_mem_cons.1 hfailed
      rw [List.length_cons] at hlen hr
      obtain ⟨left, rfl⟩ : ∃ left, budget = left + 1 := ⟨budget - 1, by omega⟩
      rw [ht, List.map_cons, List.flatten_cons, List.append_assoc]
      exact .again ha.1 ha.2 (ih hfailed (by omega)
        (fun e he => (hr e he).imp_left fun hfull => by omega) rfl)

section Exec

variable (event : (op : Op) → Except ε (Value op) → Ev)

/-- The transcripts of a program, finished or not. -/
def Exec {α : Type} : Program Op Value ε α → List Ev → Observed Op ε α → Prop
  | .pure a, t, r => t = [] ∧ r = .returned a
  | .throw e, t, r => t = [] ∧ r = .halted (.raised e)
  | .call op, t, r => t = [] ∧ r = .halted (.waiting op) ∨
      ∃ reply, t = [event op reply] ∧ r = answered Op reply
  | .bind p k, t, r => (∃ x, Exec p t (.halted x) ∧ r = .halted x) ∨
      ∃ b t₁ t₂, Exec p t₁ (.returned b) ∧ Exec (k b) t₂ r ∧ t = t₁ ++ t₂
  | .tryCatch p k, t, r => (Exec p t r ∧ ∀ e, r ≠ .halted (.raised e)) ∨
      ∃ e t₁ t₂, Exec p t₁ (.halted (.raised e)) ∧ Exec (k e) t₂ r ∧ t = t₁ ++ t₂
  | .loop body, t, r => Rounds (Exec body) t r

/-- No environment tells the programs apart. -/
def Same (p q : Program Op Value ε α) : Prop := ∀ t r, Exec event p t r ↔ Exec event q t r

variable {event}

theorem Same.refl (p : Program Op Value ε α) : Same event p p := fun _ _ => Iff.rfl

theorem Same.trans {p q s : Program Op Value ε α} (h : Same event p q) (h' : Same event q s) :
    Same event p s := fun t r => (h t r).trans (h' t r)

theorem same_bind {p q : Program Op Value ε β} {k l : β → Program Op Value ε α}
    (h : Same event p q) (hk : ∀ b, Same event (k b) (l b)) :
    Same event (p.bind k) (q.bind l) := by
  intro t r
  apply or_congr
  · exact exists_congr fun x => and_congr_left' (h t _)
  · apply exists_congr
    intro b
    exact exists₂_congr fun t₁ t₂ => and_congr (h t₁ _) (and_congr_left' (hk b t₂ r))

theorem same_pure_bind (b : β) (k : β → Program Op Value ε α) :
    Same event ((Program.pure b).bind k) (k b) := by
  intro t r
  constructor
  · intro h
    obtain ⟨x, ⟨-, hx⟩, -⟩ | ⟨b', t₁, t₂, ⟨rfl, hb⟩, hk, rfl⟩ := h
    · cases hx
    · cases hb
      exact hk
  · intro h
    exact .inr ⟨b, [], t, ⟨rfl, rfl⟩, h, rfl⟩

theorem same_throw_bind (e : ε) (k : β → Program Op Value ε α) :
    Same event ((Program.throw e).bind k) (.throw e) := by
  intro t r
  constructor
  · intro h
    obtain ⟨x, ⟨ht, hx⟩, hr⟩ | ⟨b, t₁, t₂, ⟨-, hb⟩, -, -⟩ := h
    · cases hx
      exact ⟨ht, hr⟩
    · cases hb
  · intro h
    exact .inl ⟨_, ⟨h.1, rfl⟩, h.2⟩

theorem Same.throw_bind {p : Program Op Value ε β} {e : ε} (h : Same event p (.throw e))
    (k : β → Program Op Value ε α) : Same event (p.bind k) (.throw e) :=
  (same_bind h fun b => .refl (k b)).trans (same_throw_bind e k)

theorem same_pure_tryCatch (a : α) (k : ε → Program Op Value ε α) :
    Same event ((Program.pure a).tryCatch k) (.pure a) := by
  intro t r
  constructor
  · intro h
    obtain ⟨hp, -⟩ | ⟨e, t₁, t₂, ⟨-, hr⟩, -, -⟩ := h
    · exact hp
    · cases hr
  · intro h
    obtain ⟨rfl, rfl⟩ := h
    exact .inl ⟨⟨rfl, rfl⟩, fun e he => by cases he⟩

theorem same_throw_tryCatch (e : ε) (k : ε → Program Op Value ε α) :
    Same event ((Program.throw e).tryCatch k) (k e) := by
  intro t r
  constructor
  · intro h
    obtain ⟨⟨-, rfl⟩, hr⟩ | ⟨e', t₁, t₂, ⟨rfl, hr⟩, hk, rfl⟩ := h
    · exact absurd rfl (hr e)
    · cases hr
      exact hk
  · intro h
    exact .inr ⟨e, [], t, ⟨rfl, rfl⟩, h, rfl⟩

theorem same_bind_assoc (p : Program Op Value ε γ) (k : γ → Program Op Value ε β)
    (l : β → Program Op Value ε α) :
    Same event ((p.bind k).bind l) (p.bind fun c => (k c).bind l) := by
  intro t r
  constructor
  · intro h
    obtain ⟨x, ⟨y, hp, hy⟩ | ⟨c, t₁, t₂, hp, hk, rfl⟩, hr⟩ | ⟨b, t₁, t₂, hb, hl, rfl⟩ := h
    · cases hy
      exact .inl ⟨x, hp, hr⟩
    · exact .inr ⟨c, t₁, t₂, hp, .inl ⟨x, hk, hr⟩, rfl⟩
    · obtain ⟨x, -, hx⟩ | ⟨c, t₀, t₁, hp, hk, rfl⟩ := hb
      · cases hx
      · exact .inr ⟨c, t₀, t₁ ++ t₂, hp, .inr ⟨b, t₁, t₂, hk, hl, rfl⟩, List.append_assoc _ _ _⟩
  · intro h
    obtain ⟨x, hp, hr⟩ | ⟨c, t₁, t₂, hp, ⟨x, hk, hr⟩ | ⟨b, t₂, t₃, hk, hl, rfl⟩, rfl⟩ := h
    · exact .inl ⟨x, .inl ⟨x, hp, rfl⟩, hr⟩
    · exact .inl ⟨x, .inr ⟨c, t₁, t₂, hp, hk, rfl⟩, hr⟩
    · exact .inr ⟨b, t₁ ++ t₂, t₃, .inr ⟨c, t₁, t₂, hp, hk, rfl⟩, hl,
        (List.append_assoc _ _ _).symm⟩

/-- The first round of a loop. -/
theorem same_loop (body : Program Op Value ε Bool) :
    Same event (.loop body) (body.bind fun again => if again then .loop body else .pure ()) := by
  intro t r
  constructor
  · intro h
    cases h with
    | done h => exact .inr ⟨false, t, [], h, ⟨rfl, rfl⟩, (List.append_nil t).symm⟩
    | again h h' => exact .inr ⟨true, _, _, h, h', rfl⟩
    | halted h => exact .inl ⟨_, h, rfl⟩
  · intro h
    obtain ⟨x, hx, rfl⟩ | ⟨b, t₁, t₂, hb, hnext, rfl⟩ := h
    · exact .halted hx
    · cases b with
      | false =>
        obtain ⟨rfl, rfl⟩ : t₂ = [] ∧ r = .returned () := hnext
        rw [List.append_nil]
        exact .done hb
      | true => exact .again hb hnext

/-- A program that starts with a call waits for it, or goes on from its answer. -/
theorem exec_call_bind (op : Op) (k : Value op → Program Op Value ε α) (t : List Ev)
    (r : Observed Op ε α) :
    Exec event ((Program.call op).bind k) t r ↔ t = [] ∧ r = .halted (.waiting op) ∨
      ∃ reply t', t = event op reply :: t' ∧ Exec event ((lift reply).bind k) t' r := by
  constructor
  · intro h
    obtain ⟨x, ⟨ht, hx⟩ | ⟨reply, rfl, hx⟩, rfl⟩ | ⟨b, t₁, t₂, ⟨-, hb⟩ | ⟨reply, rfl, hb⟩, hk, rfl⟩ :=
      h
    · cases hx
      exact .inl ⟨ht, rfl⟩
    · cases reply with
      | ok b => cases hx
      | error e =>
        cases hx
        exact .inr ⟨.error e, [], rfl, (same_throw_bind e k [] _).2 ⟨rfl, rfl⟩⟩
    · cases hb
    · cases reply with
      | ok b =>
        cases hb
        exact .inr ⟨.ok b, t₂, rfl, (same_pure_bind b k t₂ r).2 hk⟩
      | error e => cases hb
  · intro h
    obtain ⟨rfl, rfl⟩ | ⟨reply, t', rfl, h⟩ := h
    · exact .inl ⟨.waiting op, .inl ⟨rfl, rfl⟩, rfl⟩
    · cases reply with
      | ok b =>
        exact .inr ⟨b, [_], t', .inr ⟨.ok b, rfl, rfl⟩, (same_pure_bind b k t' r).1 h, rfl⟩
      | error e =>
        obtain ⟨rfl, rfl⟩ : t' = [] ∧ r = .halted (.raised e) := (same_throw_bind e k t' r).1 h
        exact .inl ⟨.raised e, .inr ⟨.error e, rfl, rfl⟩, rfl⟩

/-- A program that is the same as one that starts with a call. -/
theorem exec_iff_of_call {p : Program Op Value ε α} (op : Op) {k : Value op → Program Op Value ε α}
    {next : Except ε (Value op) → Program Op Value ε α}
    (h : Same event p ((Program.call op).bind k))
    (hnext : ∀ reply, Same event ((lift reply).bind k) (next reply)) (t : List Ev)
    (r : Observed Op ε α) :
    Exec event p t r ↔ t = [] ∧ r = .halted (.waiting op) ∨
      ∃ reply t', t = event op reply :: t' ∧ Exec event (next reply) t' r := by
  rw [h t r, exec_call_bind]
  apply or_congr_right
  apply exists_congr
  intro reply
  exact exists_congr fun t' => and_congr_right fun _ => hnext reply t' r

/-- What is tried and starts with a call waits for it too, or goes on from its answer. -/
theorem exec_tryCatch_of_call {p : Program Op Value ε α} {op : Op} {R : Type}
    {ev : R → Ev} {next : R → Program Op Value ε α}
    (h : ∀ t r, Exec event p t r ↔ t = [] ∧ r = .halted (.waiting op) ∨
      ∃ reply t', t = ev reply :: t' ∧ Exec event (next reply) t' r)
    (k : ε → Program Op Value ε α) (t : List Ev) (r : Observed Op ε α) :
    Exec event (p.tryCatch k) t r ↔ t = [] ∧ r = .halted (.waiting op) ∨
      ∃ reply t', t = ev reply :: t' ∧ Exec event ((next reply).tryCatch k) t' r := by
  constructor
  · intro hexec
    obtain ⟨hp, hr⟩ | ⟨e, t₁, t₂, hp, hk, rfl⟩ := hexec
    · obtain hwait | ⟨reply, t', ht, hnext⟩ := (h t r).1 hp
      · exact .inl hwait
      · exact .inr ⟨reply, t', ht, .inl ⟨hnext, hr⟩⟩
    · obtain ⟨-, hr⟩ | ⟨reply, t', rfl, hnext⟩ := (h t₁ _).1 hp
      · cases hr
      · exact .inr ⟨reply, t' ++ t₂, rfl, .inr ⟨e, t', t₂, hnext, hk, rfl⟩⟩
  · intro hexec
    obtain ⟨rfl, rfl⟩ | ⟨reply, t', rfl, ⟨hnext, hr⟩ | ⟨e, t₁, t₂, hnext, hk, rfl⟩⟩ := hexec
    · exact .inl ⟨(h _ _).2 (.inl ⟨rfl, rfl⟩), fun e he => by cases he⟩
    · exact .inl ⟨(h _ _).2 (.inr ⟨reply, t', rfl, hnext⟩), hr⟩
    · exact .inr ⟨e, _, t₂, (h _ _).2 (.inr ⟨reply, t₁, rfl, hnext⟩), hk, rfl⟩

theorem exec_bind_returned (p : Program Op Value ε β) (k : β → Program Op Value ε α) (t : List Ev)
    (a : α) : Exec event (p.bind k) t (.returned a) ↔ ∃ b t₁ t₂,
      Exec event p t₁ (.returned b) ∧ Exec event (k b) t₂ (.returned a) ∧ t = t₁ ++ t₂ := by
  constructor
  · intro h
    obtain ⟨x, -, hx⟩ | h := h
    · cases hx
    · exact h
  · intro h
    exact .inr h

theorem exec_lift_bind_returned (o : Except ε β) (k : β → Program Op Value ε α) (t : List Ev)
    (a : α) : Exec event ((lift o).bind k) t (.returned a) ↔
      ∃ b, o = .ok b ∧ Exec event (k b) t (.returned a) := by
  cases o with
  | ok b =>
    rw [lift, same_pure_bind b k t]
    simp
  | error e =>
    rw [lift, same_throw_bind e k t]
    simp [Exec]

/-- A program that is retried goes on to the next attempt exactly when one raises what may be
retried within the budget. -/
theorem exec_retry (p : Program Op Value ε α) (retryable : ε → Bool) (budget : ℕ) (t : List Ev)
    (r : Observed Op ε α) : Exec event (p.retry retryable budget) t r ↔
      Retried (Exec event p) retryable budget t r := by
  induction budget generalizing t with
  | zero =>
    constructor
    · intro h
      exact .last h fun _ _ => .inl rfl
    · intro h
      cases h with
      | last h _ => exact h
  | succ budget ih =>
    constructor
    · intro h
      obtain ⟨hp, hr⟩ | ⟨e, t₁, t₂, hp, hk, rfl⟩ := h
      · exact .last hp fun e he => absurd he (hr e)
      · beta_reduce at hk
        split at hk
        next he => exact .again hp he ((ih t₂).1 hk)
        next he =>
          obtain ⟨rfl, rfl⟩ := hk
          rw [List.append_nil]
          refine .last hp fun e' he' => ?_
          cases he'
          exact .inr (by simpa using he)
    · intro h
      cases h with
      | last h hr =>
        by_cases hraised : ∃ e, r = .halted (.raised e)
        · obtain ⟨e, rfl⟩ := hraised
          have he : ¬(retryable e = true) := by
            obtain hbudget | he := hr e rfl
            · omega
            · simp [he]
          refine .inr ⟨e, t, [], h, ?_, (List.append_nil t).symm⟩
          beta_reduce
          rw [if_neg he]
          exact ⟨rfl, rfl⟩
        · exact .inl ⟨h, fun e he => hraised ⟨e, he⟩⟩
      | again h he h' =>
        refine .inr ⟨_, _, _, h, ?_, rfl⟩
        beta_reduce
        rw [if_pos he]
        exact (ih _).2 h'

end Exec

end Program

/-! ## Programs that a coroutine implements -/

namespace Coroutine

open Program

variable {σ : Type} {Ev : Type u} {ε α : Type}

theorem run_nil_iff {C : Coroutine σ Ev α} {s s' : Status σ α} : C.Run s [] s' ↔ s' = s := by
  constructor
  · intro h
    obtain ⟨-, hs⟩ | ⟨t, p, reply, -, ht, -⟩ := h.eq_or_last
    · exact hs
    · simp at ht
  · intro h
    rw [h]
    exact .refl

/-- A run that exchanges something begins with the answer to the point it starts from. -/
theorem run_cons_iff {C : Coroutine σ Ev α} {s s' : Status σ α} {e : Ev} {t : List Ev} :
    C.Run s (e :: t) s' ↔
      ∃ p reply, s = .suspended p ∧ e = C.event p reply ∧ C.Run (C.resume p reply) t s' := by
  constructor
  · intro h
    have h' : C.Run s ([] ++ e :: t) s' := h
    obtain ⟨p, reply, hp, he, hrest⟩ := h'.split
    exact ⟨p, reply, (run_nil_iff.1 hp).symm, he, hrest⟩
  · intro h
    obtain ⟨p, reply, rfl, rfl, hrest⟩ := h
    have hfirst : C.Run (.suspended p) [C.event p reply] (C.resume p reply) :=
      Run.refl.step reply
    exact hfirst.trans hrest

section Implements

variable {Op : Type} {Value : Op → Type}

/-- What is observed of a coroutine whose points wait for operations. -/
def observed (op : σ → Op) : Status σ (Except ε α) → Observed Op ε α
  | .suspended p => .halted (.waiting (op p))
  | .finished o => answered Op o

variable (event : (op : Op) → Except ε (Value op) → Ev) (rest : σ → Program Op Value ε α)

/-- What a coroutine still has to do. -/
def remaining : Status σ (Except ε α) → Program Op Value ε α
  | .suspended p => rest p
  | .finished o => lift o

/-- Each point waits for the operation with which its program starts, and goes on with what is
left of it. -/
def Implements (C : Coroutine σ Ev (Except ε α)) (op : σ → Op) : Prop :=
  ∀ p t r, Exec event (rest p) t r ↔ t = [] ∧ r = .halted (.waiting (op p)) ∨
    ∃ reply t', t = C.event p reply :: t' ∧ Exec event (remaining rest (C.resume p reply)) t' r

variable {event rest} {C : Coroutine σ Ev (Except ε α)} {op : σ → Op}

theorem exec_lift {o : Except ε α} {t : List Ev} {r : Observed Op ε α} :
    Exec event (lift o : Program Op Value ε α) t r ↔ t = [] ∧ r = answered Op o := by
  cases o <;> exact Iff.rfl

/-- The runs of a coroutine are those of the program it implements. -/
theorem Implements.run_iff (h : Implements event rest C op) (s : Status σ (Except ε α))
    (t : List Ev) (r : Observed Op ε α) :
    (∃ s', C.Run s t s' ∧ observed op s' = r) ↔ Exec event (remaining rest s) t r := by
  induction t generalizing s with
  | nil =>
    have hnil : (∃ s', C.Run s [] s' ∧ observed op s' = r) ↔ observed op s = r := by
      constructor
      · intro h
        obtain ⟨s', hrun, hr⟩ := h
        rwa [run_nil_iff.1 hrun] at hr
      · intro hr
        exact ⟨s, .refl, hr⟩
    rw [hnil]
    cases s with
    | suspended p =>
      rw [remaining, h p]
      constructor
      · intro hr
        exact .inl ⟨rfl, hr.symm⟩
      · intro hexec
        obtain ⟨-, hr⟩ | ⟨reply, t', ht, -⟩ := hexec
        · exact hr.symm
        · cases ht
    | finished o =>
      rw [remaining, exec_lift]
      constructor
      · intro hr
        exact ⟨rfl, hr.symm⟩
      · intro hexec
        exact hexec.2.symm
  | cons e t ih =>
    cases s with
    | suspended p =>
      rw [remaining, h p]
      constructor
      · intro h
        obtain ⟨s', hrun, hr⟩ := h
        obtain ⟨q, reply, hq, rfl, hrest⟩ := run_cons_iff.1 hrun
        cases hq
        exact .inr ⟨reply, t, rfl, (ih _).1 ⟨s', hrest, hr⟩⟩
      · intro hexec
        obtain ⟨hnil, -⟩ | ⟨reply, t', ht, hexec⟩ := hexec
        · cases hnil
        · cases ht
          obtain ⟨s', hrest, hr⟩ := (ih _).2 hexec
          exact ⟨s', run_cons_iff.2 ⟨p, reply, rfl, rfl, hrest⟩, hr⟩
    | finished o =>
      rw [remaining, exec_lift]
      constructor
      · intro h
        obtain ⟨s', hrun, _⟩ := h
        cases hrun.of_finished.1
      · intro hexec
        cases hexec.1

section Retry

variable {start : σ} {budget : ℕ} {retryable : ε → Bool}

/-- What is left of an attempt, and of the attempts after it. -/
def retryRest (rest : σ → Program Op Value ε α) (start : σ) (budget : ℕ) (retryable : ε → Bool)
    (p : RetryPoint σ) : Program Op Value ε α :=
  match budget - p.retries with
  | 0 => rest p.point
  | left + 1 => (rest p.point).tryCatch fun e =>
    if retryable e then (rest start).retry retryable left else .throw e

theorem retryRest_start (n : ℕ) : retryRest rest start budget retryable ⟨n, start⟩ =
    (rest start).retry retryable (budget - n) := by
  rw [retryRest]
  cases budget - n with
  | zero => rfl
  | succ left => rfl

/-- The program that is tried again is implemented by the coroutine that is retried. -/
theorem Implements.retrying (h : Implements event rest C op) (start : σ) (budget : ℕ)
    (retryable : ε → Bool) :
    Implements event (retryRest rest start budget retryable)
      (Coroutine.retrying C start budget retryable) fun p => op p.point := by
  intro p t r
  obtain ⟨n, p⟩ := p
  cases hleft : budget - n with
  | zero =>
    have hrest : ∀ q, retryRest rest start budget retryable ⟨n, q⟩ = rest q := by
      intro q
      rw [retryRest, hleft]
    have hremaining : ∀ s, remaining rest s = remaining (retryRest rest start budget retryable)
        (afterAttempt start budget retryable n s) := by
      intro s
      cases s with
      | suspended q => exact (hrest q).symm
      | finished o =>
        cases o with
        | ok a => rfl
        | error e =>
          have hspent : ¬(n < budget ∧ retryable e) := fun hc => by omega
          rw [afterAttempt, if_neg hspent]
          rfl
    rw [hrest, h p]
    apply or_congr_right
    apply exists_congr
    intro reply
    rw [hremaining]
    exact Iff.rfl
  | succ left =>
    let k : ε → Program Op Value ε α := fun e =>
      if retryable e then (rest start).retry retryable left else .throw e
    have hrest : ∀ q, retryRest rest start budget retryable ⟨n, q⟩ = (rest q).tryCatch k := by
      intro q
      rw [retryRest, hleft]
    have hremaining : ∀ s, Same event ((remaining rest s).tryCatch k)
        (remaining (retryRest rest start budget retryable)
          (afterAttempt start budget retryable n s)) := by
      intro s
      cases s with
      | suspended q =>
        rw [afterAttempt, remaining, remaining, hrest]
        exact .refl _
      | finished o =>
        cases o with
        | ok a => exact same_pure_tryCatch a k
        | error e =>
          have hlt : n < budget := by omega
          refine (same_throw_tryCatch e k).trans ?_
          by_cases hr : retryable e
          · have hnext : budget - (n + 1) = left := by omega
            rw [afterAttempt, if_pos ⟨hlt, hr⟩, remaining, retryRest_start, hnext]
            simp only [k, if_pos hr]
            exact .refl _
          · rw [afterAttempt, if_neg fun hc => hr hc.2, remaining]
            simp only [k, if_neg hr]
            exact .refl _
    rw [hrest, exec_tryCatch_of_call (h p)]
    apply or_congr_right
    apply exists_congr
    intro reply
    exact exists_congr fun t' => and_congr_right fun _ => hremaining _ t' r

end Retry

end Implements

end Coroutine

end PrefectQiskit
