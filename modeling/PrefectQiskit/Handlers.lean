import PrefectQiskit.Program

/-!
# Handlers

A handler serves each operation of one environment by a program over another. A program that is
handled does over the second environment exactly what it does over the first, with every answer
replaced by a transcript of the program that serves the operation.
-/

namespace PrefectQiskit.Program

universe u v

variable {Op Op' : Type} {Value : Op → Type} {Value' : Op' → Type} {ε α β : Type}
  {Ev : Type u} {Ev' : Type v}

/-- Serve each call of a program. -/
def handle (h : (op : Op) → Program Op' Value' ε (Value op)) {α : Type} :
    Program Op Value ε α → Program Op' Value' ε α
  | .pure a => .pure a
  | .throw e => .throw e
  | .call op => h op
  | .bind p k => .bind (handle h p) fun b => handle h (k b)
  | .tryCatch p k => .tryCatch (handle h p) fun e => handle h (k e)
  | .loop body => .loop (handle h body)

theorem handle_retry (h : (op : Op) → Program Op' Value' ε (Value op))
    (p : Program Op Value ε α) (retryable : ε → Bool) (budget : ℕ) :
    (p.retry retryable budget).handle h = (p.handle h).retry retryable budget := by
  induction budget with
  | zero => rfl
  | succ budget ih =>
    rw [retry, retry, handle]
    congr
    funext e
    split
    · exact ih
    · rfl

@[simp] theorem handle_lift (h : (op : Op) → Program Op' Value' ε (Value op)) (o : Except ε α) :
    (lift o : Program Op Value ε α).handle h = lift o := by
  cases o <;> rfl

section Exec

variable (event : (op : Op) → Except ε (Value op) → Ev)
  (event' : (op : Op') → Except ε (Value' op) → Ev')
  (h : (op : Op) → Program Op' Value' ε (Value op))

/-- The answers of a transcript, each with a transcript of the program that serves it. -/
inductive Carries : List Ev → List Ev' → Prop
  | nil : Carries [] []
  | cons {op : Op} {reply : Except ε (Value op)} {t : List Ev} {s s' : List Ev'}
      (hop : Exec event' (h op) s (answered Op' reply)) (hrest : Carries t s') :
      Carries (event op reply :: t) (s ++ s')

/-- A program that waits for an operation waits inside the program that serves it. -/
inductive Stopped : Halt Op ε → List Ev' → Halt Op' ε → Prop
  | raised (e : ε) : Stopped (.raised e) [] (.raised e)
  | waiting {op : Op} {s : List Ev'} {op' : Op'}
      (hop : Exec event' (h op) s (.halted (.waiting op'))) :
      Stopped (.waiting op) s (.waiting op')

inductive Stands : Observed Op ε α → List Ev' → Observed Op' ε α → Prop
  | returned (a : α) : Stands (.returned a) [] (.returned a)
  | halted {x : Halt Op ε} {s : List Ev'} {x' : Halt Op' ε} (hx : Stopped event' h x s x') :
      Stands (.halted x) s (.halted x')

/-- A transcript of a program, and one of the program that is handled. -/
def Serves (t : List Ev) (r : Observed Op ε α) (s : List Ev') (r' : Observed Op' ε α) : Prop :=
  ∃ s₁ s₂, Carries event event' h t s₁ ∧ Stands event' h r s₂ r' ∧ s = s₁ ++ s₂

variable {event event' h}

theorem Carries.append {t t' : List Ev} {s s' : List Ev'} (ht : Carries event event' h t s)
    (ht' : Carries event event' h t' s') : Carries event event' h (t ++ t') (s ++ s') := by
  induction ht with
  | nil => exact ht'
  | cons hop hrest ih =>
    rw [List.append_assoc]
    exact .cons hop ih

theorem Carries.split {t t' : List Ev} {s : List Ev'} (ht : Carries event event' h (t ++ t') s) :
    ∃ s₁ s₂, Carries event event' h t s₁ ∧ Carries event event' h t' s₂ ∧ s = s₁ ++ s₂ := by
  induction t generalizing s with
  | nil => exact ⟨[], s, .nil, ht, rfl⟩
  | cons e t ih =>
    cases ht with
    | cons hop hrest =>
      obtain ⟨s₁, s₂, h₁, h₂, rfl⟩ := ih hrest
      exact ⟨_, s₂, .cons hop h₁, h₂, (List.append_assoc _ _ _).symm⟩

theorem Serves.append {t t' : List Ev} {r : Observed Op ε α} {s s' : List Ev'}
    {r' : Observed Op' ε α} (ht' : Serves event event' h t' r s' r')
    (ht : Carries event event' h t s) : Serves event event' h (t ++ t') r (s ++ s') r' := by
  obtain ⟨s₁, s₂, hc, hr, rfl⟩ := ht'
  exact ⟨s ++ s₁, s₂, ht.append hc, hr, (List.append_assoc _ _ _).symm⟩

theorem Serves.split {t t' : List Ev} {r : Observed Op ε α} {s : List Ev'}
    {r' : Observed Op' ε α} (ht : Serves event event' h (t ++ t') r s r') :
    ∃ s₁ s₂, Carries event event' h t s₁ ∧ Serves event event' h t' r s₂ r' ∧ s = s₁ ++ s₂ := by
  obtain ⟨s₁, s₂, hc, hr, rfl⟩ := ht
  obtain ⟨u, u', hu, hu', rfl⟩ := hc.split
  exact ⟨u, u' ++ s₂, hu, ⟨u', s₂, hu', hr, rfl⟩, List.append_assoc _ _ _⟩

theorem serves_nil {r : Observed Op ε α} {s : List Ev'} {r' : Observed Op' ε α} :
    Serves event event' h [] r s r' ↔ Stands event' h r s r' := by
  constructor
  · intro hs
    obtain ⟨s₁, s₂, hc, hr, rfl⟩ := hs
    cases hc
    exact hr
  · intro hr
    exact ⟨[], s, .nil, hr, rfl⟩

theorem serves_returned {t : List Ev} {s : List Ev'} {r : Observed Op ε α} {a : α} :
    Serves event event' h t r s (.returned a) ↔
      Carries event event' h t s ∧ r = .returned a := by
  constructor
  · intro hs
    obtain ⟨s₁, s₂, hc, hr, rfl⟩ := hs
    cases hr
    rw [List.append_nil]
    exact ⟨hc, rfl⟩
  · intro h'
    obtain ⟨hc, hr⟩ := h'
    rw [hr]
    exact ⟨s, [], hc, .returned a, (List.append_nil s).symm⟩

theorem serves_raised {t : List Ev} {s : List Ev'} {r : Observed Op ε α} {e : ε} :
    Serves event event' h t r s (.halted (.raised e)) ↔
      Carries event event' h t s ∧ r = .halted (.raised e) := by
  constructor
  · intro hs
    obtain ⟨s₁, s₂, hc, hr, rfl⟩ := hs
    cases hr with
    | halted hx =>
      cases hx
      rw [List.append_nil]
      exact ⟨hc, rfl⟩
  · intro h'
    obtain ⟨hc, hr⟩ := h'
    rw [hr]
    exact ⟨s, [], hc, .halted (.raised e), (List.append_nil s).symm⟩

theorem serves_halted {t : List Ev} {s : List Ev'} {r : Observed Op ε α} {x' : Halt Op' ε} :
    Serves event event' h t r s (.halted x') ↔ ∃ x, r = .halted x ∧
      Serves event event' h t (.halted x : Observed Op ε β) s (.halted x') := by
  constructor
  · intro hs
    obtain ⟨s₁, s₂, hc, hr, rfl⟩ := hs
    cases hr with
    | halted hx => exact ⟨_, rfl, s₁, s₂, hc, .halted hx, rfl⟩
  · intro hs
    obtain ⟨x, rfl, s₁, s₂, hc, hr, rfl⟩ := hs
    cases hr with
    | halted hx => exact ⟨s₁, s₂, hc, .halted hx, rfl⟩

/-- Whatever a handled program does is served. -/
theorem exec_of_handle {α : Type} (p : Program Op Value ε α) {s : List Ev'}
    {r' : Observed Op' ε α} (hexec : Exec event' (p.handle h) s r') :
    ∃ t r, Exec event p t r ∧ Serves event event' h t r s r' := by
  induction p generalizing s with
  | pure a =>
    obtain ⟨rfl, rfl⟩ := hexec
    exact ⟨[], .returned a, ⟨rfl, rfl⟩, serves_returned.2 ⟨.nil, rfl⟩⟩
  | throw e =>
    obtain ⟨rfl, rfl⟩ := hexec
    exact ⟨[], .halted (.raised e), ⟨rfl, rfl⟩, serves_raised.2 ⟨.nil, rfl⟩⟩
  | call op =>
    have hcarried : ∀ reply : Except ε (Value op), r' = answered Op' reply →
        Carries event event' h [event op reply] s := by
      intro reply hr
      have hop : Exec event' (h op) s (answered Op' reply) := by
        rw [← hr]
        exact hexec
      have hs : Carries event event' h [event op reply] (s ++ []) := .cons hop .nil
      rwa [List.append_nil] at hs
    match r' with
    | .returned a =>
      exact ⟨_, _, .inr ⟨.ok a, rfl, rfl⟩, serves_returned.2 ⟨hcarried (.ok a) rfl, rfl⟩⟩
    | .halted (.raised e) =>
      exact ⟨_, _, .inr ⟨.error e, rfl, rfl⟩, serves_raised.2 ⟨hcarried (.error e) rfl, rfl⟩⟩
    | .halted (.waiting op') =>
      exact ⟨[], _, .inl ⟨rfl, rfl⟩, serves_nil.2 (.halted (.waiting hexec))⟩
  | bind p k ihp ihk =>
    obtain ⟨x', hp, rfl⟩ | ⟨b, s₁, s₂, hp, hk, rfl⟩ := hexec
    · obtain ⟨t, r, ht, hs⟩ := ihp hp
      obtain ⟨x, rfl, hs⟩ := serves_halted.1 hs
      exact ⟨t, .halted x, .inl ⟨x, ht, rfl⟩, hs⟩
    · obtain ⟨t₁, r₁, ht₁, hs₁⟩ := ihp hp
      obtain ⟨hc₁, rfl⟩ := serves_returned.1 hs₁
      obtain ⟨t₂, r, ht₂, hs₂⟩ := ihk b hk
      exact ⟨t₁ ++ t₂, r, .inr ⟨b, t₁, t₂, ht₁, ht₂, rfl⟩, hs₂.append hc₁⟩
  | tryCatch p k ihp ihk =>
    obtain ⟨hp, hr⟩ | ⟨e, s₁, s₂, hp, hk, rfl⟩ := hexec
    · obtain ⟨t, r, ht, hs⟩ := ihp hp
      refine ⟨t, r, .inl ⟨ht, fun e he => ?_⟩, hs⟩
      obtain ⟨s₁, s₂, -, hstands, -⟩ := hs
      rw [he] at hstands
      cases hstands with
      | halted hx =>
        cases hx
        exact hr e rfl
    · obtain ⟨t₁, r₁, ht₁, hs₁⟩ := ihp hp
      obtain ⟨hc₁, rfl⟩ := serves_raised.1 hs₁
      obtain ⟨t₂, r, ht₂, hs₂⟩ := ihk e hk
      exact ⟨t₁ ++ t₂, r, .inr ⟨e, t₁, t₂, ht₁, ht₂, rfl⟩, hs₂.append hc₁⟩
  | loop body ih =>
    have hrounds : Rounds (Exec event' (body.handle h)) s r' := hexec
    clear hexec
    induction hrounds with
    | done hbody =>
      obtain ⟨t, r, ht, hs⟩ := ih hbody
      obtain ⟨hc, rfl⟩ := serves_returned.1 hs
      exact ⟨t, .returned (), .done ht, serves_returned.2 ⟨hc, rfl⟩⟩
    | again hbody _ ihrest =>
      obtain ⟨t₁, r₁, ht₁, hs₁⟩ := ih hbody
      obtain ⟨hc₁, rfl⟩ := serves_returned.1 hs₁
      obtain ⟨t₂, r, ht₂, hs₂⟩ := ihrest
      exact ⟨t₁ ++ t₂, r, .again ht₁ ht₂, hs₂.append hc₁⟩
    | halted hbody =>
      obtain ⟨t, r, ht, hs⟩ := ih hbody
      obtain ⟨x, rfl, hs⟩ := serves_halted.1 hs
      exact ⟨t, .halted x, .halted ht, hs⟩

/-- An event tells which call was answered, and how. -/
def Tells (event : (op : Op) → Except ε (Value op) → Ev) : Prop :=
  Function.Injective fun answer : (op : Op) × Except ε (Value op) => event answer.1 answer.2

theorem Carries.head (htells : Tells event) (op : Op) (reply : Except ε (Value op)) {t : List Ev}
    {s : List Ev'} (hc : Carries event event' h (event op reply :: t) s) :
    ∃ s₁ s₂, Exec event' (h op) s₁ (answered Op' reply) ∧ Carries event event' h t s₂ ∧
      s = s₁ ++ s₂ := by
  generalize ht : event op reply :: t = u at hc
  cases hc with
  | nil => cases ht
  | @cons op' reply' t' s s' hop hrest =>
    obtain ⟨hevent, rfl⟩ := List.cons.inj ht
    have hanswer : (⟨op, reply⟩ : (op : Op) × Except ε (Value op)) = ⟨op', reply'⟩ :=
      htells hevent
    cases hanswer
    exact ⟨s, s', hop, hrest, rfl⟩

theorem Carries.single (htells : Tells event) (op : Op) (reply : Except ε (Value op))
    {s : List Ev'} (hc : Carries event event' h [event op reply] s) :
    Exec event' (h op) s (answered Op' reply) := by
  obtain ⟨s₁, s₂, hop, hrest, rfl⟩ := hc.head htells op reply
  cases hrest
  rwa [List.append_nil]

theorem stands_answered {o : Except ε α} {s : List Ev'} {r' : Observed Op' ε α}
    (hr : Stands event' h (answered Op o) s r') : s = [] ∧ r' = answered Op' o := by
  cases o with
  | ok a =>
    cases hr
    exact ⟨rfl, rfl⟩
  | error e =>
    cases hr with
    | halted hx =>
      cases hx
      exact ⟨rfl, rfl⟩

/-- Whatever serves a transcript of a program is done by the program that is handled. -/
theorem Serves.exec (htells : Tells event) {α : Type} {p : Program Op Value ε α} {t : List Ev}
    {r : Observed Op ε α} {s : List Ev'} {r' : Observed Op' ε α}
    (hs : Serves event event' h t r s r') (hexec : Exec event p t r) :
    Exec event' (p.handle h) s r' := by
  induction p generalizing t s with
  | pure a =>
    obtain ⟨rfl, rfl⟩ := hexec
    cases serves_nil.1 hs
    exact ⟨rfl, rfl⟩
  | throw e =>
    obtain ⟨rfl, rfl⟩ := hexec
    cases serves_nil.1 hs with
    | halted hx =>
      cases hx
      exact ⟨rfl, rfl⟩
  | call op =>
    obtain ⟨rfl, rfl⟩ | ⟨reply, rfl, rfl⟩ := hexec
    · cases serves_nil.1 hs with
      | halted hx =>
        cases hx with
        | waiting hop => exact hop
    · obtain ⟨s₁, s₂, hc, hr, rfl⟩ := hs
      obtain ⟨rfl, rfl⟩ := stands_answered hr
      rw [List.append_nil]
      exact hc.single htells op reply
  | bind p k ihp ihk =>
    obtain ⟨x, hp, rfl⟩ | ⟨b, t₁, t₂, hp, hk, rfl⟩ := hexec
    · obtain ⟨s₁, s₂, hc, hr, rfl⟩ := hs
      cases hr with
      | halted hx => exact .inl ⟨_, ihp ⟨s₁, s₂, hc, .halted hx, rfl⟩ hp, rfl⟩
    · obtain ⟨s₁, s₂, hc, hrest, rfl⟩ := hs.split
      exact .inr ⟨b, s₁, s₂, ihp (serves_returned.2 ⟨hc, rfl⟩) hp, ihk b hrest hk, rfl⟩
  | tryCatch p k ihp ihk =>
    obtain ⟨hp, hr⟩ | ⟨e, t₁, t₂, hp, hk, rfl⟩ := hexec
    · refine .inl ⟨ihp hs hp, fun e he => ?_⟩
      rw [he] at hs
      exact hr e (serves_raised.1 hs).2
    · obtain ⟨s₁, s₂, hc, hrest, rfl⟩ := hs.split
      exact .inr ⟨e, s₁, s₂, ihp (serves_raised.2 ⟨hc, rfl⟩) hp, ihk e hrest hk, rfl⟩
  | loop body ih =>
    have hrounds : Rounds (Exec event body) t r := hexec
    clear hexec
    change Rounds (Exec event' (body.handle h)) s r'
    induction hrounds generalizing s with
    | done hbody =>
      obtain ⟨s₁, s₂, hc, hr, rfl⟩ := hs
      cases hr
      exact .done (ih (serves_returned.2 ⟨by rwa [List.append_nil], rfl⟩) hbody)
    | again hbody _ ihrest =>
      obtain ⟨s₁, s₂, hc, hrest, rfl⟩ := hs.split
      exact .again (ih (serves_returned.2 ⟨hc, rfl⟩) hbody) (ihrest hrest)
    | halted hbody =>
      obtain ⟨s₁, s₂, hc, hr, rfl⟩ := hs
      cases hr with
      | halted hx => exact .halted (ih ⟨s₁, s₂, hc, .halted hx, rfl⟩ hbody)

end Exec

end PrefectQiskit.Program
