import PrefectQiskit.Coroutine

/-!
# Calls that share a store of results

Calls are made one after another. A call whose key is stored gets the stored result; any
other call runs, and its result is stored when it succeeds. A call may have no key, and then
it runs and stores nothing.
-/

namespace PrefectQiskit.Memo

universe u v w x y

/-- One call of a history, with its run or the stored result that replaced it. -/
inductive Entry (ι : Type u) (τ : Type v) (ε : Type w) (β : Type x) where
  | ran (call : ι) (run : τ) (outcome : Except ε β)
  | served (call : ι) (result : β)

variable {ι : Type u} {τ : Type v} {ε : Type w} {β : Type x} {κ : Type y} [DecidableEq κ]

namespace Entry

def call : Entry ι τ ε β → ι
  | .ran call _ _ => call
  | .served call _ => call

/-- The result that the caller is handed, if any. -/
def result? : Entry ι τ ε β → Option β
  | .ran _ _ (.ok result) => some result
  | .ran _ _ (.error _) => none
  | .served _ result => some result

end Entry

/-- The store after a run. -/
def save (key : ι → Option κ) (store : κ → Option β) (call : ι) (outcome : Except ε β) :
    κ → Option β := fun k =>
  match outcome with
  | .ok result => if key call = some k then some result else store k
  | .error _ => store k

/-- The entries of all calls so far, oldest first, and the store they leave. -/
inductive History (key : ι → Option κ) (Runs : ι → τ → Except ε β → Prop) :
    List (Entry ι τ ε β) → (κ → Option β) → Prop
  | nil : History key Runs [] fun _ => none
  | served {log : List (Entry ι τ ε β)} {store : κ → Option β} (h : History key Runs log store)
      (call : ι) (k : κ) (result : β) (hk : key call = some k) (hs : store k = some result) :
      History key Runs (log ++ [.served call result]) store
  | ran {log : List (Entry ι τ ε β)} {store : κ → Option β} (h : History key Runs log store)
      (call : ι) (run : τ) (outcome : Except ε β) (hmiss : ∀ k, key call = some k → store k = none)
      (hr : Runs call run outcome) :
      History key Runs (log ++ [.ran call run outcome]) (save key store call outcome)

/-- An entry of the log ran and returned this result, under this key. -/
def Produced (Runs : ι → τ → Except ε β → Prop) (log : List (Entry ι τ ε β)) (call : ι)
    (run : τ) (result : β) : Prop :=
  .ran call run (.ok result) ∈ log ∧ Runs call run (.ok result)

variable {key : ι → Option κ} {Runs : ι → τ → Except ε β → Prop} {log : List (Entry ι τ ε β)}
  {store : κ → Option β}

theorem Produced.append {call : ι} {run : τ} {result : β} (h : Produced Runs log call run result)
    (e : Entry ι τ ε β) : Produced Runs (log ++ [e]) call run result :=
  ⟨List.mem_append_left _ h.1, h.2⟩

/-- What a run leaves in the store is its own result or was there before. -/
theorem save_eq_some {call : ι} {outcome : Except ε β} {k : κ} {result : β}
    (h : save key store call outcome k = some result) :
    (outcome = .ok result ∧ key call = some k) ∨ store k = some result := by
  cases outcome with
  | error e => exact Or.inr h
  | ok r =>
    simp only [save] at h
    split at h
    next hc =>
      cases h
      exact Or.inl ⟨rfl, hc⟩
    next => exact Or.inr h

/-- Every stored result was produced by a call that has the key. -/
theorem History.store_produced (h : History key Runs log store) {k : κ} {result : β}
    (hk : store k = some result) :
    ∃ call run, Produced Runs log call run result ∧ key call = some k := by
  induction h with
  | nil => cases hk
  | served _ _ _ _ _ _ ih =>
    obtain ⟨call, run, hp, hc⟩ := ih hk
    exact ⟨call, run, hp.append _, hc⟩
  | ran _ call run outcome _ hr ih =>
    rcases save_eq_some hk with ⟨rfl, hc⟩ | hs
    · exact ⟨call, run, ⟨by simp, hr⟩, hc⟩
    · obtain ⟨call', run', hp, hc⟩ := ih hs
      exact ⟨call', run', hp.append _, hc⟩

/-- Whoever is handed a result, it was produced by that call or by an earlier one with the
same key. -/
theorem History.result_produced (h : History key Runs log store) {pre post : List (Entry ι τ ε β)}
    {e : Entry ι τ ε β} {result : β} (hlog : log = pre ++ e :: post)
    (he : e.result? = some result) :
    ∃ call run, Produced Runs (pre ++ [e]) call run result ∧
      (call = e.call ∨ ∃ k, key call = some k ∧ key e.call = some k) := by
  induction h generalizing post with
  | nil => simp at hlog
  | served h c k r hk hs ih =>
    rcases eq_of_append_singleton hlog with ⟨_, rfl, rfl⟩ | ⟨post', _, hlog'⟩
    · cases he
      obtain ⟨call, run, hp, hc⟩ := h.store_produced hs
      exact ⟨call, run, hp.append _, Or.inr ⟨k, hc, hk⟩⟩
    · exact ih hlog'
  | ran h c run outcome _ hr ih =>
    rcases eq_of_append_singleton hlog with ⟨_, rfl, rfl⟩ | ⟨post', _, hlog'⟩
    · cases outcome with
      | error ex => cases he
      | ok r =>
        cases he
        exact ⟨c, run, ⟨by simp, hr⟩, Or.inl rfl⟩
    · exact ih hlog'

end PrefectQiskit.Memo
