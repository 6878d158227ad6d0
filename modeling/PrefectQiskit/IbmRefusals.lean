import PrefectQiskit.AttemptProtocol
import PrefectQiskit.IbmProtocol
import PrefectQiskit.ParamsSchema

/-!
# Tasks that cannot be submitted

When the data of a submission cannot be prepared, whether the schema rejects the parameters or
something cannot be read or written out, no run of the task posts anything. Such a failure is
never retried, so the run ends with it as soon as the resource is reported available.
-/

namespace PrefectQiskit.IBMQuantum

open PrimitiveRunner JobAnalytics Coroutine Program

/-- No failure of this computation is temporary. -/
def Lasting {α : Type} (x : Except PyException α) : Prop :=
  ∀ ex, x = .error ex → ¬TemporaryFailure ex

theorem lasting_thirdParty {α : Type} (x : Except ThirdPartyError α) :
    Lasting (liftM x : Except PyException α) := by
  intro ex hx
  cases x with
  | ok a => cases hx
  | error e =>
    cases hx
    intro h
    cases h

theorem lasting_builtin {α : Type} (x : Except BuiltinError α) :
    Lasting (liftM x : Except PyException α) := by
  intro ex hx
  cases x with
  | ok a => cases hx
  | error e =>
    cases hx
    intro h
    cases h

theorem Lasting.bind {α β : Type} {x : Except PyException α} {f : α → Except PyException β}
    (hx : Lasting x) (hf : ∀ a, Lasting (f a)) : Lasting (x >>= f) := by
  intro ex h
  cases x with
  | ok a => exact hf a ex h
  | error e =>
    cases h
    exact hx ex rfl

theorem Lasting.mapM {α β : Type} {f : β → Except PyException α} {xs : List β}
    (h : ∀ x, Lasting (f x)) : Lasting (xs.mapM f) := by
  intro ex hx
  obtain ⟨x, -, he⟩ := mapM_error hx
  exact h x ex he

variable {Q : Qiskit} {py : Builtins} {client : IBMQuantumPlatformClient} {lib : ThirdParty Q}
  {args : RunPrimitiveArgs Q}

theorem lasting_raiseBuiltin {α : Type} (cls : BuiltinException) (message : String) :
    Lasting (raiseBuiltin cls message : Except PyException α) := by
  intro ex hx
  cases hx
  intro h
  cases h

theorem lasting_pubRows (programId : ProgramType) (inputs : Pubs Q) :
    Lasting (pubRows lib programId inputs) := by
  cases programId <;> cases inputs
  · exact Lasting.mapM fun _ => lasting_thirdParty _
  · exact Lasting.mapM fun _ => (lasting_thirdParty _).bind fun _ => lasting_raiseBuiltin _ _
  · exact Lasting.mapM fun _ => lasting_raiseBuiltin _ _
  · exact Lasting.mapM fun _ => lasting_thirdParty _

/-- The schema failure is raised without retry, and all others are of other classes. -/
theorem lasting_submissionData (programId : ProgramType) (inputs : Pubs Q) (resourceName : String)
    (options : PyDict) :
    Lasting (submissionData py lib programId inputs resourceName options) := by
  rw [submissionData]
  refine (lasting_builtin _).bind fun params => (lasting_pubRows _ _).bind fun rows => ?_
  split
  · intro ex hx
    cases hx
    intro h
    cases h with
    | runtimeJobFailure h => simp at h
  · exact lasting_thirdParty _

variable (args) in
/-- The resource is reported available. -/
inductive Available : WireOperation.Answer → Prop
  | intro {ret : PyDict} (h : ((ret.get? "state").getD (.bool false)).truthy) :
      Available ⟨.getJson s!"backends/{args.resourceName}/status", .ok (.ok ret)⟩

/-- A check that does not find the resource available is not answered so. -/
theorem session_available {log : List WireOperation.Answer}
    {r : Observed WireOperation PyException PyValue}
    (h : Session (.getJson s!"backends/{args.resourceName}/status")
      (fun token response => checkResourceAvailable py client ⟨.ok token, response⟩) log r) :
    (∀ e ∈ log, ¬Available args e) ∨ ∃ v, v.truthy ∧ r = .returned v := by
  have htoken : ∀ reply : Except PyException String,
      ¬Available args ⟨.getToken, reply⟩ := fun reply h => by cases h
  cases h with
  | authenticating => exact .inl (by simp)
  | tokenFailed ex =>
    refine .inl fun e he => ?_
    rw [List.mem_singleton.1 he]
    exact htoken _
  | requesting token =>
    refine .inl fun e he => ?_
    rw [List.mem_singleton.1 he]
    exact htoken _
  | requestFailed token ex =>
    refine .inl fun e he => ?_
    obtain rfl | he := List.mem_cons.1 he
    · exact htoken _
    · rw [List.mem_singleton.1 he]
      intro h
      cases h
  | answered token response =>
    by_cases havailable : Available args ⟨_, .ok response⟩
    · cases havailable with
      | intro hv => exact .inr ⟨_, hv, rfl⟩
    · refine .inl fun e he => ?_
      obtain rfl | he := List.mem_cons.1 he
      · exact htoken _
      · rw [List.mem_singleton.1 he]
        exact havailable

/-- An attempt without data does not get past the availability check. -/
theorem attempt_unprepared {ex : PyException} (hdata : dataOf py lib args = .error ex)
    {log : List WireOperation.Answer} {r : Observed WireOperation PyException (Fetched Q)}
    (h : WireExec (attempt py client lib args) log r) :
    (∀ e ∈ log, ¬Available args e) ∧ (∀ result, r ≠ .returned result) ∨
      ∃ token e, log = [⟨.getToken, .ok token⟩, e] ∧ r = .halted (.raised ex) := by
  obtain ⟨x, hcheck, rfl⟩ | ⟨available, log₁, log₂, hcheck, hrest, rfl⟩ :=
    (same_bind_assoc _ _ _ log r).1 h
  · refine .inl ⟨?_, fun result hr => by cases hr⟩
    obtain hnone | ⟨v, -, hr⟩ := session_available ((session_exec_iff _ _ _ _).1 hcheck)
    · exact hnone
    · cases hr
  · have hanswer := session_available ((session_exec_iff _ _ _ _).1 hcheck)
    obtain ⟨token, response, -, rfl⟩ := session_returned.1 hcheck
    beta_reduce at hrest
    split at hrest
    next hv =>
      rw [handle_lift] at hrest
      obtain ⟨rfl, rfl⟩ := (same_throw_bind _ _ _ _).1 hrest
      rw [List.append_nil]
      refine .inl ⟨?_, fun result hr => by cases hr⟩
      obtain hnone | ⟨v, hv', hr⟩ := hanswer
      · exact hnone
      · cases hr
        simp [hv'] at hv
    next hv =>
      refine .inr ⟨token, ⟨_, .ok response⟩, ?_⟩
      have hserve : Same WireOperation.event (serve py client lib (.runPrimitive args.programType
          args.primitiveBlocs args.resourceName (args.options.getD []))) (.throw ex) := by
        rw [dataOf] at hdata
        rw [serve, hdata]
        exact same_throw_bind ex _
      obtain ⟨rfl, rfl⟩ := ((hserve.throw_bind _).throw_bind _ _ _).1 hrest
      exact ⟨rfl, rfl⟩

theorem posts_unprepared {ex : PyException} (hdata : dataOf py lib args = .error ex)
    {log : List WireOperation.Answer} {r : Observed WireOperation PyException (Fetched Q)}
    (h : WireExec (attempt py client lib args) log r) : posts log = [] := by
  have hposts := (attempt_log h).posts
  rw [hdata] at hposts
  exact List.prefix_nil.1 hposts

theorem posts_append (log log' : List WireOperation.Answer) :
    posts (log ++ log') = posts log ++ posts log' := by
  rw [posts, List.map_append, List.filter_append, posts, posts]

/-- Without data nothing is posted and nothing is returned, and the run ends with the failure to
prepare it right after the resource is reported available. -/
theorem task_unprepared (py : Builtins) (client : IBMQuantumPlatformClient) (lib : ThirdParty Q)
    (args : RunPrimitiveArgs Q) (maxRetry : ℕ) (ex : PyException)
    (hdata : dataOf py lib args = .error ex) (log : List WireOperation.Answer)
    (r : Observed WireOperation PyException (Fetched Q))
    (h : WireExec (task py client lib args maxRetry) log r) :
    posts log = [] ∧ (∀ result, r ≠ .returned result) ∧
      ∀ pre e post, log = pre ++ e :: post → Available args e →
        post = [] ∧ r = .halted (.raised ex) := by
  have hretried := task_exec.1 h
  clear h
  induction hretried with
  | @last budget log r hlast hr =>
    refine ⟨posts_unprepared hdata hlast, ?_, ?_⟩
    · obtain ⟨-, hreturned⟩ | ⟨token, e, -, rfl⟩ := attempt_unprepared hdata hlast
      · exact hreturned
      · intro result hresult
        cases hresult
    · intro pre e post hlog he
      obtain ⟨hnone, -⟩ | ⟨token, e', hlog', rfl⟩ := attempt_unprepared hdata hlast
      · exact absurd he (hnone e (by simp [hlog]))
      · rw [hlog'] at hlog
        cases pre with
        | nil =>
          obtain ⟨rfl, -⟩ := List.cons.inj hlog
          cases he
        | cons a pre =>
          cases pre with
          | nil => exact ⟨(List.cons.inj (List.cons.inj hlog).2).2.symm, rfl⟩
          | cons b pre => simp at hlog
  | @again budget log log' ex' r hfailed hretry hrest ih =>
    obtain ⟨hnone, -⟩ | ⟨token, e', -, hr⟩ := attempt_unprepared hdata hfailed
    · obtain ⟨hposts, hreturned, hend⟩ := ih
      refine ⟨by rw [posts_append, posts_unprepared hdata hfailed, hposts]; rfl, hreturned, ?_⟩
      intro pre e post hlog he
      obtain hmem | ⟨pre', hlog'⟩ := mem_or_suffix hlog
      · exact absurd he (hnone e hmem)
      · exact hend pre' e post hlog' he
    · cases hr
      exact absurd ((retryOnFailure_iff ex).1 hretry) (lasting_submissionData _ _ _ _ ex hdata)

section Sample

/-- Sampler blocs for the estimator. -/
def mismatchedArgs : RunPrimitiveArgs plainQiskit :=
  { sampleArgs with programType := .estimator }

def observablesError : PyException :=
  .builtin ⟨.attributeError, "'SamplerPub' object has no attribute 'observables'"⟩

def availableLog : List WireOperation.Answer :=
  exchanged "token" (.getJson statusPath) (.ok [("state", .bool true)])

theorem task_unprepared_mismatched :
    posts availableLog = [] ∧
      (∀ result : Fetched plainQiskit,
        Observed.halted (Halt.raised observablesError : Halt WireOperation PyException) ≠
          .returned result) ∧
      ∀ pre e post, availableLog = pre ++ e :: post → Available mismatchedArgs e →
        post = [] ∧ (Observed.halted (.raised observablesError) :
          Observed WireOperation PyException (Fetched plainQiskit)) =
            .halted (.raised observablesError) :=
  task_unprepared .ascii sampleClient acceptingLib mismatchedArgs 3 observablesError rfl
    availableLog _ (task_exec.2 (.last (.inl ⟨_, .inr ⟨.bool true, _, [],
      session_returned.2 ⟨"token", _, rfl, rfl⟩, .inl ⟨_, .inl ⟨_, ⟨rfl, rfl⟩, rfl⟩, rfl⟩, rfl⟩,
        rfl⟩) fun ex h => by
          cases h
          exact .inr rfl))

end Sample

end PrefectQiskit.IBMQuantum
