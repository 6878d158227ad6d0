import PrefectQiskit.AerConcurrency
import PrefectQiskit.FairRuns
import Mathlib.Data.Set.Finite.Basic
import Mathlib.Logic.Equiv.List

/-!
# Calls that end

In a fair run no call and no executor waits for ever for a turn that it could take. An
executor ends after a bounded number of its own turns. A call ends exactly when the failure
of each of its jobs is contained; the others keep it polling for ever.
-/

namespace PrefectQiskit.QiskitAer

open World PrimitiveRunner Coroutine FairRuns

variable {Q : Qiskit} {py : Builtins} {lib : ThirdParty Q} {sim : Simulator Q} {c : Call Q}
  {w w' : World Q}

section Executor

/-- The turns that an executor still needs. -/
def ExecutorPoint.rank : ExecutorPoint Q → ℕ
  | .readRecord => 7
  | .run _ => 6
  | .nowRunning _ => 5
  | .setRunning _ => 4
  | .result _ => 3
  | .nowCompleted _ _ | .nowFailed _ _ => 2
  | .setFinal _ _ => 1

def executorRank : ExecutorStatus Q → ℕ
  | .suspended p => p.rank
  | .finished _ => 0

theorem executorRank_handle (jobStatus : PyDict) (ex : PyException) :
    executorRank (handle jobStatus ex : ExecutorStatus Q) ≤ 2 := by
  rw [handle]
  split
  next => exact le_refl 2
  next => exact one_le_two

theorem executorRank_pickleResult (jobStatus : PyDict) (result : PrimitiveResult Q) :
    executorRank (pickleResult lib jobStatus result) ≤ 2 := by
  rw [pickleResult]
  split
  next => exact le_refl 2
  next => exact executorRank_handle _ _

/-- Every turn of an executor brings it nearer to its end. -/
theorem executorRank_resume (jobId : String) (p : ExecutorPoint Q) (reply : p.Reply) :
    executorRank (executorResume lib jobId p reply) < p.rank := by
  cases p with
  | readRecord =>
    cases reply with
    | none => exact Nat.succ_pos 6
    | some jobStatus => exact Nat.lt_succ_self 6
  | run jobStatus =>
    cases reply with
    | error ex => exact Nat.succ_pos 5
    | ok _ => exact Nat.lt_succ_self 5
  | nowRunning jobStatus => exact Nat.lt_succ_self 4
  | setRunning jobStatus => exact Nat.lt_succ_self 3
  | result jobStatus =>
    cases reply with
    | error ex => exact Nat.lt_succ_of_le (executorRank_handle _ _)
    | ok result => exact Nat.lt_succ_of_le (executorRank_pickleResult _ _)
  | nowCompleted jobStatus data => exact Nat.lt_succ_self 1
  | nowFailed jobStatus msg => exact Nat.lt_succ_self 1
  | setFinal jobStatus pending =>
    cases pending with
    | none => exact Nat.one_pos
    | some ex => exact Nat.one_pos

end Executor

section Call

/-- The length of the way through one attempt. Polling and sleeping are one stage. -/
def awaitRank : Await Q → ℕ
  | .checkResourceAvailable => 6
  | .runPrimitive => 5
  | .getJobStatus _ | .sleep _ => 4
  | .getPrimitiveResult _ => 3
  | .getJobMetrics _ _ => 2
  | .createTableArtifact _ _ => 1

/-- The attempts that are left come before the stages of the current one. -/
def callRank (budget : ℕ) : Status (RetryPoint (Await Q)) (Outcome Q) → ℕ
  | .suspended p => (budget - p.retries) * 6 + awaitRank p.point
  | .finished _ => 0

/-- The job that an await watches. -/
def watched : Await Q → Option String
  | .getJobStatus jobId | .sleep jobId => some jobId
  | _ => none

theorem awaitRank_pos (p : Await Q) : 0 < awaitRank p := by
  cases p <;> exact Nat.succ_pos _

theorem callRank_pos (budget : ℕ) (p : RetryPoint (Await Q)) :
    0 < callRank budget (.suspended p) :=
  Nat.add_pos_right _ (awaitRank_pos p.point)

theorem watched_eq_some {p : Await Q} {jobId : String} (h : watched p = some jobId) :
    p = .getJobStatus jobId ∨ p = .sleep jobId := by
  cases p with
  | getJobStatus | sleep => simpa [watched] using h
  | _ => cases h

theorem awaitRank_of_watched {p : Await Q} {jobId : String} (h : watched p = some jobId) :
    awaitRank p = 4 := by
  rcases watched_eq_some h with rfl | rfl
  · rfl
  · rfl

theorem next_rank {args : RunPrimitiveArgs Q} {p q : Await Q} {reply : p.Reply}
    (h : Next args p reply q) :
    awaitRank q < awaitRank p ∨ ∃ jobId, watched p = some jobId ∧ watched q = some jobId := by
  cases h with
  | runPrimitive | getJobStatus | getPrimitiveResult | getJobMetrics | createTableArtifact =>
    exact Or.inl (Nat.lt_succ_self _)
  | sleep | pollAgain => exact Or.inr ⟨_, rfl, rfl⟩

/-- Only a job that is not completed goes on being watched after a poll. -/
theorem next_poll {args : RunPrimitiveArgs Q} {q : Await Q} {jobId jobId' : String}
    {reply : Except PyException PyValue} (h : Next args (.getJobStatus jobId) reply q)
    (hw : watched q = some jobId') : ∃ v, reply = .ok v ∧ v.eqStr "COMPLETED" = false := by
  cases h with
  | sleep hv => exact ⟨_, rfl, hv⟩
  | getPrimitiveResult => cases hw

/-- An answer brings a call nearer to its end, unless it goes on watching its job. -/
theorem callRank_resume (py : Builtins) (c : Call Q) (p : RetryPoint (Await Q))
    (reply : p.point.Reply) :
    callRank c.runtime.maxRetry ((c.task py).resume p reply) <
        callRank c.runtime.maxRetry (.suspended p) ∨
      ∃ q jobId, (c.task py).resume p reply = .suspended ⟨p.retries, q⟩ ∧
        Next c.args p.point reply q ∧ watched p.point = some jobId ∧
        watched q = some jobId := by
  cases hr : (c.task py).resume p reply with
  | finished o => exact Or.inl (callRank_pos _ p)
  | suspended q =>
    obtain ⟨n, q⟩ := q
    rcases afterAttempt_suspended hr with ⟨hs, hn⟩ | ⟨ex, hs, _, hlt, hq⟩
    · have hn : n = p.retries := hn
      subst hn
      rcases next_rank (next_of_resume hs) with hlt | ⟨jobId, hp, hq⟩
      · exact Or.inl (Nat.add_lt_add_left hlt _)
      · exact Or.inr ⟨q, jobId, rfl, next_of_resume hs, hp, hq⟩
    · cases hq
      apply Or.inl
      have hpos := awaitRank_pos p.point
      show (c.runtime.maxRetry - (p.retries + 1)) * 6 + 6 <
        (c.runtime.maxRetry - p.retries) * 6 + awaitRank p.point
      omega

end Call

variable {ι : Type} [DecidableEq ι] {calls : ι → Call Q} {s s' : System Q ι} {i : ι}
  {jobId : String}

/-- An answer leaves the jobs that there are alone. -/
theorem Serves.jobs {p : Await Q} {reply : p.Reply} {job : Job Q}
    (hs : Serves py lib c w p reply w') (hj : w.jobs jobId = some job) :
    w'.jobs jobId = some job := by
  cases hs with
  | submitted _ hfresh => exact (submit_jobs_of_ne (ne_of_fresh hj hfresh)).trans hj
  | _ => exact hj

namespace System

/-- Call `i` gets the answer that it waits for. -/
inductive CallTurn (py : Builtins) (lib : ThirdParty Q) (calls : ι → Call Q) (i : ι)
    (s : System Q ι) : System Q ι → Prop
  | answer {p : RetryPoint (Await Q)} {reply : p.point.Reply} {w : World Q}
      (hp : (s.calls i).status = .suspended p)
      (hs : Serves py lib (calls i) s.world p.point reply w) :
      CallTurn py lib calls i s (s.answer py calls i p reply w)

/-- The executor of a job makes a step. -/
inductive ExecutorTurn (lib : ThirdParty Q) (sim : Simulator Q) (jobId : String)
    (s : System Q ι) : System Q ι → Prop
  | advance {job : Job Q} {p : ExecutorPoint Q} (hj : s.world.jobs jobId = some job)
      (hp : job.executor = .suspended p) :
      ExecutorTurn lib sim jobId s { s with world := s.world.advance lib sim jobId job p }

theorem CallTurn.step (h : CallTurn py lib calls i s s') : Step py lib sim calls s s' := by
  cases h with
  | answer hp hs => exact .call hp hs

theorem ExecutorTurn.step (h : ExecutorTurn lib sim jobId s s') :
    Step py lib sim calls s s' := by
  cases h with
  | advance hj hp => exact .world (.advance hj hp)

/-- A system may also do nothing. -/
theorem step_idle (s : System Q ι) : Step py lib sim calls s s :=
  .world (.tick (le_refl s.world.clock))

/-- Only its own turn moves a call. -/
theorem Step.call_or_turn (h : Step py lib sim calls s s') (i : ι) :
    s'.calls i = s.calls i ∨ CallTurn py lib calls i s s' := by
  cases h with
  | world _ => exact Or.inl rfl
  | @call j p reply w hp hs =>
    by_cases hj : i = j
    · subst hj
      exact Or.inr (.answer hp hs)
    · exact Or.inl (Function.update_of_ne hj ..)

/-- Only its own turn moves an executor. -/
theorem Step.job_or_turn (h : Step py lib sim calls s s') {job : Job Q}
    (hj : s.world.jobs jobId = some job) :
    s'.world.jobs jobId = some job ∨ ExecutorTurn lib sim jobId s s' := by
  cases h with
  | call hp hs => exact Or.inl (hs.jobs hj)
  | world hw =>
    cases hw with
    | submit hfresh => exact Or.inl ((submit_jobs_of_ne (ne_of_fresh hj hfresh)).trans hj)
    | tick _ => exact Or.inl hj
    | @advance jobId' job' p hj' hp =>
      by_cases hjj : jobId = jobId'
      · subst hjj
        exact Or.inr (.advance hj' hp)
      · exact Or.inl ((advance_jobs_of_ne hjj).trans hj)

end System

section Enabled

/-- Only finitely many jobs have been submitted. -/
theorem World.Step.finite_jobs {label : Option String} (hs : World.Step lib sim w label w')
    (h : {jobId | w.jobs jobId ≠ none}.Finite) : {jobId | w'.jobs jobId ≠ none}.Finite := by
  cases hs with
  | tick _ => exact h
  | @submit jobId' hfresh primitive inputs =>
    apply (h.insert jobId').subset
    intro jobId hj
    by_cases hjj : jobId = jobId'
    · exact Or.inl hjj
    · exact Or.inr ((submit_jobs_of_ne hjj).symm.trans_ne hj)
  | @advance jobId' job p hj' hp =>
    apply (h.insert jobId').subset
    intro jobId hj
    by_cases hjj : jobId = jobId'
    · exact Or.inl hjj
    · exact Or.inr ((advance_jobs_of_ne hjj).symm.trans_ne hj)

theorem finite_jobs_of_steps (hs : Steps lib sim w w')
    (h : {jobId | w.jobs jobId ≠ none}.Finite) : {jobId | w'.jobs jobId ≠ none}.Finite := by
  induction hs with
  | refl => exact h
  | tail _ hs ih =>
    obtain ⟨label, hs⟩ := hs
    exact hs.finite_jobs ih

theorem System.Step.world_steps (h : System.Step py lib sim calls s s') :
    Steps lib sim s.world s'.world := by
  cases h with
  | call hp hs => exact hs.steps sim
  | world hw => exact .single ⟨_, hw⟩

/-- In a reachable system a new job can get an identifier. -/
theorem exists_fresh (h : System.Reachable py lib sim calls s) :
    ∃ jobId, s.world.jobs jobId = none := by
  obtain ⟨clock, hsteps⟩ := h
  have hfinite : {jobId | s.world.jobs jobId ≠ none}.Finite := by
    induction hsteps with
    | refl => simp [System.initial, World.empty]
    | tail _ hs ih => exact finite_jobs_of_steps hs.world_steps ih
  obtain ⟨jobId, hj⟩ := hfinite.exists_notMem
  exact ⟨jobId, by simpa using hj⟩

/-- The client has an answer to every await. -/
theorem exists_serves (py : Builtins) (lib : ThirdParty Q) (c : Call Q)
    (hfresh : ∃ jobId, w.jobs jobId = none) (p : Await Q) :
    ∃ reply w', Serves py lib c w p reply w' := by
  cases p with
  | checkResourceAvailable => exact ⟨_, _, .checkResourceAvailable⟩
  | runPrimitive =>
    obtain ⟨jobId, hfresh⟩ := hfresh
    cases hp : backendPrimitive py lib c.client c.programType c.runtime.resourceName
      (c.options.getD []) with
    | ok primitive => exact ⟨_, _, .submitted hp hfresh⟩
    | error ex => exact ⟨_, _, .rejected hp⟩
  | getJobStatus jobId => exact ⟨_, _, .getJobStatus⟩
  | sleep jobId => exact ⟨_, _, .sleep⟩
  | getPrimitiveResult jobId => exact ⟨_, _, .getPrimitiveResult⟩
  | getJobMetrics jobId result => exact ⟨_, _, .getJobMetrics⟩
  | createTableArtifact table result => exact ⟨_, _, .createTableArtifact (.ok ())⟩

/-- A call that has not ended can always take its turn. -/
theorem exists_callTurn (h : System.Reachable py lib sim calls s) {p : RetryPoint (Await Q)}
    (hp : (s.calls i).status = .suspended p) :
    ∃ s', System.CallTurn py lib calls i s s' := by
  obtain ⟨reply, w, hs⟩ := exists_serves py lib (calls i) (exists_fresh h) p.point
  exact ⟨_, .answer hp hs⟩

end Enabled

/-- A run in which nobody who can take a turn is left out for ever. -/
structure FairRun (py : Builtins) (lib : ThirdParty Q) (sim : Simulator Q)
    (calls : ι → Call Q) where
  clock : ℤ
  state : ℕ → System Q ι
  start : state 0 = System.initial clock
  step : ∀ n, System.Step py lib sim calls (state n) (state (n + 1))
  call_fair : ∀ i, WeakFair state (System.CallTurn py lib calls i)
  executor_fair : ∀ jobId, WeakFair state (System.ExecutorTurn lib sim jobId)

namespace FairRun

variable (r : FairRun py lib sim calls)

theorem reachable (n : ℕ) : System.Reachable py lib sim calls (r.state n) := by
  refine ⟨r.clock, ?_⟩
  induction n with
  | zero => rw [r.start]
  | succ n ih => exact ih.tail (r.step n)

theorem invariant (n : ℕ) : SystemInvariant py lib sim calls (r.state n) :=
  systemInvariant_of_reachable (r.reachable n)

end FairRun

/-- The executor of the job has ended. -/
def Ended (jobId : String) (s : System Q ι) : Prop :=
  ∃ job o, s.world.jobs jobId = some job ∧ job.executor = .finished o

/-- The executor of the job needs at most `n` turns. -/
def Remaining (jobId : String) (n : ℕ) (s : System Q ι) : Prop :=
  ∃ job, s.world.jobs jobId = some job ∧ executorRank job.executor = n

section Executors

theorem Ended.step (h : Ended jobId s) (hs : System.Step py lib sim calls s s') :
    Ended jobId s' := by
  obtain ⟨job, o, hj, hend⟩ := h
  rcases hs.job_or_turn hj with hj' | hturn
  · exact ⟨job, o, hj', hend⟩
  · cases hturn with
    | advance hj' hp =>
      rw [hj] at hj'
      cases hj'
      rw [hend] at hp
      cases hp

variable (r : FairRun py lib sim calls)

/-- A suspended executor gets its turn. -/
theorem suspended_leadsTo {job : Job Q} {p : ExecutorPoint Q}
    (hp : job.executor = .suspended p) :
    LeadsTo r.state (fun s => s.world.jobs jobId = some job)
      (fun s => ∃ n, n < p.rank ∧ Remaining jobId n s) := by
  have hturn : ∀ {s s' : System Q ι}, s.world.jobs jobId = some job →
      System.ExecutorTurn lib sim jobId s s' → ∃ n, n < p.rank ∧ Remaining jobId n s' := by
    intro s s' hj h
    cases h with
    | advance hj' hp' =>
      rw [hj] at hj'
      cases hj'
      rw [hp] at hp'
      cases hp'
      exact ⟨_, executorRank_resume jobId p _, _, advance_jobs_self, rfl⟩
  apply LeadsTo.of_fair (r.executor_fair jobId)
  · intro n hj
    rcases (r.step n).job_or_turn hj with hj' | h
    · exact Or.inl hj'
    · exact Or.inr (hturn hj h)
  · intro n hj
    exact ⟨_, .advance hj hp⟩
  · intro n hj h
    exact hturn hj h

/-- Every executor ends. -/
theorem remaining_leadsTo_ended (n : ℕ) :
    LeadsTo r.state (Remaining jobId n) (Ended jobId) := by
  apply LeadsTo.of_rank
  intro n m h
  obtain ⟨job, hj, hn⟩ := h
  cases hp : job.executor with
  | finished o => exact ⟨m, le_refl m, Or.inl ⟨job, o, hj, hp⟩⟩
  | suspended p =>
    rw [hp] at hn
    obtain ⟨k, hk, b, hlt, hb⟩ := suspended_leadsTo r hp m hj
    exact ⟨k, hk, Or.inr ⟨b, hlt.trans_eq hn, hb⟩⟩

end Executors

section Calls

/-- The call has `n` to do. -/
def ToDo (calls : ι → Call Q) (i : ι) (n : ℕ) (s : System Q ι) : Prop :=
  callRank (calls i).runtime.maxRetry (s.calls i).status = n

/-- The call has less than `n` to do. -/
def Lower (calls : ι → Call Q) (i : ι) (n : ℕ) (s : System Q ι) : Prop :=
  callRank (calls i).runtime.maxRetry (s.calls i).status < n

/-- The call watches the job after so many retries. -/
def Watches (i : ι) (n : ℕ) (jobId : String) (s : System Q ι) : Prop :=
  ∃ p, (s.calls i).status = .suspended ⟨n, p⟩ ∧ watched p = some jobId

@[simp] theorem answer_calls_self (p : RetryPoint (Await Q)) (reply : p.point.Reply)
    (w : World Q) : (s.answer py calls i p reply w).calls i =
      ⟨(s.calls i).transcript ++ [p.point.event (calls i).args reply],
        ((calls i).task py).resume p reply⟩ :=
  Function.update_self ..

theorem System.CallTurn.served {p : RetryPoint (Await Q)}
    (h : System.CallTurn py lib calls i s s') (hp : (s.calls i).status = .suspended p) :
    ∃ reply w, Serves py lib (calls i) s.world p.point reply w ∧
      s' = s.answer py calls i p reply w := by
  cases h with
  | answer hp' hs =>
    rw [hp] at hp'
    cases hp'
    exact ⟨_, _, hs, rfl⟩

/-- An await that watches no job is got over by one turn. -/
theorem System.CallTurn.lower {p : RetryPoint (Await Q)}
    (h : System.CallTurn py lib calls i s s') (hp : (s.calls i).status = .suspended p)
    (hw : watched p.point = none) :
    Lower calls i (callRank (calls i).runtime.maxRetry (.suspended p)) s' := by
  obtain ⟨reply, w, _, rfl⟩ := h.served hp
  rw [Lower, answer_calls_self]
  rcases callRank_resume py (calls i) p reply with hlt | ⟨q, jobId, _, _, hp, _⟩
  · exact hlt
  · rw [hw] at hp
    cases hp

theorem System.CallTurn.watches {n : ℕ} (h : System.CallTurn py lib calls i s s')
    (hw : Watches i n jobId s) :
    Watches i n jobId s' ∨ Lower calls i (((calls i).runtime.maxRetry - n) * 6 + 4) s' := by
  obtain ⟨p, hp, hw⟩ := hw
  obtain ⟨reply, w, _, rfl⟩ := h.served hp
  rcases callRank_resume py (calls i) ⟨n, p⟩ reply with hlt | ⟨q, j, hr, _, hj, hq⟩
  · apply Or.inr
    rw [Lower, answer_calls_self]
    rw [callRank, awaitRank_of_watched hw] at hlt
    exact hlt
  · rw [hw] at hj
    cases hj
    exact Or.inl ⟨q, by rw [answer_calls_self]; exact hr, hq⟩

variable (r : FairRun py lib sim calls)

theorem unwatched_leadsTo {p : RetryPoint (Await Q)} (hw : watched p.point = none) :
    LeadsTo r.state (fun s => (s.calls i).status = .suspended p)
      (Lower calls i (callRank (calls i).runtime.maxRetry (.suspended p))) := by
  apply LeadsTo.of_fair (r.call_fair i)
  · intro n hp
    rcases (r.step n).call_or_turn i with he | h
    · exact Or.inl ((congrArg CallState.status he).trans hp)
    · exact Or.inr (h.lower hp hw)
  · intro n hp
    exact exists_callTurn (r.reachable n) hp
  · intro n hp h
    exact h.lower hp hw

theorem watches_unless (i : ι) (n : ℕ) (jobId : String) : Unless r.state (Watches i n jobId)
    (Lower calls i (((calls i).runtime.maxRetry - n) * 6 + 4)) := by
  intro m h
  rcases (r.step m).call_or_turn i with he | hturn
  · rw [Watches] at h ⊢
    rw [he]
    exact Or.inl h
  · exact hturn.watches h

omit [DecidableEq ι] in
/-- A watched job is one of the call. -/
theorem SystemInvariant.watched {n : ℕ} (h : SystemInvariant py lib sim calls s)
    (hw : Watches i n jobId s) : (calls i).submitted jobId ∈ (s.calls i).transcript := by
  obtain ⟨p, hp, hw⟩ := hw
  have hcall := h.call i
  rw [hp] at hcall
  rcases watched_eq_some hw with rfl | rfl
  · cases hcall with
    | polling hwatching => exact hwatching.mem
  · cases hcall with
    | sleeping hwatching => exact hwatching.mem

/-- The report on a job whose executor has ended and whose failure, if any, was contained. -/
theorem Tracks.ended_report {lives : Lives} (ht : Tracks lib sim w lives) {job : Job Q}
    {o : Except PyException Unit} (hj : w.jobs jobId = some job)
    (hend : job.executor = .finished o)
    (hc : Contained lib (sim jobId job.primitive job.inputs)) (v : PyValue)
    (hv : getJobStatus py jobId (w.entry jobId) = .ok v) : v = .str "COMPLETED" := by
  obtain ⟨phase, hphase, _, hstage⟩ := ht.stage jobId job hj
  rw [hend] at hstage
  have hterm : Terminal phase.record := by
    rcases hstage.ended with ⟨hterm, _⟩ | ⟨_, hnot⟩
    · exact hterm
    · exact absurd hc hnot
  have hpolling : ¬KeepsPolling py w jobId := by
    rw [keepsPolling_iff py ht hphase, not_not]
    exact hterm
  rw [ht.entry, hphase, Option.map_some, getJobStatus_record] at hv
  rw [KeepsPolling, ht.entry, hphase, Option.map_some, getJobStatus_record] at hpolling
  cases phase with
  | queued _ => exact absurd ⟨"QUEUED", by simp, rfl⟩ hpolling
  | running _ _ => exact absurd ⟨"RUNNING", by simp, rfl⟩ hpolling
  | completed _ _ _ _ => exact (Except.ok.inj hv).symm
  | failed _ _ _ _ => cases hv

/-- A watched job ends, or the call goes on without it. -/
theorem watches_leadsTo_ended (i : ι) (n : ℕ) (jobId : String) :
    LeadsTo r.state (Watches i n jobId) (fun s => (Ended jobId s ∧ Watches i n jobId s) ∨
      Lower calls i (((calls i).runtime.maxRetry - n) * 6 + 4) s) := by
  intro m hw
  obtain ⟨job, hj, _⟩ := (r.invariant m).owns i jobId ((r.invariant m).watched hw)
  exact (remaining_leadsTo_ended r (executorRank job.executor)).and_unless
    (watches_unless r i n jobId) m ⟨⟨job, hj, rfl⟩, hw⟩

/-- After a sleep the ended job is polled again. -/
theorem sleep_leadsTo (i : ι) (n : ℕ) (jobId : String) :
    LeadsTo r.state
      (fun s => Ended jobId s ∧ (s.calls i).status = .suspended ⟨n, .sleep jobId⟩)
      (fun s => Ended jobId s ∧ (s.calls i).status = .suspended ⟨n, .getJobStatus jobId⟩) := by
  have hturn : ∀ {s s' : System Q ι}, System.CallTurn py lib calls i s s' →
      (s.calls i).status = .suspended ⟨n, .sleep jobId⟩ →
      (s'.calls i).status = .suspended ⟨n, .getJobStatus jobId⟩ := by
    intro s s' h hp
    obtain ⟨reply, w, hs, rfl⟩ := h.served hp
    rw [answer_calls_self]
    cases hs with
    | sleep => rfl
  apply LeadsTo.of_fair (r.call_fair i)
  · intro m h
    have hend := h.1.step (r.step m)
    rcases (r.step m).call_or_turn i with he | h'
    · exact Or.inl ⟨hend, (congrArg CallState.status he).trans h.2⟩
    · exact Or.inr ⟨hend, hturn h' h.2⟩
  · intro m h
    exact exists_callTurn (r.reachable m) h.2
  · intro m h h'
    exact ⟨h.1.step (r.step m), hturn h' h.2⟩

/-- The poll of an ended job takes the call on. -/
theorem poll_leadsTo (i : ι) (n : ℕ) (jobId : String)
    (hc : Contained lib ((calls i).outcome sim jobId)) :
    LeadsTo r.state
      (fun s => Ended jobId s ∧ (s.calls i).status = .suspended ⟨n, .getJobStatus jobId⟩)
      (Lower calls i (((calls i).runtime.maxRetry - n) * 6 + 4)) := by
  have hturn : ∀ {s s' : System Q ι}, SystemInvariant py lib sim calls s → Ended jobId s →
      System.CallTurn py lib calls i s s' →
      (s.calls i).status = .suspended ⟨n, .getJobStatus jobId⟩ →
      Lower calls i (((calls i).runtime.maxRetry - n) * 6 + 4) s' := by
    intro s s' hinv hend h hp
    have hmem := hinv.watched ⟨_, hp, rfl⟩
    obtain ⟨reply, w, hs, rfl⟩ := h.served hp
    rw [Lower, answer_calls_self]
    rcases callRank_resume py (calls i) ⟨n, .getJobStatus jobId⟩ reply with
      hlt | ⟨q, j, _, hn, _, hq⟩
    · exact hlt
    · obtain ⟨v, hv, hne⟩ := next_poll hn hq
      obtain ⟨lives, ht⟩ := hinv.tracks
      obtain ⟨job, o, hj, hend⟩ := hend
      obtain ⟨job', hj', hprim, hin⟩ := hinv.owns i jobId hmem
      rw [hj] at hj'
      cases hj'
      rw [Call.outcome, ← hprim, ← hin] at hc
      cases hs with
      | getJobStatus =>
        rw [ht.ended_report hj hend hc v hv] at hne
        cases hne
  apply LeadsTo.of_fair (r.call_fair i)
  · intro m h
    have hend := h.1.step (r.step m)
    rcases (r.step m).call_or_turn i with he | h'
    · exact Or.inl ⟨hend, (congrArg CallState.status he).trans h.2⟩
    · exact Or.inr (hturn (r.invariant m) h.1 h' h.2)
  · intro m h
    exact exists_callTurn (r.reachable m) h.2
  · intro m h h'
    exact hturn (r.invariant m) h.1 h' h.2

/-- A call gets past a job whose failure is contained. -/
theorem watches_leadsTo (i : ι) (n : ℕ) (jobId : String)
    (hc : Contained lib ((calls i).outcome sim jobId)) :
    LeadsTo r.state (Watches i n jobId)
      (Lower calls i (((calls i).runtime.maxRetry - n) * 6 + 4)) := by
  have hpoll := poll_leadsTo r i n jobId hc
  have hended : LeadsTo r.state (fun s => Ended jobId s ∧ Watches i n jobId s)
      (Lower calls i (((calls i).runtime.maxRetry - n) * 6 + 4)) := by
    intro m h
    obtain ⟨hend, p, hp, hw⟩ := h
    rcases watched_eq_some hw with rfl | rfl
    · exact hpoll m ⟨hend, hp⟩
    · exact (sleep_leadsTo r i n jobId).trans hpoll m ⟨hend, hp⟩
  exact (watches_leadsTo_ended r i n jobId).trans (hended.or (.of_imp fun _ h => h))

/-- A call whose jobs have contained failures ends. -/
theorem leadsTo_finished (i : ι) (hc : ∀ n jobId,
    (calls i).submitted jobId ∈ ((r.state n).calls i).transcript →
      Contained lib ((calls i).outcome sim jobId)) (n : ℕ) :
    LeadsTo r.state (ToDo calls i n) (fun s => ∃ o, (s.calls i).status = .finished o) := by
  apply LeadsTo.of_rank
  intro n m hn
  rw [ToDo] at hn
  cases hp : ((r.state m).calls i).status with
  | finished o => exact ⟨m, le_refl m, Or.inl ⟨o, hp⟩⟩
  | suspended p =>
    rw [hp] at hn
    have hlower : ∃ k, m ≤ k ∧ Lower calls i n (r.state k) := by
      cases hw : watched p.point with
      | none =>
        rw [← hn]
        exact unwatched_leadsTo r hw m hp
      | some jobId =>
        have hwatches : Watches i p.retries jobId (r.state m) := ⟨p.point, hp, hw⟩
        have hmem := (r.invariant m).watched hwatches
        rw [callRank, awaitRank_of_watched hw] at hn
        rw [← hn]
        exact watches_leadsTo r i p.retries jobId (hc m jobId hmem) m hwatches
    obtain ⟨k, hk, hlt⟩ := hlower
    exact ⟨k, hk, Or.inr ⟨_, hlt, rfl⟩⟩

end Calls

section Ends

/-- A submitted job whose failure is not contained is being watched. -/
def Settled (lib : ThirdParty Q) (sim : Simulator Q) (c : Call Q) (s : CallState Q) : Prop :=
  ∀ jobId, c.submitted jobId ∈ s.transcript → Contained lib (c.outcome sim jobId) ∨
    ∃ p, s.status = .suspended p ∧ watched p.point = some jobId

/-- A record gets to its end only under a contained failure. -/
theorem Stage.contained {out : JobOutcome Q} {clock : ℤ} {st : ExecutorStatus Q} {phase : Phase}
    (h : Stage lib out clock st phase) (ht : Terminal phase.record) : Contained lib out := by
  have hfinished : ∃ o, st = .finished o := by
    cases h with
    | completed | failed => exact ⟨_, rfl⟩
    | _ => simp [Terminal, HasStatus, Phase.record, initialRecord] at ht
  obtain ⟨o, rfl⟩ := hfinished
  rcases h.ended with ⟨_, hc⟩ | ⟨hnot, _⟩
  · exact hc
  · exact absurd ht hnot

/-- A poll of an own job goes on watching it, unless the job has got to its end. -/
theorem Call.Owns.settled {lives : Lives} (h : c.Owns w jobId) (ht : Tracks lib sim w lives)
    (n : ℕ) :
    Contained lib (c.outcome sim jobId) ∨
      ∃ q, (c.task py).resume ⟨n, .getJobStatus jobId⟩
        (getJobStatus py jobId (w.entry jobId)) = .suspended q ∧
          watched q.point = some jobId := by
  obtain ⟨st, phase, clock, hstage, _, hreport⟩ := h.status ht py
  rw [hreport]
  cases phase with
  | queued _ | running _ _ => exact Or.inr ⟨⟨n, .sleep jobId⟩, rfl, rfl⟩
  | completed _ _ _ _ => exact Or.inl (hstage.contained (Or.inl rfl))
  | failed _ _ _ _ => exact Or.inl (hstage.contained (Or.inr rfl))

theorem Settled.answer {lives : Lives} {p : RetryPoint (Await Q)} {reply : p.point.Reply}
    {t : List (Event Q)} (h : Settled lib sim c ⟨t, .suspended p⟩)
    (ho : ∀ jobId, c.submitted jobId ∈ t → c.Owns w jobId) (ht : Tracks lib sim w lives)
    (hs : Serves py lib c w p.point reply w') :
    Settled lib sim c ⟨t ++ [p.point.event c.args reply], (c.task py).resume p reply⟩ := by
  obtain ⟨n, p⟩ := p
  intro jobId hj
  rcases List.mem_append.mp hj with hmem | hj
  · rcases h jobId hmem with hc | ⟨q, hq, hw⟩
    · exact Or.inl hc
    · cases hq
      rcases watched_eq_some hw with rfl | rfl
      · cases hs with
        | getJobStatus => exact (ho jobId hmem).settled ht n
      · cases hs with
        | sleep => exact Or.inr ⟨⟨n, .getJobStatus jobId⟩, rfl, rfl⟩
  · have he := List.mem_singleton.mp hj
    cases hs with
    | submitted hp hfresh =>
      cases he
      exact Or.inr ⟨⟨n, .getJobStatus jobId⟩, rfl, rfl⟩
    | _ => cases he

variable (r : FairRun py lib sim calls)

theorem FairRun.settled (i : ι) (n : ℕ) :
    Settled lib sim (calls i) ((r.state n).calls i) := by
  induction n with
  | zero =>
    rw [r.start]
    intro jobId hj
    cases hj
  | succ n ih =>
    rcases (r.step n).call_or_turn i with he | h
    · rw [he]
      exact ih
    · generalize r.state (n + 1) = s' at h ⊢
      cases h with
      | answer hp hs =>
        obtain ⟨lives, ht⟩ := (r.invariant n).tracks
        rw [answer_calls_self]
        apply Settled.answer _ ((r.invariant n).owns i) ht hs
        rw [← hp]
        exact ih

/-- What a call has done stays done. -/
theorem FairRun.transcript_mono (i : ι) {n m : ℕ} (h : n ≤ m) :
    ((r.state n).calls i).transcript ⊆ ((r.state m).calls i).transcript := by
  induction m, h using Nat.le_induction with
  | base => exact List.Subset.refl _
  | succ m _ ih =>
    rcases (r.step m).call_or_turn i with he | h
    · rw [he]
      exact ih
    · generalize r.state (m + 1) = s' at h ⊢
      cases h with
      | answer hp hs =>
        rw [answer_calls_self]
        exact List.subset_append_of_subset_left _ ih

/-- A call that has ended makes no step. -/
theorem FairRun.finished_stable (i : ι) {o : Outcome Q} {n m : ℕ}
    (hn : ((r.state n).calls i).status = .finished o) (h : n ≤ m) :
    ((r.state m).calls i).status = .finished o := by
  induction m, h using Nat.le_induction with
  | base => exact hn
  | succ m _ ih =>
    rcases (r.step m).call_or_turn i with he | h
    · rw [he]
      exact ih
    · generalize r.state (m + 1) = s' at h
      cases h with
      | answer hp hs =>
        rw [ih] at hp
        cases hp

/-- In every fair run a call ends if and only if the failures of all the jobs that it
submits are contained. -/
theorem finished_iff_contained (py : Builtins) (lib : ThirdParty Q) (sim : Simulator Q)
    (calls : ι → Call Q) (r : FairRun py lib sim calls) (i : ι) :
    (∃ n o, ((r.state n).calls i).status = .finished o) ↔
      ∀ n jobId, (calls i).submitted jobId ∈ ((r.state n).calls i).transcript →
        Contained lib ((calls i).outcome sim jobId) := by
  constructor
  · intro h n jobId hj
    obtain ⟨m, o, ho⟩ := h
    have hend := r.finished_stable i ho (le_max_right n m)
    have hmem := r.transcript_mono i (le_max_left n m) hj
    rcases r.settled i (max n m) jobId hmem with hc | ⟨p, hp, _⟩
    · exact hc
    · rw [hend] at hp
      cases hp
  · intro h
    obtain ⟨n, _, o, ho⟩ := leadsTo_finished r i h _ 0 rfl
    exact ⟨n, o, ho⟩

end Ends

section Existence

/-- The turns that a scheduler has to be fair to. -/
def System.Turn (py : Builtins) (lib : ThirdParty Q) (sim : Simulator Q) (calls : ι → Call Q) :
    ι ⊕ String → System Q ι → System Q ι → Prop
  | .inl i => CallTurn py lib calls i
  | .inr jobId => ExecutorTurn lib sim jobId

theorem countable_string : Countable String := by
  have hchar : Countable Char := Function.Injective.countable fun _ _ => Char.toNat_inj.mp
  exact Function.Injective.countable fun _ _ => String.toList_inj.mp

/-- Countably many calls have a fair run. -/
theorem exists_fairRun [Countable ι] (py : Builtins) (lib : ThirdParty Q) (sim : Simulator Q)
    (calls : ι → Call Q) (clock : ℤ) :
    ∃ r : FairRun py lib sim calls, r.clock = clock := by
  have hcountable := countable_string
  have hactions : ∀ k (s s' : System Q ι), System.Turn py lib sim calls k s s' →
      System.Step py lib sim calls s s' := by
    intro k s s' h
    cases k with
    | inl i => exact System.CallTurn.step h
    | inr jobId => exact System.ExecutorTurn.step h
  have hnonempty : Nonempty (ι ⊕ String) := ⟨.inr ""⟩
  obtain ⟨state, hstart, hstep, hfair⟩ :=
    exists_fair System.step_idle hactions (System.initial clock)
  exact ⟨⟨clock, state, hstart, hstep, fun i => hfair (.inl i), fun jobId => hfair (.inr jobId)⟩,
    rfl⟩

end Existence

end PrefectQiskit.QiskitAer
