import PrefectQiskit.AttemptProtocol
import PrefectQiskit.IbmClient

/-!
# Polling and resubmission of IBM jobs

A status response decides alone what happens next. `Pending`, `WorthRetrying` and `GivenUp`
name the three kinds of response that do not complete a job, and each run of a task follows
them, however the remaining calls are answered.
-/

namespace PrefectQiskit.IBMQuantum

/-- The status that a response reports, upper-cased. -/
def reported (py : Builtins) (ret : PyDict) : Option String :=
  match ret.get? "status" with
  | some (.str s) => some (py.upper s)
  | _ => none

def reasonCode (ret : PyDict) : PyValue :=
  match ret.get? "state" with
  | some (.dict d) => (Dict.get? d "reason_code").getD .none
  | _ => .none

def Pending (py : Builtins) (ret : PyDict) : Prop :=
  reported py ret = some "QUEUED" ∨ reported py ret = some "RUNNING"

def WorthRetrying (py : Builtins) (ret : PyDict) : Prop :=
  reported py ret = some "CANCELLED - RAN TOO LONG" ∨
    (reported py ret = some "FAILED" ∧ (reasonCode ret).isNone = false ∧
      ∀ code ∈ avoidRetry, (reasonCode ret).eqInt code = false) ∨
    ∀ s ∈ ["QUEUED", "RUNNING", "COMPLETED", "CANCELLED", "FAILED"], reported py ret ≠ some s

def GivenUp (py : Builtins) (ret : PyDict) : Prop :=
  reported py ret = some "CANCELLED" ∨
    (reported py ret = some "FAILED" ∧ ((reasonCode ret).isNone ∨ (reasonCode ret).eqInt 9999))

/-- A status that is absent or a string, and a state that is absent or an object. -/
structure StatusResponse (ret : PyDict) : Prop where
  status : ∀ v, ret.get? "status" = some v → ∃ s, v = .str s
  state : ∀ v, ret.get? "state" = some v → ∃ d, v = .dict d

variable {py : Builtins} {ret : PyDict} {jobId : String}

theorem StatusResponse.upper_status (h : StatusResponse ret) :
    upper py ((ret.get? "status").getD (.str "unknown")) =
      .ok ((reported py ret).getD "UNKNOWN") := by
  rw [reported]
  cases hv : ret.get? "status" with
  | none => exact congrArg _ py.upper_unknown
  | some v =>
    obtain ⟨s, rfl⟩ := h.status v hv
    rfl

theorem StatusResponse.state_eq (h : StatusResponse ret) :
    ∃ d : PyDict, (ret.get? "state").getD (.dict []) = .dict d ∧
      reasonCode ret = (Dict.get? d "reason_code").getD .none := by
  rw [reasonCode]
  cases hv : ret.get? "state" with
  | none => exact ⟨[], rfl, rfl⟩
  | some v =>
    obtain ⟨d, rfl⟩ := h.state v hv
    exact ⟨d, rfl, rfl⟩

/-- The reply is an exception that carries the job and this retry flag. -/
def Raises (jobId : String) (retry : Bool) (reply : Except PyException PyValue) : Prop :=
  ∃ ex, reply = .error (.runtimeJobFailure ex) ∧ ex.jobId = some jobId ∧ ex.retry = retry

theorem raises_raiseFailure {args : RuntimeJobFailureArgs} (hj : args.jobId = some jobId) :
    Raises jobId args.retry (raiseFailure py args) :=
  ⟨_, rfl, by simp [hj], by simp⟩

/-- The reply to each upper-cased status. -/
theorem statusReply_cases (py : Builtins) (jobId : String) (d : PyDict) (status : String) :
    ((status = "QUEUED" ∨ status = "RUNNING" ∨ status = "COMPLETED") ∧
      statusReply py jobId (.dict d) status = .ok (.str status)) ∨
    (status = "CANCELLED - RAN TOO LONG" ∧
      Raises jobId true (statusReply py jobId (.dict d) status)) ∨
    (status = "CANCELLED" ∧ Raises jobId false (statusReply py jobId (.dict d) status)) ∨
    (status = "FAILED" ∧ Raises jobId
      (!((Dict.get? d "reason_code").getD .none).isNone &&
        !avoidRetry.any ((Dict.get? d "reason_code").getD .none).eqInt)
      (statusReply py jobId (.dict d) status)) ∨
    ((∀ s ∈ ["QUEUED", "RUNNING", "COMPLETED", "CANCELLED", "FAILED"], status ≠ s) ∧
      Raises jobId true (statusReply py jobId (.dict d) status)) := by
  obtain ⟨msg, hmsg⟩ := failureReason_dict py jobId d
  simp only [statusReply]
  split
  · exact Or.inl ⟨Or.inl rfl, rfl⟩
  · exact Or.inl ⟨Or.inr (Or.inl rfl), rfl⟩
  · exact Or.inl ⟨Or.inr (Or.inr rfl), rfl⟩
  · exact Or.inr (Or.inl ⟨rfl, raises_raiseFailure rfl⟩)
  · exact Or.inr (Or.inr (Or.inl ⟨rfl, raises_raiseFailure rfl⟩))
  · rw [hmsg]
    exact Or.inr (Or.inr (Or.inr (Or.inl ⟨rfl, raises_raiseFailure rfl⟩)))
  next hq hr hc _ hm hf =>
    refine Or.inr (Or.inr (Or.inr (Or.inr ⟨?_, raises_raiseFailure rfl⟩)))
    simpa using ⟨hq, hr, hc, hm, hf⟩

/-- Every response is of one kind, and the reply is the one of its kind. -/
theorem jobStatusOf_cases (jobId : String) (h : StatusResponse ret) :
    (Pending py ret ∧ ∃ s, jobStatusOf py jobId ret = .ok (.str s) ∧ s ≠ "COMPLETED") ∨
      (reported py ret = some "COMPLETED" ∧
        jobStatusOf py jobId ret = .ok (.str "COMPLETED")) ∨
      (WorthRetrying py ret ∧ Raises jobId true (jobStatusOf py jobId ret)) ∨
      (GivenUp py ret ∧ Raises jobId false (jobStatusOf py jobId ret)) := by
  obtain ⟨d, hd, hcode⟩ := h.state_eq
  have heq : jobStatusOf py jobId ret =
      statusReply py jobId (.dict d) ((reported py ret).getD "UNKNOWN") := by
    simp only [jobStatusOf, h.upper_status, hd, liftM_builtin_ok, ok_bind]
  rw [heq]
  have hsome : ∀ s, s ≠ "UNKNOWN" → (reported py ret).getD "UNKNOWN" = s →
      reported py ret = some s := by
    intro s hs hg
    cases hr : reported py ret with
    | none =>
      rw [hr] at hg
      exact absurd hg.symm hs
    | some s' =>
      rw [hr] at hg
      exact congrArg some hg
  rcases statusReply_cases py jobId d ((reported py ret).getD "UNKNOWN") with
    ⟨hs, hk⟩ | ⟨hs, hk⟩ | ⟨hs, hk⟩ | ⟨hs, hk⟩ | ⟨hs, hk⟩
  · rcases hs with hs | hs | hs
    · exact Or.inl ⟨Or.inl (hsome _ (by decide) hs), _, hk, by rw [hs]; decide⟩
    · exact Or.inl ⟨Or.inr (hsome _ (by decide) hs), _, hk, by rw [hs]; decide⟩
    · refine Or.inr (Or.inl ⟨hsome _ (by decide) hs, ?_⟩)
      rw [hk, hs]
  · exact Or.inr (Or.inr (Or.inl ⟨Or.inl (hsome _ (by decide) hs), hk⟩))
  · exact Or.inr (Or.inr (Or.inr ⟨Or.inl (hsome _ (by decide) hs), hk⟩))
  · have hf := hsome _ (by decide) hs
    rw [← hcode] at hk
    by_cases hg : (reasonCode ret).isNone ∨ (reasonCode ret).eqInt 9999
    · refine Or.inr (Or.inr (Or.inr ⟨Or.inr ⟨hf, hg⟩, ?_⟩))
      rcases hg with hn | hn <;> simpa [hn, avoidRetry] using hk
    · rw [not_or, Bool.not_eq_true, Bool.not_eq_true] at hg
      refine Or.inr (Or.inr (Or.inl ⟨Or.inr (Or.inl ⟨hf, hg.1, ?_⟩), ?_⟩))
      · simpa [avoidRetry] using hg.2
      · simpa [hg.1, hg.2, avoidRetry] using hk
  · refine Or.inr (Or.inr (Or.inl ⟨Or.inr (Or.inr ?_), hk⟩))
    intro s hs' hr
    refine hs s hs' ?_
    rw [hr]
    rfl

/-- The kinds exclude each other. -/
theorem GivenUp.exclusive (h : GivenUp py ret) :
    ¬Pending py ret ∧ reported py ret ≠ some "COMPLETED" ∧ ¬WorthRetrying py ret := by
  rw [Pending, WorthRetrying]
  rcases h with h | ⟨h, hc⟩
  · rw [h]
    refine ⟨by decide, by decide, ?_⟩
    intro h
    rcases h with hs | ⟨hs, _⟩ | hs
    · exact absurd hs (by decide)
    · exact absurd hs (by decide)
    · exact hs "CANCELLED" (by simp) rfl
  · rw [h]
    refine ⟨by decide, by decide, ?_⟩
    intro h
    rcases h with hs | ⟨_, hn, ha⟩ | hs
    · exact absurd hs (by decide)
    · rcases hc with hc | hc
      · rw [hn] at hc
        cases hc
      · rw [ha 9999 (by simp [avoidRetry])] at hc
        cases hc
    · exact hs "FAILED" (by simp) rfl

section Runs

open PrimitiveRunner Coroutine

variable {Q : Qiskit} {args : RunPrimitiveArgs Q} {maxRetry : ℕ}

/-- A poll whose request succeeded with this response. -/
abbrev statusPoll (py : Builtins) (client : IBMQuantumPlatformClient) (token jobId : String)
    (ret : PyDict) : Event Q :=
  .getJobStatus jobId (getJobStatus py client jobId ⟨.ok token, .ok ret⟩)

/-- Where a response takes the task. -/
theorem afterPoll_cases (args : RunPrimitiveArgs Q) (maxRetry n : ℕ) (jobId : String)
    (h : StatusResponse ret) :
    let s := (runnerTask py args maxRetry).resume ⟨n, .getJobStatus jobId⟩
      (jobStatusOf py jobId ret)
    (Pending py ret ∧ s = .suspended ⟨n, .sleep jobId⟩) ∨
      (reported py ret = some "COMPLETED" ∧ s = .suspended ⟨n, .getPrimitiveResult jobId⟩) ∨
      (WorthRetrying py ret ∧ n < maxRetry ∧ s = .suspended ⟨n + 1, .checkResourceAvailable⟩) ∨
      ((WorthRetrying py ret ∧ maxRetry ≤ n ∨ GivenUp py ret) ∧
        ∃ ex, s = .finished (.error ex)) := by
  intro s
  have hs : s = afterAttempt .checkResourceAvailable maxRetry
      (fun ex => retryOnFailure (.error ex : Outcome Q)) n
      (andThen (jobStatusOf py jobId ret) (waitForCompletion jobId)) := rfl
  rcases jobStatusOf_cases jobId h with ⟨hk, v, hr, hv⟩ | ⟨hk, hr⟩ | ⟨hk, ex, hr, _, hx⟩ |
    ⟨hk, ex, hr, _, hx⟩
  · refine Or.inl ⟨hk, ?_⟩
    rw [hs, hr]
    simp [andThen, waitForCompletion, PyValue.eqStr, hv, afterAttempt]
  · refine Or.inr (Or.inl ⟨hk, ?_⟩)
    rw [hs, hr]
    rfl
  · rw [hr] at hs
    by_cases hn : n < maxRetry
    · exact Or.inr (Or.inr (Or.inl ⟨hk, hn, hs.trans (if_pos ⟨hn, hx⟩)⟩))
    · exact Or.inr (Or.inr (Or.inr ⟨Or.inl ⟨hk, by omega⟩, _, hs.trans (if_neg (hn ·.1))⟩))
  · rw [hr] at hs
    refine Or.inr (Or.inr (Or.inr ⟨Or.inr hk, _, hs.trans (if_neg ?_)⟩))
    intro h
    obtain ⟨_, hretry⟩ := h
    have hx' : ex.retry = true := hretry
    rw [hx] at hx'
    cases hx'

/-- The awaits from which no poll is reached without a submission. -/
inductive AwayFromPolls : Await Q → Prop
  | checkResourceAvailable : AwayFromPolls .checkResourceAvailable
  | runPrimitive : AwayFromPolls .runPrimitive
  | getPrimitiveResult {jobId : String} : AwayFromPolls (.getPrimitiveResult jobId)
  | getJobMetrics {jobId : String} {result : Fetched Q} :
      AwayFromPolls (.getJobMetrics jobId result)
  | createTableArtifact {table : PyDict} {result : Fetched Q} :
      AwayFromPolls (.createTableArtifact table result)

theorem AwayFromPolls.step {p : Await Q} {reply : p.Reply} {q : RetryPoint (Await Q)} {n : ℕ}
    (h : AwayFromPolls p) (hs : isSubmission (p.event args reply) = false)
    (hq : afterAttempt .checkResourceAvailable maxRetry
      (fun ex => retryOnFailure (.error ex : Outcome Q)) n (resume py args p reply) =
        .suspended q) :
    AwayFromPolls q.point := by
  obtain ⟨m, q⟩ := q
  rcases afterAttempt_suspended hq with ⟨hr, _⟩ | ⟨_, _, _, _, hr⟩
  · have hn := next_of_resume hr
    cases h with
    | checkResourceAvailable =>
      cases hn
      exact .runPrimitive
    | runPrimitive => cases hs
    | getPrimitiveResult =>
      cases hn
      exact .getJobMetrics
    | getJobMetrics =>
      cases hn
      exact .createTableArtifact
    | createTableArtifact => cases hn
  · cases hr
    exact .checkResourceAvailable

theorem AwayFromPolls.run {p q : RetryPoint (Await Q)} {t : List (Event Q)}
    (h : AwayFromPolls p.point) (hr : (runnerTask py args maxRetry).Run (.suspended p) t
      (.suspended q)) (ht : ∀ e ∈ t, isSubmission e = false) : AwayFromPolls q.point := by
  revert ht
  refine hr.suspended_induction
    (P := fun q t => (∀ e ∈ t, isSubmission e = false) → AwayFromPolls q.point) ?_ ?_
  · intro _
    exact h
  · intro p t q reply ih hq ht
    have hp := ih fun e he => ht e (List.mem_append_left _ he)
    exact hp.step (ht _ (List.mem_append_right _ (List.mem_singleton.mpr rfl))) hq

/-- The attempt begins here. -/
def isStart : Await Q → Bool
  | .checkResourceAvailable => true
  | _ => false

/-- The first event of an attempt. -/
def isAvailabilityCheck (e : Event Q) : Bool := clientCall? e = some .checkResourceAvailable

theorem isAvailabilityCheck_event (p : Await Q) (reply : p.Reply) :
    isAvailabilityCheck (p.event args reply) = isStart p := by
  cases p <;> rfl

/-- The retries spent are the attempts that ended. -/
theorem countP_checks {p : RetryPoint (Await Q)} {t : List (Event Q)}
    (h : (runnerTask py args maxRetry).Run taskStart t (.suspended p)) :
    t.countP isAvailabilityCheck = p.retries + (if isStart p.point then 0 else 1) ∧
      p.retries ≤ maxRetry := by
  refine h.suspended_induction (P := fun p t => t.countP isAvailabilityCheck =
    p.retries + (if isStart p.point then 0 else 1) ∧ p.retries ≤ maxRetry) ?_ ?_
  · exact ⟨rfl, Nat.zero_le _⟩
  · intro p t q reply ih hq
    obtain ⟨n, p⟩ := p
    obtain ⟨m, q⟩ := q
    obtain ⟨hc, hn⟩ := ih
    have he : isAvailabilityCheck ((runnerTask py args maxRetry).event ⟨n, p⟩ reply) = isStart p :=
      isAvailabilityCheck_event p reply
    rw [List.countP_append, List.countP_singleton, he, hc]
    rcases afterAttempt_suspended hq with ⟨hr, hm⟩ | ⟨_, _, _, hlt, hm⟩
    · have hq' : isStart q = false := by
        cases next_of_resume hr <;> rfl
      simp only at hm hn ⊢
      rw [hq', hm]
      refine ⟨?_, hn⟩
      cases isStart p <;> simp
    · cases hm
      refine ⟨?_, hlt⟩
      cases isStart p <;> simp [isStart]

/-- How status responses decide the course of a run. -/
structure StatusPolicy (py : Builtins) (client : IBMQuantumPlatformClient) (maxRetry : ℕ)
    (t : List (Event Q)) (s : Status (RetryPoint (Await Q)) (Outcome Q)) : Prop where
  poll_again : ∀ pre token jobId ret mid jobId' reply post, StatusResponse ret →
    t = pre ++ statusPoll py client token jobId ret ::
      (mid ++ .getJobStatus jobId' reply :: post) →
    (∀ e ∈ mid, isSubmission e = false) → Pending py ret
  next_attempt : ∀ pre token jobId ret p, StatusResponse ret →
    t = pre ++ [statusPoll py client token jobId ret] → s = .suspended p →
    p.point = .checkResourceAvailable →
    WorthRetrying py ret ∧ pre.countP isAvailabilityCheck = p.retries ∧ p.retries ≤ maxRetry
  given_up : ∀ pre token jobId ret post, StatusResponse ret →
    t = pre ++ statusPoll py client token jobId ret :: post → GivenUp py ret →
    post = [] ∧ ∃ ex, s = .finished (.error ex)

/-- A poll in a run was asked for at its await. -/
theorem statusPoll_split {client : IBMQuantumPlatformClient} {pre post : List (Event Q)}
    {token : String} {s : Status (RetryPoint (Await Q)) (Outcome Q)}
    (h : (runnerTask py args maxRetry).Run taskStart
      (pre ++ statusPoll py client token jobId ret :: post) s) :
    ∃ n, (runnerTask py args maxRetry).Run taskStart pre (.suspended ⟨n, .getJobStatus jobId⟩) ∧
      (runnerTask py args maxRetry).Run
        ((runnerTask py args maxRetry).resume ⟨n, .getJobStatus jobId⟩
          (jobStatusOf py jobId ret)) post s := by
  obtain ⟨⟨n, p⟩, reply, hrun, he, hrest⟩ := h.split
  cases p with
  | getJobStatus jobId' =>
    cases he
    exact ⟨n, hrun, hrest⟩
  | _ => cases he

theorem runnerTask_statusPolicy (client : IBMQuantumPlatformClient) {t : List (Event Q)}
    {s : Status (RetryPoint (Await Q)) (Outcome Q)}
    (h : (runnerTask py args maxRetry).Run taskStart t s) :
    StatusPolicy py client maxRetry t s := by
  refine ⟨?_, ?_, ?_⟩
  · intro pre token jobId ret mid jobId' reply post hret ht hmid
    subst ht
    obtain ⟨n, _, hrest⟩ := statusPoll_split h
    obtain ⟨q, reply', hq, he, _⟩ := hrest.split
    have hnot : ¬AwayFromPolls q.point := by
      obtain ⟨m, q⟩ := q
      intro hq'
      cases hq' <;> cases he
    rcases afterPoll_cases args maxRetry n jobId hret with
      ⟨hk, _⟩ | ⟨_, hs⟩ | ⟨_, _, hs⟩ | ⟨_, ex, hs⟩
    · exact hk
    · rw [hs] at hq
      exact absurd (AwayFromPolls.getPrimitiveResult.run hq hmid) hnot
    · rw [hs] at hq
      exact absurd (AwayFromPolls.checkResourceAvailable.run hq hmid) hnot
    · rw [hs] at hq
      cases hq.of_finished.2
  · rintro pre token jobId ret ⟨m, p⟩ hret rfl rfl hp
    obtain ⟨hc, hm⟩ := countP_checks h
    obtain ⟨n, _, hrest⟩ := statusPoll_split h
    cases hp
    have hpre : (pre ++ [statusPoll py client token jobId ret]).countP isAvailabilityCheck =
        pre.countP isAvailabilityCheck := by
      rw [List.countP_append]
      rfl
    rcases afterPoll_cases args maxRetry n jobId hret with
      ⟨_, hs⟩ | ⟨_, hs⟩ | ⟨hk, _, _⟩ | ⟨_, ex, hs⟩
    · rcases hrest.eq_or_last with ⟨_, hs'⟩ | ⟨t₀, _, _, _, ht, _⟩
      · rw [hs] at hs'
        cases hs'
      · simp at ht
    · rcases hrest.eq_or_last with ⟨_, hs'⟩ | ⟨t₀, _, _, _, ht, _⟩
      · rw [hs] at hs'
        cases hs'
      · simp at ht
    · exact ⟨hk, hpre.symm.trans hc, hm⟩
    · rw [hs] at hrest
      cases hrest.of_finished.2
  · intro pre token jobId ret post hret ht hg
    subst ht
    obtain ⟨hp, hc, hw⟩ := hg.exclusive
    obtain ⟨n, _, hrest⟩ := statusPoll_split h
    rcases afterPoll_cases args maxRetry n jobId hret with
      ⟨hk, _⟩ | ⟨hk, _⟩ | ⟨hk, _⟩ | ⟨_, ex, hs⟩
    · exact absurd hk hp
    · exact absurd hk hc
    · exact absurd hk hw
    · rw [hs] at hrest
      exact ⟨hrest.of_finished.1, ex, hrest.of_finished.2⟩

/-- A task of the runtime block against the IBM client, whatever the client answers to the
other requests and wherever an attempt is cut. -/
theorem buildRunnerTask_statusPolicy (self : QuantumRuntime) (py : Builtins)
    (context : TaskRunContext) (primitiveBlocs : Pubs Q) (programType : ProgramType)
    (options : Option PyDict) (client : IBMQuantumPlatformClient) {t : List (Event Q)}
    {s : Status (RetryPoint (Await Q)) (Outcome Q)}
    (h : (self.buildRunnerTask py context primitiveBlocs programType options).Run taskStart t s) :
    StatusPolicy py client self.maxRetry t s :=
  runnerTask_statusPolicy client h

def sampleIbmClient : IBMQuantumPlatformClient := ⟨"https://quantum.cloud.ibm.com/api/v1/"⟩

/-- The status request of the job is answered by this response. -/
def respond (jobId : String) (ret : PyDict) : (p : Await plainQiskit) → p.Reply :=
  sampleClient jobId (getJobStatus .ascii sampleIbmClient jobId ⟨.ok "token", .ok ret⟩)
    (.ok sampleResult) (.error temporaryFailure)

/-- The first job is queued and then fails with code 1010. The second one is cancelled. -/
def cancelledScript : List ((p : RetryPoint (Await plainQiskit)) → p.point.Reply) :=
  answers 4 (respond "job-1" [("status", .str "Queued")]) ++
    answers 1 (respond "job-1" [("status", .str "Failed"),
      ("state", .dict [("reason_code", .int 1010)])]) ++
    answers 3 (respond "job-2" [("status", .str "Cancelled")])

theorem buildRunnerTask_statusPolicy_cancelled :
    (((sampleTask false 3).play cancelledScript taskStart).1.countP isSubmission = 2) ∧
      StatusPolicy .ascii sampleIbmClient 3 ((sampleTask false 3).play cancelledScript taskStart).1
        ((sampleTask false 3).play cancelledScript taskStart).2 :=
  ⟨rfl, buildRunnerTask_statusPolicy (sampleRuntime false 3) .ascii sampleContext samplePubs
    .sampler none sampleIbmClient (run_play (sampleTask false 3) cancelledScript taskStart)⟩

end Runs

end PrefectQiskit.IBMQuantum
