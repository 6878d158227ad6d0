import PrefectQiskit.AttemptProtocol

/-!
# Resubmission after a completed job

The retry loop restarts from the submission, whatever the failed attempt had reached. So a
job that completed is submitted again exactly when fetching its result or its metrics, or
storing the metrics table, fails in a way that the engine retries.
-/

namespace PrefectQiskit.PrimitiveRunner

open Coroutine

variable {Q : Qiskit} {py : Builtins} {args : RunPrimitiveArgs Q} {maxRetry : ℕ}

/-- No job is submitted after a poll reported a completed job. -/
def NoSubmissionAfterCompletion (t : List (Event Q)) : Prop :=
  ∀ pre jobId post, t = pre ++ completion jobId :: post → ∀ e ∈ post, isSubmission e = false

/-- The result of the first job is lost to a timeout of its download. -/
def lostResultScript : List ((p : RetryPoint (Await plainQiskit)) → p.point.Reply) :=
  answers 4 (sampleClient "job-1" (.ok (.str "COMPLETED")) (.error temporaryFailure)
      (.error temporaryFailure)) ++
    answers 4 (sampleClient "job-2" (.ok (.str "COMPLETED")) (.ok sampleResult)
      (.error temporaryFailure))

theorem not_noSubmissionAfterCompletion :
    ¬∀ t s, (sampleTask false 1).Run taskStart t s → NoSubmissionAfterCompletion t := by
  intro h
  have hrun := run_play (sampleTask false 1) lostResultScript taskStart
  have hno := h _ _ hrun (submitted _ (.bool true) "job-1") "job-1"
    (.getPrimitiveResult "job-1" (.error temporaryFailure) ::
      (submitted _ (.bool true) "job-2" ++
        [completion "job-2", .getPrimitiveResult "job-2" (.ok sampleResult)])) rfl
  have hs := hno (submission ((sampleRuntime false 1).configuredRunner sampleContext samplePubs
    .sampler none) (.ok (.str "job-2"))) (by simp [submitted])
  cases hs

/-- A step that follows completion failed in a way that the engine retries. -/
inductive PaidFailure (jobId : String) : Event Q → Prop
  | getPrimitiveResult {ex : PyException} (h : TemporaryFailure ex) :
      PaidFailure jobId (.getPrimitiveResult jobId (.error ex))
  | getJobMetrics {ex : PyException} (h : TemporaryFailure ex) :
      PaidFailure jobId (.getJobMetrics jobId (.error ex))
  | createTableArtifact {table : List PyValue × List PyValue} {description : String}
      {ex : PyException} (h : TemporaryFailure ex) :
      PaidFailure jobId (.createTableArtifact table description (.error ex))

/-- Completion was seen and no step after it has failed temporarily. -/
def Settled (jobId : String) (t : List (Event Q)) : Prop :=
  ∃ pre post, t = pre ++ completion jobId :: post ∧ ∀ e ∈ post, ¬PaidFailure jobId e

/-- The awaits between completion of the job and the end of its attempt. -/
inductive AfterCompletion (jobId : String) : Await Q → Prop
  | getPrimitiveResult : AfterCompletion jobId (.getPrimitiveResult jobId)
  | getJobMetrics {result : Fetched Q} : AfterCompletion jobId (.getJobMetrics jobId result)
  | createTableArtifact {table : PyDict} {result : Fetched Q} :
      AfterCompletion jobId (.createTableArtifact table result)

theorem settled_snoc {jobId : String} {t : List (Event Q)} {e : Event Q}
    (h : Settled jobId (t ++ [e])) :
    e = completion jobId ∨ (Settled jobId t ∧ ¬PaidFailure jobId e) := by
  obtain ⟨pre, post, ht, hpost⟩ := h
  rcases eq_of_append_singleton ht with ⟨_, _, he⟩ | ⟨post', rfl, ht'⟩
  · exact Or.inl he.symm
  · exact Or.inr ⟨⟨pre, post', ht', fun y hy => hpost y (by simp [hy])⟩, hpost e (by simp)⟩

/-- Between completion and a temporary failure the task stays in the same attempt. -/
theorem AfterCompletion.step {jobId : String} {p : Await Q} {reply : p.Reply}
    {q : RetryPoint (Await Q)} {n : ℕ} (h : AfterCompletion jobId p)
    (hf : ¬PaidFailure jobId (p.event args reply))
    (hq : afterAttempt .checkResourceAvailable maxRetry
      (fun ex => retryOnFailure (.error ex : Outcome Q)) n (resume py args p reply) =
        .suspended q) :
    AfterCompletion jobId q.point := by
  obtain ⟨m, q⟩ := q
  rcases afterAttempt_suspended hq with ⟨hs, _⟩ | ⟨ex, hs, hr, _, _⟩
  · have hn := next_of_resume hs
    cases h with
    | getPrimitiveResult =>
      cases hn
      exact .getJobMetrics
    | getJobMetrics =>
      cases hn
      exact .createTableArtifact
    | createTableArtifact => cases hn
  · -- a temporary failure after completion is a paid failure
    have hex := (retryOnFailure_iff ex).mp hr
    exfalso
    cases h with
    | getPrimitiveResult =>
      rcases andThen_cases hs with ⟨b, rfl, hb⟩ | ⟨ex', rfl, he⟩
      · rw [fetchResult] at hb
        split at hb <;> cases hb
      · cases he
        exact hf (.getPrimitiveResult hex)
    | getJobMetrics =>
      rcases andThen_cases hs with ⟨b, rfl, hb⟩ | ⟨ex', rfl, he⟩
      · rw [fetchMetrics] at hb
        split at hb
        · cases hb
        · cases hb
          cases hex
      · cases he
        exact hf (.getJobMetrics hex)
    | createTableArtifact =>
      rcases andThen_cases hs with ⟨b, rfl, hb⟩ | ⟨ex', rfl, he⟩
      · cases hb
      · cases he
        exact hf (.createTableArtifact hex)

/-- A poll that reports completion leads to fetching the result of the same job. -/
theorem afterCompletion_of_completion {jobId : String} {p : Await Q} {reply : p.Reply}
    {q : RetryPoint (Await Q)} {n : ℕ} (he : p.event args reply = completion jobId)
    (hq : afterAttempt .checkResourceAvailable maxRetry
      (fun ex => retryOnFailure (.error ex : Outcome Q)) n (resume py args p reply) =
        .suspended q) :
    AfterCompletion jobId q.point := by
  cases p with
  | getJobStatus jobId' =>
    cases he
    cases hq
    exact .getPrimitiveResult
  | _ => cases he

theorem afterCompletion_of_settled {p : RetryPoint (Await Q)} {t : List (Event Q)}
    {jobId : String} (h : (runnerTask py args maxRetry).Run taskStart t (.suspended p))
    (hs : Settled jobId t) : AfterCompletion jobId p.point := by
  revert jobId
  refine h.suspended_induction (P := fun p t => ∀ {jobId}, Settled jobId t →
    AfterCompletion jobId p.point) ?_ ?_
  · intro jobId h
    obtain ⟨pre, post, ht, _⟩ := h
    simp at ht
  · intro p t q reply ih hq jobId hs
    rcases settled_snoc hs with he | ⟨ht, hf⟩
    · exact afterCompletion_of_completion he hq
    · exact (ih ht).step hf hq

/-- A task call submits another job after it saw a job completed only when, in between,
fetching the result or the metrics of that job or storing the table failed temporarily. -/
theorem resubmission_after_completion (self : QuantumRuntime) (context : TaskRunContext)
    (primitiveBlocs : Pubs Q) (programType : ProgramType) (options : Option PyDict)
    {t : List (Event Q)} {s : Status (RetryPoint (Await Q)) (Outcome Q)}
    (h : (self.buildRunnerTask py context primitiveBlocs programType options).Run taskStart t s)
    (pre mid post : List (Event Q)) (jobId : String) (e : Event Q)
    (ht : t = pre ++ completion jobId :: (mid ++ e :: post)) (he : isSubmission e) :
    ∃ x ∈ mid, PaidFailure jobId x := by
  by_contra hno
  have hs : Settled jobId (pre ++ completion jobId :: mid) :=
    ⟨pre, mid, rfl, fun x hx hp => hno ⟨x, hx, hp⟩⟩
  have ht' : t = (pre ++ completion jobId :: mid) ++ e :: post := by simpa using ht
  rw [ht'] at h
  obtain ⟨p, reply, hrun, rfl, _⟩ := h.split
  obtain ⟨n, q⟩ := p
  cases afterCompletion_of_settled hrun hs <;> cases he

theorem resubmission_after_completion_lostResult :
    ∃ x ∈ [.getPrimitiveResult "job-1" (.error temporaryFailure),
      .checkResourceAvailable "aer_simulator" (.ok (.bool true))],
      PaidFailure (Q := plainQiskit) "job-1" x :=
  let args := (sampleRuntime false 1).configuredRunner sampleContext samplePubs .sampler none
  resubmission_after_completion (sampleRuntime false 1) sampleContext samplePubs .sampler none
    (run_play (sampleTask false 1) lostResultScript taskStart)
    (submitted args (.bool true) "job-1") _
    [completion "job-2", .getPrimitiveResult "job-2" (.ok sampleResult)] "job-1"
    (submission args (.ok (.str "job-2"))) rfl rfl

end PrefectQiskit.PrimitiveRunner
