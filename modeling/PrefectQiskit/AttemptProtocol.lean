import PrefectQiskit.AttemptTranscripts
import PrefectQiskit.QuantumRuntime

/-!
# The attempt-loop protocol

`AttemptProtocol` says which client calls one attempt makes, in which order and with which
job identifier. Every run of the runner task splits into attempts that obey it, at most one
more than the retry budget, and only temporary failures lead from one attempt to the next.
-/

namespace PrefectQiskit.PrimitiveRunner

open Coroutine

variable {Q : Qiskit}

/-- The calls of the client interface that the runner makes. -/
inductive ClientCall where
  | checkResourceAvailable | runPrimitive | getJobStatus | getPrimitiveResult | getJobMetrics
  deriving DecidableEq

def clientCall? : Event Q → Option ClientCall
  | .checkResourceAvailable _ _ => some .checkResourceAvailable
  | .runPrimitive _ _ _ _ _ => some .runPrimitive
  | .getJobStatus _ _ => some .getJobStatus
  | .sleep _ => none
  | .getPrimitiveResult _ _ => some .getPrimitiveResult
  | .getJobMetrics _ _ => some .getJobMetrics
  | .createTableArtifact _ _ _ => none

/-- The job a call is about. -/
def jobId? : Event Q → Option String
  | .getJobStatus jobId _ | .getPrimitiveResult jobId _ | .getJobMetrics jobId _ => some jobId
  | _ => none

def Succeeded : Event Q → Prop
  | .checkResourceAvailable _ reply | .runPrimitive _ _ _ _ reply | .getJobStatus _ reply =>
    reply.isOk
  | .sleep reply | .createTableArtifact _ _ reply => reply.isOk
  | .getPrimitiveResult _ reply => reply.isOk
  | .getJobMetrics _ reply => reply.isOk

def isSubmission (e : Event Q) : Bool := clientCall? e = some .runPrimitive

def metricsCall (enableAnalytics : Bool) : List ClientCall :=
  if enableAnalytics then [.getJobMetrics] else []

/-- A full attempt with `n + 1` status polls. -/
def protocolCalls (n : ℕ) (enableAnalytics : Bool) : List ClientCall :=
  [.checkResourceAvailable, .runPrimitive] ++ List.replicate (n + 1) .getJobStatus ++
    [.getPrimitiveResult] ++ metricsCall enableAnalytics

/-- The client calls of one attempt, finished or not. -/
structure AttemptProtocol (args : RunPrimitiveArgs Q) (t : List (Event Q)) : Prop where
  calls_prefix : ∃ n, t.filterMap clientCall? <+: protocolCalls n args.enableAnalytics
  after_success : ∀ pre e post, t = pre ++ e :: post → post ≠ [] → Succeeded e
  submission_available : ∀ pre e post, t = pre ++ e :: post → isSubmission e →
    ∃ v reply, v.truthy ∧ .checkResourceAvailable args.resourceName (.ok v) ∈ pre ∧
      e = submission args reply
  same_job : ∀ pre e post jobId, t = pre ++ e :: post → jobId? e = some jobId →
    ∀ e' ∈ pre, isSubmission e' → e' = submission args (.ok (.str jobId))
  job_submitted : ∀ pre e post jobId, t = pre ++ e :: post → jobId? e = some jobId →
    submission args (.ok (.str jobId)) ∈ pre
  result_completed : ∀ pre jobId reply post, t = pre ++ .getPrimitiveResult jobId reply :: post →
    completion jobId ∈ pre
  one_submission : t.countP isSubmission ≤ 1

variable {py : Builtins} {args : RunPrimitiveArgs Q}

@[simp] theorem filterMap_polls (jobId : String) (statuses : List PyValue) :
    (polls jobId statuses : List (Event Q)).filterMap clientCall? =
      List.replicate statuses.length .getJobStatus := by
  induction statuses with
  | nil => rfl
  | cons v statuses ih =>
    simp only [polls, List.flatMap_cons, List.filterMap_append, List.length_cons] at ih ⊢
    rw [ih, List.replicate_succ]
    rfl

@[simp] theorem filterMap_submitted (v : PyValue) (jobId : String) :
    (submitted args v jobId).filterMap clientCall? =
      [.checkResourceAvailable, .runPrimitive] := by
  rw [submitted]
  rfl

/-- A poll of the loop is neither a submission nor about another job. -/
theorem isSubmission_polls {jobId : String} {statuses : List PyValue} {e : Event Q}
    (h : e ∈ polls jobId statuses) : isSubmission e = false := by
  obtain ⟨v, _, rfl | rfl⟩ := mem_polls.mp h <;> rfl

@[simp] theorem filter_polls (jobId : String) (statuses : List PyValue) :
    (polls jobId statuses : List (Event Q)).filter isSubmission = [] :=
  List.filter_eq_nil_iff.mpr fun e he => by simp [isSubmission_polls he]

@[simp] theorem filter_submitted (v : PyValue) (jobId : String) :
    (submitted args v jobId).filter isSubmission = [submission args (.ok (.str jobId))] := by
  rw [submitted]
  rfl

/-- An await that names a job comes after exactly one submission, which returned that job. -/
theorem Progress.filter_submissions {p : Await Q} {t : List (Event Q)} {reply : p.Reply}
    {jobId : String} (h : Progress args p t) (hj : jobId? (p.event args reply) = some jobId) :
    t.filter isSubmission = [submission args (.ok (.str jobId))] := by
  cases h with
  | checkResourceAvailable | runPrimitive | sleep | createTableArtifact => cases hj
  | getJobStatus | getPrimitiveResult | getJobMetrics =>
    cases hj
    simp [List.filter_append, isSubmission, clientCall?]

theorem Progress.countP_submissions {p : Await Q} {t : List (Event Q)} (reply : p.Reply)
    (h : Progress args p t) :
    (t ++ [p.event args reply]).countP isSubmission ≤ 1 := by
  rw [List.countP_eq_length_filter]
  cases h <;>
    simp [List.filter_append, isSubmission, clientCall?, Await.event]

/-- The calls of an attempt extended by one more answer still begin a full attempt. -/
theorem Progress.calls_prefix {p : Await Q} {t : List (Event Q)} (reply : p.Reply)
    (h : Progress args p t) :
    ∃ n, (t ++ [p.event args reply]).filterMap clientCall? <+:
      protocolCalls n args.enableAnalytics := by
  cases h with
  | checkResourceAvailable =>
    exact ⟨0, [.runPrimitive, .getJobStatus, .getPrimitiveResult] ++ metricsCall _, rfl⟩
  | runPrimitive => exact ⟨0, [.getJobStatus, .getPrimitiveResult] ++ metricsCall _, rfl⟩
  | @getJobStatus _ _ statuses =>
    refine ⟨statuses.length, .getPrimitiveResult :: metricsCall args.enableAnalytics, ?_⟩
    simp [protocolCalls, Await.event, clientCall?, List.replicate_succ']
  | @sleep _ _ statuses =>
    refine ⟨statuses.length, .getPrimitiveResult :: metricsCall args.enableAnalytics, ?_⟩
    simp [protocolCalls, Await.event, clientCall?, List.replicate_succ']
  | @getPrimitiveResult _ _ statuses =>
    refine ⟨statuses.length, metricsCall args.enableAnalytics, ?_⟩
    simp [protocolCalls, Await.event, clientCall?, List.replicate_succ']
  | @getJobMetrics _ _ statuses _ _ _ ha =>
    refine ⟨statuses.length, [], ?_⟩
    simp [protocolCalls, Await.event, clientCall?, List.replicate_succ', ha, metricsCall]
  | @createTableArtifact _ _ statuses _ _ _ _ _ ha =>
    refine ⟨statuses.length, [], ?_⟩
    simp [protocolCalls, Await.event, clientCall?, List.replicate_succ', ha, metricsCall]

/-- An await answered by an exception ends the attempt. -/
theorem succeeded_of_resume {p q : Await Q} {reply : p.Reply}
    (h : resume py args p reply = .suspended q) : Succeeded (p.event args reply) := by
  cases next_of_resume h <;> rfl

/-- An unfinished attempt and a finished one alike are a described transcript, possibly with
one more answer. -/
theorem progress_or_last {t : List (Event Q)} {s : AttemptStatus Q}
    (h : (runPrimitive py args).Run (.suspended .checkResourceAvailable) t s) :
    t = [] ∨ ∃ (t₀ : List (Event Q)) (p : Await Q) (reply : p.Reply),
      Progress args p t₀ ∧ t = t₀ ++ [p.event args reply] ∧ s = resume py args p reply := by
  rcases h.eq_or_last with ⟨ht, _⟩ | ⟨t₀, p, reply, hr, ht, hs⟩
  · exact Or.inl ht
  · exact Or.inr ⟨t₀, p, reply, progress_of_run hr, ht, hs⟩

/-- Every run of an attempt obeys the protocol. -/
theorem attemptProtocol_of_run {t : List (Event Q)} {s : AttemptStatus Q}
    (h : (runPrimitive py args).Run (.suspended .checkResourceAvailable) t s) :
    AttemptProtocol args t := by
  refine ⟨?_, ?_, ?_, ?_, ?_, ?_, ?_⟩
  · rcases progress_or_last h with rfl | ⟨t₀, p, reply, hp, rfl, _⟩
    · exact ⟨0, List.nil_prefix⟩
    · exact hp.calls_prefix reply
  · intro pre e post ht hpost
    subst ht
    obtain ⟨p, reply, _, rfl, hrest⟩ := h.split
    cases hr : (runPrimitive py args).resume p reply with
    | suspended q => exact succeeded_of_resume hr
    | finished o =>
      rw [hr] at hrest
      exact absurd hrest.of_finished.1 hpost
  · intro pre e post ht hs
    subst ht
    obtain ⟨p, reply, hrun, rfl, _⟩ := h.split
    cases progress_of_run hrun with
    | runPrimitive hv => exact ⟨_, reply, hv, List.mem_singleton.mpr rfl, rfl⟩
    | checkResourceAvailable | getJobStatus | sleep | getPrimitiveResult | getJobMetrics
    | createTableArtifact => cases hs
  · intro pre e post jobId ht hj e' he' hs
    subst ht
    obtain ⟨p, reply, hrun, rfl, _⟩ := h.split
    have hf := (progress_of_run hrun).filter_submissions hj
    have hm : e' ∈ pre.filter isSubmission := List.mem_filter.mpr ⟨he', hs⟩
    rw [hf] at hm
    exact List.mem_singleton.mp hm
  · intro pre e post jobId ht hj
    subst ht
    obtain ⟨p, reply, hrun, rfl, _⟩ := h.split
    have hf := (progress_of_run hrun).filter_submissions hj
    have hm : submission args (.ok (.str jobId)) ∈ pre.filter isSubmission := by
      rw [hf]
      exact List.mem_singleton.mpr rfl
    exact List.mem_of_mem_filter hm
  · intro pre jobId reply post ht
    subst ht
    obtain ⟨p, reply', hrun, he, _⟩ := h.split
    cases progress_of_run hrun with
    | getPrimitiveResult =>
      cases he
      simp
    | checkResourceAvailable | runPrimitive | getJobStatus | sleep | getJobMetrics
    | createTableArtifact => cases he
  · rcases progress_or_last h with rfl | ⟨t₀, p, reply, hp, rfl, _⟩
    · simp
    · exact hp.countP_submissions reply

/-- A returned value was fetched for the job this attempt submitted and saw completed. -/
theorem returned_of_run {t : List (Event Q)} {result : Fetched Q}
    (h : (runPrimitive py args).Run (.suspended .checkResourceAvailable) t
      (.finished (.ok result))) :
    ∃ jobId, submission args (.ok (.str jobId)) ∈ t ∧ completion jobId ∈ t ∧
      .getPrimitiveResult jobId (.ok result) ∈ t := by
  obtain ⟨t₀, p, reply, hr, rfl, hs⟩ := h.finished_last
  have hp := progress_of_run hr
  rcases resume_returned hs with ⟨jobId, rfl, he⟩ | ⟨table, rfl⟩
  · cases hp
    refine ⟨jobId, by simp [submitted], by simp, ?_⟩
    exact List.mem_append_right _ (List.mem_singleton.mpr he.symm)
  · cases hp with
    | @createTableArtifact _ jobId =>
      exact ⟨jobId, by simp [submitted], by simp, by simp⟩

/-- A failure that the engine retries. -/
inductive TemporaryFailure : PyException → Prop
  | runtimeJobFailure {ex : RuntimeJobFailure} (h : ex.retry) :
      TemporaryFailure (.runtimeJobFailure ex)
  | taskRunTimeoutError : TemporaryFailure .taskRunTimeoutError

theorem retryOnFailure_iff {α : Type*} (ex : PyException) :
    retryOnFailure (.error ex : Except PyException α) = true ↔ TemporaryFailure ex := by
  constructor
  · intro h
    cases ex with
    | runtimeJobFailure ex => exact .runtimeJobFailure h
    | taskRunTimeoutError => exact .taskRunTimeoutError
    | builtin _ => cases h
    | foreign _ _ => cases h
  · intro h
    rcases h with h | _
    · exact h
    · rfl

/-- The attempt with this transcript ended with this exception. -/
def AttemptRaised (py : Builtins) (args : RunPrimitiveArgs Q) (t : List (Event Q))
    (ex : PyException) : Prop :=
  (runPrimitive py args).Run (.suspended .checkResourceAvailable) t (.finished (.error ex))

/-- A run of the task with retry budget `maxRetry`: its failed attempts in order, each with
the exception that ended it, and the last attempt, which may still be running. -/
structure AttemptLoop (py : Builtins) (args : RunPrimitiveArgs Q) (maxRetry : ℕ)
    (t : List (Event Q)) (s : Status (RetryPoint (Await Q)) (Outcome Q))
    (failed : List (List (Event Q) × PyException)) (last : List (Event Q)) : Prop where
  transcript_eq : t = (failed.map Prod.fst ++ [last]).flatten
  attempts_le : (failed.map Prod.fst ++ [last]).length ≤ maxRetry + 1
  submissions_le : t.countP isSubmission ≤ maxRetry + 1
  attempt_protocol : ∀ a ∈ failed.map Prod.fst ++ [last], AttemptProtocol args a
  failed_temporary : ∀ a ∈ failed, AttemptRaised py args a.1 a.2 ∧ TemporaryFailure a.2
  returned : ∀ result, s = .finished (.ok result) →
    ∃ jobId, submission args (.ok (.str jobId)) ∈ last ∧ completion jobId ∈ last ∧
      .getPrimitiveResult jobId (.ok result) ∈ last
  raised : ∀ ex, s = .finished (.error ex) → AttemptRaised py args last ex ∧
    (failed.length = maxRetry ∨ ¬TemporaryFailure ex)

/-- Attempts that each submit at most once submit at most as often as there are attempts. -/
theorem countP_flatten_le (attempts : List (List (Event Q)))
    (h : ∀ a ∈ attempts, a.countP isSubmission ≤ 1) :
    attempts.flatten.countP isSubmission ≤ attempts.length := by
  induction attempts with
  | nil => simp
  | cons a attempts ih =>
    have ha := h a List.mem_cons_self
    have ht := ih fun b hb => h b (List.mem_cons_of_mem _ hb)
    rw [List.flatten_cons, List.countP_append, List.length_cons]
    omega

/-- The attempt loop obeys its protocol in every run, whatever the client answers and
wherever the engine cuts an attempt. -/
theorem runnerTask_attemptLoop {maxRetry : ℕ} {t : List (Event Q)}
    {s : Status (RetryPoint (Await Q)) (Outcome Q)}
    (h : (runnerTask py args maxRetry).Run taskStart t s) :
    ∃ failed last, AttemptLoop py args maxRetry t s failed last := by
  obtain ⟨failed, last, st, hr⟩ := retrying_trace h
  have ht : t = (failed.map Prod.fst ++ [last]).flatten := by
    rw [hr.transcript_eq, List.flatten_append, List.flatten_singleton]
  have hlen : (failed.map Prod.fst ++ [last]).length ≤ maxRetry + 1 := by
    have hl := hr.failed_length
    simpa using hl
  have hprotocol : ∀ a ∈ failed.map Prod.fst ++ [last], AttemptProtocol args a := by
    intro a ha
    rcases List.mem_append.mp ha with ha | ha
    · obtain ⟨b, hb, rfl⟩ := List.mem_map.mp ha
      exact attemptProtocol_of_run (hr.failed_run b hb)
    · rw [List.mem_singleton.mp ha]
      exact attemptProtocol_of_run hr.current_run
  have hcount : t.countP isSubmission ≤ maxRetry + 1 := by
    rw [ht]
    exact (countP_flatten_le _ fun a ha => (hprotocol a ha).one_submission).trans hlen
  have hst : ∀ o, s = .finished o → st = .finished o := by
    intro o hs
    subst hs
    have he := hr.status_eq
    cases st with
    | suspended p => cases he
    | finished o' => exact congrArg _ (Status.finished.inj he).symm
  refine ⟨failed, last, ht, hlen, hcount, hprotocol, ?_, ?_, ?_⟩
  · intro a ha
    exact ⟨hr.failed_run a ha, (retryOnFailure_iff a.2).mp (hr.failed_retryable a ha)⟩
  · intro result hs
    have hrun := hr.current_run
    rw [hst _ hs] at hrun
    exact returned_of_run hrun
  · intro ex hs
    have hrun := hr.current_run
    rw [hst _ hs] at hrun
    refine ⟨hrun, ?_⟩
    rcases hr.given_up ex (hst _ hs) with hb | hn
    · exact Or.inl (le_antisymm hr.failed_length hb)
    · refine Or.inr fun ht => ?_
      rw [(retryOnFailure_iff ex).mpr ht] at hn
      cases hn

/-- The same for a task as the runtime block builds it: at most `max_retry + 1` attempts, each
a prefix of the protocol, joined by temporary failures only. -/
theorem buildRunnerTask_attemptLoop (self : QuantumRuntime) (py : Builtins)
    (context : TaskRunContext) (primitiveBlocs : Pubs Q) (programType : ProgramType)
    (options : Option PyDict) {t : List (Event Q)}
    {s : Status (RetryPoint (Await Q)) (Outcome Q)}
    (h : (self.buildRunnerTask py context primitiveBlocs programType options).Run taskStart t s) :
    ∃ failed last, AttemptLoop py
      (self.configuredRunner context primitiveBlocs programType options) self.maxRetry
      t s failed last :=
  runnerTask_attemptLoop h

section Sample

def sampleRuntime (enableJobAnalytics : Bool) (maxRetry : ℕ) : QuantumRuntime where
  resourceName := "aer_simulator"
  credentials := .aer ⟨2, ["rz", "sx", "x", "cz"], false, .linear⟩
  enableJobAnalytics := enableJobAnalytics
  maxRetry := maxRetry
  executionCache := false

def sampleContext : TaskRunContext := ⟨["b", "a"], "id", "run_primitive"⟩

def samplePubs : Pubs plainQiskit := .sampler [⟨⟨"bell", 3, 4, ()⟩, (), none, []⟩]

def sampleResult : Fetched plainQiskit := .primitiveResult ⟨[⟨(), []⟩], []⟩

def sampleTask (enableJobAnalytics : Bool) (maxRetry : ℕ) :
    Coroutine (RetryPoint (Await plainQiskit)) (Event plainQiskit) (Outcome plainQiskit) :=
  (sampleRuntime enableJobAnalytics maxRetry).buildRunnerTask .ascii sampleContext
    samplePubs .sampler none

/-- A client that is available, accepts the job as `jobId`, and answers the rest as given. -/
def sampleClient (jobId : String) (status : Except PyException PyValue)
    (result : Except PyException (Fetched plainQiskit)) (metrics : Except PyException JobMetrics) :
    (p : Await plainQiskit) → p.Reply
  | .checkResourceAvailable => .ok (.bool true)
  | .runPrimitive => .ok (.str jobId)
  | .getJobStatus _ => status
  | .sleep _ | .createTableArtifact _ _ => .ok ()
  | .getPrimitiveResult _ => result
  | .getJobMetrics _ _ => metrics

def temporaryFailure : PyException :=
  .runtimeJobFailure ⟨"Primitive Job failure; HTTP request timed out.", none, true, none⟩

def answers (n : ℕ) (client : (p : Await plainQiskit) → p.Reply) :
    List ((p : RetryPoint (Await plainQiskit)) → p.point.Reply) :=
  List.replicate n fun p : RetryPoint (Await plainQiskit) => client p.point

/-- The first job fails temporarily, the second one is queued for a while and completes. -/
def retryScript : List ((p : RetryPoint (Await plainQiskit)) → p.point.Reply) :=
  answers 3 (sampleClient "job-1" (.error temporaryFailure) (.ok sampleResult)
      (.error temporaryFailure)) ++
    answers 4 (sampleClient "job-2" (.ok (.str "QUEUED")) (.ok sampleResult)
      (.error temporaryFailure)) ++
    answers 2 (sampleClient "job-2" (.ok (.str "COMPLETED")) (.ok sampleResult)
      (.error temporaryFailure))

theorem buildRunnerTask_attemptLoop_retried :
    ((sampleTask false 1).play retryScript taskStart).2 = .finished (.ok sampleResult) ∧
      ∃ failed last, AttemptLoop .ascii
        ((sampleRuntime false 1).configuredRunner sampleContext samplePubs .sampler none) 1
        ((sampleTask false 1).play retryScript taskStart).1
        ((sampleTask false 1).play retryScript taskStart).2 failed last :=
  ⟨rfl, buildRunnerTask_attemptLoop (sampleRuntime false 1) .ascii sampleContext samplePubs
    .sampler none (run_play (sampleTask false 1) retryScript taskStart)⟩

end Sample

end PrefectQiskit.PrimitiveRunner
