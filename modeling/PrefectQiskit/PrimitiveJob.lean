import PrefectQiskit.AttemptTranscripts
import PrefectQiskit.Program
import PrefectQiskit.QuantumRuntime

/-!
# Primitive jobs

The methods of a primitive job and of its run as programs of their own, and `run_primitive` as
the program that composes them. The task of a runtime block implements it, tried again on
failures that may be retried. A job run watches its job until the first poll that reports
completion.
-/

namespace PrefectQiskit.PrimitiveRunner

open JobAnalytics Coroutine Program

variable {Q : Qiskit}

/-- What the methods await. The interval of a sleep is left out. -/
inductive Operation (Q : Qiskit) where
  | checkResourceAvailable (resourceName : String)
  | runPrimitive (programId : ProgramType) (inputs : Pubs Q) (resourceName : String)
      (options : PyDict)
  | getJobStatus (jobId : String)
  | sleep
  | getPrimitiveResult (jobId : String)
  | getJobMetrics (jobId : String)
  | createTableArtifact (table : List PyValue × List PyValue) (description : String)

namespace Operation

def Value : Operation Q → Type
  | .checkResourceAvailable _ | .runPrimitive _ _ _ _ | .getJobStatus _ => PyValue
  | .sleep | .createTableArtifact _ _ => Unit
  | .getPrimitiveResult _ => Fetched Q
  | .getJobMetrics _ => JobMetrics

def event : (op : Operation Q) → Except PyException op.Value → Event Q
  | .checkResourceAvailable resourceName, reply => .checkResourceAvailable resourceName reply
  | .runPrimitive programId inputs resourceName options, reply =>
    .runPrimitive programId inputs resourceName options reply
  | .getJobStatus jobId, reply => .getJobStatus jobId reply
  | .sleep, reply => .sleep reply
  | .getPrimitiveResult jobId, reply => .getPrimitiveResult jobId reply
  | .getJobMetrics jobId, reply => .getJobMetrics jobId reply
  | .createTableArtifact table description, reply => .createTableArtifact table description reply

end Operation

abbrev JobProgram (Q : Qiskit) := Program (Operation Q) Operation.Value PyException

/-- `await` of an operation. -/
abbrev await (op : Operation Q) : JobProgram Q op.Value := .call op

/-- A method can be called on a run that somebody else has triggered. -/
structure PrimitiveJobRun where
  jobId : String

namespace PrimitiveJobRun

/-- `PrimitiveJobRun(job_id=job_id, ...)` -/
def init : PyValue → Except PyException PrimitiveJobRun
  | .str jobId => .ok ⟨jobId⟩
  | _ => .error (.foreign "ValidationError" (some "job_id"))

variable (self : PrimitiveJobRun)

/-- The body of the watching loop: sleep and go on unless the job has completed. -/
def pollOnce : JobProgram Q Bool :=
  (await (.getJobStatus self.jobId)).bind fun (status : PyValue) =>
    if status.eqStr "COMPLETED" then .pure false
    else (await .sleep).bind fun _ => .pure true

def waitForCompletion : JobProgram Q Unit := .loop (pollOnce self)

def fetchResult : JobProgram Q (Fetched Q) := await (.getPrimitiveResult self.jobId)

def fetchMetrics : JobProgram Q JobMetrics := await (.getJobMetrics self.jobId)

end PrimitiveJobRun

structure PrimitiveJob (Q : Qiskit) where
  resourceName : String
  primitiveBlocs : Pubs Q
  options : Option PyDict
  programType : ProgramType

/-- The run is tracked by the identifier that the client returns. -/
def PrimitiveJob.trigger (py : Builtins) (self : PrimitiveJob Q) : JobProgram Q PrimitiveJobRun :=
  (await (.checkResourceAvailable self.resourceName)).bind fun (available : PyValue) =>
    if !available.truthy then
      lift (raiseFailure py
        { reason := s!"Resource {self.resourceName} is not currently available."
          jobId := none
          retry := true })
    else
      (await (.runPrimitive self.programType self.primitiveBlocs self.resourceName
        (self.options.getD []))).bind fun (jobId : PyValue) => lift (PrimitiveJobRun.init jobId)

def RunPrimitiveArgs.job (args : RunPrimitiveArgs Q) : PrimitiveJob Q where
  resourceName := args.resourceName
  primitiveBlocs := args.primitiveBlocs
  options := args.options
  programType := args.programType

/-- `run_primitive` from the metrics of a job on. -/
def storeAnalytics (py : Builtins) (args : RunPrimitiveArgs Q) (jobRun : PrimitiveJobRun)
    (result : Fetched Q) (metrics : JobMetrics) : JobProgram Q (Fetched Q) :=
  (lift ((makeAnalytics py args.resourceName args.programType jobRun.jobId
    (args.context.tags.mergeSort fun a b => decide (a ≤ b)) args.primitiveBlocs result metrics
    args.options).mapError .builtin)).bind fun table =>
      (await (.createTableArtifact (table.keys.map .str, table.values)
        s!"Metrics of primitive run {args.context.taskRunId} / {args.context.taskRunName}")).bind
          fun _ => .pure result

/-- `run_primitive` from a fetched result on. -/
def afterResult (py : Builtins) (args : RunPrimitiveArgs Q) (jobRun : PrimitiveJobRun)
    (result : Fetched Q) : JobProgram Q (Fetched Q) :=
  if args.enableAnalytics then
    (PrimitiveJobRun.fetchMetrics jobRun).bind (storeAnalytics py args jobRun result)
  else .pure result

/-- `run_primitive` from a triggered job on. -/
def afterTrigger (py : Builtins) (args : RunPrimitiveArgs Q) (jobRun : PrimitiveJobRun) :
    JobProgram Q (Fetched Q) :=
  (PrimitiveJobRun.waitForCompletion jobRun).bind fun _ =>
    (PrimitiveJobRun.fetchResult jobRun).bind (afterResult py args jobRun)

/-- The body of `run_primitive`. -/
def runPrimitiveBody (py : Builtins) (args : RunPrimitiveArgs Q) : JobProgram Q (Fetched Q) :=
  (args.job.trigger py).bind (afterTrigger py args)

/-! ## The coroutine of an attempt -/

namespace Await

/-- The operation an await stands for. -/
def operation (args : RunPrimitiveArgs Q) : Await Q → Operation Q
  | .checkResourceAvailable => .checkResourceAvailable args.resourceName
  | .runPrimitive => .runPrimitive args.programType args.primitiveBlocs args.resourceName
      (args.options.getD [])
  | .getJobStatus jobId => .getJobStatus jobId
  | .sleep _ => .sleep
  | .getPrimitiveResult jobId => .getPrimitiveResult jobId
  | .getJobMetrics jobId _ => .getJobMetrics jobId
  | .createTableArtifact table _ => .createTableArtifact (table.keys.map .str, table.values)
      s!"Metrics of primitive run {args.context.taskRunId} / {args.context.taskRunName}"

/-- What is left to do at an await. -/
def rest (py : Builtins) (args : RunPrimitiveArgs Q) : Await Q → JobProgram Q (Fetched Q)
  | .checkResourceAvailable => runPrimitiveBody py args
  | .runPrimitive =>
    (await (.runPrimitive args.programType args.primitiveBlocs args.resourceName
      (args.options.getD []))).bind fun (jobId : PyValue) =>
        (lift (PrimitiveJobRun.init jobId)).bind (afterTrigger py args)
  | .getJobStatus jobId => afterTrigger py args ⟨jobId⟩
  | .sleep jobId => (await .sleep).bind fun _ => afterTrigger py args ⟨jobId⟩
  | .getPrimitiveResult jobId =>
    (PrimitiveJobRun.fetchResult ⟨jobId⟩).bind (afterResult py args ⟨jobId⟩)
  | .getJobMetrics jobId result =>
    (PrimitiveJobRun.fetchMetrics ⟨jobId⟩).bind (storeAnalytics py args ⟨jobId⟩ result)
  | .createTableArtifact table result =>
    (await (.createTableArtifact (table.keys.map .str, table.values)
      s!"Metrics of primitive run {args.context.taskRunId} / {args.context.taskRunName}")).bind
        fun _ => .pure result

end Await

section Refinement

variable (py : Builtins) (args : RunPrimitiveArgs Q)

/-- Both pass an exception on and go on with a value. -/
theorem same_andThen {β : Type} {k : β → JobProgram Q (Fetched Q)} {next : β → AttemptStatus Q}
    (h : ∀ b, Same Operation.event (k b) (remaining (Await.rest py args) (next b)))
    (reply : Except PyException β) :
    Same Operation.event ((lift reply).bind k)
      (remaining (Await.rest py args) (andThen reply next)) := by
  cases reply with
  | ok b => exact (same_pure_bind b k).trans (h b)
  | error ex => exact same_throw_bind ex k

theorem same_trigger (available : PyValue) :
    Same Operation.event
      ((if !available.truthy then lift (raiseFailure py
          { reason := s!"Resource {args.job.resourceName} is not currently available."
            jobId := none
            retry := true })
        else (await (.runPrimitive args.job.programType args.job.primitiveBlocs
          args.job.resourceName (args.job.options.getD []))).bind
            fun (jobId : PyValue) => lift (PrimitiveJobRun.init jobId)).bind (afterTrigger py args))
      (remaining (Await.rest py args) (trigger py args available)) := by
  rw [trigger]
  split
  · exact same_throw_bind _ _
  · exact same_bind_assoc _ _ _

theorem same_primitiveJobRun (jobId : PyValue) :
    Same Operation.event ((lift (PrimitiveJobRun.init jobId)).bind (afterTrigger py args))
      (remaining (Await.rest py args) (primitiveJobRun jobId)) := by
  cases jobId with
  | str jobId => exact same_pure_bind _ _
  | _ => exact same_throw_bind _ _

/-- One round of the watching loop, and what follows it. -/
theorem same_watch (jobId : String) :
    Same Operation.event (afterTrigger py args ⟨jobId⟩)
      ((await (.getJobStatus jobId)).bind fun (status : PyValue) =>
        if status.eqStr "COMPLETED" then Await.rest py args (.getPrimitiveResult jobId)
        else Await.rest py args (.sleep jobId)) := by
  let next : Unit → JobProgram Q (Fetched Q) := fun _ =>
    (PrimitiveJobRun.fetchResult ⟨jobId⟩).bind (afterResult py args ⟨jobId⟩)
  let again : Bool → JobProgram Q Unit := fun again =>
    if again then PrimitiveJobRun.waitForCompletion ⟨jobId⟩ else .pure ()
  have hround : Same Operation.event (afterTrigger py args ⟨jobId⟩)
      (((PrimitiveJobRun.pollOnce ⟨jobId⟩).bind again).bind next) :=
    same_bind (same_loop _) fun u => .refl (next u)
  have hpoll : Same Operation.event (((PrimitiveJobRun.pollOnce ⟨jobId⟩).bind again).bind next)
      ((await (.getJobStatus jobId)).bind fun (status : PyValue) =>
        (if status.eqStr "COMPLETED" then .pure false
          else (await .sleep).bind fun _ => .pure true).bind fun b => (again b).bind next) :=
    (same_bind_assoc _ _ _).trans (same_bind_assoc _ _ _)
  refine hround.trans (hpoll.trans (same_bind (.refl _) fun (status : PyValue) => ?_))
  split
  · exact (same_pure_bind false fun b => (again b).bind next).trans (same_pure_bind () next)
  · refine (same_bind_assoc _ _ _).trans (same_bind (.refl _) fun u => ?_)
    exact same_pure_bind true fun b => (again b).bind next

theorem same_afterResult (jobId : String) (result : Fetched Q) :
    Same Operation.event (afterResult py args ⟨jobId⟩ result)
      (remaining (Await.rest py args) (fetchResult args jobId result)) := by
  rw [afterResult, fetchResult]
  split
  · exact .refl _
  · exact .refl _

theorem same_storeAnalytics (jobId : String) (result : Fetched Q) (metrics : JobMetrics) :
    Same Operation.event (storeAnalytics py args ⟨jobId⟩ result metrics)
      (remaining (Await.rest py args) (fetchMetrics py args jobId result metrics)) := by
  rw [storeAnalytics, fetchMetrics]
  cases makeAnalytics py args.resourceName args.programType jobId
      (args.context.tags.mergeSort fun a b => decide (a ≤ b)) args.primitiveBlocs result metrics
      args.options with
  | ok table => exact same_pure_bind _ _
  | error ex => exact same_throw_bind _ _

theorem exec_await (op : Operation Q) (next : op.Value → AttemptStatus Q)
    {p : JobProgram Q (Fetched Q)} {k : op.Value → JobProgram Q (Fetched Q)}
    (hp : Same Operation.event p ((await op).bind k))
    (hnext : ∀ v, Same Operation.event (k v) (remaining (Await.rest py args) (next v)))
    (t : List (Event Q)) (r : Observed (Operation Q) PyException (Fetched Q)) :
    Exec Operation.event p t r ↔ t = [] ∧ r = .halted (.waiting op) ∨
      ∃ reply t', t = op.event reply :: t' ∧
        Exec Operation.event (remaining (Await.rest py args) (andThen reply next)) t' r :=
  exec_iff_of_call op hp (same_andThen py args hnext) t r

/-- One case for each await. -/
theorem runPrimitive_implements :
    Implements Operation.event (Await.rest py args) (runPrimitive py args)
      (Await.operation args) := by
  intro p t r
  cases p with
  | checkResourceAvailable =>
    exact exec_await py args (Await.operation args .checkResourceAvailable) (trigger py args)
      (same_bind_assoc _ _ _) (same_trigger py args) t r
  | runPrimitive =>
    exact exec_await py args (Await.operation args .runPrimitive) primitiveJobRun (.refl _)
      (same_primitiveJobRun py args) t r
  | getJobStatus jobId =>
    refine exec_await py args (Await.operation args (.getJobStatus jobId))
      (waitForCompletion jobId) (same_watch py args jobId) (fun (status : PyValue) => ?_) t r
    rw [waitForCompletion]
    split
    · exact .refl _
    · exact .refl _
  | sleep jobId =>
    exact exec_await py args (Await.operation args (.sleep jobId))
      (fun _ => .suspended (.getJobStatus jobId)) (.refl _) (fun _ => .refl _) t r
  | getPrimitiveResult jobId =>
    exact exec_await py args (Await.operation args (.getPrimitiveResult jobId))
      (fetchResult args jobId) (.refl _) (same_afterResult py args jobId) t r
  | getJobMetrics jobId result =>
    exact exec_await py args (Await.operation args (.getJobMetrics jobId result))
      (fetchMetrics py args jobId result) (.refl _) (same_storeAnalytics py args jobId result) t r
  | createTableArtifact table result =>
    exact exec_await py args (Await.operation args (.createTableArtifact table result))
      (fun _ => .finished (.ok result)) (.refl _) (fun _ => .refl _) t r

/-- The body of the task of `build_runner_task`: `run_primitive`, rerun by the engine. -/
def runnerBody (maxRetry : ℕ) : JobProgram Q (Fetched Q) :=
  (runPrimitiveBody py args).retry (fun ex => retryOnFailure (.error ex : Outcome Q)) maxRetry

/-- The runs of the task are those of its body. -/
theorem runnerTask_exec_iff (maxRetry : ℕ) (t : List (Event Q))
    (r : Observed (Operation Q) PyException (Fetched Q)) :
    (∃ s, (runnerTask py args maxRetry).Run taskStart t s ∧
      observed (fun p => Await.operation args p.point) s = r) ↔
        Exec Operation.event (runnerBody py args maxRetry) t r := by
  have hretrying := (runPrimitive_implements py args).retrying .checkResourceAvailable maxRetry
    fun ex => retryOnFailure (.error ex : Outcome Q)
  have hrun := hretrying.run_iff taskStart t r
  rw [taskStart, remaining, retryRest_start] at hrun
  exact hrun

/-- A task of a runtime block does exactly what `run_primitive` does when it is composed of the
methods of the job and of its run, and tried again on failures that may be retried. -/
theorem buildRunnerTask_eq_methods (self : QuantumRuntime) (py : Builtins)
    (context : TaskRunContext) (primitiveBlocs : Pubs Q) (programType : ProgramType)
    (options : Option PyDict) (t : List (Event Q))
    (r : Observed (Operation Q) PyException (Fetched Q)) :
    (∃ s, (self.buildRunnerTask py context primitiveBlocs programType options).Run taskStart t s ∧
      observed (fun p => Await.operation
        (self.configuredRunner context primitiveBlocs programType options) p.point) s = r) ↔
      Exec Operation.event (runnerBody py
        (self.configuredRunner context primitiveBlocs programType options) self.maxRetry) t r :=
  runnerTask_exec_iff py _ self.maxRetry t r

end Refinement

/-! ## Watching a job -/

/-- How watching a job can stand, whoever answers the calls. -/
inductive Watched (jobId : String) :
    List (Event Q) → Observed (Operation Q) PyException Unit → Prop
  | polling {statuses : List PyValue} (hs : ∀ x ∈ statuses, x.eqStr "COMPLETED" = false) :
      Watched jobId (polls jobId statuses) (.halted (.waiting (.getJobStatus jobId)))
  | pollFailed {statuses : List PyValue} (hs : ∀ x ∈ statuses, x.eqStr "COMPLETED" = false)
      (ex : PyException) : Watched jobId
        (polls jobId statuses ++ [.getJobStatus jobId (.error ex)]) (.halted (.raised ex))
  | sleeping {statuses : List PyValue} (hs : ∀ x ∈ statuses, x.eqStr "COMPLETED" = false)
      {status : PyValue} (hx : status.eqStr "COMPLETED" = false) : Watched jobId
        (polls jobId statuses ++ [.getJobStatus jobId (.ok status)]) (.halted (.waiting .sleep))
  | sleepFailed {statuses : List PyValue} (hs : ∀ x ∈ statuses, x.eqStr "COMPLETED" = false)
      {status : PyValue} (hx : status.eqStr "COMPLETED" = false) (ex : PyException) :
      Watched jobId (polls jobId statuses ++
        [.getJobStatus jobId (.ok status), .sleep (.error ex)]) (.halted (.raised ex))
  | completed {statuses : List PyValue} (hs : ∀ x ∈ statuses, x.eqStr "COMPLETED" = false) :
      Watched jobId (polls jobId statuses ++ [completion jobId]) (.returned ())

section Watching

variable {jobId : String} {t : List (Event Q)} {r : Observed (Operation Q) PyException Unit}

theorem polls_cons (status : PyValue) (statuses : List PyValue) :
    (polls jobId (status :: statuses) : List (Event Q)) =
      [.getJobStatus jobId (.ok status), .sleep (.ok ())] ++ polls jobId statuses := rfl

/-- One more poll that did not report completion in front. -/
theorem Watched.cons {status : PyValue} (hx : status.eqStr "COMPLETED" = false)
    (h : Watched jobId t r) :
    Watched jobId ([.getJobStatus jobId (.ok status), .sleep (.ok ())] ++ t) r := by
  have hcons : ∀ {statuses : List PyValue}, (∀ x ∈ statuses, x.eqStr "COMPLETED" = false) →
      ∀ x ∈ status :: statuses, x.eqStr "COMPLETED" = false := by
    intro statuses hs x hmem
    obtain rfl | hmem := List.mem_cons.1 hmem
    · exact hx
    · exact hs x hmem
  cases h with
  | polling hs =>
    rw [← polls_cons]
    exact .polling (hcons hs)
  | pollFailed hs ex =>
    rw [← List.append_assoc, ← polls_cons]
    exact .pollFailed (hcons hs) ex
  | sleeping hs hx' =>
    rw [← List.append_assoc, ← polls_cons]
    exact .sleeping (hcons hs) hx'
  | sleepFailed hs hx' ex =>
    rw [← List.append_assoc, ← polls_cons]
    exact .sleepFailed (hcons hs) hx' ex
  | completed hs =>
    rw [← List.append_assoc, ← polls_cons]
    exact .completed (hcons hs)

/-- How one round of the loop can stand. -/
inductive Polled (jobId : String) :
    List (Event Q) → Observed (Operation Q) PyException Bool → Prop
  | polling : Polled jobId [] (.halted (.waiting (.getJobStatus jobId)))
  | pollFailed (ex : PyException) :
      Polled jobId [.getJobStatus jobId (.error ex)] (.halted (.raised ex))
  | completed : Polled jobId [completion jobId] (.returned false)
  | sleeping {status : PyValue} (hx : status.eqStr "COMPLETED" = false) :
      Polled jobId [.getJobStatus jobId (.ok status)] (.halted (.waiting .sleep))
  | sleepFailed {status : PyValue} (hx : status.eqStr "COMPLETED" = false) (ex : PyException) :
      Polled jobId [.getJobStatus jobId (.ok status), .sleep (.error ex)] (.halted (.raised ex))
  | slept {status : PyValue} (hx : status.eqStr "COMPLETED" = false) :
      Polled jobId [.getJobStatus jobId (.ok status), .sleep (.ok ())] (.returned true)

theorem pollOnce_exec {r : Observed (Operation Q) PyException Bool} :
    Exec Operation.event (PrimitiveJobRun.pollOnce ⟨jobId⟩) t r ↔ Polled jobId t r := by
  constructor
  · intro h
    obtain ⟨rfl, rfl⟩ | ⟨reply, t', rfl, hreply⟩ := (exec_call_bind _ _ _ _).1 h
    · exact .polling
    · cases reply with
      | error ex =>
        obtain ⟨rfl, rfl⟩ := (same_throw_bind ex _ _ _).1 hreply
        exact .pollFailed ex
      | ok status =>
        have hround := (same_pure_bind status _ _ _).1 hreply
        split at hround
        next hc =>
          obtain ⟨rfl, rfl⟩ := hround
          rw [PyValue.eqStr_iff.mp hc]
          exact .completed
        next hc =>
          have hx : PyValue.eqStr status "COMPLETED" = false := by simpa using hc
          obtain ⟨rfl, rfl⟩ | ⟨reply, t'', rfl, hsleep⟩ := (exec_call_bind _ _ _ _).1 hround
          · exact .sleeping hx
          · cases reply with
            | error ex =>
              obtain ⟨rfl, rfl⟩ := (same_throw_bind ex _ _ _).1 hsleep
              exact .sleepFailed hx ex
            | ok u =>
              obtain ⟨rfl, rfl⟩ := (same_pure_bind u _ _ _).1 hsleep
              exact .slept hx
  · intro h
    apply (exec_call_bind _ _ _ _).2
    cases h with
    | polling => exact .inl ⟨rfl, rfl⟩
    | pollFailed ex => exact .inr ⟨.error ex, [], rfl, (same_throw_bind ex _ _ _).2 ⟨rfl, rfl⟩⟩
    | completed =>
      refine .inr ⟨.ok (.str "COMPLETED"), [], rfl, (same_pure_bind _ _ _ _).2 ?_⟩
      rw [if_pos (PyValue.eqStr_iff.mpr rfl)]
      exact ⟨rfl, rfl⟩
    | @sleeping status hx =>
      refine .inr ⟨.ok status, [], rfl, (same_pure_bind _ _ _ _).2 ?_⟩
      rw [if_neg (by simpa using hx)]
      exact (exec_call_bind _ _ _ _).2 (.inl ⟨rfl, rfl⟩)
    | @sleepFailed status hx ex =>
      refine .inr ⟨.ok status, [.sleep (.error ex)], rfl, (same_pure_bind _ _ _ _).2 ?_⟩
      rw [if_neg (by simpa using hx)]
      exact (exec_call_bind _ _ _ _).2
        (.inr ⟨.error ex, [], rfl, (same_throw_bind ex _ _ _).2 ⟨rfl, rfl⟩⟩)
    | @slept status hx =>
      refine .inr ⟨.ok status, [.sleep (.ok ())], rfl, (same_pure_bind _ _ _ _).2 ?_⟩
      rw [if_neg (by simpa using hx)]
      exact (exec_call_bind _ _ _ _).2
        (.inr ⟨.ok (), [], rfl, (same_pure_bind _ _ _ _).2 ⟨rfl, rfl⟩⟩)

/-- Polls that did not report completion are rounds of the loop. -/
theorem rounds_polls {statuses : List PyValue} (hs : ∀ x ∈ statuses, x.eqStr "COMPLETED" = false)
    (h : Rounds (Exec Operation.event (PrimitiveJobRun.pollOnce ⟨jobId⟩)) t r) :
    Rounds (Exec Operation.event (PrimitiveJobRun.pollOnce ⟨jobId⟩)) (polls jobId statuses ++ t)
      r := by
  induction statuses with
  | nil => exact h
  | cons status statuses ih =>
    rw [polls_cons, List.append_assoc]
    have hrest := ih fun x hx => hs x (List.mem_cons_of_mem _ hx)
    exact .again (pollOnce_exec.2 (.slept (hs status List.mem_cons_self))) hrest

/-- A run that watches its job has polled it without finding it completed and slept after each
poll, and returns right after the first poll that reports completion. Each such transcript
occurs. -/
theorem waitForCompletion_exec (jobId : String) (t : List (Event Q))
    (r : Observed (Operation Q) PyException Unit) :
    Exec Operation.event (PrimitiveJobRun.waitForCompletion ⟨jobId⟩) t r ↔ Watched jobId t r := by
  have hnone : ∀ x ∈ ([] : List PyValue), x.eqStr "COMPLETED" = false := by simp
  constructor
  · intro h
    have hrounds : Rounds (Exec Operation.event (PrimitiveJobRun.pollOnce ⟨jobId⟩)) t r := h
    induction hrounds with
    | done hbody =>
      cases pollOnce_exec.1 hbody with
      | completed => exact .completed hnone
    | again hbody hrest ih =>
      cases pollOnce_exec.1 hbody with
      | slept hx => exact .cons hx (ih hrest)
    | halted hbody =>
      cases pollOnce_exec.1 hbody with
      | polling => exact .polling hnone
      | pollFailed ex => exact .pollFailed hnone ex
      | sleeping hx => exact .sleeping hnone hx
      | sleepFailed hx ex => exact .sleepFailed hnone hx ex
  · intro h
    have hround : ∀ {t : List (Event Q)} {x}, Polled jobId t (.halted x) →
        Rounds (Exec Operation.event (PrimitiveJobRun.pollOnce ⟨jobId⟩)) t (.halted x) :=
      fun hpolled => .halted (pollOnce_exec.2 hpolled)
    cases h with
    | polling hs =>
      have hpolls := rounds_polls hs (hround .polling)
      rw [List.append_nil] at hpolls
      exact hpolls
    | pollFailed hs ex => exact rounds_polls hs (hround (.pollFailed ex))
    | sleeping hs hx => exact rounds_polls hs (hround (.sleeping hx))
    | sleepFailed hs hx ex => exact rounds_polls hs (hround (.sleepFailed hx ex))
    | completed hs => exact rounds_polls hs (.done (pollOnce_exec.2 .completed))

end Watching

end PrefectQiskit.PrimitiveRunner
