import PrefectQiskit.JobAnalytics
import PrefectQiskit.RetryingCoroutine
import Mathlib.Data.String.Basic

/-!
# The primitive runner task

One attempt of `run_primitive` as a coroutine whose suspension points are its awaits, and
the task that retries it. Any await may be answered by an exception, and by
`TaskRunTimeoutError` when the engine cuts the attempt there.
-/

namespace PrefectQiskit.PrimitiveRunner

open JobAnalytics Coroutine

variable {Q : Qiskit}

/-- What the runner reads of its Prefect task run. -/
structure TaskRunContext where
  tags : List String
  taskRunId : String
  taskRunName : String

/-- The vendor client stands for the credentials and lives on the other side of the
coroutine. -/
structure RunPrimitiveArgs (Q : Qiskit) where
  primitiveBlocs : Pubs Q
  programType : ProgramType
  resourceName : String
  enableAnalytics : Bool
  options : Option PyDict
  context : TaskRunContext

/-- The awaits of `run_primitive`, each with the local variables that are live there. -/
inductive Await (Q : Qiskit) where
  | checkResourceAvailable
  | runPrimitive
  | getJobStatus (jobId : String)
  | sleep (jobId : String)
  | getPrimitiveResult (jobId : String)
  | getJobMetrics (jobId : String) (result : Fetched Q)
  | createTableArtifact (table : PyDict) (result : Fetched Q)

namespace Await

/-- Only the declared classes of the replies are left open: a client may return any value
where the code does not look at the type. -/
def Reply : Await Q → Type
  | .checkResourceAvailable | .runPrimitive | .getJobStatus _ => Except PyException PyValue
  | .sleep _ | .createTableArtifact _ _ => Except PyException Unit
  | .getPrimitiveResult _ => Except PyException (Fetched Q)
  | .getJobMetrics _ _ => Except PyException JobMetrics

def event (args : RunPrimitiveArgs Q) : (p : Await Q) → p.Reply → Event Q
  | .checkResourceAvailable, reply => .checkResourceAvailable args.resourceName reply
  | .runPrimitive, reply =>
    .runPrimitive args.programType args.primitiveBlocs args.resourceName
      (args.options.getD []) reply
  | .getJobStatus jobId, reply => .getJobStatus jobId reply
  | .sleep _, reply => .sleep reply
  | .getPrimitiveResult jobId, reply => .getPrimitiveResult jobId reply
  | .getJobMetrics jobId _, reply => .getJobMetrics jobId reply
  | .createTableArtifact table _, reply =>
    .createTableArtifact (table.keys.map .str, table.values)
      s!"Metrics of primitive run {args.context.taskRunId} / {args.context.taskRunName}" reply

end Await

abbrev Outcome (Q : Qiskit) := Except PyException (Fetched Q)

abbrev AttemptStatus (Q : Qiskit) := Status (Await Q) (Outcome Q)

/-- An exception at an await leaves the attempt. -/
def andThen {β : Type} (reply : Except PyException β) (k : β → AttemptStatus Q) :
    AttemptStatus Q :=
  match reply with
  | .ok b => k b
  | .error ex => .finished (.error ex)

/-- `PrimitiveJob.trigger` after its availability check. -/
def trigger (py : Builtins) (args : RunPrimitiveArgs Q) (available : PyValue) :
    AttemptStatus Q :=
  if !available.truthy then
    .finished (raiseFailure py
      { reason := s!"Resource {args.resourceName} is not currently available."
        jobId := none
        retry := true })
  else .suspended .runPrimitive

/-- `PrimitiveJobRun(job_id=job_id, ...)` validates its identifier, and the run is then
watched. -/
def primitiveJobRun (jobId : PyValue) : AttemptStatus Q :=
  match jobId with
  | .str jobId => .suspended (.getJobStatus jobId)
  | _ => .finished (.error (.foreign "ValidationError" (some "job_id")))

/-- `while await client.get_job_status(self.job_id) != "COMPLETED"` -/
def waitForCompletion (jobId : String) (status : PyValue) : AttemptStatus Q :=
  if status.eqStr "COMPLETED" then .suspended (.getPrimitiveResult jobId)
  else .suspended (.sleep jobId)

/-- `run_primitive` after `fetch_result`. -/
def fetchResult (args : RunPrimitiveArgs Q) (jobId : String) (result : Fetched Q) :
    AttemptStatus Q :=
  if args.enableAnalytics then .suspended (.getJobMetrics jobId result)
  else .finished (.ok result)

/-- `run_primitive` after `fetch_metrics`. -/
def fetchMetrics (py : Builtins) (args : RunPrimitiveArgs Q) (jobId : String)
    (result : Fetched Q) (metrics : JobMetrics) : AttemptStatus Q :=
  match makeAnalytics py args.resourceName args.programType jobId
      (args.context.tags.mergeSort fun a b => decide (a ≤ b))
      args.primitiveBlocs result metrics args.options with
  | .ok table => .suspended (.createTableArtifact table result)
  | .error ex => .finished (.error (.builtin ex))

def resume (py : Builtins) (args : RunPrimitiveArgs Q) :
    (p : Await Q) → p.Reply → AttemptStatus Q
  | .checkResourceAvailable, reply => andThen reply (trigger py args)
  | .runPrimitive, reply => andThen reply primitiveJobRun
  | .getJobStatus jobId, reply => andThen reply (waitForCompletion jobId)
  | .sleep jobId, reply => andThen reply fun _ => .suspended (.getJobStatus jobId)
  | .getPrimitiveResult jobId, reply => andThen reply (fetchResult args jobId)
  | .getJobMetrics jobId result, reply => andThen reply (fetchMetrics py args jobId result)
  | .createTableArtifact _ result, reply => andThen reply fun _ => .finished (.ok result)

/-- One attempt. It starts at the availability check of `trigger`. -/
def runPrimitive (py : Builtins) (args : RunPrimitiveArgs Q) :
    Coroutine (Await Q) (Event Q) (Outcome Q) where
  Reply := Await.Reply
  event := Await.event args
  resume := resume py args

/-- `retry_on_failure` on the final state of an attempt. A state that holds a result makes
the function return `None`. -/
def retryOnFailure {α : Type*} : Except PyException α → Bool
  | .ok _ => false
  | .error (.runtimeJobFailure ex) => ex.retry
  | .error .taskRunTimeoutError => true
  | .error _ => false

/-- The task of `build_runner_task`: the engine reruns a failed attempt at most `maxRetry`
times, and only when the retry condition holds. -/
def runnerTask (py : Builtins) (args : RunPrimitiveArgs Q) (maxRetry : ℕ) :
    Coroutine (RetryPoint (Await Q)) (Event Q) (Outcome Q) :=
  retrying (runPrimitive py args) .checkResourceAvailable maxRetry
    fun ex => retryOnFailure (.error ex : Outcome Q)

/-- A task run begins its first attempt. -/
def taskStart : Status (RetryPoint (Await Q)) (Outcome Q) :=
  .suspended ⟨0, .checkResourceAvailable⟩

end PrefectQiskit.PrimitiveRunner
