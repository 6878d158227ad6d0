import PrefectQiskit.AerClient
import PrefectQiskit.Coroutine
import Mathlib.Logic.Function.Basic
import Mathlib.Logic.Relation

/-!
# Execution of Aer jobs

`executePrimitive` keeps a private copy of the record of its job and writes it back whole,
twice. A world holds the shared store, the clock and the executors of all jobs; submissions
and single executor steps interleave freely.
-/

namespace PrefectQiskit.QiskitAer

variable {Q : Qiskit}

/-- Where an executor stands, with its copy of the record. -/
inductive ExecutorPoint (Q : Qiskit) where
  | readRecord
  | run (jobStatus : PyDict)
  | nowRunning (jobStatus : PyDict)
  | setRunning (jobStatus : PyDict)
  | result (jobStatus : PyDict)
  | nowCompleted (jobStatus : PyDict) (data : List UInt8)
  | nowFailed (jobStatus : PyDict) (msg : String)
  | setFinal (jobStatus : PyDict) (pending : Option PyException)

namespace ExecutorPoint

def Reply : ExecutorPoint Q → Type
  | .readRecord => Option PyDict
  | .run _ => Except PyException Unit
  | .nowRunning _ | .nowCompleted _ _ | .nowFailed _ _ => ℤ
  | .setRunning _ | .setFinal _ _ => Unit
  | .result _ => Except PyException (PrimitiveResult Q)

/-- The record that is written to the store at this point. -/
def write : ExecutorPoint Q → Option PyDict
  | .setRunning jobStatus | .setFinal jobStatus _ => some jobStatus
  | _ => none

end ExecutorPoint

abbrev ExecutorStatus (Q : Qiskit) := Status (ExecutorPoint Q) (Except PyException Unit)

/-- `except Exception as ex`, where `str(ex)` may raise in turn. -/
def handle (jobStatus : PyDict) (ex : PyException) : ExecutorStatus Q :=
  match ex.str with
  | .ok msg => .suspended (.nowFailed jobStatus msg)
  | .error ex' => .suspended (.setFinal jobStatus (some ex'))

/-- `pickle.dumps(result)`, still inside the `try` block. -/
def pickleResult (lib : ThirdParty Q) (jobStatus : PyDict) (result : PrimitiveResult Q) :
    ExecutorStatus Q :=
  match lib.dumps result with
  | .ok data => .suspended (.nowCompleted jobStatus data)
  | .error e => handle jobStatus (.foreign e.cls e.message)

def executorResume (lib : ThirdParty Q) (jobId : String) :
    (p : ExecutorPoint Q) → p.Reply → ExecutorStatus Q
  | .readRecord, some jobStatus => .suspended (.run jobStatus)
  | .readRecord, none =>
    .finished (raiseBuiltin .runtimeError s!"Job ID {jobId} is not initialized")
  | .run _, .error ex => .finished (.error ex)
  | .run jobStatus, .ok () => .suspended (.nowRunning jobStatus)
  | .nowRunning jobStatus, clock =>
    .suspended (.setRunning
      (jobStatus.update [("status", .str "RUNNING"), ("running", now clock)]))
  | .setRunning jobStatus, () => .suspended (.result jobStatus)
  | .result jobStatus, .error ex => handle jobStatus ex
  | .result jobStatus, .ok result => pickleResult lib jobStatus result
  | .nowCompleted jobStatus data, clock =>
    .suspended (.setFinal (jobStatus.update [("result", .bytes data),
      ("status", .str "COMPLETED"), ("finished", now clock)]) none)
  | .nowFailed jobStatus msg, clock =>
    .suspended (.setFinal (jobStatus.update [("msg", .str msg), ("status", .str "FAILED"),
      ("finished", now clock)]) none)
  | .setFinal _ none, () => .finished (.ok ())
  | .setFinal _ (some ex), () => .finished (.error ex)

/-- `execute_primitive`; what an observer sees of it are its writes. -/
def executePrimitive (lib : ThirdParty Q) (jobId : String) :
    Coroutine (ExecutorPoint Q) (Option PyDict) (Except PyException Unit) where
  Reply := ExecutorPoint.Reply
  event p _ := p.write
  resume := executorResume lib jobId

/-- What the simulator does with one job. -/
structure JobOutcome (Q : Qiskit) where
  run : Except PyException Unit
  result : Except PyException (PrimitiveResult Q)

/-- The simulator. Two jobs with equal inputs may have different outcomes. -/
abbrev Simulator (Q : Qiskit) := String → BackendPrimitive Q → Pubs Q → JobOutcome Q

structure Job (Q : Qiskit) where
  primitive : BackendPrimitive Q
  inputs : Pubs Q
  executor : ExecutorStatus Q

structure World (Q : Qiskit) where
  cache : String → Option PyDict
  clock : ℤ
  jobs : String → Option (Job Q)

namespace World

def empty (clock : ℤ) : World Q := ⟨fun _ => none, clock, fun _ => none⟩

/-- `DISK_CACHE.add`: an entry that exists is kept. -/
def add (cache : String → Option PyDict) (jobId : String) (jobStatus : PyDict) :
    String → Option PyDict :=
  if (cache jobId).isSome then cache else Function.update cache jobId (some jobStatus)

/-- `DISK_CACHE.set` -/
def set (cache : String → Option PyDict) (jobId : String) (jobStatus : Option PyDict) :
    String → Option PyDict :=
  match jobStatus with
  | some jobStatus => Function.update cache jobId (some jobStatus)
  | none => cache

/-- `run_primitive` after it has made the backend primitive. -/
def submit (w : World Q) (jobId : String) (primitive : BackendPrimitive Q) (inputs : Pubs Q) :
    World Q where
  cache := add w.cache jobId (initialRecord w.clock)
  clock := w.clock
  jobs := Function.update w.jobs jobId (some ⟨primitive, inputs, .suspended .readRecord⟩)

/-- What an executor is answered. -/
def answer (w : World Q) (sim : Simulator Q) (jobId : String) (job : Job Q) :
    (p : ExecutorPoint Q) → p.Reply
  | .readRecord => w.cache jobId
  | .run _ => (sim jobId job.primitive job.inputs).run
  | .nowRunning _ | .nowCompleted _ _ | .nowFailed _ _ => w.clock
  | .setRunning _ | .setFinal _ _ => ()
  | .result _ => (sim jobId job.primitive job.inputs).result

/-- One step of the executor of a job. -/
def advance (w : World Q) (lib : ThirdParty Q) (sim : Simulator Q) (jobId : String)
    (job : Job Q) (p : ExecutorPoint Q) : World Q where
  cache := set w.cache jobId p.write
  clock := w.clock
  jobs := Function.update w.jobs jobId (some { job with
    executor := executorResume lib jobId p (w.answer sim jobId job p) })

section Fields

variable {w : World Q} {lib : ThirdParty Q} {sim : Simulator Q} {jobId jobId' : String}
  {job : Job Q} {primitive : BackendPrimitive Q} {inputs : Pubs Q} {p : ExecutorPoint Q}

@[simp] theorem submit_jobs_self : (w.submit jobId primitive inputs).jobs jobId =
    some ⟨primitive, inputs, .suspended .readRecord⟩ :=
  Function.update_self ..

theorem submit_jobs_of_ne (h : jobId' ≠ jobId) :
    (w.submit jobId primitive inputs).jobs jobId' = w.jobs jobId' :=
  Function.update_of_ne h ..

theorem submit_cache (h : w.cache jobId = none) : (w.submit jobId primitive inputs).cache =
    Function.update w.cache jobId (some (initialRecord w.clock)) := by
  simp [submit, add, h]

@[simp] theorem advance_jobs_self : (w.advance lib sim jobId job p).jobs jobId =
    some { job with executor := executorResume lib jobId p (w.answer sim jobId job p) } :=
  Function.update_self ..

theorem advance_jobs_of_ne (h : jobId' ≠ jobId) :
    (w.advance lib sim jobId job p).jobs jobId' = w.jobs jobId' :=
  Function.update_of_ne h ..

/-- A job that exists does not have a fresh identifier. -/
theorem ne_of_fresh (hj : w.jobs jobId = some job) (hfresh : w.jobs jobId' = none) :
    jobId ≠ jobId' := by
  intro heq
  rw [heq, hfresh] at hj
  cases hj

end Fields

/-- A step of the world, labelled with the job it is about. A new job gets a fresh
identifier, and the clock never goes back. -/
inductive Step (lib : ThirdParty Q) (sim : Simulator Q) (w : World Q) :
    Option String → World Q → Prop
  | submit {jobId : String} (hfresh : w.jobs jobId = none) (primitive : BackendPrimitive Q)
      (inputs : Pubs Q) : Step lib sim w (some jobId) (w.submit jobId primitive inputs)
  | advance {jobId : String} {job : Job Q} {p : ExecutorPoint Q} (hj : w.jobs jobId = some job)
      (hp : job.executor = .suspended p) :
      Step lib sim w (some jobId) (w.advance lib sim jobId job p)
  | tick {clock : ℤ} (h : w.clock ≤ clock) : Step lib sim w none { w with clock := clock }

/-- The worlds that follow a world. -/
abbrev Steps (lib : ThirdParty Q) (sim : Simulator Q) : World Q → World Q → Prop :=
  Relation.ReflTransGen fun w w' => ∃ label, Step lib sim w label w'

/-- Let the executor of a job make `n` steps. -/
def runJob (lib : ThirdParty Q) (sim : Simulator Q) (jobId : String) : ℕ → World Q → World Q
  | 0, w => w
  | n + 1, w =>
    match w.jobs jobId with
    | some job =>
      match job.executor with
      | .suspended p => runJob lib sim jobId n (w.advance lib sim jobId job p)
      | .finished _ => w
    | none => w

theorem steps_runJob (lib : ThirdParty Q) (sim : Simulator Q) (jobId : String) (n : ℕ)
    (w : World Q) : Steps lib sim w (runJob lib sim jobId n w) := by
  induction n generalizing w with
  | zero => exact .refl
  | succ n ih =>
    rw [runJob]
    split
    next job hj =>
      split
      next p hp => exact .head ⟨_, .advance hj hp⟩ (ih _)
      next => exact .refl
    next => exact .refl

section Runs

variable {lib : ThirdParty Q} {sim : Simulator Q} {w w' : World Q} {jobId jobId' : String}
  {job : Job Q}

theorem cache_submit_of_ne (h : jobId' ≠ jobId) (primitive : BackendPrimitive Q)
    (inputs : Pubs Q) : (w.submit jobId primitive inputs).cache jobId' = w.cache jobId' := by
  rw [submit, add]
  split
  · rfl
  · exact Function.update_of_ne h ..

theorem set_apply (cache : String → Option PyDict) (jobStatus : Option PyDict) :
    set cache jobId jobStatus jobId' =
      if jobId' = jobId then jobStatus.or (cache jobId') else cache jobId' := by
  cases jobStatus with
  | none => simp [set]
  | some jobStatus =>
    by_cases h : jobId' = jobId
    · subst h
      simp [set]
    · simp [set, h]

theorem advance_cache (w : World Q) (lib : ThirdParty Q) (sim : Simulator Q) (job : Job Q)
    (p : ExecutorPoint Q) : (w.advance lib sim jobId job p).cache jobId' =
      if jobId' = jobId then p.write.or (w.cache jobId') else w.cache jobId' :=
  set_apply w.cache p.write

/-- Whatever else happens, the executor of a job makes a run of `execute_primitive`, and the store
holds what this run wrote last. -/
theorem run_executePrimitive (hj : w.jobs jobId = some job) (h : Steps lib sim w w') :
    ∃ job' writes, w'.jobs jobId = some job' ∧
      job'.primitive = job.primitive ∧ job'.inputs = job.inputs ∧
      (executePrimitive lib jobId).Run job.executor writes job'.executor ∧
      w'.cache jobId = (writes.filterMap id).getLast?.or (w.cache jobId) := by
  induction h with
  | refl => exact ⟨job, [], hj, rfl, rfl, .refl, rfl⟩
  | @tail w₁ w₂ _ hstep ih =>
    obtain ⟨job₁, writes, hj₁, hprimitive, hinputs, hrun, hcache⟩ := ih
    obtain ⟨label, hstep⟩ := hstep
    cases hstep with
    | submit hfresh primitive inputs =>
      have hne := ne_of_fresh hj₁ hfresh
      refine ⟨job₁, writes, (submit_jobs_of_ne hne).trans hj₁, hprimitive, hinputs, hrun, ?_⟩
      rw [cache_submit_of_ne hne, hcache]
    | @advance jobId' job' p hj' hp =>
      by_cases hjob : jobId = jobId'
      · subst hjob
        rw [hj₁] at hj'
        cases hj'
        rw [hp] at hrun
        refine ⟨_, writes ++ [p.write], advance_jobs_self, hprimitive, hinputs,
          hrun.step (w₁.answer sim jobId job₁ p), ?_⟩
        rw [advance_cache, if_pos rfl, hcache]
        cases p.write with
        | none => simp
        | some jobStatus => simp
      · refine ⟨job₁, writes, (advance_jobs_of_ne hjob).trans hj₁, hprimitive, hinputs, hrun, ?_⟩
        rw [advance_cache, if_neg hjob, hcache]
    | tick _ => exact ⟨job₁, writes, hj₁, hprimitive, hinputs, hrun, hcache⟩

end Runs

def Reachable (lib : ThirdParty Q) (sim : Simulator Q) (w : World Q) : Prop :=
  ∃ clock, Steps lib sim (empty clock) w

end World

end PrefectQiskit.QiskitAer
