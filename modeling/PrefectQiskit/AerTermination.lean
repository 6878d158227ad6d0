import PrefectQiskit.AerJobRecords

/-!
# Jobs whose executor has ended

An executor that has ended leaves its record as it is for ever. The record is terminal
exactly when the failure of the job, if any, was one that `execute_primitive` contains:
`primitive.run` is called before the `try` block, and an exception without a text leaves
the handler before it has updated the record.
-/

namespace PrefectQiskit.QiskitAer

open World

variable {Q : Qiskit} {lib : ThirdParty Q} {sim : Simulator Q}

/-- The primitive starts the job, and an exception of its result or of the pickling has a
text. -/
def Contained (lib : ThirdParty Q) (out : JobOutcome Q) : Prop :=
  out.run = .ok () ∧ ∀ ex, Raised lib out ex → ∃ msg, ex.str = .ok msg

theorem Raised.unique {out : JobOutcome Q} {ex ex' : PyException} (h : Raised lib out ex)
    (h' : Raised lib out ex') : ex = ex' := by
  cases h with
  | result hr =>
    cases h' with
    | result hr' =>
      rw [hr] at hr'
      exact Except.error.inj hr'
    | dumps hr' _ =>
      rw [hr] at hr'
      cases hr'
  | dumps hr hd =>
    cases h' with
    | result hr' =>
      rw [hr] at hr'
      cases hr'
    | dumps hr' hd' =>
      rw [hr] at hr'
      cases hr'
      rw [hd] at hd'
      cases hd'
      rfl

/-- The phase in which an executor leaves its job. -/
theorem Stage.ended {out : JobOutcome Q} {clock : ℤ} {o : Except PyException Unit}
    {phase : Phase} (h : Stage lib out clock (.finished o) phase) :
    (Terminal phase.record ∧ Contained lib out) ∨
      (¬Terminal phase.record ∧ ¬Contained lib out) := by
  cases h with
  | notRun h =>
    refine Or.inr ⟨by simp [Terminal, HasStatus, Phase.record, initialRecord], ?_⟩
    intro h
    obtain ⟨hrun, _⟩ := h
    rw [h] at hrun
    cases hrun
  | completed h hr hd =>
    refine Or.inl ⟨Or.inl rfl, h, ?_⟩
    intro ex hx
    cases hx with
    | result hr' =>
      rw [hr] at hr'
      cases hr'
    | dumps hr' hd' =>
      rw [hr] at hr'
      cases hr'
      rw [hd] at hd'
      cases hd'
  | failed h hx hm =>
    refine Or.inl ⟨Or.inr rfl, h, ?_⟩
    intro ex hx'
    rw [hx'.unique hx]
    exact ⟨_, hm⟩
  | unreported h hx hm =>
    refine Or.inr ⟨by simp [Terminal, HasStatus, Phase.record], ?_⟩
    intro h
    obtain ⟨_, hall⟩ := h
    obtain ⟨msg, hok⟩ := hall _ hx
    rw [hm] at hok
    cases hok

/-- A job whose executor has ended stays as it is. -/
theorem ended_steps {w w' : World Q} {jobId : String} {job : Job Q} {o : Except PyException Unit}
    (hj : w.jobs jobId = some job) (hend : job.executor = .finished o)
    (hs : Steps lib sim w w') : w'.jobs jobId = some job := by
  obtain ⟨job', writes, hj', hprimitive, hinputs, hrun, -⟩ := run_executePrimitive hj hs
  rw [hend] at hrun
  obtain ⟨-, hexecutor⟩ := hrun.of_finished
  have hsame : job' = job := by
    cases job
    cases job'
    cases hprimitive
    cases hinputs
    rw [← hend] at hexecutor
    cases hexecutor
    rfl
  rw [hj', hsame]

/-- Polling such a job goes on without end. -/
def KeepsPolling (py : Builtins) (w : World Q) (jobId : String) : Prop :=
  ∃ s ∈ ["QUEUED", "RUNNING"], getJobStatus py jobId (w.entry jobId) = .ok (.str s)

theorem keepsPolling_iff (py : Builtins) {w : World Q} {lives : Lives} {jobId : String}
    {phase : Phase} (ht : Tracks lib sim w lives) (hphase : lives jobId = some phase) :
    KeepsPolling py w jobId ↔ ¬Terminal phase.record := by
  rw [KeepsPolling]
  rw [ht.entry, hphase, Option.map_some, getJobStatus_record]
  cases phase <;>
    simp [Phase.report, raiseFailure, Terminal, HasStatus, Phase.record, initialRecord]

/-- From the end of its executor on, the record of a job is terminal if and only if its
failure was contained, and otherwise polling it never ends. -/
theorem executePrimitive_ended (py : Builtins) (lib : ThirdParty Q) (sim : Simulator Q)
    {w w' : World Q} (jobId : String) (job : Job Q) {o : Except PyException Unit}
    (h : Reachable lib sim w) (hj : w.jobs jobId = some job) (hend : job.executor = .finished o)
    (hs : Steps lib sim w w') :
    ∃ record, w'.cache jobId = some record ∧
      (Terminal record ↔ Contained lib (sim jobId job.primitive job.inputs)) ∧
      (¬KeepsPolling py w' jobId ↔ Contained lib (sim jobId job.primitive job.inputs)) := by
  obtain ⟨lives, ht⟩ := tracks_of_reachable h
  obtain ⟨lives', ht'⟩ := ht.steps hs
  obtain ⟨phase, hphase, _, hstage⟩ := ht'.stage jobId job (ended_steps hj hend hs)
  rw [hend] at hstage
  have hr : w'.cache jobId = some phase.record := by
    rw [ht'.cache, hphase]
    rfl
  have hiff : Terminal phase.record ↔ Contained lib (sim jobId job.primitive job.inputs) := by
    rcases hstage.ended with ⟨hterm, hc⟩ | ⟨hterm, hc⟩
    · exact iff_of_true hterm hc
    · exact iff_of_false hterm hc
  refine ⟨phase.record, hr, hiff, ?_⟩
  rw [keepsPolling_iff py ht' hphase, not_not]
  exact hiff

section Sample

/-- An estimator pub that asks for precision zero. -/
def zeroPrecision : Pubs plainQiskit :=
  .estimator [⟨⟨"bell", 3, 4, ()⟩, (), (), some (.finite 0), []⟩]

/-- The estimator primitive rejects a precision that is not positive. -/
def validatingSimulator : Simulator plainQiskit := fun _ primitive inputs =>
  match primitive.programId, inputs with
  | .estimator, .estimator [⟨_, _, _, some (.finite 0), _⟩] =>
    ⟨.error (.foreign "ValueError" (some "The 0-th pub has precision less than or equal to 0")),
      .ok samplePrimitiveResult⟩
  | _, _ => ⟨.ok (), .ok samplePrimitiveResult⟩

theorem executePrimitive_ended_completed :
    ∃ record, (sampleWorld completingSimulator .sampler sampleInputs 7).cache "job-1" =
      some record ∧ (Terminal record ↔ Contained sampleLib ⟨.ok (), .ok samplePrimitiveResult⟩) ∧
      (¬KeepsPolling .ascii (sampleWorld completingSimulator .sampler sampleInputs 7) "job-1" ↔
        Contained sampleLib ⟨.ok (), .ok samplePrimitiveResult⟩) :=
  executePrimitive_ended .ascii sampleLib completingSimulator "job-1"
    ⟨samplePrimitive .sampler, sampleInputs, .finished (.ok ())⟩ (sampleWorld_reachable _ _ _ 7)
    rfl rfl .refl

/-- The record of the rejected job stays queued. -/
theorem not_terminal_of_ended :
    ¬∀ (lib : ThirdParty plainQiskit) (sim : Simulator plainQiskit) (w : World plainQiskit)
      (jobId : String) (job : Job plainQiskit) (o : Except PyException Unit),
      Reachable lib sim w → w.jobs jobId = some job → job.executor = .finished o →
      ∃ record, w.cache jobId = some record ∧ Terminal record := by
  intro h
  obtain ⟨record, hr, ht⟩ := h sampleLib validatingSimulator
    (sampleWorld validatingSimulator .estimator zeroPrecision 7) "job-1"
    ⟨samplePrimitive .estimator, zeroPrecision, .finished (.error
      (.foreign "ValueError" (some "The 0-th pub has precision less than or equal to 0")))⟩ _
    (sampleWorld_reachable _ _ _ 7) rfl rfl
  have hq : record = (Phase.queued 7).record := (Option.some.inj hr).symm
  rw [hq] at ht
  simp [Terminal, HasStatus, Phase.record, initialRecord] at ht

end Sample

end PrefectQiskit.QiskitAer
