import PrefectQiskit.AerLifecycle
import PrefectQiskit.JobAnalytics
import Mathlib.Tactic.NormNum

/-!
# Job records

What the phases say about the records themselves, in every reachable world and along every
further run: their fields, how their status moves, and what a client reads from the record
of a completed job.
-/

namespace PrefectQiskit.QiskitAer

variable {Q : Qiskit} {lib : ThirdParty Q} {sim : Simulator Q}

abbrev HasStatus (record : PyDict) (status : String) : Prop :=
  record.get? "status" = some (.str status)

structure WellFormedRecord (record : PyDict) : Prop where
  status : ∃ s ∈ ["QUEUED", "RUNNING", "COMPLETED", "FAILED"], HasStatus record s
  queued : HasStatus record "QUEUED" →
    record.get? "running" = some .none ∧ record.get? "finished" = some .none
  running : HasStatus record "RUNNING" →
    (∃ r, record.get? "running" = some (now r)) ∧ record.get? "finished" = some .none
  completed : HasStatus record "COMPLETED" → (∃ r, record.get? "running" = some (now r)) ∧
    (∃ f, record.get? "finished" = some (now f)) ∧
    ∃ data, record.get? "result" = some (.bytes data)
  failed : HasStatus record "FAILED" → (∃ r, record.get? "running" = some (now r)) ∧
    (∃ f, record.get? "finished" = some (now f)) ∧ ∃ msg, record.get? "msg" = some (.str msg)
  result_completed : (record.get? "result").isSome → HasStatus record "COMPLETED"
  ordered : ∃ c, record.get? "created" = some (now c) ∧
    (∀ r, record.get? "running" = some (now r) → c ≤ r) ∧
    ∀ r f, record.get? "running" = some (now r) → record.get? "finished" = some (now f) → r ≤ f

/-- A status moves along the order of the phases. -/
inductive Moves : Option PyDict → Option PyDict → Prop
  | created {record : PyDict} (h : HasStatus record "QUEUED") : Moves none (some record)
  | started {record record' : PyDict} (h : HasStatus record "QUEUED")
      (h' : HasStatus record' "RUNNING") : Moves (some record) (some record')
  | ended {record record' : PyDict} (h : HasStatus record "RUNNING")
      (h' : HasStatus record' "COMPLETED" ∨ HasStatus record' "FAILED") :
      Moves (some record) (some record')

def Terminal (record : PyDict) : Prop := HasStatus record "COMPLETED" ∨ HasStatus record "FAILED"

/-- What a client finds in the store. -/
def World.entry (w : World Q) (jobId : String) : Option PyValue := (w.cache jobId).map .dict

theorem wellFormed_record {phase : Phase} {clock : ℤ} (h : phase.Timely clock) :
    WellFormedRecord phase.record := by
  cases phase with
  | queued c =>
    refine ⟨⟨"QUEUED", ?_⟩, ?_, ?_, ?_, ?_, ?_, ⟨c, ?_⟩⟩ <;>
      simp [HasStatus, Phase.record, initialRecord, now]
  | running c r =>
    refine ⟨⟨"RUNNING", ?_⟩, ?_, ?_, ?_, ?_, ?_, ⟨c, ?_⟩⟩ <;>
      simp [HasStatus, Phase.record, now, h.1]
  | completed c r f data =>
    refine ⟨⟨"COMPLETED", ?_⟩, ?_, ?_, ?_, ?_, ?_, ⟨c, ?_⟩⟩ <;>
      simp [HasStatus, Phase.record, now, h.1, h.2.1]
  | failed c r f msg =>
    refine ⟨⟨"FAILED", ?_⟩, ?_, ?_, ?_, ?_, ?_, ⟨c, ?_⟩⟩ <;>
      simp [HasStatus, Phase.record, now, h.1, h.2.1]

theorem moves_of_next {phase phase' : Phase} (h : phase.Next phase') :
    Moves (some phase.record) (some phase'.record) := by
  cases h with
  | start => exact .started (by simp [HasStatus, Phase.record, initialRecord]) rfl
  | complete => exact .ended rfl (Or.inl rfl)
  | fail => exact .ended rfl (Or.inr rfl)

/-- What `get_job_status` says in each phase. -/
def Phase.report (py : Builtins) (jobId : String) : Phase → Except PyException PyValue
  | .queued _ => .ok (.str "QUEUED")
  | .running _ _ => .ok (.str "RUNNING")
  | .completed _ _ _ _ => .ok (.str "COMPLETED")
  | .failed _ _ _ msg => raiseFailure py { reason := msg, jobId := jobId, retry := false }

theorem getJobStatus_record (py : Builtins) (jobId : String) (phase : Phase) :
    getJobStatus py jobId (some (.dict phase.record)) = phase.report py jobId := by
  cases phase with
  | failed c r f msg =>
    have hm : py.str (.str msg) = msg := py.str_str msg
    simp only [getJobStatus, lookup, pure_bind]
    simp [PyValue.getItem, Phase.record, PyValue.eqStr, Phase.report, hm]
  | _ =>
    simp only [getJobStatus, lookup, pure_bind]
    simp [PyValue.getItem, Phase.record, initialRecord, PyValue.eqStr, Phase.report]
    rfl

section Steps

open World

variable {w w' : World Q} {lives : Lives} {jobId : String}

theorem Tracks.wellFormed (h : Tracks lib sim w lives) {record : PyDict}
    (hr : w.cache jobId = some record) : WellFormedRecord record := by
  rw [h.cache] at hr
  obtain ⟨phase, hphase, rfl⟩ := Option.map_eq_some_iff.mp hr
  cases hj : w.jobs jobId with
  | none =>
    rw [h.jobs jobId hj] at hphase
    cases hphase
  | some job =>
    obtain ⟨phase', hphase', ht, _⟩ := h.stage jobId job hj
    rw [hphase] at hphase'
    cases hphase'
    exact wellFormed_record ht

theorem Tracks.own_record (h : Tracks lib sim w lives) {label : Option String}
    (hs : Step lib sim w label w') (hl : label ≠ some jobId) :
    w'.cache jobId = w.cache jobId := by
  obtain ⟨lives', ht', hlife⟩ := h.step hs
  rw [ht'.cache, h.cache]
  cases hlife with
  | stay => rfl
  | create _ => rw [Function.update_of_ne (by rintro rfl; exact hl rfl)]
  | next _ _ => rw [Function.update_of_ne (by rintro rfl; exact hl rfl)]

theorem Tracks.moves (h : Tracks lib sim w lives) {label : Option String}
    (hs : Step lib sim w label w') (jobId : String) :
    w'.cache jobId = w.cache jobId ∨ Moves (w.cache jobId) (w'.cache jobId) := by
  by_cases hl : label = some jobId
  · obtain ⟨lives', ht', hlife⟩ := h.step hs
    subst hl
    rw [ht'.cache, h.cache]
    cases hlife with
    | stay => exact Or.inl rfl
    | create hnone =>
      rw [hnone, Function.update_self]
      exact Or.inr (.created rfl)
    | next hphase hn =>
      rw [hphase, Function.update_self]
      exact Or.inr (moves_of_next hn)
  · exact Or.inl (h.own_record hs hl)

theorem Moves.not_terminal {record : PyDict} {after : Option PyDict}
    (h : Moves (some record) after) : ¬Terminal record := by
  rintro (ht | ht) <;> cases h <;> simp_all [HasStatus]

/-- A terminal record stays as it is. -/
theorem Tracks.terminal (h : Tracks lib sim w lives) (hsteps : Steps lib sim w w')
    {record : PyDict} (hr : w.cache jobId = some record) (ht : Terminal record) :
    w'.cache jobId = some record := by
  induction hsteps with
  | refl => exact hr
  | tail hsteps hs ih =>
    obtain ⟨lives', h'⟩ := h.steps hsteps
    obtain ⟨label, hs⟩ := hs
    rcases h'.moves hs jobId with he | hm
    · rw [he, ih]
    · rw [ih] at hm
      exact absurd ht hm.not_terminal

theorem Tracks.entry (h : Tracks lib sim w lives) (jobId : String) :
    w.entry jobId = (lives jobId).map fun phase => .dict phase.record := by
  rw [World.entry, h.cache, Option.map_map]
  rfl

/-- A job reported as completed has the record of a completed phase, whose result the
simulator gave. -/
theorem Tracks.completed {py : Builtins} (h : Tracks lib sim w lives)
    (hs : getJobStatus py jobId (w.entry jobId) = .ok (.str "COMPLETED")) :
    ∃ job c r f result data, w.jobs jobId = some job ∧
      lives jobId = some (.completed c r f data) ∧
      (Phase.completed c r f data).Timely w.clock ∧
      (sim jobId job.primitive job.inputs).result = .ok result ∧
      lib.dumps result = .ok data := by
  rw [h.entry] at hs
  cases hphase : lives jobId with
  | none =>
    rw [hphase] at hs
    cases hs
  | some phase =>
    rw [hphase, Option.map_some, getJobStatus_record] at hs
    cases hj : w.jobs jobId with
    | none =>
      rw [h.jobs jobId hj] at hphase
      cases hphase
    | some job =>
      obtain ⟨phase', hphase', ht, hstage⟩ := h.stage jobId job hj
      rw [hphase] at hphase'
      cases hphase'
      cases phase with
      | completed c r f data =>
        generalize job.executor = s at hstage
        cases hstage with
        | completed _ hr hd => exact ⟨job, c, r, f, _, data, rfl, rfl, ht, hr, hd⟩
      | queued _ => simp [Phase.report] at hs
      | running _ _ => simp [Phase.report] at hs
      | failed _ _ _ _ => cases hs

/-- The client reads the pickled result back. -/
theorem getPrimitiveResult_completed {c r f : ℤ} {result : PrimitiveResult Q} {data : List UInt8}
    (hd : lib.dumps result = .ok data) (jobId : String) :
    getPrimitiveResult lib jobId (some (.dict (Phase.completed c r f data).record)) =
      .ok (.primitiveResult result) := by
  have hl := lib.loads_dumps result data hd
  simp only [getPrimitiveResult, lookup, pure_bind]
  simp [PyValue.getItem, Phase.record, hl]

theorem getJobMetrics_completed (c r f : ℤ) (data : List UInt8) (jobId : String) :
    getJobMetrics jobId (some (.dict (Phase.completed c r f data).record)) =
      .ok ⟨.int 0, now c, now r, now f⟩ := by
  simp only [getJobMetrics, lookup, pure_bind]
  simp [PyValue.get, Phase.record]

/-- The time between two readings of the clock in order. -/
theorem totalSeconds_now {earlier later : ℤ} (h : earlier ≤ later) :
    ∃ q : ℚ, JobAnalytics.totalSeconds (now later) (now earlier) = .ok q ∧ 0 ≤ q := by
  refine ⟨((later - earlier : ℤ) : ℚ) / 1000000, rfl, ?_⟩
  have hd : (0 : ℚ) ≤ ((later - earlier : ℤ) : ℚ) := by
    exact_mod_cast Int.sub_nonneg_of_le h
  exact div_nonneg hd (by norm_num)

/-- The life of the job records, in a world and along every run from it. -/
structure Lifecycle (py : Builtins) (lib : ThirdParty Q) (sim : Simulator Q) (w : World Q) :
    Prop where
  well_formed : ∀ jobId record, w.cache jobId = some record → WellFormedRecord record
  own_record : ∀ label w', Step lib sim w label w' → ∀ jobId, label ≠ some jobId →
    w'.cache jobId = w.cache jobId
  moves : ∀ label w', Step lib sim w label w' → ∀ jobId,
    w'.cache jobId = w.cache jobId ∨ Moves (w.cache jobId) (w'.cache jobId)
  terminal : ∀ w', Steps lib sim w w' → ∀ jobId record, w.cache jobId = some record →
    Terminal record → w'.cache jobId = some record
  fetch : ∀ w', Steps lib sim w w' → ∀ jobId,
    getJobStatus py jobId (w.entry jobId) = .ok (.str "COMPLETED") →
    ∃ result, getPrimitiveResult lib jobId (w'.entry jobId) = .ok result
  spans : ∀ w', Steps lib sim w w' → ∀ jobId,
    getJobStatus py jobId (w.entry jobId) = .ok (.str "COMPLETED") →
    ∃ metrics queue work, getJobMetrics jobId (w'.entry jobId) = .ok metrics ∧
      JobAnalytics.totalSeconds metrics.timestampStarted metrics.timestampCreated = .ok queue ∧
      0 ≤ queue ∧
      JobAnalytics.totalSeconds metrics.timestampCompleted metrics.timestampStarted = .ok work ∧
      0 ≤ work

/-- A completed job keeps its record, so clients read the same later. -/
theorem Tracks.completed_entry {py : Builtins} (h : Tracks lib sim w lives)
    (hsteps : Steps lib sim w w')
    (hs : getJobStatus py jobId (w.entry jobId) = .ok (.str "COMPLETED")) :
    ∃ c r f result data, w'.entry jobId = some (.dict (Phase.completed c r f data).record) ∧
      (Phase.completed c r f data).Timely w.clock ∧ lib.dumps result = .ok data := by
  obtain ⟨job, c, r, f, result, data, _, hphase, ht, _, hd⟩ := h.completed hs
  have hr : w.cache jobId = some (Phase.completed c r f data).record := by
    rw [h.cache, hphase]
    rfl
  have hr' := h.terminal hsteps hr (Or.inl rfl)
  refine ⟨c, r, f, result, data, ?_, ht, hd⟩
  rw [World.entry, hr']
  rfl

/-- Every reachable world is in the lifecycle. -/
theorem lifecycle_of_reachable (py : Builtins) (lib : ThirdParty Q) (sim : Simulator Q)
    {w : World Q} (h : Reachable lib sim w) : Lifecycle py lib sim w := by
  obtain ⟨lives, ht⟩ := tracks_of_reachable h
  refine ⟨?_, ?_, ?_, ?_, ?_, ?_⟩
  · intro jobId record hr
    exact ht.wellFormed hr
  · intro label w' hs jobId hl
    exact ht.own_record hs hl
  · intro label w' hs jobId
    exact ht.moves hs jobId
  · intro w' hsteps jobId record hr hterm
    exact ht.terminal hsteps hr hterm
  · intro w' hsteps jobId hs
    obtain ⟨c, r, f, result, data, he, _, hd⟩ := ht.completed_entry hsteps hs
    rw [he]
    exact ⟨_, getPrimitiveResult_completed hd jobId⟩
  · intro w' hsteps jobId hs
    obtain ⟨c, r, f, result, data, he, ht, _⟩ := ht.completed_entry hsteps hs
    obtain ⟨queue, hq, hq0⟩ := totalSeconds_now ht.1
    obtain ⟨work, hw, hw0⟩ := totalSeconds_now ht.2.1
    refine ⟨⟨.int 0, now c, now r, now f⟩, queue, work, ?_, hq, hq0, hw, hw0⟩
    rw [he]
    exact getJobMetrics_completed c r f data jobId

end Steps

section Sample

def sampleData : List UInt8 := [128, 4, 46]

def samplePrimitiveResult : PrimitiveResult plainQiskit := ⟨[⟨(), []⟩], []⟩

/-- Other packages, as far as the runs below call them. -/
def sampleLib : ThirdParty plainQiskit where
  Target := Unit
  target _ := ()
  construct _ := .ok ()
  dumps
    | ⟨[⟨(), []⟩], []⟩ => .ok sampleData
    | _ => .error ⟨"PicklingError", some "cannot pickle"⟩
  loads
    | .bytes _ => .ok (.primitiveResult samplePrimitiveResult)
    | v => .error ⟨"TypeError", some s!"a bytes-like object is required, not '{v.typeName}'"⟩
  loads_dumps result data h := by
    split at h
    · rfl
    · cases h

def samplePrimitive (programId : ProgramType) : BackendPrimitive plainQiskit := ⟨programId, (), []⟩

def sampleInputs : Pubs plainQiskit := .sampler [⟨⟨"bell", 3, 4, ()⟩, (), none, []⟩]

/-- A simulator that completes every job. -/
def completingSimulator : Simulator plainQiskit := fun _ _ _ => ⟨.ok (), .ok samplePrimitiveResult⟩

/-- One job after `n` steps of its executor. -/
def sampleWorld (sim : Simulator plainQiskit) (programId : ProgramType)
    (inputs : Pubs plainQiskit) (n : ℕ) : World plainQiskit :=
  World.runJob sampleLib sim "job-1" n
    ((World.empty 7).submit "job-1" (samplePrimitive programId) inputs)

theorem sampleWorld_reachable (sim : Simulator plainQiskit) (programId : ProgramType)
    (inputs : Pubs plainQiskit) (n : ℕ) :
    World.Reachable sampleLib sim (sampleWorld sim programId inputs n) := by
  refine ⟨7, .head ⟨some "job-1", .submit rfl (samplePrimitive programId) inputs⟩ ?_⟩
  exact World.steps_runJob sampleLib sim "job-1" n _

theorem lifecycle_of_reachable_sample :
    getJobStatus .ascii "job-1"
      ((sampleWorld completingSimulator .sampler sampleInputs 7).entry "job-1") =
        .ok (.str "COMPLETED") ∧
    Lifecycle .ascii sampleLib completingSimulator
      (sampleWorld completingSimulator .sampler sampleInputs 7) :=
  ⟨rfl, lifecycle_of_reachable .ascii sampleLib _ (sampleWorld_reachable _ _ _ 7)⟩

end Sample

end PrefectQiskit.QiskitAer
