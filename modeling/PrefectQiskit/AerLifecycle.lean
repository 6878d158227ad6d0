import PrefectQiskit.AerExecutor

/-!
# The life of an Aer job

`Phase` is what a record of the store means: a job is queued, then running, then completed
or failed. The store is at any time the image of a map of phases, and a step of the world
leaves this map alone, adds a queued job, or moves one job to its next phase.
-/

namespace PrefectQiskit.QiskitAer

variable {Q : Qiskit} {lib : ThirdParty Q} {sim : Simulator Q}

inductive Phase where
  | queued (created : ℤ)
  | running (created started : ℤ)
  | completed (created started finished : ℤ) (data : List UInt8)
  | failed (created started finished : ℤ) (msg : String)

namespace Phase

/-- The record of a phase, entry by entry. -/
def record : Phase → PyDict
  | .queued created => initialRecord created
  | .running created started =>
    [("results", .none), ("status", .str "RUNNING"), ("msg", .none), ("created", now created),
      ("running", now started), ("finished", .none)]
  | .completed created started finished data =>
    [("results", .none), ("status", .str "COMPLETED"), ("msg", .none), ("created", now created),
      ("running", now started), ("finished", now finished), ("result", .bytes data)]
  | .failed created started finished msg =>
    [("results", .none), ("status", .str "FAILED"), ("msg", .str msg), ("created", now created),
      ("running", now started), ("finished", now finished)]

/-- The times are in order and none is in the future. -/
def Timely (clock : ℤ) : Phase → Prop
  | .queued created => created ≤ clock
  | .running created started => created ≤ started ∧ started ≤ clock
  | .completed created started finished _ | .failed created started finished _ =>
    created ≤ started ∧ started ≤ finished ∧ finished ≤ clock

inductive Next : Phase → Phase → Prop
  | start {c r : ℤ} : Next (.queued c) (.running c r)
  | complete {c r f : ℤ} {data : List UInt8} : Next (.running c r) (.completed c r f data)
  | fail {c r f : ℤ} {msg : String} : Next (.running c r) (.failed c r f msg)

theorem Timely.mono {phase : Phase} {clock clock' : ℤ} (h : phase.Timely clock)
    (hc : clock ≤ clock') : phase.Timely clock' := by
  cases phase <;> simp only [Timely] at h ⊢ <;> omega

theorem record_running (c r : ℤ) :
    Dict.update (queued c).record [("status", .str "RUNNING"), ("running", now r)] =
      (Phase.running c r).record := by
  simp [record, initialRecord]

theorem record_completed (c r f : ℤ) (data : List UInt8) :
    Dict.update (Phase.running c r).record [("result", .bytes data),
      ("status", .str "COMPLETED"), ("finished", now f)] = (completed c r f data).record := by
  simp [record]

theorem record_failed (c r f : ℤ) (msg : String) :
    Dict.update (Phase.running c r).record [("msg", .str msg), ("status", .str "FAILED"),
      ("finished", now f)] = (failed c r f msg).record := by
  simp [record]

end Phase

/-- The exception that reaches the handler of the executor. -/
inductive Raised (lib : ThirdParty Q) (out : JobOutcome Q) : PyException → Prop
  | result {ex : PyException} (h : out.result = .error ex) : Raised lib out ex
  | dumps {result : PrimitiveResult Q} {e : ThirdPartyError} (h : out.result = .ok result)
      (hd : lib.dumps result = .error e) : Raised lib out (.foreign e.cls e.message)

/-- Where an executor can stand when its job is in a phase. -/
inductive Stage (lib : ThirdParty Q) (out : JobOutcome Q) (clock : ℤ) :
    ExecutorStatus Q → Phase → Prop
  | readRecord {c : ℤ} : Stage lib out clock (.suspended .readRecord) (.queued c)
  | run {c : ℤ} : Stage lib out clock (.suspended (.run (Phase.queued c).record)) (.queued c)
  | notRun {c : ℤ} {ex : PyException} (h : out.run = .error ex) :
      Stage lib out clock (.finished (.error ex)) (.queued c)
  | nowRunning {c : ℤ} (h : out.run = .ok ()) :
      Stage lib out clock (.suspended (.nowRunning (Phase.queued c).record)) (.queued c)
  | setRunning {c r : ℤ} (h : out.run = .ok ()) (ht : (Phase.running c r).Timely clock) :
      Stage lib out clock (.suspended (.setRunning (Phase.running c r).record)) (.queued c)
  | result {c r : ℤ} (h : out.run = .ok ()) :
      Stage lib out clock (.suspended (.result (Phase.running c r).record)) (.running c r)
  | nowCompleted {c r : ℤ} {result : PrimitiveResult Q} {data : List UInt8}
      (h : out.run = .ok ()) (hr : out.result = .ok result) (hd : lib.dumps result = .ok data) :
      Stage lib out clock (.suspended (.nowCompleted (Phase.running c r).record data))
        (.running c r)
  | nowFailed {c r : ℤ} {ex : PyException} {msg : String} (h : out.run = .ok ())
      (hx : Raised lib out ex) (hm : ex.str = .ok msg) :
      Stage lib out clock (.suspended (.nowFailed (Phase.running c r).record msg)) (.running c r)
  | setCompleted {c r f : ℤ} {result : PrimitiveResult Q} {data : List UInt8}
      (h : out.run = .ok ()) (hr : out.result = .ok result) (hd : lib.dumps result = .ok data)
      (ht : (Phase.completed c r f data).Timely clock) :
      Stage lib out clock (.suspended (.setFinal (Phase.completed c r f data).record none))
        (.running c r)
  | setFailed {c r f : ℤ} {ex : PyException} {msg : String} (h : out.run = .ok ())
      (hx : Raised lib out ex) (hm : ex.str = .ok msg)
      (ht : (Phase.failed c r f msg).Timely clock) :
      Stage lib out clock (.suspended (.setFinal (Phase.failed c r f msg).record none))
        (.running c r)
  | setPending {c r : ℤ} {ex ex' : PyException} (h : out.run = .ok ()) (hx : Raised lib out ex)
      (hm : ex.str = .error ex') :
      Stage lib out clock (.suspended (.setFinal (Phase.running c r).record (some ex')))
        (.running c r)
  | completed {c r f : ℤ} {result : PrimitiveResult Q} {data : List UInt8}
      (h : out.run = .ok ()) (hr : out.result = .ok result) (hd : lib.dumps result = .ok data) :
      Stage lib out clock (.finished (.ok ())) (.completed c r f data)
  | failed {c r f : ℤ} {ex : PyException} {msg : String} (h : out.run = .ok ())
      (hx : Raised lib out ex) (hm : ex.str = .ok msg) :
      Stage lib out clock (.finished (.ok ())) (.failed c r f msg)
  | unreported {c r : ℤ} {ex ex' : PyException} (h : out.run = .ok ()) (hx : Raised lib out ex)
      (hm : ex.str = .error ex') : Stage lib out clock (.finished (.error ex')) (.running c r)

theorem Stage.mono {out : JobOutcome Q} {clock clock' : ℤ} {s : ExecutorStatus Q} {phase : Phase}
    (h : Stage lib out clock s phase) (hc : clock ≤ clock') : Stage lib out clock' s phase := by
  cases h with
  | readRecord => exact .readRecord
  | run => exact .run
  | notRun h => exact .notRun h
  | nowRunning h => exact .nowRunning h
  | setRunning h ht => exact .setRunning h (ht.mono hc)
  | result h => exact .result h
  | nowCompleted h hr hd => exact .nowCompleted h hr hd
  | nowFailed h hx hm => exact .nowFailed h hx hm
  | setCompleted h hr hd ht => exact .setCompleted h hr hd (ht.mono hc)
  | setFailed h hx hm ht => exact .setFailed h hx hm (ht.mono hc)
  | setPending h hx hm => exact .setPending h hx hm
  | completed h hr hd => exact .completed h hr hd
  | failed h hx hm => exact .failed h hx hm
  | unreported h hx hm => exact .unreported h hx hm

/-- The handler leads to one of its two ends. -/
theorem stage_handle {out : JobOutcome Q} {clock c r : ℤ} {ex : PyException}
    (h : out.run = .ok ()) (hx : Raised lib out ex) :
    Stage lib out clock (handle (Phase.running c r).record ex) (.running c r) := by
  rw [handle]
  split
  next msg hm => exact .nowFailed h hx hm
  next ex' hm => exact .setPending h hx hm

theorem stage_pickleResult {out : JobOutcome Q} {clock c r : ℤ} {result : PrimitiveResult Q}
    (h : out.run = .ok ()) (hr : out.result = .ok result) :
    Stage lib out clock (pickleResult lib (Phase.running c r).record result) (.running c r) := by
  rw [pickleResult]
  split
  next data hd => exact .nowCompleted h hr hd
  next e hd => exact stage_handle h (.dumps hr hd)

open World in
/-- One step of an executor: what it writes is the record of the phase it leads to. -/
theorem Stage.step {w : World Q} {jobId : String} {job : Job Q} {p : ExecutorPoint Q}
    {phase : Phase}
    (h : Stage lib (sim jobId job.primitive job.inputs) w.clock (.suspended p) phase)
    (hc : w.cache jobId = some phase.record) (ht : phase.Timely w.clock) :
    ∃ phase', Stage lib (sim jobId job.primitive job.inputs) w.clock
        (executorResume lib jobId p (w.answer sim jobId job p)) phase' ∧
      phase'.Timely w.clock ∧ (phase' = phase ∨ phase.Next phase') ∧
      ((p.write = none ∧ phase' = phase) ∨ p.write = some phase'.record) := by
  cases h with
  | readRecord =>
    have hreply : w.answer sim jobId job .readRecord = some (Phase.record _) := hc
    rw [hreply]
    exact ⟨_, .run, ht, Or.inl rfl, Or.inl ⟨rfl, rfl⟩⟩
  | @run c =>
    cases hr : (sim jobId job.primitive job.inputs).run with
    | ok _ =>
      have hreply : w.answer sim jobId job (.run (Phase.queued c).record) = .ok () := hr
      rw [hreply]
      exact ⟨_, .nowRunning hr, ht, Or.inl rfl, Or.inl ⟨rfl, rfl⟩⟩
    | error ex =>
      have hreply : w.answer sim jobId job (.run (Phase.queued c).record) = .error ex := hr
      rw [hreply]
      exact ⟨_, .notRun hr, ht, Or.inl rfl, Or.inl ⟨rfl, rfl⟩⟩
  | @nowRunning c h =>
    refine ⟨.queued c, ?_, ht, Or.inl rfl, Or.inl ⟨rfl, rfl⟩⟩
    have hs : Stage lib (sim jobId job.primitive job.inputs) w.clock
        (.suspended (.setRunning (Phase.running c w.clock).record)) (.queued c) :=
      .setRunning h ⟨ht, le_refl w.clock⟩
    rw [← Phase.record_running] at hs
    exact hs
  | setRunning h ht' => exact ⟨_, .result h, ht', Or.inr .start, Or.inr rfl⟩
  | @result c r h =>
    refine ⟨_, ?_, ht, Or.inl rfl, Or.inl ⟨rfl, rfl⟩⟩
    cases hr : (sim jobId job.primitive job.inputs).result with
    | error ex =>
      have hreply : w.answer sim jobId job (.result (Phase.running c r).record) = .error ex := hr
      rw [hreply]
      exact stage_handle h (.result hr)
    | ok result =>
      have hreply : w.answer sim jobId job (.result (Phase.running c r).record) = .ok result := hr
      rw [hreply]
      exact stage_pickleResult h hr
  | @nowCompleted c r _ data h hr hd =>
    refine ⟨.running c r, ?_, ht, Or.inl rfl, Or.inl ⟨rfl, rfl⟩⟩
    have hs := Stage.setCompleted (c := c) (r := r) (f := w.clock) h hr hd
      ⟨ht.1, ht.2, le_refl w.clock⟩
    rw [← Phase.record_completed] at hs
    exact hs
  | @nowFailed c r _ msg h hx hm =>
    refine ⟨.running c r, ?_, ht, Or.inl rfl, Or.inl ⟨rfl, rfl⟩⟩
    have hs := Stage.setFailed (c := c) (r := r) (f := w.clock) h hx hm
      ⟨ht.1, ht.2, le_refl w.clock⟩
    rw [← Phase.record_failed] at hs
    exact hs
  | setCompleted h hr hd ht' => exact ⟨_, .completed h hr hd, ht', Or.inr .complete, Or.inr rfl⟩
  | setFailed h hx hm ht' => exact ⟨_, .failed h hx hm, ht', Or.inr .fail, Or.inr rfl⟩
  | setPending h hx hm => exact ⟨_, .unreported h hx hm, ht, Or.inl rfl, Or.inr rfl⟩

/-- The store as a map of phases. -/
abbrev Lives := String → Option Phase

/-- One job is created or moves to its next phase, or nothing happens. -/
inductive LifeStep (lives : Lives) : Option String → Lives → Prop
  | stay {label : Option String} : LifeStep lives label lives
  | create {jobId : String} {created : ℤ} (h : lives jobId = none) :
      LifeStep lives (some jobId) (Function.update lives jobId (some (.queued created)))
  | next {jobId : String} {phase phase' : Phase} (h : lives jobId = some phase)
      (hn : phase.Next phase') :
      LifeStep lives (some jobId) (Function.update lives jobId (some phase'))

/-- The map of phases that a world stands for. -/
structure Tracks (lib : ThirdParty Q) (sim : Simulator Q) (w : World Q) (lives : Lives) :
    Prop where
  cache : ∀ jobId, w.cache jobId = (lives jobId).map Phase.record
  jobs : ∀ jobId, w.jobs jobId = none → lives jobId = none
  stage : ∀ jobId job, w.jobs jobId = some job → ∃ phase, lives jobId = some phase ∧
    phase.Timely w.clock ∧ Stage lib (sim jobId job.primitive job.inputs) w.clock job.executor phase

theorem tracks_empty (clock : ℤ) : Tracks lib sim (World.empty clock) fun _ => none where
  cache _ := rfl
  jobs _ _ := rfl
  stage _ _ h := by cases h

open World in
theorem Tracks.submit {w : World Q} {lives : Lives} (h : Tracks lib sim w lives) {jobId : String}
    (hfresh : w.jobs jobId = none) (primitive : BackendPrimitive Q) (inputs : Pubs Q) :
    Tracks lib sim (w.submit jobId primitive inputs)
      (Function.update lives jobId (some (.queued w.clock))) := by
  have hnone : w.cache jobId = none := by
    rw [h.cache, h.jobs jobId hfresh]
    rfl
  refine ⟨?_, ?_, ?_⟩
  · intro j
    rw [submit_cache hnone]
    by_cases hj : j = jobId
    · subst hj
      simp [Phase.record]
    · rw [Function.update_of_ne hj, Function.update_of_ne hj, h.cache]
  · intro j hj
    by_cases hjj : j = jobId
    · subst hjj
      simp at hj
    · rw [submit_jobs_of_ne hjj] at hj
      rw [Function.update_of_ne hjj]
      exact h.jobs j hj
  · intro j job hj
    by_cases hjj : j = jobId
    · subst hjj
      rw [submit_jobs_self] at hj
      cases hj
      exact ⟨.queued w.clock, Function.update_self .., le_refl w.clock, .readRecord⟩
    · rw [submit_jobs_of_ne hjj] at hj
      rw [Function.update_of_ne hjj]
      exact h.stage j job hj

open World in
theorem Tracks.advance {w : World Q} {lives : Lives} (h : Tracks lib sim w lives)
    {jobId : String} {job : Job Q} {p : ExecutorPoint Q} (hj : w.jobs jobId = some job)
    (hp : job.executor = .suspended p) :
    ∃ lives', Tracks lib sim (w.advance lib sim jobId job p) lives' ∧
      LifeStep lives (some jobId) lives' := by
  obtain ⟨phase, hphase, ht, hs⟩ := h.stage jobId job hj
  rw [hp] at hs
  have hc : w.cache jobId = some phase.record := by
    rw [h.cache, hphase]
    rfl
  obtain ⟨phase', hs', ht', hn, hw⟩ := hs.step hc ht
  refine ⟨Function.update lives jobId (some phase'), ⟨?_, ?_, ?_⟩, ?_⟩
  · intro j
    have hset : World.set w.cache jobId p.write =
        Function.update w.cache jobId (some phase'.record) := by
      rcases hw with ⟨hw, rfl⟩ | hw
      · rw [hw, ← hc, Function.update_eq_self]
        rfl
      · rw [hw]
        rfl
    have hcache : (w.advance lib sim jobId job p).cache =
        Function.update w.cache jobId (some phase'.record) := hset
    rw [hcache]
    by_cases hjj : j = jobId
    · subst hjj
      simp
    · rw [Function.update_of_ne hjj, Function.update_of_ne hjj, h.cache]
  · intro j hjn
    by_cases hjj : j = jobId
    · subst hjj
      simp at hjn
    · rw [advance_jobs_of_ne hjj] at hjn
      rw [Function.update_of_ne hjj]
      exact h.jobs j hjn
  · intro j job' hj'
    by_cases hjj : j = jobId
    · subst hjj
      rw [advance_jobs_self] at hj'
      cases hj'
      exact ⟨phase', Function.update_self .., ht', hs'⟩
    · rw [advance_jobs_of_ne hjj] at hj'
      rw [Function.update_of_ne hjj]
      exact h.stage j job' hj'
  · rcases hn with rfl | hn
    · rw [← hphase, Function.update_eq_self]
      exact .stay
    · exact .next hphase hn

/-- The store refines the map of phases. -/
theorem Tracks.step {w w' : World Q} {lives : Lives} {label : Option String}
    (h : Tracks lib sim w lives) (hs : World.Step lib sim w label w') :
    ∃ lives', Tracks lib sim w' lives' ∧ LifeStep lives label lives' := by
  cases hs with
  | @submit jobId hfresh primitive inputs =>
    exact ⟨_, h.submit hfresh primitive inputs, .create (h.jobs jobId hfresh)⟩
  | advance hj hp => exact h.advance hj hp
  | tick hclock =>
    refine ⟨lives, ⟨h.cache, h.jobs, ?_⟩, .stay⟩
    intro jobId job hj
    obtain ⟨phase, hphase, ht, hs⟩ := h.stage jobId job hj
    exact ⟨phase, hphase, ht.mono hclock, hs.mono hclock⟩

theorem Tracks.steps {w w' : World Q} {lives : Lives} (h : Tracks lib sim w lives)
    (hs : World.Steps lib sim w w') : ∃ lives', Tracks lib sim w' lives' := by
  induction hs with
  | refl => exact ⟨lives, h⟩
  | tail _ hs ih =>
    obtain ⟨lives', ht⟩ := ih
    obtain ⟨label, hs⟩ := hs
    obtain ⟨lives'', ht', _⟩ := ht.step hs
    exact ⟨lives'', ht'⟩

theorem tracks_of_reachable {w : World Q} (h : World.Reachable lib sim w) :
    ∃ lives, Tracks lib sim w lives := by
  obtain ⟨clock, hsteps⟩ := h
  exact (tracks_empty clock).steps hsteps

end PrefectQiskit.QiskitAer
