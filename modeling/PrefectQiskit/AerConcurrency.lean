import PrefectQiskit.AerTermination
import PrefectQiskit.AttemptProtocol

/-!
# Concurrent calls on one store

A system is the world of the Aer jobs together with any number of runner tasks. A task is
answered by the Aer client from the world, one await at a time, between arbitrary steps of
executors and of other tasks.
-/

namespace PrefectQiskit.QiskitAer

open World PrimitiveRunner Coroutine

variable {Q : Qiskit}

/-- A call of the task of a runtime block whose credentials give this client. -/
structure Call (Q : Qiskit) where
  runtime : QuantumRuntime
  client : QiskitAerClient Q
  context : TaskRunContext
  primitiveBlocs : Pubs Q
  programType : ProgramType
  options : Option PyDict

namespace Call

abbrev args (c : Call Q) : RunPrimitiveArgs Q :=
  c.runtime.configuredRunner c.context c.primitiveBlocs c.programType c.options

abbrev task (c : Call Q) (py : Builtins) :
    Coroutine (RetryPoint (Await Q)) (Event Q) (Outcome Q) :=
  c.runtime.buildRunnerTask py c.context c.primitiveBlocs c.programType c.options

/-- The backend primitive that this call asks for. -/
def primitive (c : Call Q) : BackendPrimitive Q :=
  ⟨c.programType, c.client.backend, c.options.getD []⟩

end Call

/-- How far a call has come. -/
structure CallState (Q : Qiskit) where
  transcript : List (Event Q)
  status : Status (RetryPoint (Await Q)) (Outcome Q)

/-- The answer of the Aer client to an await, with the world it leaves. Whether the artifact
can be stored is left open. -/
inductive Serves (py : Builtins) (lib : ThirdParty Q) (c : Call Q) (w : World Q) :
    (p : Await Q) → p.Reply → World Q → Prop
  | checkResourceAvailable :
      Serves py lib c w .checkResourceAvailable
        (checkResourceAvailable py c.runtime.resourceName) w
  | submitted {jobId : String} {primitive : BackendPrimitive Q}
      (hp : backendPrimitive py lib c.client c.programType c.runtime.resourceName
        (c.options.getD []) = .ok primitive) (hfresh : w.jobs jobId = none) :
      Serves py lib c w .runPrimitive (.ok (.str jobId))
        (w.submit jobId primitive c.primitiveBlocs)
  | rejected {ex : PyException}
      (hp : backendPrimitive py lib c.client c.programType c.runtime.resourceName
        (c.options.getD []) = .error ex) :
      Serves py lib c w .runPrimitive (.error ex) w
  | getJobStatus {jobId : String} :
      Serves py lib c w (.getJobStatus jobId) (getJobStatus py jobId (w.entry jobId)) w
  | sleep {jobId : String} : Serves py lib c w (.sleep jobId) (.ok ()) w
  | getPrimitiveResult {jobId : String} :
      Serves py lib c w (.getPrimitiveResult jobId)
        (getPrimitiveResult lib jobId (w.entry jobId)) w
  | getJobMetrics {jobId : String} {result : Fetched Q} :
      Serves py lib c w (.getJobMetrics jobId result) (getJobMetrics jobId (w.entry jobId)) w
  | createTableArtifact {table : PyDict} {result : Fetched Q} (reply : Except PyException Unit) :
      Serves py lib c w (.createTableArtifact table result) reply w

structure System (Q : Qiskit) (ι : Type) where
  world : World Q
  calls : ι → CallState Q

namespace System

variable {ι : Type} [DecidableEq ι]

def initial (clock : ℤ) : System Q ι := ⟨World.empty clock, fun _ => ⟨[], taskStart⟩⟩

/-- The call `i` gets its answer. -/
def answer (s : System Q ι) (py : Builtins) (calls : ι → Call Q) (i : ι)
    (p : RetryPoint (Await Q)) (reply : p.point.Reply) (w : World Q) : System Q ι where
  world := w
  calls := Function.update s.calls i
    ⟨(s.calls i).transcript ++ [p.point.event (calls i).args reply],
      ((calls i).task py).resume p reply⟩

inductive Step (py : Builtins) (lib : ThirdParty Q) (sim : Simulator Q) (calls : ι → Call Q)
    (s : System Q ι) : System Q ι → Prop
  | call {i : ι} {p : RetryPoint (Await Q)} {reply : p.point.Reply} {w : World Q}
      (hp : (s.calls i).status = .suspended p)
      (hs : Serves py lib (calls i) s.world p.point reply w) :
      Step py lib sim calls s (s.answer py calls i p reply w)
  | world {label : Option String} {w : World Q} (hw : World.Step lib sim s.world label w) :
      Step py lib sim calls s { s with world := w }

def Reachable (py : Builtins) (lib : ThirdParty Q) (sim : Simulator Q) (calls : ι → Call Q)
    (s : System Q ι) : Prop :=
  ∃ clock, Relation.ReflTransGen (Step py lib sim calls) (initial clock) s

end System

variable {py : Builtins} {lib : ThirdParty Q} {sim : Simulator Q} {c : Call Q} {w w' : World Q}
  {t : List (Event Q)}

/-- The call submitted this job. -/
abbrev Call.submitted (c : Call Q) (jobId : String) : Event Q :=
  submission c.args (.ok (.str jobId))

/-- What the simulator does with a job of this call. -/
abbrev Call.outcome (c : Call Q) (sim : Simulator Q) (jobId : String) : JobOutcome Q :=
  sim jobId c.primitive c.primitiveBlocs

/-- The job in the store is one of this call. -/
def Call.Owns (c : Call Q) (w : World Q) (jobId : String) : Prop :=
  ∃ job, w.jobs jobId = some job ∧ job.primitive = c.primitive ∧ job.inputs = c.primitiveBlocs

/-- No submitted job has failed in the simulator. -/
def Clean (sim : Simulator Q) (c : Call Q) (t : List (Event Q)) : Prop :=
  ∀ jobId, c.submitted jobId ∈ t → ∀ ex, (c.outcome sim jobId).result ≠ .error ex

/-- The job is the last submitted one, and the ones before it did not fail. -/
def Watching (sim : Simulator Q) (c : Call Q) (t : List (Event Q)) (jobId : String) : Prop :=
  ∃ pre post, t = pre ++ c.submitted jobId :: post ∧ Clean sim c pre ∧
    ∀ e ∈ post, isSubmission e = false

/-- The value is the result that the simulator gave to a job of this call. -/
def Produced (sim : Simulator Q) (c : Call Q) (t : List (Event Q)) (value : Fetched Q) : Prop :=
  ∃ jobId result, c.submitted jobId ∈ t ∧ (c.outcome sim jobId).result = .ok result ∧
    value = .primitiveResult result

/-- The failure that reports a job with this message. -/
def jobFailure (jobId msg : String) : PyException :=
  .runtimeJobFailure ⟨s!"Primitive Job failure; {msg}", none, false, some jobId⟩

/-- What is known of a call at each of its awaits and at its end. -/
inductive CallInvariant (py : Builtins) (sim : Simulator Q) (c : Call Q) (w : World Q)
    (t : List (Event Q)) : Status (RetryPoint (Await Q)) (Outcome Q) → Prop
  | checking {n : ℕ} (h : Clean sim c t) :
      CallInvariant py sim c w t (.suspended ⟨n, .checkResourceAvailable⟩)
  | submitting {n : ℕ} (h : Clean sim c t) :
      CallInvariant py sim c w t (.suspended ⟨n, .runPrimitive⟩)
  | polling {n : ℕ} {jobId : String} (h : Watching sim c t jobId) :
      CallInvariant py sim c w t (.suspended ⟨n, .getJobStatus jobId⟩)
  | sleeping {n : ℕ} {jobId : String} (h : Watching sim c t jobId) :
      CallInvariant py sim c w t (.suspended ⟨n, .sleep jobId⟩)
  | fetching {n : ℕ} {jobId : String} (h : Watching sim c t jobId)
      (hc : getJobStatus py jobId (w.entry jobId) = .ok (.str "COMPLETED")) :
      CallInvariant py sim c w t (.suspended ⟨n, .getPrimitiveResult jobId⟩)
  | measuring {n : ℕ} {jobId : String} {value : Fetched Q} (h : Clean sim c t)
      (hr : Produced sim c t value) :
      CallInvariant py sim c w t (.suspended ⟨n, .getJobMetrics jobId value⟩)
  | storing {n : ℕ} {table : PyDict} {value : Fetched Q} (h : Clean sim c t)
      (hr : Produced sim c t value) :
      CallInvariant py sim c w t (.suspended ⟨n, .createTableArtifact table value⟩)
  | returned {value : Fetched Q} (h : Clean sim c t) (hr : Produced sim c t value) :
      CallInvariant py sim c w t (.finished (.ok value))
  | raised {ex : PyException} (h : Clean sim c t) :
      CallInvariant py sim c w t (.finished (.error ex))
  | failed {jobId msg : String} {ex : PyException} (h : Watching sim c t jobId)
      (hr : (c.outcome sim jobId).result = .error ex) (hm : ex.str = .ok msg) :
      CallInvariant py sim c w t (.finished (.error (jobFailure jobId msg)))

theorem Clean.snoc {e : Event Q} (h : Clean sim c t) (he : ∀ jobId, c.submitted jobId ≠ e) :
    Clean sim c (t ++ [e]) := by
  intro jobId hj
  rcases List.mem_append.mp hj with hj | hj
  · exact h jobId hj
  · exact absurd (List.mem_singleton.mp hj) (he jobId)

theorem Produced.snoc {value : Fetched Q} (h : Produced sim c t value) (e : Event Q) :
    Produced sim c (t ++ [e]) value := by
  obtain ⟨jobId, result, hj, hr⟩ := h
  exact ⟨jobId, result, List.mem_append_left _ hj, hr⟩

theorem Watching.snoc {jobId : String} {e : Event Q} (h : Watching sim c t jobId)
    (he : isSubmission e = false) : Watching sim c (t ++ [e]) jobId := by
  obtain ⟨pre, post, rfl, hpre, hpost⟩ := h
  refine ⟨pre, post ++ [e], by simp, hpre, ?_⟩
  intro x hx
  rcases List.mem_append.mp hx with hx | hx
  · exact hpost x hx
  · rw [List.mem_singleton.mp hx]
    exact he

theorem Watching.mem {jobId : String} (h : Watching sim c t jobId) : c.submitted jobId ∈ t := by
  obtain ⟨pre, post, rfl, _, _⟩ := h
  simp

/-- When the watched job did not fail either, none did. -/
theorem Watching.clean {jobId : String} (h : Watching sim c t jobId)
    (hr : ∀ ex, (c.outcome sim jobId).result ≠ .error ex) : Clean sim c t := by
  obtain ⟨pre, post, rfl, hpre, hpost⟩ := h
  intro jobId' hj
  rcases List.mem_append.mp hj with hj | hj
  · exact hpre jobId' hj
  · rcases List.mem_cons.mp hj with he | hj
    · cases he
      exact hr
    · have hs := hpost _ hj
      cases hs

theorem watching_submitted {jobId : String} (h : Clean sim c t) :
    Watching sim c (t ++ [c.submitted jobId]) jobId :=
  ⟨t, [], rfl, h, by simp⟩

theorem Call.Owns.step {label : Option String} {jobId : String} (h : c.Owns w jobId)
    (hs : World.Step lib sim w label w') : c.Owns w' jobId := by
  obtain ⟨job, hj, hp, hi⟩ := h
  cases hs with
  | submit hfresh => exact ⟨job, (submit_jobs_of_ne (ne_of_fresh hj hfresh)).trans hj, hp, hi⟩
  | @advance jobId' job' p hj' hp' =>
    by_cases hjj : jobId = jobId'
    · subst hjj
      rw [hj] at hj'
      cases hj'
      exact ⟨_, advance_jobs_self, hp, hi⟩
    · exact ⟨job, (advance_jobs_of_ne hjj).trans hj, hp, hi⟩
  | tick _ => exact ⟨job, hj, hp, hi⟩

theorem Call.Owns.steps {jobId : String} (h : c.Owns w jobId) (hs : Steps lib sim w w') :
    c.Owns w' jobId := by
  induction hs with
  | refl => exact h
  | tail _ hs ih =>
    obtain ⟨label, hs⟩ := hs
    exact ih.step hs

theorem CallInvariant.steps {s : Status (RetryPoint (Await Q)) (Outcome Q)} {lives : Lives}
    (h : CallInvariant py sim c w t s) (ht : Tracks lib sim w lives) (hs : Steps lib sim w w') :
    CallInvariant py sim c w' t s := by
  cases h with
  | checking h => exact .checking h
  | submitting h => exact .submitting h
  | polling h => exact .polling h
  | sleeping h => exact .sleeping h
  | @fetching n jobId h hc =>
    refine .fetching h ?_
    obtain ⟨_, _, _, _, _, he, _, _⟩ := ht.completed_entry hs hc
    rw [he, getJobStatus_record]
    rfl
  | measuring h hr => exact .measuring h hr
  | storing h hr => exact .storing h hr
  | returned h hr => exact .returned h hr
  | raised h => exact .raised h
  | failed h hr hm => exact .failed h hr hm

/-- What the retry loop makes of an attempt whose jobs did not fail. -/
theorem callInvariant_afterAttempt {budget n : ℕ} {retryable : PyException → Bool}
    {st : AttemptStatus Q} (h : Clean sim c t)
    (hs : ∀ q, st = .suspended q → CallInvariant py sim c w t (.suspended ⟨n, q⟩))
    (hr : ∀ value, st = .finished (.ok value) → Produced sim c t value) :
    CallInvariant py sim c w t (afterAttempt .checkResourceAvailable budget retryable n st) := by
  cases st with
  | suspended q => exact hs q rfl
  | finished o =>
    cases o with
    | ok value => exact .returned h (hr value rfl)
    | error ex =>
      by_cases hc : n < budget ∧ retryable ex
      · simpa [afterAttempt, hc] using CallInvariant.checking h
      · simpa [afterAttempt, hc] using CallInvariant.raised h

/-- The status of an owned job. -/
theorem Call.Owns.status {lives : Lives} {jobId : String} (h : c.Owns w jobId)
    (ht : Tracks lib sim w lives) (py : Builtins) :
    ∃ s phase clock, Stage lib (c.outcome sim jobId) clock s phase ∧
      w.entry jobId = some (.dict phase.record) ∧
      getJobStatus py jobId (w.entry jobId) = phase.report py jobId := by
  obtain ⟨job, hj, hp, hi⟩ := h
  obtain ⟨phase, hphase, _, hstage⟩ := ht.stage jobId job hj
  rw [hp, hi] at hstage
  have he : w.entry jobId = some (.dict phase.record) := by
    rw [ht.entry, hphase]
    rfl
  exact ⟨_, phase, _, hstage, he, by rw [he, getJobStatus_record]⟩

/-- A poll of a watched job. -/
theorem callInvariant_poll {lives : Lives} {n budget : ℕ} {jobId : String}
    (h : Watching sim c t jobId) (ho : c.Owns w jobId) (ht : Tracks lib sim w lives) :
    CallInvariant py sim c w
      (t ++ [.getJobStatus jobId (getJobStatus py jobId (w.entry jobId))])
      (afterAttempt .checkResourceAvailable budget
        (fun ex => retryOnFailure (.error ex : Outcome Q)) n
        (andThen (getJobStatus py jobId (w.entry jobId)) (waitForCompletion jobId))) := by
  obtain ⟨s, phase, clock, hstage, _, hreport⟩ := ho.status ht py
  have hw : Watching sim c
      (t ++ [.getJobStatus jobId (getJobStatus py jobId (w.entry jobId))]) jobId := h.snoc rfl
  cases phase with
  | queued _ =>
    have hrun : CallInvariant py sim c w _ (.suspended ⟨n, .sleep jobId⟩) := .sleeping hw
    rw [hreport] at hrun ⊢
    exact hrun
  | running _ _ =>
    have hrun : CallInvariant py sim c w _ (.suspended ⟨n, .sleep jobId⟩) := .sleeping hw
    rw [hreport] at hrun ⊢
    exact hrun
  | completed _ _ _ _ =>
    have hrun : CallInvariant py sim c w _ (.suspended ⟨n, .getPrimitiveResult jobId⟩) :=
      .fetching hw hreport
    rw [hreport] at hrun ⊢
    exact hrun
  | failed _ _ _ msg =>
    have hend : afterAttempt .checkResourceAvailable budget
        (fun ex => retryOnFailure (.error ex : Outcome Q)) n
        (.finished (.error (jobFailure jobId msg)) : AttemptStatus Q) =
        .finished (.error (jobFailure jobId msg)) := afterAttempt_not_retryable rfl
    have hinv : CallInvariant py sim c w
        (t ++ [.getJobStatus jobId (getJobStatus py jobId (w.entry jobId))])
        (.finished (.error (jobFailure jobId msg))) := by
      cases hstage with
      | failed _ hx hm =>
        cases hx with
        | result hr => exact .failed hw hr hm
        | dumps hr _ =>
          apply CallInvariant.raised
          apply hw.clean
          intro ex he
          rw [hr] at he
          cases he
    rw [← hend, hreport] at hinv
    rw [hreport]
    exact hinv

/-- A completed job is read back as its result. -/
theorem fetched_completed {lives : Lives} {jobId : String} (ho : c.Owns w jobId)
    (ht : Tracks lib sim w lives)
    (hc : getJobStatus py jobId (w.entry jobId) = .ok (.str "COMPLETED")) :
    ∃ result, (c.outcome sim jobId).result = .ok result ∧
      getPrimitiveResult lib jobId (w.entry jobId) = .ok (.primitiveResult result) := by
  obtain ⟨job, hj, hp, hi⟩ := ho
  obtain ⟨job', cr, r, f, result, data, hj', hphase, _, hr, hd⟩ := ht.completed hc
  rw [hj] at hj'
  cases hj'
  rw [hp, hi] at hr
  refine ⟨result, hr, ?_⟩
  rw [ht.entry, hphase]
  exact getPrimitiveResult_completed hd jobId

/-- The result of a watched job that was completed. -/
theorem callInvariant_fetch {lives : Lives} {n budget : ℕ} {retryable : PyException → Bool}
    {jobId : String} (h : Watching sim c t jobId) (ho : c.Owns w jobId)
    (ht : Tracks lib sim w lives)
    (hc : getJobStatus py jobId (w.entry jobId) = .ok (.str "COMPLETED")) :
    CallInvariant py sim c w
      (t ++ [.getPrimitiveResult jobId (getPrimitiveResult lib jobId (w.entry jobId))])
      (afterAttempt .checkResourceAvailable budget retryable n
        (resume py c.args (.getPrimitiveResult jobId)
          (getPrimitiveResult lib jobId (w.entry jobId)))) := by
  obtain ⟨result, hr, hf⟩ := fetched_completed ho ht hc
  have hclean : Clean sim c t := by
    apply h.clean
    intro ex he
    rw [hr] at he
    cases he
  have hproduced : Produced sim c t (.primitiveResult result) := ⟨_, result, h.mem, hr, rfl⟩
  rw [hf]
  apply callInvariant_afterAttempt
  · exact hclean.snoc fun _ he => by cases he
  · intro q hq
    cases next_of_resume hq
    exact .measuring (hclean.snoc fun _ he => by cases he) (hproduced.snoc _)
  · intro value hv
    rcases resume_returned hv with ⟨_, _, he⟩ | ⟨_, hp⟩
    · cases he
      exact hproduced.snoc _
    · cases hp

/-- The backend primitive of an accepted submission. -/
theorem backendPrimitive_eq {primitive : BackendPrimitive Q}
    (h : backendPrimitive py lib c.client c.programType c.runtime.resourceName
      (c.options.getD []) = .ok primitive) : primitive = c.primitive := by
  obtain ⟨_, _, h⟩ := bind_eq_ok.mp h
  obtain ⟨_, _, h⟩ := bind_eq_ok.mp h
  cases h
  rfl

theorem Serves.steps (sim : Simulator Q) {p : Await Q} {reply : p.Reply}
    (h : Serves py lib c w p reply w') : Steps lib sim w w' := by
  cases h with
  | submitted _ hfresh => exact .single ⟨_, .submit hfresh _ _⟩
  | _ => exact .refl

/-- An answer keeps what is known of the call. -/
theorem CallInvariant.answer {lives : Lives} {p : RetryPoint (Await Q)} {reply : p.point.Reply}
    (h : CallInvariant py sim c w t (.suspended p))
    (ho : ∀ jobId, c.submitted jobId ∈ t → c.Owns w jobId) (ht : Tracks lib sim w lives)
    (hs : Serves py lib c w p.point reply w') :
    CallInvariant py sim c w' (t ++ [p.point.event c.args reply])
      ((c.task py).resume p reply) := by
  obtain ⟨n, p⟩ := p
  have hresume : (c.task py).resume ⟨n, p⟩ reply =
      afterAttempt .checkResourceAvailable c.runtime.maxRetry
        (fun ex => retryOnFailure (.error ex : Outcome Q)) n (resume py c.args p reply) := rfl
  rw [hresume]
  cases h with
  | checking h =>
    apply callInvariant_afterAttempt
    · exact h.snoc fun _ he => by cases he
    · intro q hq
      cases next_of_resume hq
      exact .submitting (h.snoc fun _ he => by cases he)
    · intro value hv
      rcases resume_returned hv with ⟨_, hp, _⟩ | ⟨_, hp⟩ <;> cases hp
  | submitting h =>
    cases hs with
    | submitted hp hfresh => exact .polling (watching_submitted h)
    | rejected hp =>
      apply callInvariant_afterAttempt
      · exact h.snoc fun _ he => by cases he
      · intro q hq
        cases hq
      · intro value hv
        cases hv
  | polling h =>
    cases hs with
    | getJobStatus => exact callInvariant_poll h (ho _ h.mem) ht
  | sleeping h =>
    cases hs with
    | sleep => exact .polling (h.snoc rfl)
  | fetching h hc =>
    cases hs with
    | getPrimitiveResult =>
      exact callInvariant_fetch h (ho _ h.mem) ht hc
  | measuring h hr =>
    apply callInvariant_afterAttempt
    · exact h.snoc fun _ he => by cases he
    · intro q hq
      cases next_of_resume hq
      exact .storing (h.snoc fun _ he => by cases he) (hr.snoc _)
    · intro value hv
      rcases resume_returned hv with ⟨_, hp, _⟩ | ⟨_, hp⟩ <;> cases hp
  | storing h hr =>
    apply callInvariant_afterAttempt
    · exact h.snoc fun _ he => by cases he
    · intro q hq
      cases next_of_resume hq
    · intro value hv
      rcases resume_returned hv with ⟨_, hp, _⟩ | ⟨_, hp⟩
      · cases hp
      · cases hp
        exact hr.snoc _

/-- The jobs of a call stay its own, and a new one is its own from the start. -/
theorem Serves.owns (sim : Simulator Q) {p : Await Q} {reply : p.Reply}
    (hs : Serves py lib c w p reply w')
    (ho : ∀ jobId, c.submitted jobId ∈ t → c.Owns w jobId) :
    ∀ jobId, c.submitted jobId ∈ t ++ [p.event c.args reply] → c.Owns w' jobId := by
  intro jobId hj
  rcases List.mem_append.mp hj with hj | hj
  · exact (ho jobId hj).steps (hs.steps sim)
  · have he := List.mem_singleton.mp hj
    cases hs with
    | submitted hp hfresh =>
      cases he
      exact ⟨_, submit_jobs_self, backendPrimitive_eq hp, rfl⟩
    | _ => cases he

/-- What is known of a whole system. -/
structure SystemInvariant {ι : Type} (py : Builtins) (lib : ThirdParty Q) (sim : Simulator Q)
    (calls : ι → Call Q) (s : System Q ι) : Prop where
  tracks : ∃ lives, Tracks lib sim s.world lives
  owns : ∀ i jobId, (calls i).submitted jobId ∈ (s.calls i).transcript →
    (calls i).Owns s.world jobId
  call : ∀ i, CallInvariant py sim (calls i) s.world (s.calls i).transcript (s.calls i).status

section Systems

variable {ι : Type} {calls : ι → Call Q} {s s' : System Q ι}

theorem systemInvariant_initial (clock : ℤ) :
    SystemInvariant py lib sim calls (System.initial clock) where
  tracks := ⟨_, tracks_empty clock⟩
  owns i jobId h := by cases h
  call i := .checking fun jobId h => by cases h

/-- A step of the world leaves the calls alone. -/
theorem SystemInvariant.world {w : World Q} (h : SystemInvariant py lib sim calls s)
    (hs : Steps lib sim s.world w) : SystemInvariant py lib sim calls { s with world := w } := by
  obtain ⟨lives, ht⟩ := h.tracks
  refine ⟨ht.steps hs, ?_, ?_⟩
  · intro i jobId hj
    exact (h.owns i jobId hj).steps hs
  · intro i
    exact (h.call i).steps ht hs

variable [DecidableEq ι]

theorem SystemInvariant.step (h : SystemInvariant py lib sim calls s)
    (hs : System.Step py lib sim calls s s') : SystemInvariant py lib sim calls s' := by
  cases hs with
  | world hw => exact h.world (.single ⟨_, hw⟩)
  | @call i p reply w hp hs =>
    have hworld := h.world (hs.steps sim)
    obtain ⟨lives, ht⟩ := h.tracks
    refine ⟨hworld.tracks, ?_, ?_⟩
    · intro j jobId hj
      by_cases hji : j = i
      · subst hji
        simp only [System.answer, Function.update_self] at hj
        exact hs.owns sim (h.owns j) jobId hj
      · simp only [System.answer, Function.update_of_ne hji] at hj
        exact hworld.owns j jobId hj
    · intro j
      by_cases hji : j = i
      · subst hji
        have hcall := h.call j
        rw [hp] at hcall
        simpa only [System.answer, Function.update_self] using
          hcall.answer (h.owns j) ht hs
      · simpa only [System.answer, Function.update_of_ne hji] using hworld.call j

theorem systemInvariant_of_reachable (h : System.Reachable py lib sim calls s) :
    SystemInvariant py lib sim calls s := by
  obtain ⟨clock, hsteps⟩ := h
  induction hsteps with
  | refl => exact systemInvariant_initial clock
  | tail _ hs ih => exact ih.step hs

/-- What a call may rely on: its value is the result of a job of its own, and a job that
failed in the simulator is the last one it submits and ends it with the message of the job. -/
structure CallSafety (sim : Simulator Q) (c : Call Q) (w : World Q) (s : CallState Q) : Prop where
  returned : ∀ value, s.status = .finished (.ok value) →
    ∃ jobId result, c.submitted jobId ∈ s.transcript ∧ c.Owns w jobId ∧
      (sim jobId ⟨c.programType, c.client.backend, c.options.getD []⟩ c.primitiveBlocs).result =
        .ok result ∧ value = .primitiveResult result
  failed : ∀ jobId ex, c.submitted jobId ∈ s.transcript →
    (c.outcome sim jobId).result = .error ex → ∀ o, s.status = .finished o →
    ∃ msg, ex.str = .ok msg ∧ o = .error (jobFailure jobId msg)
  no_further : ∀ pre jobId post ex, s.transcript = pre ++ c.submitted jobId :: post →
    (c.outcome sim jobId).result = .error ex → ∀ e ∈ post, isSubmission e = false

/-- Only the watched job can have failed. -/
theorem Watching.unique {jobId jobId' : String} {ex : PyException}
    (h : Watching sim c t jobId) (hj : c.submitted jobId' ∈ t)
    (hr : (c.outcome sim jobId').result = .error ex) : jobId' = jobId := by
  obtain ⟨pre, post, rfl, hpre, hpost⟩ := h
  rcases List.mem_append.mp hj with hj | hj
  · exact absurd hr (hpre jobId' hj ex)
  · rcases List.mem_cons.mp hj with he | hj
    · cases he
      rfl
    · have hs := hpost _ hj
      cases hs

/-- Nothing is submitted after a failed job. -/
theorem Watching.no_further {jobId jobId' : String} {ex : PyException} {pre post : List (Event Q)}
    (h : Watching sim c t jobId) (ht : t = pre ++ c.submitted jobId' :: post)
    (hr : (c.outcome sim jobId').result = .error ex) : ∀ e ∈ post, isSubmission e = false := by
  obtain ⟨pre', post', ht', hpre, hpost⟩ := h
  rw [ht'] at ht
  rcases List.append_eq_append_iff.mp ht with ⟨m, hm, hm'⟩ | ⟨m, hm, hm'⟩
  · cases m with
    | nil =>
      have he := (List.cons.inj hm').2
      rw [← he]
      exact hpost
    | cons x m =>
      have he := (List.cons.inj hm').2
      intro e hmem
      apply hpost e
      rw [he]
      exact List.mem_append_right _ (List.mem_cons_of_mem _ hmem)
  · cases m with
    | nil =>
      have he := (List.cons.inj hm').2
      rw [he]
      exact hpost
    | cons x m =>
      have hx := (List.cons.inj hm').1
      have hmem : c.submitted jobId' ∈ pre' := by
        rw [hm, hx]
        simp
      exact absurd hr (hpre jobId' hmem ex)

theorem CallInvariant.clean_or_watching {st : Status (RetryPoint (Await Q)) (Outcome Q)}
    (h : CallInvariant py sim c w t st) : Clean sim c t ∨ ∃ jobId, Watching sim c t jobId := by
  cases h with
  | checking h | submitting h | measuring h _ | storing h _ | returned h _ | raised h =>
    exact Or.inl h
  | polling h | sleeping h | fetching h _ | failed h _ _ => exact Or.inr ⟨_, h⟩

/-- Any number of calls on one store, with any interleaving of their steps and those of the
executors: each call is safe. -/
theorem callSafety_of_reachable (py : Builtins) (lib : ThirdParty Q) (sim : Simulator Q)
    (calls : ι → Call Q) {s : System Q ι} (h : System.Reachable py lib sim calls s) (i : ι) :
    CallSafety sim (calls i) s.world (s.calls i) := by
  have hinv := systemInvariant_of_reachable h
  have hcall := hinv.call i
  refine ⟨?_, ?_, ?_⟩
  · intro value hs
    rw [hs] at hcall
    cases hcall with
    | returned _ hr =>
      obtain ⟨jobId, result, hj, hr, rfl⟩ := hr
      exact ⟨jobId, result, hj, hinv.owns i jobId hj, hr, rfl⟩
  · intro jobId ex hj hr o hs
    rw [hs] at hcall
    cases hcall with
    | returned h _ => exact absurd hr (h jobId hj ex)
    | raised h => exact absurd hr (h jobId hj ex)
    | failed h hr' hm =>
      obtain rfl := h.unique hj hr
      rw [hr] at hr'
      cases hr'
      exact ⟨_, hm, rfl⟩
  · intro pre jobId post ex ht hr
    rcases hcall.clean_or_watching with h | ⟨jobId', h⟩
    · have hj : (calls i).submitted jobId ∈ (s.calls i).transcript := by
        rw [ht]
        simp
      exact absurd hr (h jobId hj ex)
    · exact h.no_further ht hr

end Systems

section Sample

/-- What a scheduler may do next; a submission gets the given identifier. -/
inductive Action (ι : Type) where
  | call (i : ι) (freshId : String)
  | executor (jobId : String)

variable {ι : Type} [DecidableEq ι]

/-- The submission under a given identifier, unless that is taken. -/
def serveSubmission (py : Builtins) (lib : ThirdParty Q) (c : Call Q) (w : World Q)
    (freshId : String) : Option (Except PyException PyValue × World Q) :=
  match backendPrimitive py lib c.client c.programType c.runtime.resourceName
    (c.options.getD []) with
  | .ok primitive =>
    if (w.jobs freshId).isNone then
      some (.ok (.str freshId), w.submit freshId primitive c.primitiveBlocs)
    else none
  | .error ex => some (.error ex, w)

/-- The answer of the client as a function. -/
def serve (py : Builtins) (lib : ThirdParty Q) (c : Call Q) (w : World Q) (freshId : String) :
    (p : Await Q) → Option (p.Reply × World Q)
  | .checkResourceAvailable => some (checkResourceAvailable py c.runtime.resourceName, w)
  | .runPrimitive => serveSubmission py lib c w freshId
  | .getJobStatus jobId => some (getJobStatus py jobId (w.entry jobId), w)
  | .sleep _ => some (.ok (), w)
  | .getPrimitiveResult jobId => some (getPrimitiveResult lib jobId (w.entry jobId), w)
  | .getJobMetrics jobId _ => some (getJobMetrics jobId (w.entry jobId), w)
  | .createTableArtifact _ _ => some (.ok (), w)

theorem serves_of_serveSubmission {freshId : String} {reply : Except PyException PyValue}
    (h : serveSubmission py lib c w freshId = some (reply, w')) :
    Serves py lib c w .runPrimitive reply w' := by
  rw [serveSubmission] at h
  split at h
  next primitive hp =>
    split at h
    next hfresh =>
      cases h
      exact .submitted hp (Option.isNone_iff_eq_none.mp hfresh)
    next => cases h
  next ex hp =>
    cases h
    exact .rejected hp

theorem serves_of_serve {freshId : String} {p : Await Q} {reply : p.Reply}
    (h : serve py lib c w freshId p = some (reply, w')) : Serves py lib c w p reply w' := by
  cases p with
  | runPrimitive => exact serves_of_serveSubmission h
  | checkResourceAvailable =>
    cases h
    exact .checkResourceAvailable
  | getJobStatus jobId =>
    cases h
    exact .getJobStatus
  | sleep jobId =>
    cases h
    exact .sleep
  | getPrimitiveResult jobId =>
    cases h
    exact .getPrimitiveResult
  | getJobMetrics jobId result =>
    cases h
    exact .getJobMetrics
  | createTableArtifact table result =>
    cases h
    exact .createTableArtifact _

namespace System

def actCall (py : Builtins) (lib : ThirdParty Q) (calls : ι → Call Q) (s : System Q ι) (i : ι)
    (freshId : String) : Status (RetryPoint (Await Q)) (Outcome Q) → System Q ι
  | .finished _ => s
  | .suspended p =>
    match serve py lib (calls i) s.world freshId p.point with
    | some (reply, w) => s.answer py calls i p reply w
    | none => s

def act (py : Builtins) (lib : ThirdParty Q) (sim : Simulator Q) (calls : ι → Call Q)
    (s : System Q ι) : Action ι → System Q ι
  | .executor jobId => { s with world := World.runJob lib sim jobId 1 s.world }
  | .call i freshId => s.actCall py lib calls i freshId (s.calls i).status

theorem reachable_actCall {calls : ι → Call Q} {s : System Q ι} {i : ι} {freshId : String}
    {st : Status (RetryPoint (Await Q)) (Outcome Q)} (h : Reachable py lib sim calls s)
    (hs : (s.calls i).status = st) :
    Reachable py lib sim calls (s.actCall py lib calls i freshId st) := by
  simp only [actCall]
  split
  next => exact h
  next p =>
    split
    next reply w hr =>
      obtain ⟨clock, hsteps⟩ := h
      exact ⟨clock, hsteps.tail (.call hs (serves_of_serve hr))⟩
    next => exact h

theorem reachable_world {calls : ι → Call Q} {s : System Q ι} {w : World Q}
    (h : Reachable py lib sim calls s) (hw : Steps lib sim s.world w) :
    Reachable py lib sim calls { s with world := w } := by
  induction hw with
  | refl => exact h
  | tail _ hs ih =>
    obtain ⟨clock, hsteps⟩ := ih
    obtain ⟨label, hs⟩ := hs
    exact ⟨clock, hsteps.tail (.world hs)⟩

theorem reachable_act {calls : ι → Call Q} {s : System Q ι} (h : Reachable py lib sim calls s)
    (actions : List (Action ι)) :
    Reachable py lib sim calls (actions.foldl (act py lib sim calls) s) := by
  induction actions generalizing s with
  | nil => exact h
  | cons action actions ih =>
    apply ih
    cases action with
    | executor jobId => exact reachable_world h (World.steps_runJob lib sim jobId 1 s.world)
    | call i freshId => exact reachable_actCall h rfl

end System

/-- Two calls that differ in their pubs. -/
def sampleCalls : Bool → Call plainQiskit
  | true => ⟨sampleRuntime false 1, ⟨()⟩, sampleContext, samplePubs, .sampler, none⟩
  | false => ⟨sampleRuntime false 1, ⟨()⟩, sampleContext, zeroPrecision, .estimator, none⟩

/-- The estimator job raises where its result is computed, the sampler job completes. -/
def failingSimulator : Simulator plainQiskit := fun _ primitive _ =>
  match primitive.programId with
  | .estimator => ⟨.ok (), .error (.foreign "AerError" (some "simulation failed"))⟩
  | .sampler => ⟨.ok (), .ok samplePrimitiveResult⟩

def sampleActions : List (Action Bool) :=
  [.call true "job-1", .call false "job-2", .call false "job-2", .call true "job-1"] ++
    (List.replicate 7 [Action.executor "job-1", .executor "job-2"]).flatten ++
    (List.replicate 2 [Action.call true "job-1", .call false "job-2"]).flatten

def sampleSystem : System plainQiskit Bool :=
  sampleActions.foldl (System.act .ascii sampleLib failingSimulator sampleCalls) (System.initial 7)

theorem callSafety_of_reachable_sample :
    (sampleSystem.calls true).status = .finished (.ok (.primitiveResult samplePrimitiveResult)) ∧
      (sampleSystem.calls false).status =
        .finished (.error (jobFailure "job-2" "simulation failed")) ∧
      ∀ i, CallSafety failingSimulator (sampleCalls i) sampleSystem.world (sampleSystem.calls i) :=
  ⟨rfl, rfl, fun i => callSafety_of_reachable .ascii sampleLib failingSimulator sampleCalls
    (System.reachable_act ⟨7, .refl⟩ sampleActions) i⟩

end Sample

end PrefectQiskit.QiskitAer
