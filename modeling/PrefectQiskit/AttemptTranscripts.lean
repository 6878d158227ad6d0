import PrefectQiskit.PrimitiveRunner

/-!
# The transcript of one attempt

Where an attempt is suspended determines what it has exchanged so far, up to the values
that the client chose: availability, submission, then alternating status polls and sleeps,
then the result, then the metrics. Facts about single events are read off this description.
-/

namespace PrefectQiskit.PrimitiveRunner

open Coroutine

variable {Q : Qiskit} {py : Builtins} {args : RunPrimitiveArgs Q}

/-- The submission of the job this attempt is about. -/
abbrev submission (args : RunPrimitiveArgs Q) (reply : Except PyException PyValue) : Event Q :=
  .runPrimitive args.programType args.primitiveBlocs args.resourceName
    (args.options.getD []) reply

/-- An attempt up to and including its submission. -/
def submitted (args : RunPrimitiveArgs Q) (available : PyValue) (jobId : String) :
    List (Event Q) :=
  [.checkResourceAvailable args.resourceName (.ok available), submission args (.ok (.str jobId))]

/-- Polls that did not report completion, each followed by a sleep. -/
def polls (jobId : String) (statuses : List PyValue) : List (Event Q) :=
  statuses.flatMap fun v => [.getJobStatus jobId (.ok v), .sleep (.ok ())]

/-- The poll that ends the loop. -/
abbrev completion (jobId : String) : Event Q := .getJobStatus jobId (.ok (.str "COMPLETED"))

@[simp] theorem polls_nil (jobId : String) : (polls jobId [] : List (Event Q)) = [] := rfl

theorem polls_snoc (jobId : String) (statuses : List PyValue) (v : PyValue) :
    (polls jobId (statuses ++ [v]) : List (Event Q)) =
      polls jobId statuses ++ [.getJobStatus jobId (.ok v), .sleep (.ok ())] := by
  simp [polls]

theorem mem_polls {jobId : String} {statuses : List PyValue} {e : Event Q} :
    e ∈ polls jobId statuses ↔
      ∃ v ∈ statuses, e = .getJobStatus jobId (.ok v) ∨ e = .sleep (.ok ()) := by
  simp [polls]

/-- What an attempt has exchanged when it is suspended at an await. -/
inductive Progress (args : RunPrimitiveArgs Q) : Await Q → List (Event Q) → Prop
  | checkResourceAvailable : Progress args .checkResourceAvailable []
  | runPrimitive {v : PyValue} (hv : v.truthy) :
      Progress args .runPrimitive [.checkResourceAvailable args.resourceName (.ok v)]
  | getJobStatus {v : PyValue} {jobId : String} {statuses : List PyValue} (hv : v.truthy)
      (hs : ∀ x ∈ statuses, x.eqStr "COMPLETED" = false) :
      Progress args (.getJobStatus jobId) (submitted args v jobId ++ polls jobId statuses)
  | sleep {v : PyValue} {jobId : String} {statuses : List PyValue} {x : PyValue}
      (hv : v.truthy) (hs : ∀ x ∈ statuses, x.eqStr "COMPLETED" = false)
      (hx : x.eqStr "COMPLETED" = false) :
      Progress args (.sleep jobId)
        (submitted args v jobId ++ polls jobId statuses ++ [.getJobStatus jobId (.ok x)])
  | getPrimitiveResult {v : PyValue} {jobId : String} {statuses : List PyValue}
      (hv : v.truthy) (hs : ∀ x ∈ statuses, x.eqStr "COMPLETED" = false) :
      Progress args (.getPrimitiveResult jobId)
        (submitted args v jobId ++ polls jobId statuses ++ [completion jobId])
  | getJobMetrics {v : PyValue} {jobId : String} {statuses : List PyValue} {result : Fetched Q}
      (hv : v.truthy) (hs : ∀ x ∈ statuses, x.eqStr "COMPLETED" = false)
      (ha : args.enableAnalytics) :
      Progress args (.getJobMetrics jobId result)
        (submitted args v jobId ++ polls jobId statuses ++
          [completion jobId, .getPrimitiveResult jobId (.ok result)])
  | createTableArtifact {v : PyValue} {jobId : String} {statuses : List PyValue}
      {result : Fetched Q} {metrics : JobMetrics} {table : PyDict}
      (hv : v.truthy) (hs : ∀ x ∈ statuses, x.eqStr "COMPLETED" = false)
      (ha : args.enableAnalytics) :
      Progress args (.createTableArtifact table result)
        (submitted args v jobId ++ polls jobId statuses ++
          [completion jobId, .getPrimitiveResult jobId (.ok result),
            .getJobMetrics jobId (.ok metrics)])

/-- The answers that let an attempt go on, each with the await it goes on to. -/
inductive Next (args : RunPrimitiveArgs Q) : (p : Await Q) → p.Reply → Await Q → Prop
  | runPrimitive {v : PyValue} (hv : v.truthy) :
      Next args .checkResourceAvailable (.ok v) .runPrimitive
  | getJobStatus {jobId : String} : Next args .runPrimitive (.ok (.str jobId)) (.getJobStatus jobId)
  | sleep {jobId : String} {v : PyValue} (hv : v.eqStr "COMPLETED" = false) :
      Next args (.getJobStatus jobId) (.ok v) (.sleep jobId)
  | getPrimitiveResult {jobId : String} :
      Next args (.getJobStatus jobId) (.ok (.str "COMPLETED")) (.getPrimitiveResult jobId)
  | pollAgain {jobId : String} : Next args (.sleep jobId) (.ok ()) (.getJobStatus jobId)
  | getJobMetrics {jobId : String} {result : Fetched Q} (ha : args.enableAnalytics) :
      Next args (.getPrimitiveResult jobId) (.ok result) (.getJobMetrics jobId result)
  | createTableArtifact {jobId : String} {result : Fetched Q} {metrics : JobMetrics}
      {table : PyDict} :
      Next args (.getJobMetrics jobId result) (.ok metrics) (.createTableArtifact table result)

/-- An await either continues with its value or passes its exception on. -/
theorem andThen_cases {β : Type} {reply : Except PyException β} {k : β → AttemptStatus Q}
    {s : AttemptStatus Q} (h : andThen reply k = s) :
    (∃ b, reply = .ok b ∧ k b = s) ∨ ∃ ex, reply = .error ex ∧ s = .finished (.error ex) := by
  cases reply with
  | ok b => exact Or.inl ⟨b, rfl, h⟩
  | error ex => exact Or.inr ⟨ex, rfl, h.symm⟩

theorem andThen_suspended {β : Type} {reply : Except PyException β} {k : β → AttemptStatus Q}
    {q : Await Q} (h : andThen reply k = .suspended q) :
    ∃ b, reply = .ok b ∧ k b = .suspended q := by
  rcases andThen_cases h with hb | ⟨_, _, hs⟩
  · exact hb
  · cases hs

theorem andThen_returned {β : Type} {reply : Except PyException β} {k : β → AttemptStatus Q}
    {result : Fetched Q} (h : andThen reply k = .finished (.ok result)) :
    ∃ b, reply = .ok b ∧ k b = .finished (.ok result) := by
  rcases andThen_cases h with hb | ⟨_, _, hs⟩
  · exact hb
  · cases hs

/-- What one answer can do, read off the code once. -/
theorem next_of_resume {p q : Await Q} {reply : p.Reply}
    (h : resume py args p reply = .suspended q) : Next args p reply q := by
  cases p with
  | checkResourceAvailable =>
    obtain ⟨v, rfl, hv⟩ := andThen_suspended h
    rw [trigger] at hv
    split at hv
    · cases hv
    next ht =>
      cases hv
      exact .runPrimitive (by simpa using ht)
  | runPrimitive =>
    obtain ⟨v, rfl, hv⟩ := andThen_suspended h
    cases v <;> cases hv
    exact .getJobStatus
  | getJobStatus jobId =>
    obtain ⟨v, rfl, hv⟩ := andThen_suspended h
    rw [waitForCompletion] at hv
    split at hv
    next hc =>
      cases hv
      rw [PyValue.eqStr_iff.mp hc]
      exact .getPrimitiveResult
    next hc =>
      cases hv
      exact .sleep (by simpa using hc)
  | sleep jobId =>
    obtain ⟨v, rfl, hv⟩ := andThen_suspended h
    cases hv
    exact .pollAgain
  | getPrimitiveResult jobId =>
    obtain ⟨v, rfl, hv⟩ := andThen_suspended h
    rw [fetchResult] at hv
    split at hv
    next ha =>
      cases hv
      exact .getJobMetrics ha
    · cases hv
  | getJobMetrics jobId result =>
    obtain ⟨v, rfl, hv⟩ := andThen_suspended h
    rw [fetchMetrics] at hv
    split at hv <;> cases hv
    exact .createTableArtifact
  | createTableArtifact table result =>
    obtain ⟨v, rfl, hv⟩ := andThen_suspended h
    cases hv

/-- An attempt returns what it fetched, at once or after it has stored the table. -/
theorem resume_returned {p : Await Q} {reply : p.Reply} {result : Fetched Q}
    (h : resume py args p reply = .finished (.ok result)) :
    (∃ jobId, p = .getPrimitiveResult jobId ∧
      p.event args reply = .getPrimitiveResult jobId (.ok result)) ∨
      ∃ table, p = .createTableArtifact table result := by
  cases p with
  | checkResourceAvailable =>
    obtain ⟨b, rfl, hb⟩ := andThen_returned h
    rw [trigger] at hb
    split at hb <;> cases hb
  | runPrimitive =>
    obtain ⟨b, rfl, hb⟩ := andThen_returned h
    cases b <;> cases hb
  | getJobStatus jobId =>
    obtain ⟨b, rfl, hb⟩ := andThen_returned h
    rw [waitForCompletion] at hb
    split at hb <;> cases hb
  | sleep jobId =>
    obtain ⟨b, rfl, hb⟩ := andThen_returned h
    cases hb
  | getPrimitiveResult jobId =>
    obtain ⟨b, rfl, hb⟩ := andThen_returned h
    rw [fetchResult] at hb
    split at hb <;> cases hb
    exact Or.inl ⟨jobId, rfl, rfl⟩
  | getJobMetrics jobId result' =>
    obtain ⟨b, rfl, hb⟩ := andThen_returned h
    rw [fetchMetrics] at hb
    split at hb <;> cases hb
  | createTableArtifact table result' =>
    obtain ⟨b, rfl, hb⟩ := andThen_returned h
    cases hb
    exact Or.inr ⟨table, rfl⟩

/-- One step: the transcript grows by the answered event and keeps its description. -/
theorem Progress.step {p q : Await Q} {t : List (Event Q)} {reply : p.Reply}
    (h : Progress args p t) (hq : resume py args p reply = .suspended q) :
    Progress args q (t ++ [p.event args reply]) := by
  have hn := next_of_resume hq
  cases h with
  | checkResourceAvailable =>
    cases hn with
    | runPrimitive hv => exact .runPrimitive hv
  | runPrimitive hv =>
    cases hn with
    | @getJobStatus jobId =>
      have ht : Progress args (.getJobStatus jobId) (submitted args _ jobId ++ polls jobId []) :=
        .getJobStatus hv (by simp)
      exact ht
  | getJobStatus hv hs =>
    cases hn with
    | sleep hx => exact .sleep hv hs hx
    | getPrimitiveResult => exact .getPrimitiveResult hv hs
  | @sleep v jobId statuses x hv hs hx =>
    cases hn with
    | pollAgain =>
      have ht : Progress args (.getJobStatus jobId)
          (submitted args v jobId ++ polls jobId (statuses ++ [x])) :=
        .getJobStatus hv (by simpa [or_imp, forall_and] using ⟨hs, hx⟩)
      rw [polls_snoc] at ht
      simpa [Await.event] using ht
  | getPrimitiveResult hv hs =>
    cases hn with
    | getJobMetrics ha => simpa [Await.event] using Progress.getJobMetrics hv hs ha
  | getJobMetrics hv hs ha =>
    cases hn with
    | createTableArtifact => simpa [Await.event] using Progress.createTableArtifact hv hs ha
  | createTableArtifact => cases hn

/-- Every suspended attempt has the transcript its await describes. -/
theorem progress_of_run {p : Await Q} {t : List (Event Q)}
    (h : (runPrimitive py args).Run (.suspended .checkResourceAvailable) t (.suspended p)) :
    Progress args p t :=
  h.suspended_induction (P := Progress args) .checkResourceAvailable
    fun _ _ _ _ hp hq => hp.step hq

end PrefectQiskit.PrimitiveRunner
