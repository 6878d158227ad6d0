import PrefectQiskit.IbmWire

/-!
# Attempts on the IBM Quantum Platform

What is exchanged in an attempt that returns is given exactly, session by session. A task returns
a result when such an attempt follows attempts that failed and could be retried.
-/

namespace PrefectQiskit.IBMQuantum

open PrimitiveRunner JobAnalytics Coroutine Program

variable {Q : Qiskit} (py : Builtins) (client : IBMQuantumPlatformClient) (lib : ThirdParty Q)
  (args : RunPrimitiveArgs Q)

/-- A resource that is available and a submission that is answered with a job. -/
inductive Submitting (jobId : String) : List WireOperation.Answer → Prop
  | intro {token token' data : String} {response response' : Except HttpError PyDict}
      {available : PyValue}
      (hcheck : checkResourceAvailable py client ⟨.ok token, response⟩ = .ok available)
      (hv : available.truthy)
      (hdata : submissionData py lib args.programType args.primitiveBlocs args.resourceName
        (args.options.getD []) = .ok data)
      (hjob : submittedJob py client token' response' = .ok (.str jobId)) :
      Submitting jobId (exchanged token (.getJson s!"backends/{args.resourceName}/status") response
        ++ exchanged token' (.postJson "jobs" data) response')

/-- Polls of a job, with a sleep after each that does not report completion. -/
inductive Polling (jobId : String) : List WireOperation.Answer → Prop
  | completed {token : String} {response : Except HttpError PyDict}
      (h : getJobStatus py client jobId ⟨.ok token, response⟩ = .ok (.str "COMPLETED")) :
      Polling jobId (exchanged token (.getJson s!"jobs/{jobId}") response)
  | again {token : String} {response : Except HttpError PyDict} {status : PyValue}
      {log : List WireOperation.Answer}
      (h : getJobStatus py client jobId ⟨.ok token, response⟩ = .ok status)
      (hs : status.eqStr "COMPLETED" = false) (hlog : Polling jobId log) :
      Polling jobId (exchanged token (.getJson s!"jobs/{jobId}") response ++
        ([⟨.sleep, .ok ()⟩] ++ log))

/-- The metrics of a job are requested and stored only for analytics. -/
inductive Analyzing (jobId : String) (result : Fetched Q) : List WireOperation.Answer → Prop
  | disabled (h : args.enableAnalytics = false) : Analyzing jobId result []
  | stored {token : String} {response : Except HttpError PyDict} {metrics : JobMetrics}
      {table : PyDict} (h : args.enableAnalytics)
      (hm : getJobMetrics py client ⟨.ok token, response⟩ = .ok metrics)
      (ht : makeAnalytics py args.resourceName args.programType jobId
        (args.context.tags.mergeSort fun a b => decide (a ≤ b)) args.primitiveBlocs result metrics
        args.options = .ok table) :
      Analyzing jobId result (exchanged token (.getJson s!"jobs/{jobId}/metrics") response ++
        [⟨.createTableArtifact (table.keys.map .str, table.values)
          s!"Metrics of primitive run {args.context.taskRunId} / {args.context.taskRunName}",
          .ok ()⟩])

/-- What is exchanged in an attempt that returns a result. -/
inductive Completed (result : Fetched Q) : List WireOperation.Answer → Prop
  | intro {jobId token : String} {response : Except HttpError String}
      {submitting polling analyzing : List WireOperation.Answer}
      (hsubmitting : Submitting py client lib args jobId submitting)
      (hpolling : Polling py client jobId polling)
      (hresult : fetchedResult py client lib token response = .ok result)
      (hanalyzing : Analyzing py client args jobId result analyzing) :
      Completed result (submitting ++ (polling ++
        (exchanged token (.getText s!"jobs/{jobId}/results") response ++ analyzing)))

section Returned

variable {py client lib args}

theorem answered_returned {α : Type} {o : Except PyException α} {a : α} :
    Program.answered WireOperation o = .returned a ↔ o = .ok a := by
  cases o <;> simp [Program.answered]

theorem session_returned {γ : Type} {request : WireOperation}
    {method : String → request.Value → Except PyException γ} {log : List WireOperation.Answer}
    {v : γ} : WireExec (session request method) log (.returned v) ↔
      ∃ token response, method token response = .ok v ∧ log = exchanged token request response := by
  rw [session_exec_iff]
  constructor
  · intro h
    generalize hr : (Observed.returned v : Observed WireOperation PyException γ) = r at h
    cases h with
    | answered token response =>
      exact ⟨token, response, answered_returned.1 hr.symm, rfl⟩
    | _ => cases hr
  · intro h
    obtain ⟨token, response, hm, hlog⟩ := h
    have h : Session request method (exchanged token request response)
        (Program.answered WireOperation (method token response)) := .answered token response
    rw [hm] at h
    rw [hlog]
    exact h

theorem await_returned {op : WireOperation} {log : List WireOperation.Answer} {v : op.Value} :
    WireExec op.await log (.returned v) ↔ log = [⟨op, .ok v⟩] := by
  constructor
  · intro h
    obtain ⟨-, hr⟩ | ⟨reply, rfl, hr⟩ := h
    · cases hr
    · cases reply with
      | ok w =>
        cases hr
        rfl
      | error ex => cases hr
  · intro h
    exact .inr ⟨.ok v, h, rfl⟩

theorem init_ok {v : PyValue} {jobRun : PrimitiveJobRun} :
    PrimitiveJobRun.init v = .ok jobRun ↔ v = .str jobRun.jobId := by
  cases v with
  | str jobId =>
    constructor
    · intro h
      cases h
      rfl
    · intro h
      cases h
      rfl
  | _ => simp [PrimitiveJobRun.init]

theorem trigger_returned {log : List WireOperation.Answer} {jobRun : PrimitiveJobRun} :
    WireExec ((args.job.trigger py).handle (serve py client lib)) log (.returned jobRun) ↔
      Submitting py client lib args jobRun.jobId log := by
  constructor
  · intro h
    obtain ⟨available, log₁, log₂, hget, htrigger, rfl⟩ := (exec_bind_returned _ _ _ _).1 h
    obtain ⟨token, response, hcheck, rfl⟩ := session_returned.1 hget
    beta_reduce at htrigger
    split at htrigger
    · rw [handle_lift] at htrigger
      cases (exec_lift.1 htrigger).2
    next hv =>
      obtain ⟨jobId, log₃, log₄, hrun, hinit, rfl⟩ := (exec_bind_returned _ _ _ _).1 htrigger
      obtain ⟨data, hdata, hpost⟩ := (exec_lift_bind_returned _ _ _ _).1 hrun
      obtain ⟨token', response', hjob, rfl⟩ := session_returned.1 hpost
      rw [handle_lift] at hinit
      obtain ⟨hnil, hrun⟩ := exec_lift.1 hinit
      rw [init_ok.1 (answered_returned.1 hrun.symm)] at hjob
      rw [hnil, List.append_nil]
      exact .intro hcheck (by simpa using hv) hdata hjob
  · intro h
    obtain ⟨hcheck, hv, hdata, hjob⟩ := h
    refine (exec_bind_returned _ _ _ _).2
      ⟨_, _, _, session_returned.2 ⟨_, _, hcheck, rfl⟩, ?_, rfl⟩
    beta_reduce
    rw [if_neg (by simpa using hv)]
    refine (exec_bind_returned _ _ _ _).2 ⟨_, _, [], (exec_lift_bind_returned _ _ _ _).2
      ⟨_, hdata, session_returned.2 ⟨_, _, hjob, rfl⟩⟩, ?_, (List.append_nil _).symm⟩
    rw [handle_lift]
    exact exec_lift.2 ⟨rfl, rfl⟩

/-- One round of the loop. -/
theorem pollOnce_returned {log : List WireOperation.Answer} {jobRun : PrimitiveJobRun}
    {again : Bool} :
    WireExec ((PrimitiveJobRun.pollOnce jobRun).handle (serve py client lib)) log
      (.returned again) ↔ ∃ token response status,
        getJobStatus py client jobRun.jobId ⟨.ok token, response⟩ = .ok status ∧
        (status.eqStr "COMPLETED" = true ∧ again = false ∧
            log = exchanged token (.getJson s!"jobs/{jobRun.jobId}") response ∨
          status.eqStr "COMPLETED" = false ∧ again = true ∧
            log = exchanged token (.getJson s!"jobs/{jobRun.jobId}") response ++
              [⟨.sleep, .ok ()⟩]) := by
  constructor
  · intro h
    obtain ⟨status, log₁, log₂, hpoll, hnext, rfl⟩ := (exec_bind_returned _ _ _ _).1 h
    obtain ⟨token, response, hstatus, rfl⟩ := session_returned.1 hpoll
    refine ⟨token, response, status, hstatus, ?_⟩
    beta_reduce at hnext
    split at hnext
    next hc =>
      obtain ⟨rfl, hr⟩ := hnext
      cases hr
      rw [List.append_nil]
      exact .inl ⟨hc, rfl, rfl⟩
    next hc =>
      obtain ⟨u, log₃, log₄, hsleep, ⟨rfl, hr⟩, rfl⟩ := (exec_bind_returned _ _ _ _).1 hnext
      cases hr
      rw [await_returned.1 hsleep]
      exact .inr ⟨by simpa using hc, rfl, rfl⟩
  · intro h
    obtain ⟨token, response, status, hstatus, h⟩ := h
    have hpoll : WireExec (serve py client lib (.getJobStatus jobRun.jobId))
        (exchanged token (.getJson s!"jobs/{jobRun.jobId}") response) (.returned status) :=
      session_returned.2 ⟨token, response, hstatus, rfl⟩
    obtain ⟨hc, rfl, rfl⟩ | ⟨hc, rfl, rfl⟩ := h
    · refine (exec_bind_returned _ _ _ _).2 ⟨_, _, [], hpoll, ?_, (List.append_nil _).symm⟩
      beta_reduce
      rw [if_pos hc]
      exact ⟨rfl, rfl⟩
    · refine (exec_bind_returned _ _ _ _).2 ⟨_, _, [⟨.sleep, .ok ()⟩], hpoll, ?_, rfl⟩
      beta_reduce
      rw [if_neg (by simp [hc])]
      exact (exec_bind_returned _ _ _ _).2
        ⟨(), _, [], await_returned.2 rfl, ⟨rfl, rfl⟩, rfl⟩

/-- The loop ends with the first poll that reports completion. -/
theorem waitForCompletion_returned {log : List WireOperation.Answer} {jobRun : PrimitiveJobRun} :
    WireExec ((PrimitiveJobRun.waitForCompletion jobRun).handle (serve py client lib)) log
      (.returned ()) ↔ Polling py client jobRun.jobId log := by
  constructor
  · intro h
    have hrounds : Rounds (Exec WireOperation.event
        ((PrimitiveJobRun.pollOnce jobRun).handle (serve py client lib))) log (.returned ()) := h
    clear h
    generalize hr : (Observed.returned () : Observed WireOperation PyException Unit) = r at hrounds
    induction hrounds with
    | done hbody =>
      obtain ⟨token, response, status, hstatus, ⟨hc, -, rfl⟩ | ⟨-, hagain, -⟩⟩ :=
        pollOnce_returned.1 hbody
      · rw [PyValue.eqStr_iff.mp hc] at hstatus
        exact .completed hstatus
      · cases hagain
    | again hbody _ ih =>
      obtain ⟨token, response, status, hstatus, ⟨-, hagain, -⟩ | ⟨hc, -, rfl⟩⟩ :=
        pollOnce_returned.1 hbody
      · cases hagain
      · rw [List.append_assoc]
        exact .again hstatus hc (ih hr)
    | halted hbody => cases hr
  · intro h
    induction h with
    | completed hstatus =>
      exact Rounds.done (pollOnce_returned.2
        ⟨_, _, _, hstatus, .inl ⟨PyValue.eqStr_iff.mpr rfl, rfl, rfl⟩⟩)
    | again hstatus hs _ ih =>
      rw [← List.append_assoc]
      exact Rounds.again (pollOnce_returned.2 ⟨_, _, _, hstatus, .inr ⟨hs, rfl, rfl⟩⟩) ih

theorem storeAnalytics_returned {log : List WireOperation.Answer} {jobRun : PrimitiveJobRun}
    {result result' : Fetched Q} {metrics : JobMetrics} :
    WireExec ((storeAnalytics py args jobRun result metrics).handle (serve py client lib)) log
      (.returned result') ↔ ∃ table, makeAnalytics py args.resourceName args.programType
        jobRun.jobId (args.context.tags.mergeSort fun a b => decide (a ≤ b)) args.primitiveBlocs
        result metrics args.options = .ok table ∧
        log = [⟨.createTableArtifact (table.keys.map .str, table.values)
          s!"Metrics of primitive run {args.context.taskRunId} / {args.context.taskRunName}",
          .ok ()⟩] ∧ result' = result := by
  rw [storeAnalytics, handle, handle_lift, WireExec, exec_lift_bind_returned]
  constructor
  · intro h
    obtain ⟨table, htable, h⟩ := h
    obtain ⟨u, log₁, log₂, hartifact, ⟨rfl, hr⟩, rfl⟩ := (exec_bind_returned _ _ _ _).1 h
    cases hr
    rw [await_returned.1 hartifact]
    exact ⟨table, liftM_builtin_eq_ok.mp htable, rfl, rfl⟩
  · intro h
    obtain ⟨table, htable, hlog, hr⟩ := h
    rw [htable, hlog, hr]
    exact ⟨table, rfl, (exec_bind_returned _ _ _ _).2
      ⟨(), _, [], await_returned.2 rfl, ⟨rfl, rfl⟩, rfl⟩⟩

theorem afterResult_returned {log : List WireOperation.Answer} {jobRun : PrimitiveJobRun}
    {result result' : Fetched Q} :
    WireExec ((afterResult py args jobRun result).handle (serve py client lib)) log
      (.returned result') ↔
        Analyzing py client args jobRun.jobId result log ∧ result' = result := by
  rw [afterResult]
  constructor
  · intro h
    split at h
    next ha =>
      obtain ⟨metrics, log₁, log₂, hget, hstore, rfl⟩ := (exec_bind_returned _ _ _ _).1 h
      obtain ⟨token, response, hmetrics, rfl⟩ := session_returned.1 hget
      obtain ⟨table, htable, rfl, hr⟩ := storeAnalytics_returned.1 hstore
      exact ⟨.stored ha hmetrics htable, hr⟩
    next ha =>
      obtain ⟨rfl, hr⟩ := h
      cases hr
      exact ⟨.disabled (by simpa using ha), rfl⟩
  · intro h
    obtain ⟨h, hr⟩ := h
    rw [hr]
    cases h with
    | disabled ha =>
      rw [if_neg (by simp [ha])]
      exact ⟨rfl, rfl⟩
    | stored ha hmetrics htable =>
      rw [if_pos ha]
      exact (exec_bind_returned _ _ _ _).2 ⟨_, _, _, session_returned.2 ⟨_, _, hmetrics, rfl⟩,
        storeAnalytics_returned.2 ⟨_, htable, rfl, rfl⟩, rfl⟩

/-- An attempt returns exactly when all its sessions succeed. -/
theorem attempt_returned {log : List WireOperation.Answer} {result : Fetched Q} :
    WireExec (attempt py client lib args) log (.returned result) ↔
      Completed py client lib args result log := by
  constructor
  · intro h
    obtain ⟨jobRun, log₁, log₂, htrigger, hrun, rfl⟩ := (exec_bind_returned _ _ _ _).1 h
    obtain ⟨u, log₃, log₄, hwait, hfetch, rfl⟩ := (exec_bind_returned _ _ _ _).1 hrun
    obtain ⟨fetched, log₅, log₆, hget, hafter, rfl⟩ := (exec_bind_returned _ _ _ _).1 hfetch
    obtain ⟨token, response, hresult, rfl⟩ := session_returned.1 hget
    obtain ⟨hanalyzing, rfl⟩ := afterResult_returned.1 hafter
    exact .intro (trigger_returned.1 htrigger) (waitForCompletion_returned.1 hwait) hresult
      hanalyzing
  · intro h
    obtain ⟨hsubmitting, hpolling, hresult, hanalyzing⟩ := h
    refine (exec_bind_returned _ _ _ _).2 ⟨⟨_⟩, _, _, trigger_returned.2 hsubmitting, ?_, rfl⟩
    refine (exec_bind_returned _ _ _ _).2
      ⟨(), _, _, waitForCompletion_returned.2 hpolling, ?_, rfl⟩
    exact (exec_bind_returned _ _ _ _).2 ⟨_, _, _, session_returned.2 ⟨_, _, hresult, rfl⟩,
      afterResult_returned.2 ⟨hanalyzing, rfl⟩, rfl⟩

theorem task_exec {maxRetry : ℕ} {log : List WireOperation.Answer}
    {r : Observed WireOperation PyException (Fetched Q)} :
    WireExec (task py client lib args maxRetry) log r ↔
      Retried (WireExec (attempt py client lib args))
        (fun ex => retryOnFailure (.error ex : Outcome Q)) maxRetry log r := by
  rw [task, runnerBody, handle_retry, attempt, WireExec, exec_retry]

/-- A task returns a result exactly when an attempt whose sessions all succeed follows at most
`maxRetry` attempts that failed and could be retried. -/
theorem task_returned (maxRetry : ℕ) (log : List WireOperation.Answer) (result : Fetched Q) :
    WireExec (task py client lib args maxRetry) log (.returned result) ↔
      ∃ (failed : List (List WireOperation.Answer × PyException))
        (last : List WireOperation.Answer),
        (∀ a ∈ failed, WireExec (attempt py client lib args) a.1 (.halted (.raised a.2)) ∧
          retryOnFailure (.error a.2 : Outcome Q)) ∧
        Completed py client lib args result last ∧ failed.length ≤ maxRetry ∧
        log = (failed.map Prod.fst).flatten ++ last := by
  rw [task_exec, retried_iff]
  constructor
  · intro h
    obtain ⟨failed, last, hfailed, hlast, hlen, _, hlog⟩ := h
    exact ⟨failed, last, hfailed, attempt_returned.1 hlast, hlen, hlog⟩
  · intro h
    obtain ⟨failed, last, hfailed, hlast, hlen, hlog⟩ := h
    refine ⟨failed, last, hfailed, attempt_returned.2 hlast, hlen, ?_, hlog⟩
    intro e he
    cases he

end Returned

end PrefectQiskit.IBMQuantum
