import PrefectQiskit.IbmAttempts

/-!
# The protocol of a task on the IBM Quantum Platform

The runs of a task on the wire are the runs of the runner task in which every call of the client
is served by its method. From the protocol of the runner follow the order of the requests in an
attempt, finished or not, and what the answers are that let it go on.
-/

namespace PrefectQiskit.IBMQuantum

open PrimitiveRunner JobAnalytics Coroutine Program

variable {Q : Qiskit}

theorem tells_event : Tells (@Operation.event Q) := by
  intro ⟨op, reply⟩ ⟨op', reply'⟩ h
  cases op <;> cases op' <;> cases h <;> rfl

section Refinement

variable (py : Builtins) (client : IBMQuantumPlatformClient) (lib : ThirdParty Q)

end Refinement

/-! ## Logs underway -/

section Underway

variable (Passed : WireOperation.Answer → Prop)

/-- The whole word of requests, each answered with what lets the attempt go on. -/
structure Passing (word : List WireOperation) (log : List WireOperation.Answer) : Prop where
  requests : log.map Sigma.fst = word
  passed : ∀ e ∈ log, Passed e

/-- A part of the word, whose last answer may be any. -/
structure Underway (word : List WireOperation) (log : List WireOperation.Answer) : Prop where
  requests : log.map Sigma.fst <+: word
  passed : ∀ pre e post, log = pre ++ e :: post → post ≠ [] → Passed e

variable {Passed} {word word' : List WireOperation} {log log' : List WireOperation.Answer}

/-- An answer of two logs in a row is in the first, or the second ends with what follows it. -/
theorem mem_or_suffix {pre post : List WireOperation.Answer} {e : WireOperation.Answer}
    (h : log ++ log' = pre ++ e :: post) : e ∈ log ∨ ∃ pre', log' = pre' ++ e :: post := by
  obtain ⟨as, -, hrest⟩ | ⟨bs, hlog, hrest⟩ := List.append_eq_append_iff.1 h
  · exact .inr ⟨as, hrest⟩
  · cases bs with
    | nil => exact .inr ⟨[], hrest.symm⟩
    | cons b bs =>
      have hb : e = b := (List.cons.inj hrest).1
      exact .inl (by simp [hlog, hb])

theorem Passing.nil : Passing Passed [] [] := ⟨rfl, by simp⟩

theorem Passing.append (h : Passing Passed word log) (h' : Passing Passed word' log') :
    Passing Passed (word ++ word') (log ++ log') := by
  refine ⟨by rw [List.map_append, h.requests, h'.requests], fun e he => ?_⟩
  obtain he | he := List.mem_append.1 he
  · exact h.passed e he
  · exact h'.passed e he

theorem Passing.underway (h : Passing Passed word log) (h' : Underway Passed word' log') :
    Underway Passed (word ++ word') (log ++ log') := by
  constructor
  · rw [List.map_append, h.requests]
    exact (List.prefix_append_right_inj word).2 h'.requests
  · intro pre e post hlog hpost
    obtain he | ⟨pre', hlog'⟩ := mem_or_suffix hlog
    · exact h.passed e he
    · exact h'.passed pre' e post hlog' hpost

theorem Underway.mono (h : Underway Passed word log) (hword : word <+: word') :
    Underway Passed word' log :=
  ⟨h.requests.trans hword, h.passed⟩

end Underway

section Protocol

variable (py : Builtins) (client : IBMQuantumPlatformClient) (lib : ThirdParty Q)
  (args : RunPrimitiveArgs Q)

/-- The answers that let an attempt go on, when it tracks this job. -/
inductive Passed (jobId : String) : WireOperation.Answer → Prop
  | token (token : String) : Passed jobId ⟨.getToken, .ok token⟩
  | available {ret : PyDict} (h : ((ret.get? "state").getD (.bool false)).truthy) :
      Passed jobId ⟨.getJson s!"backends/{args.resourceName}/status", .ok (.ok ret)⟩
  | submitted {data : String} {ret : PyDict} (h : ret.get? "id" = some (.str jobId)) :
      Passed jobId ⟨.postJson "jobs" data, .ok (.ok ret)⟩
  | polled {ret : PyDict} {status : PyValue} (h : jobStatusOf py jobId ret = .ok status) :
      Passed jobId ⟨.getJson s!"jobs/{jobId}", .ok (.ok ret)⟩
  | slept : Passed jobId ⟨.sleep, .ok ()⟩
  | fetched (text : String) : Passed jobId ⟨.getText s!"jobs/{jobId}/results", .ok (.ok text)⟩
  | measured {ret : PyDict} {metrics : JobMetrics} (h : jobMetricsOf py ret = .ok metrics) :
      Passed jobId ⟨.getJson s!"jobs/{jobId}/metrics", .ok (.ok ret)⟩

/-- A session with one request. -/
def asking (request : WireOperation) : List WireOperation := [.getToken, request]

/-- A poll that is followed by a sleep. -/
def pollRequests (jobId : String) : List WireOperation :=
  [.getToken, .getJson s!"jobs/{jobId}", .sleep]

def metricsRequests (jobId : String) (table : List PyValue × List PyValue) : List WireOperation :=
  if args.enableAnalytics then
    [.getToken, .getJson s!"jobs/{jobId}/metrics", .createTableArtifact table
      s!"Metrics of primitive run {args.context.taskRunId} / {args.context.taskRunName}"]
  else []

/-- The requests of an attempt after its submission, when the job is polled `n + 1` times. -/
def jobRequests (jobId : String) (n : ℕ) (table : List PyValue × List PyValue) :
    List WireOperation :=
  (List.replicate n (pollRequests jobId)).flatten ++
    (asking (.getJson s!"jobs/{jobId}") ++ (asking (.getText s!"jobs/{jobId}/results") ++
      metricsRequests args jobId table))

/-- The argument data of the submission, prepared once and for all attempts alike. -/
def dataOf : Except PyException String :=
  submissionData py lib args.programType args.primitiveBlocs args.resourceName
    (args.options.getD [])

/-- The requests of an attempt. Without data nothing is submitted. -/
def attemptRequests (jobId : String) (n : ℕ) (table : List PyValue × List PyValue) :
    List WireOperation :=
  asking (.getJson s!"backends/{args.resourceName}/status") ++
    match dataOf py lib args with
    | .ok data => asking (.postJson "jobs" data) ++ jobRequests args jobId n table
    | .error _ => []

/-- The requests for an operation. -/
def requests : Operation Q → List WireOperation
  | .checkResourceAvailable resourceName =>
    asking (.getJson s!"backends/{resourceName}/status")
  | .runPrimitive programId inputs resourceName options =>
    match submissionData py lib programId inputs resourceName options with
    | .ok data => asking (.postJson "jobs" data)
    | .error _ => []
  | .getJobStatus jobId => asking (.getJson s!"jobs/{jobId}")
  | .sleep => [.sleep]
  | .getPrimitiveResult jobId => asking (.getText s!"jobs/{jobId}/results")
  | .getJobMetrics jobId => asking (.getJson s!"jobs/{jobId}/metrics")
  | .createTableArtifact table description => [.createTableArtifact table description]

variable {py client lib args} {jobId : String} {log : List WireOperation.Answer}

theorem session_underway {γ : Type} {request : WireOperation}
    {method : String → request.Value → Except PyException γ}
    {r : Observed WireOperation PyException γ} (h : WireExec (session request method) log r) :
    Underway (Passed py args jobId) (asking request) log := by
  have hfirst : ∀ (token : String) (e : WireOperation.Answer) pre e' post,
      [⟨.getToken, .ok token⟩, e] = pre ++ e' :: post → post ≠ [] →
        Passed py args jobId e' := by
    intro token e pre e' post hlog hpost
    cases pre with
    | nil =>
      rw [← (List.cons.inj hlog).1]
      exact .token token
    | cons a pre =>
      cases pre with
      | nil => exact absurd (List.cons.inj (List.cons.inj hlog).2).2.symm hpost
      | cons b pre => simp at hlog
  have hone : ∀ (e : WireOperation.Answer) pre e' post,
      [e] = pre ++ e' :: post → post ≠ [] → Passed py args jobId e' := by
    intro e pre e' post hlog hpost
    cases pre with
    | nil => exact absurd (List.cons.inj hlog).2.symm hpost
    | cons a pre => simp at hlog
  cases session_exec_iff _ _ _ _ |>.1 h with
  | authenticating => exact ⟨List.nil_prefix, fun pre e post hlog => by simp at hlog⟩
  | tokenFailed ex => exact ⟨⟨[request], rfl⟩, hone _⟩
  | requesting token => exact ⟨⟨[request], rfl⟩, hone _⟩
  | requestFailed token ex => exact ⟨List.prefix_refl _, hfirst token _⟩
  | answered token response => exact ⟨List.prefix_refl _, hfirst token _⟩

theorem session_passing {γ : Type} {request : WireOperation}
    {method : String → request.Value → Except PyException γ} {v : γ}
    (h : WireExec (session request method) log (.returned v))
    (hpassed : ∀ token response, method token response = .ok v →
      Passed py args jobId ⟨request, .ok response⟩) :
    Passing (Passed py args jobId) (asking request) log := by
  obtain ⟨token, response, hmethod, rfl⟩ := session_returned.1 h
  refine ⟨rfl, fun e he => ?_⟩
  obtain rfl | he := List.mem_cons.1 he
  · exact .token token
  · rw [List.mem_singleton.1 he]
    exact hpassed token response hmethod

theorem await_underway {op : WireOperation} {r : Observed WireOperation PyException op.Value}
    (h : WireExec op.await log r) : Underway (Passed py args jobId) [op] log := by
  obtain ⟨rfl, -⟩ | ⟨reply, rfl, -⟩ := h
  · exact ⟨List.nil_prefix, fun pre e post hlog => by simp at hlog⟩
  · refine ⟨List.prefix_refl _, fun pre e post hlog hpost => ?_⟩
    cases pre with
    | nil => exact absurd (List.cons.inj hlog).2.symm hpost
    | cons a pre => simp at hlog

/-- Only a token has been passed before the last answer to an operation. -/
theorem serve_underway {op : Operation Q} {r : Observed WireOperation PyException op.Value}
    (h : WireExec (serve py client lib op) log r) :
    Underway (Passed py args jobId) (requests py lib op) log := by
  cases op with
  | checkResourceAvailable | getJobStatus | getPrimitiveResult | getJobMetrics =>
    exact session_underway h
  | sleep | createTableArtifact => exact await_underway h
  | runPrimitive programId inputs resourceName options =>
    rw [requests]
    cases hdata : submissionData py lib programId inputs resourceName options with
    | ok data =>
      rw [serve, hdata] at h
      exact session_underway ((same_pure_bind data _ _ _).1 h)
    | error ex =>
      rw [serve, hdata] at h
      obtain ⟨rfl, -⟩ := (same_throw_bind ex _ _ _).1 h
      exact ⟨List.nil_prefix, fun pre e post hlog => by simp at hlog⟩

theorem runtimeSessionCtx_ok {β : Type} {token : String} {response : Except HttpError β} {ret : β}
    (h : runtimeSessionCtx py client ⟨.ok token, response⟩ = .ok ret) : response = .ok ret := by
  rw [runtimeSessionCtx] at h
  cases response with
  | ok body =>
    cases h
    rfl
  | error e => cases e <;> cases h

theorem available_passed {available : PyValue}
    (h : WireExec (serve py client lib (.checkResourceAvailable args.resourceName)) log
      (.returned available)) (hv : available.truthy) :
    Passing (Passed py args jobId)
      (asking (.getJson s!"backends/{args.resourceName}/status")) log := by
  refine session_passing h fun token response hmethod => ?_
  obtain ⟨ret, hret, hstate⟩ := bind_eq_ok.mp hmethod
  rw [runtimeSessionCtx_ok hret]
  refine .available ?_
  rw [Except.ok.inj hstate]
  exact hv

theorem submitted_passed
    (h : WireExec (serve py client lib (.runPrimitive args.programType args.primitiveBlocs
      args.resourceName (args.options.getD []))) log (.returned (.str jobId))) :
    ∃ data, dataOf py lib args = .ok data ∧
      Passing (Passed py args jobId) (asking (.postJson "jobs" data)) log := by
  obtain ⟨data, hdata, hpost⟩ := (exec_lift_bind_returned _ _ _ _).1 h
  refine ⟨data, hdata, session_passing hpost fun token response hmethod => ?_⟩
  obtain ⟨ret, hret, hjob⟩ := bind_eq_ok.mp hmethod
  rw [runtimeSessionCtx_ok hret]
  refine .submitted ?_
  rw [jobIdOf] at hjob
  split at hjob
  · cases hid : ret.get? "id" with
    | none =>
      rw [hid] at hjob
      cases hjob
    | some v =>
      rw [hid] at hjob
      cases hjob
      rfl
  · cases hjob

theorem polled_passed {status : PyValue}
    (h : WireExec (serve py client lib (.getJobStatus jobId)) log (.returned status)) :
    Passing (Passed py args jobId) (asking (.getJson s!"jobs/{jobId}")) log := by
  refine session_passing h fun token response hmethod => ?_
  obtain ⟨ret, hret, hstatus⟩ := bind_eq_ok.mp hmethod
  rw [runtimeSessionCtx_ok hret]
  exact .polled hstatus

theorem slept_passed
    (h : WireExec (serve py client lib .sleep) log (.returned ())) :
    Passing (Passed py args jobId) [.sleep] log := by
  rw [await_returned.1 h]
  refine ⟨rfl, fun e he => ?_⟩
  rw [List.mem_singleton.1 he]
  exact .slept

theorem fetched_passed {result : Fetched Q}
    (h : WireExec (serve py client lib (.getPrimitiveResult jobId)) log (.returned result)) :
    Passing (Passed py args jobId) (asking (.getText s!"jobs/{jobId}/results")) log := by
  refine session_passing h fun token response hmethod => ?_
  obtain ⟨results, hresults, -⟩ := bind_eq_ok.mp hmethod
  obtain ⟨text, htext, -⟩ := bind_eq_ok.mp hresults
  rw [runtimeSessionCtx_ok htext]
  exact .fetched text

theorem measured_passed {metrics : JobMetrics}
    (h : WireExec (serve py client lib (.getJobMetrics jobId)) log (.returned metrics)) :
    Passing (Passed py args jobId) (asking (.getJson s!"jobs/{jobId}/metrics")) log := by
  refine session_passing h fun token response hmethod => ?_
  obtain ⟨ret, hret, hmetrics⟩ := bind_eq_ok.mp hmethod
  rw [runtimeSessionCtx_ok hret]
  exact .measured (liftM_builtin_eq_ok.mp hmetrics)

theorem polls_passed {statuses : List PyValue}
    (h : Carries Operation.event WireOperation.event (serve py client lib) (polls jobId statuses)
      log) : Passing (Passed py args jobId) (List.replicate statuses.length
        (pollRequests jobId)).flatten log := by
  induction statuses generalizing log with
  | nil =>
    cases h
    exact .nil
  | cons status statuses ih =>
    rw [polls_cons] at h
    obtain ⟨log₁, log', hpoll, h', rfl⟩ := h.head tells_event (.getJobStatus jobId) (.ok status)
    obtain ⟨log₂, log₃, hsleep, hrest, rfl⟩ := h'.head tells_event .sleep (.ok ())
    rw [List.length_cons, List.replicate_succ, List.flatten_cons]
    have hround : Passing (Passed py args jobId) (asking (.getJson s!"jobs/{jobId}") ++ [.sleep])
        (log₁ ++ log₂) := (polled_passed hpoll).append (slept_passed hsleep)
    rw [← List.append_assoc]
    exact hround.append (ih hrest)

/-- An attempt from its submission to an await. -/
theorem tracked_passed {available : PyValue} {statuses : List PyValue} {t : List (Event Q)}
    (hv : available.truthy)
    (h : Carries Operation.event WireOperation.event (serve py client lib)
      (submitted args available jobId ++ polls jobId statuses ++ t) log) :
    ∃ data log₁ log₂, dataOf py lib args = .ok data ∧
      Passing (Passed py args jobId)
        (asking (.getJson s!"backends/{args.resourceName}/status") ++
          (asking (.postJson "jobs" data) ++ (List.replicate statuses.length
            (pollRequests jobId)).flatten)) log₁ ∧
      Carries Operation.event WireOperation.event (serve py client lib) t log₂ ∧
      log = log₁ ++ log₂ := by
  obtain ⟨log', log₄, hpre, hrest, rfl⟩ := h.split
  obtain ⟨log₁, log'', hcheck, h', rfl⟩ :=
    hpre.head tells_event (.checkResourceAvailable args.resourceName) (.ok available)
  obtain ⟨log₂, log₃, hrun, hpolls, rfl⟩ := h'.head tells_event
    (.runPrimitive args.programType args.primitiveBlocs args.resourceName (args.options.getD []))
    (.ok (.str jobId))
  obtain ⟨data, hdata, hsubmitted⟩ := submitted_passed hrun
  refine ⟨data, log₁ ++ (log₂ ++ log₃), log₄, hdata, ?_, hrest, rfl⟩
  exact (available_passed hcheck hv).append (hsubmitted.append (polls_passed hpolls))

theorem attemptRequests_ok {data : String} (h : dataOf py lib args = .ok data) (jobId : String)
    (n : ℕ) (table : List PyValue × List PyValue) :
    attemptRequests py lib args jobId n table =
      asking (.getJson s!"backends/{args.resourceName}/status") ++
        (asking (.postJson "jobs" data) ++ jobRequests args jobId n table) := by
  rw [attemptRequests, h]

/-- What an attempt that is suspended has done, and the operation it waits for, are in order. -/
theorem progress_passed {p : Await Q} {t : List (Event Q)} (hp : Progress args p t)
    (h : Carries Operation.event WireOperation.event (serve py client lib) t log) :
    ∃ jobId word n table, Passing (Passed py args jobId) word log ∧
      word ++ requests py lib (p.operation args) <+: attemptRequests py lib args jobId n table := by
  cases hp with
  | checkResourceAvailable =>
    cases h
    exact ⟨"", [], 0, ([], []), .nil, List.prefix_append _ _⟩
  | @runPrimitive available hv =>
    refine ⟨"", _, 0, ([], []), available_passed
      (h.single tells_event (.checkResourceAvailable args.resourceName) (.ok available)) hv, ?_⟩
    rw [attemptRequests, dataOf]
    apply (List.prefix_append_right_inj _).2
    rw [Await.operation, requests]
    cases submissionData py lib args.programType args.primitiveBlocs args.resourceName
        (args.options.getD []) with
    | ok data => exact List.prefix_append _ _
    | error ex => exact List.nil_prefix
  | @getJobStatus available jobId statuses hv hs =>
    rw [← List.append_nil (submitted args available jobId ++ polls jobId statuses)] at h
    obtain ⟨data, log₁, log₂, hdata, hpassed, hrest, rfl⟩ := tracked_passed hv h
    cases hrest
    rw [List.append_nil]
    refine ⟨jobId, _, statuses.length, ([], []), hpassed, ?_⟩
    rw [attemptRequests_ok hdata, jobRequests]
    simp [Await.operation, requests]
  | @sleep available jobId statuses status hv hs hx =>
    obtain ⟨data, log₁, log₂, hdata, hpassed, hrest, rfl⟩ := tracked_passed hv h
    have hpolled := hrest.single tells_event (.getJobStatus jobId) (.ok status)
    refine ⟨jobId, _, statuses.length + 1, ([], []), hpassed.append (polled_passed hpolled), ?_⟩
    rw [attemptRequests_ok hdata, jobRequests]
    simp [Await.operation, requests, asking, pollRequests, List.replicate_succ']
  | @getPrimitiveResult available jobId statuses hv hs =>
    obtain ⟨data, log₁, log₂, hdata, hpassed, hrest, rfl⟩ := tracked_passed hv h
    have hpolled := hrest.single tells_event (.getJobStatus jobId) (.ok (.str "COMPLETED"))
    refine ⟨jobId, _, statuses.length, ([], []), hpassed.append (polled_passed hpolled), ?_⟩
    rw [attemptRequests_ok hdata, jobRequests]
    simp [Await.operation, requests]
  | @getJobMetrics available jobId statuses result hv hs ha =>
    obtain ⟨data, log₁, log₂, hdata, hpassed, hrest, rfl⟩ := tracked_passed hv h
    obtain ⟨log₃, log₄, hpolled, hfetch, rfl⟩ :=
      hrest.head tells_event (.getJobStatus jobId) (.ok (.str "COMPLETED"))
    have hfetched := hfetch.single tells_event (.getPrimitiveResult jobId) (.ok result)
    refine ⟨jobId, _, statuses.length, ([], []),
      hpassed.append ((polled_passed hpolled).append (fetched_passed hfetched)), ?_⟩
    rw [attemptRequests_ok hdata, jobRequests, metricsRequests, if_pos ha]
    simp [Await.operation, requests, asking]
  | @createTableArtifact available jobId statuses result metrics table hv hs ha =>
    obtain ⟨data, log₁, log₂, hdata, hpassed, hrest, rfl⟩ := tracked_passed hv h
    obtain ⟨log₃, log', hpolled, h', rfl⟩ :=
      hrest.head tells_event (.getJobStatus jobId) (.ok (.str "COMPLETED"))
    obtain ⟨log₄, log₅, hfetched, hmeasure, rfl⟩ :=
      h'.head tells_event (.getPrimitiveResult jobId) (.ok result)
    have hmeasured := hmeasure.single tells_event (.getJobMetrics jobId) (.ok metrics)
    refine ⟨jobId, _, statuses.length, (table.keys.map .str, table.values), hpassed.append
      ((polled_passed hpolled).append ((fetched_passed hfetched).append
        (measured_passed hmeasured))), ?_⟩
    rw [attemptRequests_ok hdata, jobRequests, metricsRequests, if_pos ha]
    simp [Await.operation, requests, asking]

variable (py client lib args) in
/-- The log of an attempt, finished or not. -/
def AttemptLog (log : List WireOperation.Answer) : Prop :=
  ∃ jobId n table, Underway (Passed py args jobId) (attemptRequests py lib args jobId n table) log

theorem carries_event {p : Await Q} {reply : p.Reply}
    (h : Carries Operation.event WireOperation.event (serve py client lib) [p.event args reply] log) :
    ∃ r, WireExec (serve py client lib (p.operation args)) log r := by
  cases p with
  | checkResourceAvailable =>
    exact ⟨_, h.single tells_event (.checkResourceAvailable args.resourceName) reply⟩
  | runPrimitive =>
    exact ⟨_, h.single tells_event (Await.operation args .runPrimitive) reply⟩
  | getJobStatus jobId => exact ⟨_, h.single tells_event (.getJobStatus jobId) reply⟩
  | sleep jobId => exact ⟨_, h.single tells_event .sleep reply⟩
  | getPrimitiveResult jobId => exact ⟨_, h.single tells_event (.getPrimitiveResult jobId) reply⟩
  | getJobMetrics jobId result => exact ⟨_, h.single tells_event (.getJobMetrics jobId) reply⟩
  | createTableArtifact table result =>
    exact ⟨_, h.single tells_event (Await.operation args (.createTableArtifact table result)) reply⟩

/-- An attempt has done what it had to before it was suspended, and serves one more operation. -/
theorem attempt_progress {r : Observed WireOperation PyException (Fetched Q)}
    (h : WireExec (attempt py client lib args) log r) :
    ∃ p t log₁ log₂ r', Progress args p t ∧
      Carries Operation.event WireOperation.event (serve py client lib) t log₁ ∧
      WireExec (serve py client lib (p.operation args)) log₂ r' ∧ log = log₁ ++ log₂ := by
  have hserves : ∃ t s', Exec Operation.event (runPrimitiveBody py args) t s' ∧
      Serves Operation.event WireOperation.event (serve py client lib) t s' log r :=
    exec_of_handle _ h
  obtain ⟨t, s', hexec, log₁, log₂, hcarries, hstands, rfl⟩ := hserves
  obtain ⟨s, hrun, rfl⟩ := ((runPrimitive_implements py args).run_iff
    (.suspended .checkResourceAvailable) t s').2 hexec
  cases s with
  | suspended p =>
    cases hstands with
    | halted hx =>
      cases hx with
      | waiting hop => exact ⟨p, t, log₁, log₂, _, progress_of_run hrun, hcarries, hop, rfl⟩
  | finished o =>
    obtain ⟨t₀, p, reply, hbefore, rfl, -⟩ := hrun.finished_last
    obtain ⟨rfl, -⟩ := stands_answered hstands
    obtain ⟨log₃, log₄, hdone, hlast, rfl⟩ := hcarries.split
    obtain ⟨r', hop⟩ := carries_event hlast
    exact ⟨p, t₀, log₃, log₄, r', progress_of_run hbefore, hdone, hop, List.append_nil _⟩

theorem attempt_log {r : Observed WireOperation PyException (Fetched Q)}
    (h : WireExec (attempt py client lib args) log r) : AttemptLog py lib args log := by
  obtain ⟨p, t, log₁, log₂, r', hp, hcarries, hop, rfl⟩ := attempt_progress h
  obtain ⟨jobId, word, n, table, hpassed, hword⟩ := progress_passed hp hcarries
  exact ⟨jobId, n, table, (hpassed.underway (serve_underway hop)).mono hword⟩

def isPost : WireOperation → Bool
  | .postJson _ _ => true
  | _ => false

/-- The requests of a log that submit something. -/
def posts (log : List WireOperation.Answer) : List WireOperation :=
  (log.map Sigma.fst).filter isPost

theorem posts_attemptRequests (jobId : String) (n : ℕ) (table : List PyValue × List PyValue) :
    (attemptRequests py lib args jobId n table).filter isPost =
      (dataOf py lib args).toOption.toList.map fun data => .postJson "jobs" data := by
  have hpolls : ((List.replicate n (pollRequests jobId)).flatten).filter isPost = [] := by
    induction n with
    | zero => rfl
    | succ n ih =>
      rw [List.replicate_succ, List.flatten_cons, List.filter_append, ih]
      rfl
  rw [attemptRequests]
  cases dataOf py lib args with
  | error ex => rfl
  | ok data =>
    have hmetrics : (jobRequests args jobId n table).filter isPost = [] := by
      rw [jobRequests, List.filter_append, hpolls, List.nil_append, metricsRequests]
      split <;> rfl
    simp only [List.filter_append, hmetrics, List.append_nil]
    rfl

theorem AttemptLog.posts (h : AttemptLog py lib args log) :
    posts log <+: (dataOf py lib args).toOption.toList.map fun data => .postJson "jobs" data := by
  obtain ⟨jobId, n, table, hlog⟩ := h
  rw [← posts_attemptRequests jobId n table]
  exact hlog.requests.filter isPost

/-- A run of a task, cut into its attempts. -/
structure TaskLog (py : Builtins) (lib : ThirdParty Q) (args : RunPrimitiveArgs Q) (maxRetry : ℕ)
    (log : List WireOperation.Answer) (attempts : List (List WireOperation.Answer)) : Prop where
  log_eq : log = attempts.flatten
  attempts_le : attempts.length ≤ maxRetry + 1
  attempt_log : ∀ a ∈ attempts, AttemptLog py lib args a
  posts_le : (posts log).length ≤ maxRetry + 1
  same_data : ∀ op ∈ posts log, ∃ data, dataOf py lib args = .ok data ∧ op = .postJson "jobs" data

theorem posts_flatten (attempts : List (List WireOperation.Answer)) :
    posts attempts.flatten = (attempts.map posts).flatten := by
  rw [posts, List.map_flatten, List.filter_flatten, List.map_map]
  rfl

theorem length_posts_le {attempts : List (List WireOperation.Answer)}
    (h : ∀ a ∈ attempts, AttemptLog py lib args a) :
    (posts attempts.flatten).length ≤ attempts.length := by
  rw [posts_flatten]
  induction attempts with
  | nil => simp
  | cons a attempts ih =>
    have ha : (posts a).length ≤ 1 := by
      have hle := (h a List.mem_cons_self).posts.length_le
      rw [List.length_map] at hle
      have hone : (dataOf py lib args).toOption.toList.length ≤ 1 := by
        cases (dataOf py lib args).toOption <;> simp
      omega
    have hrest := ih fun b hb => h b (List.mem_cons_of_mem a hb)
    rw [List.map_cons, List.flatten_cons, List.length_append, List.length_cons]
    omega

/-- Whatever the network and the engine answer, a task makes at most `maxRetry + 1` attempts,
each a part of the requests in order in which every answer but the last lets it go on, and posts
the same data in each. -/
theorem task_protocol (py : Builtins) (client : IBMQuantumPlatformClient) (lib : ThirdParty Q)
    (args : RunPrimitiveArgs Q) (maxRetry : ℕ) (log : List WireOperation.Answer)
    (r : Observed WireOperation PyException (Fetched Q))
    (h : WireExec (task py client lib args maxRetry) log r) :
    ∃ attempts, TaskLog py lib args maxRetry log attempts := by
  obtain ⟨failed, last, hfailed, hlast, hlen, -, hlog⟩ := retried_iff.1 (task_exec.1 h)
  have hattempts : ∀ a ∈ failed.map Prod.fst ++ [last], AttemptLog py lib args a := by
    intro a ha
    obtain ha | ha := List.mem_append.1 ha
    · obtain ⟨b, hb, rfl⟩ := List.mem_map.1 ha
      exact attempt_log (hfailed b hb).1
    · rw [List.mem_singleton.1 ha]
      exact attempt_log hlast
  have hflat : log = (failed.map Prod.fst ++ [last]).flatten := by
    rw [hlog, List.flatten_append, List.flatten_singleton]
  have hcount : (failed.map Prod.fst ++ [last]).length ≤ maxRetry + 1 := by
    rw [List.length_append, List.length_map, List.length_singleton]
    omega
  refine ⟨_, hflat, hcount, hattempts, ?_, ?_⟩
  · rw [hflat]
    exact (length_posts_le hattempts).trans hcount
  · intro op hop
    rw [hflat, posts_flatten] at hop
    obtain ⟨ops, hops, hop⟩ := List.mem_flatten.1 hop
    obtain ⟨a, ha, rfl⟩ := List.mem_map.1 hops
    obtain ⟨data, hdata, rfl⟩ := List.mem_map.1 ((hattempts a ha).posts.subset hop)
    cases hd : dataOf py lib args with
    | ok data' =>
      rw [hd] at hdata
      rw [List.mem_singleton.1 hdata]
      exact ⟨data', rfl, rfl⟩
    | error ex =>
      rw [hd] at hdata
      cases hdata

end Protocol

section Sample

def sampleClient : IBMQuantumPlatformClient := ⟨"https://quantum.cloud.ibm.com/api/v1/"⟩

def sampleArgs : RunPrimitiveArgs plainQiskit where
  primitiveBlocs := bellPubs
  programType := .sampler
  resourceName := "ibm_fake"
  enableAnalytics := false
  options := none
  context := ⟨[], "id", "run_primitive"⟩

def statusPath : String := s!"backends/{sampleArgs.resourceName}/status"

/-- The resource is not available. -/
def unavailableLog : List WireOperation.Answer :=
  exchanged "token" (.getJson statusPath) (.ok [("state", .bool false)])

/-- A job that is queued once. -/
def completedLog (jobId : String) : List WireOperation.Answer :=
  (exchanged "token" (.getJson statusPath) (.ok [("state", .bool true)]) ++
    exchanged "token" (.postJson "jobs" "") (.ok [("id", .str jobId)])) ++
  ((exchanged "token" (.getJson s!"jobs/{jobId}") (.ok [("status", .str "Queued")]) ++
    ([⟨.sleep, .ok ()⟩] ++
      exchanged "token" (.getJson s!"jobs/{jobId}") (.ok [("status", .str "Completed")]))) ++
    (exchanged "token" (.getText s!"jobs/{jobId}/results") (.ok "") ++ []))

theorem sample_completed : Completed .ascii sampleClient acceptingLib sampleArgs
    (.primitiveResult ⟨[], []⟩) (completedLog "job") :=
  .intro (.intro rfl rfl rfl rfl) (.again rfl rfl (.completed rfl)) rfl (.disabled rfl)

theorem sample_unavailable : WireExec (attempt .ascii sampleClient acceptingLib sampleArgs)
    unavailableLog (.halted (.raised (.runtimeJobFailure
      ⟨"Primitive Job failure; Resource ibm_fake is not currently available.", none, true,
        none⟩))) :=
  .inl ⟨_, .inr ⟨.bool false, _, [], session_returned.2 ⟨"token", _, rfl, rfl⟩, ⟨rfl, rfl⟩, rfl⟩,
    rfl⟩

theorem task_protocol_retried :
    ∃ attempts, TaskLog .ascii acceptingLib sampleArgs 1
      (unavailableLog ++ completedLog "job") attempts :=
  task_protocol .ascii sampleClient acceptingLib sampleArgs 1 _ (.returned _)
    (task_exec.2 (.again sample_unavailable rfl
      (.last (attempt_returned.2 sample_completed) fun _ _ => .inl rfl)))

end Sample

end PrefectQiskit.IBMQuantum
