import PrefectQiskit.Handlers
import PrefectQiskit.JobPayload
import PrefectQiskit.PrimitiveJob

/-!
# Tasks on the IBM Quantum Platform

The client methods as programs over the network: each opens a session, for which a token is
requested, and makes one request in it. A task with these credentials is the body of the runner
task with the calls of the client served by its methods.
-/

namespace PrefectQiskit.IBMQuantum

open PrimitiveRunner JobAnalytics Coroutine Program

variable {Q : Qiskit}

/-- What a task awaits of the network and of the engine. The body of a response is read with
its request. -/
inductive WireOperation where
  | getToken
  | getJson (path : String)
  | getText (path : String)
  | postJson (path : String) (data : String)
  | sleep
  | createTableArtifact (table : List PyValue × List PyValue) (description : String)

namespace WireOperation

/-- The handlers of a session see the error of a request that fails. All other exceptions are
raised by the operation. -/
def Value : WireOperation → Type
  | .getToken => String
  | .getJson _ | .postJson _ _ => Except HttpError PyDict
  | .getText _ => Except HttpError String
  | .sleep | .createTableArtifact _ _ => Unit

/-- An operation and how it was answered. -/
abbrev Answer := (op : WireOperation) × Except PyException op.Value

def event (op : WireOperation) (reply : Except PyException op.Value) : Answer := ⟨op, reply⟩

end WireOperation

abbrev WireProgram := Program WireOperation WireOperation.Value PyException

/-- Await an operation of the network or of the engine. -/
abbrev WireOperation.await (op : WireOperation) : WireProgram op.Value := .call op

/-- What is seen of a program on the wire. -/
abbrev WireExec {α : Type} (p : WireProgram α) (log : List WireOperation.Answer)
    (r : Observed WireOperation PyException α) : Prop :=
  Exec WireOperation.event p log r

/-- `async with runtime_session_ctx(self) as session` around one request, and what the method
makes of the token and of the response. -/
def session {γ : Type} (request : WireOperation)
    (method : String → request.Value → Except PyException γ) : WireProgram γ :=
  (WireOperation.await .getToken).bind fun (token : String) =>
    request.await.bind fun response => lift (method token response)

/-- The session of a request that was answered. -/
def exchanged (token : String) (request : WireOperation) (response : request.Value) :
    List WireOperation.Answer :=
  [⟨.getToken, .ok token⟩, ⟨request, .ok response⟩]

/-- How a session can stand. -/
inductive Session {γ : Type} (request : WireOperation)
    (method : String → request.Value → Except PyException γ) :
    List WireOperation.Answer → Observed WireOperation PyException γ → Prop
  | authenticating : Session request method [] (.halted (.waiting .getToken))
  | tokenFailed (ex : PyException) :
      Session request method [⟨.getToken, .error ex⟩] (.halted (.raised ex))
  | requesting (token : String) :
      Session request method [⟨.getToken, .ok token⟩] (.halted (.waiting request))
  | requestFailed (token : String) (ex : PyException) :
      Session request method [⟨.getToken, .ok token⟩, ⟨request, .error ex⟩] (.halted (.raised ex))
  | answered (token : String) (response : request.Value) :
      Session request method (exchanged token request response)
        (Program.answered WireOperation (method token response))

section Methods

variable (py : Builtins) (client : IBMQuantumPlatformClient) (lib : ThirdParty Q)

/-- The data that `run_primitive` posts, prepared before the session is opened. -/
def submissionData (programId : ProgramType) (inputs : Pubs Q) (resourceName : String)
    (options : PyDict) : Except PyException String := do
  let payload := basePayload resourceName options
  let params ← paramsOf payload
  let rows ← pubRows lib programId inputs
  if !lib.modelValidate programId (params.set "pubs" (.list rows)) then
    raiseFailure py
      { reason := "Primitive input doesn't match the data schema for Runtime REST API."
        retry := false }
  else lib.dumps (requestPayload programId payload (params.set "pubs" (.list rows)))

/-- What `run_primitive` makes of the response to its submission. -/
def submittedJob (token : String) (response : Except HttpError PyDict) :
    Except PyException PyValue := do
  let ret ← runtimeSessionCtx py client ⟨.ok token, response⟩
  jobIdOf py ret

def fetchedResult (token : String) (response : Except HttpError String) :
    Except PyException (Fetched Q) := do
  let results ← getPrimitiveResult py client lib ⟨.ok token, response⟩
  return .primitiveResult results

/-- The methods of the client. Sleeps and artifacts are left to the engine. -/
def serve : (op : Operation Q) → WireProgram op.Value
  | .checkResourceAvailable resourceName =>
    session (.getJson s!"backends/{resourceName}/status") fun token response =>
      checkResourceAvailable py client ⟨.ok token, response⟩
  | .runPrimitive programId inputs resourceName options =>
    (lift (submissionData py lib programId inputs resourceName options)).bind fun data =>
      session (.postJson "jobs" data) (submittedJob py client)
  | .getJobStatus jobId =>
    session (.getJson s!"jobs/{jobId}") fun token response =>
      getJobStatus py client jobId ⟨.ok token, response⟩
  | .sleep => WireOperation.await .sleep
  | .getPrimitiveResult jobId =>
    session (.getText s!"jobs/{jobId}/results") (fetchedResult py client lib)
  | .getJobMetrics jobId =>
    session (.getJson s!"jobs/{jobId}/metrics") fun token response =>
      getJobMetrics py client ⟨.ok token, response⟩
  | .createTableArtifact table description =>
    WireOperation.await (.createTableArtifact table description)

/-- One attempt of a task. -/
def attempt (args : RunPrimitiveArgs Q) : WireProgram (Fetched Q) :=
  (runPrimitiveBody py args).handle (serve py client lib)

/-- A task of a runtime block with these credentials. -/
def task (args : RunPrimitiveArgs Q) (maxRetry : ℕ) : WireProgram (Fetched Q) :=
  (runnerBody py args maxRetry).handle (serve py client lib)

end Methods

theorem session_exec_iff {γ : Type} (request : WireOperation)
    (method : String → request.Value → Except PyException γ) (log : List WireOperation.Answer)
    (r : Observed WireOperation PyException γ) :
    WireExec (session request method) log r ↔ Session request method log r := by
  constructor
  · intro h
    obtain ⟨rfl, rfl⟩ | ⟨reply, log', rfl, htoken⟩ := (exec_call_bind _ _ _ _).1 h
    · exact .authenticating
    · cases reply with
      | error ex =>
        obtain ⟨rfl, rfl⟩ := (same_throw_bind ex _ _ _).1 htoken
        exact .tokenFailed ex
      | ok token =>
        have hrequest := (same_pure_bind token _ _ _).1 htoken
        obtain ⟨rfl, rfl⟩ | ⟨reply, log'', rfl, hresponse⟩ :=
          (exec_call_bind _ _ _ _).1 hrequest
        · exact .requesting token
        · cases reply with
          | error ex =>
            obtain ⟨rfl, rfl⟩ := (same_throw_bind ex _ _ _).1 hresponse
            exact .requestFailed token ex
          | ok response =>
            obtain ⟨rfl, rfl⟩ := exec_lift.1 ((same_pure_bind response _ _ _).1 hresponse)
            exact .answered token response
  · intro h
    apply (exec_call_bind _ _ _ _).2
    have hrequest : ∀ (token : String) (log : List WireOperation.Answer),
        WireExec (request.await.bind fun response => lift (method token response)) log r →
          ∃ reply log', WireOperation.event .getToken (.ok token) :: log =
            WireOperation.event .getToken reply :: log' ∧ WireExec ((lift reply).bind
              fun (token : String) => request.await.bind
                fun response => lift (method token response)) log' r :=
      fun token log h => ⟨.ok token, log, rfl, (same_pure_bind token _ _ _).2 h⟩
    cases h with
    | authenticating => exact .inl ⟨rfl, rfl⟩
    | tokenFailed ex => exact .inr ⟨.error ex, [], rfl, (same_throw_bind ex _ _ _).2 ⟨rfl, rfl⟩⟩
    | requesting token =>
      exact .inr (hrequest token [] ((exec_call_bind _ _ _ _).2 (.inl ⟨rfl, rfl⟩)))
    | requestFailed token ex =>
      have hfailed : WireExec (request.await.bind fun response => lift (method token response))
          [⟨request, .error ex⟩] (.halted (.raised ex)) := (exec_call_bind _ _ _ _).2
        (.inr ⟨.error ex, [], rfl, (same_throw_bind ex _ _ _).2 ⟨rfl, rfl⟩⟩)
      exact .inr (hrequest token _ hfailed)
    | answered token response =>
      have hanswered : WireExec (request.await.bind fun response => lift (method token response))
          [⟨request, .ok response⟩] (answered WireOperation (method token response)) :=
        (exec_call_bind _ _ _ _).2 (.inr ⟨.ok response, [], rfl,
          (same_pure_bind response _ _ _).2 (exec_lift.2 ⟨rfl, rfl⟩)⟩)
      exact .inr (hrequest token _ hanswered)

end PrefectQiskit.IBMQuantum
