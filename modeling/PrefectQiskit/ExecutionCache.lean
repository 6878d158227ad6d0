import Mathlib.Data.String.Basic
import PrefectQiskit.AttemptProtocol
import PrefectQiskit.CacheKey
import PrefectQiskit.Memo

/-!
# The execution cache

Calls of `sampler` and `estimator` by any blocks against one result store. The key of a call
is computed from its blocs, its options and the resource name, so this much is what a stored
result shares with the call that is served with it. The credentials are not part of the key.
-/

namespace PrefectQiskit

open PrimitiveRunner Coroutine Memo

variable {Q : Qiskit}

def cachePrefix : String := "qiskit-primitive-"

/-- `_primitive_cache` -/
def primitiveCache (lib : HashLibrary Q) (parameters : CacheParameters Q) :
    Except ThirdPartyError String := do
  let key ← pubHasher lib parameters.primitiveBlocs parameters.options parameters.resourceName
  return cachePrefix ++ key

/-- A call of `sampler` or of `estimator`, which coerce their blocs to the class of that
program. -/
structure PrimitiveCall (Q : Qiskit) where
  runtime : QuantumRuntime
  context : TaskRunContext
  primitiveBlocs : Pubs Q
  options : Option PyDict

namespace PrimitiveCall

variable (py : Builtins) (lib : HashLibrary Q) (call : PrimitiveCall Q)

def programType : ProgramType := call.primitiveBlocs.programType

def parameters : CacheParameters Q :=
  ⟨call.primitiveBlocs, call.options, call.runtime.resourceName⟩

/-- The key under which the engine looks for a result. The cache policy gives none when the
cache is off or the key cannot be computed. -/
def cacheKey : Option String :=
  if call.runtime.executionCache then (primitiveCache lib call.parameters).toOption else none

/-- The blocs that the task receives, after the key was computed from them. -/
def submittedBlocs : Pubs Q :=
  if call.runtime.executionCache then call.primitiveBlocs.afterHashing lib
  else call.primitiveBlocs

/-- The arguments of the runner when no stored result is used. -/
def arguments : RunPrimitiveArgs Q :=
  call.runtime.configuredRunner call.context (call.submittedBlocs lib) call.programType call.options

/-- The task of the call can run like this. -/
def Runs (t : List (Event Q)) (outcome : Outcome Q) : Prop :=
  (call.runtime.buildRunnerTask py call.context (call.submittedBlocs lib) call.programType
    call.options).Run taskStart t (.finished outcome)

/-- Calls made one after another against one store. -/
abbrev CallHistory (log : List (Entry (PrimitiveCall Q) (List (Event Q)) PyException (Fetched Q)))
    (store : String → Option (Fetched Q)) : Prop :=
  History (cacheKey lib) (Runs py lib) log store

/-- The bytes that the digest is applied to for the calls of a history. -/
def digested (log : List (Entry (PrimitiveCall Q) (List (Event Q)) PyException (Fetched Q))) :
    Set (List UInt8) :=
  {b | ∃ e ∈ log, hashedInputs lib e.call.primitiveBlocs e.call.options
    e.call.runtime.resourceName = .ok b}

variable {py lib call}

/-- A call has a key when its inputs can be serialized, and the key is then their digest. -/
theorem cacheKey_eq_some {k : String} (h : call.cacheKey lib = some k) :
    ∃ b, hashedInputs lib call.primitiveBlocs call.options call.runtime.resourceName = .ok b ∧
      k = cachePrefix ++ lib.sha256 b := by
  rw [cacheKey, primitiveCache, pubHasher] at h
  split at h
  · cases hb : hashedInputs lib call.parameters.primitiveBlocs call.parameters.options
        call.parameters.resourceName with
    | error e =>
      rw [hb] at h
      cases h
    | ok b =>
      rw [hb] at h
      cases h
      exact ⟨b, hb, rfl⟩
  · cases h

/-- Calls of a history with the same key have the same inputs. -/
theorem sameInputs_of_cacheKey_eq (hp : PickleInjective lib) {call' : PrimitiveCall Q}
    {S : Set (List UInt8)} (hsha : Set.InjOn lib.sha256 S) {k : String}
    (hk : call.cacheKey lib = some k) (hk' : call'.cacheKey lib = some k)
    (hS : ∀ b, hashedInputs lib call.primitiveBlocs call.options
      call.runtime.resourceName = .ok b → b ∈ S)
    (hS' : ∀ b, hashedInputs lib call'.primitiveBlocs call'.options
      call'.runtime.resourceName = .ok b → b ∈ S) :
    SameInputs lib call.parameters call'.parameters := by
  obtain ⟨b, hb, rfl⟩ := cacheKey_eq_some hk
  obtain ⟨b', hb', heq⟩ := cacheKey_eq_some hk'
  have hdigest := (String.append_right_inj cachePrefix).mp heq
  obtain rfl : b = b' := hsha (hS b hb) (hS' b' hb') hdigest
  exact @hashedInputs_separates _ _ hp call.parameters call'.parameters b hb hb'

/-- The transcript holds a job of these arguments with this result. -/
def HoldsJob (args : RunPrimitiveArgs Q) (t : List (Event Q)) (result : Fetched Q) : Prop :=
  ∃ jobId, submission args (.ok (.str jobId)) ∈ t ∧ completion jobId ∈ t ∧
    .getPrimitiveResult jobId (.ok result) ∈ t

theorem Runs.holdsJob {t : List (Event Q)} {result : Fetched Q}
    (h : call.Runs py lib t (.ok result)) : HoldsJob (call.arguments lib) t result := by
  obtain ⟨failed, last, hloop⟩ := runnerTask_attemptLoop h
  obtain ⟨jobId, hs, hc, hr⟩ := hloop.returned result rfl
  have hsub : ∀ e ∈ last, e ∈ t := by
    intro e he
    rw [hloop.transcript_eq]
    exact List.mem_flatten.mpr ⟨last, by simp, he⟩
  exact ⟨jobId, hsub _ hs, hsub _ hc, hsub _ hr⟩

/-- Every result handed to a call is that of a job which this call or an earlier one ran, for
the same resource, options and blocs as the key tells them apart. -/
theorem result_from_same_inputs (py : Builtins) (lib : HashLibrary Q) (hp : PickleInjective lib)
    {log : List (Entry (PrimitiveCall Q) (List (Event Q)) PyException (Fetched Q))}
    {store : String → Option (Fetched Q)} (h : CallHistory py lib log store)
    (hsha : Set.InjOn lib.sha256 (digested lib log))
    (pre post : List (Entry (PrimitiveCall Q) (List (Event Q)) PyException (Fetched Q)))
    (e : Entry (PrimitiveCall Q) (List (Event Q)) PyException (Fetched Q))
    (hlog : log = pre ++ e :: post) (result : Fetched Q) (he : e.result? = some result) :
    ∃ (call : PrimitiveCall Q) (t : List (Event Q)), .ran call t (.ok result) ∈ pre ++ [e] ∧
      HoldsJob (call.arguments lib) t result ∧
      SameInputs lib call.parameters e.call.parameters := by
  obtain ⟨call, t, ⟨hmem, hruns⟩, hcall⟩ := h.result_produced hlog he
  refine ⟨call, t, hmem, hruns.holdsJob, ?_⟩
  rcases hcall with rfl | ⟨k, hk, hk'⟩
  · exact SameInputs.refl _ _
  · have hran : .ran call t (.ok result) ∈ log := by
      rw [hlog]
      rcases List.mem_append.mp hmem with hm | hm
      · exact List.mem_append_left _ hm
      · rw [List.mem_singleton.mp hm]
        simp
    have hmem' : e ∈ log := by simp [hlog]
    exact sameInputs_of_cacheKey_eq hp hsha hk hk' (fun b hb => ⟨_, hran, hb⟩)
      (fun b hb => ⟨e, hmem', hb⟩)

section Sample

/-- A simulator of the given size behind a cache. -/
def cachingRuntime (numQubits : ℕ) : QuantumRuntime where
  resourceName := "aer_simulator"
  credentials := .aer ⟨numQubits, ["rz", "sx", "x", "cz"], false, .linear⟩
  enableJobAnalytics := false
  maxRetry := 0
  executionCache := true

def sampleCall (numQubits : ℕ) (primitiveBlocs : Pubs plainQiskit) : PrimitiveCall plainQiskit :=
  ⟨cachingRuntime numQubits, sampleContext, primitiveBlocs, none⟩

def emptyResult : Fetched plainQiskit := .primitiveResult ⟨[], []⟩

/-- The transcript of a call whose job completes at the first poll. -/
def completedRun (call : PrimitiveCall plainQiskit) (result : Fetched plainQiskit) :
    List (Event plainQiskit) :=
  submitted (call.arguments sampleHashLibrary) (.bool true) "job-1" ++
    [completion "job-1", .getPrimitiveResult "job-1" (.ok result)]

theorem completedRun_runs (call : PrimitiveCall plainQiskit) (result : Fetched plainQiskit)
    (ha : call.runtime.enableJobAnalytics = false) :
    call.Runs .ascii sampleHashLibrary (completedRun call result) (.ok result) := by
  have hrun := run_play (call.runtime.buildRunnerTask .ascii call.context
    (call.submittedBlocs sampleHashLibrary) call.programType call.options)
    (answers 4 (sampleClient "job-1" (.ok (.str "COMPLETED")) (.ok result)
      (.error temporaryFailure))) taskStart
  obtain ⟨⟨_, _, analytics, _, _⟩, _, _, _⟩ := call
  cases ha
  exact hrun

/-- Two simulators of different size, then a sampler and an estimator without blocs. -/
def sampleLog : List (Entry (PrimitiveCall plainQiskit) (List (Event plainQiskit)) PyException
    (Fetched plainQiskit)) :=
  [.ran (sampleCall 2 (sampleNamedPubs "bell"))
      (completedRun (sampleCall 2 (sampleNamedPubs "bell")) sampleResult) (.ok sampleResult),
    .served (sampleCall 3 (sampleNamedPubs "circuit-7")) sampleResult,
    .ran (sampleCall 2 (.sampler [])) (completedRun (sampleCall 2 (.sampler [])) emptyResult)
      (.ok emptyResult),
    .served (sampleCall 2 (.estimator [])) emptyResult]

def pubKey : String :=
  "qiskit-primitive-ad0d4b4896085b8f7938aeef555ed34696613cd7b225c97d012f0d0656a4d41a"

def emptyKey : String :=
  "qiskit-primitive-1cc2147e452b945f24a433f187a96cf43f99fcce0d64688553b6c950dcfb264f"

theorem cacheKey_bell : (sampleCall 2 (sampleNamedPubs "bell")).cacheKey sampleHashLibrary =
    some pubKey := by
  decide +kernel

theorem cacheKey_circuit : (sampleCall 3 (sampleNamedPubs "circuit-7")).cacheKey
    sampleHashLibrary = some pubKey := by
  decide +kernel

theorem cacheKey_sampler_nil : (sampleCall 2 (.sampler [])).cacheKey sampleHashLibrary =
    some emptyKey := by
  decide +kernel

theorem cacheKey_estimator_nil : (sampleCall 2 (.estimator [])).cacheKey sampleHashLibrary =
    some emptyKey := by
  decide +kernel

theorem sampleLog_history : ∃ store, CallHistory .ascii sampleHashLibrary sampleLog store := by
  have h₀ : CallHistory .ascii sampleHashLibrary [] _ := .nil
  have h₁ := h₀.ran (sampleCall 2 (sampleNamedPubs "bell")) _ _ (fun _ _ => rfl)
    (completedRun_runs _ sampleResult rfl)
  have h₂ := h₁.served (sampleCall 3 (sampleNamedPubs "circuit-7")) pubKey sampleResult
    cacheKey_circuit (by simp [save, cacheKey_bell])
  have hmiss (k : String) (hk : (sampleCall 2 (.sampler [])).cacheKey sampleHashLibrary = some k) :
      save (cacheKey sampleHashLibrary) (fun _ => none) (sampleCall 2 (sampleNamedPubs "bell"))
        (.ok sampleResult : Outcome plainQiskit) k = none := by
    rw [cacheKey_sampler_nil] at hk
    cases hk
    simp only [save, cacheKey_bell]
    decide +kernel
  have h₃ := h₂.ran (sampleCall 2 (.sampler [])) _ _ hmiss (completedRun_runs _ emptyResult rfl)
  have h₄ := h₃.served (sampleCall 2 (.estimator [])) emptyKey emptyResult
    cacheKey_estimator_nil (by simp [save, cacheKey_sampler_nil])
  exact ⟨_, h₄⟩

theorem sampleLog_digested {b : List UInt8} (hb : b ∈ digested sampleHashLibrary sampleLog) :
    b = sampleInputBytes ∨ b = sampleEmptyBytes := by
  obtain ⟨e, he, hb⟩ := hb
  simp only [sampleLog, List.mem_cons, List.not_mem_nil, or_false] at he
  rcases he with rfl | rfl | rfl | rfl
  · exact Or.inl (Except.ok.inj hb).symm
  · exact Or.inl (Except.ok.inj hb).symm
  · exact Or.inr (Except.ok.inj hb).symm
  · exact Or.inr (Except.ok.inj hb).symm

theorem sampleLog_collisionFree :
    Set.InjOn sampleHashLibrary.sha256 (digested sampleHashLibrary sampleLog) := by
  have hne : sampleHashLibrary.sha256 sampleInputBytes ≠
      sampleHashLibrary.sha256 sampleEmptyBytes := by
    decide +kernel
  intro b hb b' hb' h
  rcases sampleLog_digested hb with rfl | rfl <;> rcases sampleLog_digested hb' with rfl | rfl
  · rfl
  · exact (hne h).elim
  · exact (hne h.symm).elim
  · rfl

/-- A result is handed to a call whose credentials and circuits are not those of any call that
produced it, and a sampler's result to an estimator call. -/
theorem cache_not_isolated :
    PickleInjective sampleHashLibrary ∧
    Set.InjOn sampleHashLibrary.sha256 (digested sampleHashLibrary sampleLog) ∧
    (∃ store, CallHistory .ascii sampleHashLibrary sampleLog store) ∧
    (∃ e ∈ sampleLog, ∃ result, e.result? = some result ∧
      ∀ call t, .ran call t (.ok result) ∈ sampleLog →
        call.runtime.credentials ≠ e.call.runtime.credentials ∧
          call.primitiveBlocs ≠ e.call.primitiveBlocs) ∧
    ∃ e ∈ sampleLog, ∃ result, e.result? = some result ∧
      ∀ call t, .ran call t (.ok result) ∈ sampleLog → call.programType ≠ e.call.programType := by
  refine ⟨sampleHashLibrary_pickleInjective, sampleLog_collisionFree, sampleLog_history, ?_, ?_⟩
  · refine ⟨.served (sampleCall 3 (sampleNamedPubs "circuit-7")) sampleResult, by simp [sampleLog],
      sampleResult, rfl, ?_⟩
    intro call t hmem
    simp only [sampleLog, sampleResult, emptyResult, List.mem_cons, Entry.ran.injEq,
      Except.ok.injEq, Fetched.primitiveResult.injEq, PrimitiveResult.mk.injEq, reduceCtorEq,
      false_and, and_false, or_false, List.not_mem_nil] at hmem
    rw [hmem.1]
    exact ⟨by decide, by simp [Entry.call, sampleCall, sampleNamedPubs]⟩
  · refine ⟨.served (sampleCall 2 (.estimator [])) emptyResult, by simp [sampleLog],
      emptyResult, rfl, ?_⟩
    intro call t hmem
    simp only [sampleLog, sampleResult, emptyResult, List.mem_cons, Entry.ran.injEq,
      Except.ok.injEq, Fetched.primitiveResult.injEq, PrimitiveResult.mk.injEq, reduceCtorEq,
      false_and, and_false, or_false, false_or, List.not_mem_nil] at hmem
    rw [hmem.1]
    decide

theorem result_from_same_inputs_sample : ∃ (call : PrimitiveCall plainQiskit)
    (t : List (Event plainQiskit)), .ran call t (.ok sampleResult) ∈ sampleLog.take 2 ∧
      HoldsJob (call.arguments sampleHashLibrary) t sampleResult ∧
      SameInputs sampleHashLibrary call.parameters
        (sampleCall 3 (sampleNamedPubs "circuit-7")).parameters :=
  let ⟨_, h⟩ := sampleLog_history
  result_from_same_inputs .ascii sampleHashLibrary sampleHashLibrary_pickleInjective h
    sampleLog_collisionFree (sampleLog.take 1) (sampleLog.drop 2)
    (.served (sampleCall 3 (sampleNamedPubs "circuit-7")) sampleResult) rfl sampleResult rfl

end Sample

end PrimitiveCall

end PrefectQiskit
