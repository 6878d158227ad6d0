import PrefectQiskit.ExecutionCache

/-!
# Circuits shared between the key and the job

Blocs refer to circuit objects of the caller, several of them possibly to one. The key is
computed over these objects and clears the names of those it reaches, and the payload of the
job is built from the same objects afterwards.
-/

namespace PrefectQiskit.CircuitHeap

variable {Q : Qiskit}

/-- The circuit objects by address. -/
abbrev Heap (Q : Qiskit) := ℕ → QuantumCircuit Q

/-- A sampler pub, whose circuit is a reference. -/
structure SamplerPubObject (Q : Qiskit) where
  circuit : ℕ
  parameterValues : Q.BindingsArray
  shots : Option ℕ
  shape : List ℕ

structure EstimatorPubObject (Q : Qiskit) where
  circuit : ℕ
  observables : Q.ObservablesArray
  parameterValues : Q.BindingsArray
  precision : Option PyFloat
  shape : List ℕ

inductive PubObjects (Q : Qiskit) where
  | sampler (pubs : List (SamplerPubObject Q))
  | estimator (pubs : List (EstimatorPubObject Q))

/-- What the pub is while the circuits are as in `heap`. -/
def SamplerPubObject.read (heap : Heap Q) (pub : SamplerPubObject Q) : SamplerPub Q :=
  ⟨heap pub.circuit, pub.parameterValues, pub.shots, pub.shape⟩

def EstimatorPubObject.read (heap : Heap Q) (pub : EstimatorPubObject Q) : EstimatorPub Q :=
  ⟨heap pub.circuit, pub.observables, pub.parameterValues, pub.precision, pub.shape⟩

def PubObjects.read (heap : Heap Q) : PubObjects Q → Pubs Q
  | .sampler pubs => .sampler (pubs.map (SamplerPubObject.read heap))
  | .estimator pubs => .estimator (pubs.map (EstimatorPubObject.read heap))

/-! ## The key on the heap -/

/-- `circ.name = ""` -/
def clearName (heap : Heap Q) (circuit : ℕ) : Heap Q :=
  Function.update heap circuit (heap circuit).unnamed

section Key

variable (lib : HashLibrary Q)

def encodeSamplerPub (heap : Heap Q) (pub : SamplerPubObject Q) :
    Except ThirdPartyError (List UInt8) × Heap Q :=
  let heap := clearName heap pub.circuit
  (do
    let text ← lib.oq3Dumps (heap pub.circuit)
    lib.pickleDumps
      [.value (.str text), .bindings pub.parameterValues, .value (optionalShots pub.shots)], heap)

def encodeEstimatorPub (heap : Heap Q) (pub : EstimatorPubObject Q) :
    Except ThirdPartyError (List UInt8) × Heap Q :=
  let heap := clearName heap pub.circuit
  (do
    let text ← lib.oq3Dumps (heap pub.circuit)
    lib.pickleDumps
      [.value (.str text), .observables pub.observables, .bindings pub.parameterValues,
        .value (optionalPrecision pub.precision)], heap)

/-- `list(map(encode_pub, pubs))` -/
def encodePubs {π : Type} (encode : Heap Q → π → Except ThirdPartyError (List UInt8) × Heap Q) :
    Heap Q → List π → Except ThirdPartyError (List (List UInt8)) × Heap Q
  | heap, [] => (.ok [], heap)
  | heap, pub :: pubs =>
    match encode heap pub with
    | (.error e, heap) => (.error e, heap)
    | (.ok bytes, heap) =>
      match encodePubs encode heap pubs with
      | (.error e, heap) => (.error e, heap)
      | (.ok rest, heap) => (.ok (bytes :: rest), heap)

def pubBytes (heap : Heap Q) :
    PubObjects Q → Except ThirdPartyError (List (List UInt8)) × Heap Q
  | .sampler pubs => encodePubs (encodeSamplerPub lib) heap pubs
  | .estimator pubs => encodePubs (encodeEstimatorPub lib) heap pubs

/-- `_primitive_cache`, as the key and the heap that it leaves. -/
def primitiveCache (heap : Heap Q) (pubs : PubObjects Q) (options : Option PyDict)
    (resourceName : String) : Except ThirdPartyError String × Heap Q :=
  match pubBytes lib heap pubs with
  | (.error e, heap) => (.error e, heap)
  | (.ok bytes, heap) =>
    (do
      let inputs ← lib.pickleDumps
        [.value (.list (bytes.map .bytes)), .value (optionsValue options),
          .value (.str resourceName)]
      return cachePrefix ++ lib.sha256 inputs, heap)

/-- The heap after the key was computed `n` times. -/
def afterKeys (heap : Heap Q) (pubs : PubObjects Q) (options : Option PyDict)
    (resourceName : String) (n : ℕ) : Heap Q :=
  (fun heap => (primitiveCache lib heap pubs options resourceName).2)^[n] heap

/-- The blocs that reach `client.run_primitive` on a cache miss. -/
def submittedBlocs (executionCache : Bool) (heap : Heap Q) (pubs : PubObjects Q)
    (options : Option PyDict) (resourceName : String) : Pubs Q :=
  if executionCache then pubs.read (primitiveCache lib heap pubs options resourceName).2
  else pubs.read heap

end Key

/-! ## What the key computation leaves -/

/-- The circuits at these addresses without their names. -/
def clearNames (heap : Heap Q) (circuits : List ℕ) : Heap Q := fun a =>
  if a ∈ circuits then (heap a).unnamed else heap a

/-- The heaps differ in names at most. -/
def SameUpToNames (heap heap' : Heap Q) : Prop := ∀ a, (heap a).unnamed = (heap' a).unnamed

theorem unnamed_unnamed (circ : QuantumCircuit Q) : circ.unnamed.unnamed = circ.unnamed := rfl

theorem sameUpToNames_clearNames (heap : Heap Q) (circuits : List ℕ) :
    SameUpToNames (clearNames heap circuits) heap := by
  intro a
  rw [clearNames]
  split
  · exact unnamed_unnamed _
  · rfl

theorem clearNames_nil (heap : Heap Q) : clearNames heap [] = heap := by
  funext a
  simp [clearNames]

theorem clearNames_clearName (heap : Heap Q) (circuit : ℕ) (circuits : List ℕ) :
    clearNames (clearName heap circuit) circuits = clearNames heap (circuit :: circuits) := by
  funext a
  by_cases ha : a = circuit
  · subst ha
    by_cases hm : a ∈ circuits <;> simp [clearNames, clearName, hm, unnamed_unnamed]
  · by_cases hm : a ∈ circuits <;> simp [clearNames, clearName, ha, hm]

theorem clearName_eq (heap : Heap Q) (circuit : ℕ) :
    clearName heap circuit = clearNames heap [circuit] := by
  rw [← clearNames_clearName, clearNames_nil]

theorem clearNames_clearNames (heap : Heap Q) (circuits : List ℕ) :
    clearNames (clearNames heap circuits) circuits = clearNames heap circuits := by
  funext a
  by_cases hm : a ∈ circuits <;> simp [clearNames, hm, unnamed_unnamed]

theorem clearNames_eq_self_iff (heap : Heap Q) (circuits : List ℕ) :
    clearNames heap circuits = heap ↔ ∀ a ∈ circuits, (heap a).name = "" := by
  constructor
  · intro h a ha
    rw [← h, clearNames, if_pos ha]
    rfl
  · intro h
    funext a
    by_cases ha : a ∈ circuits
    · have hname := h a ha
      rw [clearNames, if_pos ha, QuantumCircuit.unnamed, ← hname]
    · rw [clearNames, if_neg ha]

/-- The pubs that are encoded, and the first that cannot be. -/
def reached {π : Type} (encodes : π → Bool) : List π → List π
  | [] => []
  | pub :: pubs => if encodes pub then pub :: reached encodes pubs else [pub]

/-- An encoder that clears the name of its circuit and does not depend on it. -/
structure NameBlind {π : Type} (circuit : π → ℕ)
    (encode : Heap Q → π → Except ThirdPartyError (List UInt8) × Heap Q)
    (value : Heap Q → π → Except ThirdPartyError (List UInt8)) : Prop where
  eq : ∀ heap pub, encode heap pub = (value heap pub, clearName heap (circuit pub))
  blind : ∀ heap heap' pub, SameUpToNames heap heap' → value heap pub = value heap' pub

theorem NameBlind.value_clearNames {π : Type} {circuit : π → ℕ}
    {encode : Heap Q → π → Except ThirdPartyError (List UInt8) × Heap Q}
    {value : Heap Q → π → Except ThirdPartyError (List UInt8)} (h : NameBlind circuit encode value)
    (heap : Heap Q) (circuits : List ℕ) : value (clearNames heap circuits) = value heap := by
  funext pub
  exact h.blind _ _ pub (sameUpToNames_clearNames heap circuits)

/-- Encoding all pubs gives the bytes of their values and clears the names it comes to. -/
theorem NameBlind.encodePubs {π : Type} {circuit : π → ℕ}
    {encode : Heap Q → π → Except ThirdPartyError (List UInt8) × Heap Q}
    {value : Heap Q → π → Except ThirdPartyError (List UInt8)} (h : NameBlind circuit encode value)
    (heap : Heap Q) (pubs : List π) :
    encodePubs encode heap pubs = (pubs.mapM (value heap), clearNames heap
      ((reached (fun pub => (value heap pub).toOption.isSome) pubs).map circuit)) := by
  induction pubs generalizing heap with
  | nil =>
    rw [CircuitHeap.encodePubs, reached, List.map_nil, clearNames_nil]
    rfl
  | cons pub pubs ih =>
    rw [CircuitHeap.encodePubs, h.eq, List.mapM_cons, reached]
    cases hvalue : value heap pub with
    | error e =>
      simp only [clearName_eq]
      rfl
    | ok bytes =>
      have hblind : value (clearName heap (circuit pub)) = value heap := by
        rw [clearName_eq, h.value_clearNames]
      have htail := ih (clearName heap (circuit pub))
      rw [hblind, clearNames_clearName] at htail
      simp only [htail, ok_bind]
      cases pubs.mapM (value heap) <;> rfl

theorem nameBlind_sampler (lib : HashLibrary Q) :
    NameBlind SamplerPubObject.circuit (encodeSamplerPub lib)
      (fun heap pub => PrefectQiskit.encodeSamplerPub lib (pub.read heap)) where
  eq heap pub := by
    rw [encodeSamplerPub, PrefectQiskit.encodeSamplerPub, clearName, Function.update_self]
    rfl
  blind heap heap' pub h := by
    rw [PrefectQiskit.encodeSamplerPub, PrefectQiskit.encodeSamplerPub]
    simp only [SamplerPubObject.read, h pub.circuit]

theorem nameBlind_estimator (lib : HashLibrary Q) :
    NameBlind EstimatorPubObject.circuit (encodeEstimatorPub lib)
      (fun heap pub => PrefectQiskit.encodeEstimatorPub lib (pub.read heap)) where
  eq heap pub := by
    rw [encodeEstimatorPub, PrefectQiskit.encodeEstimatorPub, clearName, Function.update_self]
    rfl
  blind heap heap' pub h := by
    rw [PrefectQiskit.encodeEstimatorPub, PrefectQiskit.encodeEstimatorPub]
    simp only [EstimatorPubObject.read, h pub.circuit]

/-- The circuits whose names are cleared: those of the pubs up to the first that cannot be
encoded. -/
def reachedCircuits (lib : HashLibrary Q) (heap : Heap Q) : PubObjects Q → List ℕ
  | .sampler pubs => (reached (fun pub =>
      (PrefectQiskit.encodeSamplerPub lib (pub.read heap)).toOption.isSome) pubs).map
        SamplerPubObject.circuit
  | .estimator pubs => (reached (fun pub =>
      (PrefectQiskit.encodeEstimatorPub lib (pub.read heap)).toOption.isSome) pubs).map
        EstimatorPubObject.circuit

/-- The key is that of the values, and the names of the reached circuits are gone. -/
theorem primitiveCache_eq (lib : HashLibrary Q) (heap : Heap Q) (pubs : PubObjects Q)
    (options : Option PyDict) (resourceName : String) :
    primitiveCache lib heap pubs options resourceName =
      (PrefectQiskit.primitiveCache lib ⟨pubs.read heap, options, resourceName⟩,
        clearNames heap (reachedCircuits lib heap pubs)) := by
  have hbytes : pubBytes lib heap pubs =
      ((pubs.read heap).toList.mapM (encodePub lib),
        clearNames heap (reachedCircuits lib heap pubs)) := by
    cases pubs with
    | sampler pubs =>
      rw [pubBytes, (nameBlind_sampler lib).encodePubs, PubObjects.read, Pubs.toList,
        List.mapM_map, List.mapM_map]
      rfl
    | estimator pubs =>
      rw [pubBytes, (nameBlind_estimator lib).encodePubs, PubObjects.read, Pubs.toList,
        List.mapM_map, List.mapM_map]
      rfl
  rw [primitiveCache, hbytes, PrefectQiskit.primitiveCache, pubHasher, hashedInputs]
  cases (pubs.read heap).toList.mapM (encodePub lib) with
  | error e => rfl
  | ok bytes =>
    simp only [ok_bind]
    cases lib.pickleDumps [.value (.list (bytes.map .bytes)), .value (optionsValue options),
      .value (.str resourceName)] <;> rfl

/-! Nothing about the key depends on the names. -/

section Blind

variable (lib : HashLibrary Q) (heap : Heap Q) (circuits : List ℕ) (pubs : PubObjects Q)
  (options : Option PyDict) (resourceName : String)

theorem reachedCircuits_clearNames :
    reachedCircuits lib (clearNames heap circuits) pubs = reachedCircuits lib heap pubs := by
  cases pubs with
  | sampler pubs =>
    have hvalue := congrFun ((nameBlind_sampler lib).value_clearNames heap circuits)
    simp only [reachedCircuits, hvalue]
  | estimator pubs =>
    have hvalue := congrFun ((nameBlind_estimator lib).value_clearNames heap circuits)
    simp only [reachedCircuits, hvalue]

theorem pubBytes_clearNames :
    (pubBytes lib (clearNames heap circuits) pubs).1 = (pubBytes lib heap pubs).1 := by
  cases pubs with
  | sampler pubs =>
    rw [pubBytes, pubBytes, (nameBlind_sampler lib).encodePubs,
      (nameBlind_sampler lib).encodePubs, (nameBlind_sampler lib).value_clearNames]
  | estimator pubs =>
    rw [pubBytes, pubBytes, (nameBlind_estimator lib).encodePubs,
      (nameBlind_estimator lib).encodePubs, (nameBlind_estimator lib).value_clearNames]

theorem key_clearNames :
    (primitiveCache lib (clearNames heap circuits) pubs options resourceName).1 =
      (primitiveCache lib heap pubs options resourceName).1 := by
  have hbytes := pubBytes_clearNames lib heap circuits pubs
  rw [primitiveCache, primitiveCache]
  cases hcleared : pubBytes lib (clearNames heap circuits) pubs with
  | mk bytes left =>
    cases hplain : pubBytes lib heap pubs with
    | mk bytes' left' =>
      have heq : bytes = bytes' := by simpa [hcleared, hplain] using hbytes
      subst heq
      cases bytes <;> rfl

/-- The first computation clears the names, the later ones change nothing. -/
theorem afterKeys_succ (n : ℕ) :
    afterKeys lib heap pubs options resourceName (n + 1) =
      clearNames heap (reachedCircuits lib heap pubs) := by
  induction n with
  | zero =>
    rw [afterKeys, Function.iterate_one, primitiveCache_eq]
  | succ n ih =>
    have hstep : afterKeys lib heap pubs options resourceName (n + 1 + 1) =
        (primitiveCache lib (afterKeys lib heap pubs options resourceName (n + 1)) pubs options
          resourceName).2 := Function.iterate_succ_apply' _ _ _
    rw [hstep, ih, primitiveCache_eq, reachedCircuits_clearNames, clearNames_clearNames]

/-- Whatever becomes of the circuits, the key stays the same. -/
theorem key_afterKeys (n : ℕ) :
    (primitiveCache lib (afterKeys lib heap pubs options resourceName n) pubs options
      resourceName).1 = (primitiveCache lib heap pubs options resourceName).1 := by
  cases n with
  | zero => rfl
  | succ n => rw [afterKeys_succ, key_clearNames]

end Blind

theorem reached_of_forall {π : Type} {encodes : π → Bool} {pubs : List π}
    (h : ∀ pub ∈ pubs, encodes pub) : reached encodes pubs = pubs := by
  induction pubs with
  | nil => rfl
  | cons pub pubs ih =>
    obtain ⟨hpub, hpubs⟩ := List.forall_mem_cons.1 h
    rw [reached, if_pos hpub, ih hpubs]

theorem clearNames_of_forall {π : Type} {encode : π → Except ThirdPartyError (List UInt8)}
    {clear : π → π} {pubs : List π} (h : ∀ pub ∈ pubs, (encode pub).toOption.isSome) :
    PrefectQiskit.clearNames encode clear pubs = pubs.map clear := by
  induction pubs with
  | nil => rfl
  | cons pub pubs ih =>
    obtain ⟨hpub, hpubs⟩ := List.forall_mem_cons.1 h
    rw [PrefectQiskit.clearNames]
    cases hencode : encode pub with
    | error e =>
      rw [hencode] at hpub
      cases hpub
    | ok bytes => rw [List.map_cons, ih hpubs]

/-- Blocs that can all be encoded are left on the heap as the computation on values says, be
their circuits shared or not. -/
theorem read_primitiveCache (lib : HashLibrary Q) (heap : Heap Q) (pubs : PubObjects Q)
    (options : Option PyDict) (resourceName : String)
    (h : ∀ pub ∈ (pubs.read heap).toList, (encodePub lib pub).toOption.isSome) :
    pubs.read (primitiveCache lib heap pubs options resourceName).2 =
      (pubs.read heap).afterHashing lib := by
  rw [primitiveCache_eq]
  cases pubs with
  | sampler pubs =>
    have hpubs : ∀ pub ∈ pubs,
        (PrefectQiskit.encodeSamplerPub lib (pub.read heap)).toOption.isSome := by
      intro pub hpub
      exact h (.sampler (pub.read heap)) (List.mem_map_of_mem (List.mem_map_of_mem hpub))
    have hclear : ∀ pub ∈ pubs, pub.read (clearNames heap (pubs.map SamplerPubObject.circuit)) =
        { pub.read heap with circuit := (pub.read heap).circuit.unnamed } := by
      intro pub hpub
      rw [SamplerPubObject.read, clearNames, if_pos (List.mem_map_of_mem hpub)]
      rfl
    rw [reachedCircuits, reached_of_forall hpubs, PubObjects.read, PubObjects.read,
      Pubs.afterHashing, clearNames_of_forall (by simpa using hpubs), List.map_map]
    exact congrArg Pubs.sampler (List.map_congr_left hclear)
  | estimator pubs =>
    have hpubs : ∀ pub ∈ pubs,
        (PrefectQiskit.encodeEstimatorPub lib (pub.read heap)).toOption.isSome := by
      intro pub hpub
      exact h (.estimator (pub.read heap)) (List.mem_map_of_mem (List.mem_map_of_mem hpub))
    have hclear : ∀ pub ∈ pubs, pub.read (clearNames heap (pubs.map EstimatorPubObject.circuit)) =
        { pub.read heap with circuit := (pub.read heap).circuit.unnamed } := by
      intro pub hpub
      rw [EstimatorPubObject.read, clearNames, if_pos (List.mem_map_of_mem hpub)]
      rfl
    rw [reachedCircuits, reached_of_forall hpubs, PubObjects.read, PubObjects.read,
      Pubs.afterHashing, clearNames_of_forall (by simpa using hpubs), List.map_map]
    exact congrArg Pubs.estimator (List.map_congr_left hclear)

/-! ## When the cache does not change the job -/

/-- Computing the key leaves the circuits alone, gives the same key each time, and the job is
submitted with the blocs it would be submitted with without the cache. -/
structure KeyTransparent (lib : HashLibrary Q) (heap : Heap Q) (pubs : PubObjects Q)
    (options : Option PyDict) (resourceName : String) : Prop where
  unchanged : ∀ n a, afterKeys lib heap pubs options resourceName n a = heap a
  sameKey : ∀ n, (primitiveCache lib (afterKeys lib heap pubs options resourceName n) pubs options
    resourceName).1 = (primitiveCache lib heap pubs options resourceName).1
  sameInputs : submittedBlocs lib true heap pubs options resourceName =
    submittedBlocs lib false heap pubs options resourceName

/-- The key computation is transparent exactly for circuits without a name. -/
theorem keyTransparent_iff (lib : HashLibrary Q) (heap : Heap Q) (pubs : PubObjects Q)
    (options : Option PyDict) (resourceName : String) :
    KeyTransparent lib heap pubs options resourceName ↔
      ∀ a ∈ reachedCircuits lib heap pubs, (heap a).name = "" := by
  rw [← clearNames_eq_self_iff]
  constructor
  · intro h
    have hone := afterKeys_succ lib heap pubs options resourceName 0
    rw [← hone]
    funext a
    exact h.unchanged 1 a
  · intro h
    have hafter : ∀ n, afterKeys lib heap pubs options resourceName n = heap := by
      intro n
      cases n with
      | zero => rfl
      | succ n => rw [afterKeys_succ, h]
    refine ⟨fun n a => by rw [hafter], key_afterKeys lib heap pubs options resourceName, ?_⟩
    rw [submittedBlocs, submittedBlocs, primitiveCache_eq, h]
    rfl

/-- One bloc whose circuit has a name. -/
def bellPubs : PubObjects plainQiskit := .sampler [⟨0, (), none, []⟩]

def bellHeap : Heap plainQiskit := fun _ => ⟨"bell", 3, 4, ()⟩

theorem not_keyTransparent :
    ¬∀ (lib : HashLibrary plainQiskit) (heap : Heap plainQiskit) (pubs : PubObjects plainQiskit)
      (options : Option PyDict) (resourceName : String),
      KeyTransparent lib heap pubs options resourceName := by
  intro h
  have hbell := (h sampleHashLibrary bellHeap bellPubs none "aer_simulator").unchanged 1 0
  have hname : "" = "bell" := congrArg QuantumCircuit.name hbell
  exact absurd hname (by decide)

end PrefectQiskit.CircuitHeap
