import PrefectQiskit.PubHasher

/-!
# What the hash of primitive inputs separates

Nothing in a serialized bloc names its class, but the two classes are serialized as tuples of
different lengths. So equal keys mean the same resource, the same options, and bloc by bloc
the same exported circuit and the same data.
-/

namespace PrefectQiskit

variable {Q : Qiskit}

/-- Different tuples are never pickled to the same bytes. -/
def PickleInjective (lib : HashLibrary Q) : Prop := Separates lib.pickleDumps Eq

/-- Blocs that the key does not tell apart. -/
inductive SamePub (lib : HashLibrary Q) : Pub Q → Pub Q → Prop
  | sampler {pub pub' : SamplerPub Q}
      (text : lib.oq3Dumps pub.circuit.unnamed = lib.oq3Dumps pub'.circuit.unnamed)
      (parameterValues : pub.parameterValues = pub'.parameterValues)
      (shots : pub.shots = pub'.shots) : SamePub lib (.sampler pub) (.sampler pub')
  | estimator {pub pub' : EstimatorPub Q}
      (text : lib.oq3Dumps pub.circuit.unnamed = lib.oq3Dumps pub'.circuit.unnamed)
      (parameterValues : pub.parameterValues = pub'.parameterValues)
      (observables : pub.observables = pub'.observables)
      (precision : pub.precision = pub'.precision) : SamePub lib (.estimator pub) (.estimator pub')

/-- The parameters of a task call that its cache key is computed from. -/
structure CacheParameters (Q : Qiskit) where
  primitiveBlocs : Pubs Q
  options : Option PyDict
  resourceName : String

structure SameInputs (lib : HashLibrary Q) (p p' : CacheParameters Q) : Prop where
  resourceName : p.resourceName = p'.resourceName
  options : p.options = p'.options
  length_eq : p.primitiveBlocs.toList.length = p'.primitiveBlocs.toList.length
  pub_eq : ∀ (i : ℕ) (pub pub' : Pub Q), p.primitiveBlocs.toList[i]? = some pub →
    p'.primitiveBlocs.toList[i]? = some pub' → SamePub lib pub pub'
  programType : p.primitiveBlocs.toList ≠ [] →
    p.primitiveBlocs.programType = p'.primitiveBlocs.programType

theorem SameInputs.refl (lib : HashLibrary Q) (p : CacheParameters Q) : SameInputs lib p p := by
  refine ⟨rfl, rfl, rfl, ?_, fun _ => rfl⟩
  intro i pub pub' h h'
  obtain rfl := Option.some.inj (h.symm.trans h')
  cases pub with
  | sampler pub => exact .sampler rfl rfl rfl
  | estimator pub => exact .estimator rfl rfl rfl rfl

theorem optionalShots_injective : Function.Injective optionalShots := by
  intro a b h
  cases a <;> cases b <;> simp_all [optionalShots]

theorem optionalPrecision_injective : Function.Injective optionalPrecision := by
  intro a b h
  cases a <;> cases b <;> simp_all [optionalPrecision]

theorem optionsValue_injective : Function.Injective optionsValue := by
  intro a b h
  cases a <;> cases b <;> simp_all [optionsValue]

variable {lib : HashLibrary Q}

theorem encodePub_separates (hp : PickleInjective lib) :
    Separates (encodePub lib) (SamePub lib) := by
  intro pub pub' b h h'
  cases pub with
  | sampler pub =>
    obtain ⟨text, ht, hb⟩ := bind_eq_ok.mp h
    cases pub' with
    | sampler pub' =>
      obtain ⟨text', ht', hb'⟩ := bind_eq_ok.mp h'
      have heq := hp hb hb'
      simp only [List.cons.injEq, PyObject.value.injEq, PyValue.str.injEq, PyObject.bindings.injEq,
        and_true] at heq
      obtain ⟨rfl, hv, hs⟩ := heq
      exact .sampler (ht.trans ht'.symm) hv (optionalShots_injective hs)
    | estimator pub' =>
      -- a triple against a quadruple
      obtain ⟨text', _, hb'⟩ := bind_eq_ok.mp h'
      have hlen := congrArg List.length (hp hb hb')
      cases hlen
  | estimator pub =>
    obtain ⟨text, ht, hb⟩ := bind_eq_ok.mp h
    cases pub' with
    | sampler pub' =>
      obtain ⟨text', _, hb'⟩ := bind_eq_ok.mp h'
      have hlen := congrArg List.length (hp hb hb')
      cases hlen
    | estimator pub' =>
      obtain ⟨text', ht', hb'⟩ := bind_eq_ok.mp h'
      have heq := hp hb hb'
      simp only [List.cons.injEq, PyObject.value.injEq, PyValue.str.injEq, PyObject.bindings.injEq,
        PyObject.observables.injEq, and_true] at heq
      obtain ⟨rfl, ho, hv, hs⟩ := heq
      exact .estimator (ht.trans ht'.symm) hv ho (optionalPrecision_injective hs)

theorem SamePub.programType_eq {pubs pubs' : Pubs Q}
    (h : List.Forall₂ (SamePub lib) pubs.toList pubs'.toList) (hne : pubs.toList ≠ []) :
    pubs.programType = pubs'.programType := by
  cases pubs with
  | sampler pubs =>
    cases pubs' with
    | sampler pubs' => rfl
    | estimator pubs' =>
      cases pubs <;> cases pubs' <;> cases h
      · exact (hne rfl).elim
      next h _ => cases h
  | estimator pubs =>
    cases pubs' with
    | estimator pubs' => rfl
    | sampler pubs' =>
      cases pubs <;> cases pubs' <;> cases h
      · exact (hne rfl).elim
      next h _ => cases h

theorem sameInputs_of_forall₂ {p p' : CacheParameters Q}
    (hname : p.resourceName = p'.resourceName) (hopt : p.options = p'.options)
    (h : List.Forall₂ (SamePub lib) p.primitiveBlocs.toList p'.primitiveBlocs.toList) :
    SameInputs lib p p' where
  resourceName := hname
  options := hopt
  length_eq := h.length_eq
  pub_eq i pub pub' hi hi' := by
    obtain ⟨hlt, rfl⟩ := List.getElem?_eq_some_iff.mp hi
    obtain ⟨hlt', rfl⟩ := List.getElem?_eq_some_iff.mp hi'
    exact h.get hlt hlt'
  programType := SamePub.programType_eq h

/-- The bytes under the digest separate the inputs. -/
theorem hashedInputs_separates (hp : PickleInjective lib) :
    Separates (fun p : CacheParameters Q => hashedInputs lib p.primitiveBlocs p.options
      p.resourceName) (SameInputs lib) := by
  intro p p' b h h'
  obtain ⟨pubBytes, hpubs, hb⟩ := bind_eq_ok.mp h
  obtain ⟨pubBytes', hpubs', hb'⟩ := bind_eq_ok.mp h'
  have heq := hp hb hb'
  simp only [List.cons.injEq, PyObject.value.injEq, PyValue.str.injEq, PyValue.list.injEq,
    and_true] at heq
  obtain ⟨hbytes, hopt, hname⟩ := heq
  have hinj : Function.Injective PyValue.bytes := fun _ _ h => PyValue.bytes.inj h
  obtain rfl := List.map_injective_iff.mpr hinj hbytes
  exact sameInputs_of_forall₂ hname (optionsValue_injective hopt)
    ((encodePub_separates hp).mapM hpubs hpubs')

/-- Equal keys mean the same inputs, unless the digest collides on the two serializations. -/
theorem pubHasher_separates (lib : HashLibrary Q) (hp : PickleInjective lib)
    (pubs pubs' : Pubs Q) (options options' : Option PyDict) (resourceName resourceName' : String)
    (hsha : Set.InjOn lib.sha256 {b | hashedInputs lib pubs options resourceName = .ok b ∨
      hashedInputs lib pubs' options' resourceName' = .ok b})
    (key : String) (h : pubHasher lib pubs options resourceName = .ok key)
    (h' : pubHasher lib pubs' options' resourceName' = .ok key) :
    SameInputs lib ⟨pubs, options, resourceName⟩ ⟨pubs', options', resourceName'⟩ := by
  obtain ⟨b, hb, hk⟩ := bind_eq_ok.mp h
  obtain ⟨b', hb', hk'⟩ := bind_eq_ok.mp h'
  have hdigest : lib.sha256 b = lib.sha256 b' := Except.ok.inj (hk.trans hk'.symm)
  obtain rfl : b = b' := hsha (Or.inl hb) (Or.inr hb') hdigest
  exact hashedInputs_separates hp hb hb'

section Sample

/-- A short string as protocol 4 writes it, memoized. -/
def pickledText (s : String) : List UInt8 :=
  140 :: UInt8.ofNat s.length :: s.toList.map (fun c => UInt8.ofNat c.toNat) ++ [148]

def pickleFrame (body : List UInt8) : List UInt8 :=
  [128, 4, 149, UInt8.ofNat body.length, 0, 0, 0, 0, 0, 0, 0] ++ body

/-- The serialized bloc of an empty circuit, with an empty tuple in place of the bindings. -/
def samplePubBytes : List UInt8 :=
  pickleFrame (pickledText "OPENQASM 3.0;" ++ [41, 78, 135, 148, 46])

def sampleInputBytes : List UInt8 :=
  pickleFrame ([93, 148, 67, 32] ++ samplePubBytes ++ [148, 97, 78] ++
    pickledText "aer_simulator" ++ [135, 148, 46])

def sampleEmptyBytes : List UInt8 :=
  pickleFrame ([93, 148, 78] ++ pickledText "aer_simulator" ++ [135, 148, 46])

/-- The exporter, the serializer and the digest on the blocs of the samples. -/
def sampleHashLibrary : HashLibrary plainQiskit where
  oq3Dumps _ := .ok "OPENQASM 3.0;"
  pickleDumps
    | [.value (.str "OPENQASM 3.0;"), .bindings (), .value .none] => .ok samplePubBytes
    | [.value (.list []), .value .none, .value (.str "aer_simulator")] => .ok sampleEmptyBytes
    | [.value (.list [.bytes b]), .value .none, .value (.str "aer_simulator")] =>
      if b = samplePubBytes then .ok sampleInputBytes else .error ⟨"PicklingError", none⟩
    | _ => .error ⟨"PicklingError", none⟩
  sha256 data :=
    if data = sampleInputBytes then
      "ad0d4b4896085b8f7938aeef555ed34696613cd7b225c97d012f0d0656a4d41a"
    else if data = sampleEmptyBytes then
      "1cc2147e452b945f24a433f187a96cf43f99fcce0d64688553b6c950dcfb264f"
    else "1f431ff6f494e775bc30d0bfea962337b81f991c1fa896a5dfecb1807769224d"

/-- The three sample tuples are told apart by the lengths of their pickles. -/
def sampleUnpickle (data : List UInt8) : List (PyObject plainQiskit) :=
  if data.length = 32 then [.value (.str "OPENQASM 3.0;"), .bindings (), .value .none]
  else if data.length = 33 then [.value (.list []), .value .none, .value (.str "aer_simulator")]
  else [.value (.list [.bytes samplePubBytes]), .value .none, .value (.str "aer_simulator")]

theorem sampleHashLibrary_pickleInjective : PickleInjective sampleHashLibrary := by
  apply Separates.of_decode sampleUnpickle
  intro t data h
  simp only [sampleHashLibrary] at h
  split at h
  · cases h
    rfl
  · cases h
    rfl
  · split at h
    next hb =>
      cases h
      subst hb
      rfl
    next => cases h
  · cases h

/-- One bloc without parameters, in a circuit of the given name. -/
def sampleNamedPubs (name : String) : Pubs plainQiskit :=
  .sampler [⟨⟨name, 0, 0, ()⟩, (), none, []⟩]

theorem hashedInputs_sampleNamedPubs (name : String) :
    hashedInputs sampleHashLibrary (sampleNamedPubs name) none "aer_simulator" =
      .ok sampleInputBytes := rfl

/-- Two circuits that differ in their names only have one key. -/
theorem pubHasher_separates_renamed :
    SameInputs sampleHashLibrary ⟨sampleNamedPubs "bell", none, "aer_simulator"⟩
      ⟨sampleNamedPubs "circuit-7", none, "aer_simulator"⟩ := by
  refine pubHasher_separates sampleHashLibrary sampleHashLibrary_pickleInjective
    (sampleNamedPubs "bell") (sampleNamedPubs "circuit-7") none none "aer_simulator"
    "aer_simulator" ?_ "ad0d4b4896085b8f7938aeef555ed34696613cd7b225c97d012f0d0656a4d41a" rfl rfl
  have hone : ∀ b, b ∈ {b | hashedInputs sampleHashLibrary (sampleNamedPubs "bell") none
      "aer_simulator" = .ok b ∨ hashedInputs sampleHashLibrary (sampleNamedPubs "circuit-7") none
      "aer_simulator" = .ok b} → b = sampleInputBytes := by
    intro b hb
    rcases hb with hb | hb
    · exact (Except.ok.inj ((hashedInputs_sampleNamedPubs "bell").symm.trans hb)).symm
    · exact (Except.ok.inj ((hashedInputs_sampleNamedPubs "circuit-7").symm.trans hb)).symm
  intro b hb b' hb' _
  rw [hone b hb, hone b' hb']

end Sample

end PrefectQiskit
