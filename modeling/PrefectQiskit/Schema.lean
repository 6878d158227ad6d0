import Mathlib.Data.List.Basic

/-!
# Schemas of models

A schema declares the fields of a model, with unions, optional values and lists. What a leaf
accepts is a parameter, and so is how values are read. A value is refused exactly when it breaks
the schema at some path of declared fields and list positions.
-/

namespace PrefectQiskit

inductive Schema (Leaf : Type) where
  | any
  | leaf (l : Leaf)
  | optional (s : Schema Leaf)
  | either (s t : Schema Leaf)
  | listOf (s : Schema Leaf)
  /-- Each field has a name, whether it is required, and a schema. Other entries are ignored. -/
  | model (name : String) (fields : List (String × Bool × Schema Leaf))

namespace Schema

/-- How a validator reads values. -/
structure Reading (Leaf V : Type) where
  accepts : Leaf → V → Bool
  isNone : V → Bool
  items : V → Option (List V)
  entries : V → Option (String → Option V)
  /-- An object of the class of a model. -/
  isInstance : String → V → Bool

variable {Leaf V : Type} (R : Reading Leaf V)

mutual

def validate : Schema Leaf → V → Bool
  | .any, _ => true
  | .leaf l, v => R.accepts l v
  | .optional s, v => R.isNone v || validate s v
  | .either s t, v => validate s v || validate t v
  | .listOf s, v =>
    match R.items v with
    | some vs => vs.all fun w => validate s w
    | none => false
  | .model name fields, v =>
    match R.entries v with
    | some get => validateFields fields get
    | none => R.isInstance name v

def validateFields : List (String × Bool × Schema Leaf) → (String → Option V) → Bool
  | [], _ => true
  | (name, required, s) :: fields, get =>
    (match get name with
    | some v => validate s v
    | none => !required) && validateFields fields get

end

inductive Step where
  | key (name : String)
  | index (i : ℕ)

/-- The value breaks the schema at the path. A union is broken where all its members are. -/
inductive Violates : Schema Leaf → V → List Step → Prop
  | leaf {l : Leaf} {v : V} (h : R.accepts l v = false) : Violates (.leaf l) v []
  | optional {s : Schema Leaf} {v : V} {path : List Step} (hv : R.isNone v = false)
      (h : Violates s v path) : Violates (.optional s) v path
  | either {s t : Schema Leaf} {v : V} {path path' : List Step} (h : Violates s v path)
      (h' : Violates t v path') : Violates (.either s t) v []
  | notList {s : Schema Leaf} {v : V} (h : R.items v = none) : Violates (.listOf s) v []
  | item {s : Schema Leaf} {v w : V} {vs : List V} {i : ℕ} {path : List Step}
      (hv : R.items v = some vs) (hw : vs[i]? = some w) (h : Violates s w path) :
      Violates (.listOf s) v (.index i :: path)
  | notModel {name : String} {fields : List (String × Bool × Schema Leaf)} {v : V}
      (hv : R.entries v = none) (h : R.isInstance name v = false) :
      Violates (.model name fields) v []
  | missing {name field : String} {fields : List (String × Bool × Schema Leaf)}
      {s : Schema Leaf} {v : V} {get : String → Option V} (hv : R.entries v = some get)
      (hfield : (field, true, s) ∈ fields) (h : get field = none) :
      Violates (.model name fields) v [.key field]
  | field {name field : String} {fields : List (String × Bool × Schema Leaf)} {required : Bool}
      {s : Schema Leaf} {v w : V} {get : String → Option V} {path : List Step}
      (hv : R.entries v = some get) (hfield : (field, required, s) ∈ fields)
      (hw : get field = some w) (h : Violates s w path) :
      Violates (.model name fields) v (.key field :: path)

/-- A declared field that is missing or broken. -/
def FieldViolates (get : String → Option V) (path : List Step)
    (field : String × Bool × Schema Leaf) : Prop :=
  (get field.1 = none ∧ field.2.1 = true ∧ path = []) ∨
    ∃ w, get field.1 = some w ∧ Violates R field.2.2 w path

variable {R}

/-- Only declared entries are read. -/
theorem validateFields_congr {fields : List (String × Bool × Schema Leaf)}
    {get get' : String → Option V} (h : ∀ field ∈ fields, get field.1 = get' field.1) :
    validateFields R fields get = validateFields R fields get' := by
  induction fields with
  | nil => rw [validateFields, validateFields]
  | cons field fields ih =>
    obtain ⟨name, required, s⟩ := field
    have hrest := ih fun f hf => h f (List.mem_cons_of_mem _ hf)
    have hname : get name = get' name := h (name, required, s) List.mem_cons_self
    rw [validateFields, validateFields, hname, hrest]

theorem validateFields_append (fields fields' : List (String × Bool × Schema Leaf))
    (get : String → Option V) : validateFields R (fields ++ fields') get =
      (validateFields R fields get && validateFields R fields' get) := by
  induction fields with
  | nil => rw [List.nil_append, validateFields, Bool.true_and]
  | cons field fields ih =>
    obtain ⟨name, required, s⟩ := field
    rw [List.cons_append, validateFields, validateFields, ih, Bool.and_assoc]

/-- A declared entry that is accepted does not matter any more. -/
theorem validateFields_cons_of_validate {field : String × Bool × Schema Leaf}
    {fields : List (String × Bool × Schema Leaf)} {get : String → Option V} {v : V}
    (hv : get field.1 = some v) (h : validate R field.2.2 v = true) :
    validateFields R (field :: fields) get = validateFields R fields get := by
  obtain ⟨name, required, s⟩ := field
  rw [validateFields]
  simp only [hv, h, Bool.true_and]

theorem violates_model_iff {name : String} {fields : List (String × Bool × Schema Leaf)} {v : V}
    {get : String → Option V} (hv : R.entries v = some get) :
    (∃ path, Violates R (.model name fields) v path) ↔
      ∃ field ∈ fields, ∃ path, FieldViolates R get path field := by
  constructor
  · intro h
    obtain ⟨path, h⟩ := h
    cases h with
    | notModel hv' =>
      rw [hv] at hv'
      cases hv'
    | missing hv' hfield hget =>
      rw [hv] at hv'
      cases hv'
      exact ⟨_, hfield, [], .inl ⟨hget, rfl, rfl⟩⟩
    | field hv' hfield hw h =>
      rw [hv] at hv'
      cases hv'
      exact ⟨_, hfield, _, .inr ⟨_, hw, h⟩⟩
  · intro h
    obtain ⟨⟨field, required, s⟩, hfield, path, h⟩ := h
    obtain ⟨hget, rfl, -⟩ | ⟨w, hw, h⟩ := h
    · exact ⟨_, .missing hv hfield hget⟩
    · exact ⟨_, .field hv hfield hw h⟩

mutual

/-- A value is refused exactly when it breaks the schema somewhere. -/
theorem validate_eq_false_iff : (s : Schema Leaf) → (v : V) →
    (validate R s v = false ↔ ∃ path, Violates R s v path)
  | .any, v => by
    constructor
    · intro h
      rw [validate] at h
      cases h
    · intro h
      obtain ⟨path, h⟩ := h
      cases h
  | .leaf l, v => by
    constructor
    · intro h
      rw [validate] at h
      exact ⟨[], .leaf h⟩
    · intro h
      obtain ⟨path, h⟩ := h
      cases h with
      | leaf h => rwa [validate]
  | .optional s, v => by
    rw [validate, Bool.or_eq_false_iff, validate_eq_false_iff s v]
    constructor
    · intro h
      obtain ⟨hv, path, h⟩ := h
      exact ⟨path, .optional hv h⟩
    · intro h
      obtain ⟨path, h⟩ := h
      cases h with
      | optional hv h => exact ⟨hv, path, h⟩
  | .either s t, v => by
    rw [validate, Bool.or_eq_false_iff, validate_eq_false_iff s v, validate_eq_false_iff t v]
    constructor
    · intro h
      obtain ⟨⟨path, hs⟩, path', ht⟩ := h
      exact ⟨[], .either hs ht⟩
    · intro h
      obtain ⟨path, h⟩ := h
      cases h with
      | either hs ht => exact ⟨⟨_, hs⟩, _, ht⟩
  | .listOf s, v => by
    rw [validate]
    cases hv : R.items v with
    | none =>
      constructor
      · intro _
        exact ⟨[], .notList hv⟩
      · intro _
        rfl
    | some vs =>
      rw [List.all_eq_false]
      constructor
      · intro h
        obtain ⟨w, hw, h⟩ := h
        obtain ⟨i, hi⟩ := List.mem_iff_getElem?.1 hw
        obtain ⟨path, hpath⟩ := (validate_eq_false_iff s w).1 (by simpa using h)
        exact ⟨_, .item hv hi hpath⟩
      · intro h
        obtain ⟨path, h⟩ := h
        cases h with
        | notList hnone =>
          rw [hv] at hnone
          cases hnone
        | item hitems hw h =>
          rw [hv] at hitems
          cases hitems
          have hfalse := (validate_eq_false_iff s _).2 ⟨_, h⟩
          exact ⟨_, List.mem_of_getElem? hw, by simp [hfalse]⟩
  | .model name fields, v => by
    rw [validate]
    cases hv : R.entries v with
    | none =>
      constructor
      · intro h
        exact ⟨[], .notModel hv h⟩
      · intro h
        obtain ⟨path, h⟩ := h
        cases h with
        | notModel _ h => exact h
        | missing hv' | field hv' =>
          rw [hv] at hv'
          cases hv'
    | some get => rw [violates_model_iff hv, validateFields_eq_false_iff fields get]

theorem validateFields_eq_false_iff : (fields : List (String × Bool × Schema Leaf)) →
    (get : String → Option V) →
    (validateFields R fields get = false ↔
      ∃ field ∈ fields, ∃ path, FieldViolates R get path field)
  | [], get => by simp [validateFields]
  | (name, required, s) :: fields, get => by
    rw [validateFields, Bool.and_eq_false_iff, validateFields_eq_false_iff fields get]
    simp only [List.mem_cons, exists_eq_or_imp]
    apply or_congr_left
    cases hget : get name with
    | none =>
      constructor
      · intro h
        exact ⟨[], .inl ⟨hget, by simpa using h, rfl⟩⟩
      · intro h
        obtain ⟨path, ⟨-, h, -⟩ | ⟨w, hw, -⟩⟩ := h
        · simpa using h
        · rw [hget] at hw
          cases hw
    | some w =>
      rw [validate_eq_false_iff s w]
      constructor
      · intro h
        obtain ⟨path, h⟩ := h
        exact ⟨path, .inr ⟨w, hget, h⟩⟩
      · intro h
        obtain ⟨path, ⟨hnone, -⟩ | ⟨w', hw, h⟩⟩ := h
        · rw [hget] at hnone
          cases hnone
        · rw [hget] at hw
          cases hw
          exact ⟨path, h⟩

end

end Schema

end PrefectQiskit
