import PrefectQiskit.ErrorContract
import PrefectQiskit.OptionLeaves

/-!
# The entries of the job-metrics table

The table is filled by three update steps into one flat dictionary. Job-level fields, rows of
the pubs and flattened options never meet under one key, so that the steps only append.
-/

namespace PrefectQiskit.JobAnalytics

open OptionLeaves

variable {Q : Qiskit}

def jobFields : List String :=
  ["resource", "program_type", "num_pubs", "job_id", "tags", "timestamp.created",
    "timestamp.started", "timestamp.completed", "span.queue", "span.work", "span.qpu",
    "work_efficiency"]

def pubSuffixes : List String :=
  ["].circuit.depth", "].circuit.size", "].shape", "].timestamp.started",
    "].timestamp.completed", "].duration"]

/-- The keys of the rows of the pub with index `i`. -/
def pubFields (i : ℕ) : List String := pubSuffixes.map fun suffix => "pub[" ++ toString i ++ suffix

theorem keys_jobRows {py : Builtins} {resourceName : String} {programType : ProgramType}
    {jobId : String} {tags : List String} {n : ℕ} {metrics : JobMetrics} {job : PyDict}
    (h : jobRows py resourceName programType jobId tags n metrics = .ok job) :
    job.keys = jobFields := by
  obtain ⟨queue, -, h⟩ := bind_eq_ok.mp h
  obtain ⟨work, -, h⟩ := bind_eq_ok.mp h
  obtain ⟨efficiency, -, h⟩ := bind_eq_ok.mp h
  obtain ⟨created, -, h⟩ := bind_eq_ok.mp h
  obtain ⟨started, -, h⟩ := bind_eq_ok.mp h
  obtain ⟨completed, -, h⟩ := bind_eq_ok.mp h
  rw [← Except.ok.inj h]
  rfl

theorem keys_pubRows {i : ℕ} {bloc : QuantumCircuit Q × List ℕ} {metadata rows : PyDict}
    (h : pubRows i bloc metadata = .ok rows) : rows.keys = pubFields i := by
  obtain ⟨started, -, h⟩ := bind_eq_ok.mp h
  obtain ⟨completed, -, h⟩ := bind_eq_ok.mp h
  obtain ⟨duration, -, h⟩ := bind_eq_ok.mp h
  rw [← Except.ok.inj h]
  rfl

/-- The rows that are read off the span in the metadata. -/
theorem pubRows_span {i : ℕ} {bloc : QuantumCircuit Q × List ℕ} {metadata rows : PyDict}
    (h : pubRows i bloc metadata = .ok rows) :
    ∃ span : PyDict, (metadata.get? "span").getD (.dict []) = .dict span ∧
      (s!"pub[{i}].timestamp.started", (span.get? "timestamp_start").getD .none) ∈ rows ∧
      (s!"pub[{i}].timestamp.completed", (span.get? "timestamp_completed").getD .none) ∈ rows ∧
      (s!"pub[{i}].duration", (span.get? "duration").getD .none) ∈ rows := by
  obtain ⟨started, hstarted, h⟩ := bind_eq_ok.mp h
  obtain ⟨completed, hcompleted, h⟩ := bind_eq_ok.mp h
  obtain ⟨duration, hduration, h⟩ := bind_eq_ok.mp h
  obtain ⟨span, hspan, rfl⟩ := PyValue.get_ok.mp hstarted
  rw [hspan, PyValue.get_dict] at hcompleted hduration
  rw [← Except.ok.inj h, ← Except.ok.inj hcompleted, ← Except.ok.inj hduration]
  exact ⟨span, hspan, by simp, by simp, by simp⟩

/-! ## Keys of different origin differ -/

/-- The characters between the brackets of a row key. -/
def pubIndex (key : String) : List Char := (key.toList.drop 4).takeWhile (· ≠ ']')

theorem bracket_not_mem_toDigits (i : ℕ) : ']' ∉ Nat.toDigits 10 i := by
  intro h
  have hdigit := Nat.isDigit_of_mem_toDigits (by decide) (by decide) h
  exact absurd hdigit (by decide)

theorem pubIndex_of_mem {i : ℕ} {key : String} (h : key ∈ pubFields i) :
    pubIndex key = Nat.toDigits 10 i := by
  obtain ⟨suffix, hsuffix, rfl⟩ := List.mem_map.1 h
  have hbracket : ∀ suffix ∈ pubSuffixes, suffix.toList = ']' :: suffix.toList.tail := by decide
  have hdrop : ("pub[" ++ toString i ++ suffix).toList.drop 4 =
      Nat.toDigits 10 i ++ ']' :: suffix.toList.tail := by
    rw [String.toList_append, String.toList_append, hbracket suffix hsuffix,
      Nat.toString_eq_repr, Nat.toList_repr]
    rfl
  have hdigits : ∀ c ∈ Nat.toDigits 10 i, c ≠ ']' := by
    intro c hc e
    exact bracket_not_mem_toDigits i (e ▸ hc)
  rw [pubIndex, hdrop, List.takeWhile_append_of_pos (by simpa using hdigits)]
  simp

theorem disjoint_pubFields {i j : ℕ} (h : i ≠ j) : (pubFields i).Disjoint (pubFields j) := by
  intro key hi hj
  have hdigits : Nat.toDigits 10 i = Nat.toDigits 10 j :=
    (pubIndex_of_mem hi).symm.trans (pubIndex_of_mem hj)
  have hindex := congrArg (fun digits => Nat.ofDigitChars 10 digits 0) hdigits
  exact h (by simpa using hindex)

theorem nodup_pubFields (i : ℕ) : (pubFields i).Nodup := by
  apply List.Nodup.map
  · intro suffix suffix' h
    simpa using h
  · decide

theorem nodup_pubFields_range (i n : ℕ) : ((List.range' i n).flatMap pubFields).Nodup := by
  apply List.nodup_flatMap.2
  refine ⟨fun j _ => nodup_pubFields j, ?_⟩
  have hrange : (List.range' i n).Pairwise (· ≠ ·) := List.nodup_range'
  exact hrange.imp disjoint_pubFields

/-- What the job-level fields and the rows of the pubs have in common: an option key starts
with `options`, none of them does. -/
def startsOptions (key : String) : Bool := "options".toList.isPrefixOf key.toList

theorem startsOptions_flatKey (path : List String) : startsOptions (flatKey path) := by
  cases path with
  | nil => decide
  | cons k path =>
    rw [startsOptions, flatKey, String.intercalate_cons_cons]
    simp

theorem startsOptions_jobFields : ∀ key ∈ jobFields, ¬startsOptions key := by decide

theorem startsOptions_pubFields (i : ℕ) : ∀ key ∈ pubFields i, ¬startsOptions key := by
  intro key h
  obtain ⟨suffix, -, rfl⟩ := List.mem_map.1 h
  rw [startsOptions]
  simp

theorem disjoint_jobFields_pubFields (i : ℕ) : jobFields.Disjoint (pubFields i) := by
  intro key hjob hpub
  have hstart : ∀ key ∈ jobFields, key.toList.take 4 ≠ "pub[".toList := by decide
  obtain ⟨suffix, -, rfl⟩ := List.mem_map.1 hpub
  apply hstart _ hjob
  simp

/-! ## The three update steps -/

/-- One bloc of rows for each pub and its result, in order. -/
structure RowsOf (i : ℕ) (blocs : List ((QuantumCircuit Q × List ℕ) × PyDict))
    (rows : List PyDict) : Prop where
  length : rows.length = blocs.length
  row : ∀ j bloc metadata, blocs[j]? = some (bloc, metadata) →
    ∃ r, rows[j]? = some r ∧ pubRows (i + j) bloc metadata = .ok r
  keys : rows.map Dict.keys = (List.range' i blocs.length).map pubFields

theorem RowsOf.nil (i : ℕ) : RowsOf (Q := Q) i [] [] := ⟨rfl, by simp, rfl⟩

theorem RowsOf.cons {i : ℕ} {bloc : QuantumCircuit Q × List ℕ} {metadata r : PyDict}
    {blocs : List ((QuantumCircuit Q × List ℕ) × PyDict)} {rows : List PyDict}
    (hr : pubRows i bloc metadata = .ok r) (h : RowsOf (i + 1) blocs rows) :
    RowsOf i ((bloc, metadata) :: blocs) (r :: rows) where
  length := by simp [h.length]
  row
    | 0, bloc', metadata', hj => by
      have he : bloc = bloc' ∧ metadata = metadata' := by simpa using hj
      obtain ⟨rfl, rfl⟩ := he
      exact ⟨r, rfl, hr⟩
    | j + 1, bloc', metadata', hj => by
      obtain ⟨r', hr', hrow⟩ := h.row j bloc' metadata' (by simpa using hj)
      rw [Nat.add_right_comm] at hrow
      exact ⟨r', by simpa using hr', hrow⟩
  keys := by
    rw [List.map_cons, h.keys, keys_pubRows hr, List.length_cons, List.range'_succ]
    rfl

theorem addPubRows_eq_update {i : ℕ} {blocs : List ((QuantumCircuit Q × List ℕ) × PyDict)}
    {table table' : PyDict} (h : addPubRows i blocs table = .ok table') :
    ∃ rows, RowsOf i blocs rows ∧ table' = table.update rows.flatten := by
  induction blocs generalizing i table with
  | nil => exact ⟨[], RowsOf.nil i, (Except.ok.inj h).symm⟩
  | cons bloc blocs ih =>
    obtain ⟨bloc, metadata⟩ := bloc
    obtain ⟨r, hr, h⟩ := bind_eq_ok.mp h
    obtain ⟨rows, hrows, rfl⟩ := ih h
    refine ⟨r :: rows, hrows.cons hr, ?_⟩
    rw [List.flatten_cons, Dict.update_append]

theorem RowsOf.keys_flatten {i : ℕ} {blocs : List ((QuantumCircuit Q × List ℕ) × PyDict)}
    {rows : List PyDict} (h : RowsOf i blocs rows) :
    Dict.keys rows.flatten = (List.range' i blocs.length).flatMap pubFields := by
  have hkeys : Dict.keys rows.flatten = (rows.map Dict.keys).flatten := List.map_flatten
  rw [hkeys, h.keys, List.flatMap_def]

theorem nodup_keys_fields {blocs : List ((QuantumCircuit Q × List ℕ) × PyDict)}
    {job : PyDict} {rows : List PyDict} (hjob : job.keys = jobFields)
    (hrows : RowsOf 0 blocs rows) : (Dict.keys (job ++ rows.flatten)).Nodup := by
  have hdisjoint : jobFields.Disjoint ((List.range' 0 blocs.length).flatMap pubFields) := by
    intro key hkey hmem
    obtain ⟨i, -, hi⟩ := List.mem_flatMap.1 hmem
    exact disjoint_jobFields_pubFields i hkey hi
  rw [Dict.keys_append, hjob, hrows.keys_flatten]
  exact List.Nodup.append (by decide) (nodup_pubFields_range 0 blocs.length) hdisjoint

theorem not_startsOptions_fields {blocs : List ((QuantumCircuit Q × List ℕ) × PyDict)}
    {job : PyDict} {rows : List PyDict} (hjob : job.keys = jobFields)
    (hrows : RowsOf 0 blocs rows) :
    ∀ key ∈ Dict.keys (job ++ rows.flatten), ¬startsOptions key := by
  intro key hkey
  rw [Dict.keys_append, hjob, hrows.keys_flatten] at hkey
  rcases List.mem_append.1 hkey with hkey | hkey
  · exact startsOptions_jobFields key hkey
  · obtain ⟨i, -, hi⟩ := List.mem_flatMap.1 hkey
    exact startsOptions_pubFields i key hi

theorem startsOptions_flattenOptions (py : Builtins) (options : PyValue) :
    ∀ key ∈ (flattenOptions py [("options", options)] "").keys, startsOptions key := by
  intro key hkey
  obtain ⟨leaf, -, rfl⟩ := (mem_keys_flattenOptions py options key).1 hkey
  exact startsOptions_flatKey leaf.1

section Table

variable {py : Builtins} {resourceName : String} {programType : ProgramType} {jobId : String}
  {tags : List String} {primitiveBlocs : Pubs Q} {results : Fetched Q} {metrics : JobMetrics}
  {options : Option PyDict} {table : PyDict}

/-- Iterating over what passed the length check yields one metadata for each bloc. -/
theorem length_pubMetadata {metadata : List PyDict} (hlen : results.len = .ok primitiveBlocs.length)
    (hmetadata : results.pubMetadata = .ok metadata) :
    metadata.length = primitiveBlocs.length := by
  cases results with
  | primitiveResult result =>
    have hn : result.pubResults.length = primitiveBlocs.length := Except.ok.inj hlen
    rw [← Except.ok.inj hmetadata, List.length_map, hn]
  | other value =>
    obtain ⟨items, hitems, hlength⟩ := PyValue.len_eq_ok.mp hlen
    obtain ⟨items', hitems', h⟩ := bind_eq_ok.mp hmetadata
    rw [hitems] at hitems'
    cases hitems'
    cases items with
    | nil =>
      rw [← Except.ok.inj h, ← hlength]
      rfl
    | cons element items => cases h

/-- Every update only appends. -/
theorem makeAnalytics_eq_append (h : makeAnalytics py resourceName programType jobId tags
      primitiveBlocs results metrics options = .ok table) :
    ∃ job metadata rows,
      jobRows py resourceName programType jobId tags primitiveBlocs.length metrics = .ok job ∧
      results.pubMetadata = .ok metadata ∧ metadata.length = primitiveBlocs.length ∧
      RowsOf 0 (primitiveBlocs.circuits.zip metadata) rows ∧
      table = job ++ rows.flatten ++ flattenOptions py [("options", optionsValue options)] "" ∧
      table.keys.Nodup := by
  obtain ⟨n, hn, h⟩ := bind_eq_ok.mp h
  split at h
  next => cases h
  next hlen =>
    obtain ⟨job, hjob, h⟩ := bind_eq_ok.mp h
    obtain ⟨metadata, hmetadata, h⟩ := bind_eq_ok.mp h
    obtain ⟨table', htable', h⟩ := bind_eq_ok.mp h
    obtain ⟨rows, hrows, rfl⟩ := addPubRows_eq_update htable'
    have hresults : results.len = .ok primitiveBlocs.length := by rw [hn, of_not_not hlen]
    have hfields := nodup_keys_fields (keys_jobRows hjob) hrows
    have hstart := not_startsOptions_fields (keys_jobRows hjob) hrows
    have hflat := startsOptions_flattenOptions py (optionsValue options)
    have hnodup := nodup_keys_flattenOptions py (optionsValue options)
    have hrowsAppend : job.update rows.flatten = job ++ rows.flatten := by
      rw [Dict.keys_append, List.nodup_append'] at hfields
      exact Dict.update_eq_append hfields.2.1 fun key hr hj => hfields.2.2 hj hr
    have htable : table = job ++ rows.flatten ++
        flattenOptions py [("options", optionsValue options)] "" := by
      rw [← Except.ok.inj h, hrowsAppend]
      exact Dict.update_eq_append hnodup fun key ho hf => hstart key hf (hflat key ho)
    refine ⟨job, metadata, rows, hjob, hmetadata, length_pubMetadata hresults hmetadata, hrows,
      htable, ?_⟩
    rw [htable, Dict.keys_append]
    exact hfields.append hnodup fun key hf ho => hstart key hf (hflat key ho)

/-- The rows of the pub with index `i` are found in the table. -/
theorem makeAnalytics_row {result : PrimitiveResult Q} {i : ℕ} {res : PubResult Q}
    (h : makeAnalytics py resourceName programType jobId tags primitiveBlocs
      (.primitiveResult result) metrics options = .ok table)
    (hres : result.pubResults[i]? = some res) :
    ∃ (bloc : QuantumCircuit Q × List ℕ) (rows : PyDict),
      pubRows i bloc res.metadata = .ok rows ∧
      ∀ kv ∈ rows, table.get? kv.1 = some kv.2 := by
  obtain ⟨job, metadata, rows, -, hmetadata, hlen, hrows, htable, hnodup⟩ :=
    makeAnalytics_eq_append h
  have hmeta : metadata[i]? = some res.metadata := by
    rw [← Except.ok.inj hmetadata, List.getElem?_map, hres]
    rfl
  have hi : i < primitiveBlocs.circuits.length := by
    have hlt := (List.getElem?_eq_some_iff.1 hmeta).1
    rw [hlen] at hlt
    exact hlt
  have hzip : (primitiveBlocs.circuits.zip metadata)[i]? =
      some (primitiveBlocs.circuits[i], res.metadata) := by
    rw [List.getElem?_zip_eq_some]
    exact ⟨List.getElem?_eq_getElem hi, hmeta⟩
  obtain ⟨r, hr, hrow⟩ := hrows.row i _ _ hzip
  rw [Nat.zero_add] at hrow
  refine ⟨_, r, hrow, ?_⟩
  intro kv hkv
  apply (Dict.get?_eq_some_iff hnodup).2
  have hflatten : kv ∈ rows.flatten := List.mem_flatten.2 ⟨r, List.mem_of_getElem? hr, hkv⟩
  rw [htable]
  simp [hflatten]

end Table

end PrefectQiskit.JobAnalytics
