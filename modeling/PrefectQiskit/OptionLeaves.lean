import PrefectQiskit.JobAnalytics

/-!
# Leaves of an options tree

What the job-metrics table records of nested options. `leaves` lists the settings of a tree
with their key paths, and the flattened dictionary is the result of assigning them one after
another under their dot-joined paths.
-/

namespace PrefectQiskit.OptionLeaves

open JobAnalytics

mutual

/-- The non-dict values of a tree in document order, each with the keys that lead to it. -/
def leaves : PyValue → List (List String × PyValue)
  | .dict d => itemLeaves d
  | v => [([], v)]

def itemLeaves : List (String × PyValue) → List (List String × PyValue)
  | [] => []
  | (k, v) :: rest => (leaves v).map (fun leaf => (k :: leaf.1, leaf.2)) ++ itemLeaves rest

end

/-- `p` holds of the keys of every dictionary of the tree. -/
inductive EveryLevel (p : List String → Prop) : PyValue → Prop where
  | leaf {v} (h : ∀ d, v ≠ .dict d) : EveryLevel p v
  | dict {d : PyDict} (keys : p d.keys) (items : ∀ kv ∈ d, EveryLevel p kv.2) :
      EveryLevel p (.dict d)

/-- No dictionary has a key twice. -/
abbrev DistinctKeys : PyValue → Prop := EveryLevel List.Nodup

abbrev DotFree : PyValue → Prop := EveryLevel fun keys => ∀ k ∈ keys, '.' ∉ k.toList

/-- The path from the root `options` to a leaf. -/
def flatKey (path : List String) : String := String.intercalate "." ("options" :: path)

/-- One assignment for each leaf. -/
def leafEntries (py : Builtins) (parentKey : String) (ls : List (List String × PyValue)) : PyDict :=
  ls.map fun leaf => (String.intercalate "." (parentKey :: leaf.1), .str (py.repr leaf.2))

theorem leaves_of_not_dict {v : PyValue} (h : ∀ d, v ≠ .dict d) : leaves v = [([], v)] := by
  cases v with
  | dict d => exact absurd rfl (h d)
  | _ => rfl

theorem leafEntries_append (py : Builtins) (parentKey : String)
    (ls ls' : List (List String × PyValue)) :
    leafEntries py parentKey (ls ++ ls') =
      leafEntries py parentKey ls ++ leafEntries py parentKey ls' := List.map_append

/-- Descending into a dictionary moves its key from the paths to the prefix. -/
theorem leafEntries_map_cons (py : Builtins) (parentKey k : String)
    (ls : List (List String × PyValue)) :
    leafEntries py parentKey (ls.map fun leaf => (k :: leaf.1, leaf.2)) =
      leafEntries py (parentKey ++ "." ++ k) ls := by
  rw [leafEntries, leafEntries, List.map_map]
  rfl

theorem prefix_ne_empty {parentKey : String} (h : parentKey ≠ "") (k : String) :
    parentKey ++ "." ++ k ≠ "" := by
  simp [h]

theorem flattenItems_dict {parentKey : String} (h : parentKey ≠ "") (py : Builtins)
    (flattened : PyDict) (k : String) (d : PyDict) (rest : PyDict) :
    flattenItems py parentKey flattened ((k, .dict d) :: rest) =
      flattenItems py parentKey
        (flattened.update (flattenItems py (parentKey ++ "." ++ k) [] d)) rest := by
  have hkey : parentKey.isEmpty = false := by simpa using h
  rw [flattenItems, hkey]
  rfl

theorem flattenItems_leaf {parentKey : String} (h : parentKey ≠ "") (py : Builtins)
    (flattened : PyDict) (k : String) {v : PyValue} (hv : ∀ d, v ≠ .dict d) (rest : PyDict) :
    flattenItems py parentKey flattened ((k, v) :: rest) =
      flattenItems py parentKey
        (flattened.set (parentKey ++ "." ++ k) (.str (py.repr v))) rest := by
  have hkey : parentKey.isEmpty = false := by simpa using h
  cases v with
  | dict d => exact absurd rfl (hv d)
  | _ =>
    rw [flattenItems, hkey]
    · rfl
    · simp

/-- The recursion with its accumulated prefix assigns the leaves in document order. -/
theorem flattenItems_eq_update (py : Builtins) (parentKey : String) (flattened : PyDict)
    (items : List (String × PyValue)) (h : parentKey ≠ "") :
    flattenItems py parentKey flattened items =
      flattened.update (leafEntries py parentKey (itemLeaves items)) := by
  induction parentKey, flattened, items using flattenItems.induct py with
  | case1 parentKey flattened =>
    rw [flattenItems]
    rfl
  | case2 parentKey flattened k rest newKey d ihd _ ihrest =>
    have hkey : newKey = parentKey ++ "." ++ k := dif_neg (by simpa using h)
    have hd := ihd (hkey ▸ prefix_ne_empty h k)
    rw [hkey] at hd
    calc flattenItems py parentKey flattened ((k, .dict d) :: rest)
        = (flattened.update (flattenItems py (parentKey ++ "." ++ k) [] d)).update
            (leafEntries py parentKey (itemLeaves rest)) := by
          rw [flattenItems_dict h, ← hkey]
          exact ihrest h
      _ = (flattened.update (leafEntries py (parentKey ++ "." ++ k) (itemLeaves d))).update
            (leafEntries py parentKey (itemLeaves rest)) := by
          rw [hd, Dict.update_update_nil]
      _ = flattened.update (leafEntries py parentKey (itemLeaves ((k, .dict d) :: rest))) := by
          rw [itemLeaves, leafEntries_append, leafEntries_map_cons, Dict.update_append, leaves]
  | case3 parentKey flattened k rest newKey v hv ihrest =>
    have hkey : newKey = parentKey ++ "." ++ k := dif_neg (by simpa using h)
    have hleaf : ∀ d, v ≠ .dict d := fun d e => hv d e
    calc flattenItems py parentKey flattened ((k, v) :: rest)
        = (flattened.set (parentKey ++ "." ++ k) (.str (py.repr v))).update
            (leafEntries py parentKey (itemLeaves rest)) := by
          rw [flattenItems_leaf h py flattened k hleaf, ← hkey]
          exact ihrest h
      _ = flattened.update (leafEntries py parentKey (itemLeaves ((k, v) :: rest))) := by
          rw [itemLeaves, leaves_of_not_dict hleaf, leafEntries_append, leafEntries_map_cons,
            Dict.update_append]
          rfl

theorem flattenOptions_eq_update (py : Builtins) (options : PyValue) :
    flattenOptions py [("options", options)] "" =
      Dict.update [] (leafEntries py "options" (leaves options)) := by
  rw [flattenOptions]
  cases options with
  | dict d =>
    have hd := flattenItems_eq_update py "options" [] d (by simp)
    calc flattenItems py "" [] [("options", .dict d)]
        = Dict.update [] (flattenItems py "options" [] d) := by
          rw [flattenItems, flattenItems]
          rfl
      _ = Dict.update [] (leafEntries py "options" (leaves (.dict d))) := by
          rw [hd, Dict.update_update_nil, leaves]
  | _ =>
    rw [flattenItems, flattenItems]
    · rfl
    · simp

/-! The last leaf with a key decides what is recorded under it. -/

theorem keys_leafEntries (py : Builtins) (ls : List (List String × PyValue)) :
    (leafEntries py "options" ls).keys = ls.map fun leaf => flatKey leaf.1 := by
  rw [Dict.keys, leafEntries, List.map_map]
  rfl

theorem mem_keys_flattenOptions (py : Builtins) (options : PyValue) (key : String) :
    key ∈ (flattenOptions py [("options", options)] "").keys ↔
      ∃ leaf ∈ leaves options, flatKey leaf.1 = key := by
  rw [flattenOptions_eq_update, Dict.mem_keys_update, keys_leafEntries]
  simp

theorem get?_leafEntries (py : Builtins) (ls : List (List String × PyValue)) (key : String) :
    (leafEntries py "options" ls).get? key =
      (ls.find? fun leaf => flatKey leaf.1 = key).map fun leaf => .str (py.repr leaf.2) := by
  induction ls with
  | nil => rfl
  | cons leaf ls ih =>
    have hcons : leafEntries py "options" (leaf :: ls) =
        (flatKey leaf.1, .str (py.repr leaf.2)) :: leafEntries py "options" ls := rfl
    by_cases h : flatKey leaf.1 = key <;> simp [hcons, h, ih]

theorem get?_flattenOptions (py : Builtins) (options : PyValue) (key : String) :
    (flattenOptions py [("options", options)] "").get? key =
      ((leaves options).reverse.find? fun leaf => flatKey leaf.1 = key).map
        fun leaf => .str (py.repr leaf.2) := by
  have hrev : (leafEntries py "options" (leaves options)).reverse =
      leafEntries py "options" (leaves options).reverse := by
    rw [leafEntries, leafEntries, List.map_reverse]
  rw [flattenOptions_eq_update, Dict.get?_update, hrev, get?_leafEntries]
  simp

-- Two leaves with one flat key: the later one in document order is what is recorded.
example : (flattenOptions .ascii
    [("options", .dict [("a.b", .int 1), ("a", .dict [("b", .int 2)])])] "").keys =
      ["options.a.b"] := by
  rw [flattenOptions_eq_update]
  decide +kernel

theorem nodup_keys_flattenOptions (py : Builtins) (options : PyValue) :
    (flattenOptions py [("options", options)] "").keys.Nodup := by
  rw [flattenOptions_eq_update]
  exact Dict.nodup_keys_update (by simp) _

/-! Without dots in the keys no two leaves share a flat key. -/

theorem flatKey_injective {path path' : List String} (h : ∀ k ∈ path, '.' ∉ k.toList)
    (h' : ∀ k ∈ path', '.' ∉ k.toList) (heq : flatKey path = flatKey path') : path = path' := by
  have hsplit : ∀ p : List String, (∀ k ∈ p, '.' ∉ k.toList) →
      (flatKey p).toList.splitOn '.' = ("options" :: p).map String.toList := by
    intro p hp
    rw [flatKey, String.toList_intercalate]
    apply List.splitOn_intercalate
    · intro l hl
      have hmem : l = "options".toList ∨ ∃ k ∈ p, k.toList = l := by simpa using hl
      rcases hmem with rfl | ⟨k, hk, rfl⟩
      · decide
      · exact hp k hk
    · simp
  have hmap : ("options" :: path).map String.toList = ("options" :: path').map String.toList := by
    rw [← hsplit path h, ← hsplit path' h', heq]
  have hinj : Function.Injective String.toList := fun _ _ => String.ext
  simpa using List.map_injective_iff.2 hinj hmap

theorem mem_itemLeaves {d : PyDict} {leaf : List String × PyValue} :
    leaf ∈ itemLeaves d ↔ ∃ kv ∈ d, ∃ l ∈ leaves kv.2, leaf = (kv.1 :: l.1, l.2) := by
  induction d with
  | nil => simp [itemLeaves]
  | cons kv d ih =>
    have hhead : leaf ∈ (leaves kv.2).map (fun l => (kv.1 :: l.1, l.2)) ↔
        ∃ l ∈ leaves kv.2, leaf = (kv.1 :: l.1, l.2) := by simp [eq_comm]
    rw [itemLeaves, List.mem_append, hhead, ih]
    simp

theorem dotFree_path {v : PyValue} (hv : DotFree v) :
    ∀ leaf ∈ leaves v, ∀ k ∈ leaf.1, '.' ∉ k.toList := by
  induction hv with
  | leaf h => simp [leaves_of_not_dict h]
  | dict hkeys hitems ih =>
    intro leaf hleaf k hk
    rw [leaves] at hleaf
    obtain ⟨kv, hkv, l, hl, rfl⟩ := mem_itemLeaves.1 hleaf
    have hk' : k = kv.1 ∨ k ∈ l.1 := by simpa using hk
    rcases hk' with rfl | hk'
    · exact hkeys kv.1 (List.mem_map_of_mem hkv)
    · exact ih kv hkv l hl k hk'

theorem nodup_itemLeaves {d : PyDict} (hkeys : d.keys.Nodup)
    (hitems : ∀ kv ∈ d, ((leaves kv.2).map Prod.fst).Nodup) :
    ((itemLeaves d).map Prod.fst).Nodup := by
  induction d with
  | nil => simp [itemLeaves]
  | cons kv d ih =>
    have hcons : kv.1 ∉ Dict.keys d ∧ (Dict.keys d).Nodup := by simpa using hkeys
    have hhead : ((leaves kv.2).map fun l => kv.1 :: l.1).Nodup := by
      have hmap : ((leaves kv.2).map fun l => kv.1 :: l.1) =
          ((leaves kv.2).map Prod.fst).map (List.cons kv.1) := by simp
      rw [hmap]
      exact (hitems kv (by simp)).map List.cons_injective
    have htail := ih hcons.2 fun kv' hkv' => hitems kv' (by simp [hkv'])
    have hdisjoint : List.Disjoint ((leaves kv.2).map fun l => kv.1 :: l.1)
        ((itemLeaves d).map Prod.fst) := by
      intro path hpath hpath'
      obtain ⟨l, -, rfl⟩ := List.mem_map.1 hpath
      obtain ⟨leaf, hleaf, heq⟩ := List.mem_map.1 hpath'
      obtain ⟨kv', hkv', l', -, rfl⟩ := mem_itemLeaves.1 hleaf
      have hkey : kv'.1 = kv.1 := by simpa using congrArg List.head? heq
      exact hcons.1 (hkey ▸ List.mem_map_of_mem hkv')
    rw [itemLeaves, List.map_append, List.map_map]
    exact hhead.append htail hdisjoint

theorem nodup_paths {v : PyValue} (hv : DistinctKeys v) : ((leaves v).map Prod.fst).Nodup := by
  induction hv with
  | leaf h => simp [leaves_of_not_dict h]
  | dict hkeys hitems ih =>
    rw [leaves]
    exact nodup_itemLeaves hkeys ih

theorem nodup_flatKeys {v : PyValue} (hkeys : DistinctKeys v) (hdots : DotFree v) :
    ((leaves v).map fun leaf => flatKey leaf.1).Nodup := by
  have hpaths : (leaves v).Pairwise fun l l' => l.1 ≠ l'.1 :=
    List.pairwise_map.1 (nodup_paths hkeys)
  apply List.pairwise_map.2
  apply hpaths.imp_of_mem
  intro l l' hl hl' hne heq
  exact hne (flatKey_injective (dotFree_path hdots l hl) (dotFree_path hdots l' hl') heq)

/-- Flattening keeps every leaf of the tree: the keys are the dot-joined paths of the leaves,
a key holds the repr of the last leaf whose path joins to it, and without dots in the keys
entries and leaves correspond one to one in document order. -/
theorem flattenOptions_keeps_leaves (py : Builtins) (options : PyValue) :
    (flattenOptions py [("options", options)] "").keys.Nodup ∧
    (∀ key, key ∈ (flattenOptions py [("options", options)] "").keys ↔
      ∃ leaf ∈ leaves options, flatKey leaf.1 = key) ∧
    (∀ key, (flattenOptions py [("options", options)] "").get? key =
      ((leaves options).reverse.find? fun leaf => flatKey leaf.1 = key).map
        fun leaf => .str (py.repr leaf.2)) ∧
    (DistinctKeys options → DotFree options →
      flattenOptions py [("options", options)] "" =
        (leaves options).map (fun leaf => (flatKey leaf.1, .str (py.repr leaf.2))) ∧
      ((leaves options).map fun leaf => flatKey leaf.1).Nodup) := by
  refine ⟨nodup_keys_flattenOptions py options, mem_keys_flattenOptions py options,
    get?_flattenOptions py options, ?_⟩
  intro hkeys hdots
  have hnodup := nodup_flatKeys hkeys hdots
  refine ⟨?_, hnodup⟩
  have hentries : (leafEntries py "options" (leaves options)).keys.Nodup := by
    rwa [keys_leafEntries]
  rw [flattenOptions_eq_update, Dict.update_eq_append hentries (by simp)]
  rfl

/-- Options with an empty key on both levels and an empty dictionary among the leaves. -/
def nestedOptions : PyValue :=
  .dict [("", .int 1), ("execution", .dict [("", .dict []), ("shots", .int 2)])]

theorem nestedOptions_distinctKeys : DistinctKeys nestedOptions := by
  apply EveryLevel.dict (by simp)
  simp only [List.forall_mem_cons]
  refine ⟨.leaf (by simp), .dict (by simp) ?_, by simp⟩
  simp only [List.forall_mem_cons]
  exact ⟨.dict (by simp) (by simp), .leaf (by simp), by simp⟩

theorem nestedOptions_dotFree : DotFree nestedOptions := by
  apply EveryLevel.dict (by simp)
  simp only [List.forall_mem_cons]
  refine ⟨.leaf (by simp), .dict (by simp) ?_, by simp⟩
  simp only [List.forall_mem_cons]
  exact ⟨.dict (by simp) (by simp), .leaf (by simp), by simp⟩

theorem flattenOptions_keeps_leaves_nested :
    flattenOptions .ascii [("options", nestedOptions)] "" =
      [("options.", .str "1"), ("options.execution.shots", .str "2")] :=
  ((flattenOptions_keeps_leaves .ascii nestedOptions).2.2.2
    nestedOptions_distinctKeys nestedOptions_dotFree).1.trans (by
      simp [leaves, itemLeaves, nestedOptions, flatKey, Builtins.ascii]
      decide)

end PrefectQiskit.OptionLeaves
