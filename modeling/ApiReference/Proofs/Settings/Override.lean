import ApiReference.Proofs.Settings.Load
import ApiReference.Proofs.Settings.VariableValues
import ApiReference.Proofs.Settings.Written

/-! Every leaf has the value that the environment gives it, or else the file, or else its default. -/

namespace ApiReference

lemma Leaf.eq_of_prefix {a b : Leaf} (h : a.path <+: b.path) : a = b := by
  obtain ⟨rest, h⟩ := h
  cases a <;> cases b <;> simp_all [path]

lemma Leaf.path_injective {a b : Leaf} (h : a.path = b.path) : a = b := eq_of_prefix (h ▸ List.prefix_rfl)

lemma Leaf.path_ne_nil (leaf : Leaf) : leaf.path ≠ [] := by
  cases leaf <;> exact List.cons_ne_nil _ _

def Leaf.Nameable : Leaf → Prop
  | level target => Environment.IsWord target.toList
  | _ => True

def Leaf.Fits (entry : Toml.Entry) : Leaf → Prop
  | version => ∃ n < 2 ^ 32, entry = .natural n
  | primary => ∃ items, entry = .texts items
  | _ => ∃ s, entry = .text s

namespace Settings

open Layered Environment

lemma spellable_path {leaf : Leaf} (h : leaf.Nameable) : Spellable (leaf.path.map String.toList) := by
  cases leaf with
  | level target => exact ⟨by decide +kernel, by decide +kernel, by decide +kernel, by decide +kernel, h⟩
  | _ => decide +kernel

/-! ### One leaf -/

section

variable {leaf : Leaf} {value : Layered} (h : (leaf.read value).isSome) (layer : Layer)
include h

lemma at?_single_leaf (other : Leaf) :
    Layered.at? other.path (single layer value leaf.path) = if leaf = other then some value else none := by
  rw [at?_single (not_table_of_read h) layer _ other.path_ne_nil fun hp => congrArg _ (Leaf.eq_of_prefix hp)]
  by_cases he : leaf = other
  · rw [if_pos he, if_pos (congrArg _ he)]
  · rw [if_neg he, if_neg fun hp => he (Leaf.path_injective hp)]

lemma legible_single : Legible (single layer value leaf.path) where
  ways other := open_single (not_table_of_read h) layer _ fun hp => congrArg _ (Leaf.eq_of_prefix hp)
  leaves other v hv := by
    rw [at?_single_leaf h] at hv
    split at hv
    · next he =>
      obtain rfl := Option.some.inj hv
      exact he ▸ h
    · cases hv
  levels := by
    have ht := not_table_of_read h
    cases leaf with
    | level target =>
      rw [Leaf.path, tableAt_single ht, if_pos rfl, tableAt_single ht, if_pos rfl]
      rw [Leaf.read, Option.isSome_map] at h
      · exact List.forall_mem_singleton.mpr h
      all_goals simp
    | logDefault =>
      rw [Leaf.path, tableAt_single ht, if_pos rfl, tableAt_single ht, if_neg (by decide)]
      exact List.forall_mem_nil _
    | _ =>
      rw [Leaf.path, tableAt_single ht, if_neg (by decide)]
      exact List.forall_mem_nil _

end

structure Stackable (entries : Table) : Prop where
  legible : Legible entries
  tidy (leaf : Leaf) : Tidy leaf.path entries

lemma stackable_nil : Stackable [] where
  legible := {
    ways := fun _ => open_nil _
    leaves := by
      intro leaf v hv
      rw [at?_nil] at hv
      cases hv
    levels := List.forall_mem_nil _ }
  tidy _ := tidy_nil _

lemma stackable_single {leaf : Leaf} {value : Layered} (h : (leaf.read value).isSome) (layer : Layer) :
    Stackable (single layer value leaf.path) where
  legible := legible_single h layer
  tidy _ := tidy_single (not_table_of_read h) layer _ _

lemma Stackable.mergeEntries {before later : Table} (hb : Stackable before) (hl : Stackable later) :
    Stackable (mergeEntries before later) where
  legible := hb.legible.mergeEntries hl.legible hl.tidy
  tidy leaf := (hb.tidy leaf).mergeEntries (hl.tidy leaf) (hl.legible.ways leaf)

lemma Stackable.at? {later : Table} (hl : Stackable later) (before : Table) (leaf : Leaf) :
    Layered.at? leaf.path (Layered.mergeEntries before later) =
      (Layered.at? leaf.path later).or (Layered.at? leaf.path before) :=
  at?_mergeEntries (hl.tidy leaf) (hl.legible.ways leaf) fun v hv => not_table_of_read (hl.legible.leaves leaf v hv)

/-! ### The environment -/

def Assigns (v : String × String) : Prop :=
  ∀ path, pathOf v.1 = some path → ∃ leaf : Leaf, path = leaf.path ∧ (leaf.read (variableValue v)).isSome

lemma read_spelled {leaf : Leaf} {text : String} {entry : Toml.Entry} (hs : Spells text entry) (hf : leaf.Fits entry)
    (name : String) : leaf.read (variableValue (name, text)) = some entry := by
  cases leaf with
  | version =>
    obtain ⟨n, hn, rfl⟩ := hf
    have hvalue : natural32? (ofValue .environment (.scalar (.unsigned n))) = some n := by
      change word32? n = _
      rw [word32?, if_pos (by omega), Int.toNat_natCast]
    rw [Leaf.read, variableValue, hs.valueOf_natural, hvalue, Option.map_some]
  | primary =>
    obtain ⟨items, rfl⟩ := hf
    rw [Leaf.read, variableValue, hs.valueOf_texts]
    exact congrArg _ (texts?_ofValue .environment items)
  | _ =>
    obtain ⟨s, rfl⟩ := hf
    rw [Leaf.read, variableValue, hs.valueOf_text]
    · rfl
    all_goals simp

lemma assigns_spelled (leaf : Leaf) {name text : String} {entry : Toml.Entry} (hp : pathOf name = some leaf.path)
    (hs : Spells text entry) (hf : leaf.Fits entry) : Assigns (name, text) := by
  intro path hpath
  refine ⟨leaf, Option.some.inj (hpath.symm.trans hp), ?_⟩
  rw [read_spelled hs hf, Option.isSome_some]

section

variable {v : String × String} (hv : Assigns v)
include hv

lemma Assigns.stackable {entries : Table} (h : Stackable entries) : Stackable (addVariable entries v) := by
  rw [addVariable]
  cases hp : pathOf v.1 with
  | none => exact h.mergeEntries stackable_nil
  | some path =>
    obtain ⟨leaf, rfl, hr⟩ := hv path hp
    exact h.mergeEntries (stackable_single hr _)

lemma Assigns.at? (entries : Table) (leaf : Leaf) :
    Layered.at? leaf.path (addVariable entries v) =
      if pathOf v.1 = some leaf.path then some (variableValue v) else Layered.at? leaf.path entries := by
  rw [addVariable]
  cases hp : pathOf v.1 with
  | none => rfl
  | some path =>
    obtain ⟨set, rfl, hr⟩ := hv path hp
    rw [Option.map_some, Option.getD_some, (stackable_single hr _).at?, at?_single_leaf hr]
    by_cases he : set = leaf
    · rw [if_pos he, if_pos (congrArg _ (congrArg _ he)), Option.some_or]
    · rw [if_neg he, if_neg fun h => he (Leaf.path_injective (Option.some.inj h)), Option.none_or]

end

section

variable {vs : List (String × String)} (ha : ∀ v ∈ vs, Assigns v)
include ha

lemma stackable_foldl {entries : Table} (h : Stackable entries) : Stackable (vs.foldl addVariable entries) := by
  induction vs generalizing entries with
  | nil => exact h
  | cons v vs ih =>
    obtain ⟨hv, hrest⟩ := List.forall_mem_cons.mp ha
    rw [List.foldl_cons]
    exact ih hrest (hv.stackable h)

lemma at?_foldl (entries : Table) (leaf : Leaf) :
    (∃ v ∈ vs, pathOf v.1 = some leaf.path ∧
      Layered.at? leaf.path (vs.foldl addVariable entries) = some (variableValue v)) ∨
    (∀ v ∈ vs, pathOf v.1 ≠ some leaf.path) ∧
      Layered.at? leaf.path (vs.foldl addVariable entries) = Layered.at? leaf.path entries := by
  induction vs using List.reverseRecOn with
  | nil => exact Or.inr ⟨List.forall_mem_nil _, rfl⟩
  | append_singleton vs w ih =>
    rw [List.forall_mem_append, List.forall_mem_singleton] at ha
    rw [List.foldl_append, List.foldl_cons, List.foldl_nil, ha.2.at?]
    by_cases hw : pathOf w.1 = some leaf.path
    · exact Or.inl ⟨w, List.mem_append_right _ List.mem_cons_self, hw, if_pos hw⟩
    · rw [if_neg hw]
      rcases ih ha.1 with ⟨v, hv, hp, he⟩ | ⟨hn, he⟩
      · exact Or.inl ⟨v, List.mem_append_left _ hv, hp, he⟩
      · exact Or.inr ⟨List.forall_mem_append.mpr ⟨hn, List.forall_mem_singleton.mpr hw⟩, he⟩

end

/-- Every leaf has the value that a variable gives it, or else the one in the file, or else its default. A variable
sets the leaf whose path its name spells, in letters of either case, to the entry that its text spells. -/
theorem loadFrom_layers {tree : FileTree} {path : String} {entries : Table} (hf : FileLayer tree path entries)
    (hl : Legible entries) {environment : List (String × String)} (ha : ∀ v ∈ environment, Assigns v) :
    (∃ s, (loadFrom treeHost environment path).run tree = (.ok s, tree) ∧ ∀ leaf : Leaf,
      (∃ v ∈ environment, pathOf v.1 = some leaf.path ∧ s.value leaf = leaf.read (variableValue v)) ∨
      (∀ v ∈ environment, pathOf v.1 ≠ some leaf.path) ∧
        s.value leaf = ((Layered.at? leaf.path entries).bind leaf.read).or (({} : Settings).value leaf)) ∧
    (∀ (leaf : Leaf) (name : String), leaf.Nameable →
      Text.lowercaseAscii name = "symdoc_" ++ String.intercalate "__" leaf.path → pathOf name = some leaf.path) ∧
    ∀ (leaf : Leaf) (name text : String) (entry : Toml.Entry), pathOf name = some leaf.path → Spells text entry →
      leaf.Fits entry → Assigns (name, text) ∧ leaf.read (variableValue (name, text)) = some entry := by
  refine ⟨?_, fun leaf name hn hs => pathOf_spelled (spellable_path hn) hs, fun leaf name text entry hp hs hf =>
    ⟨assigns_spelled leaf hp hs hf, read_spelled hs hf name⟩⟩
  have henv : Stackable (environment.foldl addVariable []) := stackable_foldl ha stackable_nil
  have hmerged := hl.mergeEntries henv.legible henv.tidy
  refine ⟨reading (mergeEntries entries (environment.foldl addVariable [])), ?_, ?_⟩
  · rw [hf.run_loadFrom, environmentEntries_eq, hmerged.decoded]
  · intro leaf
    rw [hmerged.value, henv.at?]
    rcases at?_foldl ha [] leaf with ⟨v, hv, hp, he⟩ | ⟨hunset, he⟩
    · obtain ⟨set, hset, hread⟩ := ha v hv leaf.path hp
      obtain rfl := Leaf.path_injective hset
      obtain ⟨entry, hentry⟩ := Option.isSome_iff_exists.mp hread
      refine Or.inl ⟨v, hv, hp, ?_⟩
      rw [he, Option.some_or, Option.bind_some, hentry, Option.some_or]
    · refine Or.inr ⟨hunset, ?_⟩
      rw [he, at?_nil, Option.none_or]

def objcSettings : Settings := { render := { fenceLanguage := "objc" }, logging := { default := "info" } }

def objcTree : FileTree where
  entries := [(["work"], .directory), (["work", "settings.toml"], .file (.text objcSettings.text))]
  workingDirectory := ["work"]

def tracedEnvironment : List (String × String) :=
  [("PATH", "/bin"), ("SYMDOC_VERSION", "7"), ("symdoc_inputs__primary", "[\"a.json\",\"b\"]"),
    ("SYMDOC_LOGGING__DEFAULT", "trace")]

lemma pathOf_search : pathOf "PATH" = none := by decide +kernel

lemma pathOf_version : pathOf "SYMDOC_VERSION" = some ["version"] := by decide +kernel

lemma pathOf_primary : pathOf "symdoc_inputs__primary" = some ["inputs", "primary"] := by decide +kernel

lemma pathOf_traced : pathOf "SYMDOC_LOGGING__DEFAULT" = some ["logging", "default"] := by decide +kernel

lemma spells_seven : Spells "7" (.natural 7) := Spells.natural (by decide : 7 < 2 ^ 64)

lemma spells_files : Spells "[\"a.json\",\"b\"]" (.texts ["a.json", "b"]) := by
  have htext : "[\"a.json\",\"b\"]" = String.ofList ('[' :: (writeItems ["a.json", "b"] ++ [']'])) := by decide +kernel
  rw [htext]
  exact Spells.items _

lemma spells_trace : Spells "trace" (.text "trace") := by
  have hchars : "trace".toList = ['t', 'r', 'a', 'c', 'e'] := rfl
  refine Spells.word ⟨?_, ?_, ?_, ?_, ?_⟩ ?_
  all_goals
    rw [hchars]
    decide

lemma tracedEnvironment_assigns : ∀ v ∈ tracedEnvironment, Assigns v := by
  rw [tracedEnvironment, List.forall_mem_cons, List.forall_mem_cons, List.forall_mem_cons, List.forall_mem_singleton]
  refine ⟨?_, ?_, ?_, ?_⟩
  · intro path hp
    rw [pathOf_search] at hp
    cases hp
  · exact assigns_spelled .version pathOf_version spells_seven ⟨7, by decide, rfl⟩
  · exact assigns_spelled .primary pathOf_primary spells_files ⟨_, rfl⟩
  · exact assigns_spelled .logDefault pathOf_traced spells_trace ⟨_, rfl⟩

theorem loadFrom_layers_traced :
    ∃ s, (loadFrom treeHost tracedEnvironment "settings.toml").run objcTree = (.ok s, objcTree) ∧
      s.value .version = some (.natural 7) ∧ s.value .primary = some (.texts ["a.json", "b"]) ∧
      s.value .logDefault = some (.text "trace") ∧ s.value .fenceLanguage = some (.text "objc") ∧
      s.value .title = none := by
  have hsound : objcSettings.Sound := ⟨by decide, List.Pairwise.nil⟩
  have hlayer : FileLayer objcTree "settings.toml"
      (ofTable (.file (Path.shownFrom objcTree.here "/work/settings.toml")) objcSettings.tables) :=
    FileLayer.found rfl rfl hsound.ofText
  obtain ⟨⟨s, hs, hv⟩, -, hread⟩ := loadFrom_layers hlayer (hsound.legible _) tracedEnvironment_assigns
  have hseven := (hread .version _ _ _ pathOf_version spells_seven ⟨7, by decide, rfl⟩).2
  have hfiles := (hread .primary _ _ _ pathOf_primary spells_files ⟨_, rfl⟩).2
  have htrace := (hread .logDefault _ _ _ pathOf_traced spells_trace ⟨_, rfl⟩).2
  have hobjc : Leaf.read (ofValue (.file (Path.shownFrom objcTree.here "/work/settings.toml"))
      (Toml.Entry.text "objc").value) .fenceLanguage = some (.text "objc") := rfl
  have hset (leaf : Leaf) := hv leaf
  simp only [tracedEnvironment, List.mem_cons, List.not_mem_nil, or_false, exists_eq_or_imp, exists_eq_left,
    forall_eq_or_imp, forall_eq, pathOf_search, pathOf_version, pathOf_primary, pathOf_traced] at hset
  refine ⟨s, hs, ?_, ?_, ?_, ?_, ?_⟩
  · simpa [Leaf.path, hseven] using hset .version
  · simpa [Leaf.path, hfiles] using hset .primary
  · simpa [Leaf.path, htrace] using hset .logDefault
  · have hfence := hset .fenceLanguage
    rw [hsound.at?] at hfence
    simpa [Leaf.path, objcSettings, value, hobjc] using hfence
  · have htitle := hset .title
    rw [hsound.at?] at htitle
    simpa [Leaf.path, objcSettings, value] using htitle

end Settings

end ApiReference
