import ApiReference.Proofs.Settings.Leaves
import ApiReference.Proofs.Toml.Document
import ApiReference.Settings.Document

/-! The settings file of given settings holds them leaf by leaf, and nothing else. -/

namespace ApiReference

namespace Layered

lemma ofItems_eq_map (layer : Layer) (items : List ConfigValue) : ofItems layer items = items.map (ofValue layer) := by
  induction items with
  | nil => rfl
  | cons item items ih => rw [ofItems, ih, List.map_cons]

lemma ofEntries_eq_map (layer : Layer) (entries : List (String × ConfigValue)) :
    ofEntries layer entries = entries.map fun e => (e.1, ofValue layer e.2) := by
  induction entries with
  | nil => rfl
  | cons e entries ih => rw [ofEntries, ih, List.map_cons]

def ofTable (layer : Layer) (table : Toml.Entries) : Table := ofEntries layer (Toml.entriesToValues table)

lemma ofTable_eq_map (layer : Layer) (table : Toml.Entries) :
    ofTable layer table = table.map fun e => (e.1, ofValue layer e.2.toValue) := by
  rw [ofTable, ofEntries_eq_map, Toml.entriesToValues_eq_map, List.map_map]
  rfl

lemma valueAt?_ofTable (layer : Layer) (key : String) (table : Toml.Entries) :
    valueAt? key (ofTable layer table) = (valueAt? key table).map fun item => ofValue layer item.toValue := by
  rw [ofTable_eq_map, valueAt?_map fun item => ofValue layer (Toml.Item.toValue item)]

lemma valueAt?_ofTable_table {layer : Layer} {key : String} {table inner : Toml.Entries} {origin : Toml.Origin}
    (h : valueAt? key table = some (.table origin inner)) :
    valueAt? key (ofTable layer table) = some (.table layer (ofTable layer inner)) := by
  rw [valueAt?_ofTable, h]
  rfl

lemma tableAt_ofTable (layer : Layer) {key : String} {table inner : Toml.Entries} {origin : Toml.Origin}
    (h : valueAt? key table = some (.table origin inner)) :
    tableAt key (ofTable layer table) = ofTable layer inner :=
  tableAt_of_table (valueAt?_ofTable_table h)

lemma valueAt?_ofTable_filled (layer : Layer) (key : String) {entries : List (String × Toml.Entry)}
    (hn : (entries.map (·.1)).Nodup) :
    valueAt? key (ofTable layer (Toml.filled [] entries)) =
      (valueAt? key entries).map fun entry => ofValue layer entry.value := by
  rw [valueAt?_ofTable, Toml.valueAt?_filled key [] hn]
  cases valueAt? key entries <;> rfl

end Layered

namespace Settings

open Toml Layered

/-! ### Sections -/

def rootEntries (s : Settings) : List (String × Entry) :=
  [("version", .natural s.version), ("module_name", .text s.moduleName)]

def inputEntries (s : InputSettings) : List (String × Entry) :=
  [("primary", .texts s.primary)] ++ optionalEntry "graph_dir" s.graphDir ++
    optionalEntry "secondary" s.secondary ++ optionalEntry "umbrella_header" s.umbrellaHeader

def renderEntries (s : RenderSettings) : List (String × Entry) :=
  optionalEntry "title" s.title ++ optionalEntry "intro" s.intro ++
    [("fence_language", .text s.fenceLanguage), ("opt_out_marker", .text s.optOutMarker),
      ("undocumented_placeholder", .text s.placeholder)]

def levelEntries (s : LogSettings) : List (String × Entry) := s.modules.map fun (key, level) => (key, .text level)

lemma sections_eq (s : Settings) :
    s.sections = [⟨[], s.rootEntries⟩, ⟨["inputs"], inputEntries s.inputs⟩,
      ⟨["output"], [("path", .text s.outputPath)]⟩, ⟨["render"], renderEntries s.render⟩,
      ⟨["logging"], [("default", .text s.logging.default)]⟩, ⟨["logging", "modules"], levelEntries s.logging⟩] :=
  rfl

lemma keys_optionalEntry (key : String) (s : Option String) : ((optionalEntry key s).map (·.1)).Sublist [key] := by
  cases s with
  | none => exact List.nil_sublist _
  | some s => exact List.Sublist.refl _

lemma nodup_inputEntries (s : InputSettings) : ((inputEntries s).map (·.1)).Nodup := by
  have hs : ((inputEntries s).map (·.1)).Sublist
      (["primary"] ++ ["graph_dir"] ++ ["secondary"] ++ ["umbrella_header"]) := by
    rw [inputEntries, List.map_append, List.map_append, List.map_append]
    exact (((List.Sublist.refl _).append (keys_optionalEntry _ _)).append (keys_optionalEntry _ _)).append
      (keys_optionalEntry _ _)
  exact hs.nodup (by decide)

lemma nodup_renderEntries (s : RenderSettings) : ((renderEntries s).map (·.1)).Nodup := by
  have hs : ((renderEntries s).map (·.1)).Sublist
      (["title"] ++ ["intro"] ++ ["fence_language", "opt_out_marker", "undocumented_placeholder"]) := by
    rw [renderEntries, List.map_append, List.map_append]
    exact ((keys_optionalEntry _ _).append (keys_optionalEntry _ _)).append (List.Sublist.refl _)
  exact hs.nodup (by decide)

@[simp] lemma valueAt?_optionalEntry (key k : String) (s : Option String) :
    valueAt? key (optionalEntry k s) = if k = key then s.map .text else none := by
  cases s with
  | none => exact (ite_self none).symm
  | some s => exact valueAt?_cons key k _ []

/-! ### The tables of a settings file -/

def logTable (s : LogSettings) : Entries :=
  setEntry "modules" (.table .header (filled [] (levelEntries s))) (filled [] [("default", .text s.default)])

def tables (s : Settings) : Entries :=
  setEntry "logging" (.table .header (logTable s.logging))
    (setEntry "render" (.table .header (filled [] (renderEntries s.render)))
      (setEntry "output" (.table .header (filled [] [("path", .text s.outputPath)]))
        (setEntry "inputs" (.table .header (filled [] (inputEntries s.inputs))) (filled [] s.rootEntries))))

structure Sound (s : Settings) : Prop where
  version : s.version < 2 ^ 32
  modules : Ordered s.logging.modules

variable {s : Settings}

lemma Sound.ordered (h : s.Sound) : Ordered (levelEntries s.logging) := List.pairwise_map.mpr h.modules

lemma fits_optionalEntry (key : String) (x : Option String) : ∀ e ∈ optionalEntry key x, e.2.Fits := by
  cases x with
  | none => simp [optionalEntry]
  | some x => simp [optionalEntry]

lemma Sound.fits (h : s.Sound) : ∀ sec ∈ s.sections, sec.Fits := by
  have hv : (Entry.natural s.version).Fits := lt_of_lt_of_le h.version (by decide)
  simp only [sections_eq, List.forall_mem_cons, List.not_mem_nil, false_imp_iff, implies_true, and_true]
  refine ⟨⟨by simp, ?_⟩, ⟨by simp, ?_⟩, ⟨by simp, ?_⟩, ⟨by simp, ?_⟩, ⟨by simp, ?_⟩, ⟨by simp, ?_⟩⟩
  · simp [rootEntries, hv]
  · simp only [inputEntries, List.mem_append, or_imp, forall_and]
    exact ⟨⟨⟨by simp, fits_optionalEntry _ _⟩, fits_optionalEntry _ _⟩, fits_optionalEntry _ _⟩
  · simp
  · simp only [renderEntries, List.mem_append, or_imp, forall_and]
    exact ⟨⟨fits_optionalEntry _ _, fits_optionalEntry _ _⟩, by simp⟩
  · simp
  · intro e he
    obtain ⟨e', -, rfl⟩ := List.mem_map.mp he
    exact Entry.fits_text e'.2

theorem Sound.ofText (h : s.Sound) : Toml.ofText s.text = some (entriesToValues s.tables) := by
  have hroot : (Section.lines ⟨[], s.rootEntries⟩).foldlM Line.load ⟨[], []⟩ = some ⟨filled [] s.rootEntries, []⟩ :=
    leads_nil.fill (by simp [rootEntries]) fun _ _ => rfl
  have hsection {key : String} {table : Entries} (hk : valueAt? key table = none) {entries : List (String × Entry)}
      (hn : (entries.map (·.1)).Nodup) (current : List String) :
      (Section.lines ⟨[key], entries⟩).foldlM Line.load ⟨table, current⟩ =
        some ⟨setEntry key (.table .header (filled [] entries)) table, [key]⟩ :=
    leads_nil.section hk hn current
  have hmodules (table : Entries) :
      (Section.lines ⟨["logging", "modules"], levelEntries s.logging⟩).foldlM Line.load
        ⟨setEntry "logging" (.table .header (filled [] [("default", .text s.logging.default)])) table, ["logging"]⟩ =
        some ⟨setEntry "logging" (.table .header (logTable s.logging)) table, ["logging", "modules"]⟩ :=
    (leads_nil.table "logging" table).section (by simp [valueAt?_filled]) h.ordered.nodup _
  rw [text, ofText_writeDocument h.fits, sections_eq]
  simp only [List.flatMap_cons, List.flatMap_nil, List.append_nil, List.foldlM_append, Option.bind_eq_bind]
  rw [hroot, Option.bind_some, hsection _ (nodup_inputEntries _), Option.bind_some, hsection _ (by simp),
    Option.bind_some, hsection _ (nodup_renderEntries _), Option.bind_some, hsection _ (by simp), Option.bind_some,
    hmodules]
  · rfl
  all_goals simp [valueAt?_filled, rootEntries]

/-! ### Leaves of a settings file -/

section

variable (s : Settings)

lemma valueAt?_tables_inputs :
    valueAt? "inputs" s.tables = some (.table .header (filled [] (inputEntries s.inputs))) := by
  simp [tables]

lemma valueAt?_tables_output :
    valueAt? "output" s.tables = some (.table .header (filled [] [("path", .text s.outputPath)])) := by
  simp [tables]

lemma valueAt?_tables_render :
    valueAt? "render" s.tables = some (.table .header (filled [] (renderEntries s.render))) := by
  simp [tables]

lemma valueAt?_tables_logging : valueAt? "logging" s.tables = some (.table .header (logTable s.logging)) :=
  valueAt?_setEntry_self _ _ _

lemma valueAt?_logTable_modules (s : LogSettings) :
    valueAt? "modules" (logTable s) = some (.table .header (filled [] (levelEntries s))) :=
  valueAt?_setEntry_self _ _ _

lemma valueAt?_levelEntries (target : String) (s : LogSettings) :
    valueAt? target (levelEntries s) = (valueAt? target s.modules).map .text :=
  valueAt?_map Entry.text target s.modules

end

theorem Sound.at? (h : s.Sound) (layer : Layer) (leaf : Leaf) :
    Layered.at? leaf.path (ofTable layer s.tables) = (s.value leaf).map fun entry => ofValue layer entry.value := by
  have hsection {name : String} {entries : List (String × Entry)} (hn : (entries.map (·.1)).Nodup)
      (ht : valueAt? name s.tables = some (.table .header (filled [] entries))) (key : String) :
      Layered.at? [name, key] (ofTable layer s.tables) =
        (valueAt? key entries).map fun entry => ofValue layer entry.value := by
    change valueAt? key (tableAt name (ofTable layer s.tables)) = _
    rw [tableAt_ofTable layer ht, valueAt?_ofTable_filled layer key hn]
  have hin := hsection (nodup_inputEntries s.inputs) s.valueAt?_tables_inputs
  have hrender := hsection (nodup_renderEntries s.render) s.valueAt?_tables_render
  have hlog := tableAt_ofTable layer s.valueAt?_tables_logging
  cases leaf with
  | version =>
    change valueAt? "version" (ofTable layer s.tables) = _
    simp [valueAt?_ofTable, tables, rootEntries, valueAt?_filled, value, Item.toValue]
  | moduleName =>
    change valueAt? "module_name" (ofTable layer s.tables) = _
    simp [valueAt?_ofTable, tables, rootEntries, valueAt?_filled, value, Item.toValue]
  | primary => simp [Leaf.path, hin, inputEntries, value]
  | graphDir => simp [Leaf.path, hin, inputEntries, value]
  | secondary => simp [Leaf.path, hin, inputEntries, value]
  | umbrellaHeader => simp [Leaf.path, hin, inputEntries, value]
  | outputPath => simp [Leaf.path, hsection (by simp) s.valueAt?_tables_output, value]
  | title => simp [Leaf.path, hrender, renderEntries, value]
  | intro => simp [Leaf.path, hrender, renderEntries, value]
  | fenceLanguage => simp [Leaf.path, hrender, renderEntries, value]
  | optOutMarker => simp [Leaf.path, hrender, renderEntries, value]
  | placeholder => simp [Leaf.path, hrender, renderEntries, value]
  | logDefault =>
    change valueAt? "default" (tableAt "logging" (ofTable layer s.tables)) = _
    rw [hlog]
    simp [valueAt?_ofTable, logTable, valueAt?_filled, value, Item.toValue]
  | level target =>
    change valueAt? target (tableAt "modules" (tableAt "logging" (ofTable layer s.tables))) = _
    rw [hlog, tableAt_ofTable layer (valueAt?_logTable_modules s.logging),
      valueAt?_ofTable_filled layer target h.ordered.nodup, valueAt?_levelEntries]
    rfl

lemma texts?_ofValue (layer : Layer) (items : List String) :
    texts? (ofValue layer (Entry.texts items).value) = some items := by
  change (ofItems layer (items.map .text)).mapM text? = _
  rw [ofItems_eq_map, List.map_map]
  induction items with
  | nil => rfl
  | cons item items ih =>
    rw [List.map_cons, List.mapM_cons, ih]
    rfl

lemma natural32?_ofValue (layer : Layer) {n : ℕ} (h : n < 2 ^ 32) :
    natural32? (ofValue layer (Entry.natural n).value) = some n := by
  have hn : (0 : ℤ) ≤ n ∧ (n : ℤ) < 2 ^ 32 := by omega
  change word32? n = _
  rw [word32?, if_pos hn, Int.toNat_natCast]

lemma Sound.read (h : s.Sound) (layer : Layer) {leaf : Leaf} {entry : Entry} (hv : s.value leaf = some entry) :
    leaf.read (ofValue layer entry.value) = some entry := by
  cases leaf with
  | version =>
    obtain rfl := Option.some.inj hv
    rw [Leaf.read, natural32?_ofValue layer h.version]
    rfl
  | primary =>
    obtain rfl := Option.some.inj hv
    rw [Leaf.read, texts?_ofValue]
    rfl
  | moduleName | outputPath | fenceLanguage | optOutMarker | placeholder | logDefault =>
    obtain rfl := Option.some.inj hv
    rfl
  | graphDir | secondary | umbrellaHeader | title | intro | level _ =>
    obtain ⟨text, -, rfl⟩ := Option.map_eq_some_iff.mp hv
    rfl

lemma Sound.levels (h : s.Sound) (layer : Layer) :
    tableAt "modules" (tableAt "logging" (ofTable layer s.tables)) =
      s.logging.modules.map fun e => (e.1, .scalar layer (.text e.2)) := by
  rw [tableAt_ofTable layer s.valueAt?_tables_logging, tableAt_ofTable layer (valueAt?_logTable_modules s.logging),
    filled_of_ordered h.ordered, ofTable_eq_map, levelEntries, List.map_map, List.map_map]
  rfl

theorem Sound.legible (h : s.Sound) (layer : Layer) : Legible (ofTable layer s.tables) where
  ways leaf := by
    have htable {key : String} {table inner : Entries} (ht : valueAt? key table = some (.table .header inner)) :
        ∀ v, valueAt? key (ofTable layer table) = some v → ∃ layer inner, v = .table layer inner := by
      intro v hv
      rw [valueAt?_ofTable_table ht] at hv
      exact ⟨layer, ofTable layer inner, (Option.some.inj hv).symm⟩
    cases leaf with
    | version | moduleName => trivial
    | primary | graphDir | secondary | umbrellaHeader => exact ⟨htable s.valueAt?_tables_inputs, trivial⟩
    | outputPath => exact ⟨htable s.valueAt?_tables_output, trivial⟩
    | title | intro | fenceLanguage | optOutMarker | placeholder =>
      exact ⟨htable s.valueAt?_tables_render, trivial⟩
    | logDefault => exact ⟨htable s.valueAt?_tables_logging, trivial⟩
    | level _ =>
      refine ⟨htable s.valueAt?_tables_logging, ?_, trivial⟩
      rw [tableAt_ofTable layer s.valueAt?_tables_logging]
      exact htable (valueAt?_logTable_modules s.logging)
  leaves leaf v hv := by
    rw [h.at?, Option.map_eq_some_iff] at hv
    obtain ⟨entry, he, rfl⟩ := hv
    rw [h.read layer he]
    rfl
  levels e he := by
    rw [h.levels] at he
    obtain ⟨e', -, rfl⟩ := List.mem_map.mp he
    rfl

lemma eq_of_value {s t : Settings} (h : ∀ leaf, s.value leaf = t.value leaf)
    (hm : s.logging.modules = t.logging.modules) : s = t := by
  have htext : Function.Injective (Option.map Entry.text) := Option.map_injective fun _ _ => Entry.text.inj
  have hset {a b : String} (hab : some (Entry.text a) = some (Entry.text b)) : a = b :=
    Entry.text.inj (Option.some.inj hab)
  obtain ⟨_, _, ⟨_, _, _, _⟩, _, ⟨_, _, _, _, _⟩, ⟨_, _⟩⟩ := s
  obtain ⟨_, _, ⟨_, _, _, _⟩, _, ⟨_, _, _, _, _⟩, ⟨_, _⟩⟩ := t
  obtain rfl := Entry.natural.inj (Option.some.inj (h .version))
  obtain rfl := hset (h .moduleName)
  obtain rfl := Entry.texts.inj (Option.some.inj (h .primary))
  obtain rfl := htext (h .graphDir)
  obtain rfl := htext (h .secondary)
  obtain rfl := htext (h .umbrellaHeader)
  obtain rfl := hset (h .outputPath)
  obtain rfl := htext (h .title)
  obtain rfl := htext (h .intro)
  obtain rfl := hset (h .fenceLanguage)
  obtain rfl := hset (h .optOutMarker)
  obtain rfl := hset (h .placeholder)
  obtain rfl := hset (h .logDefault)
  obtain rfl := hm
  rfl

lemma value_default_of_none {leaf : Leaf} (h : s.value leaf = none) : ({} : Settings).value leaf = none := by
  cases leaf with
  | graphDir | secondary | umbrellaHeader | title | intro | level _ => rfl
  | _ => cases h

theorem Sound.reading (h : s.Sound) (layer : Layer) : reading (ofTable layer s.tables) = s := by
  apply eq_of_value
  · intro leaf
    rw [(h.legible layer).value, h.at?]
    cases hv : s.value leaf with
    | none => exact value_default_of_none hv
    | some entry =>
      rw [Option.map_some, Option.bind_some, h.read layer hv]
      rfl
  · rw [levels_reading, h.levels, levelsOf, List.map_map]
    exact List.map_id s.logging.modules

end Settings

end ApiReference
