import ApiReference.Proofs.Except
import ApiReference.Proofs.Settings.Entries
import ApiReference.Settings.Decode
import ApiReference.Toml.Written

/-! The single settings, each with its path and its type, and what is decoded from tables in which each of them
is of its type. -/

namespace ApiReference

namespace Layered

abbrev Table : Type := List (String × Layered)

/-! ### Paths -/

def tableAt (key : String) (entries : Table) : Table :=
  match valueAt? key entries with
  | some (.table _ inner) => inner
  | _ => []

def at? : List String → Table → Option Layered
  | [], _ => none
  | [key], entries => valueAt? key entries
  | key :: path, entries => at? path (tableAt key entries)

def Open : List String → Table → Prop
  | [], _ => True
  | [_], _ => True
  | key :: path, entries =>
    (∀ v, valueAt? key entries = some v → ∃ layer inner, v = .table layer inner) ∧ Open path (tableAt key entries)

lemma tableAt_of_table {key : String} {entries inner : Table} {layer : Layer}
    (h : valueAt? key entries = some (.table layer inner)) : tableAt key entries = inner := by
  rw [tableAt, h]

lemma tableAt_of_none {key : String} {entries : Table} (h : valueAt? key entries = none) :
    tableAt key entries = [] := by
  rw [tableAt, h]

/-! ### Types -/

def text? : Layered → Option String
  | .scalar _ (.text s) => some s
  | _ => none

def word32? (n : ℤ) : Option ℕ := if 0 ≤ n ∧ n < 2 ^ 32 then some n.toNat else none

def natural32? : Layered → Option ℕ
  | .scalar _ (.unsigned n) => word32? n
  | .scalar _ (.signed n) => word32? n
  | _ => none

def texts? : Layered → Option (List String)
  | .list _ items => items.mapM text?
  | _ => none

def Decoder.Reads {α : Type} (item : Decoder α) (read : Layered → Option α) : Prop :=
  ∀ path v a, read v = some a → item path v = .ok a

lemma reads_asText (expected : String) : Decoder.Reads (asText expected) text? := by
  intro path v s h
  unfold text? at h
  split at h
  · cases h
    rfl
  · cases h

lemma word32?_eq_some {k : ℤ} {n : ℕ} (h : word32? k = some n) :
    (0 ≤ k && k < (Nat.pow 2 32 : ℤ)) = true ∧ k.toNat = n := by
  rw [word32?, Option.ite_none_right_eq_some] at h
  simp only [Nat.pow_eq, Bool.and_eq_true, decide_eq_true_eq]
  exact ⟨by omega, Option.some.inj h.2⟩

lemma reads_asNatural32 : Decoder.Reads asNatural32 natural32? := by
  intro path v n h
  unfold natural32? at h
  split at h
  · obtain ⟨hk, hn⟩ := word32?_eq_some h
    unfold asNatural32
    dsimp only
    rw [if_pos hk, hn]
  · obtain ⟨hk, hn⟩ := word32?_eq_some h
    unfold asNatural32
    dsimp only
    rw [if_pos hk, hn]
  · cases h

lemma decodeItems_reads {α : Type} {item : Decoder α} {read : Layered → Option α} (hr : item.Reads read)
    (path : List String) (index : ℕ) {items : List Layered} {as : List α} (h : items.mapM read = some as) :
    decodeItems item path index items = .ok as := by
  induction items generalizing index as with
  | nil =>
    cases h
    rfl
  | cons v items ih =>
    rw [List.mapM_cons, Option.bind_eq_bind, Option.bind_eq_some_iff] at h
    obtain ⟨a, ha, h⟩ := h
    rw [Option.bind_eq_bind, Option.bind_eq_some_iff] at h
    obtain ⟨rest, hrest, h⟩ := h
    cases h
    rw [decodeItems, hr _ v a ha, ok_bind, ih (index + 1) hrest]
    rfl

lemma reads_asList : Decoder.Reads (asList pathText) texts? := by
  intro path v as h
  unfold texts? at h
  split at h
  · exact decodeItems_reads (reads_asText _) path 0 h
  · cases h

def levelsOf (entries : Table) : List (String × String) :=
  entries.map fun e => (e.1, (text? e.2).getD "")

lemma decodeEntries_levels (path : List String) {entries : Table} (h : ∀ e ∈ entries, (text? e.2).isSome) :
    decodeEntries plainText path entries = .ok (levelsOf entries) := by
  induction entries with
  | nil => rfl
  | cons e entries ih =>
    obtain ⟨he, hrest⟩ := List.forall_mem_cons.mp h
    obtain ⟨s, hs⟩ := Option.isSome_iff_exists.mp he
    rw [decodeEntries, plainText, reads_asText _ _ _ s hs, ok_bind, ← plainText, ih hrest, levelsOf, levelsOf,
      List.map_cons, hs]
    rfl

section

variable {α : Type} {item : Decoder α} {read : Layered → Option α} (hr : item.Reads read) (path : List String)
  {entries : Table} {key : String} (h : ∀ v, valueAt? key entries = some v → (read v).isSome)
include hr h

lemma field_reads (default : α) :
    field path entries key item default = .ok (((valueAt? key entries).bind read).getD default) := by
  rw [field]
  cases hv : valueAt? key entries with
  | none => rfl
  | some v =>
    obtain ⟨a, ha⟩ := Option.isSome_iff_exists.mp (h v hv)
    rw [Option.bind_some, ha]
    exact hr _ v a ha

lemma optionalField_reads : optionalField path entries key item = .ok ((valueAt? key entries).bind read) := by
  rw [optionalField, field]
  cases hv : valueAt? key entries with
  | none => rfl
  | some v =>
    obtain ⟨a, ha⟩ := Option.isSome_iff_exists.mp (h v hv)
    rw [Option.bind_some, ha]
    dsimp only
    rw [hr _ v a ha]
    rfl

end

lemma field_group {α : Type} {item : Decoder α} {ofTable : Table → α} {entries : Table} {key : String}
    (path : List String) (ht : ∀ v, valueAt? key entries = some v → ∃ layer inner, v = .table layer inner)
    (hg : ∀ path layer, item path (.table layer (tableAt key entries)) = .ok (ofTable (tableAt key entries))) :
    field path entries key item (ofTable []) = .ok (ofTable (tableAt key entries)) := by
  rw [field]
  cases hv : valueAt? key entries with
  | none => rw [tableAt_of_none hv]
  | some v =>
    obtain ⟨layer, inner, rfl⟩ := ht v hv
    rw [tableAt_of_table hv] at hg ⊢
    exact hg _ layer

end Layered

/-! ### Leaves -/

inductive Leaf
  | version | moduleName
  | primary | graphDir | secondary | umbrellaHeader
  | outputPath
  | title | intro | fenceLanguage | optOutMarker | placeholder
  | logDefault
  | level (target : String)
  deriving DecidableEq

namespace Leaf

def path : Leaf → List String
  | version => ["version"]
  | moduleName => ["module_name"]
  | primary => ["inputs", "primary"]
  | graphDir => ["inputs", "graph_dir"]
  | secondary => ["inputs", "secondary"]
  | umbrellaHeader => ["inputs", "umbrella_header"]
  | outputPath => ["output", "path"]
  | title => ["render", "title"]
  | intro => ["render", "intro"]
  | fenceLanguage => ["render", "fence_language"]
  | optOutMarker => ["render", "opt_out_marker"]
  | placeholder => ["render", "undocumented_placeholder"]
  | logDefault => ["logging", "default"]
  | level target => ["logging", "modules", target]

def read (v : Layered) : Leaf → Option Toml.Entry
  | version => v.natural32?.map .natural
  | primary => v.texts?.map .texts
  | _ => v.text?.map .text

end Leaf

namespace Settings

open Layered

def value (s : Settings) : Leaf → Option Toml.Entry
  | .version => some (.natural s.version)
  | .moduleName => some (.text s.moduleName)
  | .primary => some (.texts s.inputs.primary)
  | .graphDir => s.inputs.graphDir.map .text
  | .secondary => s.inputs.secondary.map .text
  | .umbrellaHeader => s.inputs.umbrellaHeader.map .text
  | .outputPath => some (.text s.outputPath)
  | .title => s.render.title.map .text
  | .intro => s.render.intro.map .text
  | .fenceLanguage => some (.text s.render.fenceLanguage)
  | .optOutMarker => some (.text s.render.optOutMarker)
  | .placeholder => some (.text s.render.placeholder)
  | .logDefault => some (.text s.logging.default)
  | .level target => (valueAt? target s.logging.modules).map .text

/-- Tables in which every leaf that is set is of its type. Other keys are not looked at. -/
structure Legible (entries : Table) : Prop where
  ways (leaf : Leaf) : Open leaf.path entries
  leaves (leaf : Leaf) : ∀ v, at? leaf.path entries = some v → (leaf.read v).isSome
  levels : ∀ e ∈ tableAt "modules" (tableAt "logging" entries), (text? e.2).isSome

def inputsOf (entries : Table) : InputSettings where
  primary := ((valueAt? "primary" entries).bind texts?).getD []
  graphDir := (valueAt? "graph_dir" entries).bind text?
  secondary := (valueAt? "secondary" entries).bind text?
  umbrellaHeader := (valueAt? "umbrella_header" entries).bind text?

def outputPathOf (entries : Table) : String := ((valueAt? "path" entries).bind text?).getD "api.md"

def renderOf (entries : Table) : RenderSettings where
  title := (valueAt? "title" entries).bind text?
  intro := (valueAt? "intro" entries).bind text?
  fenceLanguage := ((valueAt? "fence_language" entries).bind text?).getD "swift"
  optOutMarker := ((valueAt? "opt_out_marker" entries).bind text?).getD ":nodoc:"
  placeholder := ((valueAt? "undocumented_placeholder" entries).bind text?).getD "*Not documented.*"

def loggingOf (entries : Table) : LogSettings where
  default := ((valueAt? "default" entries).bind text?).getD "warn"
  modules := levelsOf (tableAt "modules" entries)

def reading (entries : Table) : Settings where
  version := ((valueAt? "version" entries).bind natural32?).getD 1
  moduleName := ((valueAt? "module_name" entries).bind text?).getD "Module"
  inputs := inputsOf (tableAt "inputs" entries)
  outputPath := outputPathOf (tableAt "output" entries)
  render := renderOf (tableAt "render" entries)
  logging := loggingOf (tableAt "logging" entries)

lemma levels_reading (entries : Table) :
    (reading entries).logging.modules = levelsOf (tableAt "modules" (tableAt "logging" entries)) :=
  rfl

section

variable {α β : Type} (x : Option Layered) (read : Layered → Option α) (f : α → β)

lemma some_getD (default : α) :
    some (f ((x.bind read).getD default)) = (x.bind fun v => (read v).map f).or (some (f default)) := by
  cases x with
  | none => rfl
  | some v =>
    rw [Option.bind_some, Option.bind_some]
    cases read v <;> rfl

lemma map_bind_or : (x.bind read).map f = (x.bind fun v => (read v).map f).or none := by
  rw [Option.or_none, Option.map_bind]
  rfl

end

section

variable {entries : Table} (h : Legible entries)
include h

lemma Legible.text (leaf : Leaf) (hleaf : ∀ v, leaf.read v = v.text?.map .text) :
    ∀ v, at? leaf.path entries = some v → v.text?.isSome := by
  intro v hv
  have hs := h.leaves leaf v hv
  rwa [hleaf, Option.isSome_map] at hs

lemma Legible.inputs (path : List String) (layer : Layer) :
    Layered.inputs path (.table layer (tableAt "inputs" entries)) = .ok (inputsOf (tableAt "inputs" entries)) := by
  have hprimary : ∀ v, valueAt? "primary" (tableAt "inputs" entries) = some v → v.texts?.isSome := by
    intro v hv
    have hs := h.leaves .primary v hv
    rwa [Leaf.read, Option.isSome_map] at hs
  have hg := optionalField_reads (reads_asText "path string") path (h.text .graphDir fun _ => rfl)
  have hp := field_reads reads_asList path hprimary []
  have hs := optionalField_reads (reads_asText "path string") path (h.text .secondary fun _ => rfl)
  have hu := optionalField_reads (reads_asText "path string") path (h.text .umbrellaHeader fun _ => rfl)
  rw [Layered.inputs]
  dsimp only [asGroup]
  rw [← pathText] at hg hs hu
  rw [hg, hp, hs, hu]
  rfl

lemma Legible.output (path : List String) (layer : Layer) :
    Layered.outputPath path (.table layer (tableAt "output" entries)) =
      .ok (outputPathOf (tableAt "output" entries)) :=
  field_reads (reads_asText "path string") path (h.text .outputPath fun _ => rfl) _

lemma Legible.render (path : List String) (layer : Layer) :
    Layered.render path (.table layer (tableAt "render" entries)) = .ok (renderOf (tableAt "render" entries)) := by
  have hf := field_reads (reads_asText "a string") path (h.text .fenceLanguage fun _ => rfl) "swift"
  have hi := optionalField_reads (reads_asText "a string") path (h.text .intro fun _ => rfl)
  have ho := field_reads (reads_asText "a string") path (h.text .optOutMarker fun _ => rfl) ":nodoc:"
  have ht := optionalField_reads (reads_asText "a string") path (h.text .title fun _ => rfl)
  have hp := field_reads (reads_asText "a string") path (h.text .placeholder fun _ => rfl) "*Not documented.*"
  rw [← plainText] at hf hi ho ht hp
  rw [Layered.render]
  dsimp only [asGroup]
  rw [hf, hi, ho, ht, hp]
  rfl

lemma Legible.logging (path : List String) (layer : Layer) :
    Layered.logging path (.table layer (tableAt "logging" entries)) = .ok (loggingOf (tableAt "logging" entries)) := by
  have hd := field_reads (reads_asText "a string") path (h.text .logDefault fun _ => rfl) "warn"
  have hm : field path (tableAt "logging" entries) "modules" (asTable plainText) (levelsOf []) =
      .ok (levelsOf (tableAt "modules" (tableAt "logging" entries))) :=
    field_group path (h.ways (.level "")).2.1 fun path _ => decodeEntries_levels path h.levels
  rw [← plainText] at hd
  rw [Layered.logging]
  dsimp only [asGroup]
  rw [hd]
  change (field path (tableAt "logging" entries) "modules" (asTable plainText) (levelsOf []) >>= _) = _
  rw [hm]
  rfl

theorem Legible.decoded : Settings.ofEntries entries = .ok (reading entries) := by
  have hversion : ∀ v, valueAt? "version" entries = some v → v.natural32?.isSome := by
    intro v hv
    have hs := h.leaves .version v hv
    rwa [Leaf.read, Option.isSome_map] at hs
  have hi := field_group [] (h.ways .primary).1 h.inputs
  have hl := field_group [] (h.ways .logDefault).1 h.logging
  have hm := field_reads (reads_asText "a string") [] (h.text .moduleName fun _ => rfl) "Module"
  have ho := field_group [] (h.ways .outputPath).1 h.output
  have hr := field_group [] (h.ways .title).1 h.render
  have hv := field_reads reads_asNatural32 [] hversion 1
  rw [Settings.ofEntries]
  change (field [] entries "inputs" Layered.inputs (inputsOf []) >>= _) = _
  rw [hi]
  change (field [] entries "logging" Layered.logging (loggingOf []) >>= _) = _
  rw [hl]
  change (field [] entries "module_name" (asText "a string") "Module" >>= _) = _
  rw [hm]
  change (field [] entries "output" Layered.outputPath (outputPathOf []) >>= _) = _
  rw [ho]
  change (field [] entries "render" Layered.render (renderOf []) >>= _) = _
  rw [hr]
  change (field [] entries "version" asNatural32 1 >>= _) = _
  rw [hv]
  rfl

theorem Legible.value (leaf : Leaf) :
    (reading entries).value leaf = ((at? leaf.path entries).bind leaf.read).or (({} : Settings).value leaf) := by
  cases leaf with
  | version => exact some_getD _ _ _ _
  | moduleName => exact some_getD _ _ _ _
  | primary => exact some_getD _ _ _ _
  | outputPath => exact some_getD _ _ _ _
  | fenceLanguage => exact some_getD _ _ _ _
  | optOutMarker => exact some_getD _ _ _ _
  | placeholder => exact some_getD _ _ _ _
  | logDefault => exact some_getD _ _ _ _
  | graphDir => exact map_bind_or _ _ _
  | secondary => exact map_bind_or _ _ _
  | umbrellaHeader => exact map_bind_or _ _ _
  | title => exact map_bind_or _ _ _
  | intro => exact map_bind_or _ _ _
  | level target =>
    have hs := h.text (.level target) fun _ => rfl
    change (valueAt? target (levelsOf (tableAt "modules" (tableAt "logging" entries)))).map Toml.Entry.text =
      ((valueAt? target (tableAt "modules" (tableAt "logging" entries))).bind _).or none
    rw [levelsOf, valueAt?_map fun v => (text? v).getD ""]
    cases hv : valueAt? target (tableAt "modules" (tableAt "logging" entries)) with
    | none => rfl
    | some v =>
      obtain ⟨level, hl⟩ := Option.isSome_iff_exists.mp (hs v hv)
      change some (Toml.Entry.text (v.text?.getD "")) = (v.text?.map Toml.Entry.text).or none
      rw [hl]
      rfl

end

end Settings

end ApiReference
