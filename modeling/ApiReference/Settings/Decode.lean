import ApiReference.Settings.Basic
import ApiReference.Settings.Layers

/-! Settings from merged layers. Each setting has a type; the first value that is of another type, in
key order, is reported with its place and its layer. -/

namespace ApiReference

inductive SettingProblem
  | invalidType (found expected : String)
  | invalidValue (found expected : String)
  | invalidLength (count : Nat) (expected : String)
  | unreadable (reason : String)
  deriving DecidableEq, Repr

structure SettingError where
  problem : SettingProblem
  path : List String
  layer : Layer
  deriving DecidableEq, Repr

def SettingProblem.message : SettingProblem → String
  | invalidType found expected => "invalid type: found " ++ found ++ ", expected " ++ expected
  | invalidValue found expected => "invalid value " ++ found ++ ", expected " ++ expected
  | invalidLength count expected =>
    "invalid length " ++ toString count ++ ", expected " ++ expected
  | unreadable reason => reason

def SettingError.message (e : SettingError) : String :=
  let key := if e.path.isEmpty then "" else " for key " ++ Text.quoted (e.layer.keyText e.path)
  e.problem.message ++ key ++ " in " ++ e.layer.describe

namespace Layered

abbrev Decoder (α : Type) : Type := List String → Layered → Except SettingError α

def mismatch {α : Type} (expected : String) (path : List String) (value : Layered) :
    Except SettingError α :=
  .error ⟨.invalidType value.describe expected, path, value.layer⟩

def asText (expected : String) : Decoder String := fun path value =>
  match value with
  | .scalar _ (.text s) => .ok s
  | value => mismatch expected path value

def plainText : Decoder String := asText "a string"

def pathText : Decoder String := asText "path string"

def asNatural32 : Decoder Nat := fun path value =>
  let limited (n : Int) : Except SettingError Nat :=
    if 0 ≤ n && n < (Nat.pow 2 32 : Int) then .ok n.toNat
    else .error ⟨.invalidValue value.describe "u32", path, value.layer⟩
  match value with
  | .scalar _ (.unsigned n) => limited n
  | .scalar _ (.signed n) => limited n
  | value => mismatch "u32" path value

def decodeItems {α : Type} (item : Decoder α) (path : List String) :
    Nat → List Layered → Except SettingError (List α)
  | _, [] => .ok []
  | index, value :: rest => do
    let a ← item (path ++ [toString index]) value
    let as ← decodeItems item path (index + 1) rest
    pure (a :: as)

def asList {α : Type} (item : Decoder α) : Decoder (List α) := fun path value =>
  match value with
  | .list _ items => decodeItems item path 0 items
  | value => mismatch "a sequence" path value

def decodeEntries {α : Type} (item : Decoder α) (path : List String) :
    List (String × Layered) → Except SettingError (List (String × α))
  | [] => .ok []
  | (key, value) :: rest => do
    let a ← item (path ++ [key]) value
    let as ← decodeEntries item path rest
    pure ((key, a) :: as)

def asTable {α : Type} (item : Decoder α) : Decoder (List (String × α)) := fun path value =>
  match value with
  | .table _ entries => decodeEntries item path entries
  | value => mismatch "a map" path value

def field {α : Type} (path : List String) (entries : List (String × Layered)) (key : String)
    (item : Decoder α) (default : α) : Except SettingError α :=
  match valueAt? key entries with
  | some value => item (path ++ [key]) value
  | none => .ok default

def optionalField {α : Type} (path : List String) (entries : List (String × Layered))
    (key : String) (item : Decoder α) : Except SettingError (Option α) :=
  field path entries key (fun path value => some <$> item path value) none

structure FieldList where
  name : String
  size : Nat
  path : List String
  layer : Layer
  items : List Layered

def FieldList.at {α : Type} (fields : FieldList) (index : Nat) (item : Decoder α)
    (default : Option α) : Except SettingError α :=
  match fields.items[index]?, default with
  | some value, _ => item (fields.path ++ [toString index]) value
  | none, some default => .ok default
  | none, none =>
    let expected := "struct " ++ fields.name ++ " with " ++ toString fields.size ++
      (if fields.size = 1 then " element" else " elements")
    .error ⟨.invalidLength index expected, fields.path, fields.layer⟩

def asGroup {α : Type} (name : String) (size : Nat)
    (ofEntries : List String → List (String × Layered) → Except SettingError α)
    (ofFields : FieldList → Except SettingError α) : Decoder α := fun path value =>
  match value with
  | .table _ entries => ofEntries path entries
  | .list layer items => ofFields { name, size, path, layer, items }
  | value => mismatch ("struct " ++ name) path value

def inputs : Decoder InputSettings :=
  let present (path : List String) (value : Layered) := some <$> pathText path value
  asGroup "InputsConfig" 4
    (fun path entries => do
      let graphDir ← optionalField path entries "graph_dir" pathText
      let primary ← field path entries "primary" (asList pathText) []
      let secondary ← optionalField path entries "secondary" pathText
      let umbrellaHeader ← optionalField path entries "umbrella_header" pathText
      pure { primary, graphDir, secondary, umbrellaHeader })
    (fun fields => do
      let primary ← fields.at 0 (asList pathText) (some [])
      let graphDir ← fields.at 1 present none
      let secondary ← fields.at 2 present none
      let umbrellaHeader ← fields.at 3 present none
      pure { primary, graphDir, secondary, umbrellaHeader })

def outputPath : Decoder String :=
  let default := ({} : Settings).outputPath
  asGroup "OutputConfig" 1
    (fun path entries => field path entries "path" pathText default)
    (fun fields => fields.at 0 pathText (some default))

def render : Decoder RenderSettings :=
  let present (path : List String) (value : Layered) := some <$> plainText path value
  let default : RenderSettings := {}
  asGroup "RenderConfig" 5
    (fun path entries => do
      let fenceLanguage ← field path entries "fence_language" plainText default.fenceLanguage
      let intro ← optionalField path entries "intro" plainText
      let optOutMarker ← field path entries "opt_out_marker" plainText default.optOutMarker
      let title ← optionalField path entries "title" plainText
      let placeholder ← field path entries "undocumented_placeholder" plainText default.placeholder
      pure { title, intro, fenceLanguage, optOutMarker, placeholder })
    (fun fields => do
      let title ← fields.at 0 present none
      let intro ← fields.at 1 present none
      let fenceLanguage ← fields.at 2 plainText (some default.fenceLanguage)
      let optOutMarker ← fields.at 3 plainText (some default.optOutMarker)
      let placeholder ← fields.at 4 plainText (some default.placeholder)
      pure { title, intro, fenceLanguage, optOutMarker, placeholder })

def logging : Decoder LogSettings :=
  let default : LogSettings := {}
  asGroup "LoggingConfig" 2
    (fun path entries => do
      let level ← field path entries "default" plainText default.default
      let modules ← field path entries "modules" (asTable plainText) []
      pure { default := level, modules })
    (fun fields => do
      let level ← fields.at 0 plainText (some default.default)
      let modules ← fields.at 1 (asTable plainText) (some [])
      pure { default := level, modules })

end Layered

def Settings.ofEntries (entries : List (String × Layered)) : Except SettingError Settings := do
  let default : Settings := {}
  let inputs ← Layered.field [] entries "inputs" Layered.inputs default.inputs
  let logging ← Layered.field [] entries "logging" Layered.logging default.logging
  let moduleName ← Layered.field [] entries "module_name" Layered.plainText default.moduleName
  let outputPath ← Layered.field [] entries "output" Layered.outputPath default.outputPath
  let render ← Layered.field [] entries "render" Layered.render default.render
  let version ← Layered.field [] entries "version" Layered.asNatural32 default.version
  pure { version, moduleName, inputs, outputPath, render, logging }

end ApiReference
