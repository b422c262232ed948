import ApiReference.Settings.Basic
import ApiReference.Toml.Written

/-! The settings file that holds given settings. Unset options are left out. -/

namespace ApiReference.Settings

open Toml

def optionalEntry (key : String) : Option String → List (String × Entry)
  | some s => [(key, .text s)]
  | none => []

def sections (s : Settings) : List Section :=
  [{ name := [],
     entries := [("version", .natural s.version), ("module_name", .text s.moduleName)] },
   { name := ["inputs"],
     entries := [("primary", .texts s.inputs.primary)] ++
       optionalEntry "graph_dir" s.inputs.graphDir ++
       optionalEntry "secondary" s.inputs.secondary ++
       optionalEntry "umbrella_header" s.inputs.umbrellaHeader },
   { name := ["output"], entries := [("path", .text s.outputPath)] },
   { name := ["render"],
     entries := optionalEntry "title" s.render.title ++
       optionalEntry "intro" s.render.intro ++
       [("fence_language", .text s.render.fenceLanguage),
        ("opt_out_marker", .text s.render.optOutMarker),
        ("undocumented_placeholder", .text s.render.placeholder)] },
   { name := ["logging"], entries := [("default", .text s.logging.default)] },
   { name := ["logging", "modules"],
     entries := s.logging.modules.map fun (key, level) => (key, .text level) }]

def text (s : Settings) : String := writeDocument s.sections

end ApiReference.Settings
