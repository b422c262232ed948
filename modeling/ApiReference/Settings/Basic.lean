import ApiReference.Distinct
import ApiReference.Document.Options

/-! Settings of a run. -/

namespace ApiReference

structure InputSettings where
  primary : List String := []
  graphDir : Option String := none
  secondary : Option String := none
  umbrellaHeader : Option String := none
  deriving DecidableEq, Repr

structure RenderSettings where
  title : Option String := none
  intro : Option String := none
  fenceLanguage : String := "swift"
  optOutMarker : String := ":nodoc:"
  placeholder : String := "*Not documented.*"
  deriving DecidableEq, Repr

structure LogSettings where
  default : String := "warn"
  modules : List (String × String) := []
  deriving DecidableEq, Repr

structure Settings where
  version : Nat := 1
  moduleName : String := "Module"
  inputs : InputSettings := {}
  outputPath : String := "api.md"
  render : RenderSettings := {}
  logging : LogSettings := {}
  deriving DecidableEq, Repr

def LogSettings.directives (log : LogSettings) : String :=
  let modules := log.modules.mergeSort fun a b => textLe a.1 b.1
  log.default ++ String.join (modules.map fun (name, level) => "," ++ name ++ "=" ++ level)

def Settings.documentOptions (s : Settings) : DocumentOptions :=
  let derived := DocumentOptions.forModule s.moduleName
  { title := s.render.title.getD derived.title
    intro := s.render.intro.getD derived.intro
    fence := s.render.fenceLanguage
    marker := s.render.optOutMarker
    placeholder := s.render.placeholder }

end ApiReference
