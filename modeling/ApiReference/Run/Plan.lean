import ApiReference.Failure
import ApiReference.Files.Discovery
import ApiReference.Settings.Basic

/-! The plan of a run: which files it reads and where it writes. -/

namespace ApiReference

structure RunPlan where
  module : String
  primary : List String
  secondary : String
  umbrella : Option String
  output : String
  options : DocumentOptions
  deriving DecidableEq, Repr

def RunPlan.ofSettings {m : Type → Type} [Monad m] (host : Host m) (s : Settings) :
    ExceptT Failure m RunPlan := do
  let primary ←
    if !s.inputs.primary.isEmpty then pure s.inputs.primary
    else
      match s.inputs.graphDir with
      | some dir => ExceptT.mk (host.discover dir s.moduleName)
      | none =>
        throw (.missingInput "no primary symbol graphs given (use --primary or --graph-dir)")
  match s.inputs.secondary with
  | none => throw (.missingInput "no secondary symbol graph given (use --secondary)")
  | some secondary =>
    pure
      { module := s.moduleName
        primary
        secondary
        umbrella := s.inputs.umbrellaHeader
        output := s.outputPath
        options := s.documentOptions }

end ApiReference
