import ApiReference.Settings.Basic

/-! Command lines: what the program can be asked to do. -/

namespace ApiReference

structure InputArguments where
  module : Option String := none
  primary : List String := []
  graphDir : Option String := none
  secondary : Option String := none
  umbrellaHeader : Option String := none
  deriving DecidableEq, Repr

inductive Command
  | init (force : Bool)
  | config
  | render (inputs : InputArguments) (output : Option String) (json : Bool)
  | members (symbol : String) (inputs : InputArguments) (json : Bool)
  deriving DecidableEq, Repr

structure Invocation where
  config : Option String
  info : Bool
  command : Command
  deriving DecidableEq, Repr

/-- The primary graphs after the arguments: graphs that are named win, and a directory that is named
wins over graphs that are only set. -/
def InputArguments.primaryOver (args : InputArguments) (settings : InputSettings) : List String :=
  if !args.primary.isEmpty then args.primary
  else if args.graphDir.isSome then []
  else settings.primary

def InputArguments.apply (args : InputArguments) (settings : Settings) : Settings :=
  { settings with
    moduleName := args.module.getD settings.moduleName
    inputs :=
      { primary := args.primaryOver settings.inputs
        graphDir := args.graphDir <|> settings.inputs.graphDir
        secondary := args.secondary <|> settings.inputs.secondary
        umbrellaHeader := args.umbrellaHeader <|> settings.inputs.umbrellaHeader } }

inductive UsageError
  | unknownArgument
  | invalidSubcommand
  | missingSubcommand
  | nothingAsked
  | missingArgument
  | invalidValue
  | repeatedArgument
  | unwantedValue
  | helpRequested
  | versionRequested
  deriving DecidableEq, Repr

def UsageError.exitCode : UsageError → Nat
  | helpRequested => 0
  | versionRequested => 0
  | _ => 2

end ApiReference
