/-! Failures that end a run. -/

namespace ApiReference

inductive Failure
  | malformedGraph (path reason : String)
  | file (path reason : String)
  | missingInput (what : String)
  | badPattern (pattern reason : String)
  | settings (reason : String)
  deriving DecidableEq, Repr

inductive ResultCode
  | ok | notFound | malformedInput | missingInput | ioError | configError
  deriving DecidableEq, Repr

def ResultCode.name : ResultCode → String
  | ok => "OK"
  | notFound => "NOT_FOUND"
  | malformedInput => "MALFORMED_INPUT"
  | missingInput => "MISSING_INPUT"
  | ioError => "IO_ERROR"
  | configError => "CONFIG_ERROR"

namespace Failure

def message : Failure → String
  | malformedGraph path reason => "Malformed symbol graph " ++ path ++ ": " ++ reason
  | file path reason => "IO error on " ++ path ++ ": " ++ reason
  | missingInput what => "Missing input: " ++ what
  | badPattern pattern reason => "Invalid discovery pattern '" ++ pattern ++ "': " ++ reason
  | settings reason => "Configuration error: " ++ reason

def code : Failure → ResultCode
  | malformedGraph _ _ => .malformedInput
  | file _ _ => .ioError
  | missingInput _ => .missingInput
  | badPattern _ _ => .missingInput
  | settings _ => .configError

def suggestion : Failure → Option String
  | malformedGraph _ _ =>
    some "Re-run the symbol-graph extraction; the file may be truncated"
  | missingInput _ =>
    some "Pass --primary/--graph-dir and --secondary, or set them in .symdoc/settings.toml"
  | settings _ => some "Run 'symdoc init --force' to regenerate the settings file"
  | _ => none

end Failure

end ApiReference
