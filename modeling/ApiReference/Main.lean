import ApiReference.CommandLine.Parser
import ApiReference.Run.Command
import Std.Time.Format
import Std.Time.Zoned

/-! The program: the command line over the files of the machine. -/

namespace ApiReference.Main

def systemCode : IO.Error → Option UInt32
  | .noFileOrDirectory _ code _ => some code
  | .alreadyExists _ code _ => some code
  | .inappropriateType _ code _ => some code
  | .invalidArgument _ code _ => some code
  | .resourceBusy code _ => some code
  | .resourceExhausted _ code _ => some code
  | .permissionDenied _ code _ => some code
  | .otherError code _ => some code
  | _ => none

def faultOf (e : IO.Error) : FileFault :=
  match systemCode e with
  | some 2 => .notFound
  | some 13 => .denied
  | some 16 => .busy
  | some 17 => .alreadyExists
  | some 20 => .notDirectory
  | some 21 => .isDirectory
  | some 36 => .nameTooLong
  | _ => .other (toString e)

def attempt {α : Type} (path : String) (action : IO α) : IO (Except FileFault α) := do
  if path.toList.contains '\x00' then return .error .nulInName
  try
    return .ok (← action)
  catch e => return .error (faultOf e)

def orElse {α : Type} (default : α) (action : IO α) : IO α := do
  try action catch _ => pure default

def isDirectory (path : String) : IO Bool :=
  orElse false do (← IO.FS.realPath path).isDir

def isFile (path : String) : IO Bool :=
  orElse false do
    let info ← (← IO.FS.realPath path).metadata
    pure (info.type == .file)

def names (path : String) : IO (Except FileFault (List String)) :=
  attempt path do
    let entries ← (← IO.FS.realPath path).readDir
    pure (sortTexts (entries.toList.map (·.fileName)))

def readText (path : String) : IO (Except FileFault String) := do
  match ← attempt path (IO.FS.readBinFile path) with
  | .error fault => pure (.error fault)
  | .ok bytes =>
    match String.fromUTF8? bytes with
    | some s => pure (.ok s)
    | none => pure (.error .notText)

def createTemporary (directory : String) : IO (Except FileFault String) := do
  let base := Path.join (← IO.currentDir).toString directory
  for _ in [0:1000] do
    let path := Path.join base (FileTree.temporaryName (← IO.rand 0 999999))
    match ← attempt path (IO.FS.withFile path .writeNew fun _ => pure ()) with
    | .ok () => return .ok path
    | .error .alreadyExists => pure ()
    | .error fault => return .error (fault.located path)
  return .error (.noFreeName base)

def machine : Host IO where
  workingDirectory := do pure (← IO.currentDir).toString
  isFile := isFile
  isDirectory := isDirectory
  names := names
  readText := readText
  createDirectory path := attempt path (IO.FS.createDir path)
  writeText path text := attempt path (IO.FS.writeFile path text)
  createTemporary := createTemporary
  moveFile source target := attempt target (IO.FS.rename source target)
  removeFile path := attempt path (IO.FS.removeFile path)
  clock := IO.monoMsNow

def environment : IO (List (String × String)) :=
  orElse [] do
    let bytes ← IO.FS.readBinFile "/proc/self/environ"
    let text := (String.fromUTF8? bytes).getD ""
    pure ((Text.split '\x00' text).filterMap fun entry =>
      match Text.splitChars '=' entry.toList with
      | name :: rest@(_ :: _) =>
        some (String.ofList name, String.ofList (['='].intercalate rest))
      | _ => none)

def versionText : String := "symdoc 0.1.0"

def usageText : String :=
  String.intercalate "\n"
    ["Merge compiler symbol graphs into a Markdown API reference", "",
     "Usage: symdoc [OPTIONS] <COMMAND>", "",
     "Commands:", "  init     Set up .symdoc/settings.toml in the current directory",
     "  config   Display active settings", "  render   Render the Markdown API reference",
     "  members  Show the documented members of a type, including inherited ones", "",
     "Options:", "  -c, --config <CONFIG>  Path to custom settings.toml file",
     "      --info             Show detailed loading information",
     "  -h, --help             Print help", "  -V, --version          Print version"]

def usageMessage : UsageError → String
  | .unknownArgument => "error: unexpected argument"
  | .invalidSubcommand => "error: unrecognized subcommand"
  | .missingSubcommand => "error: a subcommand is required"
  | .missingArgument => "error: a required argument was not provided"
  | .invalidValue => "error: a value is required"
  | .repeatedArgument => "error: an argument cannot be used multiple times"
  | .unwantedValue => "error: unexpected value"
  | .nothingAsked => usageText
  | .helpRequested => usageText
  | .versionRequested => versionText

def run (args : List String) : IO UInt32 := do
  match CommandLine.parse args with
  | .error e =>
    if e.exitCode = 0 then IO.println (usageMessage e) else IO.eprintln (usageMessage e)
    pure e.exitCode.toUInt32
  | .ok call =>
    let report ← runInvocation machine (← environment) call
    let time := (← Std.Time.PlainTime.now).format "HH:mm:ss.SSS"
    IO.eprint (report.errorText (time ++ " "))
    IO.print report.outputText
    pure report.exitCode.toUInt32

end ApiReference.Main

def main (args : List String) : IO UInt32 := ApiReference.Main.run args
