import ApiReference.Files.Host
import ApiReference.Settings.Decode
import ApiReference.Settings.Document
import ApiReference.Settings.Environment
import ApiReference.Toml.Reader

/-! Loading settings from a file and the environment, and saving them. -/

namespace ApiReference.Settings

def directoryName : String := ".symdoc"

def fileName : String := "settings.toml"

def environmentEntries (environment : List (String × String)) : List (String × Layered) :=
  environment.foldl (fun entries (name, text) =>
    match Environment.pathOf name with
    | none => entries
    | some path =>
      let value := Layered.ofValue .environment (Environment.valueOf text)
      match Layered.nest .environment value path with
      | .table _ nested => Layered.mergeEntries entries nested
      | _ => entries) []

def fileEntries (shown : String) (text : Except FileFault String) :
    Except SettingError (List (String × Layered)) :=
  match text with
  | .error fault => .error ⟨.unreadable (fault.message ++ "\n"), [], .file shown⟩
  | .ok text =>
    match Toml.ofText text with
    | none => .error ⟨.unreadable "TOML parse error", [], .file shown⟩
    | some entries => .ok (Layered.ofEntries (.file shown) entries)

section

variable {m : Type → Type} [Monad m]

def firstFile (host : Host m) : List String → m (Option String)
  | [] => pure none
  | path :: paths => do
    if ← host.isFile path then pure (some path) else firstFile host paths

/-- A relative path is looked for in the working directory and then in those above it. -/
def findFile (host : Host m) (path : String) : m (Option String) := do
  if Path.isAbsolute path then firstFile host [path]
  else
    let here ← host.workingDirectory
    firstFile host ((Path.selfAndParents here).map (Path.join · path))

def loadFrom (host : Host m) (environment : List (String × String)) (path : String) :
    m (Except SettingError Settings) := do
  let here ← host.workingDirectory
  let fromFile ← match ← findFile host path with
    | none => pure (.ok [])
    | some file => do pure (fileEntries (Path.shownFrom here file) (← host.readText file))
  pure do
    let entries ← fromFile
    Settings.ofEntries (Layered.mergeEntries entries (environmentEntries environment))

def firstWorkspace (host : Host m) : List String → m (Option String)
  | [] => pure none
  | directory :: above => do
    let settings := Path.join directory directoryName
    if ← host.isDirectory settings then pure (some settings) else firstWorkspace host above

def load (host : Host m) (environment : List (String × String)) :
    m (Except SettingError Settings) := do
  let here ← host.workingDirectory
  let directory ← firstWorkspace host (Path.selfAndParents here)
  loadFrom host environment (Path.join (directory.getD directoryName) fileName)

def save (host : Host m) (settings : Settings) (path : String) : m (Except String Unit) := do
  match Path.parent? path with
  | none => pure (.error "Invalid path")
  | some parent =>
    match ← host.createAll parent with
    | .error fault => pure (.error fault.message)
    | .ok () =>
      match ← host.writeText path settings.text with
      | .error fault => pure (.error fault.message)
      | .ok () => pure (.ok ())

def initialise (host : Host m) (directory : String) (force : Bool) : m (Except String String) := do
  let path := Path.join (Path.join directory directoryName) fileName
  let present ← host.pathExists path
  if !force && present then
    pure (.error "Configuration file already exists. Use --force to overwrite")
  else
    match ← save host {} path with
    | .error reason => pure (.error reason)
    | .ok () => pure (.ok path)

end

end ApiReference.Settings
