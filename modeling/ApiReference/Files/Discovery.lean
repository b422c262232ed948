import ApiReference.Failure
import ApiReference.Files.Host

/-! Finding the symbol graphs of a module in a directory. -/

namespace ApiReference

/-- Whether a file name belongs to a module: the name starts with the module's and ends as graphs
do, without overlap. -/
def isGraphName (module name : String) : Bool :=
  let ending := ".symbols.json"
  Text.startsWith name module &&
    Text.endsWith (String.ofList (name.toList.drop module.length)) ending

namespace Host

variable {m : Type → Type} [Monad m]

def extendPath (path name : String) : String :=
  if Path.components path = ["."] then name else Path.join path name

def follow (host : Host m) (path : Option String) (name : String) : m (Option String) := do
  match path with
  | none => pure none
  | some path =>
    let next := extendPath path name
    let found ← if name = "." || name = ".." then host.isDirectory path else host.pathExists next
    pure (if found then some next else none)

def graphsIn (host : Host m) (path module : String) : m (Except Failure (List String)) := do
  match ← host.names path with
  | .ok names => pure (.ok ((names.filter (isGraphName module)).map (extendPath path)))
  | .error fault => pure (.error (.file path fault.message))

/-- The graphs of a module in a directory, in order of their names. A module's name may hold slashes,
and then leads into directories below. -/
def discover (host : Host m) (dir module : String) : m (Except Failure (List String)) := do
  let segments := Text.split '/' (dir ++ "/" ++ module)
  let absolute := segments.head? = some ""
  let start := if absolute then "/" else "."
  let directories := (if absolute then segments.drop 1 else segments).dropLast
  match ← directories.foldlM host.follow (some start) with
  | none => pure (.ok [])
  | some path =>
    if ← host.isDirectory path then host.graphsIn path (segments.getLastD "") else pure (.ok [])

end Host

end ApiReference
