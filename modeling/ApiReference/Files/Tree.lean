import ApiReference.Distinct
import ApiReference.Files.Fault
import ApiReference.Files.Path

/-! A tree of files and directories with a working directory. A place in it is the list of names that
lead there from the root. -/

namespace ApiReference

inductive Content
  | text (s : String)
  | binary (bytes : List UInt8)
  deriving DecidableEq, Repr

inductive FileEntry
  | directory
  | file (content : Content)
  deriving DecidableEq, Repr

abbrev Place : Type := List String

structure FileTree where
  entries : List (Place × FileEntry)
  workingDirectory : Place
  deriving Repr

namespace FileTree

def standing? (tree : FileTree) (place : Place) : Option FileEntry :=
  if place = [] then some .directory
  else (tree.entries.find? (·.1 == place)).map (·.2)

def erase (tree : FileTree) (place : Place) : FileTree :=
  { tree with entries := tree.entries.filter (·.1 != place) }

def set (tree : FileTree) (place : Place) (entry : FileEntry) : FileTree :=
  { tree with entries := (place, entry) :: (tree.erase place).entries }

def here (tree : FileTree) : String := "/" ++ String.intercalate "/" tree.workingDirectory

def namesIn (tree : FileTree) (place : Place) : List String :=
  sortTexts (tree.entries.filterMap fun (p, _) =>
    match p.getLast? with
    | some name => if p.dropLast = place then some name else none
    | none => none)

/-! ### Following paths -/

def nameLimit : Nat := 255

def pathLimit : Nat := 4096

def checkPath (path : String) : Except FileFault Unit :=
  if path.toList.contains '\x00' then .error .nulInName
  else if path = "" then .error .notFound
  else if path.utf8ByteSize ≥ pathLimit then .error .nameTooLong
  else .ok ()

def step (tree : FileTree) (place : Place) (name : String) : Except FileFault Place :=
  if tree.standing? place ≠ some .directory then .error .notDirectory
  else if name = "." then .ok place
  else if name = ".." then .ok place.dropLast
  else if name.utf8ByteSize > nameLimit then .error .nameTooLong
  else if tree.standing? (place ++ [name]) = none then .error .notFound
  else .ok (place ++ [name])

def startOf (tree : FileTree) (path : String) : Place :=
  if Path.isAbsolute path then [] else tree.workingDirectory

def namesOf (path : String) : List String := (Text.split '/' path).filter (· != "")

def resolve (tree : FileTree) (path : String) : Except FileFault Place := do
  checkPath path
  let place ← (namesOf path).foldlM tree.step (tree.startOf path)
  if Text.endsWith path "/" && tree.standing? place ≠ some .directory then throw .notDirectory
  else pure place

def isOrdinary (name : String) : Bool := name != "." && name != ".."

/-- The directory that a path leads to with its last name left off, and that name, unless it is the
root or one of the two dots. -/
def resolveParent (tree : FileTree) (path : String) : Except FileFault (Place × Option String) := do
  checkPath path
  let names := namesOf path
  let place ← names.dropLast.foldlM tree.step (tree.startOf path)
  if tree.standing? place ≠ some .directory then throw .notDirectory
  else pure (place, names.getLast?.filter isOrdinary)

def entryAt? (tree : FileTree) (path : String) : Option FileEntry :=
  match tree.resolve path with
  | .ok place => tree.standing? place
  | .error _ => none

/-! ### Operations -/

def isDirectory (tree : FileTree) (path : String) : Bool :=
  tree.entryAt? path == some .directory

def isFile (tree : FileTree) (path : String) : Bool :=
  match tree.entryAt? path with
  | some (.file _) => true
  | _ => false

def fileAt (tree : FileTree) (path : String) : Except FileFault (Place × Content) := do
  let place ← tree.resolve path
  match tree.standing? place with
  | some (.file content) => pure (place, content)
  | some .directory => throw .isDirectory
  | none => throw .notFound

def readText (tree : FileTree) (path : String) : Except FileFault String := do
  match (← tree.fileAt path).2 with
  | .text s => pure s
  | .binary _ => throw .notText

def names (tree : FileTree) (path : String) : Except FileFault (List String) := do
  let place ← tree.resolve path
  if tree.standing? place = some .directory then pure (tree.namesIn place) else throw .notDirectory

def checkName (name : String) : Except FileFault Unit :=
  if name.utf8ByteSize > nameLimit then .error .nameTooLong else .ok ()

def create (tree : FileTree) (path : String) (entry : FileEntry) : Except FileFault FileTree := do
  match ← tree.resolveParent path with
  | (_, none) => throw .alreadyExists
  | (place, some name) =>
    checkName name
    if tree.standing? (place ++ [name]) = none then pure (tree.set (place ++ [name]) entry)
    else throw .alreadyExists

def createDirectory (tree : FileTree) (path : String) : Except FileFault FileTree :=
  tree.create path .directory

def createFile (tree : FileTree) (path : String) : Except FileFault FileTree :=
  if Text.endsWith path "/" then .error .isDirectory else tree.create path (.file (.text ""))

def write (tree : FileTree) (path : String) (content : Content) : Except FileFault FileTree := do
  match ← tree.resolveParent path with
  | (_, none) => throw .isDirectory
  | (place, some name) =>
    if Text.endsWith path "/" then throw .isDirectory
    checkName name
    if tree.standing? (place ++ [name]) = some .directory then throw .isDirectory
    pure (tree.set (place ++ [name]) (.file content))

def writeText (tree : FileTree) (path text : String) : Except FileFault FileTree :=
  tree.write path (.text text)

def moveFile (tree : FileTree) (source target : String) : Except FileFault FileTree := do
  let (origin, content) ← tree.fileAt source
  match ← tree.resolveParent target with
  | (_, none) => throw .busy
  | (place, some name) =>
    checkName name
    if Text.endsWith target "/" then throw .notDirectory
    if tree.standing? (place ++ [name]) = some .directory then throw .isDirectory
    pure ((tree.erase origin).set (place ++ [name]) (.file content))

def removeFile (tree : FileTree) (path : String) : Except FileFault FileTree := do
  let (place, _) ← tree.fileAt path
  pure (tree.erase place)

/-! ### Files with names of their own -/

def temporaryName (n : Nat) : String :=
  let digits := toString n
  ".tmp" ++ String.ofList (List.replicate (6 - digits.length) '0') ++ digits

def createFirst (tree : FileTree) (directory : String) : List String → Except FileFault (String × FileTree)
  | [] => .error (.noFreeName directory)
  | name :: names =>
    let path := Path.join directory name
    match tree.createFile path with
    | .ok created => .ok (path, created)
    | .error .alreadyExists => tree.createFirst directory names
    | .error fault => .error (fault.located path)

/-- There is one name more to try than there are entries. -/
def createTemporary (tree : FileTree) (directory : String) : Except FileFault (String × FileTree) :=
  tree.createFirst (Path.join tree.here directory)
    ((List.range (tree.entries.length + 1)).map temporaryName)

end FileTree

end ApiReference
