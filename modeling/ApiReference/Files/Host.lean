import ApiReference.Files.Tree

/-! What a run asks of its surroundings. The same run goes through on a file tree that is a value, and
on the files of a machine. -/

namespace ApiReference

structure Host (m : Type → Type) where
  workingDirectory : m String
  isFile : String → m Bool
  isDirectory : String → m Bool
  names : String → m (Except FileFault (List String))
  readText : String → m (Except FileFault String)
  createDirectory : String → m (Except FileFault Unit)
  writeText : String → String → m (Except FileFault Unit)
  createTemporary : String → m (Except FileFault String)
  moveFile : String → String → m (Except FileFault Unit)
  removeFile : String → m (Except FileFault Unit)
  clock : m Nat

namespace Host

variable {m : Type → Type} [Monad m]

def pathExists (host : Host m) (path : String) : m Bool := do
  if ← host.isFile path then pure true else host.isDirectory path

def ensureDirectory (host : Host m) (path : String) (fault : FileFault) :
    m (Except FileFault Unit) := do
  if ← host.isDirectory path then pure (.ok ()) else pure (.error fault)

def createDirectories (host : Host m) : Nat → String → m (Except FileFault Unit)
  | 0, _ => pure (.ok ())
  | steps + 1, path => do
    if path = "" then pure (.ok ())
    else
      match ← host.createDirectory path with
      | .ok () => pure (.ok ())
      | .error .notFound =>
        match Path.parent? path with
        | none => pure (.error (.other "failed to create whole tree"))
        | some parent =>
          match ← host.createDirectories steps parent with
          | .error fault => pure (.error fault)
          | .ok () =>
            match ← host.createDirectory path with
            | .ok () => pure (.ok ())
            | .error fault => host.ensureDirectory path fault
      | .error fault => host.ensureDirectory path fault

def createAll (host : Host m) (path : String) : m (Except FileFault Unit) :=
  host.createDirectories (path.length + 1) path

/-- Writes a text to a new file, which then takes the place of another one. It goes away when either fails. -/
def persist (host : Host m) (beside path text : String) : m (Except FileFault Unit) := do
  let persisted ←
    match ← host.writeText beside text with
    | .ok () => host.moveFile beside path
    | .error fault => pure (.error (fault.located beside))
  match persisted with
  | .ok () => pure (.ok ())
  | .error fault =>
    let _ ← host.removeFile beside
    pure (.error fault)

end Host

namespace FileTree

variable {α : Type}

def change (operation : FileTree → Except FileFault (α × FileTree)) : StateM FileTree (Except FileFault α) :=
  fun tree =>
    match operation tree with
    | .ok (a, tree) => (.ok a, tree)
    | .error fault => (.error fault, tree)

def update (operation : FileTree → Except FileFault FileTree) : StateM FileTree (Except FileFault Unit) :=
  change fun tree => do pure ((), ← operation tree)

end FileTree

def treeHost : Host (StateM FileTree) where
  workingDirectory := do pure (← get).here
  isFile path := do pure ((← get).isFile path)
  isDirectory path := do pure ((← get).isDirectory path)
  names path := do pure ((← get).names path)
  readText path := do pure ((← get).readText path)
  createDirectory path := FileTree.update (·.createDirectory path)
  writeText path text := FileTree.update (·.writeText path text)
  createTemporary directory := FileTree.change (·.createTemporary directory)
  moveFile source target := FileTree.update (·.moveFile source target)
  removeFile path := FileTree.update (·.removeFile path)
  clock := pure 0

end ApiReference
