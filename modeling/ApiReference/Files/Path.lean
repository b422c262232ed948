import ApiReference.Text.Blank

/-! Paths as texts with slashes. Repeated slashes and single dots carry no meaning, except for a dot
at the very front. -/

namespace ApiReference.Path

def isAbsolute (path : String) : Bool := Text.startsWith path "/"

def join (base path : String) : String :=
  if isAbsolute path || base = "" then path
  else if Text.endsWith base "/" then base ++ path
  else base ++ "/" ++ path

/-- Names between slashes that mean something, by their place: an empty one never does, a dot only
at the front of a relative path. -/
def isMeaningful (front : Bool) (segment : String) : Bool :=
  segment != "" && (front || segment != ".")

def dropTrailing (absolute : Bool) : List String → List String
  | [] => []
  | s :: rest =>
    if isMeaningful (rest.isEmpty && !absolute) s then s :: rest else dropTrailing absolute rest

def parent? (path : String) : Option String :=
  let absolute := isAbsolute path
  let segments := Text.split '/' path
  let body := if absolute then segments.drop 1 else segments
  match dropTrailing absolute body.reverse with
  | [] => none
  | _ :: rest =>
    let kept := String.intercalate "/" (dropTrailing absolute rest).reverse
    some (if absolute then "/" ++ kept else kept)

def ancestors : Nat → String → List String
  | 0, path => [path]
  | steps + 1, path =>
    match parent? path with
    | none => [path]
    | some parent => path :: ancestors steps parent

def selfAndParents (path : String) : List String := ancestors path.length path

def components (path : String) : List String :=
  let absolute := isAbsolute path
  let segments := Text.split '/' path
  let front := if absolute then ["/"] else if segments.head? = some "." then ["."] else []
  front ++ (if absolute || segments.head? = some "." then segments.drop 1 else segments).filter
    (isMeaningful false)

def stepsFrom : List String → List String → List String
  | b :: base, p :: path =>
    if b = p then stepsFrom base path
    else ".." :: base.map (fun _ => "..") ++ (p :: path)
  | base, path => base.map (fun _ => "..") ++ path

def ofComponents : List String → String
  | "/" :: rest => "/" ++ String.intercalate "/" rest
  | parts => String.intercalate "/" parts

def shownFrom (base path : String) : String :=
  let full := components path
  let relative := stepsFrom (components base) full
  if relative.length < full.length then ofComponents relative else path

end ApiReference.Path
