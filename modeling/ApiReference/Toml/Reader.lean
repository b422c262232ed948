import ApiReference.Toml.Lexeme
import ApiReference.Toml.Table

/-! Reading a settings file. -/

namespace ApiReference.Toml

open Lexeme (isDigit)

abbrev ValueReader : Type := List Char → Option (ConfigValue × List Char)

def readItems (item : ValueReader) : Nat → List Char → Option (List ConfigValue × List Char)
  | 0, _ => none
  | rounds + 1, cs =>
    match dropSpace cs.length cs with
    | ']' :: rest => some ([], rest)
    | cs => do
      let (v, cs) ← item cs
      match dropSpace cs.length cs with
      | ',' :: rest =>
        let (vs, rest) ← readItems item rounds rest
        pure (v :: vs, rest)
      | ']' :: rest => pure ([v], rest)
      | _ => none

def readPair (item : ValueReader) (cs : List Char) :
    Option (List String × ConfigValue × List Char) := do
  let (path, cs) ← keyPath cs
  let cs ← expect '=' cs
  let (v, cs) ← item (dropBlank cs)
  pure (path, v, cs)

def readPairs (item : ValueReader) : Nat → Entries → List Char → Option (Entries × List Char)
  | 0, _, _ => none
  | rounds + 1, entries, cs => do
    let (path, v, cs) ← readPair item cs
    let entries ← addValue path v entries
    match dropBlank cs with
    | ',' :: rest => readPairs item rounds entries rest
    | '\x7d' :: rest => pure (entries, rest)
    | _ => none

def readValue : Nat → ValueReader
  | levels, cs =>
    match cs with
    | [] => none
    | '"' :: _ | '\x27' :: _ => do
      let (s, rest) ← textValue cs
      pure (.text s, rest)
    | '[' :: rest =>
      match levels with
      | 0 => none
      | levels + 1 => do
        let (items, rest) ← readItems (readValue levels) (rest.length + 1) rest
        pure (.list items, rest)
    | '\x7b' :: rest =>
      match levels with
      | 0 => none
      | levels + 1 =>
        match dropBlank rest with
        | '\x7d' :: rest => some (.table [], rest)
        | _ => do
          let (entries, rest) ← readPairs (readValue levels) (rest.length + 1) [] rest
          pure (.table (entriesToValues entries), rest)
    | 't' :: 'r' :: 'u' :: 'e' :: rest => some (.scalar (.bool true), rest)
    | 'f' :: 'a' :: 'l' :: 's' :: 'e' :: rest => some (.scalar (.bool false), rest)
    | c :: _ =>
      if isDigit c || c = '+' || c = '-' then numeric cs
      else do
        let (x, rest) ← specialNumber cs
        pure (.scalar (.real x), rest)

def nestingLimit : Nat := 79

structure State where
  entries : Entries
  current : List String

def State.addPair (s : State) (path : List String) (v : ConfigValue) : Option State := do
  let entries ← descend false (fun _ table => addValue path v table) s.current .header s.entries
  pure { s with entries }

def readHeader (s : State) (cs : List Char) : Option (State × List Char) := do
  match cs with
  | '[' :: '[' :: rest =>
    let (path, rest) ← keyPath rest
    let rest ← expect ']' rest >>= expect ']'
    let entries ← openListTable path s.entries
    pure ({ entries, current := path }, rest)
  | '[' :: rest =>
    let (path, rest) ← keyPath rest
    let rest ← expect ']' rest
    let entries ← openTable path s.entries
    pure ({ entries, current := path }, rest)
  | _ => none

def readLine (s : State) (cs : List Char) : Option (State × List Char) := do
  match dropBlank cs with
  | '[' :: rest =>
    let (s, rest) ← readHeader s ('[' :: rest)
    pure (s, ← endLine rest)
  | cs =>
    match endLine cs with
    | some rest => pure (s, rest)
    | none =>
      let (path, v, rest) ← readPair (readValue nestingLimit) cs
      pure (← s.addPair path v, ← endLine rest)

def readLines : Nat → State → List Char → Option State
  | _, s, [] => some s
  | 0, _, _ => none
  | rounds + 1, s, cs => do
    let (s, rest) ← readLine s cs
    readLines rounds s rest

def dropMark : List Char → List Char
  | c :: rest => if c.toNat = 0xFEFF then rest else c :: rest
  | [] => []

def ofText (text : String) : Option (List (String × ConfigValue)) := do
  let cs := dropMark text.toList
  let s ← readLines (cs.length + 1) { entries := [], current := [] } cs
  pure (entriesToValues s.entries)

end ApiReference.Toml
