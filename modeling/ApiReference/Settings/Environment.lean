import ApiReference.Settings.Value
import ApiReference.Text.Blank
import ApiReference.Text.Lowercase
import ApiReference.Toml.Lexeme

/-! Settings in environment variables: which variables are meant, and how their values are read. -/

namespace ApiReference.Environment

open Lexeme (isDigit digitValue)

/-! ### Names -/

def nameStart : String := "SYMDOC_"

def joinUnderscores : List Char → List Char
  | '_' :: '_' :: rest => '.' :: joinUnderscores rest
  | c :: rest => c :: joinUnderscores rest
  | [] => []

def afterStart (name : String) : Option String :=
  let cs := name.toList
  let start := nameStart.toList
  if (cs.take start.length).map Char.toUpper = start then
    some (String.ofList (cs.drop start.length))
  else none

/-- The path that a variable sets: two underscores or a dot lead into a table. A variable with an
empty part in its path is not meant. -/
def pathOf (name : String) : Option (List String) := do
  let rest ← afterStart (Text.trim name)
  let dotted := String.ofList (joinUnderscores (Text.lowercase rest).toList)
  let path := Text.split '.' (Text.lowercaseAscii (Text.trim dotted))
  if path.contains "" then none else pure path

/-! ### Values -/

def isBlank (c : Char) : Bool :=
  c == ' ' || c == '\t' || c == '\n' || c == '\x0c' || c == '\r'

def dropBlank (cs : List Char) : List Char := cs.dropWhile isBlank

def isSeparator (c : Char) : Bool :=
  c == ',' || c == '\x7b' || c == '\x7d' || c == '[' || c == ']'

def quotedBody : List Char → Option (List Char × List Char)
  | [] => none
  | '"' :: rest => some ([], rest)
  | '\\' :: c :: rest => do
    let (cs, rest) ← quotedBody rest
    pure ('\\' :: c :: cs, rest)
  | c :: rest => do
    let (cs, rest) ← quotedBody rest
    pure (c :: cs, rest)

def quotedText (cs : List Char) : Option (String × List Char) := do
  let (body, rest) ← quotedBody cs
  let (s, left) ← Toml.basicBody (body ++ ['"'])
  if left.isEmpty then pure (String.ofList s, rest) else none

def wholeNumber (cs : List Char) : Option Int :=
  let (negative, ds) := Toml.dropSign cs
  if ds.isEmpty || !ds.all isDigit then none
  else
    let n : Int := Toml.decimalNumber ds
    some (if negative then -n else n)

def pointParts (cs : List Char) : List Char × List Char × List Char :=
  let whole := cs.takeWhile isDigit
  match cs.dropWhile isDigit with
  | '.' :: more => (whole, more.takeWhile isDigit, more.dropWhile isDigit)
  | rest => (whole, [], rest)

def powerOfTen : List Char → Option Int
  | [] => some 0
  | c :: more => if c = 'e' || c = 'E' then wholeNumber more else none

def pointNumber (cs : List Char) : Option Binary64 := do
  let (negative, rest) := Toml.dropSign cs
  let (whole, fraction, rest) := pointParts rest
  if whole.isEmpty && fraction.isEmpty then none
  else
    let exponent ← powerOfTen rest
    pure (Binary64.ofDecimal negative (Toml.decimalNumber (whole ++ fraction))
      (exponent - fraction.length))

def bareValue (cs : List Char) : Scalar :=
  let plain : Scalar :=
    match wholeNumber cs with
    | some (.ofNat n) =>
      if cs.head? = some '-' then
        (if n = 0 then .signed 0 else .text (String.ofList cs))
      else if n < Nat.pow 2 64 then .unsigned n
      else .text (String.ofList cs)
    | some n => if -(Nat.pow 2 63 : Int) ≤ n then .signed n else .text (String.ofList cs)
    | none => .text (String.ofList cs)
  if cs.contains '.' then
    match pointNumber cs with
    | some x => .real x
    | none => plain
  else plain

abbrev ValueReader : Type := List Char → Option (ConfigValue × List Char)

def readItems {α : Type} (item : List Char → Option (α × List Char)) (close : Char) :
    Nat → List Char → Option (List α × List Char)
  | 0, _ => none
  | rounds + 1, cs =>
    if cs.head? = some close then some ([], cs.drop 1)
    else do
      let (a, cs) ← item cs
      match cs with
      | ',' :: rest =>
        let (as, rest) ← readItems item close rounds rest
        pure (a :: as, rest)
      | c :: rest => if c = close then pure ([a], rest) else none
      | [] => none

def readKey (cs : List Char) : Option (String × List Char) :=
  match cs with
  | '"' :: rest => quotedText rest
  | _ =>
    let name := cs.takeWhile Toml.isBareKeyChar
    if name.isEmpty then none else some (String.ofList name, cs.dropWhile Toml.isBareKeyChar)

def readPair (item : ValueReader) (cs : List Char) : Option ((String × ConfigValue) × List Char) := do
  let (key, cs) ← readKey (dropBlank cs)
  match dropBlank cs with
  | '=' :: rest =>
    let (v, rest) ← item (dropBlank rest)
    pure ((key, v), dropBlank rest)
  | _ => none

def readValue : Nat → ValueReader
  | 0, _ => none
  | levels + 1, cs => do
    let cs := dropBlank cs
    let (v, rest) ← match cs with
      | 't' :: 'r' :: 'u' :: 'e' :: rest => some (.scalar (.bool true), rest)
      | 'f' :: 'a' :: 'l' :: 's' :: 'e' :: rest => some (.scalar (.bool false), rest)
      | '\x7b' :: rest => do
        let (pairs, rest) ← readItems (readPair (readValue levels)) '\x7d' (rest.length + 1) rest
        pure (.table (pairs.foldl (fun entries (key, v) => setEntry key v entries) []), rest)
      | '[' :: rest => do
        let (items, rest) ← readItems (readValue levels) ']' (rest.length + 1) rest
        pure (.list items, rest)
      | '"' :: rest => do
        let (s, rest) ← quotedText rest
        pure (.text s, rest)
      | '\x27' :: rest =>
        match rest with
        | c :: '\x27' :: rest => some (.text (String.ofList [c]), rest)
        | _ => none
      | _ =>
        let word := cs.takeWhile fun c => !isSeparator c
        some (.scalar (bareValue (Text.trimChars word)), cs.dropWhile fun c => !isSeparator c)
    pure (v, dropBlank rest)

/-- The value of a variable. A value that does not fit the grammar as a whole is a plain text. -/
def valueOf (text : String) : ConfigValue :=
  let cs := text.toList
  match readValue (cs.length + 1) cs with
  | some (v, []) => v
  | _ => .text text

end ApiReference.Environment
