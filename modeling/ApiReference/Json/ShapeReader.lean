import ApiReference.Json.Shape

/-! Reading a document of a shape. The text is read once, from left to right, and the first problem
met is reported. -/

namespace ApiReference

open Lexeme

def readMismatch (expected : String) (cs : List Char) : ReadError :=
  let named (found : Except ReadError Found) : ReadError :=
    match found with
    | .ok found => .invalidType found expected
    | .error e => e
  match cs with
  | [] => .endOfValue
  | 'n' :: rest => named ((word ['u', 'l', 'l'] rest).map fun _ => .null)
  | 't' :: rest => named ((word ['r', 'u', 'e'] rest).map fun _ => .bool true)
  | 'f' :: rest => named ((word ['a', 'l', 's', 'e'] rest).map fun _ => .bool false)
  | '"' :: rest => named ((Lexeme.text rest).map fun (s, _) => .text s)
  | '[' :: _ => named (.ok .list)
  | '\x7b' :: _ => named (.ok .object)
  | c :: rest =>
    if c = '-' || isDigit c then named ((number (c :: rest)).map fun (n, _) => .number n)
    else .expectedValue

def readText (expected : String) (cs : List Char) : Except ReadError (String × List Char) :=
  match dropBlank cs with
  | '"' :: rest => Lexeme.text rest
  | cs => .error (readMismatch expected cs)

def readNatural (limit : Nat) (name : String) (cs : List Char) :
    Except ReadError (Nat × List Char) :=
  match dropBlank cs with
  | [] => .error .endOfValue
  | c :: rest =>
    if c = '-' || isDigit c then do
      match ← number (c :: rest) with
      | (.integer (.ofNat n), rest) =>
        if n < limit then pure (n, rest)
        else throw (.invalidValue (.number (.integer n)) name)
      | (.integer n, _) => throw (.invalidValue (.number (.integer n)) name)
      | (.real x, _) => throw (.invalidType (.number (.real x)) name)
    else .error (readMismatch name (c :: rest))

def findChoice {α : Type} (names : List (String × α)) (name : String) : Except ReadError α :=
  match names.find? (·.1 == name) with
  | some (_, value) => .ok value
  | none => .error (.unknownVariant name (names.map (·.1)))

def readChoice {α : Type} (names : List (String × α)) (cs : List Char) :
    Except ReadError (α × List Char) :=
  match dropBlank cs with
  | [] => .error .endOfValue
  | '"' :: rest => do
    let (name, rest) ← Lexeme.text rest
    pure (← findChoice names name, rest)
  | '\x7b' :: rest => do
    let (name, rest) ← readText "variant identifier" rest
    let value ← findChoice names name
    let rest ← colon rest
    match dropBlank rest with
    | 'n' :: rest =>
      let rest ← word ['u', 'l', 'l'] rest
      match dropBlank rest with
      | [] => throw .endOfObject
      | '\x7d' :: rest => pure (value, rest)
      | _ :: _ => throw .expectedValue
    | rest => throw (readMismatch "unit" rest)
  | _ :: _ => .error .expectedValue

def closeList (cs : List Char) : Except ReadError (List Char) :=
  match dropBlank cs with
  | [] => .error .endOfList
  | ']' :: rest => .ok rest
  | ',' :: rest =>
    match dropBlank rest with
    | ']' :: _ => .error .trailingComma
    | _ => .error .trailingCharacters
  | _ :: _ => .error .trailingCharacters

def orDefaultAt {α : Type} (index : Nat) (record : String) :
    Presence α → Except ReadError α
  | .optional default => .ok default
  | _ => .error (.invalidLength index record)

mutual

def Shape.read : {α : Type} → Shape α → List Char → Except ReadError (α × List Char)
  | _, .text, cs => readText "a string" cs
  | _, .natural limit name, cs => readNatural limit name cs
  | _, .choice names, cs => readChoice names cs
  | _, .anything levels, cs => Json.readValue levels cs
  | _, .list item, cs =>
    match dropBlank cs with
    | '[' :: rest => readList (fun cs => item.read cs) rest
    | cs => .error (readMismatch "a sequence" cs)
  | _, .nullable inner, cs =>
    match dropBlank cs with
    | 'n' :: rest => do pure (none, ← word ['u', 'l', 'l'] rest)
    | cs => do
      let (value, rest) ← inner.read cs
      pure (some value, rest)
  | _, .record name fields make, cs =>
    match dropBlank cs with
    | '[' :: rest => do
      let (values, rest) ← fields.readInOrder (Shape.recordSize name fields.count) 0 rest
      pure (make values, ← closeList rest)
    | '\x7b' :: rest => do
      let (sofar, rest) ← readObject fields.accept
        (fun sofar key cs => fields.readMember sofar key cs) fields.unread rest
      pure (make (← fields.complete sofar), rest)
    | cs => .error (readMismatch (Shape.recordName name) cs)

def Fields.readMember : {δ α : Type} → Fields δ α → δ → String → List Char →
    Except ReadError (δ × List Char)
  | _, _, .done, _, _, cs => do pure ((), ← skipValue cs)
  | _, _, .field key _ shape rest, (value, others), k, cs =>
    if key = k then do
      let (value, cs) ← shape.read cs
      pure ((some value, others), cs)
    else do
      let (others, cs) ← rest.readMember others k cs
      pure ((value, others), cs)

def Fields.readInOrder : {δ α : Type} → Fields δ α → String → Nat → List Char →
    Except ReadError (α × List Char)
  | _, _, .done, _, _, cs => .ok ((), cs)
  | _, _, .field _ presence shape rest, record, index, cs => do
    match ← nextItem (index == 0) cs with
    | some cs =>
      let (value, cs) ← shape.read cs
      let (others, cs) ← rest.readInOrder record (index + 1) cs
      pure ((value, others), cs)
    | none =>
      let value ← orDefaultAt index record presence
      let (others, cs) ← rest.readInOrder record (index + 1) cs
      pure ((value, others), cs)

end

def Shape.ofText {α : Type} (shape : Shape α) (s : String) : Except ReadError α :=
  readDocument shape.read s

end ApiReference
