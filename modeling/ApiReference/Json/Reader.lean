import ApiReference.Distinct
import ApiReference.Json.Skip

/-! Reading lists, objects and whole data trees. The readers of lists and objects are given the
reader of what is inside them. Each round takes at least one character, so the number of characters
ahead bounds the number of rounds. -/

namespace ApiReference

open Lexeme

def nextItem (first : Bool) (cs : List Char) : Except ReadError (Option (List Char)) :=
  match dropBlank cs, first with
  | [], _ => .error .endOfList
  | ']' :: _, _ => .ok none
  | c :: rest, true => .ok (some (c :: rest))
  | ',' :: rest, false =>
    match dropBlank rest with
    | [] => .error .endOfValue
    | ']' :: _ => .error .trailingComma
    | rest => .ok (some rest)
  | _ :: _, false => .error .expectedCommaOrBracket

def nextKey (first : Bool) (cs : List Char) : Except ReadError (Option (List Char)) :=
  match dropBlank cs, first with
  | [], _ => .error .endOfObject
  | '\x7d' :: _, _ => .ok none
  | '"' :: rest, true => .ok (some rest)
  | _ :: _, true => .error .keyNotText
  | ',' :: rest, false =>
    match dropBlank rest with
    | [] => .error .endOfValue
    | '"' :: rest => .ok (some rest)
    | '\x7d' :: _ => .error .trailingComma
    | _ :: _ => .error .keyNotText
  | _ :: _, false => .error .expectedCommaOrBrace

def behindEnd (cs : List Char) : List Char := (dropBlank cs).drop 1

def readItems {α : Type} (item : List Char → Except ReadError (α × List Char)) :
    Nat → Bool → List Char → Except ReadError (List α × List Char)
  | 0, _, _ => .error .endOfList
  | rounds + 1, first, cs => do
    match ← nextItem first cs with
    | none => pure ([], behindEnd cs)
    | some cs =>
      let (a, cs) ← item cs
      let (as, cs) ← readItems item rounds false cs
      pure (a :: as, cs)

def readList {α : Type} (item : List Char → Except ReadError (α × List Char)) (cs : List Char) :
    Except ReadError (List α × List Char) :=
  readItems item (cs.length + 1) true cs

def readMembers {δ : Type} (accept : δ → String → Except ReadError Unit)
    (member : δ → String → List Char → Except ReadError (δ × List Char)) :
    Nat → Bool → δ → List Char → Except ReadError (δ × List Char)
  | 0, _, _, _ => .error .endOfObject
  | rounds + 1, first, sofar, cs => do
    match ← nextKey first cs with
    | none => pure (sofar, behindEnd cs)
    | some cs =>
      let (key, cs) ← Lexeme.text cs
      accept sofar key
      let cs ← Lexeme.colon cs
      let (sofar, cs) ← member sofar key cs
      readMembers accept member rounds false sofar cs

def readObject {δ : Type} (accept : δ → String → Except ReadError Unit)
    (member : δ → String → List Char → Except ReadError (δ × List Char)) (start : δ)
    (cs : List Char) : Except ReadError (δ × List Char) :=
  readMembers accept member (cs.length + 1) true start cs

namespace Json

def setMember (key : String) (value : Json) : List (String × Json) → List (String × Json)
  | [] => [(key, value)]
  | (k, v) :: rest =>
    if key < k then (key, value) :: (k, v) :: rest
    else if key = k then (key, value) :: rest
    else (k, v) :: setMember key value rest

def readValue : Nat → List Char → Except ReadError (Json × List Char)
  | levels, cs =>
    match dropBlank cs with
    | [] => .error .endOfValue
    | 'n' :: rest => do pure (.null, ← word ['u', 'l', 'l'] rest)
    | 't' :: rest => do pure (.bool true, ← word ['r', 'u', 'e'] rest)
    | 'f' :: rest => do pure (.bool false, ← word ['a', 'l', 's', 'e'] rest)
    | '"' :: rest => do
      let (s, rest) ← Lexeme.text rest
      pure (.text s, rest)
    | '[' :: rest =>
      match levels with
      | 0 => .error .tooDeep
      | levels + 1 => do
        let (items, rest) ← readList (readValue levels) rest
        pure (.list items, rest)
    | '\x7b' :: rest =>
      match levels with
      | 0 => .error .tooDeep
      | levels + 1 => do
        let (members, rest) ← readObject (fun _ _ => .ok ())
          (fun members key cs => do
            let (value, cs) ← readValue levels cs
            pure (setMember key value members, cs)) [] rest
        pure (.object members, rest)
    | c :: rest =>
      if c = '-' || isDigit c then do
        let (n, rest) ← Lexeme.number (c :: rest)
        pure (.number n, rest)
      else .error .expectedValue

end Json

def readDocument {α : Type} (reader : List Char → Except ReadError (α × List Char)) (s : String) :
    Except ReadError α := do
  let (value, rest) ← reader s.toList
  match dropBlank rest with
  | [] => pure value
  | _ :: _ => throw .trailingCharacters

end ApiReference
