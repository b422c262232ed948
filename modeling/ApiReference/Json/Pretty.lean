import ApiReference.Json.Basic
import ApiReference.Text.Quoted

/-! Data trees as indented text. -/

namespace ApiReference.Json

def escapeChar (c : Char) : List Char :=
  if c = '"' then ['\\', '"']
  else if c = '\\' then ['\\', '\\']
  else if c = '\x08' then ['\\', 'b']
  else if c = '\x0c' then ['\\', 'f']
  else if c = '\n' then ['\\', 'n']
  else if c = '\r' then ['\\', 'r']
  else if c = '\t' then ['\\', 't']
  else if c.toNat < 32 then
    ['\\', 'u', '0', '0', Nat.digitChar (c.toNat / 16), Nat.digitChar (c.toNat % 16)]
  else [c]

def textChars (s : String) : List Char := ['"'] ++ s.toList.flatMap escapeChar ++ ['"']

def newLine (depth : Nat) : List Char := '\n' :: List.replicate (2 * depth) ' '

mutual

def prettyChars (depth : Nat) : Json → List Char
  | .null => ['n', 'u', 'l', 'l']
  | .bool true => ['t', 'r', 'u', 'e']
  | .bool false => ['f', 'a', 'l', 's', 'e']
  | .number n => n.text.toList
  | .text s => textChars s
  | .list [] => ['[', ']']
  | .list (item :: items) =>
    ['['] ++ newLine (depth + 1) ++ prettyChars (depth + 1) item ++
      prettyItems (depth + 1) items ++ newLine depth ++ [']']
  | .object [] => ['\x7b', '\x7d']
  | .object ((key, value) :: members) =>
    ['\x7b'] ++ newLine (depth + 1) ++ textChars key ++ [':', ' '] ++
      prettyChars (depth + 1) value ++ prettyMembers (depth + 1) members ++ newLine depth ++
      ['\x7d']

def prettyItems (depth : Nat) : List Json → List Char
  | [] => []
  | item :: items => [','] ++ newLine depth ++ prettyChars depth item ++ prettyItems depth items

def prettyMembers (depth : Nat) : List (String × Json) → List Char
  | [] => []
  | (key, value) :: members =>
    [','] ++ newLine depth ++ textChars key ++ [':', ' '] ++ prettyChars depth value ++
      prettyMembers depth members

end

def pretty (value : Json) : String := String.ofList (prettyChars 0 value)

end ApiReference.Json
