import ApiReference.Text.Quoted

/-! Writing keys, values and tables of a settings file. A text is written in the plainest of five
forms that can hold it. -/

namespace ApiReference.Toml

def needsEscape (c : Char) : Bool :=
  (c.toNat < 32 && c != '\t' && c != '\n') || c.toNat == 127

def longestRun (c : Char) (cs : List Char) : Nat :=
  (cs.foldl (fun (run, best) d =>
    let run := if d = c then run + 1 else 0
    (run, max run best)) (0, 0)).2

def upperHex (n : Nat) : Char := (Nat.digitChar n).toUpper

def escapeBasic (c : Char) : List Char :=
  match c with
  | '"' => ['\\', '"']
  | '\\' => ['\\', '\\']
  | '\x08' => ['\\', 'b']
  | '\t' => ['\\', 't']
  | '\n' => ['\\', 'n']
  | '\x0c' => ['\\', 'f']
  | '\r' => ['\\', 'r']
  | c =>
    if needsEscape c then
      ['\\', 'u', '0', '0', upperHex (c.toNat / 16), upperHex (c.toNat % 16)]
    else [c]

/-- The inside of a text between three double quotes: line feeds stand for themselves, and so do up
to two quotes in a row. `run` counts the quotes right before. -/
def escapeLines : Nat → List Char → List Char
  | _, [] => []
  | run, c :: cs =>
    if c = '"' then
      if run < 2 then '"' :: escapeLines (run + 1) cs else ['\\', '"'] ++ escapeLines 0 cs
    else if c = '\n' then '\n' :: escapeLines 0 cs
    else escapeBasic c ++ escapeLines 0 cs

inductive Form
  | basic | literal | basicLines | literalLines
  deriving DecidableEq, Repr

def formOf (cs : List Char) : Form :=
  let controls := cs.any needsEscape
  let lines := cs.contains '\n'
  if !controls && !lines && !cs.contains '\\' && !cs.contains '"' then .basic
  else if !controls && !lines && !cs.contains '\x27' then .literal
  else if !controls && !cs.contains '\\' && longestRun '"' cs ≤ 2 then .basicLines
  else if !controls && longestRun '\x27' cs ≤ 2 then .literalLines
  else if lines then .basicLines
  else .basic

def openLines (cs : List Char) : List Char := if cs.contains '\n' then ['\n'] else []

def writeText (s : String) : List Char :=
  let cs := s.toList
  match formOf cs with
  | .basic => ['"'] ++ cs.flatMap escapeBasic ++ ['"']
  | .literal => ['\x27'] ++ cs ++ ['\x27']
  | .basicLines => ['"', '"', '"'] ++ openLines cs ++ escapeLines 0 cs ++ ['"', '"', '"']
  | .literalLines => ['\x27', '\x27', '\x27'] ++ openLines cs ++ cs ++ ['\x27', '\x27', '\x27']

def isBareKeyChar (c : Char) : Bool := c.isAlphanum || c == '_' || c == '-'

def isBareKey (cs : List Char) : Bool := !cs.isEmpty && cs.all isBareKeyChar

def writeKey (s : String) : List Char :=
  let cs := s.toList
  let controls := cs.any needsEscape || cs.contains '\n'
  if isBareKey cs then cs
  else if !controls && !cs.contains '\\' && !cs.contains '"' then
    ['"'] ++ cs.flatMap escapeBasic ++ ['"']
  else if !controls && !cs.contains '\x27' then ['\x27'] ++ cs ++ ['\x27']
  else ['"'] ++ cs.flatMap escapeBasic ++ ['"']

inductive Entry
  | natural (n : Nat)
  | text (s : String)
  | texts (items : List String)
  deriving DecidableEq, Repr

def writeEntry : Entry → List Char
  | .natural n => Nat.toDigits 10 n
  | .text s => writeText s
  | .texts [] => ['[', ']']
  | .texts [s] => ['['] ++ writeText s ++ [']']
  | .texts items =>
    ['[', '\n'] ++ items.flatMap (fun s => [' ', ' ', ' ', ' '] ++ writeText s ++ [',', '\n']) ++ [']']

def writeLine : String × Entry → List Char
  | (key, entry) => writeKey key ++ [' ', '=', ' '] ++ writeEntry entry ++ ['\n']

structure Section where
  name : List String
  entries : List (String × Entry)
  deriving DecidableEq, Repr

def writeHeader : List String → List Char
  | [] => []
  | name => ['\n', '['] ++ ['.'].intercalate (name.map writeKey) ++ [']', '\n']

def Section.write (s : Section) : List Char :=
  writeHeader s.name ++ s.entries.flatMap writeLine

def writeDocument (sections : List Section) : String :=
  String.ofList (sections.flatMap Section.write)

end ApiReference.Toml
