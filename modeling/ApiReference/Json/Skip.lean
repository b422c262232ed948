import ApiReference.Json.Lexeme

/-! Passing over a value of any form and depth. An automaton reads one character at a time and keeps
the lists and objects that are still open. Texts need not denote characters and numbers may be of
any size, as nothing is kept. -/

namespace ApiReference.Skip

open Lexeme

inductive Enclosing
  | list | object
  deriving DecidableEq, Repr

inductive Mode
  | value
  | word (left : List Char)
  | minus | zero | whole | point | fraction | mark | sign | power
  | text (isKey : Bool)
  | escape (isKey : Bool)
  | hex (isKey : Bool) (read : List Char)
  | opened
  | key
  | colon
  | after
  deriving DecidableEq, Repr

inductive Step
  | next (mode : Mode) (stack : List Enclosing)
  | stopAfter
  | stopBefore
  deriving DecidableEq, Repr

def close : List Enclosing → Step
  | [] => .stopAfter
  | stack => .next .after stack

def valueStep (stack : List Enclosing) (c : Char) : Except ReadError Step :=
  if isBlank c then .ok (.next .value stack)
  else if c = 'n' then .ok (.next (.word ['u', 'l', 'l']) stack)
  else if c = 't' then .ok (.next (.word ['r', 'u', 'e']) stack)
  else if c = 'f' then .ok (.next (.word ['a', 'l', 's', 'e']) stack)
  else if c = '-' then .ok (.next .minus stack)
  else if c = '0' then .ok (.next .zero stack)
  else if isDigit c then .ok (.next .whole stack)
  else if c = '"' then .ok (.next (.text false) stack)
  else if c = '[' then .ok (.next .opened (.list :: stack))
  else if c = '\x7b' then .ok (.next .opened (.object :: stack))
  else .error .expectedValue

def keyStep (stack : List Enclosing) (c : Char) : Except ReadError Step :=
  if isBlank c then .ok (.next .key stack)
  else if c = '"' then .ok (.next (.text true) stack)
  else .error .keyNotText

def afterStep (c : Char) : List Enclosing → Except ReadError Step
  | [] => .ok .stopBefore
  | .list :: stack =>
    if isBlank c then .ok (.next .after (.list :: stack))
    else if c = ',' then .ok (.next .value (.list :: stack))
    else if c = ']' then .ok (close stack)
    else .error .expectedCommaOrBracket
  | .object :: stack =>
    if isBlank c then .ok (.next .after (.object :: stack))
    else if c = ',' then .ok (.next .key (.object :: stack))
    else if c = '\x7d' then .ok (close stack)
    else .error .expectedCommaOrBrace

def openedStep (c : Char) : List Enclosing → Except ReadError Step
  | [] => valueStep [] c
  | .list :: stack =>
    if isBlank c then .ok (.next .opened (.list :: stack))
    else if c = ']' then .ok (close stack)
    else valueStep (.list :: stack) c
  | .object :: stack =>
    if isBlank c then .ok (.next .opened (.object :: stack))
    else if c = '\x7d' then .ok (close stack)
    else keyStep (.object :: stack) c

def needDigit (mode : Mode) (stack : List Enclosing) (c : Char) : Except ReadError Step :=
  if isDigit c then .ok (.next mode stack) else .error .invalidNumber

def isPowerMark (c : Char) : Bool := c == 'e' || c == 'E'

def textStep (isKey : Bool) (stack : List Enclosing) (c : Char) : Except ReadError Step :=
  if c = '"' then .ok (if isKey then .next .colon stack else close stack)
  else if c = '\\' then .ok (.next (.escape isKey) stack)
  else if isControl c then .error .controlCharacter
  else .ok (.next (.text isKey) stack)

def hexStep (isKey : Bool) (read : List Char) (stack : List Enclosing) (c : Char) :
    Except ReadError Step :=
  let read := read ++ [c]
  if utf8Size read < 4 then .ok (.next (.hex isKey read) stack)
  else if read.all fun d => (hexValue d).isSome then .ok (.next (.text isKey) stack)
  else .error .invalidEscape

def step (mode : Mode) (stack : List Enclosing) (c : Char) : Except ReadError Step :=
  match mode with
  | .value => valueStep stack c
  | .word [] => afterStep c stack
  | .word [w] => if c = w then .ok (close stack) else .error .expectedWord
  | .word (w :: ws) => if c = w then .ok (.next (.word ws) stack) else .error .expectedWord
  | .minus => if c = '0' then .ok (.next .zero stack) else needDigit .whole stack c
  | .zero =>
    if isDigit c then .error .invalidNumber
    else if c = '.' then .ok (.next .point stack)
    else if isPowerMark c then .ok (.next .mark stack)
    else afterStep c stack
  | .whole =>
    if isDigit c then .ok (.next .whole stack)
    else if c = '.' then .ok (.next .point stack)
    else if isPowerMark c then .ok (.next .mark stack)
    else afterStep c stack
  | .point => needDigit .fraction stack c
  | .fraction =>
    if isDigit c then .ok (.next .fraction stack)
    else if isPowerMark c then .ok (.next .mark stack)
    else afterStep c stack
  | .mark =>
    if c = '+' || c = '-' then .ok (.next .sign stack) else needDigit .power stack c
  | .sign => needDigit .power stack c
  | .power => if isDigit c then .ok (.next .power stack) else afterStep c stack
  | .text isKey => textStep isKey stack c
  | .escape isKey =>
    if c = 'u' then .ok (.next (.hex isKey []) stack)
    else if (escaped c).isSome then .ok (.next (.text isKey) stack)
    else .error .invalidEscape
  | .hex isKey read => hexStep isKey read stack c
  | .opened => openedStep c stack
  | .key => keyStep stack c
  | .colon =>
    if isBlank c then .ok (.next .colon stack)
    else if c = ':' then .ok (.next .value stack)
    else .error .expectedColon
  | .after => afterStep c stack

def endInside : List Enclosing → Except ReadError Unit
  | [] => .ok ()
  | .list :: _ => .error .endOfList
  | .object :: _ => .error .endOfObject

def atEnd (mode : Mode) (stack : List Enclosing) : Except ReadError Unit :=
  match mode with
  | .value => .error .endOfValue
  | .word [] => endInside stack
  | .word _ => .error .endOfValue
  | .minus | .point | .mark | .sign => .error .invalidNumber
  | .zero | .whole | .fraction | .power | .opened | .after => endInside stack
  | .text _ | .escape _ | .hex _ _ => .error .endOfText
  | .key | .colon => .error .endOfObject

def run (mode : Mode) (stack : List Enclosing) : List Char → Except ReadError (List Char)
  | [] => (atEnd mode stack).map fun _ => []
  | c :: cs =>
    match step mode stack c with
    | .error e => .error e
    | .ok .stopAfter => .ok cs
    | .ok .stopBefore => .ok (c :: cs)
    | .ok (.next mode stack) => run mode stack cs

end ApiReference.Skip

namespace ApiReference

def skipValue (cs : List Char) : Except ReadError (List Char) := Skip.run .value [] cs

end ApiReference
