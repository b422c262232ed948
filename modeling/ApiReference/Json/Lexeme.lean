import ApiReference.Json.ReadError

/-! The smallest parts of a document: blanks, words, texts and numbers. Each reader takes the text
that lies ahead and returns what remains of it. -/

namespace ApiReference.Lexeme

def isBlank (c : Char) : Bool := c == ' ' || c == '\t' || c == '\n' || c == '\r'

def dropBlank (cs : List Char) : List Char := cs.dropWhile isBlank

def word : List Char → List Char → Except ReadError (List Char)
  | [], cs => .ok cs
  | _ :: _, [] => .error .endOfValue
  | w :: ws, c :: cs => if c = w then word ws cs else .error .expectedWord

def colon (cs : List Char) : Except ReadError (List Char) :=
  match dropBlank cs with
  | [] => .error .endOfObject
  | ':' :: rest => .ok rest
  | _ :: _ => .error .expectedColon

/-! ### Texts -/

def hexValue (c : Char) : Option Nat :=
  if '0' ≤ c && c ≤ '9' then some (c.toNat - 48)
  else if 'a' ≤ c && c ≤ 'f' then some (c.toNat - 87)
  else if 'A' ≤ c && c ≤ 'F' then some (c.toNat - 55)
  else none

def hexUnit (a b c d : Char) : Option Nat := do
  let a ← hexValue a
  let b ← hexValue b
  let c ← hexValue c
  let d ← hexValue d
  pure (((a * 16 + b) * 16 + c) * 16 + d)

def isHighUnit (u : Nat) : Bool := 0xD800 ≤ u && u ≤ 0xDBFF

def isLowUnit (u : Nat) : Bool := 0xDC00 ≤ u && u ≤ 0xDFFF

def joinUnits (high low : Nat) : Char :=
  Char.ofNat (0x10000 + (high - 0xD800) * 0x400 + (low - 0xDC00))

def escaped (c : Char) : Option Char :=
  match c with
  | '"' => some '"'
  | '\\' => some '\\'
  | '/' => some '/'
  | 'b' => some '\x08'
  | 'f' => some '\x0c'
  | 'n' => some '\n'
  | 'r' => some '\r'
  | 't' => some '\t'
  | _ => none

def utf8Size (cs : List Char) : Nat := cs.foldl (fun n c => n + c.utf8Size) 0

/-- The error of a hexadecimal escape with too few characters ahead: it asks for four bytes before it
looks at them. -/
def shortHex (cs : List Char) : ReadError :=
  if utf8Size cs < 4 then .endOfText else .invalidEscape

def isControl (c : Char) : Bool := c.toNat < 32

def pushChar (c : Char) :
    Except ReadError (List Char × List Char) → Except ReadError (List Char × List Char)
  | .ok (cs, rest) => .ok (c :: cs, rest)
  | .error e => .error e

def textBody : List Char → Except ReadError (List Char × List Char)
  | [] => .error .endOfText
  | '"' :: rest => .ok ([], rest)
  | '\\' :: [] => .error .endOfText
  | '\\' :: 'u' :: a :: b :: c :: d :: rest =>
    match hexUnit a b c d with
    | none => .error .invalidEscape
    | some unit =>
      if isLowUnit unit then .error .loneSurrogate
      else if isHighUnit unit then
        match rest with
        | [] => .error .endOfText
        | '\\' :: [] => .error .endOfText
        | '\\' :: 'u' :: a :: b :: c :: d :: rest =>
          match hexUnit a b c d with
          | none => .error .invalidEscape
          | some low =>
            if isLowUnit low then pushChar (joinUnits unit low) (textBody rest)
            else .error .loneSurrogate
        | '\\' :: 'u' :: rest => .error (shortHex rest)
        | _ => .error .unfinishedPair
      else pushChar (Char.ofNat unit) (textBody rest)
  | '\\' :: 'u' :: rest => .error (shortHex rest)
  | '\\' :: c :: rest =>
    match escaped c with
    | some e => pushChar e (textBody rest)
    | none => .error .invalidEscape
  | c :: rest => if isControl c then .error .controlCharacter else pushChar c (textBody rest)

def text (cs : List Char) : Except ReadError (String × List Char) :=
  match textBody cs with
  | .ok (s, rest) => .ok (String.ofList s, rest)
  | .error e => .error e

/-! ### Numbers -/

def isDigit (c : Char) : Bool := '0' ≤ c && c ≤ '9'

def digitValue (c : Char) : Nat := c.toNat - 48

structure Numeral where
  negative : Bool
  whole : List Char
  fraction : Option (List Char)
  power : Option (Bool × List Char)
  deriving DecidableEq, Repr

def digits (cs : List Char) : Except ReadError (List Char × List Char) :=
  match cs with
  | [] => .error .endOfValue
  | c :: _ =>
    if isDigit c then .ok (cs.takeWhile isDigit, cs.dropWhile isDigit)
    else .error .invalidNumber

def wholeDigits (cs : List Char) : Except ReadError (List Char × List Char) := do
  let (ds, rest) ← digits cs
  match ds with
  | '0' :: _ :: _ => .error .invalidNumber
  | _ => pure (ds, rest)

def fractionDigits (cs : List Char) : Except ReadError (Option (List Char) × List Char) :=
  match cs with
  | '.' :: rest => do
    let (ds, rest) ← digits rest
    pure (some ds, rest)
  | _ => .ok (none, cs)

def powerDigits (cs : List Char) : Except ReadError (Option (Bool × List Char) × List Char) :=
  match cs with
  | c :: rest =>
    if c = 'e' || c = 'E' then do
      let (negative, rest) := match rest with
        | '-' :: more => (true, more)
        | '+' :: more => (false, more)
        | _ => (false, rest)
      let (ds, rest) ← digits rest
      pure (some (negative, ds), rest)
    else .ok (none, cs)
  | [] => .ok (none, [])

def numeral (cs : List Char) : Except ReadError (Numeral × List Char) := do
  let (negative, cs) := match cs with
    | '-' :: rest => (true, rest)
    | _ => (false, cs)
  let (whole, cs) ← wholeDigits cs
  let (fraction, cs) ← fractionDigits cs
  let (power, cs) ← powerDigits cs
  pure ({ negative, whole, fraction, power }, cs)

def wordLimit : Nat := Nat.pow 2 64

/-- Takes digits as long as the number fits a word of 64 bits. The digits from the first one that
does not are counted only. -/
def takeDigits (start : Nat) (ds : List Char) : Nat × Nat :=
  ds.foldl (fun (n, left) d =>
    if left = 0 && n * 10 + digitValue d < wordLimit then (n * 10 + digitValue d, 0)
    else (n, left + 1)) (start, 0)

def powerOfTen (n : Nat) : Binary64 := Binary64.ofNat (Nat.pow 10 n)

def shrink : Nat → Binary64 → Nat → Binary64
  | 0, x, _ => x
  | steps + 1, x, places =>
    if places ≤ 308 then x.div (powerOfTen places)
    else if x.isZero then x
    else shrink steps (x.div (powerOfTen 308)) (places - 308)

def scaled (digits : Nat) (exponent : Int) : Except ReadError Binary64 :=
  let x := Binary64.ofNat digits
  if exponent < 0 then .ok (shrink 4 x exponent.natAbs)
  else if exponent > 308 then (if x.isZero then .ok x else .error .numberOutOfRange)
  else
    match x.mul (powerOfTen exponent.toNat) with
    | .infinite _ => .error .numberOutOfRange
    | y => .ok y

def powerLimit : Nat := Nat.pow 2 31

def signed (negative : Bool) (x : Binary64) : Binary64 := if negative then x.neg else x

def Numeral.value (n : Numeral) : Except ReadError Number := do
  let (head, dropped) := takeDigits 0 n.whole
  match n.fraction, n.power with
  | none, none =>
    if dropped > 0 then pure (.real (signed n.negative (← scaled head dropped)))
    else if n.negative then
      if head = 0 || head > Nat.pow 2 63 then pure (.real (Binary64.ofNat head).neg)
      else pure (.integer (-(head : Int)))
    else pure (.integer head)
  | fraction, power =>
    let places := fraction.getD []
    let (digits, left) := takeDigits head places
    let exponent : Int := dropped - ((places.length - left : Nat) : Int)
    match power with
    | none => pure (.real (signed n.negative (← scaled digits exponent)))
    | some (down, ds) =>
      let p := ds.foldl (fun p d => p * 10 + digitValue d) 0
      if p < powerLimit then
        let exponent := if down then exponent - p else exponent + p
        pure (.real (signed n.negative (← scaled digits exponent)))
      else if digits ≠ 0 && !down then throw .numberOutOfRange
      else pure (.real (signed n.negative (Binary64.ofNat 0)))

def number (cs : List Char) : Except ReadError (Number × List Char) := do
  let (n, rest) ← numeral cs
  pure (← n.value, rest)

end ApiReference.Lexeme
