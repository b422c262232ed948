import ApiReference.Json.Lexeme
import ApiReference.Settings.Value
import ApiReference.Toml.Written

/-! The smallest parts of a settings file: blanks, comments, keys, texts, numbers and moments. Each
reader takes the text that lies ahead and returns what remains, or nothing if it does not fit. -/

namespace ApiReference.Toml

open Lexeme (hexValue isDigit digitValue)

def isBlank (c : Char) : Bool := c == ' ' || c == '\t'

def dropBlank (cs : List Char) : List Char := cs.dropWhile isBlank

def newLine? : List Char → Option (List Char)
  | '\n' :: rest => some rest
  | '\r' :: '\n' :: rest => some rest
  | _ => none

def isCommentChar (c : Char) : Bool := c == '\t' || (32 ≤ c.toNat && c.toNat != 127)

def dropComment : List Char → List Char
  | '#' :: rest => rest.dropWhile isCommentChar
  | cs => cs

def endLine (cs : List Char) : Option (List Char) :=
  match dropComment (dropBlank cs) with
  | [] => some []
  | cs => newLine? cs

def dropSpace : Nat → List Char → List Char
  | 0, cs => cs
  | rounds + 1, cs =>
    match dropBlank cs with
    | '#' :: rest => dropSpace rounds (rest.dropWhile isCommentChar)
    | cs =>
      match newLine? cs with
      | some rest => dropSpace rounds rest
      | none => cs

/-! ### Texts -/

def charOf (n : Nat) : Option Char := if n.isValidChar then some (Char.ofNat n) else none

def hexNumber (ds : List Char) : Option Nat :=
  ds.foldlM (fun n d => (hexValue d).map (n * 16 + ·)) 0

def escaped (c : Char) : Option Char :=
  match c with
  | 'b' => some '\x08'
  | 't' => some '\t'
  | 'n' => some '\n'
  | 'f' => some '\x0c'
  | 'r' => some '\r'
  | '"' => some '"'
  | '\\' => some '\\'
  | _ => none

def isTextChar (c : Char) : Bool := isCommentChar c

def push (c : Option Char) (body : Option (List Char × List Char)) :
    Option (List Char × List Char) := do
  let c ← c
  let (cs, rest) ← body
  pure (c :: cs, rest)

def basicBody : List Char → Option (List Char × List Char)
  | [] => none
  | '"' :: rest => some ([], rest)
  | '\\' :: 'u' :: a :: b :: c :: d :: rest =>
    push (hexNumber [a, b, c, d] >>= charOf) (basicBody rest)
  | '\\' :: 'U' :: a :: b :: c :: d :: e :: f :: g :: h :: rest =>
    push (hexNumber [a, b, c, d, e, f, g, h] >>= charOf) (basicBody rest)
  | '\\' :: c :: rest => push (escaped c) (basicBody rest)
  | c :: rest => if isTextChar c && c != '\\' then push (some c) (basicBody rest) else none

def endsLine (cs : List Char) : Bool := (newLine? (dropBlank cs)).isSome

/-- A text over several lines, behind its opening quotes. While `trimming`, blanks and line breaks
are left out: they follow a backslash at the end of a line. -/
def basicLines : Bool → List Char → Option (List Char × List Char)
  | _, [] => none
  | trimming, '\n' :: rest =>
    if trimming then basicLines true rest else push (some '\n') (basicLines false rest)
  | trimming, '\r' :: '\n' :: rest =>
    if trimming then basicLines true rest else push (some '\n') (basicLines false rest)
  | _, '"' :: '"' :: '"' :: '"' :: '"' :: rest => some (['"', '"'], rest)
  | _, '"' :: '"' :: '"' :: '"' :: rest => some (['"'], rest)
  | _, '"' :: '"' :: '"' :: rest => some ([], rest)
  | _, '\\' :: 'u' :: a :: b :: c :: d :: rest =>
    push (hexNumber [a, b, c, d] >>= charOf) (basicLines false rest)
  | _, '\\' :: 'U' :: a :: b :: c :: d :: e :: f :: g :: h :: rest =>
    push (hexNumber [a, b, c, d, e, f, g, h] >>= charOf) (basicLines false rest)
  | _, '\\' :: c :: rest =>
    if endsLine (c :: rest) then
      match c, rest with
      | '\r', '\n' :: rest => basicLines true rest
      | _, rest => basicLines true rest
    else push (escaped c) (basicLines false rest)
  | trimming, c :: rest =>
    if trimming && isBlank c then basicLines true rest
    else if isTextChar c && c != '\\' then push (some c) (basicLines false rest)
    else none

def literalBody : List Char → Option (List Char × List Char)
  | [] => none
  | '\x27' :: rest => some ([], rest)
  | c :: rest => if isTextChar c then push (some c) (literalBody rest) else none

def literalLines : List Char → Option (List Char × List Char)
  | [] => none
  | '\n' :: rest => push (some '\n') (literalLines rest)
  | '\r' :: '\n' :: rest => push (some '\n') (literalLines rest)
  | '\x27' :: '\x27' :: '\x27' :: '\x27' :: '\x27' :: rest => some (['\x27', '\x27'], rest)
  | '\x27' :: '\x27' :: '\x27' :: '\x27' :: rest => some (['\x27'], rest)
  | '\x27' :: '\x27' :: '\x27' :: rest => some ([], rest)
  | c :: rest => if isTextChar c then push (some c) (literalLines rest) else none

def dropFirstBreak (cs : List Char) : List Char := (newLine? cs).getD cs

def textValue (cs : List Char) : Option (String × List Char) := do
  let (s, rest) ← match cs with
    | '"' :: '"' :: '"' :: rest => basicLines false (dropFirstBreak rest)
    | '"' :: rest => basicBody rest
    | '\x27' :: '\x27' :: '\x27' :: rest => literalLines (dropFirstBreak rest)
    | '\x27' :: rest => literalBody rest
    | _ => none
  pure (String.ofList s, rest)

/-! ### Keys -/

def simpleKey (cs : List Char) : Option (String × List Char) := do
  match cs with
  | '"' :: rest =>
    let (s, rest) ← basicBody rest
    pure (String.ofList s, rest)
  | '\x27' :: rest =>
    let (s, rest) ← literalBody rest
    pure (String.ofList s, rest)
  | _ =>
    let name := cs.takeWhile isBareKeyChar
    if name.isEmpty then none else pure (String.ofList name, cs.dropWhile isBareKeyChar)

def dottedKey : Nat → List Char → Option (List String × List Char)
  | 0, _ => none
  | rounds + 1, cs => do
    let (key, rest) ← simpleKey (dropBlank cs)
    match dropBlank rest with
    | '.' :: rest =>
      let (keys, rest) ← dottedKey rounds rest
      pure (key :: keys, rest)
    | rest => pure ([key], rest)

def keyPath (cs : List Char) : Option (List String × List Char) := dottedKey 79 cs

/-! ### Numbers -/

def moreDigits (isDigit : Char → Bool) : List Char → Option (List Char × List Char)
  | [] => some ([], [])
  | '_' :: c :: rest => if isDigit c then push (some c) (moreDigits isDigit rest) else none
  | c :: rest =>
    if c = '_' then none
    else if isDigit c then push (some c) (moreDigits isDigit rest)
    else some ([], c :: rest)

def someDigits (isDigit : Char → Bool) (cs : List Char) : Option (List Char × List Char) :=
  match cs with
  | c :: rest => if isDigit c then push (some c) (moreDigits isDigit rest) else none
  | [] => none

def dropSign (cs : List Char) : Bool × List Char :=
  match cs with
  | '-' :: rest => (true, rest)
  | '+' :: rest => (false, rest)
  | _ => (false, cs)

def decimalDigits (cs : List Char) : Option (List Char × List Char) :=
  match cs with
  | '0' :: rest => some (['0'], rest)
  | _ => someDigits isDigit cs

def decimalNumber (ds : List Char) : Nat := ds.foldl (fun n d => n * 10 + digitValue d) 0

def isWord (n : Int) : Bool := -(Nat.pow 2 63 : Int) ≤ n && n < (Nat.pow 2 63 : Int)

def wordValue (n : Int) : Option ConfigValue :=
  if isWord n then some (.scalar (.signed n)) else none

def integer (cs : List Char) : Option (ConfigValue × List Char) := do
  let based (base : Nat) (rest : List Char) : Option (ConfigValue × List Char) := do
    let isBaseDigit (c : Char) : Bool :=
      match hexValue c with
      | some d => d < base
      | none => false
    let (ds, rest) ← someDigits isBaseDigit rest
    let n := ds.foldl (fun n d => n * base + (hexValue d).getD 0) 0
    pure (← wordValue n, rest)
  match cs with
  | '0' :: 'x' :: rest => based 16 rest
  | '0' :: 'o' :: rest => based 8 rest
  | '0' :: 'b' :: rest => based 2 rest
  | _ =>
    let (negative, rest) := dropSign cs
    let (ds, rest) ← decimalDigits rest
    let n : Int := decimalNumber ds
    pure (← wordValue (if negative then -n else n), rest)

def power (cs : List Char) : Option (Int × List Char) :=
  match cs with
  | c :: rest =>
    if c = 'e' || c = 'E' then do
      let (negative, rest) := dropSign rest
      let (ds, rest) ← someDigits isDigit rest
      let n : Int := decimalNumber ds
      pure (if negative then -n else n, rest)
    else none
  | [] => none

def decimal (cs : List Char) : Option (Binary64 × List Char) := do
  let (negative, rest) := dropSign cs
  let (whole, rest) ← decimalDigits rest
  let (fraction, exponent, rest) ← match rest with
    | '.' :: rest => do
      let (ds, rest) ← someDigits isDigit rest
      match rest with
      | 'e' :: _ | 'E' :: _ =>
        let (e, rest) ← power rest
        pure (ds, e, rest)
      | _ => pure (ds, 0, rest)
    | _ => do
      let (e, rest) ← power rest
      pure ([], e, rest)
  match Binary64.ofDecimal negative (decimalNumber (whole ++ fraction)) (exponent - fraction.length)
  with
  | .infinite false => none
  | x => pure (x, rest)

def specialNumber (cs : List Char) : Option (Binary64 × List Char) :=
  let (negative, rest) := dropSign cs
  match rest with
  | 'i' :: 'n' :: 'f' :: rest => some (.infinite negative, rest)
  | 'n' :: 'a' :: 'n' :: rest => some (.nan, rest)
  | _ => none

/-! ### Moments -/

def fixedDigits (count low high : Nat) (cs : List Char) : Option (Nat × List Char) :=
  let ds := cs.take count
  let n := decimalNumber ds
  if ds.length = count && ds.all isDigit && low ≤ n && n ≤ high then some (n, cs.drop count)
  else none

def expect (c : Char) : List Char → Option (List Char)
  | d :: rest => if d = c then some rest else none
  | [] => none

def padZeros (width n : Nat) : String :=
  let ds := Nat.toDigits 10 n
  String.ofList (List.replicate (width - ds.length) '0' ++ ds)

def isLeapYear (year : Nat) : Bool :=
  year % 4 == 0 && (year % 100 != 0 || year % 400 == 0)

def daysIn (year month : Nat) : Nat :=
  match month with
  | 2 => if isLeapYear year then 29 else 28
  | 4 | 6 | 9 | 11 => 30
  | _ => 31

def date (cs : List Char) : Option (String × List Char) := do
  let (year, cs) ← fixedDigits 4 0 9999 cs
  let cs ← expect '-' cs
  let (month, cs) ← fixedDigits 2 1 12 cs
  let cs ← expect '-' cs
  let (day, cs) ← fixedDigits 2 1 (daysIn year month) cs
  pure (padZeros 4 year ++ "-" ++ padZeros 2 month ++ "-" ++ padZeros 2 day, cs)

def secondFraction (cs : List Char) : Option (String × List Char) :=
  match cs with
  | '.' :: rest =>
    let ds := rest.takeWhile isDigit
    let kept := ((ds.take 9).reverse.dropWhile (· == '0')).reverse
    if ds.isEmpty then none
    else some (if kept.isEmpty then "" else "." ++ String.ofList kept, rest.dropWhile isDigit)
  | _ => some ("", cs)

def time (cs : List Char) : Option (String × List Char) := do
  let (hour, cs) ← fixedDigits 2 0 23 cs
  let cs ← expect ':' cs
  let (minute, cs) ← fixedDigits 2 0 59 cs
  let cs ← expect ':' cs
  let (second, cs) ← fixedDigits 2 0 60 cs
  let (fraction, cs) ← secondFraction cs
  pure (padZeros 2 hour ++ ":" ++ padZeros 2 minute ++ ":" ++ padZeros 2 second ++ fraction, cs)

def offset (cs : List Char) : Option (String × List Char) :=
  match cs with
  | 'Z' :: rest | 'z' :: rest => some ("Z", rest)
  | c :: rest =>
    if c = '+' || c = '-' then do
      let (hour, rest) ← fixedDigits 2 0 23 rest
      let rest ← expect ':' rest
      let (minute, rest) ← fixedDigits 2 0 59 rest
      let sign := if c = '-' && (hour != 0 || minute != 0) then "-" else "+"
      pure (sign ++ padZeros 2 hour ++ ":" ++ padZeros 2 minute, rest)
    else some ("", cs)
  | [] => some ("", [])

def moment (cs : List Char) : Option (String × List Char) :=
  match date cs with
  | none => time cs
  | some (day, rest) =>
    match rest with
    | c :: more =>
      if c = 'T' || c = 't' || c = ' ' then
        match time more with
        | none => some (day, rest)
        | some (hour, rest) => do
          let (shift, rest) ← offset rest
          pure (day ++ "T" ++ hour ++ shift, rest)
      else some (day, rest)
    | [] => some (day, [])

def momentKey : String := "$__toml_private_datetime"

def numeric (cs : List Char) : Option (ConfigValue × List Char) :=
  match moment cs with
  | some (s, rest) => some (.table [(momentKey, .text s)], rest)
  | none =>
    match decimal cs <|> specialNumber cs with
    | some (x, rest) => some (.scalar (.real x), rest)
    | none => integer cs

end ApiReference.Toml
