import ApiReference.Number.Binary64

/-! The shortest decimal that reads back as a given number, and two ways to write it. -/

namespace ApiReference.Binary64

structure Decimal where
  digits : Nat
  exponent : Int
  deriving DecidableEq, Repr

def compareScaled (a : Nat) (i : Int) (n : Nat) (j : Int) : Ordering :=
  compare (a * Nat.pow 10 i.toNat * Nat.pow 2 (-j).toNat)
    (n * Nat.pow 2 j.toNat * Nat.pow 10 (-i).toNat)

/-- Whether a decimal lies among the reals whose nearest number is `m * 2 ^ e`. Below a power of two
the next number is only half as far away. -/
def readsBack (m : Nat) (e : Int) (d : Decimal) : Bool :=
  let low := if m = Nat.pow 2 52 && e > -1074 then 4 * m - 1 else 4 * m - 2
  let inclusive := m % 2 == 0
  let below := compareScaled d.digits d.exponent low (e - 2)
  let above := compareScaled d.digits d.exponent (4 * m + 2) (e - 2)
  (below == .gt || (inclusive && below == .eq)) && (above == .lt || (inclusive && above == .eq))

def magnitude (m : Nat) (e : Int) : Int :=
  let estimate := ((m.log2 : Int) + e) * 30103 / 100000
  let fits (k : Int) := compareScaled 1 k m e == .gt
  ((List.range 5).map fun (i : Nat) => estimate - 1 + (i : Int)).find? fits |>.getD (estimate + 4)

inductive Tie
  | toEven | up

def onGrid (tie : Tie) (m : Nat) (e exponent : Int) : Option Decimal :=
  let num := m * Nat.pow 2 e.toNat * Nat.pow 10 (-exponent).toNat
  let den := Nat.pow 2 (-e).toNat * Nat.pow 10 exponent.toNat
  let q := num / den
  let lower : Decimal := ⟨q, exponent⟩
  let upper : Decimal := ⟨q + 1, exponent⟩
  match readsBack m e lower, readsBack m e upper with
  | true, true =>
    match compare (2 * (num % den)) den, tie with
    | .lt, _ => some lower
    | .gt, _ => some upper
    | .eq, .up => some upper
    | .eq, .toEven => some (if q % 2 = 0 then lower else upper)
  | true, false => some lower
  | false, true => some upper
  | false, false => none

def Decimal.stripZeros : Nat → Decimal → Decimal
  | 0, d => d
  | fuel + 1, d =>
    if d.digits ≠ 0 && d.digits % 10 = 0 then stripZeros fuel ⟨d.digits / 10, d.exponent + 1⟩ else d

/-- Tries one digit, then two, and so on; seventeen always do. -/
def shortest (tie : Tie) (m : Nat) (e : Int) : Decimal :=
  let k := magnitude m e
  let found := (List.range 17).findSome? fun (n : Nat) => onGrid tie m e (k - 1 - (n : Int))
  (found.getD ⟨m * Nat.pow 2 e.toNat * Nat.pow 5 (-e).toNat, min e 0⟩).stripZeros 400

def digitChars (n : Nat) : List Char := Nat.toDigits 10 n

def positional (digits : List Char) (point : Int) (pointZero : Bool) : List Char :=
  let n : Int := digits.length
  if point ≤ 0 then ['0', '.'] ++ List.replicate (-point).toNat '0' ++ digits
  else if n ≤ point then
    digits ++ List.replicate (point - n).toNat '0' ++ (if pointZero then ['.', '0'] else [])
  else digits.take point.toNat ++ ['.'] ++ digits.drop point.toNat

def scientific (digits : List Char) (exponent : Int) : List Char :=
  let fraction := match digits.drop 1 with
    | [] => []
    | more => '.' :: more
  digits.take 1 ++ fraction ++ ['e', if exponent < 0 then '-' else '+'] ++
    digitChars exponent.natAbs

def dataText : Binary64 → String
  | nan => "null"
  | infinite _ => "null"
  | finite negative m e =>
    let magnitudeText :=
      if m = 0 then ['0', '.', '0']
      else
        let d := shortest .toEven m e
        let digits := digitChars d.digits
        let lead : Int := d.exponent + digits.length - 1
        if -5 ≤ lead && lead ≤ 15 then positional digits (lead + 1) true
        else scientific digits lead
    String.ofList ((if negative then ['-'] else []) ++ magnitudeText)

def plainText : Binary64 → String
  | nan => "NaN"
  | infinite false => "inf"
  | infinite true => "-inf"
  | finite negative m e =>
    let magnitudeText :=
      if m = 0 then ['0']
      else
        let d := shortest .up m e
        let digits := digitChars d.digits
        positional digits (d.exponent + digits.length) false
    String.ofList ((if negative then ['-'] else []) ++ magnitudeText)

end ApiReference.Binary64
