import ApiReference.Log.Record
import ApiReference.Text.Blank
import ApiReference.Text.Lowercase

/-! Which log records are shown. A filter is a list of directives separated by commas; each names a
target, a level, or both. The directive with the longest target that a record's target starts with
decides. -/

namespace ApiReference

structure LogDirective where
  target : Option String
  rank : Nat
  deriving DecidableEq, Repr

inductive DirectiveError
  | malformed
  | unknownLevel
  deriving DecidableEq, Repr

def DirectiveError.message : DirectiveError → String
  | malformed => "invalid filter directive"
  | unknownLevel =>
    "error parsing level filter: expected one of \"off\", \"error\", \"warn\", \"info\", " ++
      "\"debug\", \"trace\", or a number 0-5"

def LogDirective.applies (d : LogDirective) (target : String) : Bool :=
  match d.target with
  | some start => Text.startsWith target start
  | none => true

def LogDirective.weight (d : LogDirective) : Nat :=
  match d.target with
  | some start => start.length + 1
  | none => 0

namespace LogFilter

def rankOf (text : String) : Option Nat :=
  let digits := match text.toList with
    | '+' :: ds => ds
    | ds => ds
  if !digits.isEmpty && digits.all fun c => '0' ≤ c && c ≤ '9' then
    let n := digits.foldl (fun n d => n * 10 + (d.toNat - 48)) 0
    if n ≤ 5 then some n else none
  else
    match Text.lowercaseAscii text with
    | "off" => some 0
    | "error" => some 1
    | "warn" => some 2
    | "info" => some 3
    | "debug" => some 4
    | "trace" => some 5
    | _ => none

def startsDirective (c : Char) : Bool :=
  c.isAlphanum || c == '-' || c == ':' || c == '_' || c.toNat ≥ 128

def afterSpan (cs : List Char) : Except DirectiveError (Option LogDirective) :=
  match cs with
  | [] => .ok none
  | '=' :: [] => .ok none
  | '=' :: level => if (rankOf (String.ofList level)).isSome then .ok none else .error .unknownLevel
  | _ => .error .malformed

/-- A directive for a span shows no records, as no record is made inside of one. -/
def spanDirective (cs : List Char) : Except DirectiveError (Option LogDirective) :=
  match cs.dropWhile (· != ']') with
  | [] => .error .malformed
  | _ :: rest => afterSpan rest

/-- Reads one directive. The marks are looked for in the text without the blanks around it, but the
parts are cut from the text itself at the same places. -/
def readDirective (text : String) : Except DirectiveError (Option LogDirective) := do
  let cs := text.toList
  let trimmed := Text.trimChars cs
  match trimmed with
  | [] => throw .malformed
  | '[' :: rest => spanDirective rest
  | c :: _ =>
    if !startsDirective c then throw .malformed
    let isMark (c : Char) : Bool := c == '=' || c == '['
    let place := (trimmed.takeWhile fun c => !isMark c).length
    match trimmed.drop place with
    | [] =>
      match rankOf text with
      | some rank => pure (some ⟨none, rank⟩)
      | none => pure (some ⟨some text, 5⟩)
    | '[' :: rest => spanDirective rest
    | _ =>
      let target := String.ofList (cs.take place)
      let level := String.ofList (cs.drop (place + 1))
      if level = "" then pure (some ⟨some target, 5⟩)
      else
        match rankOf level with
        | some rank => pure (some ⟨some target, rank⟩)
        | none => throw .unknownLevel

def ofText (text : String) : List LogDirective × List String :=
  let parts := (Text.split ',' text).filter (· != "")
  (parts.filterMap fun part =>
    match readDirective part with
    | .ok directive => directive
    | .error _ => none,
   parts.filterMap fun part =>
    match readDirective part with
    | .ok _ => none
    | .error e => some ("ignoring `" ++ part ++ "`: " ++ e.message))

def deciding (directives : List LogDirective) (target : String) : Option LogDirective :=
  directives.foldl (fun best d =>
    if !d.applies target then best
    else
      match best with
      | none => some d
      | some b => if b.weight ≤ d.weight then some d else best) none

def shows (directives : List LogDirective) (r : LogRecord) : Bool :=
  match deciding directives r.target with
  | some d => r.level.rank ≤ d.rank
  | none => directives.isEmpty && r.level.rank ≤ LogLevel.error.rank

end LogFilter

end ApiReference
