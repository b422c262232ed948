import ApiReference.Distinct
import ApiReference.Text.Blank

/-! Umbrella headers: files whose lines of the form `#import <Namespace/Header.h>` name internal
headers. -/

namespace ApiReference.UmbrellaHeader

def after? (start : List Char) (cs : List Char) : Option (List Char) :=
  if start.isPrefixOf cs then some (cs.drop start.length) else none

/-- The longest `h` such that the text begins with `h` and a `>`, where `h` ends in `.h` and has
something before that. `stem` is what was read already, last character first. -/
def longestHeader (stem : List Char) : List Char → Option (List Char)
  | [] => none
  | c :: cs =>
    match longestHeader (c :: stem) cs with
    | some h => some h
    | none =>
      if !stem.isEmpty && ['.', 'h', '>'].isPrefixOf (c :: cs) then
        some (stem.reverse ++ ['.', 'h'])
      else none

def lineHeader (ns : List Char) (line : List Char) : Option (List Char) := do
  let rest ← after? "#import".toList (Text.trimChars line)
  let body := rest.dropWhile Text.isBlank
  if body.length = rest.length then none
  else longestHeader [] (← after? (['<'] ++ ns ++ ['/']) body)

def headers (text ns : String) : List String :=
  sortTexts <| distinct <|
    (Text.linesOf text.toList).filterMap fun line =>
      (lineHeader ns.toList line).map String.ofList

end ApiReference.UmbrellaHeader
