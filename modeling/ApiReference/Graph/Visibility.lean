import ApiReference.Distinct
import ApiReference.Symbol.Table

/-! Which symbols are hidden: declarations of internal headers are excluded, and declarations whose
documentation begins with a marker are opted out. -/

namespace ApiReference

def excludedIds (secondary : List Symbol) (headers : List String) (table : SymbolTable) :
    List String :=
  distinct <| (secondary.filter fun s =>
    (match s.fileName with
      | some name => headers.contains name
      | none => false) && table.contains s.id).map (·.id)

def isOptedOut (docText marker : String) : Bool :=
  marker != "" && Text.startsWith (Text.trim docText) marker

/-- Opt-outs of the secondary graph, where the lines of a comment are joined by spaces. -/
def secondaryOptOuts (secondary : List Symbol) (marker : String) : List String :=
  distinct <| (secondary.filter fun s =>
    match s.doc with
    | some doc => isOptedOut (String.intercalate " " doc.lines) marker
    | none => false).map (·.id)

def primaryOptOuts (table : SymbolTable) (marker : String) : List String :=
  (table.symbols.filter fun s => isOptedOut s.docText marker).map (·.id)

end ApiReference
