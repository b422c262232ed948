import ApiReference.Symbol.Kind

/-! Symbols: documented declarations, named by an id that every graph shares. -/

namespace ApiReference

structure DocComment where
  lines : List String
  deriving DecidableEq, Repr

def DocComment.text (doc : DocComment) : String :=
  Text.trim (String.intercalate "\n" doc.lines)

structure Symbol where
  id : String
  kind : Kind
  title : String
  fragments : List String
  doc : Option DocComment
  location : Option String
  deriving DecidableEq, Repr

namespace Symbol

def declaration (s : Symbol) : String := String.join s.fragments

def docText (s : Symbol) : String := (s.doc.map DocComment.text).getD ""

def hasDocComment (s : Symbol) : Bool :=
  match s.doc with
  | some doc => !doc.lines.isEmpty
  | none => false

def fileName (s : Symbol) : Option String :=
  s.location.map fun uri => (Text.split '/' uri).getLastD uri

end Symbol

end ApiReference
