import ApiReference.Failure
import ApiReference.Json.ShapeReader
import ApiReference.Symbol.Graph

/-! Symbol graph documents. -/

namespace ApiReference

def namedText (record key : String) : Shape String :=
  .record record (.field key .required .text .done) fun (s, ()) => s

def optionalText (record key : String) : Shape String :=
  .record record (.field key (.optional "") .text .done) fun (s, ()) => s

def DocComment.shape : Shape DocComment :=
  .record "DocCommentRecord"
    (.field "lines" (.optional []) (.list (optionalText "DocLineRecord" "text")) .done)
    fun (lines, ()) => ⟨lines⟩

def locationOf (uri : Option String) : Option String := uri.filter (· != "")

def Symbol.shape : Shape Symbol :=
  .record "SymbolRecord"
    (.field "identifier" .required (namedText "IdentifierRecord" "precise") <|
     .field "kind" .required (namedText "KindRecord" "displayName") <|
     .field "names" .required (namedText "NamesRecord" "title") <|
     .field "declarationFragments" (.optional [])
       (.list (optionalText "FragmentRecord" "spelling")) <|
     .field "docComment" (.optional none) (.nullable DocComment.shape) <|
     .field "location" (.optional none) (.nullable (optionalText "LocationRecord" "uri")) .done)
    fun (id, kind, title, fragments, doc, uri, ()) =>
      { id, kind := Kind.ofDisplayName kind, title, fragments, doc, location := locationOf uri }

def Relationship.shape : Shape Relationship :=
  .record "RelationshipRecord"
    (.field "source" .required .text <|
     .field "target" .required .text <|
     .field "kind" .required .text .done)
    fun (source, target, kind, ()) => { source, target, kind := RelationKind.ofName kind }

namespace SymbolGraph

def shape : Shape SymbolGraph :=
  .record "GraphRecord"
    (.field "symbols" .required (.list Symbol.shape) <|
     .field "relationships" (.optional []) (.list Relationship.shape) .done)
    fun (symbols, relationships, ()) => { symbols, relationships }

def ofText (path text : String) : Except Failure SymbolGraph :=
  match shape.ofText text with
  | .ok graph => .ok graph
  | .error e => .error (.malformedGraph path e.message)

end SymbolGraph

end ApiReference
