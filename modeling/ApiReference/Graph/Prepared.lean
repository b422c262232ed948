import ApiReference.Graph.Backfill
import ApiReference.Graph.Members
import ApiReference.Graph.Visibility
import ApiReference.Symbol.Graph

/-! The graphs of a run after documentation was backfilled, internal symbols were left out and the
relationships were indexed. -/

namespace ApiReference

structure PreparedGraph where
  table : SymbolTable
  index : RelationIndex
  optedOut : List String
  excluded : List String
  merged : Nat

namespace PreparedGraph

def prepare (loaded : LoadedGraphs) (headers : List String) (marker : String) : PreparedGraph :=
  let complete := SymbolTable.ofList (backfillAll loaded.symbols loaded.secondary)
  let excluded := excludedIds loaded.secondary headers complete
  let table := complete.without excluded
  let optedOut :=
    distinct (secondaryOptOuts loaded.secondary marker ++ primaryOptOuts table marker)
  { table, excluded, optedOut,
    index := RelationIndex.build loaded.relationships (optedOut ++ excluded),
    merged := backfillCount loaded.symbols loaded.secondary }

def hierarchy (p : PreparedGraph) : Hierarchy := ⟨p.table, p.index⟩

def find? (p : PreparedGraph) (query : String) : Option Symbol :=
  match p.table.find? query with
  | some s => some s
  | none => p.table.symbols.find? (·.title == query)

def membersOf (p : PreparedGraph) (id : String) : List Member := p.hierarchy.membersOf id

end PreparedGraph

structure MemberRow where
  id : String
  title : String
  kind : String
  declaration : String
  inherited : Bool
  source : Option String
  deriving DecidableEq, Repr

namespace PreparedGraph

def memberRow? (p : PreparedGraph) (member : Member) : Option MemberRow :=
  (p.table.find? member.id).map fun s =>
    { id := member.id, title := s.title, kind := s.kind.displayName, declaration := s.declaration,
      inherited := member.inherited,
      source :=
        if member.inherited then (p.table.find? member.declaredIn).map (·.title) else none }

def memberRows (p : PreparedGraph) (query : String) : Option (String × List MemberRow) :=
  (p.find? query).map fun owner =>
    (owner.title ++ " (" ++ owner.kind.displayName ++ ")",
      (p.membersOf owner.id).filterMap p.memberRow?)

end PreparedGraph

end ApiReference
