import ApiReference.Distinct
import ApiReference.Graph.RelationIndex
import ApiReference.Symbol.Table

/-! The members of a type: its own first, then, for a class, those of every protocol it conforms to,
directly or through other protocols. -/

namespace ApiReference

structure Member where
  id : String
  declaredIn : String
  inherited : Bool
  deriving DecidableEq, Repr

/-- Depth-first walk in which no id is visited twice. `pending` holds the ids to visit, first one
first; the result lists the visited ids in order. -/
def walk (next : String → List String) : Nat → List String → List String → List String
  | 0, _, visited => visited
  | _ + 1, [], visited => visited
  | fuel + 1, id :: pending, visited =>
    if id ∈ visited then walk next fuel pending visited
    else walk next fuel (next id ++ pending) (visited ++ [id])

namespace RelationIndex

/-- The protocols a type conforms to, at any distance, in the order a depth-first walk meets them.
Every edge is followed at most once, so the number of edges bounds the walk. -/
def protocolsOf (index : RelationIndex) (id : String) : List String :=
  let roots := index.conformsTo id
  walk index.conformsTo (roots.length + index.conformances.total + 1) roots []

end RelationIndex

structure Hierarchy where
  table : SymbolTable
  index : RelationIndex

namespace Hierarchy

variable (h : Hierarchy)

def directIds (owner : Symbol) : List String :=
  let listed :=
    if owner.kind = .protocol then h.index.membersOf owner.id ++ h.index.requirementsOf owner.id
    else h.index.membersOf owner.id
  distinct (listed.filter h.table.contains)

def candidates (id : String) : List (String × String) :=
  (h.index.protocolsOf id).flatMap fun p =>
    ((h.index.requirementsOf p ++ h.index.membersOf p).filter h.table.contains).map (·, p)

def declarationOf (id : String) : Option String := (h.table.find? id).map (·.declaration)

def overridden (direct : List String) (id : String) : Bool :=
  match h.declarationOf id with
  | some text => (direct.filterMap h.declarationOf).contains text
  | none => false

def foreignCandidates (direct : List String) (id : String) : List (String × String) :=
  (h.candidates id).filter fun c => !direct.contains c.1

def inheritedMembers (owner : Symbol) : List Member :=
  let direct := h.directIds owner
  let kept := (h.foreignCandidates direct owner.id).filter fun c => !h.overridden direct c.1
  (distinctOn (·.1) [] kept).map fun c => ⟨c.1, c.2, true⟩

def directMembers (owner : Symbol) : List Member :=
  (h.directIds owner).map fun id => ⟨id, owner.id, false⟩

def membersOf (id : String) : List Member :=
  match h.table.find? id with
  | none => []
  | some owner =>
    if owner.kind.inheritsProtocolMembers then h.directMembers owner ++ h.inheritedMembers owner
    else h.directMembers owner

def titles (ids : List String) : List String :=
  (distinct ids).filterMap fun id => (h.table.find? id).map (·.title)

def conformanceTitles (id : String) : List String := h.titles (h.index.conformsTo id)

def superclassTitles (id : String) : List String := h.titles (h.index.inheritsFrom id)

end Hierarchy

end ApiReference
