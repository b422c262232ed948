import ApiReference.Symbol.Relationship

/-! Relationships grouped by the symbol they describe. An edge with a hidden end is dropped and
counted. -/

namespace ApiReference

abbrev Multimap := List (String × List String)

namespace Multimap

def push (key value : String) : Multimap → Multimap
  | [] => [(key, [value])]
  | (k, values) :: rest =>
    if k = key then (k, values ++ [value]) :: rest else (k, values) :: push key value rest

def get (table : Multimap) (key : String) : List String :=
  match table with
  | [] => []
  | (k, values) :: rest => if k = key then values else get rest key

def total : Multimap → Nat
  | [] => 0
  | (_, values) :: rest => values.length + total rest

end Multimap

structure RelationIndex where
  members : Multimap
  requirements : Multimap
  conformances : Multimap
  superclasses : Multimap
  dropped : Nat
  deriving DecidableEq, Repr

namespace RelationIndex

def empty : RelationIndex := ⟨[], [], [], [], 0⟩

def add (index : RelationIndex) (r : Relationship) : RelationIndex :=
  match r.kind with
  | .memberOf => { index with members := index.members.push r.target r.source }
  | .requirementOf => { index with requirements := index.requirements.push r.target r.source }
  | .conformsTo => { index with conformances := index.conformances.push r.source r.target }
  | .inheritsFrom => { index with superclasses := index.superclasses.push r.source r.target }
  | .other _ => index

def touches (hidden : List String) (r : Relationship) : Bool :=
  hidden.contains r.source || hidden.contains r.target

def build (relationships : List Relationship) (hidden : List String) : RelationIndex :=
  relationships.foldl
    (fun index r =>
      if touches hidden r then { index with dropped := index.dropped + 1 } else index.add r)
    empty

def membersOf (index : RelationIndex) (id : String) : List String := index.members.get id

def requirementsOf (index : RelationIndex) (id : String) : List String := index.requirements.get id

def conformsTo (index : RelationIndex) (id : String) : List String := index.conformances.get id

def inheritsFrom (index : RelationIndex) (id : String) : List String := index.superclasses.get id

end RelationIndex

end ApiReference
