/-! Relationships: directed edges between two symbol ids. -/

namespace ApiReference

inductive RelationKind
  | memberOf | requirementOf | conformsTo | inheritsFrom
  | other (name : String)
  deriving DecidableEq, Repr

def RelationKind.ofName (name : String) : RelationKind :=
  match name with
  | "memberOf" => memberOf
  | "requirementOf" => requirementOf
  | "conformsTo" => conformsTo
  | "inheritsFrom" => inheritsFrom
  | _ => other name

def RelationKind.name : RelationKind → String
  | memberOf => "memberOf"
  | requirementOf => "requirementOf"
  | conformsTo => "conformsTo"
  | inheritsFrom => "inheritsFrom"
  | other name => name

structure Relationship where
  source : String
  target : String
  kind : RelationKind
  deriving DecidableEq, Repr

end ApiReference
