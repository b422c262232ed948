import ApiReference.Text.Blank

/-! Kinds of declarations and the document sections they belong to. -/

namespace ApiReference

inductive Kind
  | classType | protocol | enumeration | structureType | typeAlias | function | globalVariable
  | initializer | typeProperty | typeMethod | instanceProperty | instanceMethod | enumCase
  | other (name : String)
  deriving DecidableEq, Repr, Inhabited

inductive Category
  | classType | protocol | enumeration | structureType | typeAlias | globalFunction
  | globalVariable | member | uncategorized
  deriving DecidableEq, Repr

namespace Kind

def ofDisplayName (name : String) : Kind :=
  match name with
  | "Class" => classType
  | "Protocol" => protocol
  | "Enumeration" => enumeration
  | "Structure" => structureType
  | "Type Alias" => typeAlias
  | "Function" => function
  | "Global Variable" => globalVariable
  | "Initializer" => initializer
  | "Type Property" => typeProperty
  | "Type Method" => typeMethod
  | "Instance Property" => instanceProperty
  | "Instance Method" => instanceMethod
  | "Case" => enumCase
  | _ => other name

def displayName : Kind → String
  | classType => "Class"
  | protocol => "Protocol"
  | enumeration => "Enumeration"
  | structureType => "Structure"
  | typeAlias => "Type Alias"
  | function => "Function"
  | globalVariable => "Global Variable"
  | initializer => "Initializer"
  | typeProperty => "Type Property"
  | typeMethod => "Type Method"
  | instanceProperty => "Instance Property"
  | instanceMethod => "Instance Method"
  | enumCase => "Case"
  | other name => name

def plural : Kind → String
  | instanceProperty => "Instance Properties"
  | typeProperty => "Type Properties"
  | enumCase => "Cases"
  | kind =>
    if Text.endsWith kind.displayName "s" then kind.displayName ++ "es"
    else kind.displayName ++ "s"

def memberPriority : Kind → Nat
  | initializer => 0
  | typeProperty => 1
  | typeMethod => 2
  | instanceProperty => 3
  | instanceMethod => 4
  | enumCase => 5
  | _ => 99

def inheritsProtocolMembers : Kind → Bool
  | classType => true
  | _ => false

def category : Kind → Category
  | classType => .classType
  | protocol => .protocol
  | enumeration => .enumeration
  | structureType => .structureType
  | typeAlias => .typeAlias
  | function => .globalFunction
  | globalVariable => .globalVariable
  | initializer | typeProperty | typeMethod | instanceProperty | instanceMethod | enumCase =>
    .member
  | other _ => .uncategorized

end Kind

namespace Category

def heading : Category → String
  | classType => "Classes"
  | protocol => "Protocols"
  | enumeration => "Enumerations"
  | structureType => "Structures"
  | typeAlias => "Type Aliases"
  | globalFunction => "Global Functions"
  | globalVariable => "Global Variables"
  | member => "Members"
  | uncategorized => "Uncategorized"

end Category

end ApiReference
