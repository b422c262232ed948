import ApiReference.Number.Shortest

/-! Data trees with the six kinds of values that the exchange format knows. -/

namespace ApiReference

inductive Number
  | integer (value : Int)
  | real (value : Binary64)
  deriving DecidableEq, Repr

def Number.text : Number → String
  | integer value => toString value
  | real value => value.dataText

inductive Json
  | null
  | bool (value : Bool)
  | number (value : Number)
  | text (value : String)
  | list (items : List Json)
  | object (members : List (String × Json))
  deriving Repr, Inhabited

namespace Json

def natural (n : Nat) : Json := .number (.integer n)

def texts (items : List String) : Json := .list (items.map .text)

end Json

end ApiReference
