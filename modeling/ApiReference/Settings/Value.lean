import ApiReference.Number.Shortest
import ApiReference.Text.Quoted

/-! Values of settings as they are found in files and in the environment. -/

namespace ApiReference

inductive Scalar
  | text (s : String)
  | unsigned (n : Nat)
  | signed (n : Int)
  | real (x : Binary64)
  | bool (b : Bool)
  deriving DecidableEq, Repr

inductive ConfigValue
  | scalar (value : Scalar)
  | list (items : List ConfigValue)
  | table (entries : List (String × ConfigValue))
  deriving Repr, Inhabited

def ConfigValue.text (s : String) : ConfigValue := .scalar (.text s)

def Scalar.describe : Scalar → String
  | text s => "string " ++ Text.quoted s
  | unsigned n => "unsigned int `" ++ toString n ++ "`"
  | signed n => "signed int `" ++ toString n ++ "`"
  | real x => "float `" ++ x.plainText ++ "`"
  | bool true => "bool true"
  | bool false => "bool false"

def setEntry {α : Type} (key : String) (value : α) : List (String × α) → List (String × α)
  | [] => [(key, value)]
  | (k, v) :: rest =>
    if key < k then (key, value) :: (k, v) :: rest
    else if key = k then (key, value) :: rest
    else (k, v) :: setEntry key value rest

def valueAt? {α : Type} (key : String) (entries : List (String × α)) : Option α :=
  (entries.find? (·.1 == key)).map (·.2)

end ApiReference
