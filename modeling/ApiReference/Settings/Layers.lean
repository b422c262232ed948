import ApiReference.Settings.Value
import ApiReference.Text.Lowercase

/-! Layers of settings. A later layer wins over an earlier one, table by table and key by key, and
every value remembers the layer it came from. -/

namespace ApiReference

inductive Layer
  | file (shown : String)
  | environment
  deriving DecidableEq, Repr

def Layer.describe : Layer → String
  | file shown => shown ++ " TOML file"
  | environment => "`SYMDOC_` environment variable(s)"

def Layer.keyText (layer : Layer) (path : List String) : String :=
  match layer with
  | file _ => String.intercalate "." ("default" :: path)
  | environment => Text.uppercaseAscii (String.intercalate "." path)

inductive Layered
  | scalar (layer : Layer) (value : Scalar)
  | list (layer : Layer) (items : List Layered)
  | table (layer : Layer) (entries : List (String × Layered))
  deriving Repr

namespace Layered

def layer : Layered → Layer
  | scalar layer _ => layer
  | list layer _ => layer
  | table layer _ => layer

def describe : Layered → String
  | scalar _ value => value.describe
  | list _ _ => "sequence"
  | table _ _ => "map"

mutual

def ofValue (layer : Layer) : ConfigValue → Layered
  | .scalar value => .scalar layer value
  | .list items => .list layer (ofItems layer items)
  | .table entries => .table layer (ofEntries layer entries)

def ofItems (layer : Layer) : List ConfigValue → List Layered
  | [] => []
  | item :: items => ofValue layer item :: ofItems layer items

def ofEntries (layer : Layer) : List (String × ConfigValue) → List (String × Layered)
  | [] => []
  | (key, value) :: entries => (key, ofValue layer value) :: ofEntries layer entries

end

mutual

def merge (earlier : Layered) : Layered → Layered
  | .table layer entries =>
    match earlier with
    | .table _ before => .table layer (mergeEntries before entries)
    | _ => .table layer entries
  | later => later

def mergeEntries (before : List (String × Layered)) :
    List (String × Layered) → List (String × Layered)
  | [] => before
  | (key, value) :: rest =>
    let merged := match valueAt? key before with
      | some earlier => merge earlier value
      | none => value
    mergeEntries (setEntry key merged before) rest

end

def nest (layer : Layer) (value : Layered) : List String → Layered
  | [] => value
  | key :: path => .table layer [(key, nest layer value path)]

end Layered

end ApiReference
