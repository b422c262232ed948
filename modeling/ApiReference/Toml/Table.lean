import ApiReference.Settings.Value

/-! Tables of a settings file while it is read. How a table came about decides which lines may still
add to it. -/

namespace ApiReference.Toml

inductive Origin
  | header
  -- named only on the way to another table
  | implied
  -- named only by keys with dots
  | dotted
  deriving DecidableEq, Repr

inductive Item
  | value (v : ConfigValue)
  | table (origin : Origin) (entries : List (String × Item))
  | tables (all : List (List (String × Item)))
  deriving Inhabited

abbrev Entries : Type := List (String × Item)

/-- Changes the table that a path leads to, by way of tables that are there or are made for it. Keys
with dots may not lead through a table that has a header. -/
def descend (byDots : Bool) (change : Origin → Entries → Option Entries) :
    List String → Origin → Entries → Option Entries
  | [], origin, entries => change origin entries
  | key :: path, _, entries =>
    match valueAt? key entries with
    | none => do
      let origin : Origin := if byDots then .dotted else .implied
      let inner ← descend byDots change path origin []
      pure (setEntry key (.table origin inner) entries)
    | some (.value _) => none
    | some (.tables all) => do
      let inner ← descend byDots change path .header (all.getLastD [])
      pure (setEntry key (.tables (all.dropLast ++ [inner])) entries)
    | some (.table origin inner) =>
      if byDots && origin = .header then none
      else do
        let inner ← descend byDots change path origin inner
        pure (setEntry key (.table origin inner) entries)

def addValue (path : List String) (v : ConfigValue) (entries : Entries) : Option Entries :=
  let way := path.dropLast
  descend true (fun origin table => do
    let key ← path.getLast?
    if (origin == .dotted) == way.isEmpty then none
    else if (valueAt? key table).isSome then none
    else pure (setEntry key (.value v) table)) way .header entries

def openTable (path : List String) (entries : Entries) : Option Entries :=
  descend false (fun _ table => do
    let key ← path.getLast?
    match valueAt? key table with
    | none => pure (setEntry key (.table .header []) table)
    | some (.table .implied inner) => pure (setEntry key (.table .header inner) table)
    | some _ => none) path.dropLast .header entries

def openListTable (path : List String) (entries : Entries) : Option Entries :=
  descend false (fun _ table => do
    let key ← path.getLast?
    match valueAt? key table with
    | none => pure (setEntry key (.tables [[]]) table)
    | some (.tables all) => pure (setEntry key (.tables (all ++ [[]])) table)
    | some _ => none) path.dropLast .header entries

mutual

def Item.toValue : Item → ConfigValue
  | .value v => v
  | .table _ entries => .table (entriesToValues entries)
  | .tables all => .list (tablesToValues all)

def entriesToValues : List (String × Item) → List (String × ConfigValue)
  | [] => []
  | (key, item) :: rest => (key, item.toValue) :: entriesToValues rest

def tablesToValues : List (List (String × Item)) → List ConfigValue
  | [] => []
  | entries :: rest => .table (entriesToValues entries) :: tablesToValues rest

end

end ApiReference.Toml
