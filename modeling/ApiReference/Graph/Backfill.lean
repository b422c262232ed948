import ApiReference.Symbol.Basic

/-! Documentation taken over from the secondary graph: a primary symbol without doc lines gets those
of the last secondary symbol with its id that has some. -/

namespace ApiReference

def offeredDoc (secondary : List Symbol) (id : String) : Option DocComment :=
  (secondary.reverse.find? fun s => s.id == id && s.hasDocComment).bind (·.doc)

def Symbol.backfill (secondary : List Symbol) (s : Symbol) : Symbol :=
  if s.hasDocComment then s
  else match offeredDoc secondary s.id with
    | some doc => { s with doc := some doc }
    | none => s

def Symbol.lacksOfferedDoc (secondary : List Symbol) (s : Symbol) : Bool :=
  !s.hasDocComment && (offeredDoc secondary s.id).isSome

def backfillAll (primary secondary : List Symbol) : List Symbol :=
  primary.map (·.backfill secondary)

def backfillCount (primary secondary : List Symbol) : Nat :=
  (primary.filter (·.lacksOfferedDoc secondary)).length

end ApiReference
