import ApiReference.Json.Reader

/-! Shapes describe the documents of one type: what may stand where, and the value that is made of
it. A record is written as an object of its fields in any order, or as a list of them in theirs. -/

namespace ApiReference

inductive Presence (α : Type)
  | required
  | optional (default : α)
  -- may be left out of an object, not of a list
  | optionalByName (default : α)

mutual

inductive Shape : Type → Type 1
  | text : Shape String
  | natural (limit : Nat) (name : String) : Shape Nat
  | choice {α : Type} (names : List (String × α)) : Shape α
  | anything (levels : Nat) : Shape Json
  | list {α : Type} (item : Shape α) : Shape (List α)
  | nullable {α : Type} (inner : Shape α) : Shape (Option α)
  | record {δ α β : Type} (name : String) (fields : Fields δ α) (make : α → β) : Shape β

/-- Fields in order. While a record is read, `δ` holds the values found so far; in the end `α` holds
a value for each field. -/
inductive Fields : Type → Type → Type 1
  | done : Fields Unit Unit
  | field {α β δ : Type} (key : String) (presence : Presence α) (shape : Shape α)
      (rest : Fields δ β) : Fields (Option α × δ) (α × β)

end

namespace Fields

def count : {δ α : Type} → Fields δ α → Nat
  | _, _, done => 0
  | _, _, field _ _ _ rest => rest.count + 1

def unread : {δ α : Type} → Fields δ α → δ
  | _, _, done => ()
  | _, _, field _ _ _ rest => (none, rest.unread)

def isRead : {δ α : Type} → Fields δ α → δ → String → Bool
  | _, _, done, _, _ => false
  | _, _, field key _ _ rest, (value, others), k =>
    if key = k then value.isSome else rest.isRead others k

def accept {δ α : Type} (fields : Fields δ α) (sofar : δ) (key : String) : Except ReadError Unit :=
  if fields.isRead sofar key then .error (.duplicateField key) else .ok ()

def orDefault {α : Type} (key : String) : Presence α → Option α → Except ReadError α
  | _, some value => .ok value
  | .required, none => .error (.missingField key)
  | .optional default, none => .ok default
  | .optionalByName default, none => .ok default

def complete : {δ α : Type} → Fields δ α → δ → Except ReadError α
  | _, _, done, _ => .ok ()
  | _, _, field key presence _ rest, (value, others) => do
    let value ← orDefault key presence value
    let others ← rest.complete others
    pure (value, others)

end Fields

namespace Shape

def recordName (name : String) : String := "struct " ++ name

def recordSize (name : String) (count : Nat) : String :=
  recordName name ++ " with " ++ toString count ++ (if count = 1 then " element" else " elements")

end Shape

end ApiReference
