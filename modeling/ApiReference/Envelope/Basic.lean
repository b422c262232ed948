import ApiReference.Failure
import ApiReference.Json.Basic

/-! The envelope around every answer meant for scripts: whether the operation succeeded, a code, a
message, the data, and remarks about them. -/

namespace ApiReference

inductive MessageType
  | result | error
  deriving DecidableEq, Repr

inductive Status
  | success | notFound | error
  deriving DecidableEq, Repr

inductive EntityType
  | runStats | members
  deriving DecidableEq, Repr

structure Remarks where
  schemaVersion : String := "1.0.0"
  entityType : Option EntityType := none
  count : Option Nat := none
  query : Option String := none
  durationMs : Option Nat := none
  deriving DecidableEq, Repr

structure Envelope where
  type : MessageType
  status : Status
  code : ResultCode
  exitCode : Nat
  message : String
  -- absent data and null are the same
  data : Json
  suggestions : Option (List String) := none
  remarks : Remarks := {}

namespace Envelope

def success (data : Json) : Envelope where
  type := .result
  status := .success
  code := .ok
  exitCode := 0
  message := "Operation completed successfully"
  data := data

def notFound (message : String) : Envelope where
  type := .result
  status := .notFound
  code := .notFound
  exitCode := 1
  message := message
  data := .null

def error (code : ResultCode) (message : String) : Envelope where
  type := .error
  status := .error
  code := code
  exitCode := 1
  message := message
  data := .null

def withMessage (e : Envelope) (message : String) : Envelope := { e with message }

def withEntityType (e : Envelope) (entity : EntityType) : Envelope :=
  { e with remarks := { e.remarks with entityType := some entity } }

def withCount (e : Envelope) (count : Nat) : Envelope :=
  { e with remarks := { e.remarks with count := some count } }

def withQuery (e : Envelope) (query : String) : Envelope :=
  { e with remarks := { e.remarks with query := some query } }

def withDurationMs (e : Envelope) (ms : Nat) : Envelope :=
  { e with remarks := { e.remarks with durationMs := some ms } }

def withSuggestions (e : Envelope) (suggestions : List String) : Envelope :=
  { e with suggestions := some suggestions }

def ofFailure (failure : Failure) : Envelope :=
  let e := error failure.code failure.message
  match failure.suggestion with
  | some hint => e.withSuggestions [hint]
  | none => e

end Envelope

end ApiReference
