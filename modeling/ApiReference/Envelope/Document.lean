import ApiReference.Envelope.Basic
import ApiReference.Json.Pretty
import ApiReference.Json.ShapeReader

/-! Envelopes as documents: a writer and the shape that reads them. -/

namespace ApiReference

def MessageType.name : MessageType → String
  | result => "result"
  | error => "error"

def Status.name : Status → String
  | success => "success"
  | notFound => "not_found"
  | error => "error"

def EntityType.name : EntityType → String
  | runStats => "run_stats"
  | members => "members"

def optionalMember (key : String) : Option Json → List (String × Json)
  | some value => [(key, value)]
  | none => []

def suggestionsJson (suggestions : List String) : Json :=
  .object (if suggestions.isEmpty then [] else [("suggestions", .texts suggestions)])

def Remarks.toJson (r : Remarks) : Json :=
  .object
    ([("schema_version", .text r.schemaVersion)] ++
      optionalMember "entity_type" (r.entityType.map fun entity => .text entity.name) ++
      optionalMember "count" (r.count.map .natural) ++
      optionalMember "query" (r.query.map .text) ++
      optionalMember "duration_ms" (r.durationMs.map .natural))

def Envelope.toJson (e : Envelope) : Json :=
  .object
    ([("type", .text e.type.name), ("status", .text e.status.name), ("code", .text e.code.name),
      ("exit_code", .natural e.exitCode), ("message", .text e.message), ("data", e.data)] ++
      optionalMember "error" (e.suggestions.map suggestionsJson) ++
      [("meta", e.remarks.toJson)])

def Envelope.text (e : Envelope) : String := e.toJson.pretty

/-! ### Reading -/

def MessageType.shape : Shape MessageType :=
  .choice ([.result, .error].map fun t => (t.name, t))

def Status.shape : Shape Status :=
  .choice ([.success, .notFound, .error].map fun s => (s.name, s))

def ResultCode.shape : Shape ResultCode :=
  .choice ([.ok, .notFound, .malformedInput, .missingInput, .ioError, .configError].map
    fun c => (c.name, c))

def EntityType.shape : Shape EntityType :=
  .choice ([.runStats, .members].map fun t => (t.name, t))

def suggestionsShape : Shape (List String) :=
  .record "ErrorDetails" (.field "suggestions" .required (.list .text) .done) fun (s, ()) => s

def Remarks.shape : Shape Remarks :=
  .record "Meta"
    (.field "schema_version" .required .text <|
     .field "entity_type" (.optionalByName none) (.nullable EntityType.shape) <|
     .field "count" (.optionalByName none) (.nullable (.natural (Nat.pow 2 64) "usize")) <|
     .field "query" (.optionalByName none) (.nullable .text) <|
     .field "duration_ms" (.optionalByName none) (.nullable (.natural (Nat.pow 2 64) "u64")) .done)
    fun (schemaVersion, entityType, count, query, durationMs, ()) =>
      { schemaVersion, entityType, count, query, durationMs }

def Envelope.shape : Shape Envelope :=
  .record "Envelope"
    (.field "type" .required MessageType.shape <|
     .field "status" .required Status.shape <|
     .field "code" .required ResultCode.shape <|
     .field "exit_code" .required (.natural 256 "u8") <|
     .field "message" .required .text <|
     .field "data" (.optionalByName none) (.nullable (.anything 126)) <|
     .field "error" (.optionalByName none) (.nullable suggestionsShape) <|
     .field "meta" .required Remarks.shape .done)
    fun (type, status, code, exitCode, message, data, suggestions, remarks, ()) =>
      { type, status, code, exitCode, message, data := data.getD .null, suggestions, remarks }

def Envelope.ofText (s : String) : Except ReadError Envelope := Envelope.shape.ofText s

end ApiReference
