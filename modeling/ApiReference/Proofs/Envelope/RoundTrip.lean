import ApiReference.Envelope.Document
import ApiReference.Proofs.Json.RoundTrip

/-! Envelopes are read as they were written, each with all its fields. -/

namespace ApiReference

open Json

/-! ### Names -/

lemma MessageType.restores (t : MessageType) : shape.Restores (.text t.name) t :=
  Shape.restores_choice (by decide) (by cases t <;> simp)

lemma Status.restores (s : Status) : shape.Restores (.text s.name) s :=
  Shape.restores_choice (by decide) (by cases s <;> simp)

lemma ResultCode.restores (c : ResultCode) : shape.Restores (.text c.name) c :=
  Shape.restores_choice (by decide) (by cases c <;> simp)

lemma EntityType.restores (t : EntityType) : shape.Restores (.text t.name) t :=
  Shape.restores_choice (by decide) (by cases t <;> simp)

/-! ### Remarks and suggestions -/

lemma optionalMember_eq (key : String) (value : Option Json) :
    optionalMember key value = value.toList.map (key, ·) := by
  cases value <;> rfl

structure Remarks.Fits (r : Remarks) : Prop where
  count : ∀ n ∈ r.count, n < 2 ^ 64
  durationMs : ∀ n ∈ r.durationMs, n < 2 ^ 64

lemma Remarks.toJson_eq (r : Remarks) : r.toJson = .object (present
    [("schema_version", some (.text r.schemaVersion)),
     ("entity_type", r.entityType.map fun entity => .text entity.name),
     ("count", r.count.map .natural), ("query", r.query.map .text), ("duration_ms", r.durationMs.map .natural)]) := by
  simp [toJson, present, optionalMember_eq]

theorem Remarks.restores {r : Remarks} (h : r.Fits) : shape.Restores r.toJson r := by
  rw [toJson_eq, shape]
  refine Shape.restores_record "Meta" _ (r.schemaVersion, r.entityType, r.count, r.query, r.durationMs, ())
    (by simp [Fields.keys]) ?_
  exact .found (Shape.restores_text r.schemaVersion) <|
    .optional (fun t _ => ⟨by simp, t.restores⟩) <|
    .optional (fun n hn => ⟨by simp [Json.natural], Shape.restores_natural "usize" (h.count n hn) le_rfl⟩) <|
    .optional (fun s _ => ⟨by simp, Shape.restores_text s⟩) <|
    .optional (fun n hn => ⟨by simp [Json.natural], Shape.restores_natural "u64" (h.durationMs n hn) le_rfl⟩) .done

theorem restores_suggestions {suggestions : List String} (h : suggestions ≠ []) :
    suggestionsShape.Restores (suggestionsJson suggestions) suggestions := by
  have hj : suggestionsJson suggestions = .object (present [("suggestions", some (.texts suggestions))]) := by
    simp [suggestionsJson, present, h]
  rw [hj, suggestionsShape]
  refine Shape.restores_record "ErrorDetails" _ (suggestions, ()) (by simp [Fields.keys]) ?_
  exact .found (Shape.restores_list fun s _ => Shape.restores_text s) .done

/-! ### Envelopes -/

namespace Envelope

/-- The numbers fit their fields, the data is within the levels of the reader, and an error has at least
one suggestion. -/
structure Portable (e : Envelope) : Prop where
  exitCode : e.exitCode < 256
  data : e.data.Regular 126
  suggestions : e.suggestions ≠ some []
  remarks : e.remarks.Fits

lemma toJson_eq (e : Envelope) : e.toJson = .object (present
    [("type", some (.text e.type.name)), ("status", some (.text e.status.name)),
     ("code", some (.text e.code.name)), ("exit_code", some (.natural e.exitCode)),
     ("message", some (.text e.message)), ("data", some e.data), ("error", e.suggestions.map suggestionsJson),
     ("meta", some e.remarks.toJson)]) := by
  simp [toJson, present, optionalMember_eq]

lemma restores_data {j : Json} (h : j.Regular 126) :
    ∃ data, (Shape.nullable (.anything 126)).Restores j data ∧ data.getD .null = j := by
  by_cases hj : j = .null
  · -- null is read as no data, which is kept as null
    exact ⟨none, hj ▸ Shape.restores_null _, hj.symm⟩
  · exact ⟨some j, (Shape.restores_anything h).nullable hj, rfl⟩

lemma restores_error {suggestions : Option (List String)} (h : suggestions ≠ some []) :
    ∀ s ∈ suggestions, suggestionsJson s ≠ .null ∧ suggestionsShape.Restores (suggestionsJson s) s := by
  intro s hs
  refine ⟨by simp [suggestionsJson], restores_suggestions ?_⟩
  rintro rfl
  exact h hs

theorem restores {e : Envelope} (h : e.Portable) : shape.Restores e.toJson e := by
  obtain ⟨type, status, code, exitCode, message, data, suggestions, remarks⟩ := e
  obtain ⟨hx, hd, hs, hr⟩ := h
  obtain ⟨found, hf, rfl⟩ := restores_data hd
  rw [toJson_eq, shape]
  refine Shape.restores_record "Envelope" _
    (type, status, code, exitCode, message, found, suggestions, remarks, ()) (by simp [Fields.keys]) ?_
  exact .found type.restores <| .found status.restores <| .found code.restores <|
    .found (Shape.restores_natural "u8" hx (by decide)) <| .found (Shape.restores_text message) <|
    .found hf <| .optional (restores_error hs) <| .found (Remarks.restores hr) .done

theorem ofText_text (e : Envelope) (h : e.Portable) :
    ofText e.text = .ok e ∧ (ofText e.text).map text = .ok e.text := by
  have hr : ofText e.text = .ok e := (restores h).ofText
  exact ⟨hr, by rw [hr]; rfl⟩

def complete : Envelope where
  type := .error
  status := .notFound
  code := .missingInput
  exitCode := 255
  message := "no \"A\\B\"\n\x01 é"
  data := .object
    [("", .list [.null, .bool true, .object [], .text "😀\t"]),
     ("high", .natural 18446744073709551615), ("low", .number (.integer (-9223372036854775808)))]
  suggestions := some ["", "try \"B\""]
  remarks :=
    { entityType := some .members, count := some 18446744073709551615, query := some "\r\x7f", durationMs := some 0 }

theorem ofText_text_complete :
    complete.Portable ∧ ofText complete.text = .ok complete ∧ (ofText complete.text).map text = .ok complete.text :=
  have h : complete.Portable :=
    ⟨by decide, by decide, by simp [complete], ⟨by simp [complete], by simp [complete]⟩⟩
  ⟨h, ofText_text complete h⟩

end Envelope

end ApiReference
