import ApiReference.Proofs.Envelope.RoundTrip

/-! Envelopes that are built step by step. Such an envelope is read again unless the list of suggestions
it ends up with is empty: the writer leaves out the empty list, which the reader asks for. -/

namespace ApiReference

open Json

lemma Json.Regular.mono {levels levels' : ℕ} {j : Json} (h : j.Regular levels) (hle : levels ≤ levels') :
    j.Regular levels' := by
  fun_induction Regular levels j generalizing levels' with
  | case1 | case2 | case3 | case5 => rwa [Regular]
  | case7 levels items ih =>
    cases levels' with
    | zero => omega
    | succ levels' => exact fun j hj => ih j (h j hj) (by omega)
  | case9 levels members ih =>
    cases levels' with
    | zero => omega
    | succ levels' => exact ⟨h.1, fun m hm => ih m (h.2 m hm) (by omega)⟩
  | case4 | case6 | case8 => exact h.elim

namespace Envelope

/-! ### Building -/

inductive Start
  | success (data : Json)
  | notFound (message : String)
  | error (code : ResultCode) (message : String)
  | ofFailure (failure : Failure)

def Start.envelope : Start → Envelope
  | success data => .success data
  | notFound message => .notFound message
  | error code message => .error code message
  | ofFailure failure => .ofFailure failure

inductive Addition
  | message (text : String)
  | entityType (entity : EntityType)
  | count (n : ℕ)
  | query (text : String)
  | durationMs (n : ℕ)
  | suggestions (texts : List String)

def add (e : Envelope) : Addition → Envelope
  | .message text => e.withMessage text
  | .entityType entity => e.withEntityType entity
  | .count n => e.withCount n
  | .query text => e.withQuery text
  | .durationMs n => e.withDurationMs n
  | .suggestions texts => e.withSuggestions texts

def build (start : Start) (additions : List Addition) : Envelope := additions.foldl add start.envelope

def Start.Fits : Start → Prop
  | success data => data.Regular 100
  | _ => True

def Addition.Fits : Addition → Prop
  | count n => n < 2 ^ 64
  | durationMs n => n < 2 ^ 64
  | _ => True

def Addition.suggestions? : Addition → Option (List String)
  | suggestions texts => some texts
  | _ => none

def lastSuggestions (additions : List Addition) : Option (List String) :=
  (additions.filterMap Addition.suggestions?).getLast?

/-! ### What building keeps -/

structure Sound (e : Envelope) : Prop where
  exitCode : e.exitCode < 256
  data : e.data.Regular 126
  remarks : e.remarks.Fits

lemma Start.sound {start : Start} (h : start.Fits) : start.envelope.Sound := by
  have hr : Remarks.Fits {} := ⟨by simp, by simp⟩
  have hn : Json.null.Regular 126 := by decide
  have hx {n : ℕ} (h : n ≤ 1) : n < 256 := h.trans_lt (by decide)
  cases start with
  | success data => exact ⟨hx (Nat.zero_le 1), Json.Regular.mono h (by decide), hr⟩
  | notFound message => exact ⟨hx le_rfl, hn, hr⟩
  | error code message => exact ⟨hx le_rfl, hn, hr⟩
  | ofFailure failure =>
    rw [envelope, Envelope.ofFailure]
    split
    · exact ⟨hx le_rfl, hn, hr⟩
    · exact ⟨hx le_rfl, hn, hr⟩

lemma Sound.add {e : Envelope} (h : e.Sound) {a : Addition} (ha : a.Fits) : (e.add a).Sound := by
  obtain ⟨hx, hd, hc, hm⟩ := h
  cases a with
  | count n => exact ⟨hx, hd, fun m hm' => (Option.some.inj hm') ▸ ha, hm⟩
  | durationMs n => exact ⟨hx, hd, hc, fun m hm' => (Option.some.inj hm') ▸ ha⟩
  | message | entityType | query | suggestions => exact ⟨hx, hd, hc, hm⟩

lemma suggestions_add (e : Envelope) (a : Addition) :
    (e.add a).suggestions = a.suggestions?.or e.suggestions := by
  cases a <;> rfl

lemma Start.suggestions_ne (start : Start) : start.envelope.suggestions ≠ some [] := by
  cases start with
  | ofFailure failure =>
    rw [envelope, Envelope.ofFailure]
    cases failure.suggestion <;> simp [withSuggestions, Envelope.error]
  | success | notFound | error => simp [envelope, Envelope.success, Envelope.notFound, Envelope.error]

lemma sound_build {start : Start} {additions : List Addition} (hs : start.Fits) (ha : ∀ a ∈ additions, a.Fits) :
    (build start additions).Sound := by
  induction additions using List.reverseRecOn with
  | nil => exact Start.sound hs
  | append_singleton additions a ih =>
    rw [List.forall_mem_append, List.forall_mem_singleton] at ha
    rw [build, List.foldl_concat]
    exact (ih ha.1).add ha.2

lemma suggestions_build (start : Start) (additions : List Addition) :
    (build start additions).suggestions = (lastSuggestions additions).or start.envelope.suggestions := by
  induction additions using List.reverseRecOn with
  | nil => rfl
  | append_singleton additions a ih =>
    rw [build, List.foldl_concat, suggestions_add, ← build, ih, lastSuggestions, lastSuggestions,
      List.filterMap_append]
    cases h : a.suggestions? <;> simp [h]

lemma suggestions_build_eq_nil (start : Start) (additions : List Addition) :
    (build start additions).suggestions = some [] ↔ lastSuggestions additions = some [] := by
  rw [suggestions_build]
  cases lastSuggestions additions with
  | none => simpa using start.suggestions_ne
  | some texts => rfl

/-! ### Reading -/

lemma written_suggestions (texts : List String) : (suggestionsJson texts).Written := by
  apply written_object
  split
  · exact List.forall_mem_nil _
  · rw [List.forall_mem_singleton]
    exact written_list (List.forall_mem_map.mpr fun s _ => written_text s)

lemma Sound.written {e : Envelope} (h : e.Sound) : e.toJson.Written := by
  rw [toJson_eq]
  apply written_object
  rintro ⟨key, j⟩ hm
  rw [mem_present] at hm
  simp only [List.mem_cons, Prod.mk.injEq, List.not_mem_nil, or_false] at hm
  rcases hm with ⟨-, hj⟩ | ⟨-, hj⟩ | ⟨-, hj⟩ | ⟨-, hj⟩ | ⟨-, hj⟩ | ⟨-, hj⟩ | ⟨-, hj⟩ | ⟨-, hj⟩
  · exact Option.some.inj hj ▸ written_text _
  · exact Option.some.inj hj ▸ written_text _
  · exact Option.some.inj hj ▸ written_text _
  · exact Option.some.inj hj ▸ written_integer _
  · exact Option.some.inj hj ▸ written_text _
  · exact Option.some.inj hj ▸ h.data.written
  · obtain ⟨texts, -, rfl⟩ := Option.map_eq_some_iff.mp hj.symm
    exact written_suggestions texts
  · exact Option.some.inj hj ▸ (Remarks.restores h.remarks).written

lemma decode_no_suggestions : (Shape.nullable suggestionsShape).decode (suggestionsJson []).tree = none := by
  have hd : suggestionsShape.decode (.object []) = none := by
    rw [suggestionsShape, Shape.decode_object "ErrorDetails" _ (by simp [Fields.keys])]
    rfl
  have ht : (suggestionsJson []).tree = .object [] := by simp [suggestionsJson, Json.tree]
  rw [ht, Shape.decode, Tree.nullable?_of_ne (by simp), hd]
  rfl

lemma decode_eq_none {e : Envelope} (h : e.suggestions = some []) : shape.decode e.toJson.tree = none := by
  rw [toJson_eq, Json.tree, shape, Shape.decode_object "Envelope" _ (by simp [Fields.keys]), Tree.fields?, h]
  split
  · simp only [Option.bind_some, Fields.assign]
    rw [Tree.member_present (m := ("error", some (suggestionsJson []))) (by simp) (by simp)]
    simp only [Option.map_some, Presence.fill, decode_no_suggestions, Option.bind_none, Option.bind_fun_none,
      Option.map_none]
  · rfl

/-- An envelope is read again as it was built, unless it ends up with an empty list of suggestions: then it
cannot be read at all. -/
theorem readable_build (start : Start) (additions : List Addition) (hs : start.Fits)
    (ha : ∀ a ∈ additions, a.Fits) :
    ((∃ e, ofText (build start additions).text = .ok e) ↔ lastSuggestions additions ≠ some []) ∧
      (lastSuggestions additions ≠ some [] →
        ofText (build start additions).text = .ok (build start additions)) := by
  have hb := sound_build hs ha
  have hread (hl : lastSuggestions additions ≠ some []) :
      ofText (build start additions).text = .ok (build start additions) := by
    have hp : (build start additions).Portable :=
      ⟨hb.exitCode, hb.data, mt (suggestions_build_eq_nil start additions).mp hl, hb.remarks⟩
    exact (restores hp).ofText
  refine ⟨⟨?_, fun hl => ⟨_, hread hl⟩⟩, hread⟩
  rintro ⟨e, he⟩ hl
  have hd := (shape.reads.document_exact hb.written.document e).mp he
  rw [decode_eq_none ((suggestions_build_eq_nil start additions).mpr hl)] at hd
  cases hd

def annotated : List Addition :=
  [.suggestions [], .count 18446744073709551615, .query "\"\\\x00é", .suggestions ["", "try"], .durationMs 0]

theorem readable_build_annotated :
    (Start.success (.list [.object [], .null])).Fits ∧ (∀ a ∈ annotated, a.Fits) ∧
      lastSuggestions annotated ≠ some [] ∧
      ofText (build (.success (.list [.object [], .null])) annotated).text =
        .ok (build (.success (.list [.object [], .null])) annotated) :=
  have hs : (Start.success (.list [.object [], .null])).Fits := by
    rw [Start.Fits]
    decide
  have ha : ∀ a ∈ annotated, a.Fits := by simp [annotated, Addition.Fits]
  have hl : lastSuggestions annotated ≠ some [] := by decide
  ⟨hs, ha, hl, (readable_build _ _ hs ha).2 hl⟩

theorem unreadable_without_suggestions :
    (Start.notFound "m").Fits ∧ (∀ a ∈ [Addition.suggestions []], a.Fits) ∧
      (ofText (build (.notFound "m") [.suggestions []]).text).map text = .error (.missingField "suggestions") := by
  refine ⟨trivial, by simp [Addition.Fits], ?_⟩
  decide +kernel

end Envelope

end ApiReference
