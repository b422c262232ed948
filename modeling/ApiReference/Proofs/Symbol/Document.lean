import ApiReference.Proofs.Json.Fields
import ApiReference.Symbol.Document

/-! Which trees are symbol graphs, and of what. A document is read as the graph of its tree, and one
that was cut off is not read at all. -/

namespace ApiReference

open Lexeme Json

/-! ### Kinds of relationships -/

namespace RelationKind

lemma name_ofName (name : String) : (ofName name).name = name := by
  unfold ofName
  split <;> rfl

lemma ofName_name {k : RelationKind} (h : ∀ name, k ≠ other name) : ofName k.name = k := by
  cases k with
  | other name => exact absurd rfl (h name)
  | _ => rfl

theorem ofName_eq_iff {k : RelationKind} (h : ∀ name, k ≠ other name) (name : String) :
    ofName name = k ↔ name = k.name := by
  constructor
  · rintro rfl
    exact (name_ofName name).symm
  · rintro rfl
    exact ofName_name h

end RelationKind

/-! ### Trees -/

namespace Json.Tree

def required {α : Type} (decode : Tree → Option α) (value : Option Tree) : Option α := value.bind decode

def optional {α : Type} (default : α) (decode : Tree → Option α) (value : Option Tree) : Option α :=
  value.elim (some default) decode

def namedText? (key : String) (v : Tree) : Option String := do
  let field ← v.fields? [key]
  required text? (field key)

def optionalText? (key : String) (v : Tree) : Option String := do
  let field ← v.fields? [key]
  optional "" text? (field key)

def docComment? (v : Tree) : Option DocComment := do
  let field ← v.fields? ["lines"]
  let lines ← optional [] (list? (optionalText? "text")) (field "lines")
  some ⟨lines⟩

def symbol? (v : Tree) : Option Symbol := do
  let field ← v.fields? ["identifier", "kind", "names", "declarationFragments", "docComment", "location"]
  let id ← required (namedText? "precise") (field "identifier")
  let kind ← required (namedText? "displayName") (field "kind")
  let title ← required (namedText? "title") (field "names")
  let fragments ← optional [] (list? (optionalText? "spelling")) (field "declarationFragments")
  let doc ← optional none (nullable? docComment?) (field "docComment")
  let uri ← optional none (nullable? (optionalText? "uri")) (field "location")
  some
    { id, title, fragments, doc
      kind := Kind.ofDisplayName kind
      location := if uri = some "" then none else uri }

def relationship? (v : Tree) : Option Relationship := do
  let field ← v.fields? ["source", "target", "kind"]
  let source ← required text? (field "source")
  let target ← required text? (field "target")
  let kind ← required text? (field "kind")
  some { source, target, kind := RelationKind.ofName kind }

def symbolGraph? (v : Tree) : Option SymbolGraph := do
  let field ← v.fields? ["symbols", "relationships"]
  let symbols ← required (list? symbol?) (field "symbols")
  let relationships ← optional [] (list? relationship?) (field "relationships")
  some { symbols, relationships }

end Json.Tree

/-! ### Decoding by shape -/

lemma Presence.fill_required {α : Type} (decode : Tree → Option α) (value : Option Tree) :
    Presence.fill .required decode value = Tree.required decode value := by
  cases value <;> rfl

lemma Presence.fill_optional {α : Type} (default : α) (decode : Tree → Option α) (value : Option Tree) :
    Presence.fill (.optional default) decode value = Tree.optional default decode value := by
  cases value <;> rfl

lemma Shape.decode_text : Shape.text.decode = Tree.text? := rfl

lemma Shape.decode_list {α : Type} (item : Shape α) : (Shape.list item).decode = Tree.list? item.decode := rfl

lemma Shape.decode_nullable {α : Type} (inner : Shape α) :
    (Shape.nullable inner).decode = Tree.nullable? inner.decode := rfl

lemma namedText_decode (record key : String) : (namedText record key).decode = Tree.namedText? key := by
  funext v
  rw [namedText, Shape.decode_record _ _ (by simp [Fields.keys]) (by exact ⟨rfl, trivial⟩), Tree.namedText?]
  simp only [Fields.map_assign_field, Fields.map_assign_done, Presence.fill_required, Shape.decode_text]
  simp [Fields.keys]

lemma optionalText_decode (record key : String) : (optionalText record key).decode = Tree.optionalText? key := by
  funext v
  rw [optionalText, Shape.decode_record _ _ (by simp [Fields.keys]) (by exact ⟨rfl, trivial⟩), Tree.optionalText?]
  simp only [Fields.map_assign_field, Fields.map_assign_done, Presence.fill_optional, Shape.decode_text]
  simp [Fields.keys]

lemma docComment_decode : DocComment.shape.decode = Tree.docComment? := by
  funext v
  rw [DocComment.shape, Shape.decode_record _ _ (by simp [Fields.keys]) (by exact ⟨rfl, trivial⟩)]
  simp only [Fields.map_assign_field, Fields.map_assign_done, Presence.fill_optional, Shape.decode_list,
    optionalText_decode]
  rfl

lemma locationOf_eq (uri : Option String) : locationOf uri = if uri = some "" then none else uri := by
  cases uri with
  | none => rfl
  | some s => by_cases hs : s = "" <;> simp [locationOf, hs]

lemma symbol_decode : Symbol.shape.decode = Tree.symbol? := by
  funext v
  rw [Symbol.shape, Shape.decode_record _ _ (by simp [Fields.keys])
    (by exact ⟨rfl, rfl, rfl, rfl, rfl, rfl, trivial⟩)]
  simp only [Fields.map_assign_field, Fields.map_assign_done, Presence.fill_required, Presence.fill_optional,
    Shape.decode_list, Shape.decode_nullable, namedText_decode, optionalText_decode, docComment_decode,
    locationOf_eq]
  rfl

lemma relationship_decode : Relationship.shape.decode = Tree.relationship? := by
  funext v
  rw [Relationship.shape, Shape.decode_record _ _ (by simp [Fields.keys]) (by exact ⟨rfl, rfl, rfl, trivial⟩)]
  simp only [Fields.map_assign_field, Fields.map_assign_done, Presence.fill_required, Shape.decode_text]
  rfl

lemma symbolGraph_decode : SymbolGraph.shape.decode = Tree.symbolGraph? := by
  funext v
  rw [SymbolGraph.shape, Shape.decode_record _ _ (by simp [Fields.keys]) (by exact ⟨rfl, rfl, trivial⟩)]
  simp only [Fields.map_assign_field, Fields.map_assign_done, Presence.fill_required, Presence.fill_optional,
    Shape.decode_list, symbol_decode, relationship_decode]
  rfl

/-! ### Documents -/

lemma reads_symbolGraph : Reads SymbolGraph.shape.read Tree.symbolGraph? := by
  rw [← symbolGraph_decode]
  exact SymbolGraph.shape.reads

namespace SymbolGraph

lemma ofText_iff {path s : String} {g : SymbolGraph} :
    ofText path s = .ok g ↔ readDocument shape.read s = .ok g := by
  rw [ofText, Shape.ofText]
  cases readDocument shape.read s <;> simp

lemma ofText_refused {path s : String} (h : ∀ g, ofText path s ≠ .ok g) :
    ∃ reason, ofText path s = .error (.malformedGraph path reason) := by
  rw [ofText] at h ⊢
  cases hd : shape.ofText s with
  | ok g =>
    rw [hd] at h
    exact absurd rfl (h g)
  | error e => exact ⟨e.message, rfl⟩

/-- A document is read as the symbol graph that its tree stands for, and refused by name where it
spells no such tree. -/
theorem ofText_exact (path s : String) :
    (∀ v, Document v s → ∀ g, ofText path s = .ok g ↔ v.symbolGraph? = some g) ∧
      ((∀ v g, Document v s → v.symbolGraph? ≠ some g) →
        ∃ reason, ofText path s = .error (.malformedGraph path reason)) := by
  constructor
  · intro v hv g
    rw [ofText_iff]
    exact reads_symbolGraph.document_exact hv g
  · intro h
    refine ofText_refused fun g hg => ?_
    rw [ofText_iff] at hg
    obtain ⟨v, hv⟩ := reads_symbolGraph.document_sound hg
    exact h v g hv ((reads_symbolGraph.document_exact hv g).mp hg)

def mixedText : String :=
  "\x7b\"z\":[0], \"symbols\":[[[\"\\u0041\"],[\"Class\"],[\"t\"]]]," ++
    "\"relationships\":[\x7b\"kind\":\"memberOf\",\"source\":\"m\",\"target\":\"A\"\x7d]\x7d"

def mixedGraph : SymbolGraph where
  symbols := [⟨"A", .classType, "t", [], none, none⟩]
  relationships := [⟨"m", "A", .memberOf⟩]

theorem ofText_exact_mixed :
    (∃ v, Document v mixedText ∧ v.symbolGraph? = some mixedGraph) ∧ ofText "a.json" mixedText = .ok mixedGraph ∧
    (∀ v g, Document v "[null]" → v.symbolGraph? ≠ some g) ∧
    ∃ reason, ofText "a.json" "[null]" = .error (.malformedGraph "a.json" reason) := by
  have hplain (s : String) (h : s.toList.all fun c => 32 ≤ c.toNat && c != '"' && c != '\\') :
      SpelledText (some s) s.toList := by
    refine .plain fun c hc => ?_
    have hall := List.all_eq_true.mp h c hc
    simpa [and_assoc] using hall
  have ha : SpelledText (some "A") ['\\', 'u', '0', '0', '4', '1'] := by
    have hx : Hex 'A'.toNat ['0', '0', '4', '1'] := (hexUnit_iff '0' '0' '4' '1' _).mp rfl
    simpa using SpelledText.whole (.cons (.unit (by decide) hx) .nil)
  have hzero : Spelled (.number ⟨false, ['0'], none, none⟩) ['0'] :=
    .number (.parts ⟨by simp, by simp [isDigit]⟩ (fun _ => rfl) .absent .absent)
  have hrow := Spelled.list (.items blank_nil (Spelled.text ha).singleton
    (.cons blank_nil blank_nil (Spelled.text (hplain "Class" rfl)).singleton
      (.cons blank_nil blank_nil (Spelled.text (hplain "t" rfl)).singleton (.nil blank_nil))))
  have hedge := Spelled.object
    (.items blank_nil (.pair (hplain "kind" rfl) blank_nil blank_nil (.text (hplain "memberOf" rfl)))
    (.cons blank_nil blank_nil (.pair (hplain "source" rfl) blank_nil blank_nil (.text (hplain "m" rfl)))
    (.cons blank_nil blank_nil (.pair (hplain "target" rfl) blank_nil blank_nil (.text (hplain "A" rfl)))
      (.nil blank_nil))))
  have hobject := Spelled.object (.items blank_nil (.pair (hplain "z" rfl) blank_nil blank_nil hzero.singleton)
    (.cons blank_nil (show Blank [' '] by simp [Blank, isBlank])
      (.pair (hplain "symbols" rfl) blank_nil blank_nil hrow.singleton)
    (.cons blank_nil blank_nil (.pair (hplain "relationships" rfl) blank_nil blank_nil hedge.singleton)
      (.nil blank_nil))))
  have hdoc : Document _ mixedText := ⟨[], _, [], blank_nil, hobject, blank_nil, by decide +kernel⟩
  have hnone : ∀ v g, Document v "[null]" → v.symbolGraph? ≠ some g := by
    intro v g hv hg
    have hok := ((ofText_exact "a.json" "[null]").1 v hv g).mpr hg
    rw [ofText_iff, readDocument_iff, show "[null]".toList = ['[', 'n', 'u', 'l', 'l', ']'] by decide] at hok
    obtain ⟨behind, hread, _⟩ := hok
    cases hread
  exact ⟨⟨_, hdoc, rfl⟩, ((ofText_exact "a.json" _).1 _ hdoc _).mpr rfl, hnone,
    (ofText_exact "a.json" "[null]").2 hnone⟩

lemma ends_of_symbolGraph {v : Tree} {g : SymbolGraph} (h : v.symbolGraph? = some g) (rest : List Char) :
    Ends v rest := by
  -- a graph is no number, so its end can be told from whatever follows
  cases v with
  | number n => cases h
  | _ => trivial

/-- A document without its last characters is refused, unless only blanks were lost. -/
theorem ofText_truncated {path u x : String} {g : SymbolGraph} (h : ofText path (u ++ x) = .ok g)
    (hx : ∃ c ∈ x.toList, isBlank c = false) : ∃ reason, ofText path u = .error (.malformedGraph path reason) := by
  refine ofText_refused fun g' hg => ?_
  rw [ofText_iff, readDocument_iff] at h hg
  obtain ⟨behind, hread, hblank⟩ := h
  obtain ⟨behind', hread', hblank'⟩ := hg
  obtain ⟨v, before, w, hb, hw, hu⟩ := reads_symbolGraph.sound hread'
  -- the tree of the part is at the front of the whole, and is read there with the lost characters left
  have hpart := reads_symbolGraph.exact ⟨before, w, hb, hw, hu⟩ hblank'.stops.ends
  rw [toOption_eq_some.mpr hread'] at hpart
  obtain ⟨g'', hgraph, _⟩ := Option.map_eq_some_iff.mp hpart.symm
  have hwhole : (u ++ x).toList = before ++ (w ++ (behind' ++ x.toList)) := by
    rw [String.toList_append, hu]
    simp
  have hrest := reads_symbolGraph.exact ⟨before, w, hb, hw, hwhole⟩ (ends_of_symbolGraph hgraph _)
  rw [toOption_eq_some.mpr hread, hgraph] at hrest
  cases hrest
  obtain ⟨c, hc, hn⟩ := hx
  have hblank : isBlank c = true := hblank c (List.mem_append_right behind' hc)
  rw [hn] at hblank
  cases hblank

theorem ofText_truncated_word :
    ofText "a.json" ("[[[[\"a\"],[\"Cl" ++ "ass\"],[\"t\"]]]]") =
      .ok ⟨[⟨"a", .classType, "t", [], none, none⟩], []⟩ ∧
    (∃ c ∈ ("ass\"],[\"t\"]]]]" : String).toList, isBlank c = false) ∧
    ∃ reason, ofText "a.json" "[[[[\"a\"],[\"Cl" = .error (.malformedGraph "a.json" reason) := by
  have hread : ofText "a.json" ("[[[[\"a\"],[\"Cl" ++ "ass\"],[\"t\"]]]]") =
      .ok ⟨[⟨"a", .classType, "t", [], none, none⟩], []⟩ := by
    rw [ofText_iff, readDocument_iff]
    refine ⟨[], ?_, blank_nil⟩
    rw [show ("[[[[\"a\"],[\"Cl" ++ "ass\"],[\"t\"]]]]" : String).toList = ['[', '[', '[', '[', '"', 'a', '"', ']',
      ',', '[', '"', 'C', 'l', 'a', 's', 's', '"', ']', ',', '[', '"', 't', '"', ']', ']', ']', ']'] by decide]
    rfl
  have hlost : ∃ c ∈ ("ass\"],[\"t\"]]]]" : String).toList, isBlank c = false := ⟨'a', by decide, rfl⟩
  exact ⟨hread, hlost, ofText_truncated hread hlost⟩

end SymbolGraph

end ApiReference
