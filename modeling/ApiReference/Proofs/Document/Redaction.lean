import ApiReference.Document.Reference
import ApiReference.Proofs.Document.Correspondence
import ApiReference.Proofs.Graph.Prepared

/-! The comment of an opted-out symbol has no influence: the document is the one of the table without
such comments, and two runs whose graphs differ in nothing else give the same document. -/

namespace ApiReference

namespace Symbol

def redact (hidden : List String) (s : Symbol) : Symbol :=
  if s.id ∈ hidden then { s with doc := none } else s

variable (hidden : List String) (s : Symbol)

@[simp] lemma redact_id : (s.redact hidden).id = s.id := by
  rw [redact]
  split <;> rfl

@[simp] lemma redact_kind : (s.redact hidden).kind = s.kind := by
  rw [redact]
  split <;> rfl

@[simp] lemma redact_title : (s.redact hidden).title = s.title := by
  rw [redact]
  split <;> rfl

@[simp] lemma redact_declaration : (s.redact hidden).declaration = s.declaration := by
  rw [redact]
  split <;> rfl

lemma redact_of_mem (h : s.id ∈ hidden) : s.redact hidden = { s with doc := none } := if_pos h

lemma redact_of_notMem (h : s.id ∉ hidden) : s.redact hidden = s := if_neg h

lemma redact_congr {hidden hidden' : List String} (h : ∀ x, x ∈ hidden ↔ x ∈ hidden') :
    redact hidden = redact hidden' := by
  funext s
  simp only [redact, h]

lemma redact_backfill (secondary : List Symbol) (h : s.id ∈ hidden) :
    (s.backfill secondary).redact hidden = { s with doc := none } := by
  rw [redact_of_mem _ _ (by rwa [backfill_id]), backfill]
  split
  · rfl
  · split <;> rfl

end Symbol

namespace SymbolTable

def redact (table : SymbolTable) (hidden : List String) : SymbolTable where
  symbols := table.symbols.map (Symbol.redact hidden)
  nodup := by simpa only [List.map_map, Function.comp_def, Symbol.redact_id] using table.nodup

variable (table : SymbolTable) (hidden : List String)

lemma symbols_redact : (table.redact hidden).symbols = table.symbols.map (Symbol.redact hidden) := rfl

lemma ids_redact : (table.redact hidden).ids = table.ids := by
  simp only [ids, symbols_redact, List.map_map, Function.comp_def, Symbol.redact_id]

lemma find?_redact (x : String) :
    (table.redact hidden).find? x = (table.find? x).map (Symbol.redact hidden) := by
  simp only [find?, symbols_redact, List.find?_map, Function.comp_def, Symbol.redact_id]

lemma section_redact (category : Category) :
    (table.redact hidden).section category = (table.section category).map (Symbol.redact hidden) :=
  section_map (symbols_redact table hidden) (Symbol.redact_kind hidden) (Symbol.redact_title hidden) category

lemma counts_redact : (table.redact hidden).counts = table.counts := by
  simp only [counts, section_redact, List.length_map]

lemma redact_without (ids : List String) :
    (table.without ids).redact hidden = (table.redact hidden).without ids := by
  apply eq_of_symbols
  simp only [symbols_redact, symbols_without, List.filter_map, Function.comp_def, Symbol.redact_id]

lemma redact_congr {hidden hidden' : List String} (h : ∀ x, x ∈ hidden ↔ x ∈ hidden') :
    table.redact hidden = table.redact hidden' := by
  apply eq_of_symbols
  rw [symbols_redact, symbols_redact, Symbol.redact_congr h]

lemma redact_ofList (symbols : List Symbol) :
    (ofList symbols).redact hidden = ofList (symbols.map (Symbol.redact hidden)) := by
  apply eq_of_symbols
  rw [symbols_redact, symbols_ofList_map _ _ Function.injective_id (Symbol.redact_id hidden)]

end SymbolTable

namespace DocumentSource

def redacted (d : DocumentSource) : DocumentSource := ⟨d.table.redact d.optedOut, d.index, []⟩

lemma documentation_redacted (d : DocumentSource) (options : DocumentOptions) (s : Symbol) :
    d.redacted.documentation options (s.redact d.optedOut) = d.documentation options s := by
  by_cases hs : s.id ∈ d.optedOut
  · have ht : (s.redact d.optedOut).docText = "" := by
      rw [Symbol.redact_of_mem _ _ hs]
      rfl
    simp [documentation, undocumented, hs, ht]
  · simp [documentation, undocumented, redacted, hs, Symbol.redact_of_notMem _ _ hs]

lemma corresponds_redacted (d : DocumentSource) (options : DocumentOptions) :
    d.Corresponds d.redacted options (Symbol.redact d.optedOut) id where
  injective := Function.injective_id
  id := Symbol.redact_id d.optedOut
  kind := Symbol.redact_kind d.optedOut
  title := Symbol.redact_title d.optedOut
  declaration := Symbol.redact_declaration d.optedOut
  find := d.table.find?_redact d.optedOut
  members _ := (List.map_id _).symm
  requirements _ := (List.map_id _).symm
  conformances _ := (List.map_id _).symm
  superclasses _ := (List.map_id _).symm
  sections category _ := d.table.section_redact d.optedOut category
  documentation := d.documentation_redacted options

lemma markdown_redacted (d : DocumentSource) (options : DocumentOptions) :
    d.redacted.markdown options = d.markdown options :=
  (d.corresponds_redacted options).markdown

end DocumentSource

def AgreeBut (hidden : String → Prop) (s t : Symbol) : Prop :=
  s = t ∨ hidden s.id ∧ t = { s with doc := t.doc }

lemma AgreeBut.symm {hidden : String → Prop} {s t : Symbol} (h : AgreeBut hidden s t) :
    AgreeBut hidden t s := by
  rcases h with rfl | ⟨hs, ht⟩
  · exact Or.inl rfl
  · refine Or.inr ⟨?_, ?_⟩
    · rw [ht]
      exact hs
    · rw [ht]

lemma redact_backfillAll {hidden : List String} {as bs : List Symbol} (secondary : List Symbol)
    (h : List.Forall₂ (AgreeBut (· ∈ hidden)) as bs) :
    (backfillAll as secondary).map (Symbol.redact hidden) =
      (backfillAll bs secondary).map (Symbol.redact hidden) := by
  induction h with
  | nil => rfl
  | @cons s t as bs hst _ ih =>
    have he : (s.backfill secondary).redact hidden = (t.backfill secondary).redact hidden := by
      rcases hst with rfl | ⟨hs, ht⟩
      · rfl
      · have hid : t.id = s.id := by rw [ht]
        rw [Symbol.redact_backfill _ _ _ hs, Symbol.redact_backfill _ _ _ (hid ▸ hs), ht]
    simp only [backfillAll, List.map_cons] at ih ⊢
    rw [he, ih]

lemma primaryOptOuts_of_redact {hidden : List String} {table table' : SymbolTable} {marker x : String}
    (h : table.redact hidden = table'.redact hidden) (hn : x ∉ hidden)
    (hx : x ∈ primaryOptOuts table marker) : x ∈ primaryOptOuts table' marker := by
  rw [mem_primaryOptOuts] at hx ⊢
  obtain ⟨s, hs, ho, rfl⟩ := hx
  have hm : s ∈ (table'.redact hidden).symbols := by
    rw [← h, SymbolTable.symbols_redact]
    exact List.mem_map.mpr ⟨s, hs, Symbol.redact_of_notMem _ _ hn⟩
  obtain ⟨t, ht, hts⟩ := List.mem_map.mp hm
  have hid : t.id = s.id := by rw [← hts, Symbol.redact_id]
  rw [Symbol.redact_of_notMem _ _ (hid ▸ hn)] at hts
  exact ⟨t, ht, hts ▸ ho, hid⟩

namespace PreparedGraph

section

variable {a b : LoadedGraphs} {hidden : List String} (headers : List String) (marker : String)
variable (hs : a.secondary = b.secondary) (h : List.Forall₂ (AgreeBut (· ∈ hidden)) a.symbols b.symbols)
include hs h

lemma redact_complete : (complete a).redact hidden = (complete b).redact hidden := by
  rw [complete, complete, SymbolTable.redact_ofList, SymbolTable.redact_ofList, hs,
    redact_backfillAll b.secondary h]

lemma excluded_agree : (prepare a headers marker).excluded = (prepare b headers marker).excluded := by
  rw [excluded_prepare, excluded_prepare, hs]
  apply excludedIds_congr
  rw [← (complete a).ids_redact hidden, redact_complete hs h, SymbolTable.ids_redact]

lemma redact_table :
    (prepare a headers marker).table.redact hidden = (prepare b headers marker).table.redact hidden := by
  rw [table_prepare, table_prepare, SymbolTable.redact_without, SymbolTable.redact_without,
    redact_complete hs h, excluded_agree headers marker hs h]

lemma optedOut_agree {x : String} (hn : x ∉ hidden) (hx : x ∈ (prepare a headers marker).optedOut) :
    x ∈ (prepare b headers marker).optedOut := by
  rw [mem_optedOut] at hx ⊢
  rcases hx with hx | hx
  · exact Or.inl (hs ▸ hx)
  · exact Or.inr (primaryOptOuts_of_redact (redact_table headers marker hs h) hn hx)

lemma optedOut_iff_hidden (hboth : ∀ x, x ∈ hidden ↔
      x ∈ (prepare a headers marker).optedOut ∧ x ∈ (prepare b headers marker).optedOut) (x : String) :
    x ∈ (prepare a headers marker).optedOut ↔ x ∈ hidden := by
  refine ⟨fun hx => ?_, fun hx => ((hboth x).mp hx).1⟩
  -- An id that only the first run opts out is not redacted, so its symbol is in both tables.
  by_contra hn
  exact hn ((hboth x).mpr ⟨hx, optedOut_agree headers marker hs h hn hx⟩)

end

theorem optedOut_docs_unseen (a b : LoadedGraphs) (headers : List String) (marker : String)
    (hr : a.relationships = b.relationships) (hs : a.secondary = b.secondary)
    (h : List.Forall₂ (AgreeBut fun x =>
      x ∈ (prepare a headers marker).optedOut ∧ x ∈ (prepare b headers marker).optedOut)
      a.symbols b.symbols) (options : DocumentOptions) :
    (prepare a headers marker).markdown options = (prepare b headers marker).markdown options ∧
      (prepare a headers marker).stats.sections = (prepare b headers marker).stats.sections := by
  let p := prepare a headers marker
  let q := prepare b headers marker
  let both := p.optedOut.filter q.optedOut.contains
  have hboth : ∀ x, x ∈ both ↔ x ∈ p.optedOut ∧ x ∈ q.optedOut := by simp [both]
  have hab : List.Forall₂ (AgreeBut (· ∈ both)) a.symbols b.symbols := by simpa only [hboth] using h
  have hba : List.Forall₂ (AgreeBut (· ∈ both)) b.symbols a.symbols :=
    (hab.imp fun _ _ => AgreeBut.symm).flip
  have hp : ∀ x, x ∈ p.optedOut ↔ x ∈ both := optedOut_iff_hidden headers marker hs hab hboth
  have hq : ∀ x, x ∈ q.optedOut ↔ x ∈ both :=
    optedOut_iff_hidden headers marker hs.symm hba fun x => (hboth x).trans and_comm
  have ht : p.table.redact both = q.table.redact both := redact_table headers marker hs hab
  have hi : p.index = q.index := by
    rw [index_prepare, index_prepare, hr, excluded_agree headers marker hs hab]
    apply RelationIndex.build_congr
    intro x
    rw [List.mem_append, List.mem_append]
    exact or_congr ((hp x).trans (hq x).symm) Iff.rfl
  have hsource : p.source.redacted = q.source.redacted := by
    simp only [DocumentSource.redacted, source, hi, p.table.redact_congr hp, q.table.redact_congr hq, ht]
  constructor
  · rw [markdown, ← DocumentSource.markdown_redacted, hsource, DocumentSource.markdown_redacted, markdown]
  · rw [stats, stats, ← p.table.counts_redact both, ht, SymbolTable.counts_redact]

def marked (comment : String) : LoadedGraphs where
  symbols :=
    [⟨"f", .function, "f()", ["func f()"], none, none⟩,
      ⟨"f", .function, "f()", ["func f()"], some ⟨[":nodoc:", comment]⟩, none⟩]
  relationships := []
  secondary := []

theorem optedOut_docs_unseen_marked :
    (marked "one").symbols ≠ (marked "two").symbols ∧
      (prepare (marked "one") [] ":nodoc:").markdown (.forModule "Demo") =
        (prepare (marked "two") [] ":nodoc:").markdown (.forModule "Demo") :=
  ⟨by decide, (optedOut_docs_unseen (marked "one") (marked "two") [] ":nodoc:" rfl rfl
    (.cons (Or.inl rfl) (.cons (Or.inr ⟨⟨by decide, by decide⟩, rfl⟩) .nil)) (.forModule "Demo")).1⟩

end PreparedGraph

end ApiReference
