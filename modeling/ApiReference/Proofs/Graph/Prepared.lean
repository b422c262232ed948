import ApiReference.Graph.Prepared
import ApiReference.Proofs.Distinct
import ApiReference.Proofs.Graph.Index
import ApiReference.Proofs.Symbol.Table

/-! The steps of preparation one by one: backfilling keeps ids, and what is excluded or opted out
depends only on the secondary graph and on what the table holds. -/

namespace ApiReference

lemma backfill_eq (secondary : List Symbol) (s : Symbol) :
    s.backfill secondary = { s with doc := (s.backfill secondary).doc } := by
  rw [Symbol.backfill]
  split
  · rfl
  · split <;> rfl

lemma backfill_id (secondary : List Symbol) (s : Symbol) : (s.backfill secondary).id = s.id := by
  rw [backfill_eq]

lemma backfillAll_filter (secondary symbols : List Symbol) (keep : String → Bool) :
    backfillAll (symbols.filter fun s => keep s.id) secondary =
      (backfillAll symbols secondary).filter fun s => keep s.id := by
  rw [backfillAll, backfillAll, List.filter_map]
  simp only [Function.comp_def, backfill_id]

def Symbol.InHeader (headers : List String) (s : Symbol) : Prop :=
  ∃ name ∈ headers, s.fileName = some name

lemma mem_excludedIds (secondary : List Symbol) (headers : List String) (table : SymbolTable) (x : String) :
    x ∈ excludedIds secondary headers table ↔
      (∃ s ∈ secondary, s.InHeader headers ∧ s.id = x) ∧ x ∈ table.ids := by
  simp only [excludedIds, mem_distinct, List.mem_map, List.mem_filter, Bool.and_eq_true,
    SymbolTable.contains_iff]
  constructor
  · rintro ⟨s, ⟨hs, hf, hm⟩, rfl⟩
    cases hn : s.fileName with
    | none => simp [hn] at hf
    | some name => exact ⟨⟨s, hs, ⟨name, by simpa [hn] using hf, hn⟩, rfl⟩, hm⟩
  · rintro ⟨⟨s, hs, ⟨name, hname, hn⟩, rfl⟩, hm⟩
    exact ⟨s, ⟨hs, by simpa [hn] using hname, hm⟩, rfl⟩

lemma excludedIds_congr (secondary : List Symbol) (headers : List String) {table table' : SymbolTable}
    (h : table.ids = table'.ids) :
    excludedIds secondary headers table = excludedIds secondary headers table' := by
  have hc : table.contains = table'.contains := by
    funext x
    rw [Bool.eq_iff_iff, SymbolTable.contains_iff, SymbolTable.contains_iff, h]
  rw [excludedIds, excludedIds, hc]

lemma excludedIds_without (secondary : List Symbol) (headers : List String) (table : SymbolTable) :
    excludedIds secondary headers (table.without (excludedIds secondary headers table)) = [] := by
  rw [List.eq_nil_iff_forall_not_mem]
  intro x hx
  obtain ⟨hs, hm⟩ := (mem_excludedIds _ _ _ x).mp hx
  obtain ⟨ht, hn⟩ := (SymbolTable.mem_ids_without _ _ x).mp hm
  exact hn ((mem_excludedIds _ _ _ x).mpr ⟨hs, ht⟩)

lemma mem_primaryOptOuts (table : SymbolTable) (marker x : String) :
    x ∈ primaryOptOuts table marker ↔
      ∃ s ∈ table.symbols, isOptedOut s.docText marker ∧ s.id = x := by
  simp only [primaryOptOuts, List.mem_map, List.mem_filter, and_assoc]

namespace RelationIndex

lemma touches_append (hidden hidden' : List String) (r : Relationship) :
    touches (hidden ++ hidden') r = (touches hidden r || touches hidden' r) := by
  simp only [touches, List.contains_eq_mem, List.mem_append, Bool.decide_or]
  ac_rfl

lemma tables_build_filter (relationships : List Relationship) (hidden hidden' : List String) :
    (build (relationships.filter fun r => !touches hidden' r) hidden).tables =
      (build relationships (hidden ++ hidden')).tables := by
  have hf : (relationships.filter fun r => !touches hidden' r).filter (fun r => !touches hidden r) =
      relationships.filter fun r => !touches (hidden ++ hidden') r := by
    rw [List.filter_filter]
    simp only [touches_append, Bool.not_or]
  rw [build_eq, build_eq, hf]
  rfl

lemma eq_of_tables {index index' : RelationIndex} (h : index.tables = index'.tables) :
    index = { index' with dropped := index.dropped } := by
  simp only [tables, List.cons.injEq, and_true] at h
  obtain ⟨hm, hr, hc, hs⟩ := h
  cases index
  cases index'
  cases hm
  cases hr
  cases hc
  cases hs
  rfl

end RelationIndex

namespace PreparedGraph

variable (loaded : LoadedGraphs) (headers : List String) (marker : String)

def complete : SymbolTable := .ofList (backfillAll loaded.symbols loaded.secondary)

lemma excluded_prepare :
    (prepare loaded headers marker).excluded = excludedIds loaded.secondary headers (complete loaded) := rfl

lemma table_prepare :
    (prepare loaded headers marker).table =
      (complete loaded).without (prepare loaded headers marker).excluded := rfl

lemma optedOut_prepare :
    (prepare loaded headers marker).optedOut =
      distinct (secondaryOptOuts loaded.secondary marker ++
        primaryOptOuts (prepare loaded headers marker).table marker) := rfl

lemma mem_optedOut (x : String) :
    x ∈ (prepare loaded headers marker).optedOut ↔
      x ∈ secondaryOptOuts loaded.secondary marker ∨
        x ∈ primaryOptOuts (prepare loaded headers marker).table marker := by
  rw [optedOut_prepare, mem_distinct, List.mem_append]

lemma index_prepare :
    (prepare loaded headers marker).index =
      RelationIndex.build loaded.relationships
        ((prepare loaded headers marker).optedOut ++ (prepare loaded headers marker).excluded) := rfl

end PreparedGraph

end ApiReference
