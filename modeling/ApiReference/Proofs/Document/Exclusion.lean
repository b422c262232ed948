import ApiReference.Document.Reference
import ApiReference.Proofs.Graph.Prepared

/-! An excluded symbol leaves no trace: the graphs without it and its edges are prepared to the same
table and index, and give the same document. -/

namespace ApiReference

def LoadedGraphs.without (loaded : LoadedGraphs) (hidden : List String) : LoadedGraphs where
  symbols := loaded.symbols.filter fun s => !hidden.contains s.id
  relationships := loaded.relationships.filter fun r => !RelationIndex.touches hidden r
  secondary := loaded.secondary

lemma DocumentSource.markdown_dropped (d : DocumentSource) (n : ℕ) (options : DocumentOptions) :
    ({ d with index := { d.index with dropped := n } } : DocumentSource).markdown options =
      d.markdown options := rfl

namespace PreparedGraph

lemma complete_without (loaded : LoadedGraphs) (hidden : List String) :
    complete (loaded.without hidden) = (complete loaded).without hidden := by
  rw [complete, complete, ← SymbolTable.ofList_filter]
  exact congrArg SymbolTable.ofList
    (backfillAll_filter loaded.secondary loaded.symbols fun x => !hidden.contains x)

theorem prepare_without_excluded (loaded : LoadedGraphs) (headers : List String) (marker : String) :
    let p := prepare loaded headers marker
    let q := prepare (loaded.without p.excluded) headers marker
    q.excluded = [] ∧ q.table = p.table ∧ q.optedOut = p.optedOut ∧ q.index.tables = p.index.tables ∧
      ∀ options, q.markdown options = p.markdown options ∧ q.stats.sections = p.stats.sections := by
  intro p q
  have he : q.excluded = [] := by
    rw [excluded_prepare, complete_without]
    exact excludedIds_without loaded.secondary headers (complete loaded)
  have ht : q.table = p.table := by
    rw [table_prepare, he, complete_without, SymbolTable.without_nil]
    rfl
  have ho : q.optedOut = p.optedOut := by
    rw [optedOut_prepare, ht]
    rfl
  have hi : q.index.tables = p.index.tables := by
    rw [index_prepare, he, ho, List.append_nil]
    exact RelationIndex.tables_build_filter loaded.relationships p.optedOut p.excluded
  refine ⟨he, ht, ho, hi, fun options => ⟨?_, congrArg SymbolTable.counts ht⟩⟩
  have hs : q.source = { p.source with index := { p.index with dropped := q.index.dropped } } := by
    rw [source, ht, ho, RelationIndex.eq_of_tables hi]
    rfl
  rw [markdown, markdown, hs]
  exact p.source.markdown_dropped q.index.dropped options

end PreparedGraph

end ApiReference
