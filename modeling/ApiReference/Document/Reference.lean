import ApiReference.Document.Markdown
import ApiReference.Graph.Prepared

/-! The reference document of a prepared graph, and the numbers reported beside it. -/

namespace ApiReference

structure RunStats where
  sections : SectionCounts
  totalSymbols : Nat
  mergedDocComments : Nat
  excludedSymbols : Nat
  optedOutSymbols : Nat
  droppedRelationships : Nat
  deriving DecidableEq, Repr

namespace PreparedGraph

def source (p : PreparedGraph) : DocumentSource := ⟨p.table, p.index, p.optedOut⟩

def markdown (p : PreparedGraph) (options : DocumentOptions) : String :=
  p.source.markdown options

def stats (p : PreparedGraph) : RunStats where
  sections := p.table.counts
  totalSymbols := p.table.size
  mergedDocComments := p.merged
  excludedSymbols := p.excluded.length
  optedOutSymbols := p.optedOut.length
  droppedRelationships := p.index.dropped

end PreparedGraph

end ApiReference
