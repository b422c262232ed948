import ApiReference.Symbol.Basic
import ApiReference.Symbol.Relationship

/-! Symbol graphs, one document each, and the graphs of a run. -/

namespace ApiReference

structure SymbolGraph where
  symbols : List Symbol
  relationships : List Relationship
  deriving DecidableEq, Repr

/-- What a run reads: the primary graphs one after the other, and the symbols of the secondary
graph, whose relationships play no part. -/
structure LoadedGraphs where
  symbols : List Symbol
  relationships : List Relationship
  secondary : List Symbol
  deriving DecidableEq, Repr

def LoadedGraphs.ofGraphs (primary : List SymbolGraph) (secondary : SymbolGraph) : LoadedGraphs where
  symbols := primary.flatMap (·.symbols)
  relationships := primary.flatMap (·.relationships)
  secondary := secondary.symbols

end ApiReference
