import ApiReference.Distinct
import ApiReference.Symbol.Table

/-! The top-level symbols of a table by section, each section in order of title. -/

namespace ApiReference

def SymbolTable.section (table : SymbolTable) (category : Category) : List Symbol :=
  if category = .member then []
  else (table.symbols.filter fun s => decide (s.kind.category = category)).mergeSort
    fun a b => textLe a.title b.title

structure SectionCounts where
  classes : Nat
  protocols : Nat
  enumerations : Nat
  structures : Nat
  typeAliases : Nat
  globalFunctions : Nat
  globalVariables : Nat
  uncategorized : Nat
  deriving DecidableEq, Repr

def SymbolTable.counts (table : SymbolTable) : SectionCounts where
  classes := (table.section .classType).length
  protocols := (table.section .protocol).length
  enumerations := (table.section .enumeration).length
  structures := (table.section .structureType).length
  typeAliases := (table.section .typeAlias).length
  globalFunctions := (table.section .globalFunction).length
  globalVariables := (table.section .globalVariable).length
  uncategorized := (table.section .uncategorized).length

end ApiReference
