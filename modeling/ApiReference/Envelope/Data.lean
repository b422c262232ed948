import ApiReference.Document.Reference
import ApiReference.Envelope.Document

/-! What envelopes carry: the numbers of a run and the members of a type. -/

namespace ApiReference

def SectionCounts.toJson (c : SectionCounts) : Json :=
  .object
    [("classes", .natural c.classes), ("protocols", .natural c.protocols),
     ("enumerations", .natural c.enumerations), ("structures", .natural c.structures),
     ("type_aliases", .natural c.typeAliases), ("global_functions", .natural c.globalFunctions),
     ("global_variables", .natural c.globalVariables),
     ("uncategorized", .natural c.uncategorized)]

def RunStats.toJson (s : RunStats) : Json :=
  .object
    [("sections", s.sections.toJson), ("total_symbols", .natural s.totalSymbols),
     ("merged_doc_comments", .natural s.mergedDocComments),
     ("excluded_symbols", .natural s.excludedSymbols),
     ("opted_out_symbols", .natural s.optedOutSymbols),
     ("dropped_relationships", .natural s.droppedRelationships)]

def MemberRow.toJson (row : MemberRow) : Json :=
  .object
    ([("id", .text row.id), ("title", .text row.title), ("kind", .text row.kind),
      ("declaration", .text row.declaration), ("inherited", .bool row.inherited)] ++
      optionalMember "from" (row.source.map .text))

end ApiReference
