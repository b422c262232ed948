import ApiReference.Document.Reference
import ApiReference.Log.Record

/-! What a run tells its log about preparing and rendering graphs. -/

namespace ApiReference.Journal

def record (level : LogLevel) (target message : String) : LogRecord := ⟨level, target, message⟩

def loaderTarget : String := "symdoc::symbolgraph::loader"
def mergeTarget : String := "symdoc::indexing::doc_merge"
def visibilityTarget : String := "symdoc::indexing::visibility"
def indexTarget : String := "symdoc::indexing::relationship_index"
def hierarchyTarget : String := "symdoc::indexing::hierarchy"
def pipelineTarget : String := "symdoc::pipeline"

def graphLoaded (path : String) (graph : SymbolGraph) : LogRecord :=
  record .debug loaderTarget
    (s!"[loader] {path}: {graph.symbols.length} symbols, " ++
      s!"{graph.relationships.length} relationships")

def allLoaded (loaded : LoadedGraphs) : LogRecord :=
  record .info loaderTarget
    (s!"[loader] loaded {loaded.symbols.length} primary symbols, " ++
      s!"{loaded.relationships.length} relationships, " ++
      s!"{loaded.secondary.length} secondary symbols")

def headersListed (path : String) (headers : List String) : LogRecord :=
  record .debug visibilityTarget
    s!"[visibility] {path} lists {headers.length} internal headers"

def headersUnreadable (path reason : String) : LogRecord :=
  record .warn visibilityTarget
    (s!"[visibility] cannot read umbrella header {path}: {reason}; " ++ "skipping exclusion")

def ignoredEdges (loaded : LoadedGraphs) (p : PreparedGraph) : List LogRecord :=
  loaded.relationships.filterMap fun r =>
    if RelationIndex.touches (p.optedOut ++ p.excluded) r then none
    else
      match r.kind with
      | .other name =>
        some (record .trace indexTarget s!"[index] ignoring {name} edge {r.source} -> {r.target}")
      | _ => none

def indexBuilt (index : RelationIndex) : LogRecord :=
  record .debug indexTarget
    (s!"[index] {index.members.length} member lists, " ++
      s!"{index.requirements.length} requirement lists, " ++
      s!"{index.conformances.length} conformance lists, " ++
      s!"{index.superclasses.length} inheritance lists ({index.dropped} edges dropped)")

def prepared (loaded : LoadedGraphs) (p : PreparedGraph) : List LogRecord :=
  [record .info mergeTarget
    s!"[merge] merged {p.merged} doc comments from the secondary graph"] ++
  (if p.excluded.isEmpty then []
   else [record .info pipelineTarget s!"[filter] excluded {p.excluded.length} internal symbols"]) ++
  [record .debug pipelineTarget s!"[filter] {p.optedOut.length} opted-out ids"] ++
  ignoredEdges loaded p ++ [indexBuilt p.index]

def membersResolved (h : Hierarchy) (id : String) : List LogRecord :=
  match h.table.find? id with
  | none => []
  | some owner =>
    if owner.kind.inheritsProtocolMembers then
      let direct := h.directIds owner
      ((h.foreignCandidates direct id).filter fun c => h.overridden direct c.1).map fun c =>
        record .trace hierarchyTarget
          s!"[hierarchy] {id}: {c.1} overridden by a direct declaration"
    else []

def rendered (p : PreparedGraph) : List LogRecord :=
  DocumentSource.typeSections.flatMap fun category =>
    (p.table.section category).flatMap fun s => membersResolved p.hierarchy s.id

def written (output : String) (stats : RunStats) : List LogRecord :=
  let s := stats.sections
  [s!"[render] generated {output}",
   s!"[render] {s.classes} classes, {s.protocols} protocols, {s.enumerations} enums, " ++
     s!"{s.structures} structs, {s.typeAliases} type aliases",
   s!"[render] {s.globalFunctions} global functions, {s.globalVariables} global variables",
   s!"[render] {stats.totalSymbols} total symbols (after filtering " ++
     s!"{stats.optedOutSymbols} opted out)"].map (record .info pipelineTarget)

end ApiReference.Journal
