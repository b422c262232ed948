import ApiReference.Graph.UmbrellaHeader
import ApiReference.Run.Journal
import ApiReference.Run.Plan
import ApiReference.Symbol.Document

/-! A whole run: graphs are loaded, prepared and rendered, and the document replaces the old one. All
input is read before anything is written. -/

namespace ApiReference

abbrev Job (m : Type → Type) : Type → Type := ExceptT Failure (StateT (List LogRecord) m)

section

variable {m : Type → Type} [Monad m]

def note (records : List LogRecord) : Job m Unit := modify (· ++ records)

def onFile {α : Type} (path : String) (action : m (Except FileFault α)) : Job m α := do
  match ← (action : StateT (List LogRecord) m (Except FileFault α)) with
  | .ok a => pure a
  | .error fault => throw (.file path fault.message)

def loadGraph (host : Host m) (path : String) : Job m SymbolGraph := do
  let text ← onFile path (host.readText path)
  match SymbolGraph.ofText path text with
  | .error failure => throw failure
  | .ok graph =>
    note [Journal.graphLoaded path graph]
    pure graph

def loadGraphs (host : Host m) (primary : List String) (secondary : String) :
    Job m LoadedGraphs := do
  if primary.isEmpty then throw (.missingInput "no primary symbol graphs were given")
  let graphs ← primary.mapM (loadGraph host)
  let headers ← loadGraph host secondary
  let loaded := LoadedGraphs.ofGraphs graphs headers
  note [Journal.allLoaded loaded]
  pure loaded

def loadHeaders (host : Host m) (path : Option String) (importNamespace : String) :
    StateT (List LogRecord) m (List String) := do
  match path with
  | none => pure []
  | some path =>
    if path = "" then pure []
    else
      match ← (host.readText path : m _) with
      | .ok text =>
        let headers := UmbrellaHeader.headers text importNamespace
        modify (· ++ [Journal.headersListed path headers])
        pure headers
      | .error fault =>
        modify (· ++ [Journal.headersUnreadable path fault.message])
        pure []

def loadPrepared (host : Host m) (plan : RunPlan) : Job m PreparedGraph := do
  let loaded ← loadGraphs host plan.primary plan.secondary
  let headers ← ExceptT.lift (loadHeaders host plan.umbrella plan.module)
  let prepared := PreparedGraph.prepare loaded headers plan.options.marker
  note (Journal.prepared loaded prepared)
  pure prepared

def directoryOf (path : String) : String :=
  match Path.parent? path with
  | some parent => if parent = "" then "." else parent
  | none => "."

def writeOutput (host : Host m) (path text : String) : Job m Unit := do
  let directory := directoryOf path
  onFile directory (host.createAll directory)
  let beside ← onFile directory (host.createTemporary directory)
  onFile path (host.persist beside path text)

def generate (host : Host m) (plan : RunPlan) : Job m RunStats := do
  let prepared ← loadPrepared host plan
  note (Journal.rendered prepared)
  writeOutput host plan.output (prepared.markdown plan.options)
  note (Journal.written plan.output prepared.stats)
  pure prepared.stats

end

end ApiReference
