import ApiReference.CommandLine.Basic
import ApiReference.Envelope.Data
import ApiReference.Run.Generate
import ApiReference.Run.Report
import ApiReference.Settings.Load

/-! Carrying out an invocation. -/

namespace ApiReference

structure Finished (α : Type) where
  result : Except Failure α
  log : List LogRecord

section

variable {m : Type → Type} [Monad m]

def Job.finish {α : Type} (job : Job m α) : m (Finished α) := do
  let (result, log) ← (job.run).run []
  pure { result, log }

def failureReport (failure : Failure) (json : Bool) : Report :=
  if json then { output := [(Envelope.ofFailure failure).text], exitCode := 1 }
  else
    .complaint (["Error: " ++ failure.message] ++
      (failure.suggestion.map ("  Suggestion: " ++ ·)).toList)

def summaryLines (plan : RunPlan) (stats : RunStats) : List String :=
  let s := stats.sections
  (if stats.mergedDocComments > 0 then
    [s!"Merged {stats.mergedDocComments} doc comments from the header symbol graph"] else []) ++
  (if stats.excludedSymbols > 0 then
    [s!"Excluded {stats.excludedSymbols} symbols declared in internal headers"] else []) ++
  [s!"Generated {plan.output}",
   s!"  {s.classes} classes, {s.protocols} protocols, {s.enumerations} enums, " ++
     s!"{s.structures} structs, {s.typeAliases} type aliases",
   s!"  {s.globalFunctions} global functions, {s.globalVariables} global variables",
   s!"  {stats.totalSymbols} total symbols (after filtering {stats.optedOutSymbols} opted out)"]

def renderReport (plan : RunPlan) (stats : RunStats) (json : Bool) (ms : Nat) : Report :=
  if json then
    let e := (Envelope.success stats.toJson).withEntityType .runStats
    let e := (e.withMessage ("Generated " ++ plan.output)).withDurationMs ms
    { output := [e.text] }
  else { errors := (summaryLines plan stats).map .plain }

def planOf (host : Host m) (settings : Settings) : Job m RunPlan := do
  match ← (RunPlan.ofSettings host settings).run with
  | .ok plan => pure plan
  | .error failure => throw failure

def runRender (host : Host m) (settings : Settings) (json : Bool) (filter : List LogDirective) :
    m Report := do
  let started ← host.clock
  let done ← Job.finish do
    let plan ← planOf host settings
    pure (plan, ← generate host plan)
  let ended ← host.clock
  let report := match done.result with
    | .error failure => failureReport failure json
    | .ok (plan, stats) => renderReport plan stats json (ended - started)
  pure (report.after (Report.shown filter done.log))

def memberLine (row : MemberRow) : String :=
  let source := match row.source with
    | some source => "  (from " ++ source ++ ")"
    | none => ""
  "  " ++ Text.padRight 20 row.kind ++ " " ++ row.title ++ source

def unknownType (query : String) (json : Bool) : Report :=
  let message := "Type '" ++ query ++ "' not found"
  if json then
    { output := [((Envelope.notFound message).withQuery query).text], exitCode := 1 }
  else .complaint [message]

def membersReport (heading : String) (rows : List MemberRow) (query : String) (json : Bool)
    (ms : Nat) : Report :=
  if json then
    let e := (Envelope.success (.list (rows.map MemberRow.toJson))).withEntityType .members
    let e := ((e.withMessage heading).withCount rows.length).withQuery query
    { output := [(e.withDurationMs ms).text] }
  else
    { output := [heading] ++ (if rows.isEmpty then ["  (no members)"] else []) ++
        rows.map memberLine }

def runMembers (host : Host m) (settings : Settings) (query : String) (json : Bool)
    (filter : List LogDirective) : m Report := do
  let started ← host.clock
  let done ← Job.finish do
    let plan ← planOf host settings
    let prepared ← loadPrepared host plan
    match prepared.find? query with
    | some owner => note (Journal.membersResolved prepared.hierarchy owner.id)
    | none => pure ()
    pure (prepared.memberRows query)
  let ended ← host.clock
  let report := match done.result with
    | .error failure => failureReport failure json
    | .ok none => unknownType query json
    | .ok (some (heading, rows)) => membersReport heading rows query json (ended - started)
  pure (report.after (Report.shown filter done.log))

def runInit (host : Host m) (force : Bool) : m Report := do
  match ← Settings.initialise host (← host.workingDirectory) force with
  | .ok path =>
    pure { output := ["Created configuration file at: " ++ path,
      "Edit this file to point [inputs] at your symbol graphs."] }
  | .error reason => pure (.complaint ["Error: " ++ reason])

def configReport (settings : Settings) : Report where
  output :=
    ["Current Configuration:", String.ofList (List.replicate 50 '='), settings.text]

def indentCause (text : String) : String :=
  String.intercalate "\n       " (Text.split '\n' text)

def settingsReport (path : String) (e : SettingError) : Report :=
  let failure := Failure.settings e.message
  .complaint
    ["Error: failed to load configuration from " ++ path, "", "Caused by:",
     "    0: " ++ indentCause failure.message, "    1: " ++ indentCause e.message]

/-- The settings of an invocation with what is said about them, or the report that ends the run. A
settings file that was not asked for may be unusable: the defaults take its place. -/
def settingsFor (host : Host m) (environment : List (String × String)) (config : Option String) :
    m (Except Report (Settings × List ErrorLine)) := do
  match config with
  | some path =>
    match ← Settings.loadFrom host environment path with
    | .ok settings => pure (.ok (settings, []))
    | .error e => pure (.error (settingsReport path e))
  | none =>
    match ← Settings.load host environment with
    | .ok settings => pure (.ok (settings, []))
    | .error e => pure (.ok ({}, [.plain ("Configuration error: " ++ e.message)]))

def logDirectives (environment : List (String × String)) (settings : Settings) : String :=
  (valueAt? "RUST_LOG" environment).getD settings.logging.directives

def runCommand (host : Host m) (command : Command) (settings : Settings)
    (filter : List LogDirective) : m Report :=
  match command with
  | .init force => runInit host force
  | .config => pure (configReport settings)
  | .render inputs output json =>
    let settings := inputs.apply settings
    let settings := { settings with outputPath := output.getD settings.outputPath }
    runRender host settings json filter
  | .members symbol inputs json => runMembers host (inputs.apply settings) symbol json filter

def runInvocation (host : Host m) (environment : List (String × String)) (call : Invocation) :
    m Report := do
  match ← settingsFor host environment call.config with
  | .error report => pure report
  | .ok (settings, said) =>
    let logging := if call.info then { settings.logging with default := "info" }
      else settings.logging
    let settings := { settings with logging }
    let (filter, complaints) := LogFilter.ofText (logDirectives environment settings)
    let report ← runCommand host call.command settings filter
    pure (report.after (said ++ complaints.map .plain))

end

end ApiReference
