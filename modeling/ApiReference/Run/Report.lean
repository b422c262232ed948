import ApiReference.Log.Filter

/-! What a run of the program prints, and how it ends. -/

namespace ApiReference

inductive ErrorLine
  | plain (text : String)
  | log (record : LogRecord)
  deriving DecidableEq, Repr

structure Report where
  output : List String := []
  errors : List ErrorLine := []
  exitCode : Nat := 0
  deriving DecidableEq, Repr

namespace Report

def shown (filter : List LogDirective) (records : List LogRecord) : List ErrorLine :=
  (records.filter (LogFilter.shows filter)).map .log

def complaint (lines : List String) : Report :=
  { errors := lines.map .plain, exitCode := 1 }

def after (r : Report) (lines : List ErrorLine) : Report := { r with errors := lines ++ r.errors }

def outputText (r : Report) : String := String.join (r.output.map (· ++ "\n"))

def errorText (r : Report) (time : String) : String :=
  String.join (r.errors.map fun line =>
    match line with
    | .plain text => text ++ "\n"
    | .log record => time ++ record.line ++ "\n")

end Report

end ApiReference
