import ProcedureCall.Entries
import ProcedureCall.Fault
import ProcedureCall.Journal

/-!
# Logging

Which log records are shown, and the logger that carries a name.
-/

namespace ProcedureCall

/-- The least level that is shown. -/
def threshold (verbose : Bool) : Level := if verbose then .debug else .warning

/-- Is the record shown? -/
def LogRecord.isShown (verbose : Bool) (r : LogRecord) : Bool :=
  (threshold verbose).weight ≤ r.level.weight

/-- The records that are shown. -/
def shownRecords (verbose : Bool) (records : List LogRecord) : List LogRecord :=
  records.filter (LogRecord.isShown verbose)

/-- Other words for levels. -/
def levelWords : List (String × Level) :=
  [("warn", .warning), ("fatal", .critical), ("exception", .error), ("msg", .info)]

/-- The level that a word stands for. -/
def Level.ofWord? (word : String) : Option Level :=
  Level.ofText? word <|> Entries.get? word levelWords

/-- The fields that a record does not show: its level, and how long something took. -/
def hiddenFields : List String := ["log_level", "duration_ms"]

/-- A logger, which adds its own fields to each record. -/
structure Logger where
  /-- The fields. -/
  fields : List (String × Value) := []

namespace Logger

/-- The logger with a name; no name or an empty one adds nothing. -/
def named (name : Option String) : Logger :=
  match name with
  | none => {}
  | some name => if name.isEmpty then {} else ⟨[("logger", .text name)]⟩

/-- The record of an event. The fields of the event count before those of the logger. -/
def record (l : Logger) (level : Level) (event : String) (fields : List (String × Value)) :
    LogRecord :=
  ⟨level, event, fields.foldl (fun all (name, v) => Entries.put name v all) l.fields⟩

/-- The record of an event under a word for its level. An exception is marked as one. No field may
have the name that the event itself goes by. -/
def event (l : Logger) (word event : String) (fields : List (String × Value)) :
    Except Fault LogRecord :=
  match Level.ofWord? word with
  | none => .error (.mishap .missingMember ("no level goes by the word '" ++ word ++ "'"))
  | some level =>
    if (Entries.get? "event" fields).isSome then
      .error (.mishap .wrongType "the event is given twice")
    else
      let mark := if word = "exception" then [("exc_info", Value.bool true)] else []
      let r := l.record level event (mark ++ fields)
      .ok { r with fields := r.fields.filter fun (name, _) => !hiddenFields.contains name }

end Logger

end ProcedureCall
