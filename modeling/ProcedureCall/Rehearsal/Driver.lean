import ProcedureCall.Driver.Call
import ProcedureCall.Rehearsal.Script
import ProcedureCall.Value.Key
import ProcedureCall.Value.Text

/-!
# A driver's call from a script

A call that gives back fixed values, with scripts that tell which of its uses fail.
-/

namespace ProcedureCall.Rehearsal

/-- What a call gives back. -/
structure CallScript where
  /-- What it reports of the parameters. -/
  report : Except Fault (Option (List ReportedParameter)) := .ok none
  /-- The values that come out, by key. -/
  values : List (Key × Value) := []
  /-- The result set of its own. -/
  native : Option QueryResult := none
  /-- Is there a further result set? -/
  hasMore : Bool := false

namespace CallScript

/-- Reads a value. The first entry with the very key counts. -/
def read (c : CallScript) (key : Key) : Action World Note Value := do
  follow (·.readFaults) fun faults w => { w with readFaults := faults }
  match c.values.find? (·.1.isLike key) with
  | some (_, value) =>
    Action.change fun w => { w with wasNull := value.isNull }
    pure value
  | none => Action.fail (.tool .driver ("no value for " ++ String.ofList key.plain))

/-- The call of a script. -/
def call (c : CallScript) : DriverCall World where
  report := Action.ofExcept c.report
  register _ _ := follow (·.registerFaults) fun faults w => { w with registerFaults := faults }
  bind _ _ := follow (·.bindFaults) fun faults w => { w with bindFaults := faults }
  bindNull _ _ := follow (·.bindFaults) fun faults w => { w with bindFaults := faults }
  read := c.read
  wasNull := (·.wasNull) <$> Action.world
  execute := do
    follow (·.executeFaults) fun faults w => { w with executeFaults := faults }
    pure c.native.isSome
  resultSet := pure c.native
  moreResults := pure c.hasMore
  close := pure ()

end CallScript

end ProcedureCall.Rehearsal
