import ProcedureCall.Action
import ProcedureCall.Journal
import ProcedureCall.Parameter

/-!
# Scripts of faults

A rehearsal plays the collaborators of a call from a script. What each method does is fixed, save
that a list tells which of its uses fail, and how.
-/

namespace ProcedureCall.Rehearsal

/-- Which uses of a method fail: the first with the first entry if there is one, and so on. Uses
past the end succeed. -/
abbrev FaultScript := List (Option Fault)

/-- Where a node stands: below the root, or below the numbered node that stands alone. -/
structure Place where
  /-- The number of the node that stands alone, if it is not the root. -/
  alone : Option Nat
  /-- The names from the top down. -/
  names : List String
  deriving DecidableEq, Repr

/-- How far a rehearsal has come. -/
structure World where
  /-- How often the parameters of a procedure were read. -/
  parameterReads : List (Place × Nat) := []
  /-- Which registrations are still to fail. -/
  registerFaults : FaultScript := []
  /-- Which binds are still to fail. -/
  bindFaults : FaultScript := []
  /-- Which reads are still to fail. -/
  readFaults : FaultScript := []
  /-- Which executions are still to fail. -/
  executeFaults : FaultScript := []
  /-- Was the value read last absent? -/
  wasNull : Bool := false

/-- Takes the next entry off a script and fails with it, if it is a fault. -/
def follow (get : World → FaultScript) (set : FaultScript → World → World) :
    Action World Note Unit := do
  let script := get (← Action.world)
  Action.change (set (script.drop 1))
  match script.head?.join with
  | some fault => Action.fail fault
  | none => pure ()

end ProcedureCall.Rehearsal
