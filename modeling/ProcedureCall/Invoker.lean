import ProcedureCall.Plan.Basic
import ProcedureCall.Projection
import ProcedureCall.Value.Text

/-!
# Invoking a call

An invoker takes a call from its text to its result. The call is planned when the invoker is made.
Values are bound through the driver, and each accepted bind is told to an observer. The call is
executed at most once; after that the output parameters are there as one row whenever the driver has
no result set of its own.
-/

namespace ProcedureCall

/-- Where an invoker stands. -/
structure Progress where
  /-- The row of output values. -/
  projector : Projector
  /-- Was the call executed? -/
  isExecuted : Bool := false
  /-- Was the invoker closed? -/
  isClosed : Bool := false
  deriving Repr

/-- A planned call. -/
structure Invoker (σ ν π : Type) where
  /-- The driver's call. -/
  call : DriverCall σ
  /-- What was decided about the call. -/
  plan : Plan π
  /-- Is told of each accepted bind. -/
  observe : Key → Value → Action σ Note Unit

/-- The result of an execution. -/
inductive ResultSet where
  /-- A result set of the driver. -/
  | native (result : QueryResult)
  /-- The row of output values. -/
  | projected
  deriving Repr

/-- The observer that writes each bind into the log, the value cut to a hundred characters. -/
def logBind {σ : Type} (key : Key) (value : Value) : Action σ Note Unit :=
  Action.record (.ofLog .debug "parameter bound"
    [("key", key), ("value", .text (String.ofList (value.literal.take 100)))])

/-- The observer that does nothing. -/
def ignoreBind {σ : Type} (_ : Key) (_ : Value) : Action σ Note Unit := pure ()

namespace Invoker

variable {σ ν π : Type}

/-- Plans a call and gathers its output columns. -/
def prepare (s : Session σ ν π) (call : DriverCall σ) (text : Option String)
    (observe : Key → Value → Action σ Note Unit) :
    Action σ (Event ν π) (Invoker σ ν π × Progress) := do
  let plan ← planCall s call text
  let projector ← Action.ofExcept (({} : Projector).addColumns plan.columns)
  pure (⟨call, plan, observe⟩, { projector })

/-- Runs an action of the driver beside the progress of an invoker. -/
def outside {ε α : Type} (a : Action σ ε α) : Action (Progress × σ) ε α :=
  a.within (·.2) fun w world => (world.1, w)

/-- Runs an action on the row of output values. -/
def onProjector {ε α : Type} (a : Action (Projector × σ) ε α) : Action (Progress × σ) ε α :=
  a.within (fun w => (w.1.projector, w.2)) fun changed w =>
    ({ w.1 with projector := changed.1 }, changed.2)

variable (i : Invoker σ ν π)

/-- Tells the observer of a bind. -/
def tell (key : Key) (value : Value) : Action σ (Event ν π) Unit :=
  ((i.observe key value).entering .note).noting fun _ => .observed key value

/-- Binds a value. -/
def bind (key : Key) (value : Value) : Action (Progress × σ) (Event ν π) Unit :=
  outside do
    i.call.askBind key value
    i.tell key value

/-- Binds the absence of a value. -/
def bindNull (key : Key) (code : Int) : Action (Progress × σ) (Event ν π) Unit :=
  outside do
    i.call.askBindNull key code
    i.tell key .null

/-- Binds values to the places from the given one on. -/
def bindFrom (slot : Nat) : List Value → Action (Progress × σ) (Event ν π) Unit
  | [] => pure ()
  | value :: values => do
    i.bind (.int slot) value
    bindFrom (slot + 1) values

/-- Binds values to the places from 1 on. -/
def bindAll (values : List Value) : Action (Progress × σ) (Event ν π) Unit := i.bindFrom 1 values

/-- Registers an output parameter. -/
def register (slot code : Int) : Action (Progress × σ) (Event ν π) Unit :=
  outside (i.call.askRegister slot code)

/-- Reads the value that came out at a parameter. -/
def read (key : Key) : Action (Progress × σ) (Event ν π) Value := outside (i.call.askRead key)

/-- Was the value read last absent? -/
def wasNull : Action (Progress × σ) (Event ν π) Bool := outside (i.call.wasNull.entering .note)

/-- Fetches an output value through the driver. -/
def fetch : Fetch σ (Event ν π) := fun ordinal => i.call.askRead (.int ordinal)

/-- Has the driver execute the call, and notes whether it has a result set of its own. -/
def executeDriver : Action σ (Event ν π) Bool :=
  spanning .note "db.call" (briefly (i.plan.text.getD "")) do
    let native ← i.call.askExecute
    Action.record (.note (.spanData "native_result" (.bool native)))
    pure native

/-- Commits the row of output values after an execution, and tells whether there is a result of
either kind. -/
def commit (native : Bool) : Action (Progress × σ) (Event ν π) Bool := do
  Action.change fun w => ({ w.1 with isExecuted := true }, w.2)
  let projector ← Action.ofExcept (← Action.world).1.projector.addRow
  Action.change fun w => ({ w.1 with projector }, w.2)
  pure (native || !projector.columns.isEmpty)

/-- Executes the call, commits the row of output values, and tells whether there is a result of
either kind. A call is executed once; one that failed may be tried again. -/
def execute : Action (Progress × σ) (Event ν π) Bool := do
  let progress := (← Action.world).1
  if progress.isClosed then Action.fail (.tool .driver "Call is closed")
  else if progress.isExecuted then
    Action.fail (.tool .driver "Call already executed; prepare a new call")
  else do commit (← outside i.executeDriver)

/-- The result: the driver's own, or the row of output values if it is committed and has columns. -/
def resultSet : Action (Progress × σ) (Event ν π) (Option ResultSet) := do
  match ← outside (i.call.resultSet.entering .note) with
  | some native => pure (some (.native native))
  | none =>
    let projector := (← Action.world).1.projector
    pure (if projector.isCommitted && !projector.columns.isEmpty then some .projected else none)

/-- Is there a further result? -/
def nextResults : Action (Progress × σ) (Event ν π) Bool := do
  if ← outside (i.call.moreResults.entering .note) then pure true
  else pure (!(← Action.world).1.projector.columns.isEmpty)

/-- Ends the call, once. -/
def close : Action (Progress × σ) (Event ν π) Unit := do
  if (← Action.world).1.isClosed then pure ()
  else do
    Action.change fun w => ({ w.1 with isClosed := true, projector := w.1.projector.close }, w.2)
    outside i.call.askClose

end Invoker

end ProcedureCall
