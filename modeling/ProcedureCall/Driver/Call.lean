import ProcedureCall.Action
import ProcedureCall.Journal
import ProcedureCall.Parameter

/-!
# Calls as drivers provide them

A driver's call takes values, is executed once, and gives values and result sets back. The functions
whose names begin with `ask` enter each request into the journal, with whether it was accepted.
-/

namespace ProcedureCall

/-- A prepared call in a world `σ`. -/
structure DriverCall (σ : Type) where
  /-- What the driver knows of the parameters, if it tells. -/
  report : Action σ Note (Option (List ReportedParameter))
  /-- Announces that a value of a type comes out at a place. -/
  register : Int → Int → Action σ Note Unit
  /-- Gives a value to a parameter. -/
  bind : Key → Value → Action σ Note Unit
  /-- Gives no value to a parameter of a type. -/
  bindNull : Key → Int → Action σ Note Unit
  /-- Reads the value that came out at a parameter. -/
  read : Key → Action σ Note Value
  /-- Was the value read last absent? -/
  wasNull : Action σ Note Bool
  /-- Executes the call and tells whether there is a result set. -/
  execute : Action σ Note Bool
  /-- The result set, if there is one. -/
  resultSet : Action σ Note (Option QueryResult)
  /-- Is there a further result set? -/
  moreResults : Action σ Note Bool
  /-- Ends the call. -/
  close : Action σ Note Unit

namespace DriverCall

variable {σ ν π : Type} (call : DriverCall σ)

/-- Asks what the driver knows of the parameters. -/
def askReport : Action σ (Event ν π) (Option (List ReportedParameter)) :=
  (call.report.entering .note).noting fun _ => .reportAsked

/-- Announces that a value of a type comes out at a place. -/
def askRegister (slot code : Int) : Action σ (Event ν π) Unit :=
  ((call.register slot code).entering .note).noting (.registered slot code)

/-- Gives a value to a parameter. -/
def askBind (key : Key) (value : Value) : Action σ (Event ν π) Unit :=
  ((call.bind key value).entering .note).noting (.bound key value)

/-- Gives no value to a parameter of a type. -/
def askBindNull (key : Key) (code : Int) : Action σ (Event ν π) Unit :=
  ((call.bindNull key code).entering .note).noting (.boundNull key code)

/-- Reads the value that came out at a parameter. -/
def askRead (key : Key) : Action σ (Event ν π) Value :=
  ((call.read key).entering .note).noting (.read key)

/-- Executes the call. -/
def askExecute : Action σ (Event ν π) Bool :=
  (call.execute.entering .note).noting .executed

/-- Ends the call. -/
def askClose : Action σ (Event ν π) Unit :=
  (call.close.entering .note).noting fun _ => .closed

end DriverCall

end ProcedureCall
