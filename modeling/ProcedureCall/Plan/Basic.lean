import ProcedureCall.Plan.Reconciliation
import ProcedureCall.Plan.Registration

/-!
# Planning a call

Everything that is decided about a call before it is executed: the procedure that it invokes, what
the catalog and the driver know, which output parameters are registered, and the columns that they
become. Each step makes do with less when it fails, so there is always a plan.
-/

namespace ProcedureCall

/-- What was decided about a call. -/
structure Plan (π : Type) where
  /-- The call text. -/
  text : Option String
  /-- The name that the text invokes. -/
  target : Option String
  /-- The procedure, if it was found. -/
  procedure : Option π
  /-- What the catalog told. -/
  catalog : CatalogSource
  /-- What the driver told. -/
  report : ReportSource
  /-- What was registered. -/
  registration : Registration
  /-- The columns. -/
  reconciliation : Reconciliation

/-- The output columns of a plan. -/
def Plan.columns {π : Type} (plan : Plan π) : List OutputColumn := plan.reconciliation.columns

/-- A text on one line, cut to a hundred characters. -/
def briefly (text : String) : String :=
  String.ofList ((Text.singleSpaced text.toList).take 100)

/-- Runs an action in a span of time. -/
def spanning {σ ε α : Type} (enter : Note → ε) (operation description : String)
    (a : Action σ ε α) : Action σ ε α := do
  Action.record (enter (.spanOpened operation description))
  a.ensuring (Action.record (enter .spanClosed))

section

variable {σ ν π : Type}

/-- Plans a call. -/
def planCall (s : Session σ ν π) (call : DriverCall σ) (text : Option String) :
    Action σ (Event ν π) (Plan π) :=
  spanning .note "db.call.plan" (briefly (text.getD "")) do
    let target := s.dialect.target? text
    let procedure ←
      match target with
      | some name => s.resolve name
      | none => pure none
    let report ← reportSource call
    let registration ← registerOutputs s call report procedure
    let catalog ← catalogSource s procedure
    let reconciliation ← reconcile s catalog report
    let columns : Value := .int reconciliation.columns.length
    let outcome : Value := .text reconciliation.outcome.text
    Action.record (.note (.spanData "outcome" outcome))
    Action.record (.note (.spanData "column_count" columns))
    Session.debug "call planned"
      [ ("target", target.elim .null .text), ("resolved", .bool procedure.isSome),
        ("registration", .text registration.source.text), ("outcome", outcome),
        ("columns", columns) ]
    pure { text, target, procedure, catalog, report, registration, reconciliation }

end

end ProcedureCall
