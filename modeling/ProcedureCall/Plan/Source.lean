import ProcedureCall.Catalog.Session
import ProcedureCall.Driver.Call

/-!
# What the catalog and the driver know

Both tell about the parameters of a call, and either may be missing. A source is what one of them
told when it was asked, or why there is nothing.
-/

namespace ProcedureCall

/-- What one side told about the parameters. -/
inductive Source (α : Type) where
  /-- Nothing, and why. -/
  | unavailable (reason : String)
  /-- These. -/
  | available (items : List α)
  deriving Repr

namespace Source

variable {α : Type}

/-- Was anything told? -/
def isAvailable : Source α → Bool
  | unavailable _ => false
  | available _ => true

/-- What was told. -/
def items : Source α → List α
  | unavailable _ => []
  | available items => items

/-- Why nothing was told. -/
def reason? : Source α → Option String
  | unavailable reason => some reason
  | available _ => none

end Source

/-- The output parameters that the catalog declares, in its order. -/
abbrev CatalogSource := Source Parameter

/-- The parameters that the driver reports, in the order of their places. -/
abbrev ReportSource := Source ReportedParameter

/-- The reported parameters whose values come out. -/
def Source.outputs (report : ReportSource) : List ReportedParameter :=
  report.items.filter fun p => p.direction.isOutput

section

variable {σ ν π : Type}

/-- Asks the catalog for the output parameters of a procedure. -/
def catalogSource (s : Session σ ν π) : Option π → Action σ (Event ν π) CatalogSource
  | none => pure (.unavailable "procedure not resolved")
  | some procedure => do
    match ← (s.askParameters procedure).attempt with
    | .error fault =>
      Session.debug "error obtaining output parameters from procedure"
        [("procedure", .text (s.procedureName procedure)), ("error", .text fault.message)]
      pure (.unavailable fault.message)
    | .ok parameters => pure (.available (parameters.filter fun p => p.direction.isOutput))

/-- Reported parameters in the order of their places. -/
def byOrdinal (parameters : List ReportedParameter) : List ReportedParameter :=
  parameters.mergeSort fun p q => decide (p.ordinal ≤ q.ordinal)

/-- Asks the driver for what it knows of the parameters. -/
def reportSource (call : DriverCall σ) : Action σ (Event ν π) ReportSource := do
  match ← call.askReport.attempt with
  | .error fault =>
    Session.debug "error obtaining parameter metadata from driver"
      [("error", .text fault.message)]
    pure (.unavailable fault.message)
  | .ok none => pure (.unavailable "driver reports no metadata")
  | .ok (some parameters) => pure (.available (byOrdinal parameters))

end

/-- Does the parameter come back as a result set of its own? -/
def isCursor (d : Dialect) (p : ReportedParameter) : Bool :=
  d.multipleResults && p.typeCode == TypeCode.refCursor.number

end ProcedureCall
