import ProcedureCall.Plan.Source

/-!
# Registering output parameters

Before a call is executed the driver must know at which places values come out. The driver's own
report decides, if it tells of any; else the catalog, whose output parameters are numbered from 1 as
they come. A registration that fails stops there, and what was registered stays registered.
-/

namespace ProcedureCall

/-- Whose word the registration follows. -/
inductive RegistrationSource where
  /-- The driver's. -/
  | driver
  /-- The catalog's. -/
  | catalog
  /-- There is nothing to register. -/
  | none
  /-- It failed. -/
  | failed
  deriving DecidableEq, Repr

namespace RegistrationSource

/-- The name of a source. -/
def text : RegistrationSource → String
  | driver => "driver"
  | catalog => "catalog"
  | none => "none"
  | failed => "failed"

end RegistrationSource

/-- What came of a registration. -/
structure Registration where
  /-- Whose word it follows. -/
  source : RegistrationSource
  /-- The number of places registered. -/
  registered : Nat := 0
  /-- What went wrong, even if the catalog made up for it. -/
  error : Option String := Option.none
  deriving DecidableEq, Repr

section

variable {σ ν π : Type}

/-- Registers places with their codes, one after another. -/
def registerAll (call : DriverCall σ) : List (Int × Int) → Action σ (Event ν π) Unit
  | [] => pure ()
  | (slot, code) :: rest => do
    call.askRegister slot code
    registerAll call rest

/-- The places and codes that the driver reports. -/
def reportedSlots (report : ReportSource) : List (Int × Int) :=
  report.outputs.map fun p => (p.ordinal, p.typeCode)

/-- The places and codes of declared parameters: the outputs, numbered from 1. -/
def declaredSlots (parameters : List Parameter) : List (Int × Int) :=
  ((parameters.filter fun p => p.direction.isOutput).zipIdx 1).map fun (p, slot) =>
    ((slot : Int), p.dataType.code)

/-- Registers what the driver reports, and tells how much it was. -/
def registerReported (call : DriverCall σ) (report : ReportSource) : Action σ (Event ν π) Nat :=
  match report with
  | .unavailable reason =>
    Action.fail (.tool .driver
      (if reason.isEmpty then "driver parameter metadata unavailable" else reason))
  | .available _ => do
    registerAll call (reportedSlots report)
    pure (reportedSlots report).length

/-- Registers what the catalog declares, and tells how much it was. -/
def registerDeclared (s : Session σ ν π) (call : DriverCall σ) (procedure : π) :
    Action σ (Event ν π) Nat := do
  let slots := declaredSlots (← s.askParameters procedure)
  registerAll call slots
  pure slots.length

/-- Registers what the catalog declares after the driver's word did not do. -/
def registerFromCatalog (s : Session σ ν π) (call : DriverCall σ) (procedure : Option π)
    (driverError : Option String) : Action σ (Event ν π) Registration :=
  match procedure with
  | none => pure { source := .failed, error := driverError }
  | some procedure => do
    match ← (registerDeclared s call procedure).attempt with
    | .error fault =>
      Session.debug "error binding procedure output parameters" [("error", .text fault.message)]
      pure { source := .failed, error := some fault.message }
    | .ok registered =>
      Session.debug "registered output parameters from catalog"
        [("procedure", .text (s.procedureName procedure)), ("registered", .int registered)]
      pure { source := .catalog, registered, error := driverError }

/-- Registers the output parameters of a call. It never fails; what went wrong is told in the
result. -/
def registerOutputs (s : Session σ ν π) (call : DriverCall σ) (report : ReportSource)
    (procedure : Option π) : Action σ (Event ν π) Registration := do
  match ← (registerReported call report).attempt with
  | .error fault =>
    Session.debug "driver registration failed" [("error", .text fault.message)]
    registerFromCatalog s call procedure (some fault.message)
  | .ok registered =>
    if 0 < registered then pure { source := .driver, registered }
    else
      match ← (s.hasOutputs procedure).attempt with
      | .error fault =>
        Session.debug "error checking procedure output parameters"
          [("error", .text fault.message)]
        pure { source := .none }
      | .ok declared =>
        if declared then registerFromCatalog s call procedure Option.none
        else pure { source := .none }

end

end ProcedureCall
