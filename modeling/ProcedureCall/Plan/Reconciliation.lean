import ProcedureCall.Plan.Source

/-!
# Reconciling the catalog and the driver

The catalog knows names and declared types, the driver knows places and reported codes. If both tell
of equally many outputs they are paired in order. If one of them is missing the other is used alone.
If they disagree on the number, the catalog counts, as it does when outputs are registered from it.
-/

namespace ProcedureCall

/-- How the two sides went together. -/
inductive ReconcileOutcome where
  /-- Neither side told anything. -/
  | unavailable
  /-- Both sides told of equally many outputs. -/
  | matched
  /-- Only the catalog told anything. -/
  | catalogOnly
  /-- Only the driver told anything. -/
  | driverOnly
  /-- The sides disagree on the number of outputs. -/
  | countMismatch
  deriving DecidableEq, Repr

namespace ReconcileOutcome

/-- The name of an outcome. -/
def text : ReconcileOutcome → String
  | unavailable => "unavailable"
  | matched => "matched"
  | catalogOnly => "catalog_only"
  | driverOnly => "driver_only"
  | countMismatch => "count_mismatch"

end ReconcileOutcome

/-- The output columns of a call, and how they were found. -/
structure Reconciliation where
  /-- How the two sides went together. -/
  outcome : ReconcileOutcome
  /-- The columns. -/
  columns : List OutputColumn
  deriving DecidableEq, Repr

/-- A column that has no place among the others yet. -/
structure ColumnDraft where
  /-- The name of the column. -/
  name : String
  /-- The type of its values. -/
  dataType : DataType
  /-- The place in the call that the value is read from. -/
  sourceOrdinal : Int
  deriving DecidableEq, Repr

/-- Drafts as columns, placed in their order from 0. -/
def placed (drafts : List ColumnDraft) : List OutputColumn :=
  drafts.zipIdx.map fun (d, place) => ⟨d.name, d.dataType, place, d.sourceOrdinal⟩

/-- The columns of paired sides: name and type from the catalog, place from the driver, cursors
left out. -/
def matchedDrafts (d : Dialect) (declared : List Parameter) (reported : List ReportedParameter) :
    List ColumnDraft :=
  ((declared.zip reported).filter fun (_, r) => !isCursor d r).map fun (p, r) =>
    ⟨p.name, p.dataType, r.ordinal⟩

/-- The columns of the catalog alone. Its order is taken for that of the call. -/
def catalogDrafts (declared : List Parameter) : List ColumnDraft :=
  (declared.zipIdx 1).map fun (p, slot) => ⟨p.name, p.dataType, slot⟩

section

variable {σ ν π : Type} (s : Session σ ν π)

/-- The type of a reported parameter: the local one of that name, or one built from the report. -/
def reportedType (p : ReportedParameter) : Action σ (Event ν π) DataType := do
  let fallback := DataType.reported p.typeName p.typeCode
  match p.typeName with
  | none => pure fallback
  | some name =>
    if name.isEmpty then pure fallback
    else
      match ← (s.askLocalType name).attempt with
      | .ok found => pure (found.getD fallback)
      | .error fault =>
        Session.debug "local data type lookup failed"
          [("type_name", .text name), ("error", .text fault.message)]
        pure fallback

/-- The columns of the driver alone, named by their places, cursors left out. -/
def driverDrafts : List ReportedParameter → Action σ (Event ν π) (List ColumnDraft)
  | [] => pure []
  | p :: rest =>
    if isCursor s.dialect p then driverDrafts rest
    else do
      let dataType ← reportedType s p
      let drafts ← driverDrafts rest
      pure (⟨String.ofList (Numeral.text p.ordinal), dataType, p.ordinal⟩ :: drafts)

/-- Merges what the catalog and the driver told into columns. -/
def reconcile (catalog : CatalogSource) (report : ReportSource) :
    Action σ (Event ν π) Reconciliation :=
  match catalog, report with
  | .unavailable _, .unavailable _ => do
    Session.debug "no procedure metadata nor driver metadata" []
    pure ⟨.unavailable, []⟩
  | .available declared, .available _ =>
    if declared.length = report.outputs.length then
      pure ⟨.matched, placed (matchedDrafts s.dialect declared report.outputs)⟩
    else do
      Action.record (.note (.ofLog .warning
        "catalog and driver disagree on output parameters, using catalog"
        [("catalog_outputs", .int declared.length),
          ("driver_outputs", .int report.outputs.length)]))
      pure ⟨.countMismatch, placed (catalogDrafts declared)⟩
  | .available declared, .unavailable _ => pure ⟨.catalogOnly, placed (catalogDrafts declared)⟩
  | .unavailable _, .available _ => do
    let drafts ← driverDrafts s report.outputs
    pure ⟨.driverOnly, placed drafts⟩

end

end ProcedureCall
