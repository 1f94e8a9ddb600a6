import ProcedureCall.Settings.Profile

/-!
# Kinds of records

Every kind of record by name: how it is read from loose values, what fields it shows, and what
happens when a field is assigned to. A frozen record refuses; any other takes the value as it is. A
name that begins with a low line is no field: what it is given is not shown by any record.
-/

namespace ProcedureCall

open Reader

/-- A kind of record. -/
structure RecordKind where
  /-- The name. -/
  name : String
  /-- Does it refuse assignments? -/
  isFrozen : Bool
  /-- Reads a record and gives its fields. -/
  read : Given → Except Fault (List (String × Value))

namespace RecordKind

/-- A kind of record from its reader and its view. -/
def of {α : Type} (name : String) (isFrozen : Bool) (read : Given → Reading α)
    (fields : α → List (String × Value)) : RecordKind :=
  ⟨name, isFrozen, fun given => (read given).result.map fields⟩

/-- Every kind of record. -/
def all : List RecordKind :=
  [ of "DataType" true DataType.read DataType.fields,
    of "ParameterDescriptor" true Parameter.read Parameter.fields,
    of "DriverParameterInfo" true ReportedParameter.read ReportedParameter.fields,
    of "OutputColumn" true OutputColumn.read OutputColumn.fields,
    of "ColumnMeta" false ColumnHeading.read ColumnHeading.fields,
    of "QueryResult" false QueryResult.read QueryResult.fields,
    of "PgProfile" false Profile.read Profile.fields,
    of "AppConfig" false FileSettings.read FileSettings.fields,
    of "ResolvedConfig" false Settings.read Settings.fields ]

/-- What a record tells of itself under names that are no fields and take no value. -/
def views : List String := ["model_extra", "model_fields_set"]

/-- Assigns a value to a field of a record with the given fields. -/
def assign (k : RecordKind) (fields : List (String × Value)) (name : String) (v : Value) :
    Except Fault (List (String × Value)) :=
  if name.toList.head? = some '_' then .ok fields
  else if k.isFrozen then
    .error (.invalid [⟨[.field name], "frozen_instance", "Instance is frozen"⟩])
  else if (Entries.get? name fields).isSome then .ok (Entries.put name v fields)
  else if views.contains name then
    .error (.mishap .missingMember "the view of a record takes no value")
  else
    .error (.mishap .badValue
      ("\"" ++ k.name ++ "\" object has no field \"" ++ name ++ "\""))

end RecordKind

end ProcedureCall
