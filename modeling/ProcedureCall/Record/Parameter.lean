import ProcedureCall.Parameter
import ProcedureCall.Record.Reading
import ProcedureCall.Value.Key

/-!
# Parameters, columns and results as records

Each is read from loose values by the names of its fields, and shown by them.
-/

namespace ProcedureCall

open Reader

/-- A table from names to values, as a value. -/
def Value.ofFields (fields : List (String × Value)) : Value :=
  .mapping (fields.map fun (name, v) => (.text name, v))

/-- A value that may be absent, as a value. -/
def Value.ofOption {α : Type} (show_ : α → Value) (a : Option α) : Value := a.elim .null show_

namespace DataType

/-- Reads a data type. -/
def read (given : Given) : Reading DataType :=
  DataType.mk <$> required given "name" text <*> required given "type_code" integer <*>
    required given "data_kind" (choice DataKind.all DataKind.text)

/-- The fields of a data type. -/
def fields (t : DataType) : List (String × Value) :=
  [("name", .text t.name), ("type_code", .int t.code), ("data_kind", .text t.kind.text)]

/-- The kind of a reported type whose code is a value of any kind. -/
def kindOfLoose (name : Option String) (code : Value) : Except Fault DataKind :=
  match kindOfName? name, code.keyFault? with
  | some kind, _ => .ok kind
  | none, some fault => .error fault
  | none, none => .ok (code.keyInt?.elim .unknown kindOfCode)

/-- The type known by a name, or one built from what was reported, where the code is a value of any
kind. It is looked up as it is, and then read. -/
def resolveLoose (types : Registry) (name : Option String) (code : Value) :
    Except Fault DataType :=
  match types.get? name with
  | some t => .ok t
  | none => do
    let kind ← kindOfLoose name code
    let shown := (name.filter (!·.isEmpty)).getD kind.text
    (read [("name", .text shown), ("type_code", code), ("data_kind", .text kind.text)]).result

end DataType

/-- Reads a data type inside another record. -/
def readDataType : Reader DataType := recordOf "DataType" DataType.read

/-- Reads a direction. -/
def readDirection : Reader Direction := choice Direction.all Direction.text

namespace Parameter

/-- Reads a declared parameter. -/
def read (given : Given) : Reading Parameter :=
  Parameter.mk <$> required given "name" text <*> required given "data_type" readDataType <*>
    required given "direction" readDirection <*> required given "position" integer

/-- The fields of a declared parameter. -/
def fields (p : Parameter) : List (String × Value) :=
  [ ("name", .text p.name), ("data_type", .ofFields p.dataType.fields),
    ("direction", .text p.direction.text), ("position", .int p.position) ]

end Parameter

namespace ReportedParameter

/-- Reads a reported parameter. -/
def read (given : Given) : Reading ReportedParameter :=
  ReportedParameter.mk <$> required given "ordinal" integer <*>
    required given "direction" readDirection <*> required given "type_code" integer <*>
    withDefault given "type_name" none (optional text)

/-- The fields of a reported parameter. -/
def fields (p : ReportedParameter) : List (String × Value) :=
  [ ("ordinal", .int p.ordinal), ("direction", .text p.direction.text),
    ("type_code", .int p.typeCode), ("type_name", .ofOption .text p.typeName) ]

end ReportedParameter

namespace OutputColumn

/-- Reads a column of output values. -/
def read (given : Given) : Reading OutputColumn :=
  OutputColumn.mk <$> required given "name" text <*> required given "data_type" readDataType <*>
    required given "local_index" integer <*> required given "source_ordinal" integer

/-- The fields of a column of output values. -/
def fields (c : OutputColumn) : List (String × Value) :=
  [ ("name", .text c.name), ("data_type", .ofFields c.dataType.fields),
    ("local_index", .int c.localIndex), ("source_ordinal", .int c.sourceOrdinal) ]

end OutputColumn

namespace ColumnHeading

/-- Reads the heading of a column. -/
def read (given : Given) : Reading ColumnHeading :=
  ColumnHeading.mk <$> required given "name" text <*> required given "type_name" text

/-- The fields of a heading. -/
def fields (c : ColumnHeading) : List (String × Value) :=
  [("name", .text c.name), ("type_name", .text c.typeName)]

end ColumnHeading

namespace QueryResult

/-- Reads a result. -/
def read (given : Given) : Reading QueryResult :=
  QueryResult.mk <$>
    required given "columns" (listOf (recordOf "ColumnMeta" ColumnHeading.read)) <*>
    required given "rows" (listOf row) <*> required given "row_count" integer <*>
    required given "status_message" text

/-- The fields of a result. -/
def fields (r : QueryResult) : List (String × Value) :=
  [ ("columns", .list (r.columns.map fun c => .ofFields c.fields)),
    ("rows", .list (r.rows.map .tuple)), ("row_count", .int r.rowCount),
    ("status_message", .text r.status) ]

end QueryResult

end ProcedureCall
