import ProcedureCall.Parameter
import ProcedureCall.Value.Text

/-!
# Comma-separated reports

One line per record, by RFC 4180: fields between commas, and quotes around a field that holds a
comma, a quote or a line end, each quote in it doubled. A record that is one empty field is written
as a pair of quotes, so that it is not taken for no record.
-/

namespace ProcedureCall.Report.Csv

/-- Does a character force quotes around its field? -/
def forcesQuotes (c : Char) : Bool := c == ',' || c == '"' || c == '\r' || c == '\n'

/-- A field between quotes. -/
def quotedField (field : List Char) : List Char :=
  ['"'] ++ field.flatMap (fun c => if c = '"' then ['"', '"'] else [c]) ++ ['"']

/-- A field as it is written, `single` telling whether it is the only one of its record. -/
def writtenField (single : Bool) (field : List Char) : List Char :=
  if field.any forcesQuotes || (single && field.isEmpty) then quotedField field else field

/-- A record as it is written. A line end that stands at the end of a line is dropped. -/
def record (fields : List (List Char)) : List Char :=
  Text.trimEndBy (fun c => c == '\r' || c == '\n')
    ([','].intercalate (fields.map (writtenField (fields.length == 1))))

/-- A cell: the plain text of a value, and nothing where there is no value. -/
def cell (v : Value) : List Char := if v.isNull then [] else v.plain

/-- The lines of a report. -/
def lines (header : Bool) (r : QueryResult) : List (List Char) :=
  (if header then [record (r.columns.map fun c => c.name.toList)] else []) ++
    r.rows.map fun row => record (row.map cell)

example : record ["a,b".toList, "c\"d".toList, []] = "\"a,b\",\"c\"\"d\",".toList := by
  decide +kernel
example : record [[]] = "\"\"".toList ∧ record [] = [] := by decide +kernel

end ProcedureCall.Report.Csv
