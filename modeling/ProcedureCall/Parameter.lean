import ProcedureCall.Data.Registry
import ProcedureCall.Value.Basic

/-!
# Parameters, columns and results

A procedure's parameters as the catalog declares them and as a driver reports them, the columns
that output parameters become, and results as they are reported.
-/

namespace ProcedureCall

/-- Which way a parameter's value goes. -/
inductive Direction where
  /-- Into the procedure. -/
  | input
  /-- Out of the procedure. -/
  | output
  /-- Both ways. -/
  | both
  /-- The value that the procedure returns. -/
  | result
  /-- It is not known. -/
  | unknown
  deriving DecidableEq, Repr, Inhabited

namespace Direction

/-- Every direction. -/
def all : List Direction := [input, output, both, result, unknown]

/-- The name of a direction. -/
def text : Direction → String
  | input => "in"
  | output => "out"
  | both => "inout"
  | result => "return"
  | unknown => "unknown"

/-- The direction with a name. -/
def ofText? (s : String) : Option Direction := all.find? (·.text == s)

/-- Does a value come out? -/
def isOutput : Direction → Bool
  | output | both | result => true
  | input | unknown => false

end Direction

/-- A parameter as the catalog declares it. -/
structure Parameter where
  /-- The name. -/
  name : String
  /-- The declared type. -/
  dataType : DataType
  /-- The direction. -/
  direction : Direction
  /-- The place in the declaration, from 0. -/
  position : Int
  deriving DecidableEq, Repr, Inhabited

/-- A parameter as a driver reports it. -/
structure ReportedParameter where
  /-- The place in the call, from 1. -/
  ordinal : Int
  /-- The direction. -/
  direction : Direction
  /-- The number of the type code. -/
  typeCode : Int
  /-- The name of the type, if the driver tells one. -/
  typeName : Option String
  deriving DecidableEq, Repr, Inhabited

/-- An output parameter as a column of a result. -/
structure OutputColumn where
  /-- The name of the column. -/
  name : String
  /-- The type of its values. -/
  dataType : DataType
  /-- The place among the columns, from 0. -/
  localIndex : Int
  /-- The place in the call that the value is read from, from 1. -/
  sourceOrdinal : Int
  deriving DecidableEq, Repr, Inhabited

/-- The heading of a column. -/
structure ColumnHeading where
  /-- The name of the column. -/
  name : String
  /-- The name of the type of its values. -/
  typeName : String
  deriving DecidableEq, Repr, Inhabited

/-- A table of values as it is reported. -/
structure QueryResult where
  /-- The headings. -/
  columns : List ColumnHeading
  /-- The rows. -/
  rows : List (List Value)
  /-- The number of rows that was told. -/
  rowCount : Int
  /-- What the server said at the end. -/
  status : String
  deriving Repr, Inhabited

end ProcedureCall
