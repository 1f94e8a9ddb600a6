/-!
# Type codes and kinds

Drivers report the type of a parameter by a number. The codes are those of the callable-statement
interface that most drivers follow; a kind is the coarse class of values that a code stands for.
-/

namespace ProcedureCall

/-- The known type codes, by name. -/
inductive TypeCode where
  /-- A single bit. -/
  | bit
  /-- An integer of one octet. -/
  | tinyint
  /-- An integer of two octets. -/
  | smallint
  /-- An integer of four octets. -/
  | integer
  /-- An integer of eight octets. -/
  | bigint
  /-- A floating-point number. -/
  | float
  /-- A floating-point number of single precision. -/
  | real
  /-- A floating-point number of double precision. -/
  | double
  /-- A number with a fixed point. -/
  | numeric
  /-- A decimal number. -/
  | decimal
  /-- A text of fixed length. -/
  | char
  /-- A text of varying length. -/
  | varchar
  /-- A long text. -/
  | longvarchar
  /-- A date. -/
  | date
  /-- A time of day. -/
  | time
  /-- A date with a time of day. -/
  | timestamp
  /-- Octets of fixed length. -/
  | binary
  /-- Octets of varying length. -/
  | varbinary
  /-- Many octets. -/
  | longvarbinary
  /-- The type of nothing. -/
  | null
  /-- A type of the database's own. -/
  | other
  /-- An object of the host language. -/
  | hostObject
  /-- A named copy of another type. -/
  | distinct
  /-- A structure. -/
  | struct
  /-- An array. -/
  | array
  /-- A large object of octets. -/
  | blob
  /-- A large object of text. -/
  | clob
  /-- A reference to a structure. -/
  | ref
  /-- A link to a file. -/
  | datalink
  /-- A truth value. -/
  | boolean
  /-- The address of a row. -/
  | rowid
  /-- A national text of fixed length. -/
  | nchar
  /-- A national text of varying length. -/
  | nvarchar
  /-- A long national text. -/
  | longnvarchar
  /-- A large object of national text. -/
  | nclob
  /-- A document of markup. -/
  | sqlxml
  /-- A cursor. -/
  | refCursor
  /-- A time of day with a zone. -/
  | timeWithTimezone
  /-- A date with a time of day and a zone. -/
  | timestampWithTimezone
  deriving DecidableEq, Repr

namespace TypeCode

/-- Every known code with its name and number. -/
def table : List (TypeCode × String × Int) :=
  [ (bit, "BIT", -7), (tinyint, "TINYINT", -6), (smallint, "SMALLINT", 5),
    (integer, "INTEGER", 4), (bigint, "BIGINT", -5), (float, "FLOAT", 6), (real, "REAL", 7),
    (double, "DOUBLE", 8), (numeric, "NUMERIC", 2), (decimal, "DECIMAL", 3), (char, "CHAR", 1),
    (varchar, "VARCHAR", 12), (longvarchar, "LONGVARCHAR", -1), (date, "DATE", 91),
    (time, "TIME", 92), (timestamp, "TIMESTAMP", 93), (binary, "BINARY", -2),
    (varbinary, "VARBINARY", -3), (longvarbinary, "LONGVARBINARY", -4), (null, "NULL", 0),
    (other, "OTHER", 1111), (hostObject, "JAVA_OBJECT", 2000), (distinct, "DISTINCT", 2001),
    (struct, "STRUCT", 2002), (array, "ARRAY", 2003), (blob, "BLOB", 2004), (clob, "CLOB", 2005),
    (ref, "REF", 2006), (datalink, "DATALINK", 70), (boolean, "BOOLEAN", 16), (rowid, "ROWID", -8),
    (nchar, "NCHAR", -15), (nvarchar, "NVARCHAR", -9), (longnvarchar, "LONGNVARCHAR", -16),
    (nclob, "NCLOB", 2011), (sqlxml, "SQLXML", 2009), (refCursor, "REF_CURSOR", 2012),
    (timeWithTimezone, "TIME_WITH_TIMEZONE", 2013),
    (timestampWithTimezone, "TIMESTAMP_WITH_TIMEZONE", 2014) ]

/-- The number of a code. -/
def number (code : TypeCode) : Int :=
  match table.find? (·.1 == code) with
  | some (_, _, n) => n
  | none => 0

/-- The code with a number, if it is known. -/
def ofNumber? (n : Int) : Option TypeCode := (table.find? (·.2.2 == n)).map (·.1)

end TypeCode

/-- The coarse class of values of a type. -/
inductive DataKind where
  /-- Truth values. -/
  | boolean
  /-- Numbers. -/
  | numeric
  /-- Texts. -/
  | string
  /-- Dates and times. -/
  | datetime
  /-- Octets. -/
  | binary
  /-- Documents and large objects. -/
  | content
  /-- Structures. -/
  | struct
  /-- Arrays. -/
  | array
  /-- Objects. -/
  | object
  /-- References. -/
  | reference
  /-- Addresses of rows. -/
  | rowid
  /-- Anything else. -/
  | unknown
  deriving DecidableEq, Repr, Inhabited

namespace DataKind

/-- Every kind. -/
def all : List DataKind :=
  [boolean, numeric, string, datetime, binary, content, struct, array, object, reference, rowid,
    unknown]

/-- The name of a kind. -/
def text : DataKind → String
  | boolean => "boolean"
  | numeric => "numeric"
  | string => "string"
  | datetime => "datetime"
  | binary => "binary"
  | content => "content"
  | struct => "struct"
  | array => "array"
  | object => "object"
  | reference => "reference"
  | rowid => "rowid"
  | unknown => "unknown"

/-- The kind of values that a code stands for. -/
def ofCode : TypeCode → DataKind
  | .bit | .boolean => boolean
  | .tinyint | .smallint | .integer | .bigint | .float | .real | .double | .numeric | .decimal =>
    numeric
  | .char | .varchar | .longvarchar | .nchar | .nvarchar | .longnvarchar => string
  | .date | .time | .timestamp | .timeWithTimezone | .timestampWithTimezone => datetime
  | .binary | .varbinary | .longvarbinary => binary
  | .blob | .clob | .nclob | .sqlxml => content
  | .struct => struct
  | .array => array
  | .ref => reference
  | .refCursor | .other | .hostObject => object
  | .rowid => rowid
  | .null | .distinct | .datalink => unknown

end DataKind

example : TypeCode.table.all fun (code, _, n) => TypeCode.ofNumber? n == some code := by
  decide +kernel

end ProcedureCall
