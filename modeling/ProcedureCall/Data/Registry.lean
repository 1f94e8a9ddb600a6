import ProcedureCall.Data.TypeCode
import ProcedureCall.Entries
import ProcedureCall.Text.Case
import ProcedureCall.Text.Pieces

/-!
# Data types and their registry

A registry knows data types by name. Names are found whatever their case and the white space around
them, and an alias stands for the name it was given.
-/

namespace ProcedureCall

/-- A data type: its name, the code that drivers report and the kind of its values. -/
structure DataType where
  /-- The name that is shown. -/
  name : String
  /-- The number of the type code. -/
  code : Int
  /-- The kind of values. -/
  kind : DataKind
  deriving DecidableEq, Repr, Inhabited

/-- A text in small letters. -/
def lowerCase (s : String) : String := String.ofList (Text.lower s.toList)

/-- A text without white space at either end. -/
def trimmed (s : String) : String := String.ofList (Text.trim s.toList)

/-- Names that some drivers report with a misleading code. -/
def kindByName : List (String × DataKind) :=
  [ ("bool", .boolean), ("boolean", .boolean), ("json", .content), ("jsonb", .content),
    ("xml", .content), ("uuid", .string) ]

/-- The kind of a type whose name decides it. -/
def kindOfName? (name : Option String) : Option DataKind :=
  name.bind fun name => Entries.get? (lowerCase name) kindByName

/-- The kind of a type with a code. -/
def kindOfCode (code : Int) : DataKind :=
  (TypeCode.ofNumber? code).elim .unknown DataKind.ofCode

/-- The kind of a reported type: by its name if the name decides it, else by its code. -/
def reportedKind (name : Option String) (code : Int) : DataKind :=
  (kindOfName? name).getD (kindOfCode code)

/-- A data type built from what a driver reports; without a name it is called after its kind. -/
def DataType.reported (name : Option String) (code : Int) : DataType :=
  let kind := reportedKind name code
  let shown :=
    match name with
    | some name => if name.isEmpty then kind.text else name
    | none => kind.text
  ⟨shown, code, kind⟩

/-- Data types by name, and other names for them. -/
structure Registry where
  /-- The types by name in small letters. -/
  types : List (String × DataType) := []
  /-- The other names, in small letters, and the names they stand for. -/
  aliases : List (String × String) := []
  deriving DecidableEq, Repr, Inhabited

namespace Registry

/-- Adds another name for a name. -/
def addAlias (r : Registry) (other name : String) : Registry :=
  { r with aliases := Entries.put (lowerCase other) (lowerCase name) r.aliases }

/-- Adds a type under its name and other names. -/
def register (r : Registry) (t : DataType) (others : List String) : Registry :=
  others.foldl (fun r other => r.addAlias other t.name)
    { r with types := Entries.put (lowerCase t.name) t r.types }

/-- The type known by a name. An alias is followed once. -/
def get? (r : Registry) (name : Option String) : Option DataType :=
  match name with
  | none => none
  | some name =>
    if name.isEmpty then none
    else
      let key := lowerCase (trimmed name)
      Entries.get? ((Entries.get? key r.aliases).getD key) r.types

/-- The type known by a name, or one built from what was reported. -/
def resolve (r : Registry) (name : Option String) (code : Int) : DataType :=
  (r.get? name).getD (DataType.reported name code)

/-- The names of the registered types in order. -/
def available (r : Registry) : List String := sortTexts (r.types.map (·.1))

/-- The types of the standard, with their codes. -/
def standardTypes : List (String × TypeCode) :=
  [ ("boolean", .boolean), ("smallint", .smallint), ("integer", .integer), ("bigint", .bigint),
    ("real", .real), ("double precision", .double), ("numeric", .numeric), ("money", .numeric),
    ("character", .char), ("character varying", .varchar), ("text", .varchar), ("name", .varchar),
    ("uuid", .other), ("json", .other), ("jsonb", .other), ("xml", .sqlxml), ("date", .date),
    ("time without time zone", .time), ("time with time zone", .timeWithTimezone),
    ("timestamp without time zone", .timestamp),
    ("timestamp with time zone", .timestampWithTimezone), ("bytea", .binary),
    ("refcursor", .refCursor) ]

/-- Short spellings of the standard names. -/
def standardAliases : List (String × String) :=
  [ ("bool", "boolean"), ("int2", "smallint"), ("int4", "integer"), ("int", "integer"),
    ("int8", "bigint"), ("float4", "real"), ("float8", "double precision"),
    ("decimal", "numeric"), ("bpchar", "character"), ("char", "character"),
    ("varchar", "character varying"), ("time", "time without time zone"),
    ("timetz", "time with time zone"), ("timestamp", "timestamp without time zone"),
    ("timestamptz", "timestamp with time zone") ]

/-- The registry of the standard types. -/
def standard : Registry :=
  let types := standardTypes.foldl (fun r (name, code) =>
    r.register (DataType.reported (some name) code.number) []) ({} : Registry)
  standardAliases.foldl (fun r (other, name) => r.addAlias other name) types

example : (standard.get? (some " INT4 ")).map (·.name) = some "integer" := by decide +kernel
example : (standard.resolve (some "uuid") 0).kind = .string := by decide +kernel

end Registry

end ProcedureCall
