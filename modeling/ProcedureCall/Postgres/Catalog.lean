import ProcedureCall.Catalog.Session
import ProcedureCall.Postgres.Client
import ProcedureCall.Record.Parameter
import ProcedureCall.Value.Text

/-!
# The catalog of a server

A database holds schemas, and a schema procedures. Each look-up is one statement; the parameters of
a procedure are read when they are first asked for and kept from then on. A failure of the client
becomes one of the catalog.
-/

namespace ProcedureCall.Postgres

/-- A procedure that was found. -/
structure Routine where
  /-- The name of its schema. -/
  schema : String
  /-- Its name. -/
  name : String
  /-- Its number on the server. -/
  oid : Value
  /-- Its number among the procedures that were found. -/
  handle : Nat
  deriving Repr

/-- A node of the catalog. -/
inductive Node where
  /-- The database. -/
  | database (name : String)
  /-- A schema. -/
  | schema (name : String)
  /-- A procedure. -/
  | routine (routine : Routine)
  deriving Repr

/-- The name of a node. -/
def Node.name : Node → String
  | database name => name
  | schema name => name
  | routine r => r.name

/-- What a node can be asked. -/
def Node.kind : Node → NodeKind
  | database _ => .container
  | schema _ => .procedureContainer
  | routine _ => .leaf

/-- Asks for the schema in which names are looked up if none is given. -/
def currentSchemaSql : String := "SELECT current_schema()"

/-- Asks for a schema by its name. -/
def schemaSql : String := "
SELECT n.nspname
FROM pg_catalog.pg_namespace n
WHERE n.nspname = %(name)s
"

/-- Asks for a procedure by its schema and name. -/
def procedureSql : String := "
SELECT p.oid, p.proname
FROM pg_catalog.pg_proc p
JOIN pg_catalog.pg_namespace n ON n.oid = p.pronamespace
WHERE n.nspname = %(schema)s
  AND p.proname = %(name)s
  AND p.prokind = 'p'
ORDER BY p.oid
LIMIT 1
"

/-- Asks for the parameters of a procedure. -/
def parametersSql : String := "
SELECT
    a.ordinality AS position,
    COALESCE(p.proargnames[a.ordinality], '') AS name,
    COALESCE(p.proargmodes[a.ordinality], 'i') AS mode,
    pg_catalog.format_type(a.type_oid, NULL) AS type_name
FROM pg_catalog.pg_proc p
CROSS JOIN LATERAL unnest(
    COALESCE(p.proallargtypes, p.proargtypes::oid[])
) WITH ORDINALITY AS a(type_oid, ordinality)
WHERE p.oid = %(oid)s
ORDER BY a.ordinality
"

/-- The directions by the letters of the catalog. -/
def modes : List (String × Direction) :=
  [("i", .input), ("o", .output), ("b", .both), ("v", .input), ("t", .output)]

/-- How names are written on a server. -/
def dialect (multipleResults : Bool) : Dialect := ⟨".", "\"", .lower, multipleResults⟩

/-- The type of a parameter by the name that the server shows. -/
def parameterType (types : Registry) (name : String) : DataType :=
  if name.endsWith "[]" then ⟨name, TypeCode.array.number, .array⟩
  else types.resolve (some name) TypeCode.other.number

/-- A row that does not have the shape that was asked for. -/
def oddRow : Fault := .mishap .badValue "unexpected catalog row"

/-- The parts of a row of a parameter: its place, its name, the letter of its direction and the name
of its type. -/
def parameterParts (row : List Value) : Except Fault (Value × Value × Value × Value) :=
  match row with
  | [position, name, mode, typeName] => .ok (position, name, mode, typeName)
  | row =>
    let message :=
      if row.length < 4 then
        "not enough values to unpack (expected 4, got " ++
          String.ofList (Numeral.text row.length) ++ ")"
      else "too many values to unpack (expected 4)"
    .error (.mishap .badValue message)

/-- The name of a type, which must be a text. -/
def typeNameOf : Value → Except Fault String
  | .text name => .ok name
  | .octets .constant _ | .octets .buffer _ =>
    .error (.mishap .wrongType "endswith first arg must be bytes or a tuple of bytes, not str")
  | v =>
    .error (.mishap .missingMember ("'" ++ v.className ++ "' object has no attribute 'endswith'"))

/-- The direction for a letter of the catalog. -/
def directionOf (mode : Value) : Except Fault Direction :=
  match mode, mode.keyFault? with
  | .text letter, _ => .ok ((Entries.get? letter modes).getD .unknown)
  | _, some fault => .error fault
  | _, none => .ok .unknown

/-- A place counted from 0, from one counted from 1. -/
def fromZero : Value → Except Fault Value
  | .float x => .ok (.float (x.addInt (-1)))
  | .decimal (.notANumber _ true _) =>
    .error (.mishap .badOperation "[<class 'decimal.InvalidOperation'>]")
  | .decimal x => .ok (.decimal (x.addInt (-1)))
  | v =>
    match v.asInt? with
    | some n => .ok (.int (n - 1))
    | none =>
      .error (.mishap .wrongType
        ("unsupported operand type(s) for -: '" ++ v.className ++ "' and 'int'"))

/-- A parameter from a row of the catalog; one without a name is named by its place. -/
def parameterOfRow (types : Registry) (row : List Value) : Except Fault Parameter := do
  let (position, name, mode, typeName) ← parameterParts row
  let shown := if name.isTruthy then name else .text ("$" ++ String.ofList position.plain)
  let dataType := parameterType types (← typeNameOf typeName)
  let direction ← directionOf mode
  let position ← fromZero position
  ((fun name position => { name, dataType, direction, position : Parameter }) <$>
    (Reader.text shown).inside (.field "name") <*>
    (Reader.integer position).inside (.field "position")).result

/-- A catalog that is read through a client. -/
structure Catalog (σ : Type) where
  /-- The client. -/
  client : Client σ
  /-- Do cursors come back as result sets of their own? -/
  multipleResults : Bool := false
  /-- The schema in which names of one segment are looked up, if it is given. -/
  defaultSchema : Option String := none
  /-- The known types. -/
  types : Registry := Registry.standard

namespace Catalog

variable {σ : Type} (c : Catalog σ)

/-- Runs a statement that loads a part of the catalog. -/
def load (sql : String) (arguments : Arguments) (what : String) :
    Action (World σ) Note QueryResult := do
  match ← (c.client.query sql arguments).attempt with
  | .ok result => pure result
  | .error (.tool _ message) =>
    Action.fail (.tool .catalog ("Error loading " ++ what ++ ": " ++ message))
  | .error fault => Action.fail fault

/-- The schema with a name. -/
def schema (name : Value) : Action (World σ) Note (Option Node) := do
  let result ← c.load schemaSql (.named [("name", name)]) ("schema " ++ String.ofList name.plain)
  match result.rows with
  | [] => pure none
  | (.text found :: _) :: _ => pure (some (.schema found))
  | _ => Action.fail oddRow

/-- The procedure with a name in a schema. -/
def routine (schema name : String) : Action (World σ) Note (Option Routine) := do
  let result ← c.load procedureSql (.named [("schema", .text schema), ("name", .text name)])
    ("procedure " ++ schema ++ "." ++ name)
  match result.rows with
  | [] => pure none
  | [oid, .text found] :: _ =>
    let handle := (← Action.world).found
    Action.change fun w => { w with found := handle + 1 }
    pure (some ⟨schema, found, oid, handle⟩)
  | _ => Action.fail oddRow

/-- The child of a node. -/
def child : Node → String → Action (World σ) Note (Option Node)
  | .database _, name => c.schema (.text name)
  | .schema schema, name => do pure ((← c.routine schema name).map .routine)
  | .routine _, _ => pure none

/-- The procedure in a node. -/
def procedure : Node → String → Action (World σ) Note (Option Routine)
  | .schema schema, name => c.routine schema name
  | _, _ => pure none

/-- The parameters of a procedure. -/
def parameters (r : Routine) : Action (World σ) Note (List Parameter) := do
  match Entries.get? r.handle (← Action.world).loaded with
  | some parameters => pure parameters
  | none =>
    let result ← c.load parametersSql (.named [("oid", r.oid)])
      ("parameters of " ++ r.schema ++ "." ++ r.name)
    let parameters ← Action.ofExcept (result.rows.mapM (parameterOfRow c.types))
    Action.change fun w => { w with loaded := Entries.put r.handle parameters w.loaded }
    pure parameters

/-- The node at the top. -/
def root : Node := .database c.client.settings.database

/-- The name of the schema in which names of one segment are looked up: the given one, or what the
server calls its current one. -/
def schemaName : Action (World σ) Note Value := do
  match c.defaultSchema.filter (!·.isEmpty) with
  | some name =>
    pure (.text (String.ofList ((dialect c.multipleResults).fold name.toList)))
  | none =>
    let result ← c.load currentSchemaSql .none "current schema"
    match result.rows with
    | (name :: _) :: _ => pure name
    | _ => pure .null

/-- The selected nodes: the database, and the schema of `schemaName` if there is one. -/
def selected : Action (World σ) Note (List Node) := do
  let name ← c.schemaName
  if name.isTruthy then do pure (c.root :: (← c.schema name).toList) else pure [c.root]

/-- The session that shows the catalog. -/
def session : Session (World σ) Node Routine where
  dialect := dialect c.multipleResults
  root := some c.root
  kind := Node.kind
  procedureName := Routine.name
  selected := c.selected
  child := c.child
  procedure := c.procedure
  parameters := c.parameters
  localType name := pure (c.types.get? (some name))

end Catalog

end ProcedureCall.Postgres
