import ProcedureCall.Number.Shortest
import ProcedureCall.Plan.Basic
import ProcedureCall.Record.Parameter
import ProcedureCall.Settings.Basic

/-!
# The client

A client keeps at most one connection to a server and runs statements on it, each with a time limit.
A connection that the server dropped is replaced at the next statement. What the server reports
becomes a failure of the program's own, by its class.
-/

namespace ProcedureCall.Postgres

/-- What a server answers to a statement. -/
structure Reply where
  /-- The names and the type numbers of the columns; there are none if there are no rows to tell. -/
  columns : List (Value × Value) := []
  /-- The rows. -/
  rows : List (List Value) := []
  /-- What the server says at the end, if anything. -/
  status : Value := .null
  deriving Repr, Inhabited

/-- A server as it is reached in a world `σ`. It enters nothing into the journal; the client does,
at each message. -/
structure Server (σ : Type) where
  /-- Opens a connection. -/
  connect : ConnectionOptions → Action σ Empty Unit
  /-- Is the connection still open on the side of the server? -/
  isOpen : Action σ Empty Bool
  /-- Runs a statement. -/
  run : String → Arguments → Action σ Empty Reply
  /-- Closes the connection. -/
  disconnect : Action σ Empty Unit

/-- A parameter's place and what is bound there. -/
abbrev Binding := Int × Value

/-- Where a call stands. -/
structure CallState where
  /-- What is bound. -/
  bindings : List Binding := []
  /-- The output parameters that were registered, with their codes. -/
  registered : List (Int × Int) := []
  /-- What the execution gave. -/
  result : Option QueryResult := none
  /-- Is that a result set of the call's own? -/
  isNative : Bool := false
  /-- Was the value read last absent? -/
  wasNull : Bool := false
  deriving Repr

/-- What the client side knows, beside the world of the server. -/
structure World (σ : Type) where
  /-- Is a connection held? -/
  isHeld : Bool := false
  /-- How many procedures were found. -/
  found : Nat := 0
  /-- The parameters of those whose parameters were read. -/
  loaded : List (Nat × List Parameter) := []
  /-- The call. -/
  call : CallState := {}
  /-- The world of the server. -/
  outside : σ

/-- A client of a server. -/
structure Client (σ : Type) where
  /-- What it runs with. -/
  settings : Settings
  /-- The server. -/
  server : Server σ

/-- The names of the types of columns, by their numbers. -/
def columnTypes : List (Int × String) :=
  [ (16, "bool"), (17, "bytea"), (20, "int8"), (21, "int2"), (23, "int4"), (25, "text"),
    (114, "json"), (700, "float4"), (701, "float8"), (1043, "varchar"), (1082, "date"),
    (1114, "timestamp"), (1184, "timestamptz"), (1700, "numeric"), (1790, "refcursor"),
    (2950, "uuid"), (3802, "jsonb") ]

/-- The name of the type of a column. -/
def columnType (number : Value) : Except Fault String :=
  match number.keyFault? with
  | some fault => .error fault
  | none => .ok ((number.keyInt?.bind fun n => Entries.get? n columnTypes).getD "unknown")

/-- The heading of a column from its name and type number. -/
def heading (name number : Value) : Except Fault ColumnHeading := do
  let typeName ← columnType number
  ((ColumnHeading.mk · typeName) <$> (Reader.text name).inside (.field "name")).result

/-- The rows that are counted. Without columns there are none. -/
def Reply.counted (r : Reply) : List (List Value) := if r.columns.isEmpty then [] else r.rows

/-- A reply as a result, with the headings of its columns. -/
def Reply.result (r : Reply) (columns : List ColumnHeading) : Except Fault QueryResult :=
  let status := if r.status.isTruthy then r.status else .text ""
  (QueryResult.mk columns r.counted r.counted.length <$>
    (Reader.text status).inside (.field "status_message")).result

/-- How a condition that a server reports is dealt with. -/
structure Treatment where
  /-- The state in which the span of the statement ends. -/
  status : String
  /-- The event that is logged. -/
  event : String
  /-- The circumstances that are logged beside the statement. -/
  fields : List (String × Value)
  /-- The failure of the program. -/
  fault : Fault

/-- How a condition is dealt with: a cancelled statement ran out of time, an error of operation is
one of the network, and anything else is one of the statement. -/
def treatment (s : Settings) (condition : Condition) (message : String) : Treatment :=
  let error : List (String × Value) := [("error", .text message)]
  if condition = .queryCanceled then
    ⟨"deadline_exceeded", "query timeout", [], .tool .timeout
      ("Query timed out after " ++ String.ofList s.timeout.text ++ "s: " ++ message)⟩
  else if condition = .syntaxError then
    ⟨"invalid_argument", "query syntax error", error, .tool .general ("SQL error: " ++ message)⟩
  else if condition.isOperational then
    ⟨"unavailable", "database error", error, .tool .network ("Database error: " ++ message)⟩
  else ⟨"internal_error", "query failed", error, .tool .general ("SQL error: " ++ message)⟩

namespace Client

variable {σ : Type} (c : Client σ)

/-- Runs an action of the server. -/
def onServer {α : Type} (a : Action σ Empty α) : Action (World σ) Note α :=
  (a.entering Empty.elim).within (·.outside) fun outside w => { w with outside }

/-- The failure that a fault in connecting becomes. -/
def connectionFault (fault : Fault) : Fault :=
  match fault with
  | .server condition message =>
    if condition.isOperational then
      .tool .network ("Connection failed to " ++ c.settings.host ++ ":" ++
        String.ofList (Numeral.text c.settings.port) ++ " database '" ++ c.settings.database ++
        "': " ++ message)
    else fault
  | fault => fault

/-- Is a connection held that is still open? -/
def isConnected : Action (World σ) Note Bool := do
  if (← Action.world).isHeld then onServer c.server.isOpen else pure false

/-- Opens a connection and holds it. -/
def openConnection : Action (World σ) Note Unit := do
  let options := c.settings.connection
  match ← ((onServer (c.server.connect options)).noting
      fun accepted => .message (.connect options accepted)).attempt with
  | .ok () => Action.change fun w => { w with isHeld := true }
  | .error fault => Action.fail (c.connectionFault fault)

/-- Opens a connection, unless one is held that is still open. -/
def connect : Action (World σ) Note Unit := do
  if ← c.isConnected then pure () else c.openConnection

/-- Sends one statement. -/
def send (sql : String) (arguments : Arguments) : Action (World σ) Note Reply :=
  (onServer (c.server.run sql arguments)).noting
    fun accepted => .message (.statement sql arguments accepted)

/-- Sends a statement after the time limit. -/
def sendLimited (millis : Int) (sql : String) (arguments : Arguments) :
    Action (World σ) Note Reply := do
  let _ ← c.send ("SET statement_timeout = " ++ String.ofList (Numeral.text millis)) .none
  c.send sql arguments

/-- Makes a result of a reply. -/
def deliver (reply : Reply) : Action (World σ) Note QueryResult := do
  let columns ← Action.ofExcept (reply.columns.mapM fun (name, number) => heading name number)
  let rowCount : Value := .int reply.counted.length
  Action.record (.spanData "row_count" rowCount)
  Action.record (.ofLog .debug "query complete" [("row_count", rowCount)])
  Action.ofExcept (reply.result columns)

/-- Fails as the treatment of a condition says; `shown` is the statement as it is logged. -/
def report (shown : String × Value) (t : Treatment) : Action (World σ) Note QueryResult := do
  Action.record (.spanStatus t.status)
  Action.record (.ofLog .error t.event (shown :: t.fields))
  Action.fail t.fault

/-- Runs a statement and gives its result. -/
def query (sql : String) (arguments : Arguments) : Action (World σ) Note QueryResult := do
  Action.record (.queried sql arguments)
  c.connect
  let millis ← Action.ofExcept c.settings.timeoutMillis
  let line := Text.singleSpaced sql.toList
  let shown : String × Value := ("sql", .text (String.ofList line))
  Action.record (.ofLog .debug "executing query" [shown])
  spanning id "db.query" (String.ofList (line.take 100)) do
    match ← (c.sendLimited millis sql arguments).attempt with
    | .ok reply => deliver reply
    | .error (.server condition message) => report shown (treatment c.settings condition message)
    | .error fault => Action.fail fault

/-- Closes the connection, if one is held. -/
def close : Action (World σ) Note Unit := do
  if (← Action.world).isHeld then
    (onServer c.server.disconnect).noting fun _ => .message .disconnect
    Action.change fun w => { w with isHeld := false }
  else pure ()

end Client

end ProcedureCall.Postgres
