import ProcedureCall.Value.Basic

/-!
# The journal

What happens on the way to a result: log records, spans of time, statements handed to a client,
messages to a server, and the operations asked of a catalog and of a driver. All but the last are
notes, which anything may leave.
The operations are entered by the library itself around each request that it makes, so that an
entry means that the request was made, whatever stands behind it.
-/

namespace ProcedureCall

/-- How much a log record matters. -/
inductive Level where
  /-- For those who look for a fault. -/
  | debug
  /-- For those who watch. -/
  | info
  /-- Something is odd. -/
  | warning
  /-- Something failed. -/
  | error
  /-- Nothing works. -/
  | critical
  deriving DecidableEq, Repr

namespace Level

/-- The name of a level. -/
def text : Level → String
  | debug => "debug"
  | info => "info"
  | warning => "warning"
  | error => "error"
  | critical => "critical"

/-- The level with a name. -/
def ofText? (s : String) : Option Level :=
  [debug, info, warning, error, critical].find? (·.text == s)

/-- The weight of a level. -/
def weight : Level → Nat
  | debug => 10
  | info => 20
  | warning => 30
  | error => 40
  | critical => 50

end Level

/-- A log record. -/
structure LogRecord where
  /-- How much it matters. -/
  level : Level
  /-- What happened. -/
  event : String
  /-- The circumstances. -/
  fields : List (String × Value)
  deriving Repr

/-- The particulars of a connection. -/
structure ConnectionOptions where
  /-- The host of the server. -/
  host : String
  /-- The port of the server. -/
  port : Int
  /-- The database. -/
  database : String
  /-- The user. -/
  user : Option String
  /-- The password. -/
  password : Option String
  /-- How the connection is secured. -/
  sslmode : String
  /-- The seconds that connecting may take. -/
  connectTimeout : Int
  /-- The name that the program gives itself. -/
  applicationName : String
  deriving DecidableEq, Repr, Inhabited

/-- The values sent with a statement. -/
inductive Arguments where
  /-- No values. -/
  | none
  /-- Values by place. -/
  | positional (values : List Value)
  /-- Values by name. -/
  | named (values : List (String × Value))
  deriving Repr, Inhabited

/-- A message to a server, and whether it was accepted. -/
inductive Message where
  /-- Opens a connection. -/
  | connect (options : ConnectionOptions) (accepted : Bool)
  /-- Sends a statement. -/
  | statement (sql : String) (arguments : Arguments) (accepted : Bool)
  /-- Closes the connection. -/
  | disconnect
  deriving Repr

/-- What anything may note on the way. -/
inductive Note where
  /-- A log record. -/
  | log (record : LogRecord)
  /-- A span of time begins. -/
  | spanOpened (operation description : String)
  /-- Something is told about the innermost open span. -/
  | spanData (key : String) (value : Value)
  /-- The innermost open span ends in a certain state. -/
  | spanStatus (status : String)
  /-- The innermost open span ends. -/
  | spanClosed
  /-- A client is asked to run a statement. -/
  | queried (sql : String) (arguments : Arguments)
  /-- A message goes to a server. -/
  | message (message : Message)
  deriving Repr

/-- What a parameter is addressed by: a number or a name as a rule, but callers may try anything. -/
abbrev Key := Value

/-- What happens around a call: a note, or an operation asked of the catalog (nodes `ν`, procedures
`π`), of the driver's call or of the observer of binds. An operation that can be refused says
whether it was accepted. -/
inductive Event (ν π : Type) where
  /-- A note. -/
  | note (n : Note)
  /-- The session was asked for the selected containers. -/
  | selectionAsked
  /-- A container was asked for a child. -/
  | childAsked (container : ν) (name : String)
  /-- A container was asked for a procedure. -/
  | procedureAsked (container : ν) (name : String)
  /-- A procedure was asked for its parameters. -/
  | parametersAsked (procedure : π)
  /-- The local types were asked for a name. -/
  | localTypeAsked (name : String)
  /-- The driver was asked what it knows of the parameters. -/
  | reportAsked
  /-- An output parameter was registered. -/
  | registered (slot code : Int) (accepted : Bool)
  /-- A value was bound. -/
  | bound (key : Key) (value : Value) (accepted : Bool)
  /-- The absence of a value was bound. -/
  | boundNull (key : Key) (code : Int) (accepted : Bool)
  /-- A value was read. -/
  | read (key : Key) (accepted : Bool)
  /-- The call was executed. -/
  | executed (accepted : Bool)
  /-- The call was closed. -/
  | closed
  /-- The observer was told of a bind. -/
  | observed (key : Key) (value : Value)

/-- A span of time. -/
structure Span where
  /-- What kind of operation it was. -/
  operation : String
  /-- What it did. -/
  description : String
  /-- What was told about it. -/
  data : List (String × Value) := []
  /-- The state it ended in, if it was told. -/
  status : Option String := none
  deriving Repr

/-- The log records among some notes. -/
def logRecords (notes : List Note) : List LogRecord :=
  notes.filterMap fun
    | .log record => some record
    | _ => none

/-- The messages to a server among some notes. -/
def messages (notes : List Note) : List Message :=
  notes.filterMap fun
    | .message message => some message
    | _ => none

/-- The notes of a journal. -/
def Event.notes {ν π : Type} (journal : List (Event ν π)) : List Note :=
  journal.filterMap fun
    | .note n => some n
    | _ => none

namespace Span

/-- The spans begun so far, in order, and the places of those still open, innermost first. -/
structure Reading where
  /-- The spans. -/
  spans : List Span := []
  /-- The places of the open ones. -/
  openPlaces : List Nat := []

/-- Changes the innermost open span. -/
def Reading.change (r : Reading) (f : Span → Span) : Reading :=
  match r.openPlaces with
  | [] => r
  | place :: _ => { r with spans := r.spans.modify place f }

/-- Takes in one note. -/
def Reading.take (r : Reading) : Note → Reading
  | .spanOpened operation description =>
    ⟨r.spans ++ [{ operation, description }], r.spans.length :: r.openPlaces⟩
  | .spanData key value => r.change fun s => { s with data := s.data ++ [(key, value)] }
  | .spanStatus status => r.change fun s => { s with status := some status }
  | .spanClosed => { r with openPlaces := r.openPlaces.drop 1 }
  | _ => r

/-- The spans that some notes tell of, in the order in which they began. -/
def ofNotes (notes : List Note) : List Span := (notes.foldl Reading.take ({} : Reading)).spans

end Span

/-- A log record as a note. -/
def Note.ofLog (level : Level) (event : String) (fields : List (String × Value)) : Note :=
  .log ⟨level, event, fields⟩

end ProcedureCall
