import ProcedureCall.Driver.Call
import ProcedureCall.Postgres.Client
import ProcedureCall.Value.Text

/-!
# Calls on a server

The driver's call over a client. Values are bound to places from 1 on. The server does not tell
which parameters are outputs; a call that has outputs gives one row with their values, which is read
by place or by name.
-/

namespace ProcedureCall.Postgres

namespace CallState

/-- Binds a value to a place from 1 on. -/
def bind (s : CallState) (key : Key) (value : Value) : Except Fault CallState :=
  match key.asInt?.filter (1 ≤ ·) with
  | some place => .ok { s with bindings := Entries.put place value s.bindings }
  | none =>
    .error (.tool .input
      ("Parameters are bound by 1-based position, got " ++ String.ofList key.literal))

/-- The greatest place that is bound, or 0. -/
def lastBound (s : CallState) : Int := s.bindings.foldl (fun last b => max last b.1) 0

/-- What is bound to the places from 1 to the last bound one. -/
def slots (s : CallState) : List (Nat × Option Value) :=
  (List.range' 1 s.lastBound.toNat).map fun place => (place, Entries.get? (place : Int) s.bindings)

/-- The places below the last bound one to which nothing is bound. -/
def missing (s : CallState) : List Nat :=
  s.slots.filterMap fun (place, value) => if value.isNone then some place else none

/-- The values to be sent, if there is no gap. -/
def arguments (s : CallState) : Except Fault Arguments :=
  if s.missing.isEmpty then
    let values := s.slots.filterMap (·.2)
    .ok (if values.isEmpty then .none else .positional values)
  else
    let places := s.missing.map fun (place : Nat) => String.ofList (Numeral.text place)
    .error (.tool .input ("Parameters not bound: " ++ ", ".intercalate places))

/-- Takes in the result of an execution. It is a result set of the call's own if it has columns and
no output parameter was registered. -/
def finish (s : CallState) (result : QueryResult) : CallState :=
  { s with result := some result, isNative := s.registered.isEmpty && !result.columns.isEmpty }

/-- The row of output values, and the names of its columns. -/
def outputRow (s : CallState) : Except Fault (List String × List Value) :=
  match s.result with
  | none => .error (.tool .driver "No output values; execute the call first")
  | some result =>
    match result.rows with
    | [] => .error (.tool .driver "Call returned no output row")
    | row :: _ => .ok (result.columns.map (·.name), row)

/-- A key that no value can be addressed by. -/
def oddKey : Fault := .mishap .wrongType "key is neither a position nor a name"

/-- The place in a row of `length` values that a key means. Numbers that are no integers are
compared with the bounds before they are turned down. -/
def placeOf (names : List String) (length : Nat) (key : Key) : Except Fault Nat :=
  let outOfRange : Fault := .tool .driver ("Output parameter index " ++ String.ofList key.plain ++
    " out of range 1.." ++ String.ofList (Numeral.text length))
  match key with
  | .text name =>
    match names.idxOf? name with
    | some place => .ok place
    | none => .error (.tool .driver ("No output parameter named '" ++ name ++ "'"))
  | .float x =>
    .error (if x.isWithin 1 length then oddKey else outOfRange)
  | .decimal (.notANumber ..) =>
    .error (.mishap .badOperation "[<class 'decimal.InvalidOperation'>]")
  | .decimal x =>
    .error (if x.isWithin 1 length then oddKey else outOfRange)
  | key =>
    match key.asInt? with
    | some place => if 1 ≤ place ∧ place ≤ length then .ok (place - 1).toNat else .error outOfRange
    | none => .error oddKey

/-- The value at a key of the row of output values. -/
def read (s : CallState) (key : Key) : Except Fault Value := do
  let (names, row) ← s.outputRow
  let place ← placeOf names row.length key
  match row[place]? with
  | some value => .ok value
  | none => .error (.mishap .badIndex "tuple index out of range")

/-- Forgets what is bound and what the execution gave. -/
def close (s : CallState) : CallState :=
  { s with bindings := [], result := none, isNative := false }

end CallState

/-- A call whose text is sent through a client. -/
structure Call (σ : Type) where
  /-- The client. -/
  client : Client σ
  /-- The call text. -/
  text : String

namespace Call

variable {σ : Type} (c : Call σ)

/-- Where the call stands. -/
def state : Action (World σ) Note CallState := (·.call) <$> Action.world

/-- Moves the call on. -/
def update (s : CallState) : Action (World σ) Note Unit :=
  Action.change fun w => { w with call := s }

/-- Binds a value. -/
def bind (key : Key) (value : Value) : Action (World σ) Note Unit := do
  update (← Action.ofExcept ((← state).bind key value))

/-- Executes the call and tells whether there is a result set of its own. -/
def execute : Action (World σ) Note Bool := do
  let arguments ← Action.ofExcept (← state).arguments
  let result ← c.client.query c.text arguments
  update ((← state).finish result)
  pure (← state).isNative

/-- Reads an output value. -/
def read (key : Key) : Action (World σ) Note Value := do
  let value ← Action.ofExcept ((← state).read key)
  update { ← state with wasNull := value.isNull }
  pure value

/-- The result set of the call's own, if there is one. -/
def resultSet : Action (World σ) Note (Option QueryResult) := do
  let s ← state
  pure (if s.isNative then s.result else none)

/-- The driver's call. -/
def driverCall : DriverCall (World σ) where
  report := Action.fail
    (.tool .driver "psycopg does not report parameter modes for CALL statements")
  register slot code := do
    let s ← state
    update { s with registered := Entries.put slot code s.registered }
  bind := bind
  bindNull key _ := bind key .null
  read := read
  wasNull := do pure (← state).wasNull
  execute := c.execute
  resultSet := resultSet
  moreResults := pure false
  close := do update (← state).close

end Call

end ProcedureCall.Postgres
