import ProcedureCall.Action
import ProcedureCall.Entries
import ProcedureCall.Parameter

/-!
# The row of output values

A call that gives nothing but output parameters still has a result: one row, whose columns are the
output parameters. Columns are gathered, then the row is committed, once. Values are not copied when
the row is committed; each is fetched when it is first read and kept from then on.

Whoever reads asks the projector for the row each time, or asks once and keeps the row (`Custody`).
The projector can be closed, and gives the row to nobody then; a row that is kept cannot.
-/

namespace ProcedureCall

/-- A cell of the committed row: its column, and its value once that was fetched. -/
structure Cell where
  /-- The column. -/
  column : OutputColumn
  /-- The value, if it was fetched. -/
  value : Option Value
  deriving Repr

/-- The row of output values in the making, or made. -/
structure Projector where
  /-- The columns. -/
  columns : List OutputColumn := []
  /-- The row, if it is committed. -/
  cells : Option (List Cell) := none
  /-- Was the row handed out? -/
  isRead : Bool := false
  /-- Was the projector closed? -/
  isClosed : Bool := false
  deriving Repr

/-- The place in a list of the given length that an index means; a negative one counts from the
end. -/
def placeOf? (length : Nat) (index : Int) : Option Nat :=
  if 0 ≤ index then (if index < length then some index.toNat else none)
  else if -(length : Int) ≤ index then some (index + length).toNat
  else none

namespace Projector

/-- A fault in the use of a projector. -/
def misuse (message : String) : Fault := .tool .projection message

/-- Is the row committed? -/
def isCommitted (p : Projector) : Bool := p.cells.isSome

/-- Adds a column, unless the row is committed. -/
def addColumn (p : Projector) (column : OutputColumn) : Except Fault Projector :=
  if p.isCommitted then .error (misuse "Cannot add columns after the row is committed")
  else .ok { p with columns := p.columns ++ [column] }

/-- Adds columns, one after another. -/
def addColumns (p : Projector) : List OutputColumn → Except Fault Projector
  | [] => .ok p
  | column :: columns => (p.addColumn column).bind fun p => p.addColumns columns

/-- Commits the row with the columns gathered so far. -/
def addRow (p : Projector) : Except Fault Projector :=
  if p.isClosed then .error (misuse "Result is closed")
  else if p.isCommitted then .error (misuse "Synthetic row already committed")
  else .ok { p with cells := some (p.columns.map fun column => ⟨column, none⟩) }

/-- Drops the row and admits no other. -/
def close (p : Projector) : Projector := { p with cells := none, isClosed := true }

/-- The committed row. -/
def row (p : Projector) : Except Fault (List Cell) :=
  if p.isClosed then .error (misuse "Result is closed")
  else
    match p.cells with
    | some cells => .ok cells
    | none => .error (misuse "No row committed; execute the call first")

/-- Keeps the value that was fetched for a cell. -/
def remember (p : Projector) (place : Nat) (value : Value) : Projector :=
  { p with
    cells := p.cells.map fun cells => cells.modify place fun c => { c with value := some value } }

end Projector

/-- Fetches the value at a place of the call. -/
abbrev Fetch (σ ε : Type) := Int → Action σ ε Value

section

variable {σ ε : Type} (fetch : Fetch σ ε)

/-- The value of a cell: the one that is kept, or the one that is fetched now and kept. -/
def readCell (place : Nat) : Action (Projector × σ) ε Value := do
  let cells ← Action.ofExcept (← Action.world).1.row
  match cells[place]? with
  | none => Action.fail (.mishap .badIndex "list index out of range")
  | some ⟨_, some value⟩ => pure value
  | some ⟨column, none⟩ =>
    let value ← (fetch column.sourceOrdinal).within (·.2) fun outside w => (w.1, outside)
    Action.change fun w => (w.1.remember place value, w.2)
    pure value

/-- The value at an index of the committed row. -/
def readAt (index : Int) : Action (Projector × σ) ε Value := do
  let cells ← Action.ofExcept (← Action.world).1.row
  match placeOf? cells.length index with
  | none => Action.fail (.mishap .badIndex "list index out of range")
  | some place => readCell fetch place

/-- All values of the committed row. -/
def readRow : Action (Projector × σ) ε (List Value) := do
  let cells ← Action.ofExcept (← Action.world).1.row
  Action.forEach (readCell fetch) (List.range cells.length)

/-- All values of the committed row by the names of their columns. -/
def readNamed : Action (Projector × σ) ε (List (String × Value)) := do
  let cells ← Action.ofExcept (← Action.world).1.row
  let values ← readRow fetch
  pure (Entries.ofPairs ((cells.map fun c => c.column.name).zip values))

/-- The committed row when it is asked for the first time, and nothing afterwards. -/
def fetchOne : Action (Projector × σ) ε (Option (List Value)) := do
  let p := (← Action.world).1
  let _ ← Action.ofExcept p.row
  if p.isRead then pure none
  else do
    Action.change fun w => ({ w.1 with isRead := true }, w.2)
    some <$> readRow fetch

/-- The rows that were not handed out yet: one or none. -/
def fetchAll : Action (Projector × σ) ε (List (List Value)) := do
  pure (← fetchOne fetch).toList

/-- The committed row as a result. -/
def projectedResult : Action (Projector × σ) ε QueryResult := do
  let cells ← Action.ofExcept (← Action.world).1.row
  let values ← readRow fetch
  pure
    { columns := cells.map fun c => ⟨c.column.name, c.column.dataType.name⟩
      rows := [values]
      rowCount := 1
      status := "CALL" }

end

/-- A projector, and the row that somebody asked it for and keeps. Until the projector is closed it
has that row too, so that a value that is fetched through the one is there for the other. A close
takes the row from the projector and not from who keeps it. -/
structure Custody where
  /-- The projector. -/
  projector : Projector
  /-- The cells of the row that is kept. -/
  row : List Cell
  deriving Repr

namespace Custody

/-- Asks a projector for its row, to keep it. -/
def ofProjector (p : Projector) : Except Fault Custody := p.row.map fun cells => ⟨p, cells⟩

/-- What has the row: the projector until it is closed, and then the row on its own. -/
def bearer (c : Custody) : Projector :=
  if c.projector.isClosed then { columns := c.row.map (·.column), cells := some c.row }
  else c.projector

section

variable {σ ε α : Type}

/-- Does something with the projector. -/
def onProjector (a : Action (Projector × σ) ε α) : Action (Custody × σ) ε α :=
  a.within (fun w => (w.1.projector, w.2)) fun v w =>
    ({ projector := v.1, row := v.1.cells.getD w.1.row }, v.2)

/-- Does something with the row. -/
def onRow (a : Action (Projector × σ) ε α) : Action (Custody × σ) ε α :=
  a.within (fun w => (w.1.bearer, w.2)) fun v w =>
    ({ projector := if w.1.projector.isClosed then w.1.projector else v.1
       row := v.1.cells.getD w.1.row }, v.2)

variable (fetch : Fetch σ ε)

/-- The value at an index of the row that is kept. -/
def readAt (index : Int) : Action (Custody × σ) ε Value := onRow (ProcedureCall.readAt fetch index)

/-- All values of the row that is kept. -/
def readRow : Action (Custody × σ) ε (List Value) := onRow (ProcedureCall.readRow fetch)

/-- All values of the row that is kept by the names of their columns. -/
def readNamed : Action (Custody × σ) ε (List (String × Value)) :=
  onRow (ProcedureCall.readNamed fetch)

end

end Custody

end ProcedureCall
