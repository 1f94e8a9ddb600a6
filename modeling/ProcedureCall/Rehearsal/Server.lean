import ProcedureCall.Postgres.Client
import ProcedureCall.Rehearsal.Script

/-!
# A server from a script

A server that knows some schemas and procedures, answers what is asked of its catalog, and answers
any other statement from a list. Statements that hold a given text can be scripted to fail a number
of times.
-/

namespace ProcedureCall.Rehearsal

open Postgres

/-- A procedure that the server knows. -/
structure KnownProcedure where
  /-- The schema. -/
  schema : String
  /-- The name. -/
  name : String
  /-- The rows that describe the parameters. -/
  parameters : List (List Value)

/-- What the server knows. -/
structure ServerScript where
  /-- The current schema: absent, null, or a name. -/
  currentSchema : Option Value := some (.text "public")
  /-- The schemas beside those of the procedures. -/
  schemas : List String := ["public"]
  /-- The procedures. -/
  procedures : List KnownProcedure := []
  /-- The answer to a statement when the list of answers is used up. -/
  lastReply : Reply := {}

/-- A fault that statements with a certain text run into. -/
structure StatementFault where
  /-- The text. -/
  pattern : String
  /-- The fault. -/
  fault : Fault
  /-- How often it is still to come up. -/
  times : Int

/-- How far the server has come. -/
structure ServerWorld where
  /-- Which connections are still to fail. -/
  connectFaults : FaultScript := []
  /-- Which statements are still to fail. -/
  statementFaults : List StatementFault := []
  /-- The answers that are still to be given. -/
  replies : List Reply := []
  /-- Is the connection open? -/
  isOpen : Bool := false

/-- The fault that a statement runs into, and those that are left after it. -/
def takeFault (sql : String) : List StatementFault → Option (Fault × List StatementFault)
  | [] => none
  | f :: rest =>
    if Text.containsRun f.pattern.toList sql.toList && 0 < f.times then
      some (f.fault, { f with times := f.times - 1 } :: rest)
    else (takeFault sql rest).map fun (fault, left) => (fault, f :: left)

namespace ServerScript

variable (s : ServerScript)

/-- An argument of a statement by its name. -/
def argument (name : String) : Arguments → Value
  | .named values => (Entries.get? name values).getD .null
  | _ => .null

/-- An argument of a statement as a text. -/
def textArgument (name : String) (arguments : Arguments) : Option String :=
  match argument name arguments with
  | .text s => some s
  | _ => none

/-- The number on the server of the first procedure. -/
def firstOid : Nat := 16384

/-- The answer to a statement about the catalog, if it is one. -/
def catalogReply? (sql : String) (arguments : Arguments) : Option Reply :=
  let holds (pattern : String) : Bool := Text.containsRun pattern.toList sql.toList
  if "SET statement_timeout".toList.isPrefixOf sql.toList then some {}
  else if holds "current_schema()" then
    some
      { columns := [(.text "current_schema", .int 19)]
        rows := s.currentSchema.toList.map fun v => [v] }
  else if holds "nspname = %(name)s" then
    let known := (textArgument "name" arguments).filter fun name =>
      s.schemas.contains name || s.procedures.any (·.schema == name)
    some
      { columns := [(.text "nspname", .int 19)]
        rows := known.toList.map fun name => [.text name] }
  else if holds "prokind" then
    let found := s.procedures.zipIdx.find? fun (p, _) =>
      some p.schema == textArgument "schema" arguments &&
        some p.name == textArgument "name" arguments
    some
      { columns := [(.text "oid", .int 26), (.text "proname", .int 19)]
        rows := found.toList.map fun (p, place) => [.int (firstOid + place), .text p.name] }
  else if holds "WITH ORDINALITY" then
    let place := ((argument "oid" arguments).asInt?.getD 0 - firstOid).toNat
    some
      { columns :=
          [ (.text "position", .int 20), (.text "name", .int 25), (.text "mode", .int 25),
            (.text "type_name", .int 25) ]
        rows := (s.procedures[place]?).elim [] (·.parameters) }
  else none

/-- Runs a statement. -/
def run (sql : String) (arguments : Arguments) : Action ServerWorld Empty Reply := do
  let w ← Action.world
  match takeFault sql w.statementFaults with
  | some (fault, left) => do
    Action.change fun w => { w with statementFaults := left }
    Action.fail fault
  | none =>
    match s.catalogReply? sql arguments with
    | some reply => pure reply
    | none => do
      Action.change fun w => { w with replies := w.replies.drop 1 }
      pure (w.replies.head?.getD s.lastReply)

/-- The server of a script. -/
def server : Server ServerWorld where
  connect _ := do
    let script := (← Action.world).connectFaults
    Action.change fun w => { w with connectFaults := script.drop 1 }
    match script.head?.join with
    | some fault => Action.fail fault
    | none => Action.change fun w => { w with isOpen := true }
  isOpen := (·.isOpen) <$> Action.world
  run := s.run
  disconnect := Action.change fun w => { w with isOpen := false }

end ServerScript

end ProcedureCall.Rehearsal
