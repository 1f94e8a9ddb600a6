import ProcedureCall.Action
import ProcedureCall.CallText.Segments
import ProcedureCall.CallText.Target
import ProcedureCall.Journal
import ProcedureCall.Parameter

/-!
# Sessions

A session shows a catalog: a tree of named containers in which procedures are found. The library
never loads the catalog itself; it asks the session, which may take its answers from anywhere and
may fail at any of them. The functions whose names begin with `ask` enter each request into the
journal.
-/

namespace ProcedureCall

/-- How a catalog stores the names that are not quoted. -/
inductive IdentifierCase where
  /-- In capitals. -/
  | upper
  /-- In small letters. -/
  | lower
  /-- As they are written. -/
  | mixed
  deriving DecidableEq, Repr

/-- How names are written, and what the data source can do. -/
structure Dialect where
  /-- What stands between the segments of a name. -/
  separator : String
  /-- What stands around a quoted segment; empty if there are no quotes. -/
  quote : String
  /-- How names without quotes are stored. -/
  identifierCase : IdentifierCase
  /-- Do cursors come back as result sets of their own? -/
  multipleResults : Bool
  deriving DecidableEq, Repr

namespace Dialect

/-- A segment without its quotes, a doubled quote becoming one; `none` if it is not quoted. -/
def unquote? (d : Dialect) (segment : List Char) : Option (List Char) :=
  let quote := d.quote.toList
  if quote ≠ [] ∧ 2 ≤ segment.length ∧ quote.isPrefixOf segment ∧ quote.isSuffixOf segment then
    some (Text.replaceAll (quote ++ quote) quote (segment.drop 1).dropLast)
  else none

/-- A segment as the catalog stores it. -/
def fold (d : Dialect) (segment : List Char) : List Char :=
  match d.unquote? segment with
  | some name => name
  | none =>
    match d.identifierCase with
    | .upper => Text.upper segment
    | .lower => Text.lower segment
    | .mixed => segment

/-- The segments of a name. -/
def segments (d : Dialect) (name : String) : List (List Char) :=
  CallText.segments d.separator.toList d.quote.toList name.toList

/-- The name that a call text invokes; no text invokes nothing. -/
def target? (d : Dialect) (text : Option String) : Option String :=
  text.bind fun text =>
    (CallText.target? d.separator.toList d.quote.toList text.toList).map String.ofList

end Dialect

/-- What a node of the catalog can be asked. -/
inductive NodeKind where
  /-- Nothing. -/
  | leaf
  /-- For children. -/
  | container
  /-- For children and procedures. -/
  | procedureContainer
  deriving DecidableEq, Repr

namespace NodeKind

/-- Can it be asked for children? -/
def isContainer : NodeKind → Bool
  | leaf => false
  | _ => true

/-- Can it be asked for procedures? -/
def looksUpProcedures : NodeKind → Bool
  | procedureContainer => true
  | _ => false

end NodeKind

/-- A session in a world `σ` over a catalog with nodes `ν` and procedures `π`. -/
structure Session (σ ν π : Type) where
  /-- How names are written. -/
  dialect : Dialect
  /-- The node at the top, if the catalog can be walked. -/
  root : Option ν
  /-- What a node can be asked. -/
  kind : ν → NodeKind
  /-- The name of a procedure. -/
  procedureName : π → String
  /-- The selected nodes, outermost first. -/
  selected : Action σ Note (List ν)
  /-- The child of a container with a name. -/
  child : ν → String → Action σ Note (Option ν)
  /-- The procedure in a container with a name. -/
  procedure : ν → String → Action σ Note (Option π)
  /-- The parameters of a procedure in the order of their declaration. -/
  parameters : π → Action σ Note (List Parameter)
  /-- The data type that the data source knows by a name. -/
  localType : String → Action σ Note (Option DataType)

namespace Session

variable {σ ν π : Type} (s : Session σ ν π)

/-- Asks for the selected nodes. -/
def askSelected : Action σ (Event ν π) (List ν) :=
  (s.selected.entering .note).noting fun _ => .selectionAsked

/-- Asks a container for a child. -/
def askChild (container : ν) (name : String) : Action σ (Event ν π) (Option ν) :=
  ((s.child container name).entering .note).noting fun _ => .childAsked container name

/-- Asks a container for a procedure. -/
def askProcedure (container : ν) (name : String) : Action σ (Event ν π) (Option π) :=
  ((s.procedure container name).entering .note).noting fun _ => .procedureAsked container name

/-- Asks for the parameters of a procedure. -/
def askParameters (procedure : π) : Action σ (Event ν π) (List Parameter) :=
  ((s.parameters procedure).entering .note).noting fun _ => .parametersAsked procedure

/-- Asks for a data type by its name. -/
def askLocalType (name : String) : Action σ (Event ν π) (Option DataType) :=
  ((s.localType name).entering .note).noting fun _ => .localTypeAsked name

/-- The nodes between which a name is looked up: the child of a container with the folded name of
the first segment, the child of that one, and so on. White space around a segment is dropped, and
an empty segment, a missing child or one that is no container ends the walk. -/
def walk (container : ν) : List (List Char) → Action σ (Event ν π) (Option ν)
  | [] => pure (some container)
  | segment :: segments =>
    let name := Text.trim segment
    if name.isEmpty then pure none
    else do
      match ← s.askChild container (String.ofList (s.dialect.fold name)) with
      | some child =>
        if (s.kind child).isContainer then walk child segments else pure none
      | none => pure none

/-- The container in which a name of one segment is looked up: the last selected node if it is a
container, else the root. -/
def innermost (root : ν) : Action σ (Event ν π) ν := do
  let selected ← s.askSelected
  pure <|
    match selected.getLast? with
    | some node => if (s.kind node).isContainer then node else root
    | none => root

/-- Looks up the procedure whose name has the given segments. -/
def lookUp (names : List (List Char)) : Action σ (Event ν π) (Option π) :=
  match s.root with
  | none => pure none
  | some root => do
    let container ←
      if names.length = 1 then some <$> s.innermost root else s.walk root names.dropLast
    match container with
    | none => pure none
    | some container =>
      let name := Text.trim (names.getLastD [])
      if name.isEmpty || !(s.kind container).looksUpProcedures then pure none
      else s.askProcedure container (String.ofList (s.dialect.fold name))

/-- A log record of the lowest level. -/
def debug (event : String) (fields : List (String × Value)) : Action σ (Event ν π) Unit :=
  Action.record (.note (.ofLog .debug event fields))

/-- Resolves a name to a procedure, as well as may be: a failure on the way counts as a procedure
that was not found. -/
def resolve (name : String) : Action σ (Event ν π) (Option π) := do
  match ← (s.lookUp (s.dialect.segments name)).attempt with
  | .error fault =>
    debug "procedure lookup failed" [("name", .text name), ("error", .text fault.message)]
    pure none
  | .ok none =>
    debug "procedure not found" [("name", .text name)]
    pure none
  | .ok (some procedure) => pure (some procedure)

/-- Finds the procedure that a call text invokes. -/
def find (text : Option String) : Action σ (Event ν π) (Option π) :=
  match s.dialect.target? text with
  | none => pure none
  | some name => s.resolve name

/-- Does the catalog declare that a value comes out of the procedure? -/
def hasOutputs : Option π → Action σ (Event ν π) Bool
  | none => pure false
  | some procedure => do
    let parameters ← s.askParameters procedure
    pure (parameters.any fun p => p.direction.isOutput)

end Session

end ProcedureCall
