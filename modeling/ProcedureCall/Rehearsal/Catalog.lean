import ProcedureCall.Catalog.Session
import ProcedureCall.Entries
import ProcedureCall.Rehearsal.Script

/-!
# A catalog in memory

A tree of nodes that plays the catalog of a session. A container finds its children by their exact
names, the last of those with one name; it may be scripted to fail, and so may the parameters of a
procedure and the look-up of single type names.
-/

namespace ProcedureCall.Rehearsal

/-- A node of the tree. -/
inductive Node where
  /-- A container; `looksUp` tells whether it can be asked for procedures, and the faults come up
  whenever it is asked for a child or for a procedure. -/
  | container (name : String) (looksUp : Bool) (children : List Node)
      (childFault procedureFault : Option Fault)
  /-- A procedure, with a script of the faults of reading its parameters. -/
  | procedure (name : String) (parameters : List Parameter) (faults : FaultScript)
  /-- Something that can be asked nothing. -/
  | other (name : String)
  deriving Inhabited

namespace Node

/-- The name of a node. -/
def name : Node → String
  | container name .. => name
  | procedure name .. => name
  | other name => name

/-- The last child with a name. -/
def child? (asked : String) : Node → Option Node
  | container _ _ children _ _ => children.reverse.find? (·.name == asked)
  | _ => none

/-- What a node can be asked. -/
def kind : Node → NodeKind
  | container _ looksUp .. => if looksUp then .procedureContainer else .container
  | _ => .leaf

end Node

/-- A node and where it stands. -/
structure Located where
  /-- Where it stands. -/
  place : Place
  /-- The node. -/
  node : Node

/-- A child of a node. -/
def Located.child? (l : Located) (name : String) : Option Located :=
  (l.node.child? name).map fun child => ⟨⟨l.place.alone, l.place.names ++ [name]⟩, child⟩

/-- The node as the root of the catalog. -/
def Located.root (node : Node) : Located := ⟨⟨none, [node.name]⟩, node⟩

/-- The node as one that stands alone. -/
def Located.alone (number : Nat) (node : Node) : Located := ⟨⟨some number, [node.name]⟩, node⟩

/-- What is selected in a session. -/
inductive Selection where
  /-- The node that is reached from the root by these names. -/
  | path (names : List String)
  /-- A node that stands alone. -/
  | alone (node : Node)

/-- The catalog of a session. -/
structure Catalog where
  /-- How names are written. -/
  dialect : Dialect
  /-- The root, if there is one. -/
  root : Option Node
  /-- The known types. -/
  types : Registry
  /-- The names of types whose look-up fails. -/
  typeFaults : List (String × Fault)
  /-- What is selected. -/
  selected : List Selection
  /-- Why the selection cannot be told. -/
  selectionFault : Option Fault

namespace Catalog

/-- Gives a value unless there is a fault. -/
def orFail {α : Type} (fault : Option Fault) (value : α) : Action World Note α :=
  match fault with
  | some fault => Action.fail fault
  | none => pure value

/-- The nodes that are selected. -/
def selectedNodes (c : Catalog) : List Located :=
  c.selected.zipIdx.filterMap fun
    | (.alone node, number) => some (.alone number node)
    | (.path names, _) =>
      names.foldl (fun l name => l.bind (·.child? name)) (c.root.map Located.root)

/-- The child of a node. -/
def child (l : Located) (name : String) : Action World Note (Option Located) :=
  match l.node with
  | .container _ _ _ fault _ => orFail fault (l.child? name)
  | _ => pure none

/-- The procedure in a node. -/
def procedure (l : Located) (name : String) : Action World Note (Option Located) :=
  match l.node with
  | .container _ _ _ _ fault =>
    orFail fault <| (l.child? name).filter fun child =>
      match child.node with
      | .procedure .. => true
      | _ => false
  | _ => pure none

/-- Reads the parameters of a procedure. -/
def parameters (l : Located) : Action World Note (List Parameter) := do
  match l.node with
  | .procedure _ parameters faults =>
    let count := (Entries.get? l.place (← Action.world).parameterReads).getD 0
    Action.change fun w =>
      { w with parameterReads := Entries.put l.place (count + 1) w.parameterReads }
    orFail (faults[count]?).join parameters
  | _ => pure []

/-- The session that shows the catalog. -/
def session (c : Catalog) : Session World Located Located where
  dialect := c.dialect
  root := c.root.map Located.root
  kind l := l.node.kind
  procedureName l := l.node.name
  selected := orFail c.selectionFault c.selectedNodes
  child := child
  procedure := procedure
  parameters := parameters
  localType name := orFail (Entries.get? name c.typeFaults) (c.types.get? (some name))

end Catalog

end ProcedureCall.Rehearsal
