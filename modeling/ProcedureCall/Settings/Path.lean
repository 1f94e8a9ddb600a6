import ProcedureCall.Text.Pieces

/-!
# Paths

The path of a file leads through names, from the root or from the place where the program runs. A
path is shown without what leads nowhere: empty names and the name that stands for the place itself.

What a path leads to is looked up by the outer layer. The walk of a path through a known tree is
`Rehearsal.FileTree.stateAt`.
-/

namespace ProcedureCall

/-- A path. -/
structure Path where
  /-- The slashes that it starts with. -/
  root : List Char
  /-- The names that it leads through. -/
  names : List (List Char)
  deriving DecidableEq, Repr

namespace Path

/-- The slashes that a path starts with, of which more than two count as one. -/
def rootOf (s : List Char) : List Char :=
  let slashes := s.takeWhile (· == '/')
  if slashes.length ≤ 2 then slashes else ['/']

/-- Does a name lead somewhere? -/
def leadsOn (name : List Char) : Bool := !name.isEmpty && name != ['.']

/-- The path that a text stands for. -/
def ofText (s : String) : Path where
  root := rootOf s.toList
  names := (Text.cutBy (· == '/') s.toList).filter leadsOn

/-- A path as it is shown. -/
def text (p : Path) : String :=
  String.ofList <|
    if p.root.isEmpty && p.names.isEmpty then ['.'] else p.root ++ ['/'].intercalate p.names

example : (ofText "").text = "." := by decide +kernel
example : (ofText "//a/./b//").text = "//a/b" := by decide +kernel
example : (ofText "///a/..").text = "/a/.." := by decide +kernel

end Path

/-- What a path leads to. -/
inductive FileState where
  /-- Nothing. -/
  | missing
  /-- A directory. -/
  | directory
  /-- It cannot be said, since the path or one of its names is too long. -/
  | nameTooLong
  /-- A file with these octets. -/
  | content (octets : List UInt8)
  deriving DecidableEq, Repr

end ProcedureCall
