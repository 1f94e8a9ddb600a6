import ProcedureCall.Entries
import ProcedureCall.Settings.Path

/-!
# Files of a rehearsal

A tree of directories and files that are known beforehand, and the walk of a path through it. A name
that is too long stops the walk as soon as it is reached, and so it is not noticed behind a name
that leads to nothing.
-/

namespace ProcedureCall.Rehearsal

/-- The directories and files that are known, each with the names that lead to it. -/
structure FileTree where
  /-- The directories. -/
  directories : List (List (List Char)) := []
  /-- The files and their octets. -/
  files : List (List (List Char) × List UInt8) := []

namespace FileTree

/-- The octets that a name may have. -/
def longestName : Nat := 255

/-- The octets that a path may have. -/
def longestPath : Nat := 4095

/-- What names lead to from a directory; two dots lead back. -/
def walk (t : FileTree) (place : List (List Char)) : List (List Char) → FileState
  | [] => .directory
  | name :: rest =>
    if longestName < (String.ofList name).utf8ByteSize then .nameTooLong
    else if name = ['.', '.'] then walk t place.dropLast rest
    else
      let here := place ++ [name]
      if t.directories.contains here then walk t here rest
      else
        match Entries.get? here t.files, rest with
        | some octets, [] => .content octets
        | _, _ => .missing

/-- The tree that a path is walked through: one that does not start at the root starts in an empty
directory. -/
def below (t : FileTree) (root : List Char) : FileTree := if root.isEmpty then {} else t

/-- What a path leads to. -/
def stateAt (t : FileTree) (p : Path) : FileState :=
  if longestPath < p.text.utf8ByteSize then .nameTooLong else (t.below p.root).walk [] p.names

end FileTree

end ProcedureCall.Rehearsal
