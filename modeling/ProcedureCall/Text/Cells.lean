import ProcedureCall.Text.Character
import ProcedureCall.Text.WidthTable

/-!
# Terminal cells

How many cells of a terminal a text takes, and where it may be cut. A joiner glues the character
after it to what stands before, so that both are shown in one place; a selector turns a narrow
character into a picture of two cells. A text is cut between clusters only: a character with
whatever is shown in its place.
-/

namespace ProcedureCall.Text

/-- The number of terminal cells that a character takes by itself. -/
def cellWidth (c : Char) : Nat :=
  if 32 ≤ c.toNat && c.toNat < 127 then 1
  else if inRanges zeroWidthRanges c.toNat then 0
  else if inRanges wideRanges c.toNat then 2
  else 1

/-- The character that joins the one after it to what stands before. -/
def joiner : Char := '\u200d'

/-- The character that asks for a picture. -/
def pictureSelector : Char := '\ufe0f'

/-- The cells that the selector adds to a character, if there is one. -/
def pictureGain : Option Char → Nat
  | some c => if inRanges pictureRanges c.toNat then 1 else 0
  | none => 0

/-- The number of terminal cells of a text that follows the character `last`, which a selector may
still widen. -/
def cellsAfter (last : Option Char) : List Char → Nat
  | [] => 0
  | c :: rest =>
    if c = joiner then
      match rest with
      | [] => 0
      | _ :: rest => cellsAfter last rest
    else if c = pictureSelector then pictureGain last + cellsAfter none rest
    else cellWidth c + cellsAfter (if 0 < cellWidth c then some c else last) rest

/-- The number of terminal cells that a text takes. -/
def cells (s : List Char) : Nat := cellsAfter none s

/-- A character with whatever is shown in its place. -/
structure Cluster where
  /-- The characters. -/
  chars : List Char
  /-- The number of cells. -/
  width : Nat
  deriving DecidableEq, Repr

/-- Puts characters into the last cluster, which stands in front here; they widen it by some
cells. -/
def joined (more : List Char) (gain : Nat) : List Cluster → List Cluster
  | [] => [⟨more, gain⟩]
  | c :: before => ⟨c.chars ++ more, c.width + gain⟩ :: before

/-- The clusters of a text that follows the clusters `before`, which are held backwards, and the
character `last`, which a selector may still widen. A joiner with no cluster before it joins
nothing. -/
def clustersAfter (before : List Cluster) (last : Option Char) : List Char → List Cluster
  | [] => before.reverse
  | c :: rest =>
    if c = joiner then
      match before, rest with
      | [], rest => clustersAfter (joined [c] 0 before) last rest
      | _, [] => (joined [c] 0 before).reverse
      | _, d :: rest => clustersAfter (joined [c, d] 0 before) last rest
    else if c = pictureSelector then
      clustersAfter (joined [c] (pictureGain last) before) none rest
    else if cellWidth c = 0 then clustersAfter (joined [c] 0 before) last rest
    else clustersAfter (⟨[c], cellWidth c⟩ :: before) (some c) rest

/-- The clusters of a text. -/
def clusters (s : List Char) : List Cluster := clustersAfter [] none s

/-- The longest run of clusters that takes at most a number of cells. A space stands for the half of
a wide one. -/
def cutTo : Nat → List Cluster → List Char
  | 0, _ => []
  | room, [] => List.replicate room ' '
  | room, c :: rest =>
    if c.width ≤ room then c.chars ++ cutTo (room - c.width) rest else List.replicate room ' '

/-- The text in exactly a number of cells: cut, or filled up with spaces. -/
def fitted (room : Nat) (s : List Char) : List Char :=
  if cells s ≤ room then s ++ List.replicate (room - cells s) ' ' else cutTo room (clusters s)

example : cellWidth '日' = 2 ∧ cellWidth 'é' = 1 ∧ cellWidth '\u0301' = 0 := by decide +kernel
example : cells "❤️".toList = 2 ∧ cells "👩‍🔬x".toList = 3 := by decide +kernel
example : fitted 2 "a日b".toList = "a ".toList := by decide +kernel

end ProcedureCall.Text
