import ProcedureCall.Text.Character
import ProcedureCall.Text.CaseTable

/-!
# Folding to one case

The full mappings of Unicode: a character may become several (`ß` is `SS` in capitals), and the
capital sigma becomes the final small sigma at the end of a word.
-/

namespace ProcedureCall.Text

/-- The image of a code point under a list of runs, if one of them moves it. -/
def CaseRun.image? (runs : List CaseRun) (code : Nat) : Option Nat :=
  (runs.find? fun run =>
      run.first ≤ code && code ≤ run.last && (code - run.first) % run.step == 0).map
    fun run => (code + run.delta : Int).toNat

/-- The image of a character under a case mapping given by its two tables. -/
def mapCase (runs : List CaseRun) (sequences : List (Nat × List Nat)) (c : Char) : List Char :=
  match CaseRun.image? runs c.toNat with
  | some code => [Char.ofNat code]
  | none =>
    match sequences.find? (·.1 == c.toNat) with
    | some (_, codes) => codes.map Char.ofNat
    | none => [c]

/-- The capital form of a character. ASCII needs no table. -/
def upperOf (c : Char) : List Char :=
  if c.toNat < 128 then [c.toUpper] else mapCase upperRuns upperSequences c

/-- The small form of a character other than the capital sigma. ASCII needs no table. -/
def lowerOf (c : Char) : List Char :=
  if c.toNat < 128 then [c.toLower] else mapCase lowerRuns lowerSequences c

/-- The capital form of a text. -/
def upper (s : List Char) : List Char := s.flatMap upperOf

/-- Does a sigma between `before`, read backwards, and `after` stand at the end of a word? -/
def endsWord (before after : List Char) : Bool :=
  let neighbour (s : List Char) : Option Char :=
    (s.dropWhile fun c => inRanges caseIgnorableRanges c.toNat).head?
  let isCased (c : Option Char) : Bool := c.any fun c => inRanges casedRanges c.toNat
  isCased (neighbour before) && !isCased (neighbour after)

/-- The small form of `after`, given the text before it, read backwards. -/
def lowerAfter (before : List Char) : List Char → List Char
  | [] => []
  | c :: after =>
    (if c == 'Σ' then [if endsWord before after then 'ς' else 'σ']
      else lowerOf c) ++ lowerAfter (c :: before) after

/-- The small form of a text. -/
def lower (s : List Char) : List Char := lowerAfter [] s

example : upper "straße".toList = "STRASSE".toList := by decide +kernel
example : lower "ΑΣ Σ".toList = "ας σ".toList := by decide +kernel

end ProcedureCall.Text
