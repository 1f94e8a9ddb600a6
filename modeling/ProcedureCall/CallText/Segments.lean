import ProcedureCall.Text.Pieces

/-!
# The segments of a name

A name is cut at each separator that does not stand between quotes. A quote toggles, whatever
stands around it, so unbalanced quotes are taken as they come; nothing is dropped or added.
-/

namespace ProcedureCall.CallText

/-- Puts a character in front of the first of some segments. -/
def onFirst (c : Char) : List (List Char) → List (List Char)
  | [] => [[c]]
  | segment :: segments => (c :: segment) :: segments

/-- The segments of the rest of a name, `inside` telling whether a quote is open. -/
def segmentsFrom (separator quote : List Char) (inside : Bool) : List Char → List (List Char)
  | [] => [[]]
  | c :: rest =>
    if quote = [c] then onFirst c (segmentsFrom separator quote (!inside) rest)
    else if separator = [c] ∧ inside = false then [] :: segmentsFrom separator quote inside rest
    else onFirst c (segmentsFrom separator quote inside rest)

/-- The segments of a name. -/
def segments (separator quote name : List Char) : List (List Char) :=
  segmentsFrom separator quote false name

end ProcedureCall.CallText
