import ProcedureCall.Text.Character

/-!
# Cutting and joining text

Text as lists of characters: trimming, cutting at a character, words, replacement.
-/

namespace ProcedureCall.Text

/-- Without the characters of a class at either end. -/
def trimBy (p : Char → Bool) (s : List Char) : List Char :=
  (((s.dropWhile p).reverse).dropWhile p).reverse

/-- Without white space at either end. -/
def trim (s : List Char) : List Char := trimBy isBlank s

/-- Without the characters of a class at the end. -/
def trimEndBy (p : Char → Bool) (s : List Char) : List Char := (s.reverse.dropWhile p).reverse

/-- The pieces between the characters of a class; one more than there are such characters. -/
def cutBy (p : Char → Bool) : List Char → List (List Char)
  | [] => [[]]
  | c :: rest =>
    match p c, cutBy p rest with
    | true, pieces => [] :: pieces
    | false, [] => [[c]]
    | false, piece :: pieces => (c :: piece) :: pieces

/-- The non-empty pieces between white space. -/
def words (s : List Char) : List (List Char) := (cutBy isBlank s).filter (!·.isEmpty)

/-- The words of a text with one space between neighbours. -/
def singleSpaced (s : List Char) : List Char := [' '].intercalate (words s)

/-- The text before and the text after the first occurrence of a character. -/
def cutFirst? (c : Char) : List Char → Option (List Char × List Char)
  | [] => none
  | d :: rest =>
    if d = c then some ([], rest)
    else (cutFirst? c rest).map fun (before, after) => (d :: before, after)

/-- The text before and the text after the last occurrence of a character. -/
def cutLast? (c : Char) (s : List Char) : Option (List Char × List Char) :=
  (cutFirst? c s.reverse).map fun (after, before) => (before.reverse, after.reverse)

/-- The rest of a text after a given beginning. -/
def afterStart? : List Char → List Char → Option (List Char)
  | [], s => some s
  | _ :: _, [] => none
  | c :: start, d :: s => if c = d then afterStart? start s else none

/-- Every occurrence of `pattern`, found from left to right without overlap, becomes
`replacement`; `skip` characters of an occurrence found before are still to be passed over. -/
def replaceFrom (pattern replacement : List Char) : Nat → List Char → List Char
  | _, [] => []
  | skip + 1, _ :: rest => replaceFrom pattern replacement skip rest
  | 0, c :: rest =>
    match afterStart? pattern (c :: rest) with
    | some _ => replacement ++ replaceFrom pattern replacement (pattern.length - 1) rest
    | none => c :: replaceFrom pattern replacement 0 rest

/-- Every occurrence of a non-empty pattern becomes the replacement, from left to right. -/
def replaceAll (pattern replacement s : List Char) : List Char :=
  replaceFrom pattern replacement 0 s

/-- Does the text hold the pattern as a run of neighbouring characters? -/
def containsRun (pattern : List Char) : List Char → Bool
  | [] => pattern.isEmpty
  | c :: rest => (afterStart? pattern (c :: rest)).isSome || containsRun pattern rest

example : words " a \t b\n".toList = ["a".toList, "b".toList] := by decide +kernel
example : replaceAll "||".toList "|".toList "a||||b|".toList = "a||b|".toList := by decide +kernel
example : cutLast? '@' "a@b@c".toList = some ("a@b".toList, "c".toList) := by decide +kernel

end ProcedureCall.Text
