import ProcedureCall.Text.Pieces

/-!
# The name that a call text invokes

A call text is free text such as `CALL hr.get_employee(?, ?)` or `{? = call get_employee(?)}`. The
name that it invokes is the first run of segments, joined by the separator, that is followed by an
opening parenthesis. A segment is an identifier or a run between quotes in which a doubled quote
stands for a quote.

The search is that of a backtracking matcher: each matcher gives every rest of the text that it can
leave, the one that it prefers first, and the first way through is taken.
-/

namespace ProcedureCall.CallText

open Text

/-- A character that may stand inside an identifier. -/
def isNameChar (c : Char) : Bool := isWord c || c == '$' || c == '#'

/-- A character that may begin an identifier: a word character that is no decimal digit. -/
def startsName (c : Char) : Bool := isWord c && !isDigit c

/-- The rests after some leading characters of a class, the most of them first. -/
def runRests (p : Char → Bool) : List Char → List (List Char)
  | [] => [[]]
  | c :: rest => if p c then runRests p rest ++ [c :: rest] else [c :: rest]

/-- The rests after an identifier, the longest one first. -/
def identifierRests : List Char → List (List Char)
  | [] => []
  | c :: rest => if startsName c then runRests isNameChar rest else []

/-- The rests after the inner part of a quoted segment and its closing quote: `q :: qs` is the
quote, `skip` characters of a doubled quote are still to be passed over, and `inside` tells whether
something stands between the quotes yet. -/
def closingRests (q : Char) (qs : List Char) : Nat → Bool → List Char → List (List Char)
  | _, _, [] => []
  | skip + 1, inside, _ :: rest => closingRests q qs skip inside rest
  | 0, inside, c :: rest =>
    (if (q :: qs).contains c then [] else closingRests q qs 0 true rest) ++
      (if (afterStart? (q :: qs ++ q :: qs) (c :: rest)).isSome then
        closingRests q qs (2 * qs.length + 1) true rest
      else []) ++
      (if inside then (afterStart? (q :: qs) (c :: rest)).toList else [])

/-- The rests after a quoted segment. Without a quote there is none. -/
def quotedRests (quote s : List Char) : List (List Char) :=
  match quote with
  | [] => []
  | q :: qs =>
    match afterStart? (q :: qs) s with
    | some rest => closingRests q qs 0 false rest
    | none => []

/-- The rests after a segment. -/
def segmentRests (quote s : List Char) : List (List Char) :=
  quotedRests quote s ++ identifierRests s

/-- The rests after a separator with white space around it. -/
def separatorRests (separator s : List Char) : List (List Char) :=
  (runRests isBlank s).flatMap fun rest =>
    ((afterStart? separator rest).toList).flatMap (runRests isBlank)

/-- Does the text go on with an opening parenthesis, white space aside? -/
def opensCall (s : List Char) : Bool := (s.dropWhile isBlank).head? == some '('

/-- The rest after the further segments of a name that is followed by an opening parenthesis. As
many segments as possible are taken. A segment is never empty, so the guard always holds. -/
def moreRest? (separator quote s : List Char) : Option (List Char) :=
  ((separatorRests separator s).findSome? fun between =>
      (segmentRests quote between).findSome? fun rest =>
        if rest.length < s.length then moreRest? separator quote rest else none) <|>
    if opensCall s then some s else none
  termination_by s.length

/-- The rest after a name at the front of the text that is followed by an opening parenthesis. -/
def nameRest? (separator quote s : List Char) : Option (List Char) :=
  (segmentRests quote s).findSome? (moreRest? separator quote)

/-- May a name begin after this character? Not inside an identifier nor at a quote. -/
def isBoundary (quote : List Char) : Option Char → Bool
  | none => true
  | some c => !(isNameChar c || quote.contains c)

/-- The first name in `s` that is followed by an opening parenthesis, where `before` is the
character before `s`. -/
def search? (separator quote : List Char) : Option Char → List Char → Option (List Char)
  | _, [] => none
  | before, c :: rest =>
    match if isBoundary quote before then nameRest? separator quote (c :: rest) else none with
    | some after => some ((c :: rest).take ((c :: rest).length - after.length))
    | none => search? separator quote (some c) rest

/-- The name that a call text invokes. -/
def target? (separator quote s : List Char) : Option (List Char) := search? separator quote none s

end ProcedureCall.CallText
