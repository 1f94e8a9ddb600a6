import ProcedureCall.Report.Markup
import ProcedureCall.Text.Cells

/-!
# Lines of a cell

Marked-up text is laid out in lines of a given number of terminal cells: cut at its line ends, at
spaces if it may be broken there, and with an ellipsis where a line is still too long.
-/

namespace ProcedureCall.Report

namespace MarkedText

/-- The part between two places. Stretches are cut to it, and those outside it are dropped. -/
def slice (t : MarkedText) (start stop : Nat) : MarkedText where
  chars := (t.chars.drop start).take (stop - start)
  stretches := t.stretches.filterMap fun s =>
    let first := s.start - start
    let last := min (s.stop - start) (stop - start)
    if first < last then some ⟨first, last, s.style⟩ else none

/-- The parts between neighbouring places, the ends included. -/
def divide (t : MarkedText) (places : List Nat) : List MarkedText :=
  if places.isEmpty then [t]
  else ((0 :: places).zip (places ++ [t.chars.length])).map fun (start, stop) => t.slice start stop

/-- The places of a character. -/
def placesOf (c : Char) (s : List Char) : List Nat :=
  s.zipIdx.filterMap fun (d, place) => if d == c then some place else none

/-- The parts between the line ends. -/
def atLineEnds (t : MarkedText) : List MarkedText :=
  let ends := placesOf '\n' t.chars
  if ends.isEmpty then [t]
  else ((0 :: ends.map (· + 1)).zip (ends ++ [t.chars.length])).map fun (start, stop) =>
    t.slice start stop

/-- The text cut to a number of characters. -/
def cut (t : MarkedText) (length : Nat) : MarkedText :=
  if t.chars.length ≤ length then t
  else
    { chars := t.chars.take length
      stretches := t.stretches.filterMap fun s =>
        if s.start < length then some { s with stop := min s.stop length } else none }

/-- Without white space at the end, so far as the text has more than a number of characters. -/
def withoutExcess (t : MarkedText) (size : Nat) : MarkedText :=
  let blanks := (t.chars.reverse.takeWhile Text.isBlank).length
  if t.chars.length ≤ size then t
  else t.cut (t.chars.length - min blanks (t.chars.length - size))

/-- The text in exactly a number of terminal cells: cut with an ellipsis or filled up with
spaces. -/
def toWidth (t : MarkedText) (width : Nat) : MarkedText :=
  let cells := Text.cells t.chars
  if width < cells then
    let chars := Text.fitted (width - 1) t.chars ++ ['…']
    { t.cut chars.length with chars }
  else { t with chars := t.chars ++ List.replicate (width - cells) ' ' }

/-- The distance of tab stops. -/
def tabStop : Nat := 8

/-- A part that ends in a tab, with the tab filled up to the next stop; `column` is the cell of its
first character. A stretch that reaches the end of the part holds what the tab became. -/
def withTabFilled (t : MarkedText) (column : Nat) : MarkedText :=
  if t.chars.getLast? = some '\t' then
    let chars := t.chars.dropLast ++ [' ']
    let beyond := (column + Text.cells chars) % tabStop
    let more := if beyond = 0 then 0 else tabStop - beyond
    { chars := chars ++ List.replicate more ' '
      stretches := t.stretches.map fun s =>
        if t.chars.length ≤ s.stop then { s with stop := s.stop + more } else s }
  else t

/-- Two texts, one after the other. -/
def append (t u : MarkedText) : MarkedText where
  chars := t.chars ++ u.chars
  stretches := t.stretches ++ u.stretches.map fun s =>
    { s with start := t.chars.length + s.start, stop := t.chars.length + s.stop }

/-- The text with its tabs filled up, each of which ends the stretches that hold it; they begin
again after it. -/
def withoutTabs (t : MarkedText) : MarkedText :=
  (t.divide ((placesOf '\t' t.chars).map (· + 1))).foldl
    (fun before part => before.append (part.withTabFilled (Text.cells before.chars))) ⟨[], []⟩

/-- The words of a text, each with the white space around it, and where each begins. -/
def wordsFrom (place : Nat) : Nat → List Char → List (Nat × List Char)
  | 0, _ => []
  | fuel + 1, s =>
    let lead := s.takeWhile Text.isBlank
    let rest := s.dropWhile Text.isBlank
    let body := rest.takeWhile fun c => !Text.isBlank c
    let rest := rest.dropWhile fun c => !Text.isBlank c
    let tail := rest.takeWhile Text.isBlank
    if body.isEmpty then []
    else
      let word := lead ++ body ++ tail
      (place, word) :: wordsFrom (place + word.length) fuel (rest.dropWhile Text.isBlank)

/-- The places at which words go to a new line of the given width, `used` cells of the present line
being taken. A word that fits on no line begins a line of its own. -/
def breaksFrom (width used : Nat) : List (Nat × List Char) → List Nat
  | [] => []
  | (place, word) :: rest =>
    let needed := Text.cells (Text.trimEndBy Text.isBlank word)
    let full := Text.cells word
    if needed + used ≤ width then breaksFrom width (used + full) rest
    else if width < needed then
      (if place = 0 then [] else [place]) ++ breaksFrom width full rest
    else if 0 < used ∧ 0 < place then place :: breaksFrom width full rest
    else breaksFrom width used rest

/-- The parts of a line that is broken at spaces, without the white space that fits on none. -/
def broken (t : MarkedText) (width : Nat) : List MarkedText :=
  (t.divide (breaksFrom width 0 (wordsFrom 0 (t.chars.length + 1) t.chars))).map
    (·.withoutExcess width)

/-- The lines of a text in a number of terminal cells, broken at spaces only if `wraps`. White space
at the end of a line that is not broken counts like any other character. -/
def lines (t : MarkedText) (wraps : Bool) (width : Nat) : List MarkedText :=
  t.atLineEnds.flatMap fun line =>
    let line := line.withoutTabs
    (if wraps then line.broken width else [line]).map (·.toWidth width)

end MarkedText

/-- Text in one style. -/
structure Segment where
  /-- The text. -/
  text : List Char
  /-- The style. -/
  style : Style := {}
  deriving Repr

/-- Some spaces. -/
def blanks (width : Nat) (style : Style) : Segment := ⟨List.replicate width ' ', style⟩

/-- The text as segments, cut wherever a stretch begins or ends. -/
def MarkedText.segments (t : MarkedText) : List Segment :=
  if t.stretches.isEmpty then [⟨t.chars, {}⟩]
  else
    let places := (0 :: t.chars.length :: t.stretches.flatMap fun s => [s.start, s.stop]).mergeSort
    (places.zip (places.drop 1)).filterMap fun (start, stop) =>
      if start < stop then
        let styles := (t.stretches.filter fun s => s.start ≤ start && stop ≤ s.stop).map (·.style)
        some ⟨(t.chars.drop start).take (stop - start), styles.foldl Style.combine {}⟩
      else none

/-- The sum of some widths. -/
def sumOf (widths : List Nat) : Nat := widths.foldr (· + ·) 0

/-- The number of terminal cells of segments. -/
def cellsOf (segments : List Segment) : Nat := sumOf (segments.map fun s => Text.cells s.text)

/-- Segments cut to a number of terminal cells. -/
def cropped : Nat → List Segment → List Segment
  | _, [] => []
  | room, s :: rest =>
    let width := Text.cells s.text
    if width < room then s :: cropped (room - width) rest
    else [{ s with text := Text.fitted room s.text }]

/-- Segments in exactly a number of terminal cells: cut, or filled up with spaces. -/
def adjusted (width : Nat) (segments : List Segment) : List Segment :=
  let present := cellsOf segments
  if present < width then segments ++ [blanks (width - present) {}]
  else if width < present then cropped width segments
  else segments

/-- Segments as they are sent to a terminal of the given width. -/
def painted (width : Nat) (segments : List Segment) : List Char :=
  (if width < cellsOf segments then cropped width segments else segments).flatMap fun s =>
    s.style.paint s.text

end ProcedureCall.Report
