import ProcedureCall.Number.Binary
import ProcedureCall.Parameter
import ProcedureCall.Report.Line
import ProcedureCall.Value.Text

/-!
# Tables for a terminal

A report as a table in a frame, with a heavy line around and below the heading. A column is as wide
as its widest line and a space on either side; where the terminal is too narrow, the columns give
way evenly.
-/

namespace ProcedureCall.Report.Table

/-- How a table is made. -/
structure Options where
  /-- How many characters of a value are shown. -/
  width : Int := 40
  /-- Are the types of the columns shown? -/
  showTypes : Bool := false

/-- What stands for a table without columns or rows. -/
def noResults : String := "No results"

/-- A text cut to a number of characters, the last of which is an ellipsis. A number below one takes
characters away from the end instead. -/
def shortened (width : Int) (s : List Char) : List Char :=
  if (s.length : Int) ≤ width then s
  else if 1 ≤ width then s.take (width - 1).toNat ++ ['…']
  else s.take ((s.length : Int) + (width - 1)).toNat ++ ['…']

/-- The text of a cell. -/
def cellText (o : Options) (v : Value) : List Char :=
  shortened o.width (if v.isNull then [] else v.plain)

/-- The text of a heading. -/
def headingText (o : Options) (c : ColumnHeading) : List Char :=
  if o.showTypes then c.name.toList ++ "\n[dim]".toList ++ c.typeName.toList ++ "[/dim]".toList
  else c.name.toList

/-- A column: its heading and its cells, and whether cells may be broken into lines. -/
structure Column where
  /-- The heading. -/
  heading : MarkedText
  /-- The cells, one per row. -/
  cells : List MarkedText
  /-- May the cells be broken at spaces? -/
  wraps : Bool

/-- The spaces on both sides of a cell. -/
def padding : Nat := 2

/-- A character that ends a line when the widths of texts are taken. -/
def isLineEnd (c : Char) : Bool :=
  [10, 11, 12, 13, 28, 29, 30, 133, 8232, 8233].contains c.toNat

/-- The number of terminal cells of the longest line of a text. -/
def textWidth (t : MarkedText) : Nat :=
  ((Text.cutBy isLineEnd t.chars).map Text.cells).foldl max 0

/-- The width of a column in a room of the given width. -/
def Column.width (c : Column) (room : Nat) : Nat :=
  if room ≤ padding then room
  else min room (((c.heading :: c.cells).map textWidth).foldl max 0 + padding)

/-- Takes a total off widths, in proportion to their shares and up to a limit each, from left to
right. A half is rounded to the even number. -/
def reduce (limit : Nat) : Nat → Nat → List (Nat × Nat) → List Nat
  | _, _, [] => []
  | total, shares, (share, width) :: rest =>
    if share = 0 ∨ shares = 0 then width :: reduce limit total shares rest
    else
      let taken := min limit (Binary.roundQuotient (share * total) shares)
      (width - taken) :: reduce limit (total - taken) (shares - share) rest

/-- Narrows the widest of the columns that may be broken to the next narrower one, until the excess
is gone or nothing more can be gained. -/
def collapse (wraps : List Bool) (room : Nat) : Nat → List Nat → List Nat
  | 0, widths => widths
  | fuel + 1, widths =>
    let excess := sumOf widths - room
    let pairs := widths.zip wraps
    let widest := (pairs.map fun (w, b) => if b then w else 0).foldl max 0
    let second := (pairs.map fun (w, b) => if b && w != widest then w else 0).foldl max 0
    let shares := pairs.map fun (w, b) => if b && w == widest then 1 else 0
    if excess = 0 ∨ widest = second ∨ sumOf shares = 0 then widths
    else
      collapse wraps room fuel
        (reduce (min excess (widest - second)) excess (sumOf shares) (shares.zip widths))

/-- Takes the excess evenly off all columns. -/
def reduceEvenly (room : Nat) (widths : List Nat) : List Nat :=
  let excess := sumOf widths - room
  let rec go (total : Nat) : Nat → List Nat → List Nat
    | _, [] => []
    | 0, widths => widths
    | left + 1, width :: rest =>
      if width = 0 then width :: go total left rest
      else
        let taken := min width (Binary.roundQuotient total (left + 1))
        (width - taken) :: go (total - taken) left rest
  go excess (widths.filter (· != 0)).length widths

/-- The widths of the columns in a room of the given width. -/
def widths (columns : List Column) (room : Nat) : List Nat :=
  let natural := columns.map fun c => max 1 (c.width room)
  if sumOf natural ≤ room then natural
  else
    let collapsed := collapse (columns.map (·.wraps)) room (sumOf natural + 1) natural
    let reduced := if room < sumOf collapsed then reduceEvenly room collapsed else collapsed
    (columns.zip reduced).map fun (c, width) => c.width width

/-- The lines of a cell in a column of the given width, a space on either side of each. -/
def cellLines (style : Style) (wraps : Bool) (width : Nat) (t : MarkedText) : List (List Segment) :=
  let space : Segment := ⟨[' '], {}⟩
  if width ≤ padding then []
  else
    (t.lines wraps (width - padding)).map fun line =>
      ([space] ++ adjusted (width - padding) line.segments ++ [space]).map fun (s : Segment) =>
        { s with style := style.combine s.style }

/-- The characters that frame a row: at the left, between cells and at the right. -/
structure Frame where
  /-- At the left. -/
  left : Char
  /-- Between cells. -/
  between : Char
  /-- At the right. -/
  right : Char

/-- The parts of a line between the characters of a frame. -/
def Frame.enclose (f : Frame) (parts : List (List Segment)) : List Segment :=
  let mark (c : Char) : List Segment := [⟨[c], {}⟩]
  mark f.left ++ (mark f.between).intercalate parts ++ mark f.right

/-- A line of the frame across the columns. -/
def Frame.rule (f : Frame) (line : Char) (widths : List Nat) : List Segment :=
  f.enclose (widths.map fun width => [⟨List.replicate width line, {}⟩])

/-- The lines of a row. The cells of a heading stand at the bottom of the row, the others at its
top. -/
def rowLines (f : Frame) (heading : Bool) (widths : List Nat) (cells : List (List (List Segment))) :
    List (List Segment) :=
  let style : Style := if heading then .bold else {}
  let height := (cells.map List.length).foldl max 0
  let filled := (cells.zip widths).map fun (lines, width) =>
    let missing := List.replicate (height - lines.length) [blanks width style]
    let lines := if heading then missing ++ lines else lines ++ missing
    if height = 0 then [[blanks width {}]] else lines
  (List.range (max 1 height)).map fun place =>
    f.enclose (filled.map fun lines => lines.getD place [])

/-- The number of columns of a table. Values beyond the columns of the result have columns without a
heading. -/
def columnCount (r : QueryResult) : Nat := (r.rows.map List.length).foldl max r.columns.length

/-- The columns of a table in a room of the given width. Where no cell could show anything, none is
read. -/
def columns (o : Options) (room : Nat) (r : QueryResult) : Except Fault (List Column) :=
  let read (s : List Char) : Except Fault MarkedText :=
    if room ≤ padding then .ok ⟨[], []⟩ else MarkedText.read s
  (List.range (columnCount r)).mapM fun place => do
    let heading ← read ((r.columns[place]?).elim [] (headingText o))
    let cells ← r.rows.mapM fun row => read ((row[place]?).elim [] (cellText o))
    pure ⟨heading, cells, r.columns.length ≤ place⟩

/-- The lines of a table on a terminal of the given width. -/
def lines (o : Options) (terminal : Nat) (r : QueryResult) :
    Except Fault (List (List Segment)) := do
  let room := terminal - (columnCount r + 1)
  let columns ← columns o room r
  let widths := widths columns room
  let both := columns.zip widths
  let heading := rowLines ⟨'┃', '┃', '┃'⟩ true widths
    (both.map fun (c, width) => cellLines .bold c.wraps width c.heading)
  let rows := (List.range r.rows.length).flatMap fun place =>
    rowLines ⟨'│', '│', '│'⟩ false widths
      (both.map fun (c, width) => cellLines {} c.wraps width (c.cells.getD place ⟨[], []⟩))
  pure <|
    [Frame.rule ⟨'┏', '┳', '┓'⟩ '━' widths] ++ heading ++
      [Frame.rule ⟨'┡', '╇', '┩'⟩ '━' widths] ++ rows ++
      [Frame.rule ⟨'└', '┴', '┘'⟩ '─' widths]

/-- The text of a table on a terminal of the given width. -/
def text (o : Options) (terminal : Nat) (r : QueryResult) : Except Fault (List Char) :=
  if r.columns.isEmpty || r.rows.isEmpty then .ok noResults.toList
  else do
    let lines ← lines o terminal r
    pure (Text.trimEndBy (· == '\n') (['\n'].intercalate (lines.map (painted terminal))))

end ProcedureCall.Report.Table
