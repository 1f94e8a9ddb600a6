import ProcedureCall.Entries
import ProcedureCall.Fault
import ProcedureCall.Parameter
import ProcedureCall.Value.Text

/-!
# JSON reports

One object per row, keyed by the names of the columns, in one array. Numbers, texts and truth values
are themselves, octets are hexadecimal, and anything else is its plain text. The report is on one
line, or indented by two spaces.
-/

namespace ProcedureCall.Report.Json

/-- A scalar of a report. -/
inductive Scalar where
  /-- No value. -/
  | null
  /-- A truth value. -/
  | bool (b : Bool)
  /-- An integer. -/
  | int (n : Int)
  /-- A number. -/
  | float (x : Binary)
  /-- A text. -/
  | text (s : List Char)

/-- A value as a scalar of a report. -/
def scalar : Value → Scalar
  | .null => .null
  | .bool b => .bool b
  | .int n => .int n
  | .float x => .float x
  | .text s => .text s.toList
  | .octets _ content => .text (Text.hexText content)
  | v => .text v.plain

/-- A code unit as an escape. -/
def unitEscape (unit : Nat) : List Char := ['\\', 'u'] ++ Text.hexDigits 4 unit

/-- A character as it is written between quotes: ASCII that can be printed as itself, anything else
as escapes of its UTF-16 units. -/
def escaped (c : Char) : List Char :=
  if c = '"' ∨ c = '\\' then ['\\', c]
  else if c = '\n' then ['\\', 'n']
  else if c = '\r' then ['\\', 'r']
  else if c = '\t' then ['\\', 't']
  else if c = '\x08' then ['\\', 'b']
  else if c = '\x0c' then ['\\', 'f']
  else if 32 ≤ c.toNat ∧ c.toNat < 127 then [c]
  else if c.toNat < 0x10000 then unitEscape c.toNat
  else
    let code := c.toNat - 0x10000
    unitEscape (0xD800 + code / 0x400) ++ unitEscape (0xDC00 + code % 0x400)

/-- A text between quotes. -/
def quoted (s : List Char) : List Char := ['"'] ++ s.flatMap escaped ++ ['"']

/-- The text of a number. What is no number and the infinities have names of their own. -/
def numberText : Binary → List Char
  | .notANumber => "NaN".toList
  | .infinite negative => (if negative then ['-'] else []) ++ "Infinity".toList
  | x => x.text

/-- The text of a scalar. -/
def scalarText : Scalar → List Char
  | .null => "null".toList
  | .bool b => (if b then "true" else "false").toList
  | .int n => Numeral.text n
  | .float x => numberText x
  | .text s => quoted s

/-- How a report is laid out: on one line, or indented. -/
structure Layout where
  /-- Is it on one line? -/
  compact : Bool

/-- Members between brackets, `depth` levels inside. -/
def Layout.enclose (l : Layout) (depth : Nat) (opening closing : Char)
    (members : List (List Char)) : List Char :=
  let newLine (level : Nat) : List Char := ['\n'] ++ List.replicate (2 * level) ' '
  if members.isEmpty then [opening, closing]
  else if l.compact then [opening] ++ [',', ' '].intercalate members ++ [closing]
  else
    [opening] ++ newLine (depth + 1) ++ ([','] ++ newLine (depth + 1)).intercalate members ++
      newLine depth ++ [closing]

/-- A row as an object: a repeated name keeps its first place and takes its last value. -/
def object (names : List String) (row : List Value) : Except Fault (List (String × Value)) :=
  if row.length < names.length then
    .error (.mishap .badValue "zip() argument 2 is shorter than argument 1")
  else if names.length < row.length then
    .error (.mishap .badValue "zip() argument 2 is longer than argument 1")
  else .ok (Entries.ofPairs (names.zip row))

/-- The text of an object. -/
def objectText (l : Layout) (members : List (String × Value)) : List Char :=
  l.enclose 1 '\x7b' '\x7d' <| members.map fun (name, v) =>
    quoted name.toList ++ [':', ' '] ++ scalarText (scalar v)

/-- The report, if every row is as wide as the columns. -/
def text (l : Layout) (r : QueryResult) : Except Fault (List Char) := do
  let objects ← r.rows.mapM (object (r.columns.map (·.name)))
  pure (l.enclose 0 '[' ']' (objects.map (objectText l)))

example : quoted "é\x01😀\"".toList = "\"\\u00e9\\u0001\\ud83d\\ude00\\\"\"".toList := by
  decide +kernel

end ProcedureCall.Report.Json
