import ProcedureCall.Text.WordTable
import ProcedureCall.Text.DigitTable
import ProcedureCall.Text.PrintTable

/-!
# Classes of characters

The character classes that call texts, names, numbers and reports are read and written by. Core's
own classes know ASCII only; these follow Unicode.
-/

namespace ProcedureCall.Text

/-- Is the code point in one of the ranges? -/
def inRanges (ranges : List (Nat × Nat)) (code : Nat) : Bool :=
  ranges.any fun range => range.1 ≤ code && code ≤ range.2

/-- A word character: a letter, anything with a numeric value, or the low line. -/
def isWord (c : Char) : Bool := inRanges wordRanges c.toNat

/-- The value of a decimal digit of any script. -/
def digitValue? (c : Char) : Option Nat :=
  (digitZeros.find? fun first => first ≤ c.toNat && c.toNat ≤ first + 9).map (c.toNat - ·)

/-- A decimal digit of any script. -/
def isDigit (c : Char) : Bool := (digitValue? c).isSome

/-- A decimal digit of ASCII. -/
def isAsciiDigit (c : Char) : Bool := '0' ≤ c && c ≤ '9'

/-- The code points of white space as text is trimmed and divided: the separators of Unicode, the
line and page controls, and the four information separators. -/
def blankCodes : List Nat :=
  [9, 10, 11, 12, 13, 28, 29, 30, 31, 32, 133, 160, 5760, 8192, 8193, 8194, 8195, 8196, 8197, 8198,
    8199, 8200, 8201, 8202, 8232, 8233, 8239, 8287, 12288]

/-- White space, the information separators included. -/
def isBlank (c : Char) : Bool := blankCodes.contains c.toNat

/-- White space in the narrower sense of the Unicode property, which leaves the four information
separators out. -/
def isSpace (c : Char) : Bool := isBlank c && !(28 ≤ c.toNat && c.toNat ≤ 31)

/-- A character that is shown as it is inside quoted text. -/
def isPrintable (c : Char) : Bool := inRanges printableRanges c.toNat

/-- An ASCII letter. -/
def isAsciiLetter (c : Char) : Bool := ('a' ≤ c && c ≤ 'z') || ('A' ≤ c && c ≤ 'Z')

/-- The value of a hexadecimal digit. -/
def hexValue? (c : Char) : Option Nat :=
  if isAsciiDigit c then some (c.toNat - 48)
  else if 'a' ≤ c && c ≤ 'f' then some (c.toNat - 87)
  else if 'A' ≤ c && c ≤ 'F' then some (c.toNat - 55)
  else none

/-- A hexadecimal digit. -/
def isHexDigit (c : Char) : Bool := (hexValue? c).isSome

/-- The lower-case hexadecimal digit of a value below sixteen. -/
def hexDigit (value : Nat) : Char :=
  if value < 10 then Char.ofNat (48 + value) else Char.ofNat (87 + value)

/-- The last `width` hexadecimal digits of a number, most significant first. -/
def hexDigits : Nat → Nat → List Char
  | 0, _ => []
  | width + 1, value => hexDigits width (value / 16) ++ [hexDigit (value % 16)]

example : isWord '²' ∧ isDigit '٣' ∧ isBlank '\x1f' ∧ ¬ isSpace '\x1f' := by decide

end ProcedureCall.Text
