import ProcedureCall.Number.Binary
import ProcedureCall.Text.Pieces
import ProcedureCall.Text.Quoted

/-!
# Reading numbers

A reader of integers, which takes the digits of any script and white space around them, and one of
fractional numbers, which takes ASCII digits only.
-/

namespace ProcedureCall

namespace Numeral

/-- The decimal text of an integer. -/
def text (n : Int) : List Char :=
  (if n < 0 then ['-'] else []) ++ Nat.toDigits 10 n.natAbs

/-- A leading sign, read off: is it a minus, and what follows. -/
def sign : List Char → Bool × List Char
  | '-' :: rest => (true, rest)
  | '+' :: rest => (false, rest)
  | s => (false, s)

/-- The digits at the front of a text, single low lines allowed between two of them: how many there
are, their value, and what follows. `count` of them with the value `sum` were read before. No answer
if a low line has no digit after it. -/
def digitsFrom (count sum : Nat) : List Char → Option (Nat × Nat × List Char)
  | [] => some (count, sum, [])
  | c :: rest =>
    match Text.digitValue? c, c, rest with
    | some d, _, rest => digitsFrom (count + 1) (10 * sum + d) rest
    | none, '_', d :: rest =>
      (Text.digitValue? d).bind fun d => digitsFrom (count + 1) (10 * sum + d) rest
    | none, '_', [] => none
    | none, c, rest => some (count, sum, c :: rest)

/-- The integer with the given sign and absolute value. -/
def signed (negative : Bool) (n : Nat) : Int := if negative then -(n : Int) else n

/-- Why a text is read as no integer. -/
inductive Refusal where
  /-- It is no integer. -/
  | malformed
  /-- It has so many digits that it is not read at all. -/
  | tooLong (digits : Nat)
  deriving DecidableEq, Repr

/-- The most digits that an integer may have as text. -/
def mostDigits : Nat := 4300

/-- The number of digits of a text that is refused for them. -/
def excess? (digits : Nat) : Option Refusal :=
  if mostDigits < digits then some (.tooLong digits) else none

/-- Reads an integer leniently: white space around it, a sign, the digits of any script, single low
lines between digits. That there are too many digits is told before anything wrong after them. -/
def lenient (s : List Char) : Except Refusal Int :=
  let (negative, rest) := sign (Text.trimBy Text.isSpace s)
  match (rest.head?.bind Text.digitValue?).bind fun _ => digitsFrom 0 0 rest with
  | none => .error .malformed
  | some (count, sum, rest) =>
    match excess? count with
    | some refusal => .error refusal
    | none => if rest.isEmpty then .ok (signed negative sum) else .error .malformed

/-- The integer that a text is read as leniently, if it is one. -/
def lenient? (s : List Char) : Option Int := (lenient s).toOption

/-- The words for a refusal; the text that was refused is shown so far as it is short. -/
def Refusal.message (s : List Char) : Refusal → String
  | malformed =>
    "invalid literal for int() with base 10: " ++ String.ofList ((Text.quoted s).take 200)
  | tooLong digits =>
    "Exceeds the limit (4300 digits) for integer string conversion: value has " ++
      String.ofList (text digits) ++
      " digits; use sys.set_int_max_str_digits() to increase the limit"

/-- Reads an integer leniently, or tells why not. -/
def integer (s : List Char) : Except String Int := (lenient s).mapError (Refusal.message s)

/-- A run of ASCII digits at the front: how many, their value, and what follows. -/
def leadingDigits (s : List Char) : Nat × Nat × List Char :=
  let run := s.takeWhile Text.isAsciiDigit
  (run.length, run.foldl (fun sum c => 10 * sum + (c.toNat - 48)) 0,
    s.dropWhile Text.isAsciiDigit)

/-- An exponent: `e` or `E`, a sign, digits and nothing more; the empty text is the exponent 0. -/
def exponent? : List Char → Option Int
  | [] => some 0
  | c :: rest =>
    if c = 'e' ∨ c = 'E' then
      let (negative, rest) := sign rest
      match leadingDigits rest with
      | (count, value, []) => if count = 0 then none else some (signed negative value)
      | _ => none
    else none

/-- The names of the values that are no finite numbers. -/
def special? (negative : Bool) (s : List Char) : Option Binary :=
  let name := s.map Char.toLower
  if name = "inf".toList ∨ name = "infinity".toList then some (.infinite negative)
  else if name = "nan".toList then some .notANumber
  else none

/-- Reads a decimal numeral: a sign, digits with at most one point among them, an exponent. It gives
whether the number is negative, its digits, and the power of ten of the last one. -/
def decimal? (s : List Char) : Option (Bool × Nat × Int) :=
  let (negative, body) := sign s
  let (wholeCount, whole, rest) := leadingDigits body
  let (fractionCount, fraction, rest) :=
    match rest with
    | '.' :: rest => leadingDigits rest
    | rest => (0, 0, rest)
  if wholeCount + fractionCount = 0 then none
  else (exponent? rest).map fun power =>
    (negative, whole * Nat.pow 10 fractionCount + fraction, power - fractionCount)

/-- Reads a number: a decimal numeral, or the name of an infinity or of no number. -/
def binary? (s : List Char) : Option Binary :=
  let (negative, body) := sign s
  special? negative body <|>
    (decimal? s).map fun (negative, digits, power) => Binary.ofDecimal negative digits power

example : lenient? " -1_0\n".toList = some (-10) := by decide +kernel
example : lenient? "1\x1f".toList = none ∧ lenient? "1\u00a0".toList = some 1 := by decide +kernel
example : lenient? "1__0".toList = none ∧ lenient? "_1".toList = none := by decide +kernel
example : lenient? "٤٢".toList = some 42 := by decide +kernel
example : binary? "-1.5e3".toList = some (Binary.ofInt (-1500)) := by decide +kernel
example : binary? "".toList = none ∧ binary? ".".toList = none := by decide +kernel

end Numeral

end ProcedureCall
