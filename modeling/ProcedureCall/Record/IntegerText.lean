import ProcedureCall.Number.Numeral

/-!
# Integers as loose text

A record takes an integer as text in more forms than one: a plain integer is a minus sign and digits
without zeros in front; any other text is first brought into that form. White space around it, one
plus sign, zeros in front, a fraction of zeros and single low lines between digits are dropped.
-/

namespace ProcedureCall

/-- What a text says as an integer. -/
inductive IntegerText where
  /-- It is an integer. -/
  | value (n : Int)
  /-- It has too many digits. -/
  | tooLong
  /-- It is no integer. -/
  | malformed
  deriving DecidableEq, Repr

namespace IntegerText

/-- Reads a plain integer. That there are too many digits is told before anything wrong after
them. -/
def plain (s : List Char) : IntegerText :=
  let (negative, rest) :=
    match s with
    | '-' :: rest => (true, rest)
    | s => (false, s)
  let (count, sum, after) := Numeral.leadingDigits rest
  if rest.head? = some '0' then if rest = ['0'] then .value 0 else .malformed
  else if (Numeral.excess? count).isSome then .tooLong
  else if count = 0 ∨ !after.isEmpty then .malformed
  else .value (Numeral.signed negative sum)

/-- Without one plus sign, which no minus sign may follow. -/
def withoutPlus? : List Char → Option (List Char)
  | '+' :: rest => if rest.head? = some '-' then none else some rest
  | s => some s

/-- Is it a digit other than zero, or a minus sign? -/
def beginsInteger (c : Char) : Bool := ('1' ≤ c && c ≤ '9') || c == '-'

/-- The rest of a text after zeros and low lines, of which `last` is the one that was read last. One
of them is kept in front of a point or at the end. -/
def afterZeros (last : Char) : List Char → Option (List Char)
  | [] => some [last]
  | c :: rest =>
    if c = '0' ∨ c = '_' then afterZeros c rest
    else if c = '.' then some (last :: c :: rest)
    else if beginsInteger c then some (c :: rest)
    else none

/-- Without the zeros in front. -/
def withoutZeros? : List Char → Option (List Char)
  | [] => none
  | c :: rest =>
    if c = '0' then afterZeros c rest else if beginsInteger c then some (c :: rest) else none

/-- Without a fraction of zeros, of which there is at least one. -/
def withoutFraction (s : List Char) : List Char :=
  match Text.cutFirst? '.' s with
  | some (whole, fraction) =>
    if !fraction.isEmpty && fraction.all (· == '0') then whole else s
  | none => s

/-- Without low lines, if each stands alone between two other characters. -/
def withoutLowLines (s : List Char) : List Char :=
  if (s.zip (s.drop 1)).any (fun (c, d) => c == '_' && d == '_') || s.head? == some '_' ||
      s.getLast? == some '_' then s
  else s.filter (· != '_')

/-- The plain form of a text. -/
def cleaned? (s : List Char) : Option (List Char) := do
  let s ← withoutPlus? (Text.trimBy Text.isSpace s)
  let s ← withoutZeros? s
  some (withoutLowLines (withoutFraction s))

/-- Reads a text as an integer, in its plain form if it is none as it stands. -/
def read (s : List Char) : IntegerText :=
  match plain s, cleaned? s with
  | .malformed, some s => plain s
  | result, _ => result

example : read " 5433.00 ".toList = .value 5433 ∧ read "5.".toList = .malformed := by
  decide +kernel
example : read "0_0-1.0".toList = .value (-1) ∧ read "-01".toList = .malformed := by decide +kernel

end IntegerText

end ProcedureCall
