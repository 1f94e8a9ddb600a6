import ProcedureCall.Number.Numeral

/-!
# Decimal numbers

Decimal numbers keep the zeros at their end: `1.5` and `1.50` are equal in value and differ as
numbers of this type. Their text shows every digit. It is positional where the last digit stands
behind the point or at the units and the number is not too small, and has an exponent otherwise.
-/

namespace ProcedureCall

/-- A decimal number. -/
inductive Decimal where
  /-- The number `digits * 10 ^ power`, or its negative. -/
  | finite (negative : Bool) (digits : Nat) (power : Int)
  /-- An infinity. -/
  | infinite (negative : Bool)
  /-- Not a number, with a note of why; a signalling one must not be computed with. -/
  | notANumber (negative signalling : Bool) (note : Nat)
  deriving DecidableEq, Repr, Inhabited

namespace Decimal

/-- The deepest place behind the point at which a positional text begins with its digits. -/
def deepestPlace : Int := 6

/-- Digits with a point behind the first `point` of them, zeros filling the gaps. -/
def positional (digits : List Char) (point : Int) : List Char :=
  if point ≤ 0 then ['0', '.'] ++ List.replicate (-point).toNat '0' ++ digits
  else if (digits.length : Int) ≤ point then digits
  else digits.take point.toNat ++ ['.'] ++ digits.drop point.toNat

/-- The text of a finite number without its sign. -/
def unsignedText (digits : Nat) (power : Int) : List Char :=
  let shown := Nat.toDigits 10 digits
  let point := shown.length + power
  if power ≤ 0 ∧ -deepestPlace < point then positional shown point
  else
    let exponent := point - 1
    positional shown 1 ++ ['E', if exponent < 0 then '-' else '+'] ++
      Nat.toDigits 10 exponent.natAbs

/-- The text of a number. -/
def text : Decimal → List Char
  | finite negative digits power => (if negative then ['-'] else []) ++ unsignedText digits power
  | infinite negative => (if negative then ['-'] else []) ++ "Infinity".toList
  | notANumber negative signalling note =>
    (if negative then ['-'] else []) ++ (if signalling then ['s'] else []) ++ "NaN".toList ++
      (if note = 0 then [] else Nat.toDigits 10 note)

/-- The numbers that are not finite, by their names, in letters of either case. -/
def special? (negative : Bool) (s : List Char) : Option Decimal :=
  let name := s.map Char.toLower
  let rest? (head : String) : Option Nat :=
    if head.toList.isPrefixOf name then
      match Numeral.leadingDigits (name.drop head.length) with
      | (_, note, []) => some note
      | _ => none
    else none
  if name = "inf".toList ∨ name = "infinity".toList then some (infinite negative)
  else
    (rest? "nan").map (notANumber negative false) <|>
      (rest? "snan").map (notANumber negative true)

/-- Reads a number: white space around it and low lines in it do not count. -/
def ofText? (s : List Char) : Option Decimal :=
  let s := (Text.trim s).filter (· != '_')
  let (negative, body) := Numeral.sign s
  special? negative body <|>
    (Numeral.decimal? s).map fun (negative, digits, power) => finite negative digits power

/-- Is the number zero? -/
def isZero : Decimal → Bool
  | finite _ digits _ => digits == 0
  | _ => false

/-- The nearest binary number; a signalling one has none. -/
def binary? : Decimal → Option Binary
  | finite negative digits power => some (Binary.ofDecimal negative digits power)
  | infinite negative => some (.infinite negative)
  | notANumber _ signalling _ => if signalling then none else some .notANumber

/-- Does a number lie between two natural numbers, both included? A power that reaches beyond the
greater of them, or below the digits, is as good as the first one that does. -/
def isWithin (low high : Nat) : Decimal → Bool
  | finite negative digits power =>
    let num := digits * Nat.pow 10 (min power.toNat (high.log2 + 1))
    let den := Nat.pow 10 (min (-power).toNat (digits.log2 + 1))
    if negative && digits != 0 then false else low * den ≤ num && num ≤ high * den
  | _ => false

/-- The integer that a number is, if it is one. -/
def toInt? : Decimal → Option Int
  | finite negative digits power =>
    let unit := Nat.pow 10 (-power).toNat
    if digits % unit = 0 then some (Numeral.signed negative (digits * Nat.pow 10 power.toNat / unit))
    else none
  | _ => none

/-- The digits to which sums are rounded. -/
def precision : Nat := 28

/-- The number with so many of its last digits dropped that no more than `precision` are left, a
half going to the even neighbour. -/
def rounded (negative : Bool) (digits : Nat) (power : Int) : Decimal :=
  let extra := (Nat.toDigits 10 digits).length - precision
  if extra = 0 then finite negative digits power
  else finite negative (Binary.roundQuotient digits (Nat.pow 10 extra)) (power + extra)

/-- The sum with an integer. -/
def addInt (n : Int) : Decimal → Decimal
  | finite negative digits power =>
    let sum := Numeral.signed negative (digits * Nat.pow 10 power.toNat) +
      n * (Nat.pow 10 (-power).toNat : Nat)
    rounded (sum < 0) sum.natAbs (min power 0)
  | x => x

example : unsignedText 10500 (-2) = "105.00".toList := by decide +kernel
example : unsignedText 1 (-6) = "0.000001".toList ∧ unsignedText 1 (-7) = "1E-7".toList := by
  decide +kernel
example : unsignedText 0 (-8) = "0E-8".toList ∧ unsignedText 123 3 = "1.23E+5".toList := by
  decide +kernel
example : (ofText? " -0.10_0 ".toList).map text = some "-0.100".toList := by decide +kernel
example : (ofText? "sNaN07".toList).map text = some "sNaN7".toList := by decide +kernel
example : (finite false 15 (-1)).addInt (-1) = finite false 5 (-1) := by decide +kernel
example : (finite false 30 (-1)).toInt? = some 3 ∧ (finite true 3 2).toInt? = some (-300) := by
  decide +kernel
example : (finite false 15 (-1)).isWithin 1 2 ∧ ¬ (finite false 1 400).isWithin 1 2 := by
  decide +kernel

end Decimal

end ProcedureCall
