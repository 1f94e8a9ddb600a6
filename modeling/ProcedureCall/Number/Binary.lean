/-!
# Binary floating-point numbers

Numbers of the 64-bit binary format as exact values: a significand of at most 53 bits times a power
of two, an infinity, or no number at all. Each finite number has one representation (the exponent is
the least one that the format allows), so equality of values of this type is sameness of numbers,
with the two zeros apart. Every operation that rounds goes through `ofFraction`, which takes the
nearest number and, half-way between two, the one with the even significand.
-/

namespace ProcedureCall

/-- The least exponent of the format. -/
def Binary.minExponent : Int := -1074

/-- The greatest exponent of the format. -/
def Binary.maxExponent : Int := 971

/-- A significand and an exponent that represent a number of the format: the exponent is in its
range, and the significand fills its 53 bits unless the exponent is the least one. -/
structure Binary.Fits (significand : Nat) (exponent : Int) : Prop where
  /-- The significand has no more bits. -/
  lt : significand < Nat.pow 2 53
  /-- It has no fewer, unless there is no lower exponent. -/
  full : Nat.pow 2 52 ≤ significand ∨ exponent = Binary.minExponent
  /-- The exponent is not too small. -/
  min_le : Binary.minExponent ≤ exponent
  /-- The exponent is not too large. -/
  le_max : exponent ≤ Binary.maxExponent

instance (significand : Nat) (exponent : Int) : Decidable (Binary.Fits significand exponent) :=
  decidable_of_iff
    (significand < Nat.pow 2 53 ∧ (Nat.pow 2 52 ≤ significand ∨ exponent = Binary.minExponent) ∧
      Binary.minExponent ≤ exponent ∧ exponent ≤ Binary.maxExponent)
    ⟨fun ⟨lt, full, min_le, le_max⟩ => ⟨lt, full, min_le, le_max⟩,
      fun ⟨lt, full, min_le, le_max⟩ => ⟨lt, full, min_le, le_max⟩⟩

/-- A number of the 64-bit binary format. -/
inductive Binary where
  /-- Not a number. -/
  | notANumber
  /-- An infinity. -/
  | infinite (negative : Bool)
  /-- The number `significand * 2 ^ exponent`, or its negative. -/
  | finite (negative : Bool) (significand : Nat) (exponent : Int)
    (fits : Binary.Fits significand exponent)
  deriving DecidableEq, Repr, Inhabited

namespace Binary

/-- Zero with a sign. -/
def signedZero (negative : Bool) : Binary := .finite negative 0 minExponent (by decide)

/-- The quotient of two natural numbers to the nearest whole number, a half to the even one. -/
def roundQuotient (num den : Nat) : Nat :=
  let floor := num / den
  let twice := 2 * (num % den)
  if twice < den then floor
  else if den < twice then floor + 1
  else floor + floor % 2

/-- `num / den` in units of `2 ^ exponent`, as a fraction of natural numbers. -/
def scaled (num den : Nat) (exponent : Int) : Nat × Nat :=
  (num * Nat.pow 2 (-exponent).toNat, den * Nat.pow 2 exponent.toNat)

/-- The exponent that `num / den` is rounded with: the quotient in units of its power of two has 53
bits, or fewer if there is no lower exponent. -/
def roundingExponent (num den : Nat) : Int :=
  let guess : Int := (num.log2 : Int) - den.log2 - 52
  let (top, bottom) := scaled num den guess
  max minExponent (if top / bottom < Nat.pow 2 52 then guess - 1 else guess)

/-- The number with a rounded significand and an exponent; an infinity if it is too large. -/
def ofRounded (negative : Bool) (significand : Nat) (exponent : Int) : Binary :=
  if h : Fits significand exponent then .finite negative significand exponent h
  else .infinite negative

/-- The number nearest to `num / den`, for a positive `den`. -/
def ofFraction (negative : Bool) (num den : Nat) : Binary :=
  if num = 0 then signedZero negative
  else
    let exponent := roundingExponent num den
    let (top, bottom) := scaled num den exponent
    let significand := roundQuotient top bottom
    -- rounding up can take one bit more
    if significand = Nat.pow 2 53 then ofRounded negative (Nat.pow 2 52) (exponent + 1)
    else ofRounded negative significand exponent

/-- The number nearest to `digits * 10 ^ power`. Powers so large or so small that the result is
certain are decided without computing them. -/
def ofDecimal (negative : Bool) (digits : Nat) (power : Int) : Binary :=
  let magnitude : Int := (Nat.toDigits 10 digits).length + power
  if digits = 0 ∨ magnitude < -330 then signedZero negative
  else if 310 < magnitude then .infinite negative
  else ofFraction negative (digits * Nat.pow 10 power.toNat) (Nat.pow 10 (-power).toNat)

/-- The number nearest to an integer. -/
def ofInt (n : Int) : Binary := ofFraction (n < 0) n.natAbs 1

/-- The absolute value of `significand * 2 ^ exponent` as a fraction. -/
def magnitude (significand : Nat) (exponent : Int) : Nat × Nat :=
  (significand * Nat.pow 2 exponent.toNat, Nat.pow 2 (-exponent).toNat)

/-- The product with a natural number, rounded. -/
def scale (factor : Nat) : Binary → Binary
  | .notANumber => .notANumber
  | .infinite negative => if factor = 0 then .notANumber else .infinite negative
  | .finite negative significand exponent _ =>
    let (num, den) := magnitude significand exponent
    ofFraction negative (factor * num) den

/-- The sum with an integer, rounded. -/
def addInt (n : Int) : Binary → Binary
  | .finite negative significand exponent _ =>
    let (num, den) := magnitude significand exponent
    let sum := (if negative then -(num : Int) else num) + n * den
    ofFraction (sum < 0) sum.natAbs den
  | x => x

/-- The integer that a finite number is cut to, toward zero. -/
def truncate? : Binary → Option Int
  | .finite negative significand exponent _ =>
    let (num, den) := magnitude significand exponent
    some (if negative then -(num / den : Nat) else (num / den : Nat))
  | _ => none

/-- The integer that a number is, if it is one. -/
def toInt? : Binary → Option Int
  | .finite negative significand exponent _ =>
    let (num, den) := magnitude significand exponent
    if num % den = 0 then some (if negative then -(num / den : Nat) else (num / den : Nat))
    else none
  | _ => none

/-- Equality as arithmetic sees it: the two zeros are equal, and what is not a number equals
nothing. -/
def same : Binary → Binary → Bool
  | .notANumber, _ => false
  | _, .notANumber => false
  | .finite s m e _, .finite s' m' e' _ => (m == 0 && m' == 0) || (s == s' && m == m' && e == e')
  | x, y => x == y

/-- Does a number lie between two natural numbers, both included? -/
def isWithin (low high : Nat) : Binary → Bool
  | .finite negative significand exponent _ =>
    let (num, den) := magnitude significand exponent
    if negative && num != 0 then false else low * den ≤ num && num ≤ high * den
  | _ => false

/-- Is the number zero? -/
def isZero : Binary → Bool
  | .finite _ significand _ _ => significand == 0
  | _ => false

example : ofInt 30 = .finite false (30 * 2 ^ 48) (-48) (by decide) := by decide +kernel
example : (ofInt 30).addInt (-31) = ofInt (-1) := by decide +kernel
example : (ofDecimal false 1 (-1)).scale 1000 = ofInt 100 := by decide +kernel
example : (ofDecimal false 115 (-2)).scale 1000 = ofInt 1150 := by decide +kernel
example : ofDecimal false 1 400 = .infinite false := by decide +kernel
example : ofDecimal false 3 (-324) = .finite false 1 (-1074) (by decide) := by decide +kernel

end Binary

end ProcedureCall
