import ProcedureCall.Number.Binary

/-!
# The shortest decimal text of a number

The digits of a binary number are the fewest that read back as the number, and of those the nearest
to it. They are written positionally while the point stands near the digits, and with an exponent
otherwise.
-/

namespace ProcedureCall

namespace Binary

/-- A fraction of natural numbers. -/
structure Ratio where
  /-- The numerator. -/
  num : Nat
  /-- The denominator. -/
  den : Nat

/-- Is the first fraction less than the second? -/
def Ratio.lt (a b : Ratio) : Bool := a.num * b.den < b.num * a.den

/-- The interval of reals that round to a number, with the number in it. -/
structure Neighbourhood where
  /-- The lower end. -/
  low : Ratio
  /-- The number itself. -/
  value : Ratio
  /-- The upper end. -/
  high : Ratio
  /-- Do the ends round to the number too? -/
  closed : Bool

/-- The neighbourhood of `significand * 2 ^ exponent`. Below a power of two the gap is half as
wide. -/
def neighbourhood (significand : Nat) (exponent : Int) : Neighbourhood :=
  let unit (quarters : Nat) : Ratio :=
    ⟨quarters * Nat.pow 2 (exponent - 2).toNat, Nat.pow 2 (2 - exponent).toNat⟩
  let below := if significand = Nat.pow 2 52 ∧ minExponent < exponent then 1 else 2
  { low := unit (4 * significand - below)
    value := unit (4 * significand)
    high := unit (4 * significand + 2)
    closed := significand % 2 = 0 }

/-- The fraction `digits * 10 ^ power`. -/
def decimalRatio (digits : Nat) (power : Int) : Ratio :=
  ⟨digits * Nat.pow 10 power.toNat, Nat.pow 10 (-power).toNat⟩

/-- Does a fraction round to the number of the neighbourhood? -/
def Neighbourhood.holds (n : Neighbourhood) (r : Ratio) : Bool :=
  if n.closed then !r.lt n.low && !n.high.lt r else n.low.lt r && r.lt n.high

/-- The greatest power of ten that is not above a positive fraction. -/
def decimalMagnitude (r : Ratio) : Int :=
  if r.den ≤ r.num then (Nat.toDigits 10 (r.num / r.den)).length - 1
  else
    let length := (Nat.toDigits 10 (r.den / r.num)).length
    if r.den ≤ r.num * Nat.pow 10 (length - 1) then -((length : Int) - 1) else -(length : Int)

/-- The point of the grid `10 ^ power` that lies nearest to the number among the two beside it that
round to the number, if one does. Of two equally near the even one is taken. -/
def Neighbourhood.onGrid? (n : Neighbourhood) (power : Int) : Option Nat :=
  let unit := decimalRatio 1 power
  let floor := n.value.num * unit.den / (n.value.den * unit.num)
  let down := n.holds (decimalRatio floor power)
  let up := n.holds (decimalRatio (floor + 1) power)
  let middle : Ratio :=
    let sum := decimalRatio (2 * floor + 1) power
    ⟨sum.num, 2 * sum.den⟩
  if down && up then
    if n.value.lt middle then some floor
    else if middle.lt n.value then some (floor + 1)
    else some (floor + floor % 2)
  else if down then some floor
  else if up then some (floor + 1)
  else none

/-- The first grid that has a hit, from coarse to fine; seventeen digits always suffice. -/
def Neighbourhood.search (n : Neighbourhood) : Nat → Int → Nat × Int
  | 0, power => ((n.onGrid? power).getD 0, power)
  | finer + 1, power =>
    match n.onGrid? power with
    | some digits => (digits, power)
    | none => n.search finer (power - 1)

/-- The shortest digits of a positive number, and the power of ten of the last one. -/
def shortest (significand : Nat) (exponent : Int) : Nat × Int :=
  let n := neighbourhood significand exponent
  n.search 16 (decimalMagnitude n.value)

/-- How digits become a text. -/
structure Layout where
  /-- The least position of the point, counted from the first digit, that is written
  positionally. -/
  leastPoint : Int
  /-- The greatest such position. -/
  greatestPoint : Int
  /-- The least number of digits of an exponent. -/
  exponentDigits : Nat

/-- Positional from a ten-thousandth to below ten to the sixteenth; an exponent has a sign and at
least two digits. -/
def layout : Layout := ⟨-3, 16, 2⟩

/-- Digits with the point `point` places after the first one's front. -/
def positional (digits : List Char) (point : Int) : List Char :=
  if point ≤ 0 then ['0', '.'] ++ List.replicate (-point).toNat '0' ++ digits
  else if (digits.length : Int) ≤ point then
    digits ++ List.replicate (point.toNat - digits.length) '0' ++ ['.', '0']
  else digits.take point.toNat ++ ['.'] ++ digits.drop point.toNat

/-- Digits with the point behind the first one and an exponent. -/
def exponential (l : Layout) (digits : List Char) (point : Int) : List Char :=
  let exponent := point - 1
  let shown := Nat.toDigits 10 exponent.natAbs
  digits.take 1 ++ (if 1 < digits.length then ['.'] ++ digits.drop 1 else []) ++ ['e'] ++
    [if exponent < 0 then '-' else '+'] ++
    List.replicate (l.exponentDigits - shown.length) '0' ++ shown

/-- The text of a number. -/
def text : Binary → List Char
  | .notANumber => ['n', 'a', 'n']
  | .infinite negative => (if negative then ['-'] else []) ++ ['i', 'n', 'f']
  | .finite negative significand exponent _ =>
    (if negative then ['-'] else []) ++
      if significand = 0 then ['0', '.', '0']
      else
        let (digits, power) := shortest significand exponent
        let all := Nat.toDigits 10 digits
        let kept := (all.reverse.dropWhile (· == '0')).reverse
        let point : Int := all.length + power
        if layout.leastPoint ≤ point ∧ point ≤ layout.greatestPoint then positional kept point
        else exponential layout kept point

example : (ofDecimal false 1 (-1)).text = "0.1".toList := by decide +kernel
example : (ofDecimal false 1 16).text = "1e+16".toList := by decide +kernel
example : (ofDecimal true 5 (-324)).text = "-5e-324".toList := by decide +kernel
example : (ofInt 123456789012345680).text = "1.2345678901234568e+17".toList := by decide +kernel
example : (ofDecimal false 1 (-4)).text = "0.0001".toList := by decide +kernel
example : (ofInt 30).text = "30.0".toList := by decide +kernel

end Binary

end ProcedureCall
