import ProcedureCall.Fault
import ProcedureCall.Number.Numeral
import ProcedureCall.Report.StyleTable
import ProcedureCall.Text.Case

/-!
# Colours

A colour goes by a name, by a number, `color(9)`, or by its parts of red, green and blue, `#ff8700`
and `rgb(255,135,0)`. The terminal has 256 colours; any other becomes one of them that is like it.
-/

namespace ProcedureCall.Report

/-- A colour. -/
structure Colour where
  /-- The words for it. -/
  text : String
  /-- Its number, unless it is the one that the terminal uses by itself. -/
  number : Option Nat
  deriving DecidableEq, Repr

namespace Colour

/-- Is a colour so pale that it counts as grey? Its saturation is worked out in floating point. -/
def isPale (red green blue : Nat) : Bool :=
  let most := max red (max green blue)
  let least := min red (min green blue)
  let high := Float.ofNat most / 255
  let low := Float.ofNat least / 255
  let sum := high + low
  most == least ||
    (if sum / 2 ≤ 0.5 then (high - low) / sum else (high - low) / (2 - high - low)) < 0.15

/-- The step of a cube of six steps that is nearest to a part of a colour. -/
def cubeStep (part : Nat) : Nat :=
  if part < 95 then Binary.roundQuotient part 95 else Binary.roundQuotient (part - 55) 40

/-- The number of the colour that is like the one with the given parts: one of the greys or one of
the colours of the cube. -/
def numberOfParts (red green blue : Nat) : Nat :=
  if isPale red green blue then
    let lightness := max red (max green blue) + min red (min green blue)
    let grey := Binary.roundQuotient (25 * lightness) 510
    if grey = 0 then 16 else if grey = 25 then 231 else 231 + grey
  else 16 + 36 * cubeStep red + 6 * cubeStep green + cubeStep blue

/-- The number of a colour that is written as six hexadecimal digits. -/
def ofHex? (digits : List Char) : Option Nat :=
  match digits.mapM Text.hexValue? with
  | some [a, b, c, d, e, f] => some (numberOfParts (16 * a + b) (16 * c + d) (16 * e + f))
  | _ => none

/-- The number of a colour that is written as such. -/
def ofNumber? (digits : List Char) : Option Nat :=
  let n := (Numeral.leadingDigits digits).2.1
  if digits.all Text.isAsciiDigit && 1 ≤ digits.length && digits.length ≤ 3 && n ≤ 255 then some n
  else none

/-- The number of a colour that is written as three parts between commas. A part without a digit is
a fault; three commas or one is no colour. -/
def ofParts (parts : List Char) : Except Fault (Option Nat) :=
  let read (part : List Char) : Except Fault Int :=
    (Numeral.integer part).mapError (.mishap .badValue)
  match Text.cutBy (· == ',') parts with
  | [red, green, blue] => do
    let red ← read red
    let green ← read green
    let blue ← read blue
    pure <|
      if red ≤ 255 ∧ green ≤ 255 ∧ blue ≤ 255 then
        some (numberOfParts red.toNat green.toNat blue.toNat)
      else none
  | _ => .ok none

/-- The text between brackets after a given word, if it is nothing but that. -/
def argument? (word : String) (s : List Char) : Option (List Char) := do
  let rest ← Text.afterStart? (word.toList ++ ['(']) s
  if rest.getLast? = some ')' then some rest.dropLast else none

/-- Reads a word as a colour. -/
def read (word : List Char) : Except Fault (Option Colour) := do
  let word := Text.lower word
  let text := String.ofList word
  if text = "default" then pure (some ⟨text, none⟩)
  else
    let number : Option Nat ←
      match colourNames.find? (·.1 == text), word with
      | some (_, number), _ => pure (some number)
      | none, '#' :: digits => pure (ofHex? digits)
      | none, _ =>
        match argument? "color" word, argument? "rgb" word with
        | some digits, _ => pure (ofNumber? digits)
        | none, some parts =>
          if !parts.isEmpty && parts.all fun c => c == ',' || Text.isDigit c then ofParts parts
          else pure none
        | none, none => pure none
    pure (number.map fun n => ⟨text, some n⟩)

/-- The codes of a colour in front, or of one behind. -/
def codes (behind : Bool) (c : Colour) : List Nat :=
  match c.number with
  | none => [if behind then 49 else 39]
  | some n =>
    if n < 8 then [n + if behind then 40 else 30]
    else if n < 16 then [n + if behind then 92 else 82]
    else [if behind then 48 else 38, 5, n]

example : (read "RED".toList).toOption.join.map (codes true) = some [41] := by decide +kernel
example : (read "color(208)".toList).toOption.join.map (codes false) = some [38, 5, 208] := by
  decide +kernel

end Colour

end ProcedureCall.Report
