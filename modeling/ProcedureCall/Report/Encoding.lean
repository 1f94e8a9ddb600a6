import ProcedureCall.Text.Quoted

/-!
# Encodings

What is written to an output is encoded, and an encoding need not have every character. A text with
a character that the encoding lacks is not written, neither in whole nor in part; the refusal names
the first characters in a row that are lacking.
-/

namespace ProcedureCall.Report

/-- The encoding of an output. -/
structure Encoding where
  /-- The name. -/
  name : String
  /-- Does it have the character? -/
  has : Char → Bool
  /-- What is said of characters that it lacks. -/
  reason : String

namespace Encoding

/-- The usual encoding. All that it lacks are lone halves of surrogate pairs, which are no characters
here. -/
def utf8 : Encoding := ⟨"utf-8", fun _ => true, "surrogates not allowed"⟩

/-- The encoding that has the first 128 characters. -/
def ascii : Encoding := ⟨"ascii", fun c => c.toNat < 128, "ordinal not in range(128)"⟩

/-- Where the first characters in a row that the encoding lacks begin, and these characters. -/
def lacking (e : Encoding) (s : List Char) : Nat × List Char :=
  ((s.takeWhile e.has).length, (s.dropWhile e.has).takeWhile (!e.has ·))

/-- Why a text cannot be written, if it cannot. -/
def refusal? (e : Encoding) (text : String) : Option String :=
  let place (n : Nat) : String := String.ofList (Nat.toDigits 10 n)
  let tell (what : String) : Option String :=
    some ("'" ++ e.name ++ "' codec can't encode " ++ what ++ ": " ++ e.reason)
  match e.lacking text.toList with
  | (_, []) => none
  | (first, [c]) =>
    tell ("character '" ++ String.ofList (Text.numbered c) ++ "' in position " ++ place first)
  | (first, cs) =>
    tell ("characters in position " ++ place first ++ "-" ++ place (first + cs.length - 1))

example : ascii.refusal? "café\n" =
    some "'ascii' codec can't encode character '\\xe9' in position 3: ordinal not in range(128)" := by
  decide +kernel
example : ascii.refusal? "é€, ü" =
    some "'ascii' codec can't encode characters in position 0-1: ordinal not in range(128)" := by
  decide +kernel

end Encoding

end ProcedureCall.Report
