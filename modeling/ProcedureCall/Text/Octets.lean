import ProcedureCall.Text.Character

/-!
# Text from octets

Text that arrives as octets is read as UTF-8. Where the octets are no text, each longest run that
could still have begun a character counts as one failure, so that a reader may put one mark there or
give up.
-/

namespace ProcedureCall.Text

/-- A character of which some octets were read: how many are still to come, between which bounds
the next one lies, and the bits read so far. -/
structure Partial where
  /-- How many octets are still to come. -/
  missing : Nat
  /-- The least value of the next octet. -/
  low : Nat
  /-- The greatest value of the next octet. -/
  high : Nat
  /-- The bits read so far. -/
  bits : Nat

/-- What a first octet begins: a character of its own, one of several octets, or nothing. -/
def firstOctet (octet : Nat) : Option (Char ⊕ Partial) :=
  if octet < 0x80 then some (.inl (Char.ofNat octet))
  else if octet < 0xC2 then none
  else if octet < 0xE0 then some (.inr ⟨1, 0x80, 0xBF, octet - 0xC0⟩)
  else if octet = 0xE0 then some (.inr ⟨2, 0xA0, 0xBF, 0⟩)
  else if octet = 0xED then some (.inr ⟨2, 0x80, 0x9F, 13⟩)
  else if octet < 0xF0 then some (.inr ⟨2, 0x80, 0xBF, octet - 0xE0⟩)
  else if octet = 0xF0 then some (.inr ⟨3, 0x90, 0xBF, 0⟩)
  else if octet < 0xF4 then some (.inr ⟨3, 0x80, 0xBF, octet - 0xF0⟩)
  else if octet = 0xF4 then some (.inr ⟨3, 0x80, 0x8F, 4⟩)
  else none

/-- The characters of octets, after a character of which some octets may have been read; `none`
stands for a failure. -/
def charactersAfter : Option Partial → List UInt8 → List (Option Char)
  | none, [] => []
  | some _, [] => [none]
  | p, octet :: rest =>
    let byte := octet.toNat
    let start : List (Option Char) :=
      match firstOctet byte with
      | none => none :: charactersAfter none rest
      | some (.inl c) => some c :: charactersAfter none rest
      | some (.inr p) => charactersAfter (some p) rest
    match p with
    | none => start
    | some p =>
      if p.low ≤ byte ∧ byte ≤ p.high then
        let bits := 64 * p.bits + byte % 64
        if p.missing ≤ 1 then some (Char.ofNat bits) :: charactersAfter none rest
        else charactersAfter (some ⟨p.missing - 1, 0x80, 0xBF, bits⟩) rest
      else none :: start

/-- The characters of octets; `none` stands for a failure. -/
def characters (octets : List UInt8) : List (Option Char) := charactersAfter none octets

/-- The text of octets, if they are one. -/
def ofOctets? (octets : List UInt8) : Option (List Char) := (characters octets).mapM id

/-- The text of octets, with the replacement character for each failure. -/
def ofOctets (octets : List UInt8) : List Char :=
  (characters octets).map fun c => c.getD '\uFFFD'

/-- The octets of a text. -/
def toOctets (s : List Char) : List UInt8 := (String.ofList s).toUTF8.toList

example : ofOctets [0xE6, 0x97, 0xA5, 0x61] = "日a".toList := by decide +kernel
example : ofOctets [0xE6, 0x97, 0x61, 0xC0, 0xAF] = "\uFFFDa\uFFFD\uFFFD".toList := by
  decide +kernel
example : ofOctets? [0xED, 0xA0, 0x80] = none := by decide +kernel

end ProcedureCall.Text
