import ProcedureCall.Text.Character

/-!
# Quoted text

How a text or a run of octets is shown inside a message or a list: between quotes, with everything
that cannot be printed written as an escape. The quote is the apostrophe, unless the content holds
an apostrophe and no double quote.
-/

namespace ProcedureCall.Text

/-- The quote that content is shown between. -/
def quoteFor (content : List Char) : Char :=
  if content.contains '\'' && !content.contains '"' then '"' else '\''

/-- A character told by its number. -/
def numbered (c : Char) : List Char :=
  if c.toNat < 0x100 then ['\\', 'x'] ++ hexDigits 2 c.toNat
  else if c.toNat < 0x10000 then ['\\', 'u'] ++ hexDigits 4 c.toNat
  else ['\\', 'U'] ++ hexDigits 8 c.toNat

/-- A character as it is written between the given quotes. -/
def escaped (quote c : Char) : List Char :=
  if c = quote ∨ c = '\\' then ['\\', c]
  else if c = '\n' then ['\\', 'n']
  else if c = '\r' then ['\\', 'r']
  else if c = '\t' then ['\\', 't']
  else if isPrintable c then [c]
  else numbered c

/-- A text between quotes. -/
def quoted (s : List Char) : List Char :=
  let quote := quoteFor s
  [quote] ++ s.flatMap (escaped quote) ++ [quote]

/-- An octet as it is written between the given quotes: ASCII alone is printable, and a guarded
character has a backslash in front of it even if it is not the quote. -/
def escapedOctet (guarded : List Char) (quote : Char) (octet : UInt8) : List Char :=
  let c := Char.ofNat octet.toNat
  if 0x7F ≤ octet.toNat then ['\\', 'x'] ++ hexDigits 2 octet.toNat
  else if guarded.contains c then ['\\', c]
  else escaped quote c

/-- Octets between quotes, marked by a leading `b`. -/
def quotedOctets (guarded : List Char) (octets : List UInt8) : List Char :=
  let quote := quoteFor (octets.map fun octet => Char.ofNat octet.toNat)
  ['b', quote] ++ octets.flatMap (escapedOctet guarded quote) ++ [quote]

/-- Octets as lower-case hexadecimal, two digits each. -/
def hexText (octets : List UInt8) : List Char :=
  octets.flatMap fun octet => hexDigits 2 octet.toNat

example : quoted "it's".toList = "\"it's\"".toList := by decide +kernel
example : quoted "a\x00é\u2028".toList = "'a\\x00é\\u2028'".toList := by decide +kernel
example : quotedOctets [] [0x61, 0x27, 0x0A, 0, 0xFF] = "b\"a'\\n\\x00\\xff\"".toList := by
  decide +kernel
example : quotedOctets ['\''] [0x61, 0x27] = "b\"a\\'\"".toList := by decide +kernel

end ProcedureCall.Text
