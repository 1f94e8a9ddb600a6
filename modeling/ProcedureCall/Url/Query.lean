import ProcedureCall.Text.Octets
import ProcedureCall.Text.Pieces

/-!
# The query of a URL

Pairs of names and values between `&` signs. In both a plus sign is a space, and an escape of two
hexadecimal digits is an octet. Neighbouring octets below 128 and escapes are read together as
UTF-8; what is no text there becomes the replacement character.
-/

namespace ProcedureCall.Url

/-- The octets of a run of ASCII, its escapes read; an escape that is none stays as it is. -/
def unescapedOctets : List Char → List UInt8
  | [] => []
  | '%' :: a :: b :: rest =>
    match Text.hexValue? a, Text.hexValue? b with
    | some high, some low => UInt8.ofNat (16 * high + low) :: unescapedOctets rest
    | _, _ => UInt8.ofNat '%'.toNat :: unescapedOctets (a :: b :: rest)
  | c :: rest => UInt8.ofNat c.toNat :: unescapedOctets rest

/-- Is the character one of ASCII? -/
def isAscii (c : Char) : Bool := c.toNat < 128

/-- The text of a run that `run` holds backwards. -/
def unescapedRun (run : List Char) : List Char := Text.ofOctets (unescapedOctets run.reverse)

/-- The text with the escapes of its ASCII runs read, where `run` is the run before it,
backwards. -/
def unescapedAfter (run : List Char) : List Char → List Char
  | [] => unescapedRun run
  | c :: rest =>
    if isAscii c then unescapedAfter (c :: run) rest
    else unescapedRun run ++ c :: unescapedAfter [] rest

/-- The text with its escapes read. -/
def unescaped (s : List Char) : List Char := unescapedAfter [] s

/-- A name or a value as it is meant. -/
def plain (s : List Char) : List Char := unescaped (s.map fun c => if c = '+' then ' ' else c)

/-- The pairs of a query, those without a value left out. -/
def queryPairs (query : List Char) : List (String × List Char) :=
  (Text.cutBy (· == '&') query).filterMap fun piece =>
    match Text.cutFirst? '=' piece with
    | some (name, value) =>
      if value.isEmpty then none else some (String.ofList (plain name), plain value)
    | none => none

example : queryPairs "a=1+2&b&c=&d=%c3%a9%zz".toList =
    [("a", "1 2".toList), ("d", "é%zz".toList)] := by decide +kernel

end ProcedureCall.Url
