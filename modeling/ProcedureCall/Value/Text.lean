import ProcedureCall.Number.Shortest
import ProcedureCall.Text.Quoted
import ProcedureCall.Value.Basic

/-!
# The texts of a value

A value has two texts: the plain one, which reports show, and the literal one, which messages show
and which tells the kinds of values apart. Inside a list, a tuple or a mapping every value has its
literal text.
-/

namespace ProcedureCall

namespace Value

/-- Arguments between brackets. -/
def call (head : String) (arguments : List (List Char)) : List Char :=
  head.toList ++ ['('] ++ [',', ' '].intercalate arguments ++ [')']

/-- The literal text of a natural number. -/
def natText (n : Nat) : List Char := Nat.toDigits 10 n

/-- The literal text of a distance from universal time. Seconds before universal time are counted
back from a whole day. -/
def offsetLiteral (seconds : Int) : List Char :=
  if seconds = 0 then "datetime.timezone.utc".toList
  else
    let days := Int.fdiv seconds 86400
    let rest := seconds - 86400 * days
    call "datetime.timezone" [call "datetime.timedelta" <|
      (if days = 0 then [] else ["days=".toList ++ Numeral.text days]) ++
        (if rest = 0 then [] else ["seconds=".toList ++ Numeral.text rest])]

/-- The literal texts of the parts of a time of day; seconds and microseconds are left out where
nothing but zeros would follow. -/
def timeParts (t : TimeOfDay) : List (List Char) :=
  [natText t.hour, natText t.minute] ++
    (if t.micro = 0 then (if t.second = 0 then [] else [natText t.second])
      else [natText t.second, natText t.micro]) ++
    (t.offset.elim [] fun seconds => ["tzinfo=".toList ++ offsetLiteral seconds])

/-- The literal texts of the parts of a date. -/
def dateParts (d : Date) : List (List Char) := [natText d.year, natText d.month, natText d.day]

/-- Items between brackets. -/
def bracketed (opening closing : Char) (items : List (List Char)) : List Char :=
  [opening] ++ [',', ' '].intercalate items ++ [closing]

mutual

/-- The literal text of a value. -/
def literal : Value → List Char
  | .null => "None".toList
  | .bool b => (if b then "True" else "False").toList
  | .int n => Numeral.text n
  | .float x => x.text
  | .decimal x => call "Decimal" [Text.quoted x.text]
  | .text s => Text.quoted s.toList
  | .octets .constant content => Text.quotedOctets [] content
  | .octets .buffer content => call "bytearray" [Text.quotedOctets ['\''] content]
  | .octets .view _ => "<memory at 0x7f0000000000>".toList
  | .date d => call "datetime.date" (dateParts d)
  | .time t => call "datetime.time" (timeParts t)
  | .timestamp d t => call "datetime.datetime" (dateParts d ++ timeParts t)
  | .uuid s => call "UUID" [Text.quoted s.toList]
  | .list items => bracketed '[' ']' (literals items)
  | .tuple [item] => ['('] ++ literal item ++ [',', ')']
  | .tuple items => bracketed '(' ')' (literals items)
  | .mapping entries => bracketed '\x7b' '\x7d' (entryLiterals entries)

/-- The literal texts of values. -/
def literals : List Value → List (List Char)
  | [] => []
  | item :: items => literal item :: literals items

/-- The literal texts of the entries of a mapping. -/
def entryLiterals : List (Value × Value) → List (List Char)
  | [] => []
  | (key, item) :: entries => (literal key ++ [':', ' '] ++ literal item) :: entryLiterals entries

end

/-- The plain text of a value: a text is itself, and so is the text of a number, a date or an
identifier; anything else has its literal text. -/
def plain : Value → List Char
  | .text s => s.toList
  | .decimal x => x.text
  | .uuid s => s.toList
  | .date d => d.text
  | .time t => t.text
  | .timestamp d t => d.text ++ [' '] ++ t.text
  | v => v.literal

example : (Value.tuple [.text "it's", .int 1]).plain = "(\"it's\", 1)".toList := by decide +kernel
example : (Value.list [.decimal (.finite false 15 (-1)), .octets .constant [0]]).plain =
    "[Decimal('1.5'), b'\\x00']".toList := by decide +kernel
example : (Value.timestamp ⟨2024, 1, 31⟩ ⟨10, 0, 0, 0, some (-18000)⟩).literal =
    ("datetime.datetime(2024, 1, 31, 10, 0, tzinfo=" ++
      "datetime.timezone(datetime.timedelta(days=-1, seconds=68400)))").toList := by
  decide +kernel

end Value

end ProcedureCall
