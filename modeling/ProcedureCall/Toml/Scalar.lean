import ProcedureCall.Value.Basic

/-!
# Scalars of a TOML document

Texts, numbers, truth values, dates and times as TOML 1.0 writes them. Each reader gives the value
at the front of the text and what follows it, or nothing. An integer of too many digits is refused.
-/

namespace ProcedureCall.Toml

/-- Why a document is not read. -/
inductive Refusal where
  /-- It is not well formed. -/
  | malformed
  /-- An integer in it has too many digits. -/
  | tooLong (digits : Nat)
  deriving DecidableEq, Repr

/-- A part that must be there. -/
def needed {α : Type} : Option α → Except Refusal α
  | some a => .ok a
  | none => .error .malformed

/-- A blank inside a line. -/
def isBlank (c : Char) : Bool := c == ' ' || c == '\t'

/-- A blank or a line end. -/
def isBlankOrEnd (c : Char) : Bool := isBlank c || c == '\n'

/-- A control character, which may stand nowhere; the tab is none. -/
def isControl (c : Char) : Bool := (c.toNat < 32 && c != '\t') || c.toNat == 127

/-- A character that may stand in a text of the given extent. -/
def isAllowed (multiline : Bool) (c : Char) : Bool := !isControl c || (multiline && c == '\n')

/-! ## Texts -/

/-- What an escape of one letter stands for. -/
def letterEscape? : Char → Option Char
  | 'b' => some '\x08'
  | 't' => some '\t'
  | 'n' => some '\n'
  | 'f' => some '\x0c'
  | 'r' => some '\r'
  | '"' => some '"'
  | '\\' => some '\\'
  | _ => none

/-- The character whose code point is written with `width` hexadecimal digits. -/
def hexEscape (width : Nat) (s : List Char) : Option (Char × List Char) :=
  match (s.take width).mapM Text.hexValue? with
  | some digits =>
    let code := digits.foldl (fun sum d => 16 * sum + d) 0
    if digits.length = width ∧ code.isValidChar then some (Char.ofNat code, s.drop width) else none
  | none => none

/-- The rest of a text after a line end that was escaped: the blanks up to it and all blanks and
line ends after it are left out. -/
def afterEscapedEnd (s : List Char) : Option (List Char) :=
  match s.dropWhile isBlank with
  | [] => some []
  | '\n' :: rest => some (rest.dropWhile isBlankOrEnd)
  | _ => none

/-- What an escape stands for, the backslash read already. -/
def escape (multiline : Bool) : List Char → Option (List Char × List Char)
  | 'u' :: rest => (hexEscape 4 rest).map fun (c, rest) => ([c], rest)
  | 'U' :: rest => (hexEscape 8 rest).map fun (c, rest) => ([c], rest)
  | c :: rest =>
    if multiline && isBlankOrEnd c then (afterEscapedEnd (c :: rest)).map ([], ·)
    else (letterEscape? c).map fun d => ([d], rest)
  | [] => none

/-- A text up to its closing quotes: one, or three if it may extend over lines. -/
def basicText (multiline : Bool) : Nat → List Char → Option (List Char × List Char)
  | 0, _ => none
  | fuel + 1, s =>
    match s with
    | [] => none
    | '"' :: rest =>
      if !multiline then some ([], rest)
      else
        match Text.afterStart? ['"', '"'] rest with
        | some rest => some ([], rest)
        | none => (basicText multiline fuel rest).map fun (t, rest) => ('"' :: t, rest)
    | '\\' :: rest => do
      let (escaped, rest) ← escape multiline rest
      let (t, rest) ← basicText multiline fuel rest
      some (escaped ++ t, rest)
    | c :: rest =>
      if isAllowed multiline c then
        (basicText multiline fuel rest).map fun (t, rest) => (c :: t, rest)
      else none

/-- A text without escapes up to its closing apostrophes. -/
def literalText (multiline : Bool) : List Char → Option (List Char × List Char)
  | [] => none
  | c :: rest =>
    match Text.afterStart? (if multiline then ['\'', '\'', '\''] else ['\'']) (c :: rest) with
    | some rest => some ([], rest)
    | none =>
      if isAllowed multiline c then (literalText multiline rest).map fun (t, rest) => (c :: t, rest)
      else none

/-- Up to two quotes that stand in front of the closing three belong to the text. -/
def withLastQuotes (quote : Char) (t : List Char) : List Char → List Char × List Char
  | c :: d :: rest =>
    if c = quote then
      if d = quote then (t ++ [quote, quote], rest) else (t ++ [quote], d :: rest)
    else (t, c :: d :: rest)
  | [c] => if c = quote then (t ++ [quote], []) else (t, [c])
  | [] => (t, [])

/-- Without one line end in front. -/
def withoutFirstEnd : List Char → List Char
  | '\n' :: rest => rest
  | s => s

/-- A text of any kind, which begins with a quote or an apostrophe. -/
def text (s : List Char) : Option (List Char × List Char) :=
  match s with
  | '"' :: '"' :: '"' :: rest =>
    (basicText true (rest.length + 1) (withoutFirstEnd rest)).map fun (t, rest) =>
      withLastQuotes '"' t rest
  | '"' :: rest => basicText false (rest.length + 1) rest
  | '\'' :: '\'' :: '\'' :: rest =>
    (literalText true (withoutFirstEnd rest)).map fun (t, rest) => withLastQuotes '\'' t rest
  | '\'' :: rest => literalText false rest
  | _ => none

/-! ## Numbers -/

/-- The digits at the front, single low lines between two of them left out, and what follows. -/
def digitRun (isDigit : Char → Bool) : List Char → List Char × List Char
  | [] => ([], [])
  | [c] => if isDigit c then ([c], []) else ([], [c])
  | c :: d :: rest =>
    if isDigit c then
      if d = '_' then
        match digitRun isDigit rest with
        | ([], _) => ([c], d :: rest)
        | (digits, rest) => (c :: digits, rest)
      else
        let (digits, rest) := digitRun isDigit (d :: rest)
        (c :: digits, rest)
    else ([], c :: d :: rest)

/-- The value of digits in a base. -/
def inBase (base : Nat) (digits : List Char) : Nat :=
  digits.foldl (fun sum c => base * sum + (Text.hexValue? c).getD 0) 0

/-- An integer in base 16, 8 or 2, the leading zero and letter read already. -/
def basedInteger (letter : Char) (s : List Char) : Option (Value × List Char) :=
  let (base, isDigit) : Nat × (Char → Bool) :=
    if letter = 'x' then (16, Text.isHexDigit)
    else if letter = 'o' then (8, fun c => '0' ≤ c && c ≤ '7')
    else (2, fun c => c == '0' || c == '1')
  match digitRun isDigit s with
  | ([], _) => none
  | (digits, rest) => some (.int (inBase base digits), rest)

/-- The whole part of a number: a zero, or digits of which the first is no zero. -/
def wholePart : List Char → Option (List Char × List Char)
  | '0' :: rest => some (['0'], rest)
  | s =>
    match digitRun Text.isAsciiDigit s with
    | ([], _) => none
    | part => some part

/-- The fraction of a number: a point and digits, or nothing. -/
def fractionPart : List Char → List Char × List Char
  | '.' :: rest =>
    match digitRun Text.isAsciiDigit rest with
    | ([], _) => ([], '.' :: rest)
    | part => part
  | s => ([], s)

/-- The exponent of a number, if there is one. -/
def exponentPart (s : List Char) : Option Int × List Char :=
  match s with
  | [] => (none, [])
  | c :: rest =>
    if c = 'e' ∨ c = 'E' then
      let (negative, rest) := Numeral.sign rest
      match digitRun Text.isAsciiDigit rest with
      | ([], _) => (none, s)
      | (digits, rest) => (some (Numeral.signed negative (inBase 10 digits)), rest)
    else (none, s)

/-- A decimal number: an integer, or a number with a fraction or an exponent. -/
def decimalNumber (s : List Char) : Except Refusal (Value × List Char) := do
  let (negative, rest) := Numeral.sign s
  let (whole, rest) ← needed (wholePart rest)
  let (fraction, rest) := fractionPart rest
  let (exponent, rest) := exponentPart rest
  if fraction.isEmpty && exponent.isNone then
    if Numeral.mostDigits < whole.length then .error (.tooLong whole.length)
    else .ok (.int (Numeral.signed negative (inBase 10 whole)), rest)
  else
    .ok (.float (Binary.ofDecimal negative (inBase 10 (whole ++ fraction))
      (exponent.getD 0 - fraction.length)), rest)

/-- A number that is none or that is infinite. -/
def specialNumber (s : List Char) : Option (Value × List Char) :=
  let (negative, rest) := Numeral.sign s
  match Text.afterStart? "inf".toList rest, Text.afterStart? "nan".toList rest with
  | some rest, _ => some (.float (.infinite negative), rest)
  | _, some rest => some (.float .notANumber, rest)
  | _, _ => none

/-- A number of any kind. -/
def number (s : List Char) : Except Refusal (Value × List Char) :=
  let based : Option (Value × List Char) :=
    match s with
    | '0' :: c :: rest =>
      if c = 'x' ∨ c = 'o' ∨ c = 'b' then basedInteger c rest else none
    | _ => none
  match based <|> specialNumber s with
  | some found => .ok found
  | none => decimalNumber s

/-! ## Dates and times -/

/-- A time of day without a distance from universal time. -/
def timeOfDay (s : List Char) : Option (TimeOfDay × List Char) := do
  let (hour, s) ← Calendar.fixedDigits? 2 s
  let (minute, s) ← Calendar.fixedDigits? 2 (← Calendar.expect? ':' s)
  let (second, s) ← Calendar.fixedDigits? 2 (← Calendar.expect? ':' s)
  if hour < 24 ∧ minute < 60 ∧ second < 60 then
    let (micro, s) := (Calendar.readFraction? s).getD (0, s)
    some (⟨hour, minute, second, micro, none⟩, s)
  else none

/-- A distance from universal time, if there is one. -/
def offset (s : List Char) : Option Int × List Char :=
  match s with
  | [] => (none, [])
  | c :: rest =>
    if c = 'Z' ∨ c = 'z' then (some 0, rest)
    else
      let read : Option (Int × List Char) := do
        let negative ← if c = '-' then some true else if c = '+' then some false else none
        let (hours, rest) ← Calendar.fixedDigits? 2 rest
        let (minutes, rest) ← Calendar.fixedDigits? 2 (← Calendar.expect? ':' rest)
        if hours < 24 ∧ minutes < 60 then
          some (Numeral.signed negative (3600 * hours + 60 * minutes), rest)
        else none
      match read with
      | some (seconds, rest) => (some seconds, rest)
      | none => (none, s)

/-- A date in form: its month and day lie in the bounds that every year keeps. -/
def dateShape (s : List Char) : Option (Date × List Char) := do
  let (year, s) ← Calendar.fixedDigits? 4 s
  let (month, s) ← Calendar.fixedDigits? 2 (← Calendar.expect? '-' s)
  let (day, s) ← Calendar.fixedDigits? 2 (← Calendar.expect? '-' s)
  if 1 ≤ month ∧ month ≤ 12 ∧ 1 ≤ day ∧ day ≤ 31 then some (⟨year, month, day⟩, s) else none

/-- The time that follows a date, if one does. -/
def timeAfterDate (s : List Char) : Option (TimeOfDay × List Char) :=
  match s with
  | c :: rest =>
    if c = 'T' ∨ c = 't' ∨ c = ' ' then do
      let (time, rest) ← timeOfDay rest
      let (seconds, rest) := offset rest
      some ({ time with offset := seconds }, rest)
    else none
  | [] => none

/-- A date with a time or without, or a time. A date that no calendar has makes the document
malformed; the inner `none` says so. -/
def moment (s : List Char) : Option (Option Value × List Char) :=
  match dateShape s with
  | some (date, rest) =>
    let (value, rest) :=
      match timeAfterDate rest with
      | some (time, rest) => (Value.timestamp date time, rest)
      | none => (Value.date date, rest)
    some (if Calendar.isDate date then some value else none, rest)
  | none => (timeOfDay s).map fun (time, rest) => (some (.time time), rest)

/-- A scalar of any kind. -/
def scalar (s : List Char) : Except Refusal (Value × List Char) :=
  match s with
  | [] => .error .malformed
  | c :: _ =>
    if c = '"' ∨ c = '\'' then
      needed ((text s).map fun (t, rest) => (.text (String.ofList t), rest))
    else
      match Text.afterStart? "true".toList s, Text.afterStart? "false".toList s with
      | some rest, _ => .ok (.bool true, rest)
      | _, some rest => .ok (.bool false, rest)
      | none, none =>
        match moment s with
        | some (some value, rest) => .ok (value, rest)
        | some (none, _) => .error .malformed
        | none => number s

example : (scalar "1_000.5e1 x".toList).toOption.map (·.2) = some " x".toList := by decide +kernel
example : text "\"\"\"a\"\"\"\"\"b".toList = some ("a\"\"".toList, "b".toList) := by decide +kernel
example : text "\"\\u00e9\\\\\"".toList = some ("é\\".toList, []) := by decide +kernel

end ProcedureCall.Toml
