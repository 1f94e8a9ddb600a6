import ProcedureCall.Number.Numeral

/-!
# Dates and times of day

Dates of the Gregorian calendar and times of day with microseconds and an optional distance from
universal time, with the ISO text that both are read from and written to.
-/

namespace ProcedureCall

/-- A date of the Gregorian calendar. -/
structure Date where
  /-- The year, from 1 to 9999. -/
  year : Nat
  /-- The month, from 1 to 12. -/
  month : Nat
  /-- The day of the month. -/
  day : Nat
  deriving DecidableEq, Repr, Inhabited

/-- A time of day. -/
structure TimeOfDay where
  /-- The hour, below 24. -/
  hour : Nat
  /-- The minute, below 60. -/
  minute : Nat
  /-- The second, below 60. -/
  second : Nat
  /-- The microsecond, below a million. -/
  micro : Nat
  /-- The distance from universal time in seconds, if it is known. -/
  offset : Option Int
  deriving DecidableEq, Repr, Inhabited

namespace Calendar

/-- Does the year have a leap day? -/
def isLeap (year : Nat) : Bool := year % 4 == 0 && (year % 100 != 0 || year % 400 == 0)

/-- The number of days of a month. -/
def daysIn (year month : Nat) : Nat :=
  if month = 2 then (if isLeap year then 29 else 28)
  else if month = 4 ∨ month = 6 ∨ month = 9 ∨ month = 11 then 30
  else 31

/-- Is there such a date? -/
def isDate (d : Date) : Bool :=
  1 ≤ d.year && d.year ≤ 9999 && 1 ≤ d.month && d.month ≤ 12 && 1 ≤ d.day &&
    d.day ≤ daysIn d.year d.month

/-- A number with leading zeros up to a width. -/
def padded (width n : Nat) : List Char :=
  let shown := Nat.toDigits 10 n
  List.replicate (width - shown.length) '0' ++ shown

/-- Exactly `count` ASCII digits at the front, and what follows. -/
def fixedDigits? (count : Nat) (s : List Char) : Option (Nat × List Char) :=
  if (s.take count).length = count ∧ (s.take count).all Text.isAsciiDigit then
    some ((Numeral.leadingDigits (s.take count)).2.1, s.drop count)
  else none

/-- A given character at the front, and what follows. -/
def expect? (c : Char) : List Char → Option (List Char)
  | d :: rest => if d = c then some rest else none
  | [] => none

/-- Reads a date, `2024-01-31`, at the front of a text. -/
def readDate? (s : List Char) : Option (Date × List Char) := do
  let (year, s) ← fixedDigits? 4 s
  let (month, s) ← fixedDigits? 2 (← expect? '-' s)
  let (day, s) ← fixedDigits? 2 (← expect? '-' s)
  let date : Date := ⟨year, month, day⟩
  if isDate date then some (date, s) else none

/-- Reads a distance from universal time: nothing, `Z`, or a sign, hours and minutes. -/
def readOffset? (s : List Char) : Option (Option Int × List Char) :=
  match s with
  | c :: rest =>
    if c = 'Z' ∨ c = 'z' then some (some 0, rest)
    else if c = '+' ∨ c = '-' then do
      let (hours, rest) ← fixedDigits? 2 rest
      let (minutes, rest) ← fixedDigits? 2 (← expect? ':' rest)
      if hours < 24 ∧ minutes < 60 then
        let (seconds, rest) := ((expect? ':' rest).bind (fixedDigits? 2)).getD (0, rest)
        some (some (Numeral.signed (c = '-') (3600 * hours + 60 * minutes + seconds)), rest)
      else none
    else some (none, s)
  | [] => some (none, s)

/-- Reads a fraction of a second as microseconds; digits past the sixth are dropped. -/
def readFraction? (s : List Char) : Option (Nat × List Char) :=
  match s with
  | '.' :: rest =>
    let run := rest.takeWhile Text.isAsciiDigit
    if run.isEmpty then none
    else
      let six := (run ++ List.replicate 6 '0').take 6
      some ((Numeral.leadingDigits six).2.1, rest.dropWhile Text.isAsciiDigit)
  | _ => some (0, s)

/-- Reads a time of day, `10:00:00.000123+05:30`, at the front of a text; the seconds may be left
out only if `brief`. -/
def readTime? (brief : Bool) (s : List Char) : Option (TimeOfDay × List Char) := do
  let (hour, s) ← fixedDigits? 2 s
  let (minute, s) ← fixedDigits? 2 (← expect? ':' s)
  let (second, micro, s) ←
    match expect? ':' s with
    | some s => do
      let (second, s) ← fixedDigits? 2 s
      let (micro, s) ← readFraction? s
      some (second, micro, s)
    | none => if brief then some (0, 0, s) else none
  if hour < 24 ∧ minute < 60 ∧ second < 60 then
    let (offset, s) ← readOffset? s
    some (⟨hour, minute, second, micro, offset⟩, s)
  else none

end Calendar

namespace Date

/-- The ISO text of a date. -/
def text (d : Date) : List Char :=
  Calendar.padded 4 d.year ++ ['-'] ++ Calendar.padded 2 d.month ++ ['-'] ++
    Calendar.padded 2 d.day

end Date

namespace TimeOfDay

/-- The ISO text of a distance from universal time. -/
def offsetText (seconds : Int) : List Char :=
  let all := seconds.natAbs
  [if seconds < 0 then '-' else '+'] ++ Calendar.padded 2 (all / 3600) ++ [':'] ++
    Calendar.padded 2 (all / 60 % 60) ++
    (if all % 60 = 0 then [] else [':'] ++ Calendar.padded 2 (all % 60))

/-- The ISO text of a time of day. -/
def text (t : TimeOfDay) : List Char :=
  Calendar.padded 2 t.hour ++ [':'] ++ Calendar.padded 2 t.minute ++ [':'] ++
    Calendar.padded 2 t.second ++
    (if t.micro = 0 then [] else ['.'] ++ Calendar.padded 6 t.micro) ++
    (t.offset.elim [] offsetText)

end TimeOfDay

example : Calendar.readDate? "2024-02-30".toList = none := by decide +kernel
example : (Calendar.readTime? false "10:00:00.000123+05:30".toList).map (·.1.text) =
    some "10:00:00.000123+05:30".toList := by decide +kernel

end ProcedureCall
