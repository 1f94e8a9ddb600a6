import ProcedureCall.Report.Colour

/-!
# Styles of terminal text

A style turns attributes of text on or off and sets its colours. A style that is put over another
one counts where it says something. Styles are written as words, `bold red on black`, and some go by
names. The address of a link is read but not sent to the terminal.
-/

namespace ProcedureCall.Report

/-- The attributes of text, in the order in which they are written. -/
inductive Attribute where
  /-- Heavy strokes. -/
  | bold
  /-- Faint. -/
  | dim
  /-- Slanted. -/
  | italic
  /-- A line below. -/
  | underline
  /-- Blinking. -/
  | blink
  /-- Blinking fast. -/
  | blink2
  /-- The colours exchanged. -/
  | reverse
  /-- Hidden. -/
  | conceal
  /-- A line across. -/
  | strike
  /-- Two lines below. -/
  | underline2
  /-- A frame around. -/
  | frame
  /-- A circle around. -/
  | encircle
  /-- A line above. -/
  | overline
  deriving DecidableEq, Repr

namespace Attribute

/-- Every attribute with its name, its short name and its code. -/
def table : List (Attribute × String × Option String × Nat) :=
  [ (bold, "bold", some "b", 1), (dim, "dim", some "d", 2), (italic, "italic", some "i", 3),
    (underline, "underline", some "u", 4), (blink, "blink", none, 5),
    (blink2, "blink2", none, 6), (reverse, "reverse", some "r", 7),
    (conceal, "conceal", some "c", 8), (strike, "strike", some "s", 9),
    (underline2, "underline2", some "uu", 21), (frame, "frame", none, 51),
    (encircle, "encircle", none, 52), (overline, "overline", some "o", 53) ]

/-- The attribute with a name or a short name. -/
def ofText? (s : String) : Option Attribute :=
  (table.find? fun (_, name, short, _) => name == s || short == some s).map (·.1)

end Attribute

/-- A style. -/
structure Style where
  /-- The attributes that are turned on or off. -/
  attributes : List (Attribute × Bool) := []
  /-- The colour in front. -/
  front : Option Colour := none
  /-- The colour behind. -/
  behind : Option Colour := none
  /-- The address that the text leads to. -/
  link : Option String := none
  deriving DecidableEq, Repr

namespace Style

/-- What a style says about an attribute. -/
def setting? (s : Style) (a : Attribute) : Option Bool := (s.attributes.find? (·.1 == a)).map (·.2)

/-- The second style put over the first. -/
def combine (under top : Style) : Style where
  attributes := Attribute.table.filterMap fun (a, _) =>
    (top.setting? a <|> under.setting? a).map (a, ·)
  front := top.front <|> under.front
  behind := top.behind <|> under.behind
  link := top.link <|> under.link

/-- The style with an attribute turned on or off. -/
def turn (s : Style) (a : Attribute) (on : Bool) : Style := s.combine { attributes := [(a, on)] }

/-- Reads the words of a style, which go on from a style that was read so far. Capital letters count
as small ones, except in an attribute that is turned off. -/
def ofWords (s : Style) : List (List Char) → Except Fault (Option Style)
  | [] => .ok (some s)
  | word :: rest =>
    match String.ofList (Text.lower word), rest with
    | "on", colour :: rest => do
      match ← Colour.read colour with
      | some colour => ofWords { s with behind := some colour } rest
      | none => pure none
    | "not", word :: rest =>
      match Attribute.ofText? (String.ofList word) with
      | some a => ofWords (s.turn a false) rest
      | none => .ok none
    | "link", address :: rest => ofWords { s with link := some (String.ofList address) } rest
    | text, rest =>
      match Attribute.ofText? text with
      | some a => ofWords (s.turn a true) rest
      | none => do
        match ← Colour.read word with
        | some colour => ofWords { s with front := some colour } rest
        | none => pure none

/-- Reads a style, if the text is one. -/
def read (text : List Char) : Except Fault (Option Style) :=
  if Text.trim text = "none".toList then .ok (some {}) else ofWords {} (Text.words text)

/-- Reads a style by its name or by its words. -/
def named (text : List Char) : Except Fault (Option Style) :=
  match namedStyles.find? (·.1.toList == text) with
  | some (_, words) => read words.toList
  | none => read text

/-- The words of a style in a fixed order, `none` for the style that says nothing. -/
def text (s : Style) : String :=
  let attributes := Attribute.table.filterMap fun (a, name, _) =>
    (s.setting? a).map fun on => if on then name else "not " ++ name
  let words := attributes ++ (s.front.map Colour.text).toList ++
    (s.behind.map fun c => "on " ++ c.text).toList ++ (s.link.map ("link " ++ ·)).toList
  if words.isEmpty then "none" else " ".intercalate words

/-- The codes of a style. -/
def codes (s : Style) : List Nat :=
  (Attribute.table.filterMap fun (a, _, _, code) =>
      if s.setting? a = some true then some code else none) ++
    s.front.elim [] (Colour.codes false) ++ s.behind.elim [] (Colour.codes true)

/-- Text in a style as it is sent to a terminal. The control sequence that makes the text lead to
the address of a link is left out, since it holds a random number. -/
def paint (s : Style) (content : List Char) : List Char :=
  let escape (body : List Char) : List Char := '\x1b' :: '[' :: body ++ ['m']
  if content.isEmpty || s.codes.isEmpty then content
  else
    escape ([';'].intercalate (s.codes.map (Nat.toDigits 10))) ++ content ++ escape ['0']

/-- Heavy strokes. -/
def bold : Style := { attributes := [(.bold, true)] }

example : (read "red b on black".toList).toOption.join.map text = some "bold red on black" := by
  decide +kernel
example : (bold.combine { attributes := [(.dim, true)] }).codes = [1, 2] := by decide +kernel

end Style

end ProcedureCall.Report
