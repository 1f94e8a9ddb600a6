import ProcedureCall.Fault
import ProcedureCall.Report.Literal
import ProcedureCall.Report.Style
import ProcedureCall.Text.Emoji

/-!
# Marked-up text

The cells of a table may hold tags: `[bold]` begins a stretch of text in a style and `[/bold]` or
`[/]` ends it. A backslash in front of a tag makes it plain text. Text between brackets that does
not begin with a small letter or one of `#`, `/` and `@` is no tag. A tag that begins with `@` names
a handler, whose arguments must be literals. Text between tags may name emoji.
-/

namespace ProcedureCall.Report

/-- A stretch of text in a style. -/
structure Stretch where
  /-- Where it begins. -/
  start : Nat
  /-- Where it ends. -/
  stop : Nat
  /-- Its style. -/
  style : Style
  deriving Repr

/-- Text with stretches in styles. Of two stretches at one place the later one is put over the
other. -/
structure MarkedText where
  /-- The characters. -/
  chars : List Char
  /-- The stretches. -/
  stretches : List Stretch := []
  deriving Repr

/-- A tag: its name, and what follows an equals sign in it. -/
structure Tag where
  /-- The name. -/
  name : List Char
  /-- The parameters, if there are any. -/
  parameters : Option (List Char)
  deriving DecidableEq, Repr

/-- A piece of marked-up text: some characters, or a tag and where it stands. -/
inductive Piece where
  /-- Characters. -/
  | plain (chars : List Char)
  /-- A tag. -/
  | tag (t : Tag) (position : Nat)
  deriving Repr

namespace Markup

/-- A character with which a tag may begin. -/
def beginsTag (c : Char) : Bool := ('a' ≤ c && c ≤ 'z') || c == '#' || c == '/' || c == '@'

/-- The rest of a tag up to its closing bracket, and what follows it. -/
def untilClosed : List Char → Option (List Char × List Char)
  | [] => none
  | ']' :: rest => some ([], rest)
  | '[' :: _ => none
  | c :: rest => (untilClosed rest).map fun (inner, rest) => (c :: inner, rest)

/-- The inner text of a tag at the front, and what follows it. -/
def tagAt : List Char → Option (List Char × List Char)
  | '[' :: c :: rest =>
    if beginsTag c then (untilClosed rest).map fun (inner, rest) => (c :: inner, rest) else none
  | _ => none

/-- The tag with an inner text. -/
def tagOf (inner : List Char) : Tag :=
  match Text.cutFirst? '=' inner with
  | some (name, parameters) => ⟨name, some parameters⟩
  | none => ⟨inner, none⟩

/-- Characters in which a bracket after a backslash stands for itself. -/
def unescaped (chars : List Char) : List Char := Text.replaceAll ['\\', '['] ['['] chars

/-- Plain characters as a piece, unless there are none. -/
def plainPiece (chars : List Char) : List Piece :=
  if chars.isEmpty then [] else [.plain (unescaped chars)]

/-- The pieces of a text, where `gathered` holds the plain characters since the last tag, backwards,
and `position` is the place of the next character. -/
def piecesFrom : Nat → List Char → Nat → List Char → List Piece
  | 0, gathered, _, s => plainPiece (gathered.reverse ++ s)
  | fuel + 1, gathered, position, s =>
    let slashes := s.takeWhile (· == '\\')
    let after := s.dropWhile (· == '\\')
    match tagAt after with
    | some (inner, rest) =>
      let kept : List Piece :=
        if slashes.length < 2 then [] else [.plain (List.replicate (slashes.length / 2) '\\')]
      let next := position + slashes.length + inner.length + 2
      let here : Piece :=
        if slashes.length % 2 = 1 then .plain (unescaped ('[' :: inner ++ [']']))
        else .tag (tagOf inner) (position + slashes.length)
      plainPiece gathered.reverse ++ kept ++ here :: piecesFrom fuel [] next rest
    | none =>
      match after with
      | [] => plainPiece (gathered.reverse ++ slashes)
      | c :: rest =>
        piecesFrom fuel (c :: slashes.reverse ++ gathered) (position + slashes.length + 1) rest

/-- The pieces of a text. -/
def pieces (s : List Char) : List Piece := piecesFrom (s.length + 1) [] 0 s

/-- The name of a style in its fixed form, or what was written if it is no style. -/
def normalName (name : List Char) : Except Fault (List Char) := do
  match ← Style.read name with
  | some style => pure style.text.toList
  | none => pure (Text.lower (Text.trim name))

/-- A control character that is left out of text: the bell, the backspace, the vertical tab, the
form feed and the carriage return. -/
def isDropped (c : Char) : Bool := [7, 8, 11, 12, 13].contains c.toNat

/-- Text as it is shown: with the emoji that it names and without the control characters that are
left out. -/
def shown (s : List Char) : List Char := (Text.withEmoji s).filter fun c => !isDropped c

/-- What was read of a marked-up text. -/
structure State where
  /-- The characters. -/
  chars : List Char := []
  /-- The tags that are open, with the places where they began, innermost first. -/
  openTags : List (Nat × Tag) := []
  /-- The stretches that were ended. -/
  stretches : List Stretch := []

/-- The style that a tag asks for. A name that is no style asks for nothing. -/
def styleOf (t : Tag) : Except Fault Style := do
  let style ← Style.named (t.name ++ t.parameters.elim [] (' ' :: ·))
  pure (style.getD {})

/-- The arguments of a handler: what stands between brackets after its name, nothing if it has no
brackets, or all of the parameters if they do not begin with a name. -/
def argumentsOf (parameters : List Char) : List Char :=
  let parameters := Text.trim parameters
  match parameters.dropWhile fun c => Text.isWord c || c == '.' with
  | [] => ['(', ')']
  | rest =>
    if rest.head? == some '(' && rest.getLast? == some ')' && !rest.contains '\n' then rest
    else parameters

/-- What is wrong with the arguments of a handler, if anything. -/
def handlerFault? (t : Tag) : Option Fault :=
  match t.parameters with
  | none => none
  | some parameters =>
    let arguments := argumentsOf parameters
    if t.name.head? ≠ some '@' ∨ parameters.isEmpty ∨ isLiteral arguments then none
    else
      some <| .mishap .markup <| String.ofList <|
        "error parsing ".toList ++ Text.quoted arguments ++ " in ".toList ++ Text.quoted parameters

/-- The words for a closing tag without a fellow. -/
def unmatched (written : List Char) (position : Nat) (why : String) : Fault :=
  .mishap .markup ("closing tag '[" ++ String.ofList written ++ "]' at position " ++
    String.ofList (Nat.toDigits 10 position) ++ " " ++ why)

/-- A tag as it is written between its brackets. -/
def written (t : Tag) : List Char := t.name ++ t.parameters.elim [] ('=' :: ·)

/-- Ends the open tag at a place among the open ones. -/
def State.finish (s : State) (place : Nat) : Except Fault State :=
  match s.openTags[place]? with
  | none => .ok s
  | some (start, t) =>
    match handlerFault? t with
    | some fault => .error fault
    | none => do
      let style ← if t.name.head? = some '@' then pure {} else styleOf t
      pure { s with
        openTags := s.openTags.eraseIdx place
        stretches := s.stretches ++ [⟨start, s.chars.length, style⟩] }

/-- Takes in a tag. -/
def State.take (s : State) (t : Tag) (position : Nat) : Except Fault State :=
  match t.name with
  | '/' :: name => do
    let name := Text.trim name
    if name.isEmpty then
      if s.openTags.isEmpty then .error (unmatched ['/'] position "has nothing to close")
      else s.finish 0
    else
      let name ← normalName name
      match s.openTags.findIdx? fun entry => entry.2.name == name with
      | some place => s.finish place
      | none => .error (unmatched (written t) position "doesn't match any open tag")
  | name => do
    let name ← normalName name
    pure { s with openTags := (s.chars.length, ⟨name, t.parameters⟩) :: s.openTags }

/-- Takes in pieces, one after another. -/
def State.takeAll (s : State) : List Piece → Except Fault State
  | [] => .ok s
  | .plain chars :: rest => { s with chars := s.chars ++ shown chars }.takeAll rest
  | .tag t position :: rest => (s.take t position).bind fun s => s.takeAll rest

/-- The text that was read. Tags that are still open end here, the innermost first; stretches are
put in the order in which they begin, of those at one place the last ended one first. -/
def State.text (s : State) : Except Fault MarkedText := do
  let left ← s.openTags.mapM fun (start, t) => do
    pure (⟨start, s.chars.length, ← styleOf t⟩ : Stretch)
  pure ⟨s.chars, ((s.stretches ++ left).reverse).mergeSort fun a b => decide (a.start ≤ b.start)⟩

end Markup

/-- Reads marked-up text. -/
def MarkedText.read (s : List Char) : Except Fault MarkedText :=
  if s.contains '[' then (({} : Markup.State).takeAll (Markup.pieces s)).bind Markup.State.text
  else .ok ⟨Markup.shown s, []⟩

example : ((MarkedText.read "a[b]x[/b] \\[i] [1]".toList).toOption.map (·.chars)) =
    some "ax [i] [1]".toList := by decide +kernel

end ProcedureCall.Report
