import ProcedureCall.Entries
import ProcedureCall.Toml.Scalar

/-!
# TOML documents

A document is a sequence of statements, each of which opens a table, appends a table to an array, or
gives a value to a key. Whether a statement is allowed depends on how the tables that it names came
about; that is what marks are for. A table that was opened may not be opened again; a value is
frozen, with everything inside it.
-/

namespace ProcedureCall.Toml

/-- The members of a table in order. -/
abbrev Members := List (String × Value)

/-- The members of a mapping. -/
def membersOf (entries : List (Value × Value)) : Members :=
  entries.filterMap fun
    | (.text key, value) => some (key, value)
    | _ => none

/-- A table as a value. -/
def tableOf (members : Members) : Value := .mapping (members.map fun (key, v) => (.text key, v))

/-- Changes the table at a path, which is made if it is missing. Where an array stands on the path
its last table is meant, if `throughArrays`. -/
def changeTable (throughArrays : Bool) (f : Members → Option Members) :
    List String → Members → Option Members
  | [], members => f members
  | key :: path, members =>
    match Entries.get? key members with
    | none => do
      let inner ← changeTable throughArrays f path []
      some (Entries.put key (tableOf inner) members)
    | some (.mapping entries) => do
      let inner ← changeTable throughArrays f path (membersOf entries)
      some (Entries.put key (tableOf inner) members)
    | some (.list items) =>
      match throughArrays, items.getLast? with
      | true, some (.mapping entries) => do
        let inner ← changeTable throughArrays f path (membersOf entries)
        some (Entries.put key (.list (items.dropLast ++ [tableOf inner])) members)
      | _, _ => none
    | some _ => none

/-- Gives a value to a key that has none. -/
def giveNew (key : String) (value : Value) (members : Members) : Option Members :=
  if (Entries.get? key members).isSome then none else some (members ++ [(key, value)])

/-- Appends a table to an array, which is made if it is missing. -/
def appendTable (key : String) (members : Members) : Option Members :=
  match Entries.get? key members with
  | none => some (members ++ [(key, .list [.mapping []])])
  | some (.list items) => some (Entries.put key (.list (items ++ [.mapping []])) members)
  | some _ => none

/-! ## Marks -/

/-- A mark on a path. -/
inductive Mark where
  /-- The table was opened. -/
  | opened
  /-- The value is frozen, with everything inside it. -/
  | frozen
  deriving DecidableEq, Repr

/-- The marks that were set, with their paths. -/
abbrev Marks := List (List String × Mark)

/-- Is the path frozen, by itself or by a value above it? -/
def Marks.isFrozen (marks : Marks) (path : List String) : Bool :=
  !path.isEmpty && marks.any fun (p, mark) => mark == .frozen && p.isPrefixOf path

/-- Was the table at the path opened? -/
def Marks.isOpened (marks : Marks) (path : List String) : Bool :=
  !path.isEmpty && marks.any fun (p, mark) => mark == .opened && p == path

/-- Without the marks at and below a path. -/
def Marks.without (marks : Marks) (path : List String) : Marks :=
  marks.filter fun (p, _) => !path.isPrefixOf p

/-! ## Keys and values -/

/-- A character of a key without quotes. -/
def isKeyChar (c : Char) : Bool :=
  Text.isAsciiLetter c || Text.isAsciiDigit c || c == '-' || c == '_'

/-- One part of a key. -/
def keyPart (s : List Char) : Option (String × List Char) :=
  match s with
  | [] => none
  | '"' :: rest =>
    (basicText false (rest.length + 1) rest).map fun (t, rest) => (String.ofList t, rest)
  | '\'' :: rest => (literalText false rest).map fun (t, rest) => (String.ofList t, rest)
  | c :: rest =>
    if isKeyChar c then
      some (String.ofList (c :: rest.takeWhile isKeyChar), rest.dropWhile isKeyChar)
    else none

/-- The parts of a key, joined by points, and the blanks after it. -/
def key : Nat → List Char → Option (List String × List Char)
  | 0, _ => none
  | fuel + 1, s => do
    let (part, rest) ← keyPart s
    match rest.dropWhile isBlank with
    | '.' :: rest => do
      let (parts, rest) ← key fuel (rest.dropWhile isBlank)
      some (part :: parts, rest)
    | rest => some ([part], rest)

/-- What follows a comment, if one stands here. -/
def afterComment : List Char → Option (List Char)
  | '#' :: rest =>
    let comment := rest.takeWhile (· != '\n')
    if comment.any isControl then none else some (rest.dropWhile (· != '\n'))
  | s => some s

/-- What follows blanks, line ends and comments. -/
def afterBlankLines : Nat → List Char → Option (List Char)
  | 0, s => some s
  | fuel + 1, s => do
    let s := s.dropWhile isBlankOrEnd
    match s with
    | '#' :: _ => afterBlankLines fuel (← afterComment s)
    | s => some s

/-- Is the value a table or an array? -/
def isCompound : Value → Bool
  | .mapping _ => true
  | .list _ => true
  | _ => false

mutual

/-- A value. -/
def value : Nat → List Char → Except Refusal (Value × List Char)
  | 0, _ => .error .malformed
  | fuel + 1, s =>
    match s with
    | '[' :: rest => do
      let rest ← needed (afterBlankLines rest.length rest)
      match rest with
      | ']' :: rest => .ok (.list [], rest)
      | rest => (items fuel rest).map fun (items, rest) => (.list items, rest)
    | '\x7b' :: rest =>
      match rest.dropWhile isBlank with
      | '\x7d' :: rest => .ok (.mapping [], rest)
      | rest => (inlineMembers fuel [] [] rest).map fun (members, rest) => (tableOf members, rest)
    | s => scalar s

/-- The items of an array up to its end. -/
def items : Nat → List Char → Except Refusal (List Value × List Char)
  | 0, _ => .error .malformed
  | fuel + 1, s => do
    let (item, rest) ← value fuel s
    let rest ← needed (afterBlankLines rest.length rest)
    match rest with
    | ']' :: rest => .ok ([item], rest)
    | ',' :: rest => do
      let rest ← needed (afterBlankLines rest.length rest)
      match rest with
      | ']' :: rest => .ok ([item], rest)
      | rest => (items fuel rest).map fun (items, rest) => (item :: items, rest)
    | _ => .error .malformed

/-- A key and its value. -/
def keyValue : Nat → List Char → Except Refusal ((List String × Value) × List Char)
  | 0, _ => .error .malformed
  | fuel + 1, s => do
    let (path, rest) ← needed (key s.length s)
    match rest with
    | '=' :: rest => (value fuel (rest.dropWhile isBlank)).map fun (v, rest) => ((path, v), rest)
    | _ => .error .malformed

/-- The members of a table on one line up to its end. -/
def inlineMembers : Nat → Marks → Members → List Char → Except Refusal (Members × List Char)
  | 0, _, _, _ => .error .malformed
  | fuel + 1, marks, members, s => do
    let ((path, v), rest) ← keyValue fuel s
    if marks.isFrozen path then .error .malformed
    else do
      let members ←
        needed (changeTable false (giveNew (path.getLastD "") v) path.dropLast members)
      match rest.dropWhile isBlank with
      | '\x7d' :: rest => .ok (members, rest)
      | ',' :: rest =>
        let marks := if isCompound v then (path, Mark.frozen) :: marks else marks
        inlineMembers fuel marks members (rest.dropWhile isBlank)
      | _ => .error .malformed

end

/-! ## Statements -/

/-- What was read of a document. -/
structure State where
  /-- The members of the table at the top. -/
  members : Members := []
  /-- The table that was opened last. -/
  header : List String := []
  /-- The marks that were set. -/
  marks : Marks := []
  /-- The paths that will be marked as opened at the next header. -/
  pending : List (List String) := []

/-- Sets the marks that were waiting for a header. -/
def State.settled (s : State) : State :=
  { s with marks := s.pending.map (·, Mark.opened) ++ s.marks, pending := [] }

/-- Opens a table. -/
def State.openTable (s : State) (path : List String) : Option State :=
  if s.marks.isOpened path || s.marks.isFrozen path then none
  else (changeTable true some path s.members).map fun members =>
    { s with members, header := path, marks := (path, .opened) :: s.marks }

/-- Appends a table to an array. -/
def State.openArray (s : State) (path : List String) : Option State :=
  if s.marks.isFrozen path then none
  else
    (changeTable true (appendTable (path.getLastD "")) path.dropLast s.members).map fun members =>
      { s with members, header := path, marks := (path, .opened) :: s.marks.without path }

/-- Gives a value to a key. -/
def State.give (s : State) (path : List String) (v : Value) : Option State :=
  let between := (List.range path.length).filterMap fun n =>
    if 0 < n then some (s.header ++ path.take n) else none
  let full := s.header ++ path
  if between.any s.marks.isOpened || s.marks.isFrozen full.dropLast then none
  else (changeTable true (giveNew (path.getLastD "") v) full.dropLast s.members).map fun members =>
    { s with
      members
      marks := if isCompound v then (full, .frozen) :: s.marks else s.marks
      pending := between ++ s.pending }

/-- The end of a header. -/
def afterHeader (closing : List Char) (s : List Char) : Option (List Char) :=
  Text.afterStart? closing s

/-- A statement at the front of a text that is no blank line. -/
def statement (s : State) (text : List Char) : Except Refusal (State × List Char) :=
  match text with
  | '[' :: '[' :: rest => needed do
    let (path, rest) ← key rest.length (rest.dropWhile isBlank)
    let rest ← afterHeader [']', ']'] rest
    (s.settled.openArray path).map (·, rest)
  | '[' :: rest => needed do
    let (path, rest) ← key rest.length (rest.dropWhile isBlank)
    let rest ← afterHeader [']'] rest
    (s.settled.openTable path).map (·, rest)
  | '#' :: _ => .ok (s, text)
  | text => do
    let ((path, v), rest) ← keyValue (text.length + 1) text
    needed ((s.give path v).map (·, rest))

/-- The statements of a document. -/
def statements : Nat → State → List Char → Except Refusal State
  | 0, _, _ => .error .malformed
  | fuel + 1, s, text =>
    match text.dropWhile isBlank with
    | [] => .ok s
    | '\n' :: rest => statements fuel s rest
    | text => do
      let (s, rest) ← statement s text
      match ← needed (afterComment (rest.dropWhile isBlank)) with
      | [] => .ok s
      | '\n' :: rest => statements fuel s rest
      | _ => .error .malformed

/-- Line ends of two characters become one. -/
def withPlainEnds (text : List Char) : List Char := Text.replaceAll ['\r', '\n'] ['\n'] text

/-- The members of a document, or why it is not read. -/
def document (text : List Char) : Except Refusal Members :=
  let text := withPlainEnds text
  (statements (text.length + 1) {} text).map (·.members)

example : (document "a.b = 1\n[c]\nd = [1, 2]\n".toList).isOk := by decide +kernel
example : (document "[a]\n[a]\n".toList).isOk = false := by decide +kernel
example : (document "a = \x7b b = 1 \x7d\n[a.c]\n".toList).isOk = false := by decide +kernel

end ProcedureCall.Toml
