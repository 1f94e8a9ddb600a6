import ProcedureCall.Number.Numeral

/-!
# Literals

A handler that is named in a tag takes literals: numbers, texts, octets, `True`, `False`, `None` and
`...`, and tuples, sets and mappings of them. This module tells whether a text is a literal. What it
says is not kept.
-/

namespace ProcedureCall.Report

/-- What a literal says, so far as that decides what it may be a part of. -/
inductive LiteralKind where
  /-- A real number without a sign. -/
  | real
  /-- A real number with a sign. -/
  | signedReal
  /-- An imaginary number without a sign. -/
  | imaginary
  /-- Anything else that may be a key or a member of a set. -/
  | constant
  /-- A set, a mapping, or a tuple that holds one. -/
  | changeable
  deriving DecidableEq, Repr

namespace Literal

/-! ## Blanks -/

/-- What follows blanks. A backslash at the end of a line is one; between brackets line ends and
comments are, too. -/
def afterBlanks (inside : Bool) : Nat → List Char → List Char
  | 0, s => s
  | fuel + 1, s =>
    match s with
    | '\\' :: '\r' :: '\n' :: rest => afterBlanks inside fuel rest
    | '\\' :: c :: rest => if c = '\n' ∨ c = '\r' then afterBlanks inside fuel rest else s
    | '#' :: rest => afterBlanks inside fuel (rest.dropWhile fun c => c != '\n' && c != '\r')
    | c :: rest =>
      if c = ' ' ∨ c = '\t' ∨ c = '\x0c' ∨ (inside ∧ (c = '\n' ∨ c = '\r')) then
        afterBlanks inside fuel rest
      else s
    | [] => []

/-- What follows blanks. -/
def skip (inside : Bool) (s : List Char) : List Char := afterBlanks inside s.length s

/-! ## Numbers -/

/-- The digits after the first, of which each may have one low line in front. -/
def moreDigits (isDigit : Char → Bool) : List Char → List Char × List Char
  | [] => ([], [])
  | [c] => if isDigit c then ([c], []) else ([], [c])
  | c :: d :: rest =>
    if isDigit c then
      let (digits, rest) := moreDigits isDigit (d :: rest)
      (c :: digits, rest)
    else if c = '_' ∧ isDigit d then
      let (digits, rest) := moreDigits isDigit rest
      (d :: digits, rest)
    else ([], c :: d :: rest)

/-- Digits that begin with one. -/
def digits (s : List Char) : List Char × List Char :=
  if s.head?.any Text.isAsciiDigit then moreDigits Text.isAsciiDigit s else ([], s)

/-- What follows an exponent, if there is one, and whether there is. -/
def exponent (s : List Char) : Bool × List Char :=
  match s with
  | c :: rest =>
    if c = 'e' ∨ c = 'E' then
      match digits (Numeral.sign rest).2 with
      | ([], _) => (false, s)
      | (_, rest) => (true, rest)
    else (false, s)
  | [] => (false, [])

/-- A decimal number. An integer has no zero in front and not too many digits. -/
def decimal (s : List Char) : Option (LiteralKind × List Char) :=
  let (whole, rest) := digits s
  let (fraction, hasPoint, rest) : List Char × Bool × List Char :=
    match rest with
    | '.' :: rest => let (fraction, rest) := digits rest; (fraction, true, rest)
    | rest => ([], false, rest)
  let (hasExponent, rest) := exponent rest
  if whole.isEmpty && fraction.isEmpty then none
  else
    match rest with
    | 'j' :: rest => some (.imaginary, rest)
    | 'J' :: rest => some (.imaginary, rest)
    | rest =>
      if hasPoint || hasExponent then some (.real, rest)
      else if whole.head? = some '0' ∧ whole.any (· != '0') then none
      else if Numeral.mostDigits < whole.length then none
      else some (.real, rest)

/-- A number. -/
def number (s : List Char) : Option (LiteralKind × List Char) :=
  let based (isDigit : Char → Bool) (rest : List Char) : Option (LiteralKind × List Char) :=
    match moreDigits isDigit rest with
    | ([], _) => none
    | (_, rest) => some (.real, rest)
  match s with
  | '0' :: c :: rest =>
    if c = 'x' ∨ c = 'X' then based Text.isHexDigit rest
    else if c = 'o' ∨ c = 'O' then based (fun c => '0' ≤ c && c ≤ '7') rest
    else if c = 'b' ∨ c = 'B' then based (fun c => c == '0' || c == '1') rest
    else decimal s
  | s => decimal s

/-! ## Texts and octets -/

/-- The kinds of quoted literals. -/
structure Quotation where
  /-- Does a backslash stand for itself? -/
  isRaw : Bool
  /-- Are these octets and not a text? -/
  isOctets : Bool
  deriving DecidableEq, Repr

/-- The kind of a quoted literal by the letters in front of it. -/
def quotation? (letters : List Char) : Option Quotation :=
  let kinds : List (String × Quotation) :=
    [ ("", ⟨false, false⟩), ("u", ⟨false, false⟩), ("r", ⟨true, false⟩), ("b", ⟨false, true⟩),
      ("br", ⟨true, true⟩), ("rb", ⟨true, true⟩) ]
  (kinds.find? fun (name, _) => name.toList == letters.map Char.toLower).map (·.2)

/-- What follows an escape, the backslash read already. -/
def afterEscape (q : Quotation) (s : List Char) : Option (List Char) :=
  let hex (width : Nat) (rest : List Char) : Option (List Char) :=
    let digits := rest.take width
    let code := digits.foldl (fun sum c => 16 * sum + (Text.hexValue? c).getD 0) 0
    if digits.length = width ∧ digits.all Text.isHexDigit ∧ code ≤ 0x10FFFF then
      some (rest.drop width)
    else none
  match s with
  | [] => none
  | '\r' :: '\n' :: rest => some rest
  | c :: rest =>
    if q.isRaw then some rest
    else if c = 'x' then hex 2 rest
    else if q.isOctets then some rest
    else if c = 'u' then hex 4 rest
    else if c = 'U' then hex 8 rest
    else if c = 'N' then
      match rest with
      | '\x7b' :: rest => (Text.cutFirst? '\x7d' rest).map (·.2)
      | _ => none
    else some rest

/-- What follows a quoted literal, of which the opening quotes were read already. -/
def afterQuoted (q : Quotation) (closing : List Char) : Nat → List Char → Option (List Char)
  | 0, _ => none
  | fuel + 1, s =>
    match Text.afterStart? closing s, s with
    | some rest, _ => some rest
    | none, [] => none
    | none, c :: rest =>
      if q.isOctets ∧ 128 ≤ c.toNat then none
      else if (c = '\n' ∨ c = '\r') ∧ closing.length = 1 then none
      else if c = '\\' then (afterEscape q rest).bind (afterQuoted q closing fuel)
      else afterQuoted q closing fuel rest

/-- A quoted literal and its kind. -/
def quoted (s : List Char) : Option (Quotation × List Char) := do
  let letters := s.takeWhile Text.isAsciiLetter
  let q ← quotation? letters
  match s.dropWhile Text.isAsciiLetter with
  | a :: b :: c :: rest =>
    if a ≠ '\'' ∧ a ≠ '"' then none
    else if b = a ∧ c = a then (afterQuoted q [a, a, a] (rest.length + 1) rest).map (q, ·)
    else (afterQuoted q [a] (rest.length + 3) (b :: c :: rest)).map (q, ·)
  | [a, b] => if (a = '\'' ∨ a = '"') ∧ b = a then some (q, []) else none
  | _ => none

/-- What follows quoted literals side by side, all of them texts or all of them octets. -/
def afterNeighbours (inside isOctets : Bool) : Nat → List Char → Option (List Char)
  | 0, s => some s
  | fuel + 1, s =>
    match quoted (skip inside s) with
    | some (q, rest) =>
      if q.isOctets = isOctets then afterNeighbours inside isOctets fuel rest else none
    | none => some s

/-! ## Expressions -/

/-- Reads a word: one of the constants, or the empty set. -/
def word (inside : Bool) (s : List Char) : Option (LiteralKind × List Char) :=
  let isPart (c : Char) : Bool := Text.isAsciiLetter c || Text.isAsciiDigit c || c == '_'
  let name := String.ofList (s.takeWhile isPart)
  let rest := s.dropWhile isPart
  if ["None", "True", "False"].contains name then some (.constant, rest)
  else if name = "set" then
    match skip inside rest with
    | '(' :: rest =>
      match skip true rest with
      | ')' :: rest => some (.changeable, rest)
      | _ => none
    | _ => none
  else none

/-- The kind of a tuple with members of the given kinds. -/
def tupleKind (kinds : List LiteralKind) : LiteralKind :=
  if kinds.contains .changeable then .changeable else .constant

mutual

/-- A literal without a sign. -/
def atom (inside : Bool) : Nat → List Char → Option (LiteralKind × List Char)
  | 0, _ => none
  | fuel + 1, s =>
    match s with
    | '.' :: '.' :: '.' :: rest => some (.constant, rest)
    | '(' :: rest =>
      match skip true rest with
      | ')' :: rest => some (.constant, rest)
      | rest => do
        let (kinds, comma, rest) ← members fuel ')' rest
        some (if comma then tupleKind kinds else kinds.headD .constant, rest)
    | '\x7b' :: rest =>
      match skip true rest with
      | '\x7d' :: rest => some (.changeable, rest)
      | rest => braced fuel rest
    | s =>
      match quoted s with
      | some (q, rest) =>
        (afterNeighbours inside q.isOctets rest.length rest).map (LiteralKind.constant, ·)
      | none => number s <|> word inside s

/-- A literal: one without a sign, a number with a sign, or the sum or difference of a real and an
imaginary number. -/
def expression (inside : Bool) : Nat → List Char → Option (LiteralKind × List Char)
  | 0, _ => none
  | fuel + 1, s => do
    let (kind, rest) ←
      match s with
      | c :: rest =>
        if c = '+' ∨ c = '-' then do
          let (kind, rest) ← atom inside fuel (skip inside rest)
          match kind with
          | .real => some (LiteralKind.signedReal, rest)
          | .imaginary => some (.constant, rest)
          | _ => none
        else atom inside fuel s
      | [] => none
    match skip inside rest with
    | c :: after =>
      if c = '+' ∨ c = '-' then do
        let (second, rest) ← atom inside fuel (skip inside after)
        if (kind = .real ∨ kind = .signedReal) ∧ second = .imaginary then some (.constant, rest)
        else none
      else some (kind, rest)
    | [] => some (kind, rest)

/-- Literals between commas up to a closing bracket: their kinds, and whether there is a comma. -/
def members : Nat → Char → List Char → Option (List LiteralKind × Bool × List Char)
  | 0, _, _ => none
  | fuel + 1, closing, s => do
    let (kind, rest) ← expression true fuel s
    match skip true rest with
    | c :: rest =>
      if c = closing then some ([kind], false, rest)
      else if c = ',' then
        match skip true rest with
        | d :: after =>
          if d = closing then some ([kind], true, after)
          else do
            let (kinds, _, rest) ← members fuel closing (d :: after)
            some (kind :: kinds, true, rest)
        | [] => none
      else none
    | [] => none

/-- The members of a set or a mapping up to the closing brace. A set and the keys of a mapping hold
nothing changeable. -/
def braced : Nat → List Char → Option (LiteralKind × List Char)
  | 0, _ => none
  | fuel + 1, s => do
    let (kind, rest) ← expression true fuel s
    if kind = .changeable then none
    else
      match skip true rest with
      | ':' :: rest => do
        let (_, rest) ← expression true fuel (skip true rest)
        entries fuel (skip true rest)
      | _ => do
        let (kinds, _, rest) ← members fuel '\x7d' s
        if kinds.contains .changeable then none else some (.changeable, rest)

/-- The entries of a mapping after the first. -/
def entries : Nat → List Char → Option (LiteralKind × List Char)
  | 0, _ => none
  | fuel + 1, s =>
    match s with
    | '\x7d' :: rest => some (.changeable, rest)
    | ',' :: rest =>
      match skip true rest with
      | '\x7d' :: rest => some (.changeable, rest)
      | rest => do
        let (key, rest) ← expression true fuel rest
        match skip true rest with
        | ':' :: rest => do
          let (_, rest) ← expression true fuel (skip true rest)
          if key = .changeable then none else entries fuel (skip true rest)
        | _ => none
    | _ => none

end

/-- Is the text a literal, or some of them with commas between? -/
def isLiterals : Nat → List Char → Bool
  | 0, _ => false
  | fuel + 1, s =>
    match expression false (2 * s.length + 2) s with
    | none => false
    | some (_, rest) =>
      match skip false rest with
      | ',' :: rest => (skip true rest).isEmpty || isLiterals fuel (skip false rest)
      | rest => (skip true rest).isEmpty

end Literal

/-- Is the text a literal? Literals with commas between them are a tuple, which is one. -/
def isLiteral (s : List Char) : Bool :=
  Literal.isLiterals (s.length + 1) (s.dropWhile fun c => c == ' ' || c == '\t')

example : isLiteral "1,".toList ∧ isLiteral "f".toList = false := by decide +kernel

end ProcedureCall.Report
