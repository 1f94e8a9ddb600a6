import ProcedureCall.Number.Numeral

/-!
# Reading JSON

A reader of the texts of RFC 8259 with `NaN`, `Infinity` and `-Infinity` as further numbers. A text
is cut into tokens: the six marks of the grammar, texts between quotes and words between these. A
word is a name or a number, and a number without point and exponent is an integer. The tokens are put
together by a machine that holds the lists and objects that are still open.

The members of an object are kept as they stand, a name that occurs twice included.

## What is proved

* `tokens?_text`, `tokens?_word` — how a text between quotes and a word are cut off.
* `run_tokens` — the tokens of a datum are put together to the datum.
-/

namespace ProcedureCall.Report.Json

/-- What a JSON text stands for. -/
inductive Datum where
  /-- No value. -/
  | null
  /-- A truth value. -/
  | bool (b : Bool)
  /-- An integer. -/
  | int (n : Int)
  /-- A number with a point or an exponent, or one of those with names. -/
  | float (x : Binary)
  /-- A text. -/
  | text (s : String)
  /-- A list. -/
  | array (items : List Datum)
  /-- An object: names with values. -/
  | object (members : List (String × Datum))
  deriving Repr, Inhabited

/-! ### Texts between quotes -/

/-- The character that an escape stands for. -/
def escape? (c : Char) : Option Char :=
  if c = '"' ∨ c = '\\' ∨ c = '/' then some c
  else if c = 'b' then some '\x08'
  else if c = 'f' then some '\x0c'
  else if c = 'n' then some '\n'
  else if c = 'r' then some '\r'
  else if c = 't' then some '\t'
  else none

/-- The UTF-16 units of a character. -/
def unitsOf (c : Char) : List Nat :=
  if c.toNat < 0x10000 then [c.toNat]
  else [0xD800 + (c.toNat - 0x10000) / 0x400, 0xDC00 + (c.toNat - 0x10000) % 0x400]

/-- What was begun inside a text between quotes. -/
inductive Pending where
  /-- Nothing. -/
  | nothing
  /-- An escape. -/
  | escape
  /-- A unit by its number: how many digits follow the next one, and the number so far. -/
  | unit (more sum : Nat)
  deriving DecidableEq

/-- The UTF-16 units of what stands between quotes. -/
def units? : Pending → List Char → Option (List Nat)
  | .nothing, [] => some []
  | _, [] => none
  | .nothing, c :: rest =>
    if c = '\\' then units? .escape rest
    else if c.toNat < 32 then none
    else (units? .nothing rest).map (unitsOf c ++ ·)
  | .escape, c :: rest =>
    if c = 'u' then units? (.unit 3 0) rest
    else (escape? c).bind fun d => (units? .nothing rest).map (d.toNat :: ·)
  | .unit more sum, c :: rest =>
    (Text.hexValue? c).bind fun d =>
      match more with
      | 0 => (units? .nothing rest).map ((16 * sum + d) :: ·)
      | more + 1 => units? (.unit more (16 * sum + d)) rest

/-- Is a unit the first half of a character? -/
def isFirstHalf (unit : Nat) : Bool := 0xD800 ≤ unit && unit < 0xDC00

/-- Is a unit the second half of a character? -/
def isSecondHalf (unit : Nat) : Bool := 0xDC00 ≤ unit && unit < 0xE000

/-- The characters of UTF-16 units, behind the first half of one or behind nothing. -/
def ofUnits? : Option Nat → List Nat → Option (List Char)
  | none, [] => some []
  | some _, [] => none
  | none, unit :: rest =>
    if isFirstHalf unit then ofUnits? (some unit) rest
    else if isSecondHalf unit then none
    else (ofUnits? none rest).map (Char.ofNat unit :: ·)
  | some first, unit :: rest =>
    if isSecondHalf unit then
      (ofUnits? none rest).map
        (Char.ofNat (0x10000 + 0x400 * (first - 0xD800) + (unit - 0xDC00)) :: ·)
    else none

/-- The text for what stands between quotes. -/
def unquoted? (body : List Char) : Option String :=
  ((units? .nothing body).bind (ofUnits? none)).map String.ofList

/-! ### Words -/

/-- A number: a minus or nothing, digits without a leading zero, and then perhaps a point with digits
behind it and an exponent. -/
def number? (word : List Char) : Option Datum :=
  let negative := word.head? = some '-'
  let body := if negative then word.tail else word
  let (count, value, rest) := Numeral.leadingDigits body
  if count = 0 ∨ (1 < count ∧ body.head? = some '0') then none
  else if rest = [] then some (.int (Numeral.signed negative value))
  else if rest.head? = some '.' ∧ ¬ rest.tail.head?.any Text.isAsciiDigit then none
  else (Numeral.decimal? word).map fun (negative, digits, power) =>
    .float (Binary.ofDecimal negative digits power)

/-- The words that are names. -/
def names : List (List Char × Datum) :=
  [("null".toList, .null), ("true".toList, .bool true), ("false".toList, .bool false),
    ("NaN".toList, .float .notANumber), ("Infinity".toList, .float (.infinite false)),
    ("-Infinity".toList, .float (.infinite true))]

/-- What a word stands for. -/
def word? (word : List Char) : Option Datum :=
  match names.find? (·.1 = word) with
  | some (_, v) => some v
  | none => number? word

/-! ### Tokens -/

/-- A mark of the grammar. -/
inductive Mark where
  /-- The bracket that begins a list. -/
  | opensArray
  /-- The bracket that ends it. -/
  | closesArray
  /-- The brace that begins an object. -/
  | opensObject
  /-- The brace that ends it. -/
  | closesObject
  /-- Between a name and its value. -/
  | colon
  /-- Between items or members. -/
  | comma
  deriving DecidableEq, Repr

/-- The mark that a character is. -/
def mark? (c : Char) : Option Mark :=
  if c = '[' then some .opensArray
  else if c = ']' then some .closesArray
  else if c = '\x7b' then some .opensObject
  else if c = '\x7d' then some .closesObject
  else if c = ':' then some .colon
  else if c = ',' then some .comma
  else none

/-- Space that separates tokens. -/
def isBlank (c : Char) : Bool := c = ' ' || c = '\t' || c = '\n' || c = '\r'

/-- A token. -/
inductive Token where
  /-- A mark. -/
  | mark (m : Mark)
  /-- A text. -/
  | text (s : String)
  /-- What a word stands for. -/
  | word (v : Datum)

/-- Where a reader stands among tokens. -/
inductive Place where
  /-- Between two tokens. -/
  | between
  /-- In a word. -/
  | word
  /-- Between quotes. -/
  | quoted
  /-- Between quotes, behind a backslash. -/
  | escaped
  deriving DecidableEq

/-- Cuts off a character outside quotes, `after` telling how the rest is cut from each place. -/
def cutOutside (place : Place) (c : Char) (after : Place → Option (List Char × List Token)) :
    Option (List Char × List Token) :=
  if isBlank c then (after .between).map fun (_, tokens) => ([], tokens)
  else
    match mark? c with
    | some m => (after .between).map fun (_, tokens) => ([], .mark m :: tokens)
    | none =>
      if c = '"' then
        (after .quoted).bind fun (body, tokens) =>
          (unquoted? body).map fun s => ([], .text s :: tokens)
      else if place = .word then (after .word).map fun (body, tokens) => (c :: body, tokens)
      else
        (after .word).bind fun (body, tokens) =>
          (word? (c :: body)).map fun v => ([], .word v :: tokens)

/-- Cuts a text from a place: the rest of the word or of what stands between quotes there, and the
tokens after it. -/
def cut : Place → List Char → Option (List Char × List Token)
  | .between, [] | .word, [] => some ([], [])
  | .quoted, [] | .escaped, [] => none
  | .between, c :: rest => cutOutside .between c fun place => cut place rest
  | .word, c :: rest => cutOutside .word c fun place => cut place rest
  | .quoted, c :: rest =>
    if c = '"' then (cut .between rest).map fun (_, tokens) => ([], tokens)
    else (cut (if c = '\\' then .escaped else .quoted) rest).map fun (body, tokens) =>
      (c :: body, tokens)
  | .escaped, c :: rest => (cut .quoted rest).map fun (body, tokens) => (c :: body, tokens)

/-- The tokens of a text. -/
def tokens? (s : List Char) : Option (List Token) := (cut .between s).map Prod.snd

/-! ### Lists and objects -/

/-- A list or an object that is still open. -/
inductive Frame where
  /-- A list, with its items so far. -/
  | array (items : List Datum)
  /-- An object, with its members so far and the name of the next one. -/
  | object (members : List (String × Datum)) (name : String)

/-- What a reader has seen of a datum; the innermost open list or object comes first. -/
inductive State where
  /-- A value must follow. -/
  | wanted (frames : List Frame)
  /-- A name must follow, in an object with members so far. -/
  | nameWanted (members : List (String × Datum)) (frames : List Frame)
  /-- The colon behind a name must follow. -/
  | colonWanted (members : List (String × Datum)) (name : String) (frames : List Frame)
  /-- A value has ended. -/
  | ended (v : Datum) (frames : List Frame)

/-- What a reader has seen after one token more. A list or an object may be closed at once, but not
behind a comma. -/
def step : State → Token → Option State
  | .wanted frames, .word v => some (.ended v frames)
  | .wanted frames, .text s => some (.ended (.text s) frames)
  | .wanted frames, .mark .opensArray => some (.wanted (.array [] :: frames))
  | .wanted frames, .mark .opensObject => some (.nameWanted [] frames)
  | .wanted (.array [] :: frames), .mark .closesArray => some (.ended (.array []) frames)
  | .nameWanted members frames, .text name => some (.colonWanted members name frames)
  | .nameWanted [] frames, .mark .closesObject => some (.ended (.object []) frames)
  | .colonWanted members name frames, .mark .colon => some (.wanted (.object members name :: frames))
  | .ended v (.array items :: frames), .mark .comma => some (.wanted (.array (items ++ [v]) :: frames))
  | .ended v (.array items :: frames), .mark .closesArray =>
    some (.ended (.array (items ++ [v])) frames)
  | .ended v (.object members name :: frames), .mark .comma =>
    some (.nameWanted (members ++ [(name, v)]) frames)
  | .ended v (.object members name :: frames), .mark .closesObject =>
    some (.ended (.object (members ++ [(name, v)])) frames)
  | _, _ => none

/-- What a reader has seen after some tokens more. -/
def run : State → List Token → Option State
  | s, [] => some s
  | s, t :: tokens => (step s t).bind fun s => run s tokens

/-- The datum, if nothing is open any more. -/
def State.datum? : State → Option Datum
  | .ended v [] => some v
  | _ => none

/-- Reads a text. -/
def read? (s : List Char) : Option Datum :=
  ((tokens? s).bind (run (.wanted []))).bind State.datum?

/-! ### Cutting off one token -/

/-- A character of a word. -/
structure IsWordPart (c : Char) : Prop where
  blank : isBlank c = false
  mark : mark? c = none
  quote : c ≠ '"'

instance (c : Char) : Decidable (IsWordPart c) :=
  decidable_of_iff (isBlank c = false ∧ mark? c = none ∧ c ≠ '"')
    ⟨fun ⟨blank, mark, quote⟩ => ⟨blank, mark, quote⟩,
      fun ⟨blank, mark, quote⟩ => ⟨blank, mark, quote⟩⟩

/-- A text that does not continue a word in front of it. -/
def Breaks (s : List Char) : Prop := ∀ c ∈ s.head?, isBlank c = true ∨ (mark? c).isSome = true

/-- What stands between quotes: a backslash has a character behind it, and a quote a backslash before
it. -/
inductive Body : List Char → Prop where
  /-- Nothing. -/
  | nil : Body []
  /-- A character that is neither a backslash nor a quote. -/
  | char {c : Char} {body : List Char} : c ≠ '"' → c ≠ '\\' → Body body → Body (c :: body)
  /-- A backslash with what it escapes. -/
  | escape {c : Char} {body : List Char} : Body body → Body ('\\' :: c :: body)

variable {c : Char} {rest : List Char}

theorem tokens?_blank (h : isBlank c = true) : tokens? (c :: rest) = tokens? rest := by
  rw [tokens?, cut, cutOutside, if_pos h, Option.map_map, tokens?]
  rfl

theorem tokens?_blanks {gap : List Char} (h : ∀ c ∈ gap, isBlank c = true) :
    tokens? (gap ++ rest) = tokens? rest := by
  induction gap with
  | nil => rfl
  | cons c gap ih =>
    obtain ⟨hc, hgap⟩ := List.forall_mem_cons.mp h
    rw [List.cons_append, tokens?_blank hc, ih hgap]

theorem isBlank_of_mark? {m : Mark} (h : mark? c = some m) : isBlank c = false := by
  rw [← Bool.not_eq_true]
  intro hblank
  have hc : ((c = ' ' ∨ c = '\t') ∨ c = '\n') ∨ c = '\r' := by simpa [isBlank] using hblank
  rcases hc with ((rfl | rfl) | rfl) | rfl <;> cases h

/-- A mark is a token of its own, in a word or behind it. -/
theorem cutOutside_mark {m : Mark} (h : mark? c = some m) (place : Place) :
    cutOutside place c (fun place => cut place rest) =
      (cut .between rest).map fun p => ([], .mark m :: p.2) := by
  rw [cutOutside, if_neg (Bool.eq_false_iff.mp (isBlank_of_mark? h)), h]

theorem tokens?_mark {m : Mark} (h : mark? c = some m) :
    tokens? (c :: rest) = (tokens? rest).map (.mark m :: ·) := by
  rw [tokens?, cut, cutOutside_mark h, tokens?, Option.map_map, Option.map_map]
  rfl

/-- What stands between quotes is cut off at the quote that ends it. -/
theorem Body.cut {body : List Char} (h : Body body) :
    cut .quoted (body ++ '"' :: rest) = (tokens? rest).map fun tokens => (body, tokens) := by
  induction h with
  | nil =>
    rw [List.nil_append, Json.cut, if_pos rfl, tokens?, Option.map_map]
    rfl
  | char hquote hslash _ ih =>
    rw [List.cons_append, Json.cut, if_neg hquote, if_neg hslash, ih, Option.map_map]
    rfl
  | escape _ ih =>
    rw [List.cons_append, List.cons_append, Json.cut, if_neg (by decide), if_pos rfl, Json.cut, ih,
      Option.map_map, Option.map_map]
    rfl

theorem Body.append {body other : List Char} (h : Body body) (hother : Body other) :
    Body (body ++ other) := by
  induction h with
  | nil => exact hother
  | char hquote hslash _ ih => exact .char hquote hslash ih
  | escape _ ih => exact .escape ih

/-- A text between quotes is cut off as the text that it stands for. -/
theorem tokens?_text {body : List Char} {s : String} (hbody : Body body)
    (h : unquoted? body = some s) :
    tokens? ('"' :: (body ++ '"' :: rest)) = (tokens? rest).map (.text s :: ·) := by
  have hcut : cut .between ('"' :: (body ++ '"' :: rest)) =
      (cut .quoted (body ++ '"' :: rest)).bind fun p =>
        (unquoted? p.1).map fun s => ([], .text s :: p.2) := rfl
  rw [tokens?, hcut, hbody.cut]
  cases tokens? rest with
  | none => rfl
  | some tokens => simp [h]

/-- A word ends where the text breaks. -/
theorem cut_word {word : List Char} (hword : ∀ c ∈ word, IsWordPart c) (hrest : Breaks rest) :
    cut .word (word ++ rest) = (tokens? rest).map fun tokens => (word, tokens) := by
  induction word with
  | nil =>
    rw [List.nil_append]
    cases rest with
    | nil => rfl
    | cons c rest =>
      -- a blank or a mark is treated alike in a word and behind it
      rcases hrest c rfl with hblank | hmark
      · rw [tokens?_blank hblank, cut, cutOutside, if_pos hblank, tokens?, Option.map_map]
        rfl
      · obtain ⟨m, hm⟩ := Option.isSome_iff_exists.mp hmark
        rw [tokens?_mark hm, cut, cutOutside_mark hm, tokens?, Option.map_map, Option.map_map]
        rfl
  | cons c word ih =>
    obtain ⟨hc, hwords⟩ := List.forall_mem_cons.mp hword
    rw [List.cons_append, cut, cutOutside, if_neg (Bool.eq_false_iff.mp hc.blank), hc.mark]
    dsimp only
    rw [if_neg hc.quote, if_pos rfl, ih hwords, Option.map_map]
    rfl

/-- A word is cut off as what it stands for. -/
theorem tokens?_word {word : List Char} {v : Datum} (hword : ∀ c ∈ word, IsWordPart c)
    (hne : word ≠ []) (h : word? word = some v) (hrest : Breaks rest) :
    tokens? (word ++ rest) = (tokens? rest).map (.word v :: ·) := by
  obtain ⟨c, word, rfl⟩ := List.exists_cons_of_ne_nil hne
  obtain ⟨hc, hwords⟩ := List.forall_mem_cons.mp hword
  rw [List.cons_append, tokens?, cut, cutOutside, if_neg (Bool.eq_false_iff.mp hc.blank), hc.mark]
  dsimp only
  rw [if_neg hc.quote, if_neg (by decide), cut_word hwords hrest]
  cases tokens? rest with
  | none => rfl
  | some tokens => simp [h]

/-! ### The tokens of a datum -/

/-- The tokens of a list or of an object, from those of its items or members. -/
def enclosed (opens closes : Mark) : List (List Token) → List Token
  | [] => [.mark opens, .mark closes]
  | first :: more =>
    .mark opens :: (first ++ more.flatMap (.mark .comma :: ·) ++ [.mark closes])

mutual

/-- The tokens of a datum. -/
def tokens : Datum → List Token
  | .array items => enclosed .opensArray .closesArray (itemTokens items)
  | .object members => enclosed .opensObject .closesObject (memberTokens members)
  | .text s => [.text s]
  | v => [.word v]

/-- The tokens of each of the items of a list. -/
def itemTokens : List Datum → List (List Token)
  | [] => []
  | v :: items => tokens v :: itemTokens items

/-- The tokens of each of the members of an object. -/
def memberTokens : List (String × Datum) → List (List Token)
  | [] => []
  | (name, v) :: members => (.text name :: .mark .colon :: tokens v) :: memberTokens members

end

mutual

/-- The tokens of a datum are put together to the datum. -/
theorem run_tokens (v : Datum) (frames : List Frame) (more : List Token) :
    run (.wanted frames) (tokens v ++ more) = run (.ended v frames) more := by
  match v with
  | .null | .bool _ | .int _ | .float _ | .text _ => rfl
  | .array [] => rfl
  | .array (v :: items) =>
    have hassoc : tokens (.array (v :: items)) ++ more = .mark .opensArray :: (tokens v ++
        ((itemTokens items).flatMap (.mark .comma :: ·) ++ .mark .closesArray :: more)) := by
      simp [tokens, itemTokens, enclosed]
    rw [hassoc]
    exact (run_tokens v (.array [] :: frames) _).trans (run_items items [] v frames more)
  | .object [] => rfl
  | .object ((name, v) :: members) =>
    have hassoc : tokens (.object ((name, v) :: members)) ++ more =
        .mark .opensObject :: .text name :: .mark .colon :: (tokens v ++
          ((memberTokens members).flatMap (.mark .comma :: ·) ++ .mark .closesObject :: more)) := by
      simp [tokens, memberTokens, enclosed]
    rw [hassoc]
    exact (run_tokens v (.object [] name :: frames) _).trans
      (run_members members [] name v frames more)

/-- Further items of a list. -/
theorem run_items (items done : List Datum) (v : Datum) (frames : List Frame)
    (more : List Token) :
    run (.ended v (.array done :: frames))
        ((itemTokens items).flatMap (.mark .comma :: ·) ++ .mark .closesArray :: more) =
      run (.ended (.array (done ++ v :: items)) frames) more := by
  match items with
  | [] => rfl
  | next :: items =>
    have hitems := run_items items (done ++ [v]) next frames more
    rw [List.append_assoc, List.singleton_append] at hitems
    rw [itemTokens, List.flatMap_cons, List.cons_append, List.cons_append, List.append_assoc]
    exact (run_tokens next (.array (done ++ [v]) :: frames) _).trans hitems

/-- Further members of an object. -/
theorem run_members (members done : List (String × Datum)) (name : String) (v : Datum)
    (frames : List Frame) (more : List Token) :
    run (.ended v (.object done name :: frames))
        ((memberTokens members).flatMap (.mark .comma :: ·) ++ .mark .closesObject :: more) =
      run (.ended (.object (done ++ (name, v) :: members)) frames) more := by
  match members with
  | [] => rfl
  | (other, next) :: members =>
    have hmembers := run_members members (done ++ [(name, v)]) other next frames more
    rw [List.append_assoc, List.singleton_append] at hmembers
    have hassoc : (memberTokens ((other, next) :: members)).flatMap (.mark .comma :: ·) ++
        .mark .closesObject :: more = .mark .comma :: .text other :: .mark .colon :: (tokens next ++
          ((memberTokens members).flatMap (.mark .comma :: ·) ++ .mark .closesObject :: more)) := by
      simp [memberTokens]
    rw [hassoc]
    exact (run_tokens next (.object (done ++ [(name, v)]) other :: frames) _).trans hmembers

end

/-- A text with the tokens of a datum is read as the datum. -/
theorem read?_of_tokens? {s : List Char} {v : Datum} (h : tokens? s = some (tokens v)) :
    read? s = some v := by
  have hrun := run_tokens v [] []
  rw [List.append_nil] at hrun
  rw [read?, h, Option.bind_some, hrun]
  rfl

example : read? " [1, \x7b\"a\" :null,\"a\":\t[]\x7d, \"\\ud83d\\ude00\\/\"] ".toList =
    some (.array [.int 1, .object [("a", .null), ("a", .array [])], .text "😀/"]) := by rfl
example : read? "[1,]".toList = none ∧ read? "01".toList = none ∧ read? "1.".toList = none ∧
    read? "\"\\ud83d\"".toList = none := ⟨rfl, rfl, rfl, rfl⟩

end ProcedureCall.Report.Json
