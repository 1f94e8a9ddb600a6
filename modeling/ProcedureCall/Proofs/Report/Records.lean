import ProcedureCall.Report.Csv

/-!
# Comma-separated records

The grammar of RFC 4180, with a line feed behind each record: a field stands as it is, if it holds
no comma, quote or line end, or between quotes, with each of its quotes doubled. `Document` says
which records a text stands for. The grammar leaves no choice: `read?` goes through a text once,
character by character, and finds whatever records the text stands for (`Document.read?_eq`), so no
text stands for two lists of records (`Document.unique`).
-/

namespace ProcedureCall.Report.Csv

/-! ### The grammar -/

/-- The text between quotes of a field, and what it stands for. -/
inductive Quoted : List Char → List Char → Prop where
  /-- Nothing. -/
  | nil : Quoted [] []
  /-- A character that is no quote stands for itself. -/
  | char {c : Char} {text field : List Char} : c ≠ '"' → Quoted text field →
      Quoted (c :: text) (c :: field)
  /-- Two quotes stand for one. -/
  | quote {text field : List Char} : Quoted text field →
      Quoted ('"' :: '"' :: text) ('"' :: field)

/-- The text of a field, and what it stands for. -/
inductive Field : List Char → List Char → Prop where
  /-- A field without commas, quotes and line ends stands as it is. -/
  | plain {field : List Char} :
      (∀ c ∈ field, c ≠ ',' ∧ c ≠ '"' ∧ c ≠ '\r' ∧ c ≠ '\n') → Field field field
  /-- A field may stand between quotes. -/
  | quoted {text field : List Char} : Quoted text field → Field ('"' :: (text ++ ['"'])) field

/-- The text of a record, and its fields. -/
inductive Record : List Char → List (List Char) → Prop where
  /-- The last field. -/
  | last {text field : List Char} : Field text field → Record text [field]
  /-- A field with others after it. -/
  | cons {text field rest : List Char} {fields : List (List Char)} : Field text field →
      Record rest fields → Record (text ++ ',' :: rest) (field :: fields)

/-- A text, and the records that it stands for. -/
inductive Document : List Char → List (List (List Char)) → Prop where
  /-- No record. -/
  | nil : Document [] []
  /-- A record, a line feed and other records. -/
  | cons {text rest : List Char} {fields : List (List Char)} {records : List (List (List Char))} :
      Record text fields → Document rest records → Document (text ++ '\n' :: rest) (fields :: records)

/-! ### Reading from left to right -/

/-- Where a reader stands in a record. -/
inductive Place where
  /-- In front of a field. -/
  | start
  /-- In a field without quotes. -/
  | plain
  /-- Between the quotes of a field. -/
  | quoted
  /-- Behind a quote that ends the field, unless another one follows. -/
  | closed
  deriving DecidableEq

/-- What is left to read from a place in a record. -/
structure Remainder where
  /-- The rest of the field. -/
  field : List Char
  /-- The other fields of the record. -/
  fields : List (List Char)
  /-- The records after it. -/
  records : List (List (List Char))

/-- The remainder with a text in front of it. -/
def Remainder.after (text : List Char) (r : Remainder) : Remainder :=
  { r with field := text ++ r.field }

/-- The records that begin at a text, `rest` being what is read from there in front of a field. -/
def records? (text : List Char) (rest : Option Remainder) : Option (List (List (List Char))) :=
  if text.isEmpty then some [] else rest.map fun r => (r.field :: r.fields) :: r.records

/-- Reads a text from a place in a record. -/
def readFrom : Place → List Char → Option Remainder
  | _, [] => none
  | .quoted, c :: rest =>
    if c = '"' then readFrom .closed rest else (readFrom .quoted rest).map (.after [c])
  | place, c :: rest =>
    if c = '"' then
      match place with
      | .start => readFrom .quoted rest
      | .closed => (readFrom .quoted rest).map (.after ['"'])
      | _ => none
    else if c = ',' then (readFrom .start rest).map fun r => ⟨[], r.field :: r.fields, r.records⟩
    else if c = '\n' then (records? rest (readFrom .start rest)).map fun records => ⟨[], [], records⟩
    else if c = '\r' ∨ place = .closed then none
    else (readFrom .plain rest).map (.after [c])

/-- Reads a text as records. -/
def read? (text : List Char) : Option (List (List (List Char))) :=
  records? text (readFrom .start text)

/-! ### What is written is read -/

@[simp] theorem after_nil : Remainder.after [] = id := rfl

theorem readFrom_char {place : Place} (hplace : place = .start ∨ place = .plain) {c : Char}
    (hc : c ≠ ',' ∧ c ≠ '"' ∧ c ≠ '\r' ∧ c ≠ '\n') (rest : List Char) :
    readFrom place (c :: rest) = (readFrom .plain rest).map (.after [c]) := by
  obtain ⟨hcomma, hquote, hreturn, hfeed⟩ := hc
  rcases hplace with rfl | rfl <;> simp [readFrom, hcomma, hquote, hreturn, hfeed]

/-- A comma ends the field wherever the reader stands outside quotes. -/
theorem readFrom_comma {place : Place} (hplace : place ≠ .quoted) (rest : List Char) :
    readFrom place (',' :: rest) =
      (readFrom .start rest).map fun r => ⟨[], r.field :: r.fields, r.records⟩ := by
  cases place <;> first | rfl | exact absurd rfl hplace

/-- A line feed ends the record wherever the reader stands outside quotes. -/
theorem readFrom_feed {place : Place} (hplace : place ≠ .quoted) (rest : List Char) :
    readFrom place ('\n' :: rest) =
      (records? rest (readFrom .start rest)).map fun records => ⟨[], [], records⟩ := by
  cases place <;> first | rfl | exact absurd rfl hplace

/-- What stands between quotes is read up to the quote that ends it. -/
theorem Quoted.readFrom_append {text field : List Char} (h : Quoted text field)
    (rest : List Char) :
    readFrom .quoted (text ++ '"' :: rest) = (readFrom .closed rest).map (.after field) := by
  induction h with
  | nil => simp [readFrom]
  | char hc _ ih =>
    rw [List.cons_append, readFrom, if_neg hc, ih, Option.map_map]
    rfl
  | quote _ ih =>
    rw [List.cons_append, List.cons_append, readFrom, if_pos rfl, readFrom.eq_def]
    dsimp only
    rw [if_pos rfl, ih, Option.map_map]
    rfl

/-- Characters that need no quotes are read one by one. -/
theorem readFrom_plain {field : List Char}
    (h : ∀ c ∈ field, c ≠ ',' ∧ c ≠ '"' ∧ c ≠ '\r' ∧ c ≠ '\n') (rest : List Char) :
    readFrom .plain (field ++ rest) = (readFrom .plain rest).map (.after field) := by
  induction field with
  | nil => simp
  | cons c field ih =>
    obtain ⟨hc, hfield⟩ := List.forall_mem_cons.mp h
    rw [List.cons_append, readFrom_char (Or.inr rfl) hc, ih hfield, Option.map_map]
    rfl

/-- A field is read up to what ends it; there it does not matter any more how the field began. -/
theorem Field.readFrom_append {text field : List Char} (h : Field text field) {rest : List Char}
    (hends : ∀ place, place ≠ .quoted → readFrom place rest = readFrom .plain rest) :
    readFrom .start (text ++ rest) = (readFrom .plain rest).map (.after field) := by
  cases h with
  | plain hplain =>
    cases text with
    | nil => simpa using hends .start (by decide)
    | cons c text =>
      obtain ⟨hc, htext⟩ := List.forall_mem_cons.mp hplain
      rw [List.cons_append, readFrom_char (Or.inl rfl) hc, readFrom_plain htext, Option.map_map]
      rfl
  | @quoted text field hquoted =>
    have hread := hquoted.readFrom_append rest
    rw [hends .closed (by decide)] at hread
    rw [← hread]
    simp [readFrom]

/-- A record is read up to its line feed. -/
theorem Record.readFrom_append {text : List Char} {fields : List (List Char)}
    (h : Record text fields) (rest : List Char) :
    (readFrom .start (text ++ '\n' :: rest)).map (fun r => (r.field :: r.fields, r.records)) =
      (records? rest (readFrom .start rest)).map fun records => (fields, records) := by
  induction h with
  | last hfield =>
    rw [hfield.readFrom_append fun place hplace => by
      rw [readFrom_feed hplace, readFrom_feed (by decide)]]
    rw [readFrom_feed (by decide), Option.map_map, Option.map_map]
    simp [Function.comp_def, Remainder.after]
  | @cons text field more fields hfield _ ih =>
    rw [List.append_assoc, List.cons_append, hfield.readFrom_append fun place hplace => by
      rw [readFrom_comma hplace, readFrom_comma (by decide)]]
    rw [readFrom_comma (by decide), Option.map_map, Option.map_map]
    have hmap := congrArg (Option.map fun p => (field :: p.1, p.2)) ih
    rw [Option.map_map, Option.map_map] at hmap
    simpa [Function.comp_def, Remainder.after] using hmap

/-- The records that a text stands for are those that are read. -/
theorem Document.read?_eq {text : List Char} {records : List (List (List Char))}
    (h : Document text records) : read? text = some records := by
  induction h with
  | nil => rfl
  | @cons text rest fields records hrecord _ ih =>
    have hread := hrecord.readFrom_append rest
    have hrest : records? rest (readFrom .start rest) = some records := ih
    rw [hrest] at hread
    obtain ⟨r, hr, hfields⟩ := Option.map_eq_some_iff.mp hread
    obtain ⟨rfl, rfl⟩ := Prod.mk.inj hfields
    simp [read?, records?, hr]

/-- A text stands for one list of records at most. -/
theorem Document.unique {text : List Char} {records others : List (List (List Char))}
    (h : Document text records) (hothers : Document text others) : others = records :=
  Option.some.inj (hothers.read?_eq.symm.trans h.read?_eq)

example : read? "a,\"b\"\"\n\"\n\n\"\",c\n".toList =
    some [["a".toList, "b\"\n".toList], [[]], [[], "c".toList]] := by decide +kernel
example : read? "a\"b\n".toList = none ∧ read? "\"a\"b\n".toList = none ∧ read? "a".toList = none := by
  decide +kernel

end ProcedureCall.Report.Csv
