import ProcedureCall.CallText.Target

/-!
# The grammar of invoked names

What a name in a call text looks like, told without the matcher that searches for it. A segment is
an identifier or a quoted run. A name is a first segment and further ones, each linked to those
before it by the separator with white space around it; a `Spelling` holds the segments and the
white space, so that it tells both the text of the name and its segments. A name is invoked
(`Invokes`) if it stands free and an opening parenthesis follows it.

The separator and the quote are any texts here. What depends on them being characters that stand
out (`IsDelimiter`) is left to the modules that need it.
-/

namespace ProcedureCall.CallText

open Text

/-! ### Classes of characters -/

/-- Nothing but white space. -/
def Blank (s : List Char) : Prop := ∀ c ∈ s, isBlank c = true

/-- A character that stands out in a call text: neither white space, a parenthesis nor an
identifier character. -/
structure IsDelimiter (c : Char) : Prop where
  /-- It is no white space. -/
  isBlank : isBlank c = false
  /-- It opens no parenthesis. -/
  ne_opening : c ≠ '('
  /-- It closes no parenthesis. -/
  ne_closing : c ≠ ')'
  /-- It stands in no identifier. -/
  isNameChar : isNameChar c = false

instance (c : Char) : Decidable (IsDelimiter c) :=
  decidable_of_iff (isBlank c = false ∧ c ≠ '(' ∧ c ≠ ')' ∧ isNameChar c = false)
    ⟨fun ⟨h₁, h₂, h₃, h₄⟩ => ⟨h₁, h₂, h₃, h₄⟩, fun h => ⟨h.1, h.2, h.3, h.4⟩⟩

example : IsDelimiter '.' ∧ IsDelimiter '"' ∧ ¬ IsDelimiter '#' := by decide +kernel

theorem isBlank_opening : isBlank '(' = false := by decide

theorem isNameChar_opening : isNameChar '(' = false := by decide +kernel

/-- No white space stands in an identifier. -/
theorem isBlank_of_isNameChar {c : Char} (h : isNameChar c = true) : isBlank c = false := by
  have hcodes : ∀ n ∈ blankCodes, inRanges wordRanges n = false ∧ n ≠ 36 ∧ n ≠ 35 := by
    decide +kernel
  refine Bool.eq_false_iff.mpr fun hblank => ?_
  rw [isBlank, List.contains_iff_mem] at hblank
  obtain ⟨hword, hdollar, hhash⟩ := hcodes _ hblank
  rw [isNameChar, isWord, hword, Bool.false_or, Bool.or_eq_true, beq_iff_eq, beq_iff_eq] at h
  rcases h with rfl | rfl
  · exact hdollar rfl
  · exact hhash rfl

theorem isNameChar_of_startsName {c : Char} (h : startsName c = true) : isNameChar c = true := by
  rw [startsName, Bool.and_eq_true] at h
  simp [isNameChar, h.1]

/-! ### Segments -/

/-- A word character that is no decimal digit, and identifier characters after it. -/
inductive IsIdentifier : List Char → Prop where
  /-- The first character and the others. -/
  | intro {c : Char} {cs : List Char} : startsName c = true → (∀ d ∈ cs, isNameChar d = true) →
      IsIdentifier (c :: cs)

instance : DecidablePred IsIdentifier
  | [] => isFalse nofun
  | c :: cs => decidable_of_iff ((startsName c && cs.all isNameChar) = true) <| by
    rw [Bool.and_eq_true, List.all_eq_true]
    exact ⟨fun h => .intro h.1 h.2, fun h => by cases h; exact ⟨‹_›, ‹_›⟩⟩

theorem IsIdentifier.ne_nil {s : List Char} (h : IsIdentifier s) : s ≠ [] := by
  cases h
  exact List.cons_ne_nil _ _

theorem IsIdentifier.isNameChar {s : List Char} (h : IsIdentifier s) :
    ∀ c ∈ s, isNameChar c = true := by
  cases h with
  | intro hc hcs => exact List.forall_mem_cons.mpr ⟨isNameChar_of_startsName hc, hcs⟩

/-- What may stand between quotes: a quote in it is written twice. -/
inductive QuotedInner (quote : List Char) : List Char → Prop where
  /-- Nothing more. -/
  | nil : QuotedInner quote []
  /-- A character that is in no quote. -/
  | other {c : Char} {inner : List Char} : c ∉ quote → QuotedInner quote inner →
      QuotedInner quote (c :: inner)
  /-- A doubled quote. -/
  | doubled {inner : List Char} : QuotedInner quote inner →
      QuotedInner quote (quote ++ (quote ++ inner))

/-- A run of at least one character between quotes. -/
inductive IsQuoted (quote : List Char) : List Char → Prop where
  /-- The quotes and what stands between them. -/
  | intro {inner : List Char} : quote ≠ [] → inner ≠ [] → QuotedInner quote inner →
      IsQuoted quote (quote ++ (inner ++ quote))

/-- A segment of a name. -/
def IsSegment (quote s : List Char) : Prop := IsQuoted quote s ∨ IsIdentifier s

theorem IsSegment.ne_nil {quote s : List Char} (h : IsSegment quote s) : s ≠ [] := by
  rcases h with h | h
  · cases h with
    | intro hquote _ _ => simp [hquote]
  · exact h.ne_nil

/-! ### Names -/

/-- A further segment of a name, and the white space on either side of the separator before it. -/
@[ext]
structure Link (quote : List Char) where
  /-- The white space before the separator. -/
  before : List Char
  /-- The white space after the separator. -/
  after : List Char
  /-- The segment. -/
  segment : List Char
  /-- There is only white space before the separator. -/
  blank_before : Blank before
  /-- There is only white space after the separator. -/
  blank_after : Blank after
  /-- The segment is one. -/
  isSegment : IsSegment quote segment

/-- A link as it is written. -/
def Link.text {quote : List Char} (separator : List Char) (l : Link quote) : List Char :=
  l.before ++ (separator ++ (l.after ++ l.segment))

/-- Links as they are written one after the other. -/
def linked {quote : List Char} (separator : List Char) (links : List (Link quote)) : List Char :=
  links.flatMap (Link.text separator)

@[simp] theorem linked_nil {quote : List Char} (separator : List Char) :
    linked separator ([] : List (Link quote)) = [] := rfl

@[simp] theorem linked_cons {quote : List Char} (separator : List Char) (l : Link quote)
    (links : List (Link quote)) :
    linked separator (l :: links) = l.text separator ++ linked separator links := rfl

/-- One way to write a name. -/
@[ext]
structure Spelling (quote : List Char) where
  /-- The first segment. -/
  first : List Char
  /-- The further ones. -/
  links : List (Link quote)
  /-- The first segment is one. -/
  isSegment : IsSegment quote first

namespace Spelling

variable {quote : List Char}

/-- The name as it is written. -/
def text (separator : List Char) (n : Spelling quote) : List Char :=
  n.first ++ linked separator n.links

/-- The segments of the name. -/
def segments (n : Spelling quote) : List (List Char) := n.first :: n.links.map Link.segment

theorem isSegment_of_mem {n : Spelling quote} {s : List Char} (h : s ∈ n.segments) :
    IsSegment quote s := by
  rcases List.mem_cons.mp h with rfl | h
  · exact n.isSegment
  · obtain ⟨l, -, rfl⟩ := List.mem_map.mp h
    exact l.isSegment

/-- What stands in a name stands in a segment of it or between two of them. -/
theorem mem_of_mem_text {separator : List Char} {n : Spelling quote} {c : Char}
    (h : c ∈ n.text separator) :
    (∃ s ∈ n.segments, c ∈ s) ∨ c ∈ separator ∨ isBlank c = true := by
  rcases List.mem_append.mp h with h | h
  · exact Or.inl ⟨n.first, List.mem_cons_self, h⟩
  · obtain ⟨l, hl, h⟩ := List.mem_flatMap.mp h
    simp only [Link.text, List.mem_append] at h
    rcases h with h | h | h | h
    · exact Or.inr (Or.inr (l.blank_before c h))
    · exact Or.inr (Or.inl h)
    · exact Or.inr (Or.inr (l.blank_after c h))
    · exact Or.inl ⟨l.segment, List.mem_cons_of_mem _ (List.mem_map_of_mem hl), h⟩

theorem text_ne_nil (separator : List Char) (n : Spelling quote) : n.text separator ≠ [] := by
  simp [text, n.isSegment.ne_nil]

end Spelling

/-- Segments with only separators between them are a way to write a name. -/
theorem exists_spelling (separator : List Char) {quote : List Char} {segments : List (List Char)}
    (hne : segments ≠ []) (h : ∀ s ∈ segments, IsSegment quote s) :
    ∃ n : Spelling quote, n.text separator = separator.intercalate segments ∧
      n.segments = segments := by
  induction segments with
  | nil => exact absurd rfl hne
  | cons s segments ih =>
    obtain ⟨hs, h⟩ := List.forall_mem_cons.mp h
    cases segments with
    | nil => exact ⟨⟨s, [], hs⟩, by simp [Spelling.text], rfl⟩
    | cons t segments =>
      obtain ⟨n, htext, hsegments⟩ := ih (List.cons_ne_nil _ _) h
      refine ⟨⟨s, ⟨[], [], n.first, List.forall_mem_nil _, List.forall_mem_nil _, n.isSegment⟩ ::
        n.links, hs⟩, ?_, ?_⟩
      · rw [List.intercalate_cons_cons, ← htext]
        simp [Spelling.text, Link.text]
      · rw [← hsegments]
        rfl

/-! ### Invocations -/

/-- An opening parenthesis follows, after white space at most. -/
inductive Opens : List Char → Prop where
  /-- The white space, the parenthesis and the rest. -/
  | intro {blanks after : List Char} : Blank blanks → Opens (blanks ++ '(' :: after)

/-- A name may begin after this text: no identifier character and no quote ends it. -/
def StandsFree (quote before : List Char) : Prop :=
  ∀ c ∈ before.getLast?, isNameChar c = false ∧ c ∉ quote

/-- In the text, a name is invoked between `before` and `after`. -/
structure Invokes (separator quote text before name after : List Char) : Prop where
  /-- The text is what stands before the name, the name and what stands after it. -/
  text_eq : text = before ++ (name ++ after)
  /-- The name stands free. -/
  free : StandsFree quote before
  /-- The name can be spelled. -/
  spelled : ∃ n : Spelling quote, n.text separator = name
  /-- An opening parenthesis follows it. -/
  opens : Opens after

end ProcedureCall.CallText
