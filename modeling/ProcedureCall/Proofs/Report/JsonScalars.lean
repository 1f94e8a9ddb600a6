import ProcedureCall.Proofs.Number.NumberText
import ProcedureCall.Proofs.Report.JsonReader
import ProcedureCall.Report.Json

/-!
# Scalars of a report are read as they were written

A text is written in ASCII: each character is one that can be printed, a short escape, or the
escapes of its UTF-16 units, and these are read back as the character (`unquoted?_escaped`). A number
is written as a word. Behind an integer nothing tells of a fraction, and behind a binary number
there is a point, an exponent or a letter, so the two stay apart (`word?_text`, `word?_numberText`).

## What is proved

* `tokens?_scalarText` — the text of a scalar is cut off as one token, which stands for the scalar.
* `isPrintable_scalarText` — the text of a scalar consists of printable ASCII characters.
-/

namespace ProcedureCall.Report.Json

/-- What the text of a scalar stands for. -/
def Scalar.datum : Scalar → Datum
  | .null => .null
  | .bool b => .bool b
  | .int n => .int n
  | .float x => .float x
  | .text s => .text (String.ofList s)

/-- A printable character of ASCII. -/
def IsPrintable (c : Char) : Prop := 32 ≤ c.toNat ∧ c.toNat < 127

instance (c : Char) : Decidable (IsPrintable c) := inferInstanceAs (Decidable (_ ∧ _))

/-- A text that is given is gone through character by character. A decision on all characters that
are in it might go through all characters that there are. -/
theorem isPrintable_of_all {text : List Char} (h : text.all (IsPrintable ·) = true) :
    ∀ c ∈ text, IsPrintable c := by
  simpa using h

/-! ### Texts -/

theorem hexValue?_hexDigit : ∀ d < 16, Text.hexValue? (Text.hexDigit d) = some d := by decide

theorem isPrintable_hexDigit : ∀ d < 16,
    IsPrintable (Text.hexDigit d) ∧ Text.hexDigit d ≠ '"' ∧ Text.hexDigit d ≠ '\\' := by decide

/-- No character stands between the halves of characters, and none above the last one. -/
theorem toNat_cases (c : Char) : c.toNat < 0xD800 ∨ 0xE000 ≤ c.toNat ∧ c.toNat < 0x110000 := by
  have hvalid : c.toNat < 0xD800 ∨ 0xDFFF < c.toNat ∧ c.toNat < 0x110000 := c.valid
  omega

/-- The four digits of a unit. -/
theorem unitEscape_eq (unit : ℕ) :
    unitEscape unit = ['\\', 'u', Text.hexDigit (unit / 16 / 16 / 16 % 16),
      Text.hexDigit (unit / 16 / 16 % 16), Text.hexDigit (unit / 16 % 16),
      Text.hexDigit (unit % 16)] := rfl

/-- A unit that is written by its number is read. -/
theorem units?_unitEscape {unit : ℕ} (h : unit < 0x10000) (rest : List Char) :
    units? .nothing (unitEscape unit ++ rest) = (units? .nothing rest).map (unit :: ·) := by
  have hsum : 16 * (16 * (16 * (16 * 0 + unit / 16 / 16 / 16 % 16) + unit / 16 / 16 % 16) +
      unit / 16 % 16) + unit % 16 = unit := by omega
  have hdigit : ∀ n : ℕ, Text.hexValue? (Text.hexDigit (n % 16)) = some (n % 16) := fun n =>
    hexValue?_hexDigit _ (Nat.mod_lt n (by decide))
  rw [unitEscape_eq]
  simp only [List.cons_append, List.nil_append, units?, hdigit, Option.bind_some, if_true,
    Char.reduceEq, if_false, hsum]

/-- An escaped character is read as its UTF-16 units. -/
theorem units?_escaped (c : Char) (rest : List Char) :
    units? .nothing (escaped c ++ rest) = (units? .nothing rest).map (unitsOf c ++ ·) := by
  unfold escaped
  split_ifs with h₁ h₂ h₃ h₄ h₅ h₆ h₇ h₈
  · rcases h₁ with rfl | rfl <;> rfl
  · subst h₂; rfl
  · subst h₃; rfl
  · subst h₄; rfl
  · subst h₅; rfl
  · subst h₆; rfl
  · have hslash : c ≠ '\\' := fun h => h₁ (.inr h)
    simp only [List.singleton_append, units?, hslash, if_false, Nat.not_lt.mpr h₇.1]
  · rw [units?_unitEscape h₈, unitsOf, if_pos h₈]
    rfl
  · have hmax := toNat_cases c
    rw [List.append_assoc, units?_unitEscape (by omega), units?_unitEscape (by omega), unitsOf,
      if_neg h₈, Option.map_map]
    rfl

/-- A character is put together from its units. -/
theorem ofUnits?_unitsOf (c : Char) (rest : List ℕ) :
    ofUnits? none (unitsOf c ++ rest) = (ofUnits? none rest).map (c :: ·) := by
  have hmax := toNat_cases c
  unfold unitsOf
  split_ifs with h
  · have hfirst : isFirstHalf c.toNat = false := by
      simp only [isFirstHalf, Bool.and_eq_false_iff, decide_eq_false_iff_not]
      omega
    have hsecond : isSecondHalf c.toNat = false := by
      simp only [isSecondHalf, Bool.and_eq_false_iff, decide_eq_false_iff_not]
      omega
    simp only [List.singleton_append, ofUnits?, hfirst, hsecond, Bool.false_eq_true, if_false,
      Char.ofNat_toNat]
  · have hfirst : isFirstHalf (0xD800 + (c.toNat - 0x10000) / 0x400) = true := by
      simp only [isFirstHalf, Bool.and_eq_true, decide_eq_true_eq]
      omega
    have hsecond : isSecondHalf (0xDC00 + (c.toNat - 0x10000) % 0x400) = true := by
      simp only [isSecondHalf, Bool.and_eq_true, decide_eq_true_eq]
      omega
    have hsum : 0x10000 + 0x400 * (0xD800 + (c.toNat - 0x10000) / 0x400 - 0xD800) +
        (0xDC00 + (c.toNat - 0x10000) % 0x400 - 0xDC00) = c.toNat := by omega
    simp only [List.cons_append, List.nil_append, ofUnits?, hfirst, hsecond, if_true, hsum,
      Char.ofNat_toNat]

/-- What stands between the quotes of a written text stands for the text. -/
theorem unquoted?_escaped (s : List Char) :
    unquoted? (s.flatMap escaped) = some (String.ofList s) := by
  have hunits : units? .nothing (s.flatMap escaped) = some (s.flatMap unitsOf) := by
    induction s with
    | nil => rfl
    | cons c s ih => rw [List.flatMap_cons, units?_escaped, ih, List.flatMap_cons, Option.map_some]
  have hchars : ofUnits? none (s.flatMap unitsOf) = some s := by
    clear hunits
    induction s with
    | nil => rfl
    | cons c s ih => rw [List.flatMap_cons, ofUnits?_unitsOf, ih, Option.map_some]
  rw [unquoted?, hunits, Option.bind_some, hchars, Option.map_some]

theorem body_unitEscape (unit : ℕ) : Body (unitEscape unit) := by
  have hchar : ∀ (n : ℕ) {body : List Char}, Body body → Body (Text.hexDigit (n % 16) :: body) := by
    intro n body hbody
    obtain ⟨-, hquote, hslash⟩ := isPrintable_hexDigit _ (Nat.mod_lt n (by decide))
    exact .char hquote hslash hbody
  rw [unitEscape_eq]
  exact .escape (hchar _ (hchar _ (hchar _ (hchar _ .nil))))

theorem isPrintable_unitEscape (unit : ℕ) : ∀ c ∈ unitEscape unit, IsPrintable c := by
  have hdigit : ∀ n : ℕ, IsPrintable (Text.hexDigit (n % 16)) := fun n =>
    (isPrintable_hexDigit _ (Nat.mod_lt n (by decide))).1
  rw [unitEscape_eq]
  simp only [List.forall_mem_cons, hdigit, true_and]
  exact ⟨by decide, by decide, by simp⟩

/-- An escaped character may stand between quotes. -/
theorem body_escaped (c : Char) : Body (escaped c) := by
  unfold escaped
  split_ifs with h₁
  · exact .escape .nil
  · exact .escape .nil
  · exact .escape .nil
  · exact .escape .nil
  · exact .escape .nil
  · exact .escape .nil
  · exact .char (fun h => h₁ (.inl h)) (fun h => h₁ (.inr h)) .nil
  · exact body_unitEscape _
  · exact (body_unitEscape _).append (body_unitEscape _)

theorem isPrintable_escaped (c : Char) : ∀ d ∈ escaped c, IsPrintable d := by
  unfold escaped
  split_ifs with h₁ h₂ h₃ h₄ h₅ h₆ h₇
  · rcases h₁ with rfl | rfl <;> exact isPrintable_of_all rfl
  · exact isPrintable_of_all rfl
  · exact isPrintable_of_all rfl
  · exact isPrintable_of_all rfl
  · exact isPrintable_of_all rfl
  · exact isPrintable_of_all rfl
  · simpa [IsPrintable] using h₇
  · exact isPrintable_unitEscape _
  · intro d hd
    rcases List.mem_append.mp hd with hd | hd
    · exact isPrintable_unitEscape _ d hd
    · exact isPrintable_unitEscape _ d hd

/-- A written text is cut off as the text. -/
theorem tokens?_quoted (s rest : List Char) :
    tokens? (quoted s ++ rest) = (tokens? rest).map (.text (String.ofList s) :: ·) := by
  have hbody : Body (s.flatMap escaped) := by
    induction s with
    | nil => exact .nil
    | cons c s ih => exact (body_escaped c).append ih
  have htokens : tokens? ('"' :: (s.flatMap escaped ++ '"' :: rest)) = _ :=
    tokens?_text hbody (unquoted?_escaped s)
  simpa [quoted] using htokens

theorem isPrintable_quoted (s : List Char) : ∀ c ∈ quoted s, IsPrintable c := by
  intro c hc
  have hcases : c = '"' ∨ ∃ d ∈ s, c ∈ escaped d := by simpa [quoted, or_comm] using hc
  rcases hcases with rfl | ⟨d, -, hd⟩
  · decide
  · exact isPrintable_escaped d c hd

/-! ### Numbers -/

theorem isWordPart_of_isDigit {c : Char} (h : c.isDigit = true) : IsWordPart c := by
  have hne : ∀ d : Char, d.isDigit = false → c ≠ d := by
    rintro d hd rfl
    rw [h] at hd
    cases hd
  exact ⟨by simp [isBlank, hne], by simp [mark?, hne], hne _ rfl⟩

theorem isWordPart_of_isPart {c : Char} (h : Numeral.IsPart c) : IsWordPart c := by
  rcases h with h | rfl | rfl | rfl | rfl | rfl
  · exact isWordPart_of_isDigit h
  all_goals exact ⟨rfl, rfl, by decide⟩

theorem isPrintable_of_isPart {c : Char} (h : Numeral.IsPart c) : IsPrintable c := by
  rcases h with h | rfl | rfl | rfl | rfl | rfl
  · have := Numeral.toNat_of_isDigit h
    exact ⟨by omega, by omega⟩
  all_goals decide

/-- A number does not begin like a name. -/
theorem word?_number {negative : Bool} {d : Char} {rest : List Char} (hd : d.isDigit = true) :
    word? (Numeral.minus negative ++ d :: rest) = number? (Numeral.minus negative ++ d :: rest) := by
  have hne : ∀ c : Char, c.isDigit = false → d ≠ c := by
    rintro c hc rfl
    rw [hd] at hc
    cases hc
  have hnone : names.find? (·.1 = Numeral.minus negative ++ d :: rest) = none := by
    cases negative <;> simp [names, Numeral.minus, (hne _ _).symm]
  rw [word?, hnone]

/-- Behind a sign a number is read from its first digit on. -/
theorem number?_minus (negative : Bool) {body : List Char} (hbody : ∀ c ∈ body.head?, c.isDigit = true)
    {count value : ℕ} {rest : List Char}
    (hdigits : Numeral.leadingDigits body = (count, value, rest)) :
    number? (Numeral.minus negative ++ body) =
      if count = 0 ∨ (1 < count ∧ body.head? = some '0') then none
      else if rest = [] then some (.int (Numeral.signed negative value))
      else if rest.head? = some '.' ∧ ¬ rest.tail.head?.any Text.isAsciiDigit then none
      else (Numeral.decimal? (Numeral.minus negative ++ body)).map fun p =>
        .float (Binary.ofDecimal p.1 p.2.1 p.2.2) := by
  have hsign : ((Numeral.minus negative ++ body).head? = some '-') = (negative = true) := by
    refine propext ?_
    cases negative with
    | true => simp [Numeral.minus]
    | false =>
      refine ⟨fun h => ?_, fun h => by cases h⟩
      have := hbody '-' h
      cases this
  have hrest : (if negative = true then (Numeral.minus negative ++ body).tail
      else Numeral.minus negative ++ body) = body := by
    cases negative <;> rfl
  unfold number?
  simp only [hsign, Bool.decide_eq_true, hrest, hdigits]

/-- The text of an integer is a word that stands for the integer. -/
theorem word?_text (n : ℤ) : word? (Numeral.text n) = some (.int n) := by
  have htext : Numeral.text n = Numeral.minus (decide (n < 0)) ++ Nat.toDigits 10 n.natAbs := by
    simp [Numeral.text, Numeral.minus]
  have hdigits : ∀ c ∈ Nat.toDigits 10 n.natAbs, c.isDigit = true := fun c hc =>
    Numeral.isDigit_of_mem_toDigits hc
  obtain ⟨d, rest, hd⟩ := List.exists_cons_of_ne_nil (Nat.toDigits_ne_nil (n := n.natAbs) (b := 10))
  have hlead := Numeral.leadingDigits_of_isDigit hdigits
  rw [Nat.ofDigitChars_ten_toDigits] at hlead
  -- a zero stands alone
  have hzero : ¬ ((Nat.toDigits 10 n.natAbs).length = 0 ∨
      1 < (Nat.toDigits 10 n.natAbs).length ∧ (Nat.toDigits 10 n.natAbs).head? = some '0') := by
    rintro (hlen | ⟨hlen, hhead⟩)
    · exact Nat.length_toDigits_pos.ne' hlen
    · rcases Nat.eq_zero_or_pos n.natAbs with h | h
      · rw [h] at hlen
        exact absurd hlen (by decide)
      · exact Numeral.head?_toDigits_ne h hhead
  have hword : word? (Numeral.text n) = number? (Numeral.text n) := by
    rw [htext, hd]
    exact word?_number (hdigits d (hd ▸ List.mem_cons_self))
  rw [hword, htext, number?_minus _ (fun c hc => hdigits c (List.mem_of_mem_head? hc)) hlead,
    if_neg hzero, if_pos rfl, Numeral.signed_natAbs]

/-- A numeral with a point or an exponent is a word that stands for what is read from it. -/
theorem word?_scientific (s : Numeral.Scientific) (negative : Bool) :
    word? (Numeral.minus negative ++ s.text) =
      some (.float (Binary.ofDecimal negative s.digits s.lastPower)) := by
  obtain ⟨d, whole, hd⟩ := List.exists_cons_of_ne_nil s.whole_ne_nil
  have hdigit : d.isDigit = true := s.isDigit_whole d (hd ▸ List.mem_cons_self)
  have hword : word? (Numeral.minus negative ++ s.text) =
      number? (Numeral.minus negative ++ s.text) := by
    rw [Numeral.Scientific.text, hd, List.cons_append, List.cons_append]
    exact word?_number hdigit
  have hhead : s.text.head? = s.whole.head? := by
    rw [Numeral.Scientific.text, hd]
    rfl
  -- a zero before the point stands alone
  have hzero : ¬ (s.whole.length = 0 ∨ 1 < s.whole.length ∧ s.text.head? = some '0') := by
    rintro (hlen | ⟨hlen, hfirst⟩)
    · exact s.whole_ne_nil (List.eq_nil_of_length_eq_zero hlen)
    · rw [s.eq_zero_of_head? (hhead ▸ hfirst)] at hlen
      exact absurd hlen (by decide)
  rw [hword, number?_minus negative ?_ s.leadingDigits_text, if_neg hzero, if_neg ?_, if_neg ?_,
    s.decimal?_text]
  · rfl
  · rintro ⟨hpoint, hnone⟩
    by_cases hfraction : s.fraction = []
    · rw [Numeral.pointed, if_pos hfraction, List.nil_append] at hpoint
      exact (s.of_mem_head?_exponent hpoint).2 rfl
    · obtain ⟨e, fraction, he⟩ := List.exists_cons_of_ne_nil hfraction
      rw [Numeral.pointed, if_neg hfraction, he] at hnone
      exact hnone (s.isDigit_fraction e (he ▸ List.mem_cons_self))
  · rcases s.fractional with h | h
    · rw [Numeral.pointed, if_neg h]
      exact List.cons_ne_nil _ _
    · simp [h]
  · intro c hc
    rw [hhead, hd] at hc
    obtain rfl : d = c := by simpa using hc
    exact hdigit

theorem isPart_text (n : ℤ) : ∀ c ∈ Numeral.text n, Numeral.IsPart c := by
  intro c hc
  rcases List.mem_append.mp hc with hc | hc
  · exact Numeral.isPart_minus (decide (n < 0)) c (by simpa [Numeral.minus] using hc)
  · exact .inl (Numeral.isDigit_of_mem_toDigits hc)

/-! ### Scalars -/

/-- A word in printable characters, and what it stands for. -/
structure IsWord (word : List Char) (v : Datum) : Prop where
  word?_eq : word? word = some v
  ne_nil : word ≠ []
  isWordPart : ∀ c ∈ word, IsWordPart c
  isPrintable : ∀ c ∈ word, IsPrintable c

/-- The names are words. -/
theorem isWord_name {name : List Char} {v : Datum} (h : (name, v) ∈ names) : IsWord name v := by
  have hparts : ∀ name ∈ names, name.1 ≠ [] ∧ name.1.all (IsWordPart ·) = true ∧
      name.1.all (IsPrintable ·) = true := by decide
  obtain ⟨hne, hword, hprintable⟩ := hparts _ h
  refine ⟨?_, hne, by simpa using hword, isPrintable_of_all hprintable⟩
  simp only [names, List.mem_cons, Prod.mk.injEq, List.not_mem_nil, or_false] at h
  rcases h with ⟨rfl, rfl⟩ | ⟨rfl, rfl⟩ | ⟨rfl, rfl⟩ | ⟨rfl, rfl⟩ | ⟨rfl, rfl⟩ | ⟨rfl, rfl⟩ <;> rfl

/-- The text of an integer. -/
theorem isWord_int (n : ℤ) : IsWord (Numeral.text n) (.int n) where
  word?_eq := word?_text n
  ne_nil := by simp [Numeral.text]
  isWordPart := fun c hc => isWordPart_of_isPart (isPart_text n c hc)
  isPrintable := fun c hc => isPrintable_of_isPart (isPart_text n c hc)

/-- The text of a number. -/
theorem isWord_float (x : Binary) : IsWord (numberText x) (.float x) := by
  cases x with
  | notANumber => exact isWord_name (by simp [names, numberText])
  | infinite negative =>
    refine isWord_name ?_
    cases negative <;> simp [names, numberText]
  | finite negative m e fits =>
    obtain ⟨s, hs, hread⟩ := Binary.exists_text negative fits
    have htext : numberText (.finite negative m e fits) = Numeral.minus negative ++ s.text := hs
    have hpart : ∀ c ∈ Numeral.minus negative ++ s.text, Numeral.IsPart c := fun c hc =>
      (List.mem_append.mp hc).elim (Numeral.isPart_minus negative c) (s.isPart_text c)
    rw [htext, ← hread]
    exact ⟨word?_scientific s negative, by simp [Numeral.Scientific.text, s.whole_ne_nil],
      fun c hc => isWordPart_of_isPart (hpart c hc), fun c hc => isPrintable_of_isPart (hpart c hc)⟩

/-- The text of a scalar is cut off as one token. -/
theorem tokens?_scalarText (x : Scalar) {rest : List Char} (hrest : Breaks rest) :
    tokens? (scalarText x ++ rest) = (tokens? rest).map (tokens x.datum ++ ·) := by
  have hword : ∀ {word : List Char} {v : Datum}, IsWord word v →
      tokens? (word ++ rest) = (tokens? rest).map (.word v :: ·) := fun h =>
    tokens?_word h.isWordPart h.ne_nil h.word?_eq hrest
  cases x with
  | null => exact hword (isWord_name (by simp [names, scalarText, Scalar.datum]))
  | bool b => exact hword (isWord_name (by cases b <;> simp [names, scalarText, Scalar.datum]))
  | int n => exact hword (isWord_int n)
  | float x => exact hword (isWord_float x)
  | text s => exact tokens?_quoted s rest

theorem isPrintable_scalarText (x : Scalar) : ∀ c ∈ scalarText x, IsPrintable c := by
  cases x with
  | null => exact isPrintable_of_all rfl
  | bool b => cases b <;> exact isPrintable_of_all rfl
  | int n => exact (isWord_int n).isPrintable
  | float x => exact (isWord_float x).isPrintable
  | text s => exact isPrintable_quoted s

end ProcedureCall.Report.Json
