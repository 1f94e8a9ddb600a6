import ProcedureCall.Proofs.CallText.Segments

/-!
# Names without quotes

A text is plain if it is made of identifier characters and separators only; it need not be a name,
as pieces of it may be empty or begin with a digit. Called as it is, with the parentheses right
after it, a plain text can only invoke some of its last pieces, all of which are identifiers
(`StandOut.pieces_of_target?`). It does so if the last piece is one
(`StandOut.isSome_target?_of_last`), and it invokes itself if all of them are
(`StandOut.target?_of_identifiers`).
-/

namespace ProcedureCall.CallText

open Text

/-- The text is made of identifier characters and separators. -/
def Plain (separator : Char) (s : List Char) : Prop :=
  ∀ c ∈ s, isNameChar c = true ∨ c = separator

instance (separator : Char) (s : List Char) : Decidable (Plain separator s) :=
  decidable_of_iff ((s.all fun c => isNameChar c || c == separator) = true) (by simp [Plain])

variable {separator : Char} {quote : List Char}

theorem Plain.eq_separator {s : List Char} {c : Char} (hplain : Plain separator s) (hc : c ∈ s)
    (hname : isNameChar c = false) : c = separator :=
  (hplain c hc).resolve_left (Bool.eq_false_iff.mp hname)

/-! ### Cutting plain texts -/

/-- Without quotes, a name is cut at every separator. -/
theorem segments_eq_splitOn {name : List Char} (h : ∀ c ∈ name, quote ≠ [c]) :
    segments [separator] quote name = name.splitOn separator := by
  rw [segments]
  induction name with
  | nil => rfl
  | cons c name ih =>
    obtain ⟨hc, hname⟩ := List.forall_mem_cons.mp h
    obtain ⟨piece, pieces, hpieces⟩ := List.exists_cons_of_ne_nil
      (List.splitOn_ne_nil separator name)
    rw [segmentsFrom, if_neg hc, ih hname, List.splitOn_cons_eq_if_modifyHead, hpieces]
    by_cases hseparator : c = separator
    · simp [hseparator]
    · simp [hseparator, Ne.symm hseparator, onFirst]

/-- A piece of the text begins after this part of it. -/
def AtPiece (separator : Char) (before : List Char) : Prop :=
  before = [] ∨ ∃ b, before = b ++ [separator]

theorem AtPiece.isSuffix_splitOn {before : List Char} (h : AtPiece separator before)
    (s : List Char) : s.splitOn separator <:+ (before ++ s).splitOn separator := by
  rcases h with rfl | ⟨b, rfl⟩
  · exact List.suffix_rfl
  · rw [List.append_assoc, List.singleton_append, List.splitOn_append_cons_self]
    exact List.suffix_append _ _

/-- The last piece of a text. -/
theorem exists_last_piece (separator : Char) (s : List Char) :
    ∃ before last, s = before ++ last ∧ AtPiece separator before ∧ separator ∉ last := by
  induction s with
  | nil => exact ⟨[], [], rfl, Or.inl rfl, List.not_mem_nil⟩
  | cons c s ih =>
    obtain ⟨before, last, rfl, hbefore, hlast⟩ := ih
    rcases hbefore with rfl | ⟨b, rfl⟩
    · by_cases hc : c = separator
      · exact ⟨[c], last, rfl, Or.inr ⟨[], by rw [hc]; rfl⟩, hlast⟩
      · exact ⟨[], c :: last, rfl, Or.inl rfl, List.not_mem_cons_of_ne_of_not_mem (Ne.symm hc) hlast⟩
    · exact ⟨c :: (b ++ [separator]), last, rfl, Or.inr ⟨c :: b, rfl⟩, hlast⟩

/-! ### Plain names -/

variable (h : StandOut [separator] quote)
include h

theorem StandOut.separator_delimits : IsDelimiter separator :=
  h.separator_isDelimiter separator (List.mem_singleton_self separator)

/-- White space in a plain text is empty. -/
theorem StandOut.eq_nil_of_blank {s : List Char} (hplain : Plain separator s) (hblank : Blank s) :
    s = [] := by
  refine List.eq_nil_iff_forall_not_mem.mpr fun c hc => ?_
  rcases hplain c hc with hname | rfl
  · exact Bool.eq_false_iff.mp (isBlank_of_isNameChar hname) (hblank c hc)
  · exact Bool.eq_false_iff.mp h.separator_delimits.isBlank (hblank c hc)

/-- A segment in a plain text is no quoted run. -/
theorem StandOut.isIdentifier_of_plain {s : List Char} (hplain : Plain separator s)
    (hs : IsSegment quote s) : IsIdentifier s := by
  refine hs.resolve_left fun hquoted => ?_
  cases hquoted with
  | intro hne _ _ =>
    obtain ⟨q, qs, rfl⟩ := List.exists_cons_of_ne_nil hne
    have hq := (h.quote_isDelimiter q List.mem_cons_self).isNameChar
    obtain rfl := hplain.eq_separator (by simp) hq
    exact h.not_mem_quote q (List.mem_singleton_self q) List.mem_cons_self

/-- A plain name is spelled with separators only between its segments, which are identifiers. -/
theorem StandOut.intercalate_segments (n : Spelling quote)
    (hplain : Plain separator (n.text [separator])) :
    n.text [separator] = [separator].intercalate n.segments ∧ ∀ s ∈ n.segments, IsIdentifier s := by
  obtain ⟨first, links, hsegment⟩ := n
  induction links generalizing first with
  | nil =>
    rw [Spelling.text, linked_nil, List.append_nil] at hplain ⊢
    exact ⟨by simp [Spelling.segments],
      List.forall_mem_singleton.mpr (h.isIdentifier_of_plain hplain hsegment)⟩
  | cons l links ih =>
    -- the rest after the separator is a name of its own
    have htext : (⟨first, l :: links, hsegment⟩ : Spelling quote).text [separator] =
        first ++ (l.before ++ ([separator] ++ (l.after ++
          (⟨l.segment, links, l.isSegment⟩ : Spelling quote).text [separator]))) := by
      simp [Spelling.text, Link.text]
    rw [htext] at hplain ⊢
    simp only [Plain, List.forall_mem_append] at hplain
    obtain ⟨hfirst, hbefore, -, hafter, hrest⟩ := hplain
    obtain ⟨hintercalate, hidentifiers⟩ := ih l.segment l.isSegment hrest
    refine ⟨?_, List.forall_mem_cons.mpr ⟨h.isIdentifier_of_plain hfirst hsegment, hidentifiers⟩⟩
    rw [h.eq_nil_of_blank hbefore l.blank_before, h.eq_nil_of_blank hafter l.blank_after,
      hintercalate]
    simp [Spelling.segments, List.intercalate_cons_cons]

/-- The pieces of a plain name are its segments. -/
theorem StandOut.splitOn_text (n : Spelling quote) (hplain : Plain separator (n.text [separator])) :
    (n.text [separator]).splitOn separator = n.segments ∧ ∀ s ∈ n.segments, IsIdentifier s := by
  obtain ⟨hintercalate, hidentifiers⟩ := h.intercalate_segments n hplain
  refine ⟨?_, hidentifiers⟩
  rw [hintercalate]
  refine List.splitOn_intercalate separator (fun s hs hmem => ?_) (List.cons_ne_nil _ _)
  exact Bool.eq_false_iff.mp h.separator_delimits.isNameChar
    ((hidentifiers s hs).isNameChar separator hmem)

/-! ### Plain texts that are called -/

omit h in
/-- The first opening parenthesis of a text without parentheses that is called comes after it. -/
theorem eq_of_append_opening {s t after : List Char} (hs : '(' ∉ s)
    (heq : s ++ ['(', ')'] = t ++ '(' :: after) : s = t := by
  rcases List.append_eq_append_iff.mp heq with ⟨more, rfl, hrest⟩ | ⟨more, rfl, hrest⟩
  · cases more with
    | nil => exact (List.append_nil s).symm
    | cons c more =>
      rw [List.cons_append, List.cons.injEq] at hrest
      have hmem : '(' ∈ more ++ '(' :: after := by simp
      rw [← hrest.2] at hmem
      exact absurd hmem (by decide)
  · cases more with
    | nil => exact List.append_nil t
    | cons c more =>
      rw [List.cons_append, List.cons.injEq] at hrest
      rw [← hrest.1] at hs
      exact absurd (by simp) hs

/-- In a plain text that is called, a name is invoked at its end only, and it begins with a
piece. -/
theorem Invokes.eq_append_of_plain {name before target after : List Char}
    (hplain : Plain separator name)
    (hinvokes : Invokes [separator] quote (name ++ ['(', ')']) before target after) :
    name = before ++ target ∧ AtPiece separator before := by
  have hopening : '(' ∉ name := fun hmem =>
    h.separator_delimits.ne_opening (hplain.eq_separator hmem isNameChar_opening).symm
  obtain ⟨htext, hfree, -, hopens⟩ := hinvokes
  cases hopens with
  | @intro blanks rest hblanks =>
    have hname : name = before ++ (target ++ blanks) :=
      eq_of_append_opening hopening (by simpa using htext)
    subst hname
    simp only [Plain, List.forall_mem_append] at hplain
    obtain ⟨hbefore, -, hplain_blanks⟩ := hplain
    refine ⟨by rw [h.eq_nil_of_blank hplain_blanks hblanks, List.append_nil], ?_⟩
    rcases List.eq_nil_or_concat before with rfl | ⟨b, c, rfl⟩
    · exact Or.inl rfl
    · rw [List.concat_eq_append] at hfree hbefore ⊢
      have hc := (hfree c (by rw [List.getLast?_concat]; rfl)).1
      obtain rfl := Plain.eq_separator hbefore (by simp) hc
      exact Or.inr ⟨b, rfl⟩

/-- The name that a called plain text invokes consists of some of its last pieces, all of which are
identifiers. -/
theorem StandOut.pieces_of_target? {name target : List Char} (hplain : Plain separator name)
    (htarget : target? [separator] quote (name ++ ['(', ')']) = some target) :
    target.splitOn separator <:+ name.splitOn separator ∧ Plain separator target ∧
      ∀ piece ∈ target.splitOn separator, IsIdentifier piece := by
  obtain ⟨before, after, hinvokes, -⟩ := exists_invokes_of_target? htarget
  obtain ⟨rfl, hbefore⟩ := hinvokes.eq_append_of_plain h hplain
  have htarget_plain : Plain separator target := (List.forall_mem_append.mp hplain).2
  obtain ⟨n, rfl⟩ := hinvokes.spelled
  obtain ⟨hpieces, hidentifiers⟩ := h.splitOn_text n htarget_plain
  refine ⟨hbefore.isSuffix_splitOn _, htarget_plain, ?_⟩
  rw [hpieces]
  exact hidentifiers

/-- A called text invokes a name at each piece of it from which on all pieces are identifiers. -/
theorem StandOut.invokes_of_identifiers {before name : List Char} (hbefore : AtPiece separator before)
    (hidentifiers : ∀ piece ∈ name.splitOn separator, IsIdentifier piece) :
    Invokes [separator] quote (before ++ name ++ ['(', ')']) before name ['(', ')'] := by
  refine ⟨List.append_assoc _ _ _, ?_, ?_, .intro (List.forall_mem_nil _)⟩
  · intro c hc
    rcases hbefore with rfl | ⟨b, rfl⟩
    · cases hc
    · rw [List.getLast?_concat, Option.mem_some_iff] at hc
      subst hc
      exact ⟨h.separator_delimits.isNameChar, h.not_mem_quote _ (List.mem_singleton_self _)⟩
  · obtain ⟨n, htext, -⟩ := exists_spelling [separator] (List.splitOn_ne_nil separator name)
      fun piece hpiece => Or.inr (hidentifiers piece hpiece)
    exact ⟨n, htext.trans (List.intercalate_splitOn separator)⟩

/-- A called text whose pieces are identifiers invokes itself. -/
theorem StandOut.target?_of_identifiers {name : List Char}
    (hidentifiers : ∀ piece ∈ name.splitOn separator, IsIdentifier piece) :
    target? [separator] quote (name ++ ['(', ')']) = some name := by
  have hinvokes := h.invokes_of_identifiers (Or.inl rfl) hidentifiers
  obtain ⟨n, rfl⟩ := hinvokes.spelled
  exact h.target?_of_spelling n hinvokes.opens

/-- A called text whose last piece is an identifier invokes something. -/
theorem StandOut.isSome_target?_of_last {name : List Char}
    (hlast : IsIdentifier ((name.splitOn separator).getLast (List.splitOn_ne_nil _ _))) :
    (target? [separator] quote (name ++ ['(', ')'])).isSome = true := by
  obtain ⟨before, last, rfl, hbefore, hmem⟩ := exists_last_piece separator name
  have hsplit : last.splitOn separator = [last] := List.splitOn_eq_singleton hmem
  obtain ⟨pieces, hpieces⟩ := hbefore.isSuffix_splitOn last
  rw [hsplit] at hpieces
  simp only [← hpieces, List.getLast_concat] at hlast
  refine isSome_target? (h.invokes_of_identifiers hbefore ?_)
  rw [hsplit]
  exact List.forall_mem_singleton.mpr hlast

end ProcedureCall.CallText
