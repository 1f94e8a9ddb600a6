import ProcedureCall.Proofs.CallText.Matching

/-!
# An invoked name is read in one way

If the separator and the quote stand out (`StandOut`), an invoked name at the front of a text can
be spelled in one way only (`Spelling.unique`): an identifier ends where its characters end, a
quoted run ends at the first quote that is not doubled, and white space leads either to the
separator or to the parenthesis. So the name that the search finds is the one invoked name at the
leftmost place that has one.
-/

namespace ProcedureCall.CallText

open Text

/-- The separator and the quote stand out from the names around them and from each other, and the
quote, if there is one, is a single character. -/
structure StandOut (separator quote : List Char) : Prop where
  /-- There is a separator. -/
  separator_ne_nil : separator ≠ []
  /-- The separator stands out. -/
  separator_isDelimiter : ∀ c ∈ separator, IsDelimiter c
  /-- The quote stands out. -/
  quote_isDelimiter : ∀ q ∈ quote, IsDelimiter q
  /-- No quote is in the separator. -/
  not_mem_quote : ∀ c ∈ separator, c ∉ quote
  /-- The quote is no longer than a character. -/
  length_quote : quote.length ≤ 1

variable {separator quote : List Char}

/-! ### Runs -/

/-- A run of a class of characters that nothing continues is determined by the text. -/
theorem run_unique {p : Char → Bool} {run run' rest rest' : List Char}
    (hrun : ∀ c ∈ run, p c = true) (hrun' : ∀ c ∈ run', p c = true)
    (hrest : ∀ c ∈ rest.head?, p c = false) (hrest' : ∀ c ∈ rest'.head?, p c = false)
    (h : run ++ rest = run' ++ rest') : run = run' ∧ rest = rest' := by
  induction run generalizing run' with
  | nil =>
    cases run' with
    | nil => exact ⟨rfl, h⟩
    | cons d run' =>
      have hd := hrest d (by rw [← List.nil_append rest, h]; rfl)
      rw [(List.forall_mem_cons.mp hrun').1] at hd
      cases hd
  | cons c run ih =>
    cases run' with
    | nil =>
      have hc := hrest' c (by rw [← List.nil_append rest', ← h]; rfl)
      rw [(List.forall_mem_cons.mp hrun).1] at hc
      cases hc
    | cons d run' =>
      rw [List.cons_append, List.cons_append, List.cons.injEq] at h
      obtain ⟨rfl, htail⟩ := h
      obtain ⟨rfl, hrest⟩ := ih (List.forall_mem_cons.mp hrun).2 (List.forall_mem_cons.mp hrun').2
        htail
      exact ⟨rfl, hrest⟩

/-- What stands between single quotes is determined by the text, as the closing quote is the first
one that is not doubled. -/
theorem QuotedInner.unique {q : Char} {inner inner' rest rest' : List Char}
    (hinner : QuotedInner [q] inner) (hinner' : QuotedInner [q] inner')
    (hrest : ∀ c ∈ rest.head?, c ≠ q) (hrest' : ∀ c ∈ rest'.head?, c ≠ q)
    (h : inner ++ q :: rest = inner' ++ q :: rest') : inner = inner' ∧ rest = rest' := by
  induction hinner generalizing inner' with
  | nil =>
    cases hinner' with
    | nil => exact ⟨rfl, (List.cons.inj h).2⟩
    | other hd _ => exact absurd (List.mem_singleton.mpr (List.cons.inj h).1.symm) hd
    | doubled _ => exact absurd rfl (hrest q (by rw [(List.cons.inj h).2]; rfl))
  | other hc _ ih =>
    cases hinner' with
    | nil => exact absurd (List.mem_singleton.mpr (List.cons.inj h).1) hc
    | other _ hinner' =>
      rw [List.cons_append, List.cons_append, List.cons.injEq] at h
      obtain ⟨rfl, htail⟩ := h
      obtain ⟨rfl, hrest⟩ := ih hinner' htail
      exact ⟨rfl, hrest⟩
    | doubled _ => exact absurd (List.mem_singleton.mpr (List.cons.inj h).1) hc
  | doubled _ ih =>
    cases hinner' with
    | nil => exact absurd rfl (hrest' q (by rw [← (List.cons.inj h).2]; rfl))
    | other hd _ => exact absurd (List.mem_singleton.mpr (List.cons.inj h).1.symm) hd
    | doubled hinner' =>
      simp only [List.append_assoc, List.append_cancel_left_eq] at h
      obtain ⟨rfl, hrest⟩ := ih hinner' h
      exact ⟨rfl, hrest⟩

/-! ### Segments -/

/-- No segment goes on into this text. -/
def Stops (quote s : List Char) : Prop := ∀ c ∈ s.head?, isNameChar c = false ∧ c ∉ quote

namespace StandOut

variable (h : StandOut separator quote)
include h

theorem quote_eq {q : Char} {qs : List Char} (hquote : quote = q :: qs) : qs = [] := by
  have hlength := h.length_quote
  rw [hquote, List.length_cons] at hlength
  exact List.eq_nil_of_length_eq_zero (by omega)

theorem stops_of_isBlank {c : Char} {s : List Char} (hc : isBlank c = true) :
    Stops quote (c :: s) := by
  rintro d ⟨⟩
  refine ⟨?_, fun hquote => ?_⟩
  · exact Bool.eq_false_iff.mpr fun hname => by simp [isBlank_of_isNameChar hname] at hc
  · simp [(h.quote_isDelimiter c hquote).isBlank] at hc

theorem stops_of_opens {s : List Char} (hs : Opens s) : Stops quote s := by
  cases hs with
  | @intro blanks after hblanks =>
    cases blanks with
    | nil =>
      rintro c ⟨⟩
      exact ⟨isNameChar_opening, fun hquote => (h.quote_isDelimiter _ hquote).ne_opening rfl⟩
    | cons c blanks => exact h.stops_of_isBlank (List.forall_mem_cons.mp hblanks).1

theorem stops_of_link (l : Link quote) (s : List Char) : Stops quote (l.text separator ++ s) := by
  obtain ⟨before, after, segment, hbefore, -, -⟩ := l
  cases before with
  | nil =>
    cases hseparator : separator with
    | nil => exact absurd hseparator h.separator_ne_nil
    | cons c cs =>
      have hmem : c ∈ separator := hseparator ▸ List.mem_cons_self
      rintro d ⟨⟩
      exact ⟨(h.separator_isDelimiter c hmem).isNameChar, h.not_mem_quote c hmem⟩
  | cons c before => exact h.stops_of_isBlank (List.forall_mem_cons.mp hbefore).1

theorem stops_of_linked (links : List (Link quote)) {s : List Char} (hs : Opens s) :
    Stops quote (linked separator links ++ s) := by
  cases links with
  | nil => exact h.stops_of_opens hs
  | cons l links =>
    rw [linked_cons, List.append_assoc]
    exact h.stops_of_link l _

/-- A quoted run begins with the quote, so it is no identifier. -/
theorem not_quoted_of_identifier {name run rest rest' : List Char} (hname : IsIdentifier name)
    (hrun : IsQuoted quote run) : name ++ rest ≠ run ++ rest' := by
  intro heq
  cases hrun with
  | @intro inner hne _ _ =>
    cases hname with
    | @intro c cs hc _ =>
      cases hquote : quote with
      | nil => exact hne hquote
      | cons q qs =>
        rw [hquote] at heq
        have hq := (h.quote_isDelimiter q (hquote ▸ List.mem_cons_self)).isNameChar
        rw [← (List.cons.inj heq).1, isNameChar_of_startsName hc] at hq
        cases hq

/-- A segment that cannot go on is determined by the text. -/
theorem segment_unique {s s' rest rest' : List Char} (hs : IsSegment quote s)
    (hs' : IsSegment quote s') (hrest : Stops quote rest) (hrest' : Stops quote rest')
    (heq : s ++ rest = s' ++ rest') : s = s' ∧ rest = rest' := by
  rcases hs with hs | hs <;> rcases hs' with hs' | hs'
  case inl.inl =>
    cases hs with
    | @intro inner hne _ hinner =>
      cases hs' with
      | @intro inner' _ _ hinner' =>
        cases hquote : quote with
        | nil => exact absurd hquote hne
        | cons q qs =>
          obtain rfl := h.quote_eq hquote
          subst hquote
          simp only [List.append_assoc, List.cons_append, List.nil_append, List.cons.injEq,
            true_and] at heq
          obtain ⟨rfl, hrest⟩ := hinner.unique hinner'
            (fun c hc => (List.ne_of_not_mem_cons (hrest c hc).2))
            (fun c hc => (List.ne_of_not_mem_cons (hrest' c hc).2)) heq
          exact ⟨rfl, hrest⟩
  case inl.inr => exact absurd heq.symm (h.not_quoted_of_identifier hs' hs)
  case inr.inl => exact absurd heq (h.not_quoted_of_identifier hs hs')
  case inr.inr =>
    exact run_unique hs.isNameChar hs'.isNameChar (fun c hc => (hrest c hc).1)
      (fun c hc => (hrest' c hc).1) heq

/-- A segment does not begin with white space. -/
theorem head?_segment {s rest : List Char} (hs : IsSegment quote s) :
    ∀ c ∈ (s ++ rest).head?, isBlank c = false := by
  rcases hs with hs | hs
  · cases hs with
    | intro hne _ _ =>
      cases hquote : quote with
      | nil => exact absurd hquote hne
      | cons q qs =>
        rintro _ ⟨⟩
        exact (h.quote_isDelimiter q (hquote ▸ List.mem_cons_self)).isBlank
  · cases hs with
    | intro hc _ =>
      rintro d ⟨⟩
      exact isBlank_of_isNameChar (isNameChar_of_startsName hc)

/-- A segment does not end with white space. -/
theorem getLast?_segment {s : List Char} (before : List Char) (hs : IsSegment quote s) :
    ∀ c ∈ (before ++ s).getLast?, isBlank c = false := by
  have hlast : ∀ {a b : List Char}, b ≠ [] → (a ++ b).getLast? = b.getLast? := by
    intro a b hb
    rw [List.getLast?_append, List.getLast?_eq_some_getLast hb, Option.some_or]
  rw [hlast hs.ne_nil]
  intro c hc
  rcases hs with hs | hs
  · cases hs with
    | @intro inner hne _ _ =>
      rw [← List.append_assoc, hlast hne] at hc
      exact (h.quote_isDelimiter c (List.mem_of_getLast? hc)).isBlank
  · exact isBlank_of_isNameChar (hs.isNameChar c (List.mem_of_getLast? hc))

/-! ### Names -/

/-- There is no white space at the ends of a name. -/
theorem trim_text (n : Spelling quote) : trim (n.text separator) = n.text separator := by
  have hlast : ∀ c ∈ (n.text separator).getLast?, isBlank c = false := by
    rw [Spelling.text]
    rcases List.eq_nil_or_concat n.links with hlinks | ⟨links, l, hlinks⟩
    · rw [hlinks, linked_nil, List.append_nil]
      exact h.getLast?_segment [] n.isSegment
    · rw [hlinks, List.concat_eq_append, linked, List.flatMap_append, List.flatMap_singleton,
        Link.text]
      simp only [← List.append_assoc]
      exact h.getLast?_segment _ l.isSegment
  have htrim := trimBy_eq (p := isBlank) (List.forall_mem_nil _) (List.forall_mem_nil _)
    (h.head?_segment n.isSegment) hlast
  rwa [List.nil_append, List.append_nil] at htrim

/-- The separator does not begin with white space. -/
theorem head?_separator (s : List Char) : ∀ c ∈ (separator ++ s).head?, isBlank c = false := by
  cases hseparator : separator with
  | nil => exact absurd hseparator h.separator_ne_nil
  | cons c cs =>
    rintro d ⟨⟩
    exact (h.separator_isDelimiter c (hseparator ▸ List.mem_cons_self)).isBlank

/-- Where a name goes on, no parenthesis opens. -/
theorem not_opens_link (l : Link quote) (s : List Char) : ¬ Opens (l.text separator ++ s) := by
  intro hopens
  generalize htext : l.text separator ++ s = text at hopens
  cases hopens with
  | @intro blanks after hblanks =>
    rw [Link.text, List.append_assoc, List.append_assoc] at htext
    have hrest := (run_unique l.blank_before hblanks (h.head?_separator _)
      (by rintro _ ⟨⟩; exact isBlank_opening) htext).2
    cases hseparator : separator with
    | nil => exact h.separator_ne_nil hseparator
    | cons c cs =>
      rw [hseparator] at hrest
      have hc := h.separator_isDelimiter c (hseparator ▸ List.mem_cons_self)
      exact hc.ne_opening (List.cons.inj hrest).1

/-- The further segments of an invoked name are determined by the text, and so is the white space
around the separators. -/
theorem links_unique {links links' : List (Link quote)} {rest rest' : List Char}
    (hrest : Opens rest) (hrest' : Opens rest')
    (heq : linked separator links ++ rest = linked separator links' ++ rest') :
    links = links' ∧ rest = rest' := by
  induction links generalizing links' with
  | nil =>
    cases links' with
    | nil => exact ⟨rfl, heq⟩
    | cons l links' =>
      rw [linked_nil, List.nil_append, linked_cons, List.append_assoc] at heq
      exact absurd (heq ▸ hrest) (h.not_opens_link l _)
  | cons l links ih =>
    cases links' with
    | nil =>
      rw [linked_nil, List.nil_append, linked_cons, List.append_assoc] at heq
      exact absurd (heq ▸ hrest') (h.not_opens_link l _)
    | cons l' links' =>
      simp only [linked_cons, Link.text, List.append_assoc] at heq
      obtain ⟨hbefore, heq⟩ := run_unique l.blank_before l'.blank_before (h.head?_separator _)
        (h.head?_separator _) heq
      obtain ⟨hafter, heq⟩ := run_unique l.blank_after l'.blank_after (h.head?_segment l.isSegment)
        (h.head?_segment l'.isSegment) (List.append_cancel_left heq)
      obtain ⟨hsegment, heq⟩ := h.segment_unique l.isSegment l'.isSegment
        (h.stops_of_linked links hrest) (h.stops_of_linked links' hrest') heq
      obtain ⟨hlinks, heq⟩ := ih heq
      refine ⟨?_, heq⟩
      rw [hlinks, Link.ext hbefore hafter hsegment]

/-- An invoked name at the front of a text is spelled in one way. -/
theorem spelling_unique {n n' : Spelling quote} {rest rest' : List Char} (hrest : Opens rest)
    (hrest' : Opens rest') (heq : n.text separator ++ rest = n'.text separator ++ rest') :
    n = n' ∧ rest = rest' := by
  simp only [Spelling.text, List.append_assoc] at heq
  obtain ⟨hfirst, heq⟩ := h.segment_unique n.isSegment n'.isSegment
    (h.stops_of_linked _ hrest) (h.stops_of_linked _ hrest') heq
  obtain ⟨hlinks, heq⟩ := h.links_unique hrest hrest' heq
  exact ⟨Spelling.ext hfirst hlinks, heq⟩

end StandOut

/-! ### The invoked name of a text -/

/-- Where a name is invoked, it is the only one. -/
theorem Invokes.unique (h : StandOut separator quote)
    {text before before' name name' after after' : List Char}
    (h₁ : Invokes separator quote text before name after)
    (h₂ : Invokes separator quote text before' name' after')
    (hlength : before.length = before'.length) : before = before' ∧ name = name' ∧ after = after' := by
  obtain ⟨n, rfl⟩ := h₁.spelled
  obtain ⟨n', rfl⟩ := h₂.spelled
  obtain ⟨hbefore, hrest⟩ := List.append_inj (h₁.text_eq.symm.trans h₂.text_eq) hlength
  obtain ⟨rfl, hafter⟩ := h.spelling_unique h₁.opens h₂.opens hrest
  exact ⟨hbefore, rfl, hafter⟩

/-- No name is invoked in the text further to the left. -/
def IsLeftmost (separator quote text before : List Char) : Prop :=
  ∀ before' name' after', Invokes separator quote text before' name' after' →
    before.length ≤ before'.length

theorem exists_invokes_of_target? {text name : List Char}
    (h : target? separator quote text = some name) :
    ∃ before after, Invokes separator quote text before name after ∧
      IsLeftmost separator quote text before := by
  obtain ⟨before, after, hinvokes, hleast⟩ := @search?_eq_some separator quote [] text name h
  exact ⟨before, after, hinvokes, hleast⟩

theorem isSome_target? {text before name after : List Char}
    (h : Invokes separator quote text before name after) :
    (target? separator quote text).isSome = true := by
  rw [Option.isSome_iff_ne_none]
  intro hnone
  exact @search?_eq_none separator quote [] text hnone before name after h

/-- The name that a text invokes is the one at the leftmost place that has one. -/
theorem target?_eq_some_iff (h : StandOut separator quote) {text name : List Char} :
    target? separator quote text = some name ↔
      ∃ before after, Invokes separator quote text before name after ∧
        IsLeftmost separator quote text before := by
  constructor
  · exact exists_invokes_of_target?
  · rintro ⟨before, after, hinvokes, hleast⟩
    obtain ⟨name', hname'⟩ := Option.isSome_iff_exists.mp (isSome_target? hinvokes)
    obtain ⟨before', after', hinvokes', hleast'⟩ := exists_invokes_of_target? hname'
    have hlength : before.length = before'.length :=
      Nat.le_antisymm (hleast _ _ _ hinvokes') (hleast' _ _ _ hinvokes)
    rw [hname', (hinvokes.unique h hinvokes' hlength).2.1]

/-- A name at the front of a text that is invoked there is the one that the text invokes. -/
theorem StandOut.target?_of_spelling (h : StandOut separator quote) (n : Spelling quote)
    {after : List Char} (hopens : Opens after) :
    target? separator quote (n.text separator ++ after) = some (n.text separator) :=
  (target?_eq_some_iff h).mpr
    ⟨[], after, ⟨rfl, nofun, ⟨n, rfl⟩, hopens⟩, fun before _ _ _ => Nat.zero_le before.length⟩

/-- **What is read out of a call text is what its grammar says.** With a separator and a quote that
stand out, or without a quote, a text gives a name exactly if one is invoked in it; the name is the
one at the leftmost place where one is invoked, and no other name is invoked at that place. -/
theorem target_reads_grammar {separator : Char} {quote : List Char}
    (hseparator : IsDelimiter separator) (hlength : quote.length ≤ 1)
    (hquote : ∀ q ∈ quote, IsDelimiter q) (hother : separator ∉ quote) (text : List Char) :
    (∀ name, target? [separator] quote text = some name ↔
      ∃ before after, Invokes [separator] quote text before name after ∧
        IsLeftmost [separator] quote text before) ∧
    ((∃ name, target? [separator] quote text = some name) ↔
      ∃ before name after, Invokes [separator] quote text before name after) ∧
    ∀ before name name' after after', Invokes [separator] quote text before name after →
      Invokes [separator] quote text before name' after' → name = name' := by
  have h : StandOut [separator] quote :=
    ⟨List.cons_ne_nil _ _, by simpa using hseparator, hquote, by simpa using hother, hlength⟩
  refine ⟨fun name => target?_eq_some_iff h, ?_, ?_⟩
  · constructor
    · rintro ⟨name, hname⟩
      obtain ⟨before, after, hinvokes, -⟩ := exists_invokes_of_target? hname
      exact ⟨before, name, after, hinvokes⟩
    · rintro ⟨before, name, after, hinvokes⟩
      exact Option.isSome_iff_exists.mp (isSome_target? hinvokes)
  · intro before name name' after after' h₁ h₂
    exact (h₁.unique h h₂ rfl).2.1

/-- The digit keeps what looks like the first name from being one, and the first segment of the name
holds a quote, a separator and a parenthesis. -/
theorem quoted_name_read :
    target? ['.'] ['"'] "9a(\"a\"\".(\" . b$1 (?)".toList = some "\"a\"\".(\" . b$1".toList ∧
    ∃ before after, Invokes ['.'] ['"'] "9a(\"a\"\".(\" . b$1 (?)".toList before
        "\"a\"\".(\" . b$1".toList after ∧
      IsLeftmost ['.'] ['"'] "9a(\"a\"\".(\" . b$1 (?)".toList before := by
  have hname : target? ['.'] ['"'] "9a(\"a\"\".(\" . b$1 (?)".toList =
      some "\"a\"\".(\" . b$1".toList := by decide +kernel
  have hquote : ∀ q ∈ ['"'], IsDelimiter q := List.forall_mem_singleton.mpr (by decide +kernel)
  exact ⟨hname, ((target_reads_grammar (by decide +kernel) (by decide) hquote (by decide) _).1
    _).mp hname⟩

end ProcedureCall.CallText
