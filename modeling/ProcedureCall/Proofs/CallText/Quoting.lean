import ProcedureCall.Catalog.Session
import ProcedureCall.Proofs.CallText.Segments

/-!
# Quoted names

A name written between quotes, the quotes in it doubled, comes out of a call text as it was: the
search takes the quoted names with the separators between them for the name
(`target?_of_quotedName`), the name is cut into them again (`trim_segments_quotedName`), and the
folding takes the quotes off and leaves the rest as it is (`fold_quoted`).
-/

namespace ProcedureCall.CallText

open Text

/-- A text with each quote doubled. -/
def doubled (q : Char) (s : List Char) : List Char := s.flatMap fun c => if c = q then [q, q] else [c]

/-- A text between quotes, the quotes in it doubled. -/
def quoted (q : Char) (s : List Char) : List Char := [q] ++ (doubled q s ++ [q])

/-- Names between quotes, joined by a separator. -/
def quotedName (separator q : Char) (names : List (List Char)) : List Char :=
  [separator].intercalate (names.map (quoted q))

variable {separator q : Char}

theorem doubled_cons (c : Char) (s : List Char) :
    doubled q (c :: s) = (if c = q then [q, q] else [c]) ++ doubled q s := rfl

theorem quotedInner_doubled (q : Char) (s : List Char) : QuotedInner [q] (doubled q s) := by
  induction s with
  | nil => exact .nil
  | cons c s ih =>
    rw [doubled_cons]
    split
    case isTrue => exact .doubled ih
    case isFalse hc => exact .other (by simpa using hc) ih

theorem isQuoted_quoted {s : List Char} (hs : s ≠ []) : IsQuoted [q] (quoted q s) := by
  refine .intro (List.cons_ne_nil _ _) ?_ (quotedInner_doubled q s)
  cases s with
  | nil => exact absurd rfl hs
  | cons c s =>
    rw [doubled_cons]
    split <;> exact List.cons_ne_nil _ _

/-- To take doubled quotes for quotes undoes the doubling. -/
theorem replaceAll_doubled (s : List Char) : replaceAll [q, q] [q] (doubled q s) = s := by
  induction s with
  | nil => rfl
  | cons c s ih =>
    rw [replaceAll] at ih ⊢
    rw [doubled_cons]
    split
    case isTrue hc =>
      subst hc
      simp [replaceFrom, afterStart?, ih]
    case isFalse hc =>
      simp [replaceFrom, afterStart?, Ne.symm hc, ih]

/-- A quoted name is stored as it was written, whatever the case of identifiers. -/
theorem fold_quoted {d : Dialect} (hquote : d.quote.toList = [q]) (s : List Char) :
    d.fold (quoted q s) = s := by
  have hunquote : d.unquote? (quoted q s) = some s := by
    simp only [Dialect.unquote?, hquote]
    rw [if_pos]
    · simpa [quoted, ← List.append_assoc] using replaceAll_doubled s
    · simp [quoted, List.isSuffixOf, List.isPrefixOf]
  rw [Dialect.fold, hunquote]

/-- Quoted names with separators between them are spelled as they stand there. -/
theorem exists_spelling_quotedName {names : List (List Char)} (hnames : names ≠ [])
    (hnonempty : ∀ s ∈ names, s ≠ []) :
    ∃ n : Spelling [q], n.text [separator] = quotedName separator q names ∧
      n.segments = names.map (quoted q) := by
  refine exists_spelling [separator] (by simpa using hnames) fun segment hsegment => ?_
  obtain ⟨s, hs, rfl⟩ := List.mem_map.mp hsegment
  exact Or.inl (isQuoted_quoted (hnonempty s hs))

theorem head?_quotedName {names : List (List Char)} (hnames : names ≠ []) :
    (quotedName separator q names).head? = some q := by
  obtain ⟨s, names, rfl⟩ := List.exists_cons_of_ne_nil hnames
  cases names <;> simp [quotedName, quoted, List.intercalate_cons_cons]

variable (hseparator : IsDelimiter separator) (hquote : IsDelimiter q) (hne : separator ≠ q)
include hseparator hquote hne

theorem standOut_singletons : StandOut [separator] [q] :=
  ⟨List.cons_ne_nil _ _, by simpa using hseparator, by simpa using hquote, by simpa using hne,
    le_rfl⟩

/-- The cut gives back the quoted names. -/
theorem trim_segments_quotedName {names : List (List Char)} (hnames : names ≠ [])
    (hnonempty : ∀ s ∈ names, s ≠ []) :
    (segments [separator] [q] (quotedName separator q names)).map trim =
      names.map (quoted q) := by
  obtain ⟨n, htext, hsegments⟩ := exists_spelling_quotedName hnames hnonempty
  have heven : EvenlyQuoted q [separator] n.first n.links :=
    evenlyQuoted_of_standing_out hquote.isBlank hquote.isNameChar (by simpa using hne.symm) n.links
      (even_count_segment hquote.isNameChar n.isSegment)
  rw [← htext, ← hsegments, n.segments_cut_iff (List.cons_ne_nil _ _) (by simp [hseparator, hne])]
  exact ⟨by simp [hquote.isBlank], Or.inr ⟨rfl, heven⟩⟩

/-- A name does not go on over a blank to a quote. -/
theorem linked_append_ne {links : List (Link [q])} {after s : List Char} (hopens : Opens after) :
    linked [separator] links ++ after ≠ [' '] ++ q :: s := by
  have hblank : Blank [' '] := List.forall_mem_singleton.mpr (by decide)
  have hstops : ∀ c ∈ (q :: s).head?, isBlank c = false := by
    rintro _ ⟨⟩
    exact hquote.isBlank
  intro heq
  cases links with
  | nil =>
    cases hopens with
    | intro hblanks =>
      have hrest := (run_unique hblanks hblank (by rintro _ ⟨⟩; exact isBlank_opening) hstops heq).2
      exact hquote.ne_opening (List.cons.inj hrest).1.symm
  | cons l links =>
    simp only [linked_cons, Link.text, List.append_assoc] at heq
    have hrest := (run_unique l.blank_before hblank
      ((standOut_singletons hseparator hquote hne).head?_separator _) hstops heq).2
    exact hne (List.cons.inj hrest).1

/-- No name is invoked before the end of a word that a blank and a quote follow. -/
theorem length_lt_of_invokes {word s before name after : List Char}
    (hword : ∀ c ∈ word, isNameChar c = true) (hne_nil : word ≠ [])
    (h : Invokes [separator] [q] (word ++ ([' '] ++ q :: s)) before name after) :
    word.length < before.length := by
  have hstandOut := standOut_singletons hseparator hquote hne
  obtain ⟨htext, hfree, ⟨n, rfl⟩, hopens⟩ := h
  refine Nat.lt_of_not_le fun hle => ?_
  obtain ⟨word', rfl⟩ : before <+: word :=
    List.prefix_of_prefix_length_le ⟨_, htext.symm⟩ ⟨_, rfl⟩ hle
  rcases List.eq_nil_or_concat before with rfl | ⟨before, c, rfl⟩
  · -- the first segment would be the word, and the name would have to go on over the blank
    rw [List.nil_append] at htext hword hne_nil
    rw [List.nil_append, Spelling.text, List.append_assoc] at htext
    obtain ⟨first, links, hfirst | hfirst⟩ := n
    · cases hfirst with
      | intro _ _ _ =>
        obtain ⟨c, word', rfl⟩ := List.exists_cons_of_ne_nil hne_nil
        have hc := hword c List.mem_cons_self
        rw [(List.cons.inj htext).1] at hc
        exact Bool.eq_false_iff.mp hquote.isNameChar hc
    · have hblank : Stops [q] ([' '] ++ q :: s) := hstandOut.stops_of_isBlank (by decide)
      have hrest := (run_unique hword hfirst.isNameChar (fun c hc => (hblank c hc).1)
        (fun c hc => (hstandOut.stops_of_linked links hopens c hc).1) htext).2
      exact linked_append_ne hseparator hquote hne hopens hrest.symm
  · -- a name does not begin inside the word
    have hc := (hfree c (by rw [List.concat_eq_append, List.getLast?_concat]; rfl)).1
    exact Bool.eq_false_iff.mp hc (hword c (by simp))

/-- The name that is invoked by a word and a quoted name after it is the quoted name. -/
theorem target?_of_quotedName {word : List Char} (hword : ∀ c ∈ word, isNameChar c = true)
    (hne_nil : word ≠ []) {names : List (List Char)} (hnames : names ≠ [])
    (hnonempty : ∀ s ∈ names, s ≠ []) (rest : List Char) :
    target? [separator] [q] (word ++ [' '] ++ (quotedName separator q names ++ '(' :: rest)) =
      some (quotedName separator q names) := by
  obtain ⟨n, htext, -⟩ := exists_spelling_quotedName hnames hnonempty
  obtain ⟨s, hs⟩ : ∃ s, quotedName separator q names = q :: s :=
    List.head?_eq_some_iff.mp (head?_quotedName hnames)
  refine (target?_eq_some_iff (standOut_singletons hseparator hquote hne)).mpr
    ⟨word ++ [' '], '(' :: rest, ⟨rfl, ?_, ⟨n, htext⟩, .intro (List.forall_mem_nil _)⟩, ?_⟩
  · intro c hc
    rw [List.getLast?_concat, Option.mem_some_iff] at hc
    subst hc
    refine ⟨by decide +kernel, fun hmem => ?_⟩
    rw [← List.mem_singleton.mp hmem] at hquote
    exact absurd hquote.isBlank (by decide)
  · intro before' name' after' h'
    rw [hs, List.append_assoc, List.cons_append] at h'
    rw [List.length_append]
    exact length_lt_of_invokes hseparator hquote hne hword hne_nil h'

end ProcedureCall.CallText
