import ProcedureCall.CallText.Segments
import ProcedureCall.Proofs.CallText.Reading

/-!
# A name that is read is cut again

The search takes a name apart while it reads it, and what it gives is the whole name; the name is
then cut a second time, at each separator before which quotes were opened as often as closed.
`Uncut` says that a text is passed over without a cut. `segments_as_read_iff` tells when the second
cut gives the segments that were read: always with a separator of one character and a quote that
stands out, but with a longer separator only for names of one segment.
-/

namespace ProcedureCall.CallText

open Text

variable {separator quote : List Char}

/-! ### How often the quote stands in a text -/

/-- The number of quotes in a text. -/
def quotes (quote s : List Char) : Nat := s.countP fun c => quote = [c]

@[simp] theorem quotes_nil (quote : List Char) : quotes quote [] = 0 := rfl

theorem quotes_cons_self {c : Char} (hc : quote = [c]) (s : List Char) :
    quotes quote (c :: s) = quotes quote s + 1 :=
  List.countP_cons_of_pos (by simp [hc])

theorem quotes_cons_of_ne {c : Char} (hc : quote ≠ [c]) (s : List Char) :
    quotes quote (c :: s) = quotes quote s :=
  List.countP_cons_of_neg (by simp [hc])

theorem quotes_singleton (q : Char) (s : List Char) : quotes [q] s = s.count q := by
  simp [quotes, List.count, eq_comm, Bool.beq_eq_decide_eq]

/-! ### Stretches without a cut -/

/-- A text is not cut; the truth values tell whether a quote is open before it and after it. -/
inductive Uncut (separator quote : List Char) : Bool → List Char → Bool → Prop where
  /-- There is no text. -/
  | nil {inside : Bool} : Uncut separator quote inside [] inside
  /-- A quote comes first. -/
  | quote {inside inside' : Bool} {c : Char} {s : List Char} : quote = [c] →
      Uncut separator quote (!inside) s inside' → Uncut separator quote inside (c :: s) inside'
  /-- Something else comes first, and a separator only while a quote is open. -/
  | other {inside inside' : Bool} {c : Char} {s : List Char} : quote ≠ [c] →
      (separator = [c] → inside = true) → Uncut separator quote inside s inside' →
      Uncut separator quote inside (c :: s) inside'

namespace Uncut

theorem append {a b c : Bool} {s t : List Char} (hs : Uncut separator quote a s b)
    (ht : Uncut separator quote b t c) : Uncut separator quote a (s ++ t) c := by
  induction hs with
  | nil => exact ht
  | quote hc _ ih => exact .quote hc (ih ht)
  | other hc hinside _ ih => exact .other hc hinside (ih ht)

/-- Without a separator there is no cut. -/
theorem exists_of_forall_ne {s : List Char} (h : ∀ c ∈ s, separator ≠ [c]) (inside : Bool) :
    ∃ inside', Uncut separator quote inside s inside' := by
  induction s generalizing inside with
  | nil => exact ⟨inside, .nil⟩
  | cons c s ih =>
    obtain ⟨hc, hs⟩ := List.forall_mem_cons.mp h
    by_cases hquote : quote = [c]
    · obtain ⟨inside', hrest⟩ := ih hs (!inside)
      exact ⟨inside', .quote hquote hrest⟩
    · obtain ⟨inside', hrest⟩ := ih hs inside
      exact ⟨inside', .other hquote (fun hseparator => absurd hseparator hc) hrest⟩

/-- A text without quotes leaves open what is open. -/
theorem of_forall_ne {s : List Char} {inside : Bool}
    (h : ∀ c ∈ s, quote ≠ [c] ∧ separator ≠ [c]) : Uncut separator quote inside s inside := by
  induction s with
  | nil => exact .nil
  | cons c s ih =>
    obtain ⟨⟨hquote, hseparator⟩, hs⟩ := List.forall_mem_cons.mp h
    exact .other hquote (fun hc => absurd hc hseparator) (ih hs)

/-- What stands between quotes leaves the quote open. -/
theorem of_quotedInner {q : Char} {inner : List Char} (h : QuotedInner [q] inner) :
    Uncut separator [q] true inner true := by
  induction h with
  | nil => exact .nil
  | other hc _ ih =>
    refine .other (fun hq => hc ?_) (fun _ => rfl) ih
    rw [hq]
    exact List.mem_singleton_self _
  | doubled _ ih => exact .quote rfl (.quote rfl ih)

theorem of_isQuoted {q : Char} {run : List Char} (h : IsQuoted [q] run) :
    Uncut separator [q] false run false := by
  cases h with
  | intro _ _ hinner => exact .quote rfl ((of_quotedInner hinner).append (.quote rfl .nil))

/-- A quote is open as before exactly after an even number of quotes. -/
theorem eq_iff_quotes {inside inside' : Bool} {s : List Char}
    (h : Uncut separator quote inside s inside') : inside' = inside ↔ quotes quote s % 2 = 0 := by
  induction h with
  | nil => simp
  | @quote inside inside' c s hc _ ih =>
    rw [quotes_cons_self hc]
    cases inside <;> cases inside' <;> simp at ih ⊢ <;> omega
  | other hc _ _ ih => rw [quotes_cons_of_ne hc, ih]

theorem eq_iff {q : Char} {inside inside' : Bool} {s : List Char}
    (h : Uncut separator [q] inside s inside') : inside' = inside ↔ s.count q % 2 = 0 := by
  rw [h.eq_iff_quotes, quotes_singleton]

end Uncut

/-! ### Cutting -/

/-- The character stands in the first segment. -/
theorem mem_of_onFirst_eq {c : Char} {first : List Char} {segments pieces : List (List Char)}
    (h : onFirst c segments = first :: pieces) : c ∈ first := by
  cases segments with
  | nil =>
    cases h
    exact List.mem_singleton_self c
  | cons s segments =>
    cases h
    exact List.mem_cons_self

theorem segmentsFrom_ne_nil (inside : Bool) (s : List Char) :
    segmentsFrom separator quote inside s ≠ [] := by
  have honFirst : ∀ (c : Char) (pieces : List (List Char)), onFirst c pieces ≠ [] := by
    intro c pieces
    cases pieces <;> exact List.cons_ne_nil _ _
  cases s with
  | nil => exact List.cons_ne_nil _ _
  | cons c s =>
    unfold segmentsFrom
    split
    · exact honFirst _ _
    · split
      · exact List.cons_ne_nil _ _
      · exact honFirst _ _

theorem flatten_onFirst (d : Char) (pieces : List (List Char)) :
    (onFirst d pieces).flatten = d :: pieces.flatten := by
  cases pieces <;> rfl

/-- The segments hold together what the text holds, the separators aside. -/
theorem count_segmentsFrom {c : Char} (hc : separator ≠ [c]) (inside : Bool) (s : List Char) :
    (segmentsFrom separator quote inside s).flatten.count c = s.count c := by
  induction s generalizing inside with
  | nil => rfl
  | cons d s ih =>
    rw [segmentsFrom]
    split
    case isTrue => rw [flatten_onFirst, List.count_cons, ih, List.count_cons]
    case isFalse =>
      split
      case isTrue hseparator =>
        have hne : d ≠ c := by
          rintro rfl
          exact hc hseparator.1
        rw [List.flatten_cons, List.nil_append, ih, List.count_cons_of_ne hne]
      case isFalse => rw [flatten_onFirst, List.count_cons, ih, List.count_cons]

/-- What is not cut stands in front of the first segment of the rest. -/
theorem Uncut.segmentsFrom_append {inside inside' : Bool} {s : List Char}
    (h : Uncut separator quote inside s inside') (t : List Char) :
    ∃ first pieces, segmentsFrom separator quote inside' t = first :: pieces ∧
      segmentsFrom separator quote inside (s ++ t) = (s ++ first) :: pieces := by
  induction h with
  | @nil inside =>
    obtain ⟨first, pieces, h⟩ := List.exists_cons_of_ne_nil
      (@segmentsFrom_ne_nil separator quote inside t)
    exact ⟨first, pieces, h, h⟩
  | quote hc _ ih =>
    obtain ⟨first, pieces, ht, hs⟩ := ih
    refine ⟨first, pieces, ht, ?_⟩
    rw [List.cons_append, segmentsFrom, if_pos hc, hs]
    rfl
  | other hc hinside _ ih =>
    obtain ⟨first, pieces, ht, hs⟩ := ih
    refine ⟨first, pieces, ht, ?_⟩
    rw [List.cons_append, segmentsFrom, if_neg hc, if_neg (by simp_all), hs]
    rfl

theorem Uncut.segmentsFrom_eq {inside inside' : Bool} {s : List Char}
    (h : Uncut separator quote inside s inside') : segmentsFrom separator quote inside s = [s] := by
  obtain ⟨first, pieces, hnil, hs⟩ := h.segmentsFrom_append []
  rw [segmentsFrom, List.cons.injEq] at hnil
  obtain ⟨rfl, rfl⟩ := hnil
  simpa using hs

/-- At a separator behind closed quotes the text is cut. -/
theorem Uncut.segmentsFrom_cut {inside : Bool} {c : Char} {s : List Char}
    (h : Uncut [c] quote inside s false) (hc : quote ≠ [c]) (t : List Char) :
    segmentsFrom [c] quote inside (s ++ c :: t) = s :: segmentsFrom [c] quote false t := by
  obtain ⟨first, pieces, ht, hs⟩ := h.segmentsFrom_append (c :: t)
  rw [segmentsFrom, if_neg hc, if_pos ⟨rfl, rfl⟩, List.cons.injEq] at ht
  obtain ⟨rfl, rfl⟩ := ht
  simpa using hs

/-! ### Cutting a name -/

/-- There is no white space at the ends of an identifier. -/
theorem IsIdentifier.trim_eq {before s after : List Char} (hs : IsIdentifier s)
    (hbefore : Blank before) (hafter : Blank after) : trim (before ++ (s ++ after)) = s := by
  have hall : ∀ c ∈ s, isBlank c = false := fun c hc => isBlank_of_isNameChar (hs.isNameChar c hc)
  exact trimBy_eq hbefore hafter (fun c hc => hall c (List.mem_of_head? hc))
    fun c hc => hall c (List.mem_of_getLast? hc)

/-- A segment begins and ends without white space, unless it stands between quotes that are white
space. -/
theorem IsSegment.trim_eq {q : Char} {before s after : List Char} (hs : IsSegment [q] s)
    (hplain : isBlank q = true → IsIdentifier s) (hbefore : Blank before) (hafter : Blank after) :
    trim (before ++ (s ++ after)) = s := by
  by_cases hq : isBlank q = true
  · exact (hplain hq).trim_eq hbefore hafter
  · rcases hs with hs | hs
    · rw [Bool.not_eq_true] at hq
      cases hs with
      | intro _ _ _ =>
        refine trimBy_eq hbefore hafter ?_ ?_
        · rintro _ ⟨⟩
          exact hq
        · rw [← List.append_assoc, List.getLast?_concat]
          rintro _ ⟨⟩
          exact hq
    · exact hs.trim_eq hbefore hafter

/-- A segment is not cut, nor is the white space around it. -/
theorem IsSegment.exists_uncut {q c : Char} {before s after : List Char} (hc : IsDelimiter c)
    (hs : IsSegment [q] s) (hplain : isBlank q = true → IsIdentifier s) (hbefore : Blank before)
    (hafter : Blank after) : ∃ inside, Uncut [c] [q] false (before ++ (s ++ after)) inside := by
  have hblank : ∀ {t : List Char}, Blank t → ∀ d ∈ t, [c] ≠ [d] := by
    rintro t ht d hd ⟨⟩
    simpa [hc.isBlank] using ht c hd
  by_cases hidentifier : IsIdentifier s
  · -- neither an identifier nor white space holds the separator
    refine Uncut.exists_of_forall_ne ?_ false
    refine List.forall_mem_append.mpr ⟨hblank hbefore, List.forall_mem_append.mpr ⟨?_, hblank hafter⟩⟩
    rintro d hd ⟨⟩
    simpa [hc.isNameChar] using hidentifier.isNameChar c hd
  · -- the quotes are no white space, and in the run the separator stands between them
    have hq : ¬ isBlank q = true := fun hq => hidentifier (hplain hq)
    have houtside : ∀ {t : List Char}, Blank t → Uncut [c] [q] false t false := by
      intro t ht
      refine Uncut.of_forall_ne fun d hd => ⟨?_, hblank ht d hd⟩
      rintro ⟨⟩
      exact hq (ht q hd)
    have hrun : Uncut [c] [q] false s false :=
      Uncut.of_isQuoted (hs.resolve_right hidentifier)
    exact ⟨false, (houtside hbefore).append (hrun.append (houtside hafter))⟩

/-- Each separator of the links stands behind an even number of quotes, where `before` is the text
in front of the links. -/
def EvenlyQuoted (q : Char) (separator : List Char) : List Char → List (Link quote) → Prop
  | _, [] => True
  | before, l :: links => (before ++ l.before).count q % 2 = 0 ∧
      EvenlyQuoted q separator (before ++ l.text separator) links

/-- Only whether the number of quotes in front of the links is even matters. -/
theorem evenlyQuoted_congr {q : Char} {before before' : List Char} (links : List (Link quote))
    (h : before.count q % 2 = before'.count q % 2) :
    EvenlyQuoted q separator before links ↔ EvenlyQuoted q separator before' links := by
  induction links generalizing before before' with
  | nil => exact Iff.rfl
  | cons l links ih =>
    have hhere : (before ++ l.before).count q % 2 = (before' ++ l.before).count q % 2 := by
      rw [List.count_append, List.count_append]
      omega
    have hthere : (before ++ l.text separator).count q % 2 =
        (before' ++ l.text separator).count q % 2 := by
      rw [List.count_append, List.count_append]
      omega
    rw [EvenlyQuoted, EvenlyQuoted, hhere, ih hthere]

/-- Cutting a name at a separator gives its segments, white space aside, exactly if the separators
between them stand behind even numbers of quotes. -/
theorem segmentsFrom_linked_iff {c q : Char} (hc : IsDelimiter c) (hne : c ≠ q)
    {lead segment : List Char} (hlead : Blank lead) (hsegment : IsSegment [q] segment)
    (hplain : isBlank q = true → IsIdentifier segment) {links : List (Link [q])}
    (hlinks : ∀ l ∈ links, isBlank q = true → IsIdentifier l.segment) :
    (segmentsFrom [c] [q] false (lead ++ segment ++ linked [c] links)).map trim =
        segment :: links.map Link.segment ↔ EvenlyQuoted q [c] (lead ++ segment) links := by
  -- what stands between two separators is cut off at a time
  induction links generalizing lead segment with
  | nil =>
    obtain ⟨inside, huncut⟩ :=
      hsegment.exists_uncut hc hplain hlead (List.forall_mem_nil _)
    have htrim := hsegment.trim_eq hplain hlead (List.forall_mem_nil _)
    rw [List.append_nil] at huncut htrim
    simp [huncut.segmentsFrom_eq, htrim, EvenlyQuoted]
  | cons l links ih =>
    obtain ⟨hl, hlinks⟩ := List.forall_mem_cons.mp hlinks
    obtain ⟨inside, huncut⟩ := hsegment.exists_uncut hc hplain hlead l.blank_before
    have htrim := hsegment.trim_eq hplain hlead l.blank_before
    have htext : lead ++ segment ++ linked [c] (l :: links) =
        lead ++ (segment ++ l.before) ++ c :: (l.after ++ l.segment ++ linked [c] links) := by
      simp [Link.text]
    have hquote : [q] ≠ [c] := fun h => hne (List.singleton_inj.mp h).symm
    rw [htext, EvenlyQuoted, List.append_assoc lead segment l.before, ← huncut.eq_iff]
    cases inside with
    | false =>
      have heven := huncut.eq_iff.mp rfl
      have hcongr : (lead ++ segment ++ l.text [c]).count q % 2 =
          (l.after ++ l.segment).count q % 2 := by
        rw [← List.append_assoc] at heven
        simp only [Link.text, ← List.append_assoc]
        simp only [List.count_append, List.count_singleton] at heven ⊢
        simp only [beq_iff_eq, hne, if_false]
        omega
      rw [huncut.segmentsFrom_cut hquote, List.map_cons, htrim, evenlyQuoted_congr links hcongr,
        ← ih l.blank_after l.isSegment hl hlinks]
      simp
    | true =>
      -- the separator stays in the piece, so that there is one more of them than in the segment
      obtain ⟨first, pieces, hfirst, hpieces⟩ :=
        huncut.segmentsFrom_append (c :: (l.after ++ l.segment ++ linked [c] links))
      have hmem : c ∈ first := by
        rw [segmentsFrom, if_neg hquote, if_neg (by simp)] at hfirst
        exact mem_of_onFirst_eq hfirst
      rw [hpieces]
      simp only [List.map_cons, List.cons.injEq, reduceCtorEq, false_and, iff_false, not_and]
      intro hpiece
      have hcount := congrArg (List.count c) hpiece
      rw [trim, count_trimBy hc.isBlank] at hcount
      simp only [List.count_append] at hcount
      have hpositive := List.count_pos_iff.mpr hmem
      omega

/-- A separator that is no single character never cuts. -/
theorem segments_of_length_ne_one (h : separator.length ≠ 1) (name : List Char) :
    segments separator quote name = [name] := by
  obtain ⟨inside, huncut⟩ : ∃ inside, Uncut separator quote false name inside := by
    refine Uncut.exists_of_forall_ne ?_ false
    rintro c - rfl
    exact h rfl
  exact huncut.segmentsFrom_eq

/-- **When the second cut gives the segments that were read.** With a quote that is white space the
segments have to be identifiers; and there is one segment only, or the separator is a single
character and each one between two segments stands behind an even number of quotes. -/
theorem Spelling.segments_cut_iff {q : Char} (hne : separator ≠ [])
    (hseparator : ∀ c ∈ separator, IsDelimiter c ∧ c ≠ q) (n : Spelling [q]) :
    (CallText.segments separator [q] (n.text separator)).map trim = n.segments ↔
      (isBlank q = true → ∀ s ∈ n.segments, IsIdentifier s) ∧
        (n.links = [] ∨ separator.length = 1 ∧ EvenlyQuoted q separator n.first n.links) := by
  by_cases hplain : isBlank q = true → ∀ s ∈ n.segments, IsIdentifier s
  · have hfirst : isBlank q = true → IsIdentifier n.first :=
      fun hq => hplain hq _ List.mem_cons_self
    have hlinks : ∀ l ∈ n.links, isBlank q = true → IsIdentifier l.segment :=
      fun l hl hq => hplain hq _ (List.mem_cons_of_mem _ (List.mem_map_of_mem hl))
    rw [and_iff_right hplain]
    by_cases hlength : separator.length = 1
    · obtain ⟨c, rfl⟩ := List.length_eq_one_iff.mp hlength
      obtain ⟨hc, hcq⟩ := hseparator c (List.mem_singleton_self c)
      have hcut := segmentsFrom_linked_iff hc hcq (List.forall_mem_nil _) n.isSegment hfirst hlinks
      rw [List.nil_append] at hcut
      rw [CallText.segments, Spelling.text, Spelling.segments, hcut, and_iff_right hlength]
      constructor
      · exact Or.inr
      · rintro (hnil | heven)
        · rw [hnil]
          trivial
        · exact heven
    · have htrim := n.isSegment.trim_eq hfirst (List.forall_mem_nil _) (List.forall_mem_nil _)
      rw [List.nil_append, List.append_nil] at htrim
      rw [segments_of_length_ne_one hlength, Spelling.text, Spelling.segments]
      cases hlinks : n.links with
      | nil => simp [htrim]
      | cons l links => simp [hlength]
  · -- a segment between white space does not come out of the trimming
    rw [and_iff_left_of_imp (fun h => absurd h hplain)]
    refine iff_of_false (fun heq => hplain fun hq s hs => ?_) hplain
    refine (n.isSegment_of_mem hs).resolve_left fun hquoted => ?_
    rw [← heq] at hs
    obtain ⟨piece, -, rfl⟩ := List.mem_map.mp hs
    generalize htrimmed : trim piece = s at hquoted
    cases hquoted with
    | intro _ _ _ =>
      have hhead := head?_trimBy (p := isBlank) (c := q) (s := piece) (by rw [← trim, htrimmed]; rfl)
      rw [hq] at hhead
      cases hhead

/-- In a segment there is an even number of quotes, if the quote is no identifier character. -/
theorem even_count_segment {q : Char} {s : List Char} (hname : isNameChar q = false)
    (hs : IsSegment [q] s) : s.count q % 2 = 0 := by
  rcases hs with hs | hs
  · exact (@Uncut.of_isQuoted [] q s hs).eq_iff.mp rfl
  · rw [List.count_eq_zero.mpr fun hq => ?_]
    simpa [hname] using hs.isNameChar q hq

/-- A quote that stands out comes in pairs, so the separators between segments all stand behind an
even number of quotes. -/
theorem evenlyQuoted_of_standing_out {q : Char} (hblank : isBlank q = false)
    (hname : isNameChar q = false) (hseparator : q ∉ separator) (links : List (Link [q]))
    {before : List Char} (hbefore : before.count q % 2 = 0) :
    EvenlyQuoted q separator before links := by
  have hzero : ∀ {t : List Char}, Blank t → t.count q = 0 := by
    refine fun ht => List.count_eq_zero.mpr fun hq => ?_
    simpa [hblank] using ht q hq
  induction links generalizing before with
  | nil => trivial
  | cons l links ih =>
    have hsegment := even_count_segment hname l.isSegment
    refine ⟨?_, ih ?_⟩
    · rw [List.count_append, hzero l.blank_before]
      omega
    · simp only [Link.text, List.count_append, hzero l.blank_before, hzero l.blank_after,
        List.count_eq_zero.mpr hseparator]
      omega

/-- No segment that a name is cut into is empty, white space aside. -/
theorem StandOut.trim_ne_nil {q : Char} (h : StandOut separator quote) (hquote : quote = [q])
    (n : Spelling quote) : ∀ s ∈ segments separator quote (n.text separator), trim s ≠ [] := by
  subst hquote
  have hq := h.quote_isDelimiter q (List.mem_singleton_self q)
  by_cases hlength : separator.length = 1
  · have heven : EvenlyQuoted q separator n.first n.links :=
      evenlyQuoted_of_standing_out hq.isBlank hq.isNameChar
        (fun hmem => h.not_mem_quote q hmem (List.mem_singleton_self q)) n.links
        (even_count_segment hq.isNameChar n.isSegment)
    have hseparator : ∀ c ∈ separator, IsDelimiter c ∧ c ≠ q := fun c hc =>
      ⟨h.separator_isDelimiter c hc, fun heq => h.not_mem_quote c hc (heq ▸ List.mem_singleton_self c)⟩
    have hcut := (n.segments_cut_iff h.separator_ne_nil hseparator).mpr
      ⟨by simp [hq.isBlank], Or.inr ⟨hlength, heven⟩⟩
    intro s hs
    have hmem := List.mem_map_of_mem (f := trim) hs
    rw [hcut] at hmem
    exact (n.isSegment_of_mem hmem).ne_nil
  · rw [segments_of_length_ne_one hlength, List.forall_mem_singleton, h.trim_text]
    exact n.text_ne_nil separator

/-- **When a name is cut into the segments that were read.** A name that the search gives can be
spelled, with segments that are identifiers or quoted runs, and however it is spelled: with a quote
that stands out it is cut into its segments exactly if there is only one or the separator is a
single character. With a quote that is an identifier character, each separator between two segments
has to stand behind an even number of quotes as well; with one that is white space, there may be no
quoted run besides. -/
theorem segments_as_read_iff {separator : List Char} {q : Char} (hne : separator ≠ [])
    (hseparator : ∀ c ∈ separator, IsDelimiter c ∧ c ≠ q) {text name : List Char}
    (h : target? separator [q] text = some name) :
    (∃ n : Spelling [q], n.text separator = name) ∧
    ∀ n : Spelling [q], n.text separator = name →
      (∀ s ∈ n.segments, s ≠ [] ∧ (IsQuoted [q] s ∨ IsIdentifier s)) ∧
      ((segments separator [q] name).map trim = n.segments ↔
        (isBlank q = true → ∀ s ∈ n.segments, IsIdentifier s) ∧
          (n.links = [] ∨ separator.length = 1 ∧ EvenlyQuoted q separator n.first n.links)) ∧
      (isBlank q = false → isNameChar q = false →
        ((segments separator [q] name).map trim = n.segments ↔
          n.links = [] ∨ separator.length = 1)) := by
  obtain ⟨before, after, hinvokes, -⟩ := exists_invokes_of_target? h
  refine ⟨hinvokes.spelled, ?_⟩
  rintro n rfl
  have hcut := n.segments_cut_iff hne hseparator
  refine ⟨fun s hs => ?_, hcut, fun hblank hname => ?_⟩
  · have hsegment := n.isSegment_of_mem hs
    exact ⟨hsegment.ne_nil, hsegment⟩
  · have heven : EvenlyQuoted q separator n.first n.links :=
      evenlyQuoted_of_standing_out hblank hname (fun hq => (hseparator q hq).2 rfl) n.links
        (even_count_segment hname n.isSegment)
    rw [hcut, and_iff_right (by simp [hblank]), and_iff_left heven]

/-- The separator in the quoted run does not cut, and the one with white space around it does. -/
theorem quoted_segment_as_read :
    target? ['.'] ['"'] "CALL \"a.\"\"b\" . c(?)".toList = some "\"a.\"\"b\" . c".toList ∧
    ∃ n : Spelling ['"'], n.text ['.'] = "\"a.\"\"b\" . c".toList ∧
      n.segments = ["\"a.\"\"b\"".toList, "c".toList] := by
  have hname : target? ['.'] ['"'] "CALL \"a.\"\"b\" . c(?)".toList =
      some "\"a.\"\"b\" . c".toList := by decide +kernel
  have hseparator : ∀ c ∈ ['.'], IsDelimiter c ∧ c ≠ '"' :=
    List.forall_mem_singleton.mpr (by decide +kernel)
  obtain ⟨⟨n, hn⟩, hall⟩ := segments_as_read_iff (by decide) hseparator hname
  have hsegments := ((hall n hn).2.2 (by decide) (by decide +kernel)).mpr (Or.inr rfl)
  exact ⟨hname, n, hn, by rw [← hsegments]; decide +kernel⟩

/-- A name is read as two segments around a separator of two characters, and cut into one. -/
theorem long_separator_never_cuts :
    ∃ n : Spelling ['"'],
      target? "::".toList ['"'] "CALL a::b(?)".toList = some (n.text "::".toList) ∧
      n.segments = ["a".toList, "b".toList] ∧
      (segments "::".toList ['"'] (n.text "::".toList)).map trim = ["a::b".toList] := by
  refine ⟨⟨"a".toList, [⟨[], [], "b".toList, List.forall_mem_nil _, List.forall_mem_nil _,
    Or.inr (by decide +kernel)⟩], Or.inr (by decide +kernel)⟩, ?_, rfl, ?_⟩
  · change target? "::".toList ['"'] "CALL a::b(?)".toList = some "a::b".toList
    decide +kernel
  · change (segments "::".toList ['"'] "a::b".toList).map trim = ["a::b".toList]
    decide +kernel

end ProcedureCall.CallText
