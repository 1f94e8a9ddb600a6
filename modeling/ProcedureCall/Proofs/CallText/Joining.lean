import ProcedureCall.Proofs.CallText.Segments

/-!
# Segments are joined to the name that they were cut from

Cutting drops nothing but the separators that it cuts at, so that a name is its segments with the
separator between them, however its quotes stand (`intercalate_segmentsFrom`). `Cuts` says which
lists of pieces the cut of a text gives: none of them is cut itself, and behind all but the last no
quote is open. Told by the numbers of quotes, these are the lists in which each separator stands
behind an odd number of the quotes of its piece and all but the last piece have an even number of
them (`segments_eq_iff`).
-/

namespace ProcedureCall.CallText

variable {separator : Char} {quote : List Char}

/-! ### Separators between quotes -/

/-- Each separator in a text stands behind an odd number of quotes. -/
def SeparatorsQuoted (separator : Char) (quote s : List Char) : Prop :=
  ∀ i, s[i]? = some separator → quotes quote (s.take i) % 2 = 1

/-- A segment that others may follow: it has an even number of quotes, and each separator in it
stands behind an odd one of them and so before the next. -/
structure IsWhole (separator : Char) (quote s : List Char) : Prop where
  /-- Its quotes come in pairs. -/
  even_quotes : quotes quote s % 2 = 0
  /-- The first quote of a pair stands in front of each separator. -/
  separatorsQuoted : SeparatorsQuoted separator quote s

instance (separator : Char) (quote s : List Char) :
    Decidable (SeparatorsQuoted separator quote s) :=
  decidable_of_iff
    (∀ i < s.length, s[i]? = some separator → quotes quote (s.take i) % 2 = 1)
    ⟨fun h i hi => h i (List.getElem?_eq_some_iff.mp hi).1 hi, fun h i _ hi => h i hi⟩

instance (separator : Char) (quote s : List Char) : Decidable (IsWhole separator quote s) :=
  decidable_of_iff (quotes quote s % 2 = 0 ∧ SeparatorsQuoted separator quote s)
    ⟨fun ⟨heven, hquoted⟩ => ⟨heven, hquoted⟩, fun ⟨heven, hquoted⟩ => ⟨heven, hquoted⟩⟩

/-- A quote more changes whether a quote is open. -/
theorem open_iff_of_toggled (inside : Bool) (n : Nat) :
    ((!inside) = true ↔ n % 2 = 0) ↔ (inside = true ↔ (n + 1) % 2 = 0) := by
  cases inside <;> simp <;> omega

/-- Where a separator stands in a text that is not cut, a quote is open. -/
theorem Uncut.open_iff {inside inside' : Bool} {s : List Char}
    (h : Uncut [separator] quote inside s inside') (hne : quote ≠ [separator]) {i : Nat}
    (hi : s[i]? = some separator) : inside = true ↔ quotes quote (s.take i) % 2 = 0 := by
  induction h generalizing i with
  | nil => simp at hi
  | quote hc _ ih =>
    cases i with
    | zero =>
      -- the quote is no separator
      rw [List.getElem?_cons_zero, Option.some.injEq] at hi
      exact absurd (hi ▸ hc) hne
    | succ i =>
      rw [List.getElem?_cons_succ] at hi
      rw [List.take_succ_cons, quotes_cons_self hc, ← open_iff_of_toggled]
      exact ih hi
  | other hc hinside _ ih =>
    cases i with
    | zero =>
      rw [List.getElem?_cons_zero, Option.some.injEq] at hi
      simp [hinside (by rw [hi])]
    | succ i =>
      rw [List.getElem?_cons_succ] at hi
      rw [List.take_succ_cons, quotes_cons_of_ne hc]
      exact ih hi

/-- A text is not cut if a quote is open wherever a separator stands. -/
theorem exists_uncut_of_open {inside : Bool} {s : List Char}
    (h : ∀ i, s[i]? = some separator → (inside = true ↔ quotes quote (s.take i) % 2 = 0)) :
    ∃ inside', Uncut [separator] quote inside s inside' := by
  induction s generalizing inside with
  | nil => exact ⟨inside, .nil⟩
  | cons c s ih =>
    by_cases hc : quote = [c]
    · obtain ⟨inside', hs⟩ := @ih (!inside) fun i hi => by
        have hopen := h (i + 1) (by rwa [List.getElem?_cons_succ])
        rwa [List.take_succ_cons, quotes_cons_self hc, ← open_iff_of_toggled] at hopen
      exact ⟨inside', .quote hc hs⟩
    · obtain ⟨inside', hs⟩ := @ih inside fun i hi => by
        have hopen := h (i + 1) (by rwa [List.getElem?_cons_succ])
        rwa [List.take_succ_cons, quotes_cons_of_ne hc] at hopen
      refine ⟨inside', .other hc (fun hseparator => ?_) hs⟩
      have hopen := h 0 (by rw [List.getElem?_cons_zero, List.singleton_inj.mp hseparator])
      exact hopen.mpr rfl

theorem exists_uncut_iff (hne : quote ≠ [separator]) {s : List Char} :
    (∃ inside, Uncut [separator] quote false s inside) ↔ SeparatorsQuoted separator quote s := by
  constructor
  · rintro ⟨inside, h⟩ i hi
    have hopen := h.open_iff hne hi
    simpa using hopen
  · intro h
    refine exists_uncut_of_open fun i hi => ?_
    simpa using h i hi

/-- A segment is whole exactly if it is not cut and leaves no quote open. -/
theorem uncut_iff_isWhole (hne : quote ≠ [separator]) {s : List Char} :
    Uncut [separator] quote false s false ↔ IsWhole separator quote s := by
  constructor
  · intro h
    exact ⟨h.eq_iff_quotes.mp rfl, (exists_uncut_iff hne).mp ⟨false, h⟩⟩
  · rintro ⟨heven, hquoted⟩
    obtain ⟨inside, h⟩ := (exists_uncut_iff hne).mpr hquoted
    obtain rfl := h.eq_iff_quotes.mpr heven
    exact h

/-! ### The pieces between the cuts -/

/-- What lies between the cuts of a text: no piece is cut itself, and behind all but the last no
quote is open. The truth value tells whether a quote is open before the first. -/
inductive Cuts (separator : Char) (quote : List Char) : Bool → List (List Char) → Prop where
  /-- There is no cut. -/
  | last {inside inside' : Bool} {piece : List Char} :
      Uncut [separator] quote inside piece inside' → Cuts separator quote inside [piece]
  /-- There is a cut behind the first piece. -/
  | cons {inside : Bool} {piece : List Char} {pieces : List (List Char)} :
      Uncut [separator] quote inside piece false → Cuts separator quote false pieces →
      Cuts separator quote inside (piece :: pieces)

theorem Cuts.ne_nil {inside : Bool} {pieces : List (List Char)}
    (h : Cuts separator quote inside pieces) : pieces ≠ [] := by
  cases h <;> exact List.cons_ne_nil _ _

/-- A character that does not cut the first piece stands in front of it. -/
theorem Cuts.onFirst {inside inside' : Bool} {c : Char} {pieces : List (List Char)}
    (h : Cuts separator quote inside' pieces)
    (hstep : ∀ {piece b}, Uncut [separator] quote inside' piece b →
      Uncut [separator] quote inside (c :: piece) b) :
    Cuts separator quote inside (onFirst c pieces) := by
  cases h with
  | last hpiece => exact .last (hstep hpiece)
  | cons hpiece hpieces => exact .cons (hstep hpiece) hpieces

/-- The pieces that a text is cut into lie between its cuts. -/
theorem cuts_segmentsFrom (inside : Bool) (s : List Char) :
    Cuts separator quote inside (segmentsFrom [separator] quote inside s) := by
  induction s generalizing inside with
  | nil => exact .last .nil
  | cons c s ih =>
    rw [segmentsFrom]
    split
    case isTrue hc => exact (ih (!inside)).onFirst fun hpiece => .quote hc hpiece
    case isFalse hc =>
      split
      case isTrue hcut =>
        obtain ⟨-, rfl⟩ := hcut
        exact .cons .nil (ih false)
      case isFalse hcut =>
        refine (ih inside).onFirst fun hpiece => .other hc (fun hseparator => ?_) hpiece
        simpa [hseparator] using hcut

/-- Pieces that can lie between cuts are what the text is cut into that they are joined to. -/
theorem Cuts.segmentsFrom_eq {inside : Bool} {pieces : List (List Char)}
    (h : Cuts separator quote inside pieces) (hne : quote ≠ [separator]) :
    segmentsFrom [separator] quote inside ([separator].intercalate pieces) = pieces := by
  induction h with
  | last hpiece =>
    rw [List.intercalate_singleton]
    exact hpiece.segmentsFrom_eq
  | cons hpiece hpieces ih =>
    obtain ⟨next, pieces, rfl⟩ := List.exists_cons_of_ne_nil hpieces.ne_nil
    rw [List.intercalate_cons_cons, List.append_assoc, List.singleton_append,
      hpiece.segmentsFrom_cut hne, ih]

theorem cuts_singleton_iff (hne : quote ≠ [separator]) {piece : List Char} :
    Cuts separator quote false [piece] ↔ SeparatorsQuoted separator quote piece := by
  rw [← exists_uncut_iff hne]
  constructor
  · rintro (h | ⟨-, h⟩)
    · exact ⟨_, h⟩
    · exact absurd rfl h.ne_nil
  · rintro ⟨inside, h⟩
    exact .last h

theorem cuts_cons_cons_iff (hne : quote ≠ [separator]) {piece next : List Char}
    {pieces : List (List Char)} :
    Cuts separator quote false (piece :: next :: pieces) ↔
      IsWhole separator quote piece ∧ Cuts separator quote false (next :: pieces) := by
  rw [← uncut_iff_isWhole hne]
  constructor
  · rintro (_ | ⟨h, hrest⟩)
    exact ⟨h, hrest⟩
  · rintro ⟨h, hrest⟩
    exact .cons h hrest

/-- Whether pieces can lie between cuts is told by where their quotes and separators stand. -/
theorem cuts_iff (hne : quote ≠ [separator]) {pieces : List (List Char)} :
    Cuts separator quote false pieces ↔
      pieces ≠ [] ∧ (∀ piece ∈ pieces, SeparatorsQuoted separator quote piece) ∧
        ∀ piece ∈ pieces.dropLast, quotes quote piece % 2 = 0 := by
  -- only the last piece may leave a quote open, so it is kept apart
  induction pieces with
  | nil => exact iff_of_false (fun h => h.ne_nil rfl) fun h => h.1 rfl
  | cons piece pieces ih =>
    cases pieces with
    | nil => simp [cuts_singleton_iff hne]
    | cons next pieces =>
      rw [cuts_cons_cons_iff hne, ih, List.dropLast_cons_cons]
      constructor
      · rintro ⟨hwhole, -, hquoted, heven⟩
        exact ⟨List.cons_ne_nil _ _,
          List.forall_mem_cons.mpr ⟨hwhole.separatorsQuoted, hquoted⟩,
          List.forall_mem_cons.mpr ⟨hwhole.even_quotes, heven⟩⟩
      · rintro ⟨-, hquoted, heven⟩
        obtain ⟨hfirst_quoted, hquoted⟩ := List.forall_mem_cons.mp hquoted
        obtain ⟨hfirst_even, heven⟩ := List.forall_mem_cons.mp heven
        exact ⟨⟨hfirst_even, hfirst_quoted⟩, List.cons_ne_nil _ _, hquoted, heven⟩

/-! ### Joining -/

theorem intercalate_onFirst (between : List Char) (c : Char) (pieces : List (List Char)) :
    between.intercalate (onFirst c pieces) = c :: between.intercalate pieces := by
  cases pieces with
  | nil => rfl
  | cons piece pieces =>
    cases pieces with
    | nil => simp [onFirst]
    | cons next pieces => simp [onFirst, List.intercalate_cons_cons]

/-- Joining the pieces of a text with the separator gives the text, whatever the separator and the
quote are. -/
theorem intercalate_segmentsFrom (between quote : List Char) (inside : Bool) (s : List Char) :
    between.intercalate (segmentsFrom between quote inside s) = s := by
  induction s generalizing inside with
  | nil => simp [segmentsFrom]
  | cons c s ih =>
    rw [segmentsFrom]
    split
    case isTrue => rw [intercalate_onFirst, ih]
    case isFalse =>
      split
      case isTrue hcut =>
        -- the character that is dropped here is the separator
        obtain ⟨next, pieces, hpieces⟩ := List.exists_cons_of_ne_nil
          (@segmentsFrom_ne_nil between quote inside s)
        have hrest := ih inside
        rw [hpieces] at hrest ⊢
        rw [List.intercalate_cons_cons, hrest, hcut.1]
        rfl
      case isFalse => rw [intercalate_onFirst, ih]

/-- **Which segments a name has.** They are the pieces that the name is joined of in which each
separator stands behind an odd number of quotes and all but the last of which have an even number
of quotes. -/
theorem segments_eq_iff (hne : quote ≠ [separator]) {name : List Char}
    {pieces : List (List Char)} :
    segments [separator] quote name = pieces ↔
      pieces ≠ [] ∧ [separator].intercalate pieces = name ∧
        (∀ piece ∈ pieces, SeparatorsQuoted separator quote piece) ∧
        ∀ piece ∈ pieces.dropLast, quotes quote piece % 2 = 0 := by
  constructor
  · rintro rfl
    obtain ⟨hnonempty, hquoted, heven⟩ := (cuts_iff hne).mp (cuts_segmentsFrom false name)
    exact ⟨hnonempty, intercalate_segmentsFrom [separator] quote false name, hquoted, heven⟩
  · rintro ⟨hnonempty, rfl, hquoted, heven⟩
    exact ((cuts_iff hne).mpr ⟨hnonempty, hquoted, heven⟩).segmentsFrom_eq hne

/-- A quote that is not closed keeps the rest of the name together. -/
example : segments ['.'] ['"'] "a.\"b.c".toList = ["a".toList, "\"b.c".toList] := by
  decide

/-- **Joining undoes cutting, and cutting undoes joining.** The segments of a name, joined with the
separator, are the name, also if its quotes are not closed; and whole segments, joined with the
separator, are cut into themselves. There may be no quote; then a segment is whole if there is no
separator in it. -/
theorem segments_joined (hne : quote ≠ [separator]) :
    (∀ name, [separator].intercalate (segments [separator] quote name) = name) ∧
    ∀ pieces, pieces ≠ [] → (∀ piece ∈ pieces, IsWhole separator quote piece) →
      segments [separator] quote ([separator].intercalate pieces) = pieces := by
  refine ⟨intercalate_segmentsFrom [separator] quote false, fun pieces hnonempty hwhole => ?_⟩
  refine (segments_eq_iff hne).mpr ⟨hnonempty, rfl, fun piece hpiece => ?_, fun piece hpiece => ?_⟩
  · exact (hwhole piece hpiece).separatorsQuoted
  · exact (hwhole piece (List.dropLast_subset _ hpiece)).even_quotes

/-- A segment with a separator and a doubled quote in it, one without a character, and nothing
behind the last separator; and a name with a quote that is not closed. -/
theorem doubled_quote_joined :
    ['"'] ≠ ['.'] ∧
    (∀ piece ∈ ["\"a.\"\"b\"".toList, [], "c".toList, []], IsWhole '.' ['"'] piece) ∧
    segments ['.'] ['"'] "\"a.\"\"b\"..c.".toList =
      ["\"a.\"\"b\"".toList, [], "c".toList, []] ∧
    ['.'].intercalate (segments ['.'] ['"'] "a.\"b.c".toList) = "a.\"b.c".toList := by
  have hne : ['"'] ≠ ['.'] := by decide
  have hwhole : ∀ piece ∈ ["\"a.\"\"b\"".toList, [], "c".toList, []],
      IsWhole '.' ['"'] piece := by decide +kernel
  obtain ⟨hjoined, hcut⟩ := segments_joined hne
  exact ⟨hne, hwhole, hcut _ (List.cons_ne_nil _ _) hwhole, hjoined _⟩

end ProcedureCall.CallText
