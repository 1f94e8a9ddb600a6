import ProcedureCall.Text.Pieces

/-!
# Laws of cutting and joining text

What stands after a beginning, what trimming takes away (characters of the class at either end and
nothing else), where a text is cut that was joined at a character, and what replacement leaves
alone.
-/

namespace ProcedureCall.Text

/-! ### After a beginning -/

theorem afterStart?_eq_some_iff {start s rest : List Char} :
    afterStart? start s = some rest ↔ s = start ++ rest := by
  induction start generalizing s with
  | nil => simp [afterStart?]
  | cons c start ih =>
    cases s with
    | nil => simp [afterStart?]
    | cons d s =>
      by_cases h : c = d
      · subst h
        simp [afterStart?, ih]
      · simp [afterStart?, h, Ne.symm h]

theorem isSome_afterStart? {start s : List Char} :
    (afterStart? start s).isSome = true ↔ ∃ rest, s = start ++ rest := by
  simp only [Option.isSome_iff_exists, afterStart?_eq_some_iff]

/-! ### Trimming -/

variable {p : Char → Bool}

theorem count_dropWhile {c : Char} (hc : p c = false) (s : List Char) :
    (s.dropWhile p).count c = s.count c := by
  induction s with
  | nil => rfl
  | cons d s ih =>
    by_cases hd : p d = true
    · have hne : d ≠ c := by
        rintro rfl
        rw [hc] at hd
        cases hd
      rw [List.dropWhile_cons_of_pos hd, List.count_cons_of_ne hne, ih]
    · rw [List.dropWhile_cons_of_neg hd]

/-- No character outside the class is lost. -/
theorem count_trimBy {c : Char} (hc : p c = false) (s : List Char) :
    (trimBy p s).count c = s.count c := by
  rw [trimBy, List.count_reverse, count_dropWhile hc, List.count_reverse, count_dropWhile hc]

/-- A trimmed text does not begin with a character of the class. -/
theorem head?_trimBy {c : Char} {s : List Char} (h : c ∈ (trimBy p s).head?) : p c = false := by
  -- what is left after the second cut is a beginning of what was left after the first
  have hsuffix : (s.dropWhile p).reverse.dropWhile p <:+ (s.dropWhile p).reverse :=
    List.dropWhile_suffix p
  obtain ⟨t, ht⟩ := List.reverse_prefix.mpr hsuffix
  rw [List.reverse_reverse] at ht
  have hhead : (s.dropWhile p).head? = some c := by
    rw [← ht, ← trimBy, List.head?_append, Option.mem_def.mp h, Option.some_or]
  have hnot := List.head?_dropWhile_not p s
  rw [hhead] at hnot
  exact hnot

/-- A text whose ends are outside the class is what trimming leaves of it. -/
theorem trimBy_eq {before s after : List Char} (hbefore : ∀ c ∈ before, p c = true)
    (hafter : ∀ c ∈ after, p c = true) (hhead : ∀ c ∈ s.head?, p c = false)
    (hlast : ∀ c ∈ s.getLast?, p c = false) : trimBy p (before ++ (s ++ after)) = s := by
  rw [trimBy, List.dropWhile_append_of_pos hbefore]
  cases s with
  | nil =>
    have hall : (after ++ []).dropWhile p = List.dropWhile p [] :=
      List.dropWhile_append_of_pos hafter
    rw [List.append_nil] at hall
    rw [List.nil_append, hall]
    rfl
  | cons c s =>
    have hc : ¬ p c = true := by simp [hhead c rfl]
    have hreverse : ∀ d ∈ after.reverse, p d = true := by simpa using hafter
    rw [List.cons_append, List.dropWhile_cons_of_neg hc, ← List.cons_append, List.reverse_append,
      List.dropWhile_append_of_pos hreverse]
    cases hr : (c :: s).reverse with
    | nil => simp at hr
    | cons d t =>
      have hd : p d = false := by
        refine hlast d ?_
        rw [← List.reverse_reverse (c :: s), List.getLast?_reverse, hr]
        rfl
      rw [List.dropWhile_cons_of_neg (by simp [hd]), ← hr, List.reverse_reverse]

/-- A text without characters of the class at its ends stays as it is. -/
theorem trimBy_eq_self {s : List Char} (h : ∀ c ∈ s, p c = false) : trimBy p s = s := by
  have htrim : trimBy p ([] ++ (s ++ [])) = s :=
    trimBy_eq (by simp) (by simp) (fun c hc => h c (List.mem_of_mem_head? hc))
      (fun c hc => h c (List.mem_of_getLast? hc))
  simpa using htrim

/-- A text that does not end in a character of the class is not trimmed at its end. -/
theorem trimEndBy_eq_self {s : List Char} (h : ∀ c ∈ s.getLast?, p c = false) :
    trimEndBy p s = s := by
  unfold trimEndBy
  rw [List.getLast?_eq_head?_reverse] at h
  cases hs : s.reverse with
  | nil => rw [List.dropWhile_nil, ← hs, List.reverse_reverse]
  | cons c rest =>
    rw [List.dropWhile_cons_of_neg, ← hs, List.reverse_reverse]
    simpa [hs] using h

/-! ### Cutting at a character -/

theorem cutFirst?_eq_none_iff {c : Char} {s : List Char} : cutFirst? c s = none ↔ c ∉ s := by
  induction s with
  | nil => simp [cutFirst?]
  | cons d s ih =>
    by_cases h : d = c
    · simp [cutFirst?, h]
    · simp [cutFirst?, h, ih, Ne.symm h]

theorem cutFirst?_append {c : Char} {before : List Char} (h : c ∉ before) (rest : List Char) :
    cutFirst? c (before ++ c :: rest) = some (before, rest) := by
  induction before with
  | nil => exact if_pos rfl
  | cons d before ih =>
    obtain ⟨hne, hbefore⟩ := List.ne_and_not_mem_of_not_mem_cons h
    rw [List.cons_append, cutFirst?, if_neg (Ne.symm hne), ih hbefore, Option.map_some]

/-- What stands on the two sides of a cut. -/
theorem cutFirst?_eq_some {c : Char} {s before rest : List Char}
    (h : cutFirst? c s = some (before, rest)) : c ∉ before ∧ s = before ++ c :: rest := by
  induction s generalizing before with
  | nil => simp [cutFirst?] at h
  | cons d s ih =>
    rw [cutFirst?] at h
    split at h
    case isTrue heq =>
      obtain ⟨rfl, rfl⟩ : [] = before ∧ s = rest := by simpa using h
      exact ⟨List.not_mem_nil, by rw [heq]; rfl⟩
    case isFalse hne =>
      obtain ⟨⟨front, back⟩, hcut, heq⟩ := Option.map_eq_some_iff.mp h
      obtain ⟨rfl, rfl⟩ := Prod.mk.inj heq
      obtain ⟨hfront, rfl⟩ := ih hcut
      exact ⟨List.not_mem_cons_of_ne_of_not_mem (Ne.symm hne) hfront, rfl⟩

theorem cutLast?_append {c : Char} (before : List Char) {rest : List Char} (h : c ∉ rest) :
    cutLast? c (before ++ c :: rest) = some (before, rest) := by
  have hreverse : (before ++ c :: rest).reverse = rest.reverse ++ c :: before.reverse := by simp
  rw [cutLast?, hreverse, cutFirst?_append (by simpa using h)]
  simp

theorem cutBy_of_not_mem {s : List Char} (h : ∀ c ∈ s, p c = false) : cutBy p s = [s] := by
  induction s with
  | nil => rfl
  | cons c s ih =>
    obtain ⟨hc, hs⟩ := List.forall_mem_cons.mp h
    rw [cutBy, hc, ih hs]

/-- The piece in front of the first character of the class. -/
theorem cutBy_append {c : Char} {before : List Char} (h : ∀ d ∈ before, p d = false)
    (hc : p c = true) (rest : List Char) :
    cutBy p (before ++ c :: rest) = before :: cutBy p rest := by
  induction before with
  | nil => rw [List.nil_append, cutBy, hc]
  | cons d before ih =>
    obtain ⟨hd, hbefore⟩ := List.forall_mem_cons.mp h
    rw [List.cons_append, cutBy, hd, ih hbefore]

/-- Pieces that were joined at a character of the class are found again. -/
theorem cutBy_intercalate {c : Char} (hc : p c = true) {piece : List Char}
    {pieces : List (List Char)} (h : ∀ piece' ∈ piece :: pieces, ∀ d ∈ piece', p d = false) :
    cutBy p ([c].intercalate (piece :: pieces)) = piece :: pieces := by
  induction pieces generalizing piece with
  | nil => simpa using cutBy_of_not_mem (h piece List.mem_cons_self)
  | cons next pieces ih =>
    obtain ⟨hpiece, hpieces⟩ := List.forall_mem_cons.mp h
    rw [List.intercalate_cons_cons, List.append_assoc, List.singleton_append,
      cutBy_append hpiece hc, ih hpieces]

/-! ### Replacement -/

/-- A character that is neither in the pattern nor in its replacement is neither lost nor added. -/
theorem count_replaceFrom {c : Char} {pattern replacement : List Char} (hne : pattern ≠ [])
    (hpattern : c ∉ pattern) (hreplacement : c ∉ replacement) (skip : Nat) (s : List Char) :
    (replaceFrom pattern replacement skip s).count c = (s.drop skip).count c := by
  induction s generalizing skip with
  | nil => simp [replaceFrom]
  | cons d s ih =>
    cases skip with
    | succ skip => exact ih skip
    | zero =>
      rw [replaceFrom]
      split
      case h_1 rest hrest =>
        -- what is passed over next is the rest of the occurrence
        obtain ⟨e, start, rfl⟩ := List.exists_cons_of_ne_nil hne
        rw [afterStart?_eq_some_iff, List.cons_append, List.cons.injEq] at hrest
        obtain ⟨rfl, rfl⟩ := hrest
        rw [List.count_append, List.count_eq_zero.mpr hreplacement, ih, List.length_cons,
          Nat.add_sub_cancel, List.drop_left, List.drop_zero, ← List.cons_append,
          List.count_append, List.count_eq_zero.mpr hpattern]
      case h_2 => rw [List.count_cons, ih, List.drop_zero, List.drop_zero, List.count_cons]

theorem count_replaceAll {c : Char} {pattern replacement : List Char} (hne : pattern ≠ [])
    (hpattern : c ∉ pattern) (hreplacement : c ∉ replacement) (s : List Char) :
    (replaceAll pattern replacement s).count c = s.count c :=
  count_replaceFrom hne hpattern hreplacement 0 s

end ProcedureCall.Text
