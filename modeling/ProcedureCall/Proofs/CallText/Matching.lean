import Mathlib.Data.List.TakeWhile
import ProcedureCall.Proofs.CallText.Grammar
import ProcedureCall.Proofs.Text.Pieces

/-!
# The matcher follows the grammar

Each matcher gives the rests of a text that it can leave, and these are the rests after a text of
its grammar, neither more nor fewer. So a name is found at a place exactly if one can be spelled
there that is invoked, whichever way the matcher prefers; and the search finds one at the leftmost
such place.

## What is proved

* `mem_segmentRests`, `mem_separatorRests` — what the matchers of the parts leave.
* `nameRest?_eq_some`, `isSome_nameRest?` — a name that is found is spelled and invoked, and it is
  found if there is one.
* `search?_eq_some`, `search?_eq_none` — what the search finds, and when it finds nothing.

Nothing is assumed of the separator and the quote.
-/

namespace ProcedureCall.CallText

open Text

/-! ### Parts of a name -/

theorem mem_runRests {p : Char → Bool} {s rest : List Char} :
    rest ∈ runRests p s ↔ ∃ run, (∀ c ∈ run, p c = true) ∧ s = run ++ rest := by
  induction s with
  | nil =>
    rw [runRests, List.mem_singleton]
    constructor
    · rintro rfl
      exact ⟨[], by simp⟩
    · rintro ⟨run, -, h⟩
      exact (List.append_eq_nil_iff.mp h.symm).2
  | cons c s ih =>
    rw [runRests]
    by_cases hc : p c = true
    · rw [if_pos hc, List.mem_append, ih, List.mem_singleton]
      constructor
      · rintro (⟨run, hrun, rfl⟩ | rfl)
        · exact ⟨c :: run, List.forall_mem_cons.mpr ⟨hc, hrun⟩, rfl⟩
        · exact ⟨[], by simp⟩
      · rintro ⟨run, hrun, h⟩
        rcases List.cons_eq_append_iff.mp h with ⟨-, rfl⟩ | ⟨run', rfl, hs⟩
        · exact Or.inr rfl
        · exact Or.inl ⟨run', (List.forall_mem_cons.mp hrun).2, hs⟩
    · rw [if_neg hc, List.mem_singleton]
      constructor
      · rintro rfl
        exact ⟨[], by simp⟩
      · rintro ⟨run, hrun, h⟩
        rcases List.cons_eq_append_iff.mp h with ⟨-, rfl⟩ | ⟨run', rfl, -⟩
        · rfl
        · exact absurd (List.forall_mem_cons.mp hrun).1 hc

theorem mem_identifierRests {s rest : List Char} :
    rest ∈ identifierRests s ↔ ∃ name, IsIdentifier name ∧ s = name ++ rest := by
  cases s with
  | nil =>
    simp only [identifierRests, List.not_mem_nil, false_iff, not_exists, not_and]
    intro name hname h
    exact hname.ne_nil (List.append_eq_nil_iff.mp h.symm).1
  | cons c s =>
    rw [identifierRests, List.mem_ite_nil_right, mem_runRests]
    constructor
    · rintro ⟨hc, run, hrun, rfl⟩
      exact ⟨c :: run, .intro hc hrun, rfl⟩
    · rintro ⟨name, hname, h⟩
      cases hname with
      | intro hd hrun =>
        rw [List.cons_append, List.cons.injEq] at h
        obtain ⟨rfl, rfl⟩ := h
        exact ⟨hd, _, hrun, rfl⟩

/-! ### Quoted runs -/

/-- The characters that are passed over do not matter. -/
theorem closingRests_eq_drop {q : Char} {qs : List Char} {inside : Bool} (skip : Nat)
    (s : List Char) :
    closingRests q qs skip inside s = closingRests q qs 0 inside (s.drop skip) := by
  induction skip generalizing s with
  | zero => rfl
  | succ skip ih =>
    cases s with
    | nil => simp [closingRests]
    | cons c s => exact ih s

/-- The three ways on from a character between quotes: it stands for itself, a doubled quote
begins, or the closing quote does. -/
theorem mem_closingRests_cons {q c : Char} {qs s rest : List Char} {inside : Bool} :
    rest ∈ closingRests q qs 0 inside (c :: s) ↔
      (c ∉ q :: qs ∧ rest ∈ closingRests q qs 0 true s) ∨
      (∃ t, c :: s = q :: qs ++ (q :: qs ++ t) ∧ rest ∈ closingRests q qs 0 true t) ∨
      (inside = true ∧ c :: s = q :: qs ++ rest) := by
  have hdoubled : (rest ∈ if (afterStart? (q :: qs ++ q :: qs) (c :: s)).isSome then
        closingRests q qs (2 * qs.length + 1) true s else []) ↔
      ∃ t, c :: s = q :: qs ++ (q :: qs ++ t) ∧ rest ∈ closingRests q qs 0 true t := by
    rw [List.mem_ite_nil_right, isSome_afterStart?, closingRests_eq_drop]
    have hdrop : ∀ t, c :: s = q :: qs ++ (q :: qs ++ t) → s.drop (2 * qs.length + 1) = t := by
      intro t ht
      have hlength : 2 * qs.length + 1 = (qs ++ q :: qs).length := by
        rw [List.length_append, List.length_cons]
        omega
      have hs : s = (qs ++ q :: qs) ++ t := by
        rw [List.append_assoc]
        exact (List.cons.inj ht).2
      rw [hs, hlength, List.drop_left]
    simp only [List.append_assoc]
    constructor
    · rintro ⟨⟨t, ht⟩, h⟩
      exact ⟨t, ht, hdrop t ht ▸ h⟩
    · rintro ⟨t, ht, h⟩
      exact ⟨⟨t, ht⟩, hdrop t ht ▸ h⟩
  rw [closingRests, List.mem_append, List.mem_append, hdoubled, List.mem_ite_nil_left,
    List.contains_iff_mem, List.mem_ite_nil_right, Option.mem_toList,
    afterStart?_eq_some_iff, or_assoc]

/-- What a closing quote leaves, after the inner part that is still to come. -/
theorem mem_closingRests {q : Char} {qs rest : List Char} {inside : Bool} {s : List Char} :
    rest ∈ closingRests q qs 0 inside s ↔
      ∃ inner, QuotedInner (q :: qs) inner ∧ (inside = false → inner ≠ []) ∧
        s = inner ++ (q :: qs ++ rest) := by
  -- a character or a doubled quote is taken off the text at a time
  induction hn : s.length using Nat.strongRecOn generalizing inside s with
  | _ n ih =>
    subst hn
    cases s with
    | nil => simp [closingRests]
    | cons c s =>
      have hshorter : ∀ t, t.length < (c :: s).length → (rest ∈ closingRests q qs 0 true t ↔
          ∃ inner, QuotedInner (q :: qs) inner ∧ t = inner ++ (q :: qs ++ rest)) := by
        intro t ht
        simpa using @ih t.length ht true t rfl
      rw [mem_closingRests_cons]
      constructor
      · rintro (⟨hc, h⟩ | ⟨t, ht, h⟩ | ⟨hinside, h⟩)
        · obtain ⟨inner, hinner, rfl⟩ := (hshorter s (by simp)).mp h
          exact ⟨c :: inner, .other hc hinner, fun _ => List.cons_ne_nil _ _, rfl⟩
        · have hlength : t.length < (c :: s).length := by
            rw [ht]
            simp only [List.length_append, List.length_cons]
            omega
          obtain ⟨inner, hinner, rfl⟩ := (hshorter t hlength).mp h
          refine ⟨q :: qs ++ (q :: qs ++ inner), .doubled hinner, by simp, ?_⟩
          rw [ht]
          simp only [List.append_assoc]
        · exact ⟨[], .nil, by simp [hinside], h⟩
      · rintro ⟨inner, hinner, hne, h⟩
        cases hinner with
        | nil =>
          have hinside : inside = true := by
            rw [← Bool.not_eq_false]
            exact fun hfalse => hne hfalse rfl
          exact Or.inr (Or.inr ⟨hinside, h⟩)
        | @other d inner hd hinner =>
          rw [List.cons_append, List.cons.injEq] at h
          obtain ⟨rfl, rfl⟩ := h
          exact Or.inl ⟨hd, (hshorter _ (by simp)).mpr ⟨inner, hinner, rfl⟩⟩
        | @doubled inner hinner =>
          rw [List.append_assoc, List.append_assoc] at h
          refine Or.inr (Or.inl ⟨_, h, (hshorter _ ?_).mpr ⟨inner, hinner, rfl⟩⟩)
          rw [h]
          simp only [List.length_append, List.length_cons]
          omega

theorem mem_quotedRests {quote s rest : List Char} :
    rest ∈ quotedRests quote s ↔ ∃ run, IsQuoted quote run ∧ s = run ++ rest := by
  cases quote with
  | nil =>
    simp only [quotedRests, List.not_mem_nil, false_iff, not_exists, not_and]
    intro run hrun
    cases hrun with
    | intro hquote _ _ => exact absurd rfl hquote
  | cons q qs =>
    have hopening : rest ∈ quotedRests (q :: qs) s ↔
        ∃ t, s = q :: qs ++ t ∧ rest ∈ closingRests q qs 0 false t := by
      simp only [quotedRests, ← afterStart?_eq_some_iff]
      cases afterStart? (q :: qs) s with
      | none => simp
      | some t => simp
    rw [hopening]
    simp only [mem_closingRests]
    constructor
    · rintro ⟨t, rfl, inner, hinner, hne, rfl⟩
      exact ⟨_, .intro (List.cons_ne_nil _ _) (hne trivial) hinner, by simp⟩
    · rintro ⟨run, hrun, rfl⟩
      cases hrun with
      | @intro inner _ hne hinner =>
        exact ⟨inner ++ (q :: qs ++ rest), by simp, inner, hinner, fun _ => hne, rfl⟩

/-! ### Segments and separators -/

theorem mem_segmentRests {quote s rest : List Char} :
    rest ∈ segmentRests quote s ↔ ∃ segment, IsSegment quote segment ∧ s = segment ++ rest := by
  rw [segmentRests, List.mem_append, mem_quotedRests, mem_identifierRests]
  constructor
  · rintro (⟨run, hrun, rfl⟩ | ⟨name, hname, rfl⟩)
    · exact ⟨run, Or.inl hrun, rfl⟩
    · exact ⟨name, Or.inr hname, rfl⟩
  · rintro ⟨segment, hquoted | hidentifier, rfl⟩
    · exact Or.inl ⟨segment, hquoted, rfl⟩
    · exact Or.inr ⟨segment, hidentifier, rfl⟩

theorem mem_separatorRests {separator s rest : List Char} :
    rest ∈ separatorRests separator s ↔
      ∃ before after, Blank before ∧ Blank after ∧ s = before ++ (separator ++ (after ++ rest)) := by
  simp only [separatorRests, List.mem_flatMap, mem_runRests, Option.mem_toList,
    afterStart?_eq_some_iff]
  constructor
  · rintro ⟨_, ⟨before, hbefore, rfl⟩, _, rfl, after, hafter, rfl⟩
    exact ⟨before, after, hbefore, hafter, rfl⟩
  · rintro ⟨before, after, hbefore, hafter, rfl⟩
    exact ⟨_, ⟨before, hbefore, rfl⟩, _, rfl, after, hafter, rfl⟩

theorem opensCall_iff {s : List Char} : opensCall s = true ↔ Opens s := by
  unfold opensCall
  constructor
  · intro h
    rw [beq_iff_eq, List.head?_eq_some_iff] at h
    obtain ⟨after, hafter⟩ := h
    rw [← List.takeWhile_append_dropWhile (p := isBlank) (l := s), hafter]
    exact .intro fun c hc => List.mem_takeWhile_imp hc
  · intro h
    cases h with
    | intro hblanks =>
      rw [List.dropWhile_append_of_pos hblanks, List.dropWhile_cons_of_neg (by decide)]
      rfl

/-! ### Names -/

variable {separator quote : List Char}

/-- After a separator and a segment, one link of a name has been read. -/
theorem exists_link_of_mem {s between rest : List Char} (hbetween : between ∈ separatorRests separator s)
    (hrest : rest ∈ segmentRests quote between) :
    ∃ l : Link quote, s = l.text separator ++ rest := by
  obtain ⟨before, after, hbefore, hafter, rfl⟩ := mem_separatorRests.mp hbetween
  obtain ⟨segment, hsegment, rfl⟩ := mem_segmentRests.mp hrest
  exact ⟨⟨before, after, segment, hbefore, hafter, hsegment⟩, by simp [Link.text]⟩

theorem Link.exists_mem (separator : List Char) (l : Link quote) (rest : List Char) :
    ∃ between ∈ separatorRests separator (l.text separator ++ rest),
      rest ∈ segmentRests quote between := by
  refine ⟨l.segment ++ rest, mem_separatorRests.mpr ⟨l.before, l.after, l.blank_before,
    l.blank_after, by simp [Link.text]⟩, mem_segmentRests.mpr ⟨_, l.isSegment, rfl⟩⟩

theorem Link.length_lt (l : Link quote) (rest : List Char) :
    rest.length < (l.text separator ++ rest).length := by
  have hsegment := List.length_pos_iff.mpr l.isSegment.ne_nil
  simp only [Link.text, List.length_append]
  omega

/-- What is taken for the further segments are such, and the name is invoked. -/
theorem moreRest?_eq_some {s rest : List Char} (h : moreRest? separator quote s = some rest) :
    ∃ links : List (Link quote), s = linked separator links ++ rest ∧ Opens rest := by
  -- each link that is read makes the text shorter
  induction hn : s.length using Nat.strongRecOn generalizing s with
  | _ n ih =>
    subst hn
    rw [moreRest?, Option.orElse_eq_orElse, Option.orElse_eq_or, Option.or_eq_some_iff] at h
    rcases h with h | ⟨-, h⟩
    · obtain ⟨between, hbetween, h⟩ := List.exists_of_findSome?_eq_some h
      obtain ⟨rest', hrest, h⟩ := List.exists_of_findSome?_eq_some h
      obtain ⟨l, rfl⟩ := exists_link_of_mem hbetween hrest
      rw [if_pos (l.length_lt rest')] at h
      obtain ⟨links, rfl, hopens⟩ := ih _ (l.length_lt rest') h rfl
      exact ⟨l :: links, by simp, hopens⟩
    · rw [Option.ite_none_right_eq_some, Option.some.injEq, opensCall_iff] at h
      obtain ⟨hopens, rfl⟩ := h
      exact ⟨[], rfl, hopens⟩

/-- If the further segments of an invoked name can be read, some are. -/
theorem isSome_moreRest? (links : List (Link quote)) {rest : List Char} (h : Opens rest) :
    (moreRest? separator quote (linked separator links ++ rest)).isSome = true := by
  induction links with
  | nil =>
    rw [moreRest?, Option.orElse_eq_orElse, Option.orElse_eq_or, Option.isSome_or, Bool.or_eq_true]
    right
    rw [linked_nil, List.nil_append, if_pos (opensCall_iff.mpr h)]
    rfl
  | cons l links ih =>
    rw [moreRest?, Option.orElse_eq_orElse, Option.orElse_eq_or, Option.isSome_or, Bool.or_eq_true]
    left
    rw [linked_cons, List.append_assoc]
    obtain ⟨between, hbetween, hrest⟩ :=
      l.exists_mem separator (linked separator links ++ rest)
    refine List.findSome?_isSome_iff.mpr ⟨between, hbetween, ?_⟩
    refine List.findSome?_isSome_iff.mpr ⟨_, hrest, ?_⟩
    rw [if_pos (l.length_lt _)]
    exact ih

/-- A name that is found is spelled and invoked. -/
theorem nameRest?_eq_some {s rest : List Char} (h : nameRest? separator quote s = some rest) :
    ∃ n : Spelling quote, s = n.text separator ++ rest ∧ Opens rest := by
  obtain ⟨rest', hrest, hmore⟩ := List.exists_of_findSome?_eq_some h
  obtain ⟨segment, hsegment, rfl⟩ := mem_segmentRests.mp hrest
  obtain ⟨links, rfl, hopens⟩ := moreRest?_eq_some hmore
  exact ⟨⟨segment, links, hsegment⟩, by simp [Spelling.text], hopens⟩

/-- Where an invoked name can be spelled, a name is found. -/
theorem isSome_nameRest? (separator : List Char) (n : Spelling quote) {rest : List Char} (h : Opens rest) :
    (nameRest? separator quote (n.text separator ++ rest)).isSome = true := by
  rw [Spelling.text, List.append_assoc]
  exact List.findSome?_isSome_iff.mpr
    ⟨_, mem_segmentRests.mpr ⟨_, n.isSegment, rfl⟩, isSome_moreRest? n.links h⟩

/-! ### The search -/

theorem isBoundary_iff {before : List Char} :
    isBoundary quote before.getLast? = true ↔ StandsFree quote before := by
  unfold isBoundary StandsFree
  cases before.getLast? with
  | none => simp
  | some c => simp

/-- At a place where the search goes on, no name is invoked. -/
theorem not_invokes_here {before s : List Char}
    (h : (if isBoundary quote before.getLast? then nameRest? separator quote s else none) = none)
    {name after : List Char} : ¬ Invokes separator quote (before ++ s) before name after := by
  rintro ⟨htext, hfree, ⟨n, rfl⟩, hopens⟩
  rw [if_pos (isBoundary_iff.mpr hfree), List.append_cancel_left htext] at h
  simpa [h] using isSome_nameRest? separator n hopens

/-- What is invoked behind a character that begins the text is invoked behind it in the rest. -/
theorem Invokes.exists_of_cons {before s between name after : List Char} {c : Char}
    (h : Invokes separator quote (before ++ c :: s) (before ++ between) name after)
    (hne : between ≠ []) : ∃ between', between = c :: between' ∧
      Invokes separator quote (before ++ [c] ++ s) (before ++ [c] ++ between') name after := by
  cases between with
  | nil => exact absurd rfl hne
  | cons d between =>
    have htext := h.text_eq
    rw [List.append_assoc, List.append_cancel_left_eq, List.cons_append, List.cons.injEq] at htext
    obtain ⟨rfl, -⟩ := htext
    exact ⟨between, rfl, by simpa using h⟩

/-- What the search finds behind `before` is invoked there, and nothing is invoked in between. -/
theorem search?_eq_some {before s name : List Char}
    (h : search? separator quote before.getLast? s = some name) :
    ∃ between after, Invokes separator quote (before ++ s) (before ++ between) name after ∧
      ∀ between' name' after',
        Invokes separator quote (before ++ s) (before ++ between') name' after' →
          between.length ≤ between'.length := by
  induction s generalizing before with
  | nil => cases h
  | cons c s ih =>
    rw [search?] at h
    split at h
    case h_1 after hafter =>
      rw [Option.ite_none_right_eq_some, isBoundary_iff] at hafter
      obtain ⟨hfree, hafter⟩ := hafter
      obtain ⟨n, hs, hopens⟩ := nameRest?_eq_some hafter
      rw [hs, List.length_append, Nat.add_sub_cancel, List.take_left, Option.some.injEq] at h
      refine ⟨[], after, ⟨?_, ?_, ⟨n, h⟩, hopens⟩, by simp⟩
      · rw [List.append_nil, hs, h]
      · rwa [List.append_nil]
    case h_2 hnone =>
      obtain ⟨between, after, hinvokes, hleast⟩ :=
        @ih (before ++ [c]) (by rwa [List.getLast?_concat])
      refine ⟨c :: between, after, by simpa using hinvokes, ?_⟩
      intro between' name' after' h'
      by_cases hnil : between' = []
      · rw [hnil, List.append_nil] at h'
        exact absurd h' (not_invokes_here hnone)
      · obtain ⟨between', rfl, hrest⟩ := h'.exists_of_cons hnil
        simpa using hleast _ _ _ hrest

/-- If the search finds nothing behind `before`, nothing is invoked there. -/
theorem search?_eq_none {before s : List Char}
    (h : search? separator quote before.getLast? s = none) {between name after : List Char} :
    ¬ Invokes separator quote (before ++ s) (before ++ between) name after := by
  induction s generalizing before between with
  | nil =>
    rintro ⟨htext, -, ⟨n, rfl⟩, -⟩
    have hne := n.text_ne_nil separator
    simp_all
  | cons c s ih =>
    rw [search?] at h
    split at h
    case h_1 => cases h
    case h_2 hnone =>
      intro hinvokes
      by_cases hnil : between = []
      · rw [hnil, List.append_nil] at hinvokes
        exact not_invokes_here hnone hinvokes
      · obtain ⟨between', -, hrest⟩ := hinvokes.exists_of_cons hnil
        exact ih (by rwa [List.getLast?_concat]) hrest

end ProcedureCall.CallText
