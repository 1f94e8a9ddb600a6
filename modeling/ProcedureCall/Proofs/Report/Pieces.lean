import Mathlib.Data.List.Infix
import Mathlib.Data.List.TakeWhile
import ProcedureCall.Proofs.Text.Emoji
import ProcedureCall.Proofs.Text.Pieces
import ProcedureCall.Report.Markup

/-!
# How marked-up text is taken apart

Marked-up text is taken apart into plain pieces and tags. What it shows are the plain pieces; which
tags there are tells whether it can be read. The places of tags, which are kept for the words of a
fault, play no part in either, and so pieces are looked at without them.

## What is proved

* `tag_induction` — how a text is made of backslashes, tags and other characters; proofs about the
  pieces of a text follow it.
* `piecesAfter_of_untagged` — a text without tags is one piece.
* `plainText_sublist`, `untagged_of_plainText` — taking a text apart only takes characters away, and
  it takes some away if there are tags.
* `piecesAfter_append_line` — a line that begins with a tag is taken apart for itself.
-/

namespace ProcedureCall.Report

/-- A piece without the place at which it stands. -/
def Piece.bare : Piece → Piece
  | .plain chars => .plain chars
  | .tag t _ => .tag t 0

/-- The characters of a piece. -/
def Piece.chars : Piece → List Char
  | .plain chars => chars
  | .tag _ _ => []

/-- The tag that a piece is, if it is one. -/
def Piece.tag? : Piece → Option Tag
  | .plain _ => none
  | .tag t _ => some t

namespace Markup

open List

variable {s inner rest line : List Char}

/-! ### Tags -/

theorem eq_of_untilClosed_eq_some (h : untilClosed s = some (inner, rest)) :
    s = inner ++ ']' :: rest := by
  induction s using untilClosed.induct generalizing inner with
  | case1 => cases h
  | case2 s =>
    cases h
    rfl
  | case3 s => cases h
  | case4 c s hclosing hopening ih =>
    rw [untilClosed.eq_4 _ _ hclosing hopening] at h
    obtain ⟨⟨inner', rest'⟩, hs, heq⟩ := Option.map_eq_some_iff.mp h
    obtain ⟨rfl, rfl⟩ := Prod.mk.inj heq
    rw [ih hs]
    rfl

/-- What follows a closed tag is not looked at. -/
theorem untilClosed_append (h : untilClosed s = some (inner, rest)) (t : List Char) :
    untilClosed (s ++ t) = some (inner, rest ++ t) := by
  induction s using untilClosed.induct generalizing inner with
  | case1 => cases h
  | case2 s =>
    cases h
    rfl
  | case3 s => cases h
  | case4 c s hclosing hopening ih =>
    rw [untilClosed.eq_4 _ _ hclosing hopening] at h
    obtain ⟨⟨inner', rest'⟩, hs, heq⟩ := Option.map_eq_some_iff.mp h
    obtain ⟨rfl, rfl⟩ := Prod.mk.inj heq
    rw [List.cons_append, untilClosed.eq_4 _ _ (by simpa using hclosing) (by simpa using hopening),
      ih hs]
    rfl

/-- A tag that is not closed in a text is not closed by what follows if that closes none. -/
theorem untilClosed_append_eq_none (hs : untilClosed s = none) (ht : untilClosed t = none) :
    untilClosed (s ++ t) = none := by
  induction s using untilClosed.induct with
  | case1 => exact ht
  | case2 s => cases hs
  | case3 s => rfl
  | case4 c s hclosing hopening ih =>
    rw [untilClosed.eq_4 _ _ hclosing hopening, Option.map_eq_none_iff] at hs
    rw [List.cons_append, untilClosed.eq_4 _ _ (by simpa using hclosing) (by simpa using hopening),
      ih hs]
    rfl

theorem eq_of_tagAt_eq_some (h : tagAt s = some (inner, rest)) :
    s = '[' :: (inner ++ ']' :: rest) := by
  rw [tagAt.eq_def] at h
  split at h
  case h_1 c s =>
    split at h
    case isTrue =>
      obtain ⟨⟨inner', rest'⟩, hs, heq⟩ := Option.map_eq_some_iff.mp h
      obtain ⟨rfl, rfl⟩ := Prod.mk.inj heq
      rw [eq_of_untilClosed_eq_some hs, List.cons_append]
    case isFalse => cases h
  case h_2 => cases h

theorem tagAt_append (h : tagAt s = some (inner, rest)) (t : List Char) :
    tagAt (s ++ t) = some (inner, rest ++ t) := by
  rw [tagAt.eq_def] at h
  split at h
  case h_1 c s =>
    split at h
    case isTrue hbegins =>
      obtain ⟨⟨inner', rest'⟩, hs, heq⟩ := Option.map_eq_some_iff.mp h
      obtain ⟨rfl, rfl⟩ := Prod.mk.inj heq
      rw [List.cons_append, List.cons_append, tagAt, if_pos hbegins, untilClosed_append hs]
      rfl
    case isFalse => cases h
  case h_2 => cases h

theorem tagAt_eq_none_of_ne {c : Char} (hc : c ≠ '[') (s : List Char) : tagAt (c :: s) = none := by
  rw [tagAt.eq_def]
  split
  case h_1 heq => exact absurd (List.head_eq_of_cons_eq heq) hc
  case h_2 => rfl

/-- No tag reaches over the end of a line into another tag. -/
theorem tagAt_append_eq_none {c : Char} (hs : tagAt (c :: s) = none)
    (hline : tagAt line = some (inner, rest)) : tagAt (c :: (s ++ '\n' :: line)) = none := by
  by_cases hc : c = '['
  · subst hc
    have hopened : untilClosed ('\n' :: line) = none := by
      rw [eq_of_tagAt_eq_some hline]
      rfl
    cases s with
    | nil => rfl
    | cons d s =>
      rw [tagAt] at hs
      rw [List.cons_append, tagAt]
      split
      case isTrue hbegins =>
        rw [if_pos hbegins, Option.map_eq_none_iff] at hs
        rw [untilClosed_append_eq_none hs hopened]
        rfl
      case isFalse => rfl
  · exact tagAt_eq_none_of_ne hc _

/-! ### How a text is taken apart -/

/-- A text is a run of backslashes; or such a run, a tag and a text; or such a run, a character at
which no tag begins, and a text. -/
theorem tag_induction {motive : List Char → Prop} (slashes : ∀ k, motive (replicate k '\\'))
    (tag : ∀ k after inner rest, tagAt after = some (inner, rest) → motive rest →
      motive (replicate k '\\' ++ after))
    (char : ∀ k c rest, c ≠ '\\' → tagAt (c :: rest) = none → motive rest →
      motive (replicate k '\\' ++ c :: rest)) (s : List Char) : motive s := by
  induction hn : s.length using Nat.strong_induction_on generalizing s with
  | _ n ih =>
    obtain ⟨k, hk⟩ : ∃ k, s.takeWhile (· == '\\') = replicate k '\\' :=
      ⟨_, List.eq_replicate_of_mem fun c hc => by simpa using List.mem_takeWhile_imp hc⟩
    have hs : replicate k '\\' ++ s.dropWhile (· == '\\') = s := by
      rw [← hk, List.takeWhile_append_dropWhile]
    have hshorter : (s.dropWhile (· == '\\')).length ≤ n := hn ▸ List.length_dropWhile_le _ _
    have hhead := List.head?_dropWhile_not (· == '\\') s
    rw [← hs]
    cases hafter : s.dropWhile (· == '\\') with
    | nil => simpa using slashes k
    | cons c rest =>
      rw [hafter] at hhead hshorter
      cases htag : tagAt (c :: rest) with
      | none =>
        refine char k c rest (by simpa using hhead) htag (ih rest.length ?_ rest rfl)
        exact hshorter
      | some found =>
        obtain ⟨inner, next⟩ := found
        refine tag k (c :: rest) inner next htag (ih next.length ?_ next rfl)
        rw [eq_of_tagAt_eq_some htag, length_cons, length_append, length_cons] at hshorter
        omega

/-- The pieces of a text after some plain characters, without their places. -/
def piecesAfter (gathered s : List Char) : List Piece :=
  (piecesFrom s.length gathered.reverse 0 s).map Piece.bare

/-- The slashes in front of a tag that stay, half of them, as a piece. -/
def keptPiece (k : Nat) : List Piece :=
  if k < 2 then [] else [.plain (replicate (k / 2) '\\')]

/-- A tag after a number of backslashes: an odd one makes it plain. -/
def tagPiece (k : Nat) (inner : List Char) : Piece :=
  if k % 2 = 1 then .plain (unescaped ('[' :: inner ++ [']'])) else .tag (tagOf inner) 0

theorem map_bare_plainPiece (chars : List Char) :
    (plainPiece chars).map Piece.bare = plainPiece chars := by
  unfold plainPiece
  split <;> rfl

theorem piecesFrom_slashes (fuel k position : Nat) (gathered : List Char) :
    (piecesFrom fuel gathered position (replicate k '\\')).map Piece.bare =
      plainPiece (gathered.reverse ++ replicate k '\\') := by
  cases fuel with
  | zero => exact map_bare_plainPiece _
  | succ fuel =>
    have htake : (replicate k '\\').takeWhile (· == '\\') = replicate k '\\' :=
      List.takeWhile_eq_self_iff.mpr fun c hc => by simp [List.eq_of_mem_replicate hc]
    have hdrop : (replicate k '\\').dropWhile (· == '\\') = [] := by simp
    simp only [piecesFrom, htake, hdrop]
    exact map_bare_plainPiece _

section Runs

variable {k : Nat} {after : List Char}

theorem takeWhile_slashes (h : after.head? ≠ some '\\') :
    (replicate k '\\' ++ after).takeWhile (· == '\\') = replicate k '\\' := by
  rw [takeWhile_append_of_pos fun c hc => by simp [eq_of_mem_replicate hc]]
  cases after with
  | nil => exact append_nil _
  | cons c rest => rw [takeWhile_cons_of_neg (by simpa using h), append_nil]

theorem dropWhile_slashes (h : after.head? ≠ some '\\') :
    (replicate k '\\' ++ after).dropWhile (· == '\\') = after := by
  rw [dropWhile_append_of_pos fun c hc => by simp [eq_of_mem_replicate hc]]
  cases after with
  | nil => rfl
  | cons c rest => rw [dropWhile_cons_of_neg (by simpa using h)]

end Runs

theorem piecesFrom_tag {fuel k : Nat} {after : List Char} (gathered : List Char) (position : Nat)
    (h : tagAt after = some (inner, rest)) :
    (piecesFrom (fuel + 1) gathered position (replicate k '\\' ++ after)).map Piece.bare =
      plainPiece gathered.reverse ++ keptPiece k ++ tagPiece k inner ::
        (piecesFrom fuel [] (position + k + inner.length + 2) rest).map Piece.bare := by
  have hhead : after.head? ≠ some '\\' := by simp [eq_of_tagAt_eq_some h]
  simp only [piecesFrom, takeWhile_slashes hhead, dropWhile_slashes hhead, h, length_replicate]
  rw [map_append, map_append, map_bare_plainPiece, map_cons]
  congr 2
  · unfold keptPiece
    split <;> rfl
  · unfold tagPiece
    split <;> rfl

theorem piecesFrom_char {fuel k : Nat} {c : Char} (gathered : List Char) (position : Nat)
    (hc : c ≠ '\\') (h : tagAt (c :: rest) = none) :
    piecesFrom (fuel + 1) gathered position (replicate k '\\' ++ c :: rest) =
      piecesFrom fuel (gathered.reverse ++ replicate k '\\' ++ [c]).reverse (position + k + 1)
        rest := by
  have hhead : (c :: rest).head? ≠ some '\\' := by simpa using hc
  simp only [piecesFrom, takeWhile_slashes hhead, dropWhile_slashes hhead, h, length_replicate]
  simp

/-- Neither places nor what fuel is left over tell in the pieces. -/
theorem map_bare_piecesFrom {fuel fuel' : Nat} (gathered : List Char) (position position' : Nat)
    (hfuel : s.length ≤ fuel) (hfuel' : s.length ≤ fuel') :
    (piecesFrom fuel gathered position s).map Piece.bare =
      (piecesFrom fuel' gathered position' s).map Piece.bare := by
  induction s using tag_induction generalizing fuel fuel' gathered position position' with
  | slashes k => rw [piecesFrom_slashes, piecesFrom_slashes]
  | tag k after inner rest h ih =>
    have hafter := congrArg List.length (eq_of_tagAt_eq_some h)
    simp only [length_append, length_cons, length_replicate] at hafter hfuel hfuel'
    obtain ⟨fuel, rfl⟩ := Nat.exists_eq_succ_of_ne_zero (show fuel ≠ 0 by omega)
    obtain ⟨fuel', rfl⟩ := Nat.exists_eq_succ_of_ne_zero (show fuel' ≠ 0 by omega)
    rw [piecesFrom_tag _ _ h, piecesFrom_tag _ _ h]
    congr 2
    exact ih _ _ _ (by omega) (by omega)
  | char k c rest hc h ih =>
    simp only [length_append, length_cons, length_replicate] at hfuel hfuel'
    obtain ⟨fuel, rfl⟩ := Nat.exists_eq_succ_of_ne_zero (show fuel ≠ 0 by omega)
    obtain ⟨fuel', rfl⟩ := Nat.exists_eq_succ_of_ne_zero (show fuel' ≠ 0 by omega)
    rw [piecesFrom_char _ _ hc h, piecesFrom_char _ _ hc h]
    exact ih _ _ _ (by omega) (by omega)

theorem map_bare_pieces (s : List Char) : (pieces s).map Piece.bare = piecesAfter [] s :=
  map_bare_piecesFrom _ _ _ (Nat.le_succ _) le_rfl

@[simp] theorem piecesAfter_slashes (gathered : List Char) (k : Nat) :
    piecesAfter gathered (replicate k '\\') = plainPiece (gathered ++ replicate k '\\') := by
  rw [piecesAfter, piecesFrom_slashes, reverse_reverse]

theorem piecesAfter_tag {after : List Char} (gathered : List Char) (k : Nat)
    (h : tagAt after = some (inner, rest)) :
    piecesAfter gathered (replicate k '\\' ++ after) =
      plainPiece gathered ++ keptPiece k ++ tagPiece k inner :: piecesAfter [] rest := by
  have hafter := congrArg List.length (eq_of_tagAt_eq_some h)
  obtain ⟨fuel, hfuel⟩ : ∃ fuel, (replicate k '\\' ++ after).length = fuel + 1 :=
    Nat.exists_eq_succ_of_ne_zero (by simp [hafter])
  have hrest : rest.length ≤ fuel := by
    simp only [length_append, length_cons, length_replicate] at hafter hfuel
    omega
  rw [piecesAfter, hfuel, piecesFrom_tag _ _ h, reverse_reverse, piecesAfter]
  congr 2
  exact map_bare_piecesFrom _ _ _ hrest le_rfl

theorem piecesAfter_char {c : Char} (gathered : List Char) (k : Nat) (hc : c ≠ '\\')
    (h : tagAt (c :: rest) = none) :
    piecesAfter gathered (replicate k '\\' ++ c :: rest) =
      piecesAfter (gathered ++ replicate k '\\' ++ [c]) rest := by
  have hlength : (replicate k '\\' ++ c :: rest).length = k + rest.length + 1 := by simp; rfl
  rw [piecesAfter, hlength, piecesFrom_char _ _ hc h, reverse_reverse, piecesAfter]
  exact map_bare_piecesFrom _ _ _ (Nat.le_add_left _ _) le_rfl

/-! ### Plain text -/

/-- No tag begins anywhere in a text. -/
def Untagged (s : List Char) : Prop := ∀ t ∈ s.tails, tagAt t = none

instance : Decidable (Untagged s) := inferInstanceAs (Decidable (∀ t ∈ s.tails, tagAt t = none))

theorem untagged_slashes (k : Nat) : Untagged (replicate k '\\') := by
  intro t ht
  cases t with
  | nil => rfl
  | cons c t =>
    have hc : c ∈ replicate k '\\' := (List.mem_tails _ _ |>.mp ht).mem mem_cons_self
    exact tagAt_eq_none_of_ne (by rw [eq_of_mem_replicate hc]; decide) t

theorem untagged_append_slashes {k : Nat} {after : List Char} :
    Untagged (replicate k '\\' ++ after) ↔ Untagged after := by
  induction k with
  | zero => exact Iff.rfl
  | succ k ih =>
    rw [← ih, replicate_succ, cons_append, Untagged, tails_cons, forall_mem_cons]
    exact and_iff_right (tagAt_eq_none_of_ne (by decide) _)

theorem untagged_cons {c : Char} : Untagged (c :: s) ↔ tagAt (c :: s) = none ∧ Untagged s := by
  rw [Untagged, tails_cons, forall_mem_cons, Untagged]

/-- A text without tags is one piece. -/
theorem piecesAfter_of_untagged (h : Untagged s) (gathered : List Char) :
    piecesAfter gathered s = plainPiece (gathered ++ s) := by
  induction s using tag_induction generalizing gathered with
  | slashes k => exact piecesAfter_slashes gathered k
  | tag k after inner rest htag ih =>
    have hnone := untagged_append_slashes.mp h after (by simp)
    rw [htag] at hnone
    cases hnone
  | char k c rest hc hnone ih =>
    have hrest : Untagged rest := (untagged_cons.mp (untagged_append_slashes.mp h)).2
    rw [piecesAfter_char gathered k hc hnone, ih hrest]
    simp

/-! ### Backslashes in front of brackets -/

theorem unescaped_bracket (s : List Char) : unescaped ('\\' :: '[' :: s) = '[' :: unescaped s :=
  rfl

theorem unescaped_cons {c : Char} (h : ¬ ['\\', '['] <+: c :: s) :
    unescaped (c :: s) = c :: unescaped s := by
  have hnot : Text.afterStart? ['\\', '['] (c :: s) = none := by
    rw [Option.eq_none_iff_forall_ne_some]
    intro rest hrest
    exact h ⟨rest, (Text.afterStart?_eq_some_iff.mp hrest).symm⟩
  rw [unescaped, Text.replaceAll, Text.replaceFrom, hnot]
  rfl

/-- A text is empty, or begins with a backslash and a bracket, or with another character. -/
theorem bracket_induction {motive : List Char → Prop} (nil : motive [])
    (bracket : ∀ s, motive s → motive ('\\' :: '[' :: s))
    (cons : ∀ c s, ¬ ['\\', '['] <+: c :: s → motive s → motive (c :: s)) (s : List Char) :
    motive s := by
  induction hn : s.length using Nat.strong_induction_on generalizing s with
  | _ n ih =>
    cases s with
    | nil => exact nil
    | cons c s =>
      rw [length_cons] at hn
      by_cases h : ['\\', '['] <+: c :: s
      · obtain ⟨t, ht⟩ := h
        have hlength := congrArg List.length ht
        simp only [cons_append, nil_append, length_cons] at hlength
        rw [← ht]
        exact bracket t (ih t.length (by omega) t rfl)
      · exact cons c s h (ih s.length (by omega) s rfl)

theorem unescaped_sublist (s : List Char) : unescaped s <+ s := by
  induction s using bracket_induction with
  | nil => exact Sublist.slnil
  | bracket s ih => exact (ih.cons_cons '[').cons '\\'
  | cons c s h ih =>
    rw [unescaped_cons h]
    exact ih.cons_cons c

theorem unescaped_eq_self_iff : unescaped s = s ↔ ¬ ['\\', '['] <:+: s := by
  induction s using bracket_induction with
  | nil => decide
  | bracket s ih =>
    have hrun : ['\\', '['] <:+: '\\' :: '[' :: s := (prefix_append ['\\', '['] s).isInfix
    simp [unescaped_bracket, hrun]
  | cons c s h ih =>
    rw [unescaped_cons h, cons_inj_right, ih, infix_cons_iff, not_or, and_iff_right h]

theorem unescaped_concat_lineEnd (s : List Char) :
    unescaped (s ++ ['\n']) = unescaped s ++ ['\n'] := by
  induction s using bracket_induction with
  | nil => rfl
  | bracket s ih => rw [cons_append, cons_append, unescaped_bracket, ih]; rfl
  | cons c s h ih =>
    have hc : ¬ ['\\', '['] <+: c :: (s ++ ['\n']) := by
      cases s with
      | nil => simp
      | cons d s => simpa using h
    rw [cons_append, unescaped_cons hc, ih, unescaped_cons h, cons_append]

/-! ### Text as it is shown -/

theorem shown_concat_lineEnd (s : List Char) : shown (s ++ ['\n']) = shown s ++ ['\n'] := by
  rw [shown, Text.withEmoji, Text.withEmojiAfter_concat_lineEnd, filter_append]
  rfl

theorem shown_sublist (h : s.count ':' < 2) : shown s <+ s := by
  rw [shown, Text.withEmoji_eq_self h]
  exact filter_sublist

/-! ### What pieces show -/

/-- The characters of pieces as they are written. -/
def plainText (ps : List Piece) : List Char := ps.flatMap Piece.chars

/-- The characters of pieces as they are shown. -/
def shownText (ps : List Piece) : List Char := ps.flatMap fun p => shown p.chars

/-- The tags among pieces. -/
def tagsOf (ps : List Piece) : List Tag := ps.filterMap Piece.tag?

section Pieces

variable (ps qs : List Piece) (chars : List Char)

@[simp] theorem plainText_append : plainText (ps ++ qs) = plainText ps ++ plainText qs :=
  flatMap_append

@[simp] theorem plainText_cons (p : Piece) : plainText (p :: ps) = p.chars ++ plainText ps := rfl

@[simp] theorem shownText_append : shownText (ps ++ qs) = shownText ps ++ shownText qs :=
  flatMap_append

@[simp] theorem shownText_cons (p : Piece) : shownText (p :: ps) = shown p.chars ++ shownText ps :=
  rfl

@[simp] theorem tagsOf_cons (p : Piece) : tagsOf (p :: ps) = p.tag?.toList ++ tagsOf ps := by
  cases p <;> rfl

@[simp] theorem tagsOf_append : tagsOf (ps ++ qs) = tagsOf ps ++ tagsOf qs := filterMap_append

@[simp] theorem plainText_plainPiece : plainText (plainPiece chars) = unescaped chars := by
  unfold plainPiece
  cases chars with
  | nil => rfl
  | cons c chars => simp [plainText, Piece.chars]

@[simp] theorem shownText_plainPiece : shownText (plainPiece chars) = shown (unescaped chars) := by
  unfold plainPiece
  cases chars with
  | nil => rfl
  | cons c chars => simp [shownText, Piece.chars]

@[simp] theorem tagsOf_plainPiece : tagsOf (plainPiece chars) = [] := by
  unfold plainPiece
  split <;> rfl

end Pieces

theorem shownText_map_bare (ps : List Piece) : shownText (ps.map Piece.bare) = shownText ps := by
  rw [shownText, flatMap_map]
  congr 1
  funext p
  cases p <;> rfl

theorem tagsOf_map_bare (ps : List Piece) : tagsOf (ps.map Piece.bare) = tagsOf ps := by
  rw [tagsOf, filterMap_map]
  congr 1
  funext p
  cases p <;> rfl

@[simp] theorem plainText_keptPiece (k : Nat) :
    plainText (keptPiece k) = replicate (k / 2) '\\' := by
  unfold keptPiece
  split
  case isTrue h => simp [plainText, show k / 2 = 0 by omega]
  case isFalse => simp [plainText, Piece.chars]

theorem tagPiece_chars_sublist (k : Nat) (inner : List Char) :
    (tagPiece k inner).chars <+ '[' :: inner ++ [']'] := by
  unfold tagPiece
  split
  · exact unescaped_sublist _
  · exact nil_sublist _

/-- Taking a text apart only takes characters away. -/
theorem plainText_sublist (gathered s : List Char) :
    plainText (piecesAfter gathered s) <+ gathered ++ s := by
  induction s using tag_induction generalizing gathered with
  | slashes k =>
    rw [piecesAfter_slashes, plainText_plainPiece]
    exact unescaped_sublist _
  | tag k after inner rest htag ih =>
    have hafter : after = '[' :: inner ++ [']'] ++ rest := by simp [eq_of_tagAt_eq_some htag]
    rw [piecesAfter_tag gathered k htag, hafter, plainText_append, plainText_append,
      plainText_plainPiece, plainText_keptPiece, plainText_cons, append_assoc]
    refine (unescaped_sublist gathered).append (Sublist.append ?_ ?_)
    · exact replicate_sublist_replicate _ |>.mpr (Nat.div_le_self _ _)
    · exact (tagPiece_chars_sublist k inner).append (ih [])
  | char k c rest hc hnone ih =>
    rw [piecesAfter_char gathered k hc hnone]
    simpa using ih (gathered ++ replicate k '\\' ++ [c])

/-- A tag is taken away, or a backslash in front of it. -/
theorem untagged_of_plainText {gathered : List Char}
    (h : plainText (piecesAfter gathered s) = gathered ++ s) : Untagged s := by
  induction s using tag_induction generalizing gathered with
  | slashes k => exact untagged_slashes k
  | tag k after inner rest htag ih =>
    have hafter := congrArg List.length (eq_of_tagAt_eq_some htag)
    have hlength := congrArg List.length h
    have hgathered := (unescaped_sublist gathered).length_le
    have hrest := (plainText_sublist [] rest).length_le
    rw [piecesAfter_tag gathered k htag] at hlength
    simp only [plainText_append, plainText_plainPiece, plainText_keptPiece, plainText_cons,
      length_append, length_cons, length_replicate, nil_append] at hlength hafter hrest
    have hchars : (tagPiece k inner).chars.length ≤ inner.length + 2 ∧
        (k % 2 = 0 → (tagPiece k inner).chars.length = 0) := by
      refine ⟨by simpa using (tagPiece_chars_sublist k inner).length_le, fun heven => ?_⟩
      rw [tagPiece, if_neg (by omega)]
      rfl
    omega
  | char k c rest hc hnone ih =>
    rw [piecesAfter_char gathered k hc hnone] at h
    have hrest : plainText (piecesAfter (gathered ++ replicate k '\\' ++ [c]) rest) =
        gathered ++ replicate k '\\' ++ [c] ++ rest := by simpa using h
    exact untagged_append_slashes.mpr (untagged_cons.mpr ⟨hnone, ih hrest⟩)

theorem shownText_sublist {ps : List Piece} (h : (plainText ps).count ':' < 2) :
    shownText ps <+ plainText ps := by
  induction ps with
  | nil => exact nil_sublist _
  | cons p ps ih =>
    rw [plainText_cons, count_append] at h
    exact (shown_sublist (by omega)).append (ih (by omega))

/-- A tag at the beginning of a line stands alone. -/
theorem piecesAfter_line (gathered : List Char) (hline : tagAt line = some (inner, rest)) :
    piecesAfter gathered line = plainPiece gathered ++ piecesAfter [] line := by
  rw [show line = replicate 0 '\\' ++ line from rfl, piecesAfter_tag gathered 0 hline,
    piecesAfter_tag [] 0 hline]
  exact append_assoc _ _ _

/-- A line that begins with a tag is taken apart for itself. -/
theorem piecesAfter_append_line (gathered s : List Char) (hline : tagAt line = some (inner, rest)) :
    ∃ before, piecesAfter gathered (s ++ '\n' :: line) = before ++ piecesAfter [] line ∧
      shownText before = shownText (piecesAfter gathered s) ++ ['\n'] ∧
      tagsOf before = tagsOf (piecesAfter gathered s) := by
  induction s using tag_induction generalizing gathered with
  | slashes k =>
    refine ⟨plainPiece (gathered ++ replicate k '\\' ++ ['\n']), ?_, ?_, ?_⟩
    · rw [piecesAfter_char gathered k (by decide) (tagAt_eq_none_of_ne (by decide) line),
        piecesAfter_line _ hline]
    · rw [piecesAfter_slashes, shownText_plainPiece, shownText_plainPiece,
        unescaped_concat_lineEnd, shown_concat_lineEnd]
    · rw [piecesAfter_slashes, tagsOf_plainPiece, tagsOf_plainPiece]
  | tag k after inner' rest' htag ih =>
    obtain ⟨before, hpieces, hshown, htags⟩ := ih []
    refine ⟨plainPiece gathered ++ keptPiece k ++ tagPiece k inner' :: before, ?_, ?_, ?_⟩
    · rw [append_assoc, piecesAfter_tag gathered k (tagAt_append htag _), hpieces]
      simp
    · rw [piecesAfter_tag gathered k htag]
      simp [hshown]
    · rw [piecesAfter_tag gathered k htag]
      simp [htags]
  | char k c rest' hc hnone ih =>
    rw [append_assoc, cons_append,
      piecesAfter_char gathered k hc (tagAt_append_eq_none hnone hline),
      piecesAfter_char gathered k hc hnone]
    exact ih _

end Markup

end ProcedureCall.Report
