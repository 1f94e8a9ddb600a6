import ProcedureCall.Text.Emoji

/-!
# Laws of emoji by name

A text with fewer than two colons names no emoji, and the end of a line ends no name.
-/

namespace ProcedureCall.Text

/-- Without a further colon nothing is named. -/
theorem withEmojiAfter_of_not_mem {s : List Char} (h : ':' ∉ s) :
    withEmojiAfter none s = s ∧
      ∀ held, withEmojiAfter (some held) s = ':' :: (held.reverse ++ s) := by
  induction s with
  | nil => simp [withEmojiAfter]
  | cons c s ih =>
    obtain ⟨hne, hs⟩ := List.ne_and_not_mem_of_not_mem_cons h
    obtain ⟨hnone, hsome⟩ := ih hs
    refine ⟨by rw [withEmojiAfter, if_neg (Ne.symm hne), hnone], fun held => ?_⟩
    rw [withEmojiAfter, if_neg (Ne.symm hne)]
    split
    · rw [hnone]
      rfl
    · rw [hsome (c :: held)]
      simp

/-- No emoji is named without two colons. -/
theorem withEmoji_eq_self {s : List Char} (h : s.count ':' < 2) : withEmoji s = s := by
  unfold withEmoji
  induction s with
  | nil => rfl
  | cons c s ih =>
    rw [withEmojiAfter]
    split
    case isTrue hc =>
      subst hc
      rw [List.count_cons_self] at h
      exact (withEmojiAfter_of_not_mem (List.count_eq_zero.mp (by omega))).2 []
    case isFalse hc =>
      rw [List.count_cons_of_ne hc] at h
      rw [ih h]

/-- The end of a line stays, whether a name was begun or not. -/
theorem withEmojiAfter_concat_lineEnd (held : Option (List Char)) (s : List Char) :
    withEmojiAfter held (s ++ ['\n']) = withEmojiAfter held s ++ ['\n'] := by
  induction s generalizing held with
  | nil =>
    cases held with
    | none => rfl
    | some held =>
      have hblank : isBlank '\n' = true := by decide +kernel
      simp [withEmojiAfter, hblank]
  | cons c s ih =>
    cases held with
    | none =>
      rw [List.cons_append, withEmojiAfter, withEmojiAfter]
      split <;> simp [ih]
    | some held =>
      rw [List.cons_append, withEmojiAfter, withEmojiAfter]
      split
      · simp [ih]
      · split <;> simp [ih]

end ProcedureCall.Text
