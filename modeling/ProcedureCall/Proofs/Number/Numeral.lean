import ProcedureCall.Number.Numeral
import ProcedureCall.Proofs.Text.Pieces

/-!
# Numerals are read as the integers they are written from

A run of ASCII digits is read to its end, with the value that it has in base ten
(`digitsFrom_of_isDigit`). So the decimal text of an integer is read as that integer, as long as it
does not have too many digits (`lenient_text`).
-/

namespace ProcedureCall.Numeral

theorem toNat_of_isDigit {c : Char} (h : c.isDigit = true) : 48 ≤ c.toNat ∧ c.toNat ≤ 57 := by
  simp only [Char.isDigit, Bool.and_eq_true, decide_eq_true_eq] at h
  exact h

theorem isAsciiDigit_of_isDigit {c : Char} (h : c.isDigit = true) : Text.isAsciiDigit c = true := h

/-- The digits of ASCII are the first ones that a value is looked for among. -/
theorem digitValue?_of_isDigit {c : Char} (h : c.isDigit = true) :
    Text.digitValue? c = some (c.toNat - 48) := by
  obtain ⟨hlow, hhigh⟩ := toNat_of_isDigit h
  have hfind : Text.digitZeros.find? (fun first => first ≤ c.toNat && c.toNat ≤ first + 9) =
      some 48 := List.find?_cons_of_pos (by simp [hlow, hhigh])
  rw [Text.digitValue?, hfind, Option.map_some]

theorem isSpace_of_isDigit {c : Char} (h : c.isDigit = true) : Text.isSpace c = false := by
  obtain ⟨hlow, hhigh⟩ := toNat_of_isDigit h
  have hblank : ∀ code ∈ Text.blankCodes, ¬ (48 ≤ code ∧ code ≤ 57) := by decide
  have hnot : Text.isBlank c = false := by
    rw [Text.isBlank, ← Bool.not_eq_true, List.contains_iff_mem]
    exact fun hmem => hblank c.toNat hmem ⟨hlow, hhigh⟩
  rw [Text.isSpace, hnot, Bool.false_and]

/-- A run of digits is read to its end. -/
theorem digitsFrom_of_isDigit {s : List Char} (h : ∀ c ∈ s, c.isDigit = true) (count sum : Nat) :
    digitsFrom count sum s = some (count + s.length, Nat.ofDigitChars 10 s sum, []) := by
  induction s generalizing count sum with
  | nil => rfl
  | cons c s ih =>
    obtain ⟨hc, hs⟩ := List.forall_mem_cons.mp h
    rw [digitsFrom.eq_def]
    dsimp only
    rw [digitValue?_of_isDigit hc]
    dsimp only
    rw [ih hs, List.length_cons, Nat.add_assoc, Nat.add_comm 1]
    rfl

/-- The decimal text of an integer is the usual one. -/
theorem ofList_text (n : Int) : String.ofList (text n) = toString n := by
  change _ = n.repr
  cases n with
  | ofNat m =>
    have h : ¬ (m : Int) < 0 := by omega
    simp [text, Int.repr, Nat.repr, h]
  | negSucc m =>
    have h : Int.negSucc m < 0 := Int.negSucc_lt_zero m
    simp [text, Int.repr, Nat.repr, h, Int.natAbs]

/-- What stands after the sign of an integer's text are its digits. -/
theorem sign_text (n : Int) :
    sign (text n) = (decide (n < 0), Nat.toDigits 10 n.natAbs) := by
  by_cases h : n < 0
  · rw [text, if_pos h, decide_eq_true h]
    rfl
  · rw [text, if_neg h, decide_eq_false h, List.nil_append]
    obtain ⟨c, s, hs⟩ := List.exists_cons_of_ne_nil (Nat.toDigits_ne_nil (n := n.natAbs) (b := 10))
    have hc : c.isDigit = true :=
      Nat.isDigit_of_mem_toDigits (by decide) (Nat.le_refl 10) (hs ▸ List.mem_cons_self)
    have hminus : c ≠ '-' := by
      rintro rfl
      exact absurd hc (by decide)
    have hplus : c ≠ '+' := by
      rintro rfl
      exact absurd hc (by decide)
    rw [hs, sign.eq_def]
    split <;> simp_all

/-- No white space stands at either end of an integer's text. -/
theorem trimBy_text (n : Int) : Text.trimBy Text.isSpace (text n) = text n := by
  have hdigit : ∀ c ∈ Nat.toDigits 10 n.natAbs, Text.isSpace c = false := fun c hc =>
    isSpace_of_isDigit (Nat.isDigit_of_mem_toDigits (by decide) (Nat.le_refl 10) hc)
  have hall : ∀ c ∈ text n, Text.isSpace c = false := by
    intro c hc
    rcases List.mem_append.mp hc with hsign | hc
    · split at hsign
      · rw [List.mem_singleton.mp hsign]
        decide
      · simp at hsign
    · exact hdigit c hc
  exact Text.trimBy_eq_self hall

theorem signed_natAbs (n : Int) : signed (decide (n < 0)) n.natAbs = n := by
  by_cases h : n < 0
  · rw [decide_eq_true h, signed, if_pos rfl]
    omega
  · rw [decide_eq_false h, signed, if_neg (by simp)]
    omega

/-- An integer is read from its decimal text, if that does not have too many digits. -/
theorem lenient_text {n : Int} (h : (Nat.toDigits 10 n.natAbs).length ≤ mostDigits) :
    lenient (text n) = .ok n := by
  have hdigits : ∀ c ∈ Nat.toDigits 10 n.natAbs, c.isDigit = true := fun c hc =>
    Nat.isDigit_of_mem_toDigits (by decide) (Nat.le_refl 10) hc
  have hhead : ((Nat.toDigits 10 n.natAbs).head?.bind Text.digitValue?).isSome = true := by
    obtain ⟨c, s, hs⟩ := List.exists_cons_of_ne_nil (Nat.toDigits_ne_nil (n := n.natAbs) (b := 10))
    rw [hs, List.head?_cons, Option.bind_some,
      digitValue?_of_isDigit (hdigits c (hs ▸ List.mem_cons_self)), Option.isSome_some]
  obtain ⟨d, hd⟩ := Option.isSome_iff_exists.mp hhead
  have hread : digitsFrom 0 0 (Nat.toDigits 10 n.natAbs) =
      some ((Nat.toDigits 10 n.natAbs).length, n.natAbs, []) := by
    rw [digitsFrom_of_isDigit hdigits, Nat.zero_add, Nat.ofDigitChars_ten_toDigits]
  rw [lenient, trimBy_text, sign_text]
  simp only [hd, Option.bind_some, hread, excess?, Nat.not_lt.mpr h, if_false, List.isEmpty_nil,
    if_true, signed_natAbs]

theorem integer_text {n : Int} (h : (Nat.toDigits 10 n.natAbs).length ≤ mostDigits) :
    integer (text n) = .ok n := by
  rw [integer, lenient_text h]
  rfl

end ProcedureCall.Numeral
