import Mathlib.Data.List.Count
import ProcedureCall.Text.Case

/-!
# Folding keeps what is no letter

The characters of ASCII below the capital `A`, the zero character apart, are no letters, and no
letter becomes one of them. So a text holds each of them as often as its capital and its small form
do (`count_upper`, `count_lower`).
-/

namespace ProcedureCall.Text

/-! ### ASCII without capitals -/

theorem lowerAfter_eq_self {s : List Char} (h : ∀ c ∈ s, c.toNat < 128 ∧ c.isUpper = false)
    (before : List Char) : lowerAfter before s = s := by
  induction s generalizing before with
  | nil => rfl
  | cons c s ih =>
    obtain ⟨⟨hascii, hsmall⟩, hs⟩ := List.forall_mem_cons.mp h
    have hsigma : ¬ (c == 'Σ') = true := by
      rw [beq_iff_eq]
      rintro rfl
      exact absurd hascii (by decide)
    have hlower : c.toLower = c := dif_neg (of_decide_eq_false hsmall)
    rw [lowerAfter, if_neg hsigma, lowerOf, if_pos hascii, hlower, ih hs, List.singleton_append]

theorem lower_eq_self {s : List Char} (h : ∀ c ∈ s, c.toNat < 128 ∧ c.isUpper = false) :
    lower s = s := lowerAfter_eq_self h []

/-! ### Characters before the letters -/

/-- The character comes before all letters. -/
def BeforeLetters (d : Char) : Prop := 0 < d.toNat ∧ d.toNat < 65

/-- All images of a case mapping, given by its two tables, are at the capital `A` or further on. -/
def MapsToLetters (runs : List CaseRun) (sequences : List (Nat × List Nat)) : Prop :=
  (∀ run ∈ runs, 65 ≤ run.first + run.delta) ∧ ∀ entry ∈ sequences, ∀ code ∈ entry.2, 65 ≤ code

theorem mapsToLetters_upper : MapsToLetters upperRuns upperSequences := by
  constructor <;> decide +kernel

theorem mapsToLetters_lower : MapsToLetters lowerRuns lowerSequences := by
  constructor <;> decide +kernel

variable {d : Char} (hd : BeforeLetters d)
include hd

theorem BeforeLetters.ofNat_ne {code : Nat} (h : 65 ≤ code) : Char.ofNat code ≠ d := by
  obtain ⟨hpositive, hless⟩ := hd
  rintro rfl
  by_cases hvalid : code.isValidChar
  · have hcode : (Char.ofNat code).toNat = code := by
      rw [Char.ofNat, dif_pos hvalid]
      rfl
    omega
  · have hcode : (Char.ofNat code).toNat = 0 := by
      rw [Char.ofNat, dif_neg hvalid]
      rfl
    omega

/-- A code point that a run moves is moved to a letter. -/
theorem BeforeLetters.ofNat_image_ne {runs : List CaseRun}
    (h : ∀ run ∈ runs, 65 ≤ run.first + run.delta) {code image : Nat}
    (himage : CaseRun.image? runs code = some image) : Char.ofNat image ≠ d := by
  obtain ⟨run, hrun, rfl⟩ := Option.map_eq_some_iff.mp himage
  have hleast := h run (List.mem_of_find?_eq_some hrun)
  have hcode := List.find?_some hrun
  simp only [Bool.and_eq_true, decide_eq_true_eq] at hcode
  exact hd.ofNat_ne (by omega)

theorem BeforeLetters.count_mapCase {runs : List CaseRun} {sequences : List (Nat × List Nat)}
    (h : MapsToLetters runs sequences) {c : Char} (hc : c ≠ d) :
    (mapCase runs sequences c).count d = 0 := by
  rw [List.count_eq_zero]
  unfold mapCase
  split
  case h_1 image himage =>
    exact fun hmem => hd.ofNat_image_ne h.1 himage (List.mem_singleton.mp hmem).symm
  case h_2 =>
    split
    case h_1 codes hentry =>
      intro hmem
      obtain ⟨code, hcode, rfl⟩ := List.mem_map.mp hmem
      exact hd.ofNat_ne (h.2 _ (List.mem_of_find?_eq_some hentry) code hcode) rfl
    case h_2 => exact fun hmem => hc (List.mem_singleton.mp hmem).symm

/-- A character that is no ASCII is none of those before the letters. -/
theorem BeforeLetters.ne_of_le {c : Char} (hc : 128 ≤ c.toNat) : c ≠ d := by
  obtain ⟨-, hless⟩ := hd
  rintro rfl
  omega

/-- Where ASCII is folded without a table, its letters alone are moved, and they stay letters. -/
theorem BeforeLetters.fold_ascii_eq_iff (fold : Char → Char)
    (hfold : ∀ code < 128, fold (Char.ofNat code) = Char.ofNat code ∨
      65 ≤ code ∧ 65 ≤ (fold (Char.ofNat code)).toNat) {c : Char} (hc : c.toNat < 128) :
    fold c = d ↔ c = d := by
  obtain ⟨-, hless⟩ := hd
  have himage := hfold c.toNat hc
  rw [Char.ofNat_toNat] at himage
  rcases himage with heq | ⟨hcode, himage⟩
  · rw [heq]
  · refine iff_of_false ?_ ?_
    · rintro rfl
      omega
    · rintro rfl
      omega

theorem BeforeLetters.count_upperOf (c : Char) : (upperOf c).count d = [c].count d := by
  unfold upperOf
  split
  case isTrue hc =>
    have hiff := hd.fold_ascii_eq_iff Char.toUpper (by decide +kernel) hc
    simp only [List.count_singleton, beq_iff_eq, hiff]
  case isFalse hc =>
    have hne : c ≠ d := hd.ne_of_le (by omega)
    rw [hd.count_mapCase mapsToLetters_upper hne, List.count_singleton, if_neg (by simpa using hne)]

theorem BeforeLetters.count_lowerOf (c : Char) : (lowerOf c).count d = [c].count d := by
  unfold lowerOf
  split
  case isTrue hc =>
    have hiff := hd.fold_ascii_eq_iff Char.toLower (by decide +kernel) hc
    simp only [List.count_singleton, beq_iff_eq, hiff]
  case isFalse hc =>
    have hne : c ≠ d := hd.ne_of_le (by omega)
    rw [hd.count_mapCase mapsToLetters_lower hne, List.count_singleton, if_neg (by simpa using hne)]

/-- The capital form of a text holds the characters before the letters as often as the text. -/
theorem count_upper (s : List Char) : (upper s).count d = s.count d := by
  induction s with
  | nil => rfl
  | cons c s ih =>
    rw [upper, List.flatMap_cons, List.count_append, hd.count_upperOf, ← upper, ih,
      ← List.count_append, List.singleton_append]

theorem BeforeLetters.count_lowerAfter (before s : List Char) :
    (lowerAfter before s).count d = s.count d := by
  induction s generalizing before with
  | nil => rfl
  | cons c s ih =>
    have hfirst :
        (if c == 'Σ' then [if endsWord before s then 'ς' else 'σ'] else lowerOf c).count d =
          [c].count d := by
      split
      case isTrue hsigma =>
        obtain rfl := beq_iff_eq.mp hsigma
        have hne : ∀ {code : Char}, 128 ≤ code.toNat → [code].count d = 0 := fun hcode =>
          List.count_eq_zero.mpr fun hmem => hd.ne_of_le hcode (List.mem_singleton.mp hmem).symm
        have hfinal : 128 ≤ (if endsWord before s then 'ς' else 'σ').toNat := by split <;> decide
        rw [hne hfinal, hne (by decide)]
      case isFalse => exact hd.count_lowerOf c
    rw [lowerAfter, List.count_append, hfirst, ih, ← List.count_append, List.singleton_append]

/-- The small form of a text holds the characters before the letters as often as the text. -/
theorem count_lower (s : List Char) : (lower s).count d = s.count d := hd.count_lowerAfter [] s

end ProcedureCall.Text
