import ProcedureCall.Number.Shortest
import ProcedureCall.Proofs.Number.Nearest

/-!
# The shortest digits round to their number

The neighbourhood of a number, which is built from natural numbers, holds exactly the fractions that
round to the number (`holds_iff`). A point of a grid of powers of ten that is taken lies in it. On the
grid seventeen digits below the number's magnitude one always does: its points lie closer together
than the ends of the neighbourhood, so one of the two beside the number is inside.

## What is proved

* `shortest_roundsTo` — the digits that are found round to the number.
-/

namespace ProcedureCall.Binary

/-! ### Fractions as rationals -/

/-- The rational that a fraction stands for. -/
def Ratio.toRat (r : Ratio) : ℚ := r.num / r.den

theorem Ratio.lt_iff {a b : Ratio} (ha : 0 < a.den) (hb : 0 < b.den) :
    a.lt b = true ↔ a.toRat < b.toRat := by
  have ha' : (0 : ℚ) < a.den := by exact_mod_cast ha
  have hb' : (0 : ℚ) < b.den := by exact_mod_cast hb
  rw [Ratio.lt, decide_eq_true_eq, Ratio.toRat, Ratio.toRat, div_lt_div_iff₀ ha' hb']
  norm_cast

theorem decimalRatio_den_pos (digits : ℕ) (power : ℤ) : 0 < (decimalRatio digits power).den :=
  Nat.pow_pos (by decide)

theorem decimalRatio_toRat (digits : ℕ) (power : ℤ) :
    (decimalRatio digits power).toRat = digits * 10 ^ power := by
  have h := pow_toNat_div (b := 10) (by decide) power
  simp only [Nat.pow_eq] at h
  simp only [Ratio.toRat, decimalRatio, Nat.pow_eq]
  rw [Nat.cast_mul, mul_div_assoc, h]
  rfl

/-- Quarters of the unit of an exponent. -/
theorem quarters_toRat (quarters : ℕ) (e : ℤ) :
    (Ratio.mk (quarters * Nat.pow 2 (e - 2).toNat) (Nat.pow 2 (2 - e).toNat)).toRat =
      quarters / 4 * 2 ^ e := by
  have h := pow_toNat_div (b := 2) (by decide) (e - 2)
  rw [neg_sub] at h
  simp only [Nat.pow_eq] at h
  simp only [Ratio.toRat, Nat.pow_eq]
  rw [Nat.cast_mul, mul_div_assoc, h]
  push_cast
  rw [zpow_sub₀ two_ne_zero]
  norm_num
  ring

/-! ### The neighbourhood -/

section

variable (m : ℕ) (e : ℤ)

theorem neighbourhood_value : (neighbourhood m e).value.toRat = m * 2 ^ e := by
  simp only [neighbourhood]
  rw [quarters_toRat]
  push_cast
  ring

theorem neighbourhood_high : (neighbourhood m e).high.toRat = (m + 1 / 2) * 2 ^ e := by
  simp only [neighbourhood]
  rw [quarters_toRat]
  push_cast
  ring

variable {m}

theorem neighbourhood_low (hm : 0 < m) :
    (neighbourhood m e).low.toRat = (m - halfGapBelow m e) * 2 ^ e := by
  simp only [neighbourhood]
  rw [quarters_toRat, halfGapBelow]
  simp only [Nat.pow_eq]
  split_ifs with h
  · rw [Nat.cast_sub (by omega)]
    push_cast
    ring
  · rw [Nat.cast_sub (by omega)]
    push_cast
    ring

/-- The neighbourhood of a number holds what rounds to the number. -/
theorem holds_iff (hm : 0 < m) {r : Ratio} (hr : 0 < r.den) :
    (neighbourhood m e).holds r = true ↔ RoundsTo r.toRat m e := by
  have hden : 0 < Nat.pow 2 (2 - e).toNat := Nat.pow_pos (by decide)
  have hlow : r.lt (neighbourhood m e).low = true ↔ r.toRat < (m - halfGapBelow m e) * 2 ^ e := by
    rw [Ratio.lt_iff hr hden, neighbourhood_low e hm]
  have hlow' : (neighbourhood m e).low.lt r = true ↔ (m - halfGapBelow m e) * 2 ^ e < r.toRat := by
    rw [Ratio.lt_iff hden hr, neighbourhood_low e hm]
  have hhigh : (neighbourhood m e).high.lt r = true ↔ (m + 1 / 2) * 2 ^ e < r.toRat := by
    rw [Ratio.lt_iff hden hr, neighbourhood_high]
  have hhigh' : r.lt (neighbourhood m e).high = true ↔ r.toRat < (m + 1 / 2) * 2 ^ e := by
    rw [Ratio.lt_iff hr hden, neighbourhood_high]
  have hclosed : (neighbourhood m e).closed = decide (m % 2 = 0) := rfl
  rw [Neighbourhood.holds, hclosed]
  rcases Nat.mod_two_eq_zero_or_one m with hpar | hpar
  · simp only [hpar, decide_true, if_true, Bool.and_eq_true, Bool.not_eq_true', ← Bool.not_eq_true,
      hlow, hhigh, not_lt]
    exact ⟨fun ⟨h₁, h₂⟩ => ⟨h₂, h₁, by omega⟩, fun h => ⟨h.sub_le, h.le_add⟩⟩
  · simp only [hpar, Nat.one_ne_zero, decide_false, Bool.false_eq_true, if_false, Bool.and_eq_true,
      hlow', hhigh']
    exact ⟨fun h => ⟨h.2.le, h.1.le, fun _ => h⟩, fun h => h.odd hpar⟩

end

/-! ### Grids of powers of ten -/

/-- A point that is taken is in the neighbourhood. -/
theorem holds_of_onGrid? {n : Neighbourhood} {power : ℤ} {digits : ℕ}
    (h : n.onGrid? power = some digits) : n.holds (decimalRatio digits power) = true := by
  unfold Neighbourhood.onGrid? at h
  dsimp only at h
  split_ifs at h with hboth hlow hhigh hdown hup
  · obtain rfl := Option.some.inj h
    exact (Bool.and_eq_true _ _ ▸ hboth).1
  · obtain rfl := Option.some.inj h
    exact (Bool.and_eq_true _ _ ▸ hboth).2
  · obtain rfl := Option.some.inj h
    -- the even one of the two is one of the two
    obtain ⟨hdown, hup⟩ := Bool.and_eq_true _ _ ▸ hboth
    rcases Nat.mod_two_eq_zero_or_one
      (n.value.num * (decimalRatio 1 power).den / (n.value.den * (decimalRatio 1 power).num))
      with hpar | hpar
    · rwa [hpar]
    · rwa [hpar]
  · obtain rfl := Option.some.inj h
    exact hdown
  · obtain rfl := Option.some.inj h
    exact hup

/-- If one of the points beside the number is in the neighbourhood, a point is taken. -/
theorem isSome_onGrid? {n : Neighbourhood} {power : ℤ} {floor : ℕ}
    (hfloor : floor =
      n.value.num * (decimalRatio 1 power).den / (n.value.den * (decimalRatio 1 power).num))
    (h : n.holds (decimalRatio floor power) = true ∨
      n.holds (decimalRatio (floor + 1) power) = true) :
    (n.onGrid? power).isSome = true := by
  unfold Neighbourhood.onGrid?
  dsimp only
  rw [← hfloor]
  rcases h with h | h
  · simp only [h, Bool.true_and, if_true]
    split_ifs <;> rfl
  · simp only [h, Bool.and_true, if_true]
    split_ifs <;> rfl

/-- The whole number of units of a grid in a number. -/
theorem floor_between {r : Ratio} (hr : 0 < r.den) (power : ℤ) {floor : ℕ}
    (hfloor : floor =
      r.num * (decimalRatio 1 power).den / (r.den * (decimalRatio 1 power).num)) :
    floor * (10 : ℚ) ^ power ≤ r.toRat ∧ r.toRat < (floor + 1) * (10 : ℚ) ^ power := by
  have hden := decimalRatio_den_pos 1 power
  have hnum : 0 < (decimalRatio 1 power).num := Nat.mul_pos one_pos (Nat.pow_pos (by decide))
  have hunit : ((decimalRatio 1 power).num : ℚ) / (decimalRatio 1 power).den = 10 ^ power := by
    have := decimalRatio_toRat 1 power
    rwa [Nat.cast_one, one_mul] at this
  have hden' : (0 : ℚ) < (decimalRatio 1 power).den := by exact_mod_cast hden
  have hr' : (0 : ℚ) < r.den := by exact_mod_cast hr
  have hprod : 0 < r.den * (decimalRatio 1 power).num := Nat.mul_pos hr hnum
  rw [← hunit, Ratio.toRat, ← mul_div_assoc, ← mul_div_assoc, div_le_div_iff₀ hden' hr',
    div_lt_div_iff₀ hr' hden']
  constructor
  · have := Nat.div_mul_le_self (r.num * (decimalRatio 1 power).den)
      (r.den * (decimalRatio 1 power).num)
    rw [← hfloor] at this
    have : floor * (decimalRatio 1 power).num * r.den ≤ r.num * (decimalRatio 1 power).den := by
      linarith
    exact_mod_cast this
  · have := Nat.lt_mul_div_succ (r.num * (decimalRatio 1 power).den) hprod
    rw [← hfloor] at this
    have : r.num * (decimalRatio 1 power).den <
        (floor + 1) * (decimalRatio 1 power).num * r.den := by linarith
    exact_mod_cast this

/-- The power of ten that is found is not above the fraction. -/
theorem decimalMagnitude_le {r : Ratio} (hden : 0 < r.den) (hnum : 0 < r.num) :
    (10 : ℚ) ^ decimalMagnitude r ≤ r.toRat := by
  have hden' : (0 : ℚ) < r.den := by exact_mod_cast hden
  have hlen : ∀ n : ℕ, 0 < (Nat.toDigits 10 n).length := fun n => Nat.length_toDigits_pos
  unfold decimalMagnitude
  dsimp only
  split_ifs with hle hsmall
  · -- the fraction is at least one
    have hq : 0 < r.num / r.den := Nat.div_pos hle hden
    have := hlen (r.num / r.den)
    rw [show ((Nat.toDigits 10 (r.num / r.den)).length - 1 : ℤ) =
      (((Nat.toDigits 10 (r.num / r.den)).length - 1 : ℕ) : ℤ) by omega, zpow_natCast, Ratio.toRat,
      le_div_iff₀ hden']
    exact_mod_cast (Nat.mul_le_mul_right _ (ten_pow_length_le hq)).trans
      (Nat.div_mul_le_self _ _)
  · have := hlen (r.den / r.num)
    rw [show -((Nat.toDigits 10 (r.den / r.num)).length - 1 : ℤ) =
      -(((Nat.toDigits 10 (r.den / r.num)).length - 1 : ℕ) : ℤ) by omega, zpow_neg, zpow_natCast,
      Ratio.toRat, inv_eq_one_div, div_le_div_iff₀ (by positivity) hden', one_mul]
    exact_mod_cast hsmall
  · rw [zpow_neg, zpow_natCast, Ratio.toRat, inv_eq_one_div,
      div_le_div_iff₀ (by positivity) hden', one_mul]
    have h₁ := Nat.lt_mul_div_succ r.den hnum
    have h₂ := lt_ten_pow_length (r.den / r.num)
    have : r.den ≤ r.num * 10 ^ (Nat.toDigits 10 (r.den / r.num)).length :=
      h₁.le.trans (Nat.mul_le_mul_left _ h₂)
    exact_mod_cast this

/-- On a grid whose unit is smaller than the neighbourhood is wide, one of the points beside the
number is in the neighbourhood. -/
theorem isSome_onGrid?_of_lt {m : ℕ} {e : ℤ} (hm : 0 < m) {power : ℤ}
    (hunit : (10 : ℚ) ^ power < (1 / 2 + halfGapBelow m e) * 2 ^ e) :
    ((neighbourhood m e).onGrid? power).isSome = true := by
  have hvalueDen : 0 < (neighbourhood m e).value.den := Nat.pow_pos (by decide)
  set floor := (neighbourhood m e).value.num * (decimalRatio 1 power).den /
    ((neighbourhood m e).value.den * (decimalRatio 1 power).num) with hfloor
  obtain ⟨hdown, hup⟩ := floor_between hvalueDen power hfloor
  rw [neighbourhood_value] at hdown hup
  have htwo : (0 : ℚ) < 2 ^ e := by positivity
  have hgap := mul_pos (halfGapBelow_pos m e) htwo
  refine isSome_onGrid? hfloor ?_
  rw [holds_iff e hm (decimalRatio_den_pos _ _), holds_iff e hm (decimalRatio_den_pos _ _),
    decimalRatio_toRat, decimalRatio_toRat]
  push_cast
  by_cases hlow : (m - halfGapBelow m e) * 2 ^ e < floor * (10 : ℚ) ^ power
  · -- the point below is inside
    left
    have hhigh : floor * (10 : ℚ) ^ power < (m + 1 / 2) * 2 ^ e := by linarith
    exact ⟨hhigh.le, hlow.le, fun _ => ⟨hlow, hhigh⟩⟩
  · -- the point above is less than a unit away from the lower end
    right
    have hhigh : (floor + 1) * (10 : ℚ) ^ power < (m + 1 / 2) * 2 ^ e := by linarith
    have hlow' : (m - halfGapBelow m e) * 2 ^ e < (floor + 1) * (10 : ℚ) ^ power := by linarith
    exact ⟨hhigh.le, hlow'.le, fun _ => ⟨hlow', hhigh⟩⟩

/-- Seventeen digits suffice. -/
theorem isSome_onGrid?_seventeen {m : ℕ} {e : ℤ} (hm : 0 < m) (hlt : m < 2 ^ 53) :
    ((neighbourhood m e).onGrid?
      (decimalMagnitude (neighbourhood m e).value - (16 : ℕ))).isSome = true := by
  have hden : 0 < (neighbourhood m e).value.den := Nat.pow_pos (by decide)
  have hnum : 0 < (neighbourhood m e).value.num :=
    Nat.mul_pos (by omega) (Nat.pow_pos (by decide))
  have hmagnitude := decimalMagnitude_le hden hnum
  rw [neighbourhood_value] at hmagnitude
  refine isSome_onGrid?_of_lt hm ?_
  have htwo : (0 : ℚ) < 2 ^ e := by positivity
  have hsignificand : (m : ℚ) < (1 / 2 + halfGapBelow m e) * 10 ^ 16 := by
    unfold halfGapBelow
    split_ifs with h
    · rw [h.1]
      norm_num
    · have : (m : ℚ) < 2 ^ 53 := by exact_mod_cast hlt
      norm_num at this ⊢
      linarith
  rw [zpow_sub₀ (by norm_num), zpow_natCast, div_lt_iff₀ (by positivity)]
  calc (10 : ℚ) ^ decimalMagnitude (neighbourhood m e).value ≤ m * 2 ^ e := hmagnitude
    _ < (1 / 2 + halfGapBelow m e) * 10 ^ 16 * 2 ^ e := by gcongr
    _ = (1 / 2 + halfGapBelow m e) * 2 ^ e * 10 ^ 16 := by ring

/-- A search that has a hit on its last grid ends with a point that is in the neighbourhood. -/
theorem holds_search {n : Neighbourhood} (finer : ℕ) (power : ℤ)
    (h : (n.onGrid? (power - finer)).isSome = true) :
    n.holds (decimalRatio (n.search finer power).1 (n.search finer power).2) = true := by
  induction finer generalizing power with
  | zero =>
    obtain ⟨digits, hdigits⟩ := Option.isSome_iff_exists.mp h
    rw [Nat.cast_zero, sub_zero] at hdigits
    rw [Neighbourhood.search, hdigits]
    exact holds_of_onGrid? hdigits
  | succ finer ih =>
    rw [Neighbourhood.search]
    cases hgrid : n.onGrid? power with
    | some digits => exact holds_of_onGrid? hgrid
    | none =>
      refine ih (power - 1) ?_
      rwa [show power - 1 - (finer : ℤ) = power - (finer + 1 : ℕ) by omega]

/-- The shortest digits of a number round to it. -/
theorem shortest_roundsTo {m : ℕ} {e : ℤ} (fits : Fits m e) (hm : 0 < m) :
    RoundsTo ((shortest m e).1 * 10 ^ (shortest m e).2) m e := by
  have h := holds_search 16 _ (isSome_onGrid?_seventeen (e := e) hm fits.lt)
  rw [holds_iff e hm (decimalRatio_den_pos _ _), decimalRatio_toRat] at h
  exact h

theorem shortest_pos {m : ℕ} {e : ℤ} (fits : Fits m e) (hm : 0 < m) : 0 < (shortest m e).1 := by
  rcases Nat.eq_zero_or_pos (shortest m e).1 with h | h
  · have := (shortest_roundsTo fits hm).pos hm
    simp [h] at this
  · exact h

end ProcedureCall.Binary
