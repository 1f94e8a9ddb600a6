import Mathlib.Algebra.Order.Field.Power
import Mathlib.Data.Rat.Cast.Order
import Mathlib.Tactic.FieldSimp
import Mathlib.Tactic.Linarith
import Mathlib.Tactic.NormNum
import Mathlib.Tactic.Positivity
import Mathlib.Tactic.Ring
import ProcedureCall.Number.Binary

/-!
# Rounding to the nearest number

`RoundsTo x m e` says that the rational `x` lies between the points half-way from `m * 2 ^ e` to its
neighbours among the numbers of the format, or on one of these points if `m` is even. Every such
fraction is rounded to that number.

## What is proved

* `roundQuotient_eq` — a quotient is rounded to the nearest whole number, a half to the even one.
* `exists_roundingExponent` — the exponent that is chosen leaves 53 bits before the point, unless it
  is the least one.
* `ofFraction_eq`, `ofDecimal_eq` — what rounds to a number is rounded to it.
-/

namespace ProcedureCall.Binary

/-! ### Powers with integer exponents as fractions -/

theorem pow_toNat_div {b : ℕ} (hb : 0 < b) (k : ℤ) :
    ((Nat.pow b k.toNat : ℕ) : ℚ) / (Nat.pow b (-k).toNat : ℕ) = (b : ℚ) ^ k := by
  have hb' : (b : ℚ) ≠ 0 := by positivity
  simp only [Nat.pow_eq, Nat.cast_pow]
  rcases le_total 0 k with h | h
  · rw [show (-k).toNat = 0 by omega, pow_zero, div_one, ← zpow_natCast, Int.toNat_of_nonneg h]
  · rw [show k.toNat = 0 by omega, pow_zero, one_div, ← zpow_natCast,
      Int.toNat_of_nonneg (by omega), zpow_neg, inv_inv]

/-- A fraction in units of a power of two is the quotient. -/
theorem scaled_div (num den : ℕ) (k : ℤ) :
    ((scaled num den k).1 : ℚ) / (scaled num den k).2 = num / den / 2 ^ k := by
  have h := pow_toNat_div (b := 2) (by decide) k
  simp only [scaled, Nat.cast_mul]
  rw [show (2 : ℚ) ^ k = ((2 : ℕ) : ℚ) ^ k by norm_num, ← h]
  field_simp

theorem scaled_pos {den : ℕ} (num : ℕ) (hden : 0 < den) (k : ℤ) : 0 < (scaled num den k).2 :=
  Nat.mul_pos hden (Nat.pow_pos (by decide))

/-! ### Whole numbers -/

/-- The whole number is nearest to a rational, and even if it is not the only one. -/
structure IsNearest (x : ℚ) (n : ℕ) : Prop where
  /-- It is not too small. -/
  le_add : x ≤ n + 1 / 2
  /-- It is not too large. -/
  sub_le : n - 1 / 2 ≤ x
  /-- An odd number is nearest alone. -/
  odd : n % 2 = 1 → n - 1 / 2 < x ∧ x < n + 1 / 2

/-- The bounds as facts about natural numbers. -/
theorem IsNearest.bounds {num den n : ℕ} (hden : 0 < den) (h : IsNearest (num / den) n) :
    2 * n * den ≤ 2 * num + den ∧ 2 * num ≤ 2 * n * den + den ∧
      (n % 2 = 1 → 2 * n * den < 2 * num + den ∧ 2 * num < 2 * n * den + den) := by
  have hden' : (0 : ℚ) < den := by exact_mod_cast hden
  refine ⟨?_, ?_, fun hn => ?_⟩
  · have := (le_div_iff₀ hden').mp h.sub_le
    have : (2 * n * den : ℚ) ≤ 2 * num + den := by linarith
    exact_mod_cast this
  · have := (div_le_iff₀ hden').mp h.le_add
    have : (2 * num : ℚ) ≤ 2 * n * den + den := by linarith
    exact_mod_cast this
  · obtain ⟨hl, hu⟩ := h.odd hn
    have hl' := (lt_div_iff₀ hden').mp hl
    have hu' := (div_lt_iff₀ hden').mp hu
    have h₁ : (2 * n * den : ℚ) < 2 * num + den := by linarith
    have h₂ : (2 * num : ℚ) < 2 * n * den + den := by linarith
    exact ⟨by exact_mod_cast h₁, by exact_mod_cast h₂⟩

/-- A quotient is rounded to the nearest whole number. -/
theorem roundQuotient_eq {num den n : ℕ} (hden : 0 < den) (h : IsNearest (num / den) n) :
    roundQuotient num den = n := by
  obtain ⟨hlow, hhigh, hodd⟩ := h.bounds hden
  have hdiv := Nat.div_add_mod num den
  have hmod := Nat.mod_lt num hden
  set floor := num / den with hfloor
  set rest := num % den with hrest
  have hle : n ≤ floor + 1 := by
    by_contra hcon
    have := Nat.mul_le_mul_right den (show floor + 2 ≤ n by omega)
    nlinarith
  have hge : floor ≤ n := by
    by_contra hcon
    have := Nat.mul_le_mul_right den (show n + 1 ≤ floor by omega)
    nlinarith
  have hcases : n = floor ∨ n = floor + 1 := by omega
  unfold roundQuotient
  rw [← hfloor, ← hrest]
  dsimp only
  rcases hcases with hn | hn
  · subst n
    split_ifs with h₁ h₂
    · rfl
    · nlinarith
    · have heven : floor % 2 = 0 := by
        by_contra hcon
        have := (hodd (by omega)).2
        nlinarith
      omega
  · subst n
    split_ifs with h₁ h₂
    · nlinarith
    · rfl
    · have heven : (floor + 1) % 2 = 0 := by
        by_contra hcon
        have := (hodd (by omega)).1
        nlinarith
      omega

/-! ### The exponent -/

theorem natCast_lt_zpow {n : ℕ} (k : ℕ) (h : n < 2 ^ k) : (n : ℚ) < 2 ^ (k : ℤ) := by
  rw [zpow_natCast]
  exact_mod_cast h

theorem zpow_le_natCast {n : ℕ} (k : ℕ) (h : 2 ^ k ≤ n) : (2 : ℚ) ^ (k : ℤ) ≤ n := by
  rw [zpow_natCast]
  exact_mod_cast h

/-- The quotient of two positive numbers lies strictly between the powers of two that their
logarithms tell. -/
theorem div_between {num den : ℕ} (hnum : 0 < num) (hden : 0 < den) :
    (2 : ℚ) ^ ((num.log2 : ℤ) - den.log2 - 1) < num / den ∧
      (num / den : ℚ) < 2 ^ ((num.log2 : ℤ) - den.log2 + 1) := by
  have hden' : (0 : ℚ) < den := by exact_mod_cast hden
  have hn₁ := zpow_le_natCast _ (Nat.log2_self_le hnum.ne')
  have hn₂ := natCast_lt_zpow _ (Nat.lt_log2_self (n := num))
  have hd₁ := zpow_le_natCast _ (Nat.log2_self_le hden.ne')
  have hd₂ := natCast_lt_zpow _ (Nat.lt_log2_self (n := den))
  constructor
  · rw [lt_div_iff₀ hden']
    calc (2 : ℚ) ^ ((num.log2 : ℤ) - den.log2 - 1) * den
        < 2 ^ ((num.log2 : ℤ) - den.log2 - 1) * 2 ^ ((den.log2 + 1 : ℕ) : ℤ) := by gcongr
      _ = 2 ^ (num.log2 : ℤ) := by
          rw [← zpow_add₀ two_ne_zero]
          congr 1
          push_cast
          ring
      _ ≤ num := hn₁
  · rw [div_lt_iff₀ hden']
    calc (num : ℚ) < 2 ^ ((num.log2 + 1 : ℕ) : ℤ) := hn₂
      _ = 2 ^ ((num.log2 : ℤ) - den.log2 + 1) * 2 ^ (den.log2 : ℤ) := by
          rw [← zpow_add₀ two_ne_zero]
          congr 1
          push_cast
          ring
      _ ≤ 2 ^ ((num.log2 : ℤ) - den.log2 + 1) * den := by gcongr

/-- The exponent that is chosen leaves 53 bits before the point, unless it is the least one. -/
theorem exists_roundingExponent {num den : ℕ} (hnum : 0 < num) (hden : 0 < den) :
    ∃ k : ℤ, roundingExponent num den = max minExponent k ∧
      (2 : ℚ) ^ (k + 52) ≤ num / den ∧ (num / den : ℚ) < 2 ^ (k + 53) := by
  obtain ⟨hlow, hhigh⟩ := div_between hnum hden
  set guess : ℤ := (num.log2 : ℤ) - den.log2 - 52 with hguess
  -- the comparison of the rounded quotient is one of the quotient itself
  have hcompare : (scaled num den guess).1 / (scaled num den guess).2 < Nat.pow 2 52 ↔
      (num / den : ℚ) < 2 ^ (guess + 52) := by
    have hbottom : (0 : ℚ) < (scaled num den guess).2 := by
      exact_mod_cast scaled_pos num hden guess
    have hunits : (num / den : ℚ) < 2 ^ (guess + 52) ↔
        ((scaled num den guess).1 : ℚ) / (scaled num den guess).2 < 2 ^ (52 : ℤ) := by
      rw [scaled_div, div_lt_iff₀ (show (0 : ℚ) < 2 ^ guess by positivity),
        ← zpow_add₀ two_ne_zero, add_comm guess]
    rw [hunits, div_lt_iff₀ hbottom, Nat.div_lt_iff_lt_mul (scaled_pos num hden guess)]
    norm_cast
  refine ⟨if (num / den : ℚ) < 2 ^ (guess + 52) then guess - 1 else guess, ?_, ?_⟩
  · simp only [roundingExponent, ← hguess, hcompare]
  · split_ifs with h
    · rw [show guess - 1 + 52 = (num.log2 : ℤ) - den.log2 - 1 by omega,
        show guess - 1 + 53 = guess + 52 by omega]
      exact ⟨hlow.le, h⟩
    · rw [show guess + 53 = (num.log2 : ℤ) - den.log2 + 1 by omega]
      exact ⟨not_lt.mp h, hhigh⟩

/-! ### What rounds to a number -/

/-- The distance from `m * 2 ^ e` to the half-way point below it, in units of `2 ^ e`: below a power
of two the numbers lie twice as close. -/
def halfGapBelow (m : ℕ) (e : ℤ) : ℚ := if m = 2 ^ 52 ∧ minExponent < e then 1 / 4 else 1 / 2

theorem halfGapBelow_le (m : ℕ) (e : ℤ) : halfGapBelow m e ≤ 1 / 2 := by
  unfold halfGapBelow
  split_ifs <;> norm_num

theorem halfGapBelow_pos (m : ℕ) (e : ℤ) : 0 < halfGapBelow m e := by
  unfold halfGapBelow
  split_ifs <;> norm_num

/-- Between the half-way points to its neighbours, the number with this significand and exponent is
the nearest one; on them if it is even. -/
structure RoundsTo (x : ℚ) (m : ℕ) (e : ℤ) : Prop where
  /-- It is not too small. -/
  le_add : x ≤ (m + 1 / 2) * 2 ^ e
  /-- It is not too large. -/
  sub_le : (m - halfGapBelow m e) * 2 ^ e ≤ x
  /-- A number with an odd significand is nearest alone. -/
  odd : m % 2 = 1 → (m - halfGapBelow m e) * 2 ^ e < x ∧ x < (m + 1 / 2) * 2 ^ e

theorem RoundsTo.pos {x : ℚ} {m : ℕ} {e : ℤ} (h : RoundsTo x m e) (hm : 0 < m) : 0 < x := by
  have hm' : (1 : ℚ) ≤ m := by exact_mod_cast hm
  have hgap := halfGapBelow_le m e
  exact lt_of_lt_of_le (mul_pos (by linarith) (by positivity)) h.sub_le

/-- In units of the number's own last bit. -/
theorem RoundsTo.isNearest {x : ℚ} {m : ℕ} {e : ℤ} (h : RoundsTo x m e) :
    IsNearest (x / 2 ^ e) m := by
  have hunit : (0 : ℚ) < 2 ^ e := by positivity
  have hgap := halfGapBelow_le m e
  refine ⟨(div_le_iff₀ hunit).mpr h.le_add, ?_, fun hm => ?_⟩
  · rw [le_div_iff₀ hunit]
    exact le_trans (by gcongr) h.sub_le
  · obtain ⟨hlow, hhigh⟩ := h.odd hm
    rw [lt_div_iff₀ hunit, div_lt_iff₀ hunit]
    exact ⟨lt_of_le_of_lt (by gcongr) hlow, hhigh⟩

/-- Less than a power of two that it rounds to: in units of the bit below, which has the lower
exponent, it rounds up to one bit more. -/
theorem RoundsTo.isNearest_carry {x : ℚ} {m : ℕ} {e : ℤ} (h : RoundsTo x m e) (he : minExponent < e)
    (hfull : 2 ^ 52 ≤ m) (hx : x < 2 ^ (e + 52)) :
    m = 2 ^ 52 ∧ IsNearest (x / 2 ^ (e - 1)) (2 ^ 53) := by
  have hunit : (0 : ℚ) < 2 ^ e := by positivity
  have hunit' : (0 : ℚ) < 2 ^ (e - 1) := by positivity
  have hhalf : (2 : ℚ) ^ e = 2 * 2 ^ (e - 1) := by
    rw [← zpow_one_add₀ two_ne_zero]
    congr 1
    omega
  have hx' : x < 2 ^ 52 * 2 ^ e := by
    rw [zpow_add₀ two_ne_zero] at hx
    norm_num at hx ⊢
    linarith
  have hm : m = 2 ^ 52 := by
    by_contra hne
    have hm : (2 ^ 52 + 1 : ℚ) ≤ m := by exact_mod_cast (show 2 ^ 52 + 1 ≤ m by omega)
    have hlow := lt_of_le_of_lt h.sub_le hx'
    have := lt_of_mul_lt_mul_right hlow hunit.le
    linarith [halfGapBelow_le m e]
  refine ⟨hm, ?_, ?_, by norm_num⟩
  · rw [div_le_iff₀ hunit']
    rw [hhalf] at hx'
    push_cast
    linarith
  · rw [le_div_iff₀ hunit']
    have hlow := h.sub_le
    rw [halfGapBelow, if_pos ⟨hm, he⟩, hm, hhalf] at hlow
    push_cast at hlow ⊢
    linarith

/-- A number has 53 bits at most, and so has what rounds to it. -/
theorem RoundsTo.lt_zpow {x : ℚ} {m : ℕ} {e : ℤ} (h : RoundsTo x m e) (hm : m < 2 ^ 53) :
    x < 2 ^ (e + 53) := by
  have hm' : (m + 1 : ℚ) ≤ 2 ^ 53 := by exact_mod_cast hm
  refine lt_of_le_of_lt h.le_add ?_
  rw [zpow_add₀ two_ne_zero, mul_comm]
  gcongr
  norm_num at hm' ⊢
  linarith

/-- What is rounded up to 54 bits has 53 before the point. -/
theorem IsNearest.zpow_le {x : ℚ} {e : ℤ} (h : IsNearest (x / 2 ^ e) (2 ^ 53)) :
    2 ^ (e + 52) ≤ x := by
  have hunit : (0 : ℚ) < 2 ^ e := by positivity
  refine le_trans ?_ ((le_div_iff₀ hunit).mp h.sub_le)
  rw [zpow_add₀ two_ne_zero, mul_comm]
  gcongr
  norm_num

theorem ofRounded_eq {negative : Bool} {m : ℕ} {e : ℤ} (fits : Fits m e) :
    ofRounded negative m e = .finite negative m e fits := dif_pos fits

/-- A fraction that rounds to a number is rounded to it. -/
theorem ofFraction_eq {num den m : ℕ} {e : ℤ} (negative : Bool) (hden : 0 < den)
    (fits : Fits m e) (hm : 0 < m) (h : RoundsTo (num / den) m e) :
    ofFraction negative num den = .finite negative m e fits := by
  have hden' : (0 : ℚ) < den := by exact_mod_cast hden
  have hnum : 0 < num := by
    have := (div_pos_iff_of_pos_right hden').mp (h.pos hm)
    exact_mod_cast this
  obtain ⟨k, hround, hlow, hhigh⟩ := exists_roundingExponent hnum hden
  have hlt := fits.lt
  have hke : k ≤ e := by
    have := (zpow_lt_zpow_iff_right₀ one_lt_two).mp (lt_of_le_of_lt hlow (h.lt_zpow hlt))
    omega
  have hscaled := scaled_div num den (roundingExponent num den)
  have hpos := scaled_pos num hden (roundingExponent num den)
  rw [ofFraction, if_neg hnum.ne']
  by_cases hsame : roundingExponent num den = e
  · -- the quotient has the exponent of the number
    rw [hsame] at hscaled hpos ⊢
    have := roundQuotient_eq hpos (hscaled ▸ h.isNearest)
    simp only [this]
    rw [if_neg (Nat.ne_of_lt hlt), ofRounded_eq fits]
  · -- it lies below a power of two and is rounded up to it
    have he : minExponent < e := by
      have := fits.min_le
      rcases this.lt_or_eq with h' | h'
      · exact h'
      · exact absurd (hround.trans (by omega)) hsame
    have hfull : 2 ^ 52 ≤ m := fits.full.resolve_right (by omega)
    have hx : (num / den : ℚ) < 2 ^ (e + 52) := by
      refine lt_of_lt_of_le hhigh (zpow_le_zpow_right₀ one_le_two ?_)
      omega
    obtain ⟨rfl, hcarry⟩ := h.isNearest_carry he hfull hx
    have hk : e - 1 ≤ k := by
      have := (zpow_lt_zpow_iff_right₀ one_lt_two).mp (lt_of_le_of_lt hcarry.zpow_le hhigh)
      omega
    have hexponent : roundingExponent num den = e - 1 := by omega
    rw [hexponent] at hscaled hpos ⊢
    have := roundQuotient_eq hpos (hscaled ▸ hcarry)
    simp only [this]
    rw [if_pos (show 2 ^ 53 = Nat.pow 2 53 from rfl)]
    simp only [sub_add_cancel]
    exact ofRounded_eq fits

/-! ### Decimal digits -/

theorem ten_pow_length_le {n : ℕ} (hn : 0 < n) : 10 ^ ((Nat.toDigits 10 n).length - 1) ≤ n := by
  by_contra hcon
  have hlen : 0 < (Nat.toDigits 10 n).length := Nat.length_toDigits_pos
  rcases Nat.eq_zero_or_pos ((Nat.toDigits 10 n).length - 1) with h | h
  · rw [h] at hcon
    omega
  · have := (Nat.length_toDigits_le_iff (by decide) h).mpr (not_le.mp hcon)
    omega

theorem lt_ten_pow_length (n : ℕ) : n < 10 ^ (Nat.toDigits 10 n).length :=
  (Nat.length_toDigits_le_iff (by decide) Nat.length_toDigits_pos).mp le_rfl

/-- Below the least number are only fractions that round to zero. -/
theorem RoundsTo.not_tiny {x : ℚ} {m : ℕ} {e : ℤ} (h : RoundsTo x m e) (fits : Fits m e)
    (hm : 0 < m) : (10 : ℚ) ^ (-330 : ℤ) ≤ x := by
  have hm' : (1 : ℚ) ≤ m := by exact_mod_cast hm
  have hgap := halfGapBelow_le m e
  have hpow : (2 : ℚ) ^ (-1074 : ℤ) ≤ 2 ^ e := zpow_le_zpow_right₀ one_le_two fits.min_le
  have htiny : (10 : ℚ) ^ (-330 : ℤ) ≤ 1 / 2 * 2 ^ (-1074 : ℤ) := by
    have hnat : 2 * Nat.pow 2 1074 ≤ Nat.pow 10 330 := by decide +kernel
    rw [zpow_neg, zpow_neg, inv_eq_one_div, inv_eq_one_div, div_mul_div_comm, one_mul,
      div_le_div_iff₀ (by positivity) (by positivity)]
    have hrat := (Nat.cast_le (α := ℚ)).mpr hnat
    simp only [Nat.cast_mul, Nat.pow_eq, Nat.cast_pow, Nat.cast_ofNat] at hrat
    rw [one_mul, one_mul]
    exact hrat
  calc (10 : ℚ) ^ (-330 : ℤ) ≤ 1 / 2 * 2 ^ (-1074 : ℤ) := htiny
    _ ≤ (m - halfGapBelow m e) * 2 ^ e :=
        mul_le_mul (by linarith) hpow (by positivity) (by linarith)
    _ ≤ x := h.sub_le

/-- Above the greatest number are only fractions that round to an infinity. -/
theorem RoundsTo.not_huge {x : ℚ} {m : ℕ} {e : ℤ} (h : RoundsTo x m e) (fits : Fits m e) :
    x < 10 ^ (310 : ℤ) := by
  have hhuge : (2 : ℚ) ^ (1024 : ℤ) < 10 ^ (310 : ℤ) := by
    have hnat : Nat.pow 2 1024 < Nat.pow 10 310 := by decide +kernel
    have hrat := (Nat.cast_lt (α := ℚ)).mpr hnat
    simp only [Nat.pow_eq, Nat.cast_pow, Nat.cast_ofNat] at hrat
    exact hrat
  have hmax : e ≤ 971 := fits.le_max
  calc x < 2 ^ (e + 53) := h.lt_zpow fits.lt
    _ ≤ 2 ^ (1024 : ℤ) := zpow_le_zpow_right₀ one_le_two (by omega)
    _ < 10 ^ (310 : ℤ) := hhuge

/-- The digits of a numeral and its power of ten bound it. -/
theorem decimal_between {digits : ℕ} (hdigits : 0 < digits) (power : ℤ) :
    (10 : ℚ) ^ ((Nat.toDigits 10 digits).length + power - 1) ≤ digits * 10 ^ power ∧
      (digits * 10 ^ power : ℚ) < 10 ^ ((Nat.toDigits 10 digits).length + power) := by
  have hlen : 0 < (Nat.toDigits 10 digits).length := Nat.length_toDigits_pos
  have ten : (10 : ℚ) ≠ 0 := by norm_num
  constructor
  · rw [show ((Nat.toDigits 10 digits).length + power - 1 : ℤ) =
      (((Nat.toDigits 10 digits).length - 1 : ℕ) : ℤ) + power by omega, zpow_add₀ ten, zpow_natCast]
    gcongr
    exact_mod_cast ten_pow_length_le hdigits
  · rw [zpow_add₀ ten, zpow_natCast]
    gcongr
    exact_mod_cast lt_ten_pow_length digits

/-- A numeral that rounds to a number is read as it. -/
theorem ofDecimal_eq {digits m : ℕ} {power e : ℤ} (negative : Bool) (fits : Fits m e) (hm : 0 < m)
    (h : RoundsTo (digits * 10 ^ power) m e) :
    ofDecimal negative digits power = .finite negative m e fits := by
  have hdigits : 0 < digits := by
    rcases Nat.eq_zero_or_pos digits with h' | h'
    · have := h.pos hm
      simp [h'] at this
    · exact h'
  obtain ⟨hlow, hhigh⟩ := decimal_between hdigits power
  -- the shortcuts for extreme powers are not taken
  have hsmall := (zpow_lt_zpow_iff_right₀ (by norm_num)).mp
    (lt_of_le_of_lt (h.not_tiny fits hm) hhigh)
  have hlarge := (zpow_lt_zpow_iff_right₀ (by norm_num)).mp (lt_of_le_of_lt hlow (h.not_huge fits))
  unfold ofDecimal
  dsimp only
  rw [if_neg (by omega), if_neg (by omega)]
  refine ofFraction_eq negative (Nat.pow_pos (by decide)) fits hm ?_
  have hvalue := pow_toNat_div (b := 10) (by decide) power
  simp only [Nat.pow_eq] at hvalue ⊢
  rwa [Nat.cast_mul, mul_div_assoc, hvalue]

end ProcedureCall.Binary
