import Mathlib.Data.List.TakeWhile
import ProcedureCall.Proofs.Number.Numeral
import ProcedureCall.Proofs.Number.Shortest

/-!
# The text of a number reads back as the number

The text of a finite number is a sign and a numeral with a point or an exponent (`Scientific`). Such a
numeral is read as its digits and the power of ten of the last one, whichever way it is written; and
these are the shortest digits of the number, which round to it.

## What is proved

* `Numeral.Scientific.decimal?_text` — how a numeral is read.
* `Binary.exists_text` — the text of a finite number is such a numeral, and what is read is the
  number.
-/

namespace ProcedureCall

namespace Numeral

/-! ### Numerals with a point or an exponent -/

/-- A point and the digits behind it; no point without digits. -/
def pointed (fraction : List Char) : List Char := if fraction = [] then [] else '.' :: fraction

/-- A character of a numeral. -/
def IsPart (c : Char) : Prop := c.isDigit = true ∨ c = '-' ∨ c = '+' ∨ c = '.' ∨ c = 'e' ∨ c = 'E'

/-- A numeral with a point or an exponent: digits before the point, which do not begin with a zero
that could be left out, digits behind it or none, and an exponent or none. -/
structure Scientific where
  /-- The digits before the point. -/
  whole : List Char
  /-- The digits behind it. -/
  fraction : List Char
  /-- The text of the exponent. -/
  exponent : List Char
  /-- The exponent. -/
  power : ℤ
  isDigit_whole : ∀ c ∈ whole, c.isDigit = true
  isDigit_fraction : ∀ c ∈ fraction, c.isDigit = true
  whole_ne_nil : whole ≠ []
  eq_zero_of_head? : whole.head? = some '0' → whole = ['0']
  exponent?_eq : exponent? exponent = some power
  isPart_exponent : ∀ c ∈ exponent, IsPart c
  fractional : fraction ≠ [] ∨ exponent ≠ []

namespace Scientific

variable (s : Scientific)

/-- The text of the numeral. -/
def text : List Char := s.whole ++ pointed s.fraction ++ s.exponent

/-- Its digits as a number. -/
def digits : ℕ := Nat.ofDigitChars 10 (s.whole ++ s.fraction) 0

/-- The power of ten of its last digit. -/
def lastPower : ℤ := s.power - s.fraction.length

/-- The rational that it denotes. -/
def value : ℚ := s.digits * 10 ^ s.lastPower

end Scientific

/-- A run of digits at the front. -/
theorem leadingDigits_append {run rest : List Char} (hrun : ∀ c ∈ run, c.isDigit = true)
    (hrest : ∀ c ∈ rest.head?, c.isDigit = false) :
    leadingDigits (run ++ rest) = (run.length, Nat.ofDigitChars 10 run 0, rest) := by
  have hall : ∀ c ∈ run, Text.isAsciiDigit c = true := hrun
  have htake : (run ++ rest).takeWhile Text.isAsciiDigit = run := by
    rw [List.takeWhile_append_of_pos hall]
    cases rest with
    | nil => simp
    | cons c rest =>
      have hc : ¬ Text.isAsciiDigit c = true := Bool.eq_false_iff.mp (hrest c rfl)
      rw [List.takeWhile_cons_of_neg hc, List.append_nil]
  have hdrop : (run ++ rest).dropWhile Text.isAsciiDigit = rest := by
    rw [List.dropWhile_append_of_pos hall]
    cases rest with
    | nil => rfl
    | cons c rest =>
      have hc : ¬ Text.isAsciiDigit c = true := Bool.eq_false_iff.mp (hrest c rfl)
      rw [List.dropWhile_cons_of_neg hc]
  rw [leadingDigits, htake, hdrop]
  rfl

/-- An exponent begins with its letter. -/
theorem head?_of_exponent? {c : Char} {s : List Char} {power : ℤ}
    (h : exponent? (c :: s) = some power) : c = 'e' ∨ c = 'E' := by
  rw [exponent?] at h
  split at h
  · assumption
  · cases h

theorem sign_of_isDigit {c : Char} {s : List Char} (h : c.isDigit = true) :
    sign (c :: s) = (false, c :: s) := by
  have hminus : c ≠ '-' := by
    rintro rfl
    exact absurd h (by decide)
  have hplus : c ≠ '+' := by
    rintro rfl
    exact absurd h (by decide)
  rw [sign.eq_def]
  split <;> simp_all

/-- A sign that is written only if it is a minus. -/
def minus (negative : Bool) : List Char := if negative then ['-'] else []

theorem sign_minus_append (negative : Bool) {c : Char} {s : List Char} (h : c.isDigit = true) :
    sign (minus negative ++ c :: s) = (negative, c :: s) := by
  cases negative with
  | true => rfl
  | false => exact sign_of_isDigit h

/-- Neither a point nor the letter of an exponent is a digit. -/
theorem Scientific.of_mem_head?_exponent (s : Scientific) {c : Char} (h : c ∈ s.exponent.head?) :
    c.isDigit = false ∧ c ≠ '.' := by
  obtain ⟨t, ht⟩ := List.head?_eq_some_iff.mp h
  rcases head?_of_exponent? (ht ▸ s.exponent?_eq) with rfl | rfl <;> decide

theorem Scientific.leadingDigits_text (s : Scientific) :
    leadingDigits s.text =
      (s.whole.length, Nat.ofDigitChars 10 s.whole 0, pointed s.fraction ++ s.exponent) := by
  rw [Scientific.text, List.append_assoc]
  refine leadingDigits_append s.isDigit_whole ?_
  intro c hc
  by_cases hfraction : s.fraction = []
  · rw [pointed, if_pos hfraction] at hc
    exact (s.of_mem_head?_exponent hc).1
  · rw [pointed, if_neg hfraction] at hc
    obtain rfl : '.' = c := by simpa using hc
    decide

/-- A numeral is read as its digits and the power of ten of the last one. -/
theorem Scientific.decimal?_text (s : Scientific) (negative : Bool) :
    decimal? (minus negative ++ s.text) = some (negative, s.digits, s.lastPower) := by
  obtain ⟨c, rest, hwhole⟩ := List.exists_cons_of_ne_nil s.whole_ne_nil
  have hsign : sign (minus negative ++ s.text) = (negative, s.text) := by
    have hc := s.isDigit_whole c (hwhole ▸ List.mem_cons_self)
    rw [Scientific.text, hwhole, List.cons_append, List.cons_append, sign_minus_append _ hc]
  have hne : s.whole.length ≠ 0 := by
    rw [hwhole]
    exact Nat.succ_ne_zero _
  -- the parts behind the first digits, with a point and without one
  suffices h : ∃ count value : ℕ, count = s.fraction.length ∧
      Nat.ofDigitChars 10 s.fraction 0 = value ∧
      decimal? (minus negative ++ s.text) =
        if s.whole.length + count = 0 then none
        else (exponent? s.exponent).map fun power =>
          (negative, Nat.ofDigitChars 10 s.whole 0 * Nat.pow 10 count + value,
            power - (count : ℤ)) by
    obtain ⟨count, value, rfl, rfl, hread⟩ := h
    rw [hread, if_neg (by omega), s.exponent?_eq, Option.map_some, Scientific.digits,
      Nat.ofDigitChars_append,
      @Nat.ofDigitChars_eq_ofDigitChars_zero s.fraction (Nat.ofDigitChars 10 s.whole 0),
      Nat.mul_comm]
    rfl
  rw [decimal?, hsign]
  dsimp only
  rw [s.leadingDigits_text]
  by_cases hfraction : s.fraction = []
  · refine ⟨0, 0, by rw [hfraction]; rfl, by rw [hfraction]; rfl, ?_⟩
    rw [pointed, if_pos hfraction, List.nil_append]
    have hread := s.exponent?_eq
    cases hexp : s.exponent with
    | nil => rfl
    | cons d t =>
      rw [hexp] at hread
      rcases head?_of_exponent? hread with rfl | rfl <;> rfl
  · refine ⟨_, _, rfl, rfl, ?_⟩
    rw [pointed, if_neg hfraction, List.cons_append]
    have hsecond : leadingDigits (s.fraction ++ s.exponent) = _ :=
      leadingDigits_append s.isDigit_fraction fun c hc => (s.of_mem_head?_exponent hc).1
    change (if s.whole.length + (leadingDigits (s.fraction ++ s.exponent)).1 = 0 then none
      else (exponent? (leadingDigits (s.fraction ++ s.exponent)).2.2).map fun power =>
        (negative,
          Nat.ofDigitChars 10 s.whole 0 * Nat.pow 10 (leadingDigits (s.fraction ++ s.exponent)).1 +
            (leadingDigits (s.fraction ++ s.exponent)).2.1,
          power - ((leadingDigits (s.fraction ++ s.exponent)).1 : ℤ))) = _
    rw [hsecond]

theorem isPart_minus (negative : Bool) : ∀ c ∈ minus negative, IsPart c := by
  intro c hc
  cases negative with
  | true => exact .inr (.inl (List.mem_singleton.mp hc))
  | false => cases hc

theorem Scientific.isPart_text (s : Scientific) : ∀ c ∈ s.text, IsPart c := by
  intro c hc
  rcases List.mem_append.mp hc with hc | hc
  · rcases List.mem_append.mp hc with hc | hc
    · exact .inl (s.isDigit_whole c hc)
    · unfold pointed at hc
      split_ifs at hc
      · cases hc
      · rcases List.mem_cons.mp hc with rfl | hc
        · simp [IsPart]
        · exact .inl (s.isDigit_fraction c hc)
  · exact s.isPart_exponent c hc

/-- A run of digits that is the whole rest. -/
theorem leadingDigits_of_isDigit {run : List Char} (h : ∀ c ∈ run, c.isDigit = true) :
    leadingDigits run = (run.length, Nat.ofDigitChars 10 run 0, []) := by
  have hread : leadingDigits (run ++ []) = _ := leadingDigits_append h (by simp)
  rwa [List.append_nil] at hread

theorem isDigit_of_mem_toDigits {n : ℕ} {c : Char} (h : c ∈ Nat.toDigits 10 n) :
    c.isDigit = true := Nat.isDigit_of_mem_toDigits (by decide) (by decide) h

/-- A positive number does not begin with a zero. -/
theorem head?_toDigits_ne {n : ℕ} (hn : 0 < n) : (Nat.toDigits 10 n).head? ≠ some '0' := by
  induction n using Nat.strongRecOn with
  | ind n ih =>
    by_cases hlt : n < 10
    · rw [Nat.toDigits_of_lt_base hlt]
      rw [List.head?_cons]
      intro hzero
      have hvalue := Nat.toNat_digitChar_sub_48_of_lt_ten hlt
      rw [Option.some.inj hzero] at hvalue
      exact hn.ne hvalue
    · rw [Nat.toDigits_of_base_le (by decide) (by omega), List.head?_append]
      have := ih (n / 10) (by omega) (by omega)
      cases h : (Nat.toDigits 10 (n / 10)).head? with
      | none => exact absurd (List.head?_eq_none_iff.mp h) Nat.toDigits_ne_nil
      | some c =>
        rw [h] at this
        simpa using this

end Numeral

namespace Binary

open Numeral

/-! ### The digits that are kept -/

/-- Digits of which the first is not a zero. -/
structure Leads (digits : List Char) : Prop where
  isDigit : ∀ c ∈ digits, c.isDigit = true
  ne_nil : digits ≠ []
  head?_ne : digits.head? ≠ some '0'

/-- Without the zeros at its end. -/
theorem exists_kept {n : ℕ} (hn : 0 < n) :
    ∃ zeros : ℕ, Nat.toDigits 10 n =
        ((Nat.toDigits 10 n).reverse.dropWhile (· == '0')).reverse ++ List.replicate zeros '0' ∧
      Leads ((Nat.toDigits 10 n).reverse.dropWhile (· == '0')).reverse := by
  set kept := ((Nat.toDigits 10 n).reverse.dropWhile (· == '0')).reverse with hkept
  set dropped := ((Nat.toDigits 10 n).reverse.takeWhile (· == '0')).reverse with hdropped
  have hsplit : Nat.toDigits 10 n = kept ++ dropped := by
    rw [hkept, hdropped, ← List.reverse_append, List.takeWhile_append_dropWhile,
      List.reverse_reverse]
  have hzeros : dropped = List.replicate dropped.length '0' := by
    refine List.eq_replicate_of_mem fun c hc => ?_
    rw [hdropped, List.mem_reverse] at hc
    have hzero := List.mem_takeWhile_imp hc
    exact beq_iff_eq.mp hzero
  have hne : kept ≠ [] := by
    intro hnil
    have hvalue := Nat.ofDigitChars_ten_toDigits (n := n)
    rw [hsplit, hnil, List.nil_append, hzeros, Nat.ofDigitChars_replicate_zero] at hvalue
    omega
  refine ⟨dropped.length, by rw [← hzeros]; exact hsplit, ?_, hne, ?_⟩
  · intro c hc
    exact isDigit_of_mem_toDigits (hsplit ▸ List.mem_append_left _ hc)
  · have := head?_toDigits_ne hn
    rwa [hsplit, List.head?_append_of_ne_nil _ hne] at this

/-! ### The two ways of writing digits -/

/-- The rational that digits with the point `point` places after the first one's front denote. -/
def pointValue (digits : List Char) (point : ℤ) : ℚ :=
  Nat.ofDigitChars 10 digits 0 * 10 ^ (point - digits.length)

theorem isDigit_of_mem_replicate {k : ℕ} {c : Char} (h : c ∈ List.replicate k '0') :
    c.isDigit = true := by
  rw [List.eq_of_mem_replicate h]
  rfl

section

variable {digits : List Char} (h : Leads digits) (point : ℤ)

/-- The numeral with the point before the digits. -/
def behindPoint : Scientific where
  whole := ['0']
  fraction := List.replicate (-point).toNat '0' ++ digits
  exponent := []
  power := 0
  isDigit_whole := by simp
  isDigit_fraction c hc := (List.mem_append.mp hc).elim isDigit_of_mem_replicate (h.isDigit c)
  whole_ne_nil := by simp
  eq_zero_of_head? _ := rfl
  exponent?_eq := rfl
  isPart_exponent := by simp
  fractional := .inl (by simp [h.ne_nil])

/-- The numeral with the point behind the digits. -/
def beforePoint : Scientific where
  whole := digits ++ List.replicate (point.toNat - digits.length) '0'
  fraction := ['0']
  exponent := []
  power := 0
  isDigit_whole c hc := (List.mem_append.mp hc).elim (h.isDigit c) isDigit_of_mem_replicate
  isDigit_fraction := by simp
  whole_ne_nil := by simp [h.ne_nil]
  eq_zero_of_head? := by
    rw [List.head?_append_of_ne_nil _ h.ne_nil]
    exact fun hhead => absurd hhead h.head?_ne
  exponent?_eq := rfl
  isPart_exponent := by simp
  fractional := .inl (by simp)

/-- The numeral with the point among the digits. -/
def aroundPoint (hfront : 0 < point) (hback : point < digits.length) : Scientific where
  whole := digits.take point.toNat
  fraction := digits.drop point.toNat
  exponent := []
  power := 0
  isDigit_whole c hc := h.isDigit c (List.mem_of_mem_take hc)
  isDigit_fraction c hc := h.isDigit c (List.mem_of_mem_drop hc)
  whole_ne_nil := by
    simp only [ne_eq, List.take_eq_nil_iff, h.ne_nil, or_false]
    omega
  eq_zero_of_head? := by
    rw [List.head?_take, if_neg (by omega)]
    exact fun hhead => absurd hhead h.head?_ne
  exponent?_eq := rfl
  isPart_exponent := by simp
  fractional := .inl (by
    simp only [ne_eq, List.drop_eq_nil_iff]
    omega)

theorem value_behindPoint (hpoint : point ≤ 0) :
    (behindPoint h point).value = pointValue digits point := by
  have hdigits : (behindPoint h point).digits = Nat.ofDigitChars 10 digits 0 := by
    simp [behindPoint, Scientific.digits, Nat.ofDigitChars_cons, Nat.ofDigitChars_append]
  have hlast : (behindPoint h point).lastPower = point - digits.length := by
    simp only [behindPoint, Scientific.lastPower, List.length_append, List.length_replicate]
    omega
  rw [Scientific.value, hdigits, hlast, pointValue]

theorem value_beforePoint (hpoint : digits.length ≤ point) :
    (beforePoint h point).value = pointValue digits point := by
  have hdigits : (beforePoint h point).digits =
      10 * (10 ^ (point.toNat - digits.length) * Nat.ofDigitChars 10 digits 0) := by
    simp [beforePoint, Scientific.digits, Nat.ofDigitChars_cons, Nat.ofDigitChars_append]
  have hlast : (beforePoint h point).lastPower = -1 := rfl
  have hpower : point - digits.length = ((point.toNat - digits.length : ℕ) : ℤ) := by omega
  rw [Scientific.value, hdigits, hlast, pointValue, hpower, zpow_natCast]
  push_cast
  rw [zpow_neg, zpow_one]
  ring

theorem value_aroundPoint (hfront : 0 < point) (hback : point < digits.length) :
    (aroundPoint h point hfront hback).value = pointValue digits point := by
  have hdigits : (aroundPoint h point hfront hback).digits = Nat.ofDigitChars 10 digits 0 := by
    simp [aroundPoint, Scientific.digits]
  have hlast : (aroundPoint h point hfront hback).lastPower = point - digits.length := by
    simp only [aroundPoint, Scientific.lastPower, List.length_drop]
    omega
  rw [Scientific.value, hdigits, hlast, pointValue]

include h in
/-- Digits with a point are a numeral, wherever the point stands. -/
theorem positional_eq :
    ∃ s : Scientific, positional digits point = s.text ∧ s.value = pointValue digits point := by
  unfold positional
  split_ifs with hfront hback
  · refine ⟨behindPoint h point, ?_, value_behindPoint h point hfront⟩
    simp [behindPoint, Scientific.text, pointed, h.ne_nil]
  · refine ⟨beforePoint h point, ?_, value_beforePoint h point hback⟩
    simp [beforePoint, Scientific.text, pointed]
  · refine ⟨aroundPoint h point (by omega) (by omega), ?_, value_aroundPoint h point _ _⟩
    have hdrop : digits.drop point.toNat ≠ [] := by
      simp only [ne_eq, List.drop_eq_nil_iff]
      omega
    simp [aroundPoint, Scientific.text, pointed, hdrop]

end

/-- The text of an exponent, with a sign and filled up with zeros. -/
theorem exponent?_shown (power : ℤ) (zeros : ℕ) :
    exponent? ('e' :: (if power < 0 then '-' else '+') ::
      (List.replicate zeros '0' ++ Nat.toDigits 10 power.natAbs)) = some power := by
  have hdigits : ∀ c ∈ List.replicate zeros '0' ++ Nat.toDigits 10 power.natAbs,
      c.isDigit = true := by
    intro c hc
    rcases List.mem_append.mp hc with hc | hc
    · rw [List.eq_of_mem_replicate hc]
      rfl
    · exact isDigit_of_mem_toDigits hc
  have hread := leadingDigits_of_isDigit hdigits
  rw [Nat.ofDigitChars_append, Nat.ofDigitChars_replicate_zero, Nat.mul_zero,
    Nat.ofDigitChars_ten_toDigits] at hread
  have hne : (List.replicate zeros '0' ++ Nat.toDigits 10 power.natAbs).length ≠ 0 := by simp
  have hsign : ∀ s, sign ((if power < 0 then '-' else '+') :: s) = (decide (power < 0), s) := by
    intro s
    by_cases h : power < 0
    · rw [if_pos h, decide_eq_true h]
      rfl
    · rw [if_neg h, decide_eq_false h]
      rfl
  rw [exponent?, if_pos (.inl rfl), hsign]
  dsimp only
  rw [hread]
  dsimp only
  rw [if_neg hne, signed_natAbs]

theorem isPart_shown (power : ℤ) (zeros : ℕ) :
    ∀ c ∈ 'e' :: (if power < 0 then '-' else '+') ::
      (List.replicate zeros '0' ++ Nat.toDigits 10 power.natAbs), IsPart c := by
  refine List.forall_mem_cons.mpr ⟨?_, List.forall_mem_cons.mpr ⟨?_, ?_⟩⟩
  · simp [IsPart]
  · split_ifs <;> simp [IsPart]
  · intro c hc
    rcases List.mem_append.mp hc with hc | hc
    · rw [List.eq_of_mem_replicate hc]
      exact .inl rfl
    · exact .inl (isDigit_of_mem_toDigits hc)

/-- The numeral with the point behind the first digit and an exponent, which is filled up with
zeros. -/
def withExponent {digits : List Char} (h : Leads digits) (point : ℤ) (zeros : ℕ) : Scientific where
  whole := digits.take 1
  fraction := digits.drop 1
  exponent := 'e' :: (if point - 1 < 0 then '-' else '+') ::
    (List.replicate zeros '0' ++ Nat.toDigits 10 (point - 1).natAbs)
  power := point - 1
  isDigit_whole c hc := h.isDigit c (List.mem_of_mem_take hc)
  isDigit_fraction c hc := h.isDigit c (List.mem_of_mem_drop hc)
  whole_ne_nil := by simp [h.ne_nil]
  eq_zero_of_head? := by
    rw [List.head?_take, if_neg one_ne_zero]
    exact fun hhead => absurd hhead h.head?_ne
  exponent?_eq := exponent?_shown _ _
  isPart_exponent := isPart_shown _ _
  fractional := .inr (by simp)

theorem value_withExponent {digits : List Char} (h : Leads digits) (point : ℤ) (zeros : ℕ) :
    (withExponent h point zeros).value = pointValue digits point := by
  have hpos : 0 < digits.length := List.length_pos_of_ne_nil h.ne_nil
  have hdigits : (withExponent h point zeros).digits = Nat.ofDigitChars 10 digits 0 := by
    rw [Scientific.digits, withExponent, List.take_append_drop]
  have hlast : (withExponent h point zeros).lastPower = point - digits.length := by
    simp only [withExponent, Scientific.lastPower, List.length_drop]
    omega
  rw [Scientific.value, hdigits, hlast, pointValue]

/-- Digits with an exponent are a numeral. -/
theorem exponential_eq (l : Layout) {digits : List Char} (h : Leads digits) (point : ℤ) :
    ∃ s : Scientific, exponential l digits point = s.text ∧ s.value = pointValue digits point := by
  refine ⟨withExponent h point (l.exponentDigits - (Nat.toDigits 10 (point - 1).natAbs).length), ?_,
    value_withExponent h point _⟩
  by_cases hlen : 1 < digits.length
  · have hrest : digits.tail ≠ [] := by
      rw [← List.drop_one, ne_eq, List.drop_eq_nil_iff, not_le]
      exact hlen
    rw [exponential, if_pos hlen]
    simp [withExponent, Scientific.text, pointed, hrest]
  · have hrest : digits.tail = [] := by
      rw [← List.drop_one, List.drop_eq_nil_iff]
      exact not_lt.mp hlen
    rw [exponential, if_neg hlen]
    simp [withExponent, Scientific.text, pointed, hrest]

/-! ### The text of a number -/

/-- The numeral of zero. -/
def zeroNumeral : Scientific where
  whole := ['0']
  fraction := ['0']
  exponent := []
  power := 0
  isDigit_whole := by simp
  isDigit_fraction := by simp
  whole_ne_nil := by simp
  eq_zero_of_head? _ := rfl
  exponent?_eq := rfl
  isPart_exponent := by simp
  fractional := .inl (by simp)

/-- The text of a finite number is a numeral that is read as the number. -/
theorem exists_text (negative : Bool) {m : ℕ} {e : ℤ} (fits : Fits m e) :
    ∃ s : Scientific, (finite negative m e fits).text = minus negative ++ s.text ∧
      ofDecimal negative s.digits s.lastPower = finite negative m e fits := by
  rcases Nat.eq_zero_or_pos m with rfl | hm
  · -- zero has the least exponent
    have he : e = minExponent := fits.full.resolve_left (by decide)
    subst he
    exact ⟨zeroNumeral, rfl, rfl⟩
  · set digits := (shortest m e).1 with hdigits
    set power := (shortest m e).2 with hpower
    obtain ⟨zeros, hkept, hleads⟩ := exists_kept (shortest_pos fits hm)
    rw [← hdigits] at hkept hleads
    set kept := ((Nat.toDigits 10 digits).reverse.dropWhile (· == '0')).reverse with hk
    set point : ℤ := (Nat.toDigits 10 digits).length + power with hpoint
    -- the zeros that are not written are made up for by the place of the point
    have hvalue : pointValue kept point = digits * 10 ^ power := by
      have hlen := congrArg List.length hkept
      rw [List.length_append, List.length_replicate] at hlen
      have hnumber := Nat.ofDigitChars_ten_toDigits (n := digits)
      rw [hkept, Nat.ofDigitChars_append, Nat.ofDigitChars_replicate_zero] at hnumber
      rw [pointValue, hpoint, hlen, ← hnumber]
      push_cast
      rw [show (kept.length + zeros + power - kept.length : ℤ) = zeros + power by ring,
        zpow_add₀ (by norm_num), zpow_natCast]
      ring
    have hread : ∀ s : Scientific, s.value = pointValue kept point →
        ofDecimal negative s.digits s.lastPower = finite negative m e fits := by
      intro s hs
      refine ofDecimal_eq negative fits hm ?_
      have : (s.digits * 10 ^ s.lastPower : ℚ) = digits * 10 ^ power := hs.trans hvalue
      rw [this]
      exact shortest_roundsTo fits hm
    have htext : (finite negative m e fits).text = minus negative ++
        if layout.leastPoint ≤ point ∧ point ≤ layout.greatestPoint then positional kept point
        else exponential layout kept point := by
      simp only [text, if_neg hm.ne', minus]
      rfl
    rw [htext]
    split_ifs
    · obtain ⟨s, hs, hs'⟩ := positional_eq hleads point
      exact ⟨s, by rw [hs], hread s hs'⟩
    · obtain ⟨s, hs, hs'⟩ := exponential_eq layout hleads point
      exact ⟨s, by rw [hs], hread s hs'⟩

end Binary

end ProcedureCall
