import Mathlib.Algebra.Order.Field.Power
import Mathlib.Data.Nat.Cast.Order.Field
import WebForm.Proofs.Number.Rounding
/-!
# The shortest digits of a double

The search for the shortest digits goes from coarse grids to fine ones and takes the first point
that lies in the neighbourhood of the double. It ends on a grid of eighteen digits at the latest,
because the step of that grid is less than a quarter of the last place. What it finds is therefore
in the neighbourhood.
-/

set_option autoImplicit false

namespace WebForm

theorem cast_tenTo (n : ℕ) : (tenTo n : ℚ) = 10 ^ n := by
  rw [tenTo, show Nat.pow 10 n = 10 ^ n from rfl]
  push_cast
  rfl

namespace Decimal

/-- The number that a decimal is. -/
def value (d : Decimal) : ℚ := d.coefficient * 10 ^ d.exponent

/-- Zeros at the end do not count. -/
theorem value_stripZeros (fuel : ℕ) (d : Decimal) : (d.stripZeros fuel).value = d.value := by
  induction fuel generalizing d with
  | zero => rfl
  | succ fuel ih =>
    rw [stripZeros]
    split
    next h =>
      have hten : (10 : ℚ) ≠ 0 := by norm_num
      have hdiv : d.coefficient / 10 * 10 = d.coefficient := Nat.div_mul_cancel (by
        rw [Bool.and_eq_true, decide_eq_true_iff] at h
        exact Nat.dvd_of_mod_eq_zero h.1)
      rw [ih, value, value, zpow_add_one₀ hten, ← mul_assoc, mul_right_comm]
      dsimp only
      exact_mod_cast congrArg (fun n : ℕ => (n : ℚ) * 10 ^ d.exponent) hdiv
    · rfl

/-- A number has no more digits than it needs. -/
theorem lt_pow_length_digitsOf (n : ℕ) : n < 10 ^ (digitsOf n).length :=
  (Nat.length_toDigits_le_iff (by decide) Nat.length_toDigits_pos).mp le_rfl

theorem pow_length_digitsOf_le {n : ℕ} (hn : 0 < n) : 10 ^ ((digitsOf n).length - 1) ≤ n := by
  have hpos : 0 < (digitsOf n).length := Nat.length_toDigits_pos
  by_contra! hlt
  by_cases hone : (digitsOf n).length = 1
  · rw [hone] at hlt
    omega
  · have hlength := (Nat.length_toDigits_le_iff (by decide) (by omega)).mpr hlt
    rw [digitsOf] at hpos hlength
    omega

end Decimal

namespace Double

open Decimal

/-- The power of ten of the leading digit is not above the number. -/
theorem zpow_leadingPower_le {num den : ℕ} (hnum : 0 < num) (hden : 0 < den) :
    (10 : ℚ) ^ leadingPower num den ≤ num / den := by
  have hden' : (0 : ℚ) < den := by exact_mod_cast hden
  rw [leadingPower]
  split
  next hle =>
    have hpos : 0 < num / den := Nat.div_pos hle hden
    have hlength : ((digitsOf (num / den)).length : ℤ) - 1 =
        ((digitsOf (num / den)).length - 1 : ℕ) := by
      have : 0 < (digitsOf (num / den)).length := Nat.length_toDigits_pos
      omega
    rw [hlength, zpow_natCast]
    calc (10 : ℚ) ^ ((digitsOf (num / den)).length - 1) ≤ (num / den : ℕ) := by
          exact_mod_cast pow_length_digitsOf_le hpos
      _ ≤ num / den := Nat.cast_div_le
  next =>
    have hlt := lt_pow_length_digitsOf ((den - 1) / num)
    rw [Nat.div_lt_iff_lt_mul hnum] at hlt
    have hpow : (0 : ℚ) < 10 ^ (digitsOf ((den - 1) / num)).length := by positivity
    rw [zpow_neg, zpow_natCast, inv_eq_one_div, div_le_div_iff₀ hpow hden', one_mul]
    have hle : den ≤ num * 10 ^ (digitsOf ((den - 1) / num)).length := by
      rw [Nat.mul_comm num]
      omega
    exact_mod_cast hle

/-! ## Grids -/

/-- A unit and the step of a grid as natural numbers, with a common scale. -/
theorem exists_grid {den : ℕ} (num : ℕ) (hden : 0 < den) (e : ℤ) :
    ∃ scaleUp step : ℕ,
      (if 0 ≤ e then (num, den * tenTo e.toNat) else (num * tenTo (-e).toNat, den)) =
        (scaleUp, step) ∧ 0 < step ∧ (scaleUp : ℚ) * 10 ^ e = num / den * step := by
  have hden' : (den : ℚ) ≠ 0 := by exact_mod_cast hden.ne'
  have hten : (10 : ℚ) ≠ 0 := by norm_num
  by_cases he : 0 ≤ e
  · refine ⟨_, _, if_pos he, Nat.mul_pos hden (tenTo_pos _), ?_⟩
    obtain ⟨n, rfl⟩ := Int.eq_ofNat_of_zero_le he
    rw [Nat.cast_mul, cast_tenTo, ← mul_assoc, div_mul_cancel₀ _ hden', Int.toNat_natCast,
      zpow_natCast]
  · refine ⟨_, _, if_neg he, hden, ?_⟩
    obtain ⟨n, hn⟩ := Int.eq_ofNat_of_zero_le (a := -e) (by omega)
    obtain rfl : e = -n := by omega
    rw [Nat.cast_mul, cast_tenTo, neg_neg, Int.toNat_natCast, div_mul_cancel₀ _ hden', zpow_neg,
      zpow_natCast, mul_assoc, mul_inv_cancel₀ (pow_ne_zero n hten), mul_one]

/-- Multiples of the unit against points of the grid, in the common scale. -/
theorem mul_scaleUp_le_iff {scaleUp step a k : ℕ} {unit : ℚ} {e : ℤ} (hstep : 0 < step)
    (hscale : (scaleUp : ℚ) * 10 ^ e = unit * step) :
    a * scaleUp ≤ k * step ↔ a * unit ≤ k * (10 : ℚ) ^ e := by
  have hstep' : (0 : ℚ) < step := by exact_mod_cast hstep
  have hpow : (0 : ℚ) < 10 ^ e := by positivity
  rw [← @Nat.cast_le ℚ, Nat.cast_mul, Nat.cast_mul, ← mul_le_mul_iff_left₀ hpow,
    mul_assoc, hscale, ← mul_assoc, mul_right_comm (k : ℚ), mul_le_mul_iff_left₀ hstep']

theorem mul_step_le_iff {scaleUp step a k : ℕ} {unit : ℚ} {e : ℤ} (hstep : 0 < step)
    (hscale : (scaleUp : ℚ) * 10 ^ e = unit * step) :
    k * step ≤ a * scaleUp ↔ k * (10 : ℚ) ^ e ≤ a * unit := by
  have hstep' : (0 : ℚ) < step := by exact_mod_cast hstep
  have hpow : (0 : ℚ) < 10 ^ e := by positivity
  rw [← @Nat.cast_le ℚ, Nat.cast_mul, Nat.cast_mul, ← mul_le_mul_iff_left₀ hpow,
    mul_assoc (a : ℚ), hscale, ← mul_assoc, mul_right_comm (k : ℚ), mul_le_mul_iff_left₀ hstep']

/-! ## The search -/

section
variable {tie : Tie} {b : Neighbourhood} {num den : ℕ} {lead : ℤ}

/-- Whether a point of a grid is inside is whether the neighbourhood contains it. -/
theorem inside_iff {scaleUp step k : ℕ} {unit : ℚ} {e : ℤ} (hstep : 0 < step)
    (hscale : (scaleUp : ℚ) * 10 ^ e = unit * step) :
    (if b.closed then decide (b.low * scaleUp ≤ k * step) && decide (k * step ≤ b.high * scaleUp)
      else decide (b.low * scaleUp < k * step) && decide (k * step < b.high * scaleUp)) = true ↔
      b.Contains unit (Decimal.value ⟨k, e⟩) := by
  rw [Neighbourhood.Contains, Decimal.value]
  dsimp only
  split <;>
    simp only [Bool.and_eq_true, decide_eq_true_iff, ← not_le, mul_scaleUp_le_iff hstep hscale,
      mul_step_le_iff hstep hscale]

/-- On a fine grid, the point below the value is inside. -/
theorem contains_below {scaleUp step : ℕ} {unit : ℚ} {e : ℤ} (hlow : b.low < b.value)
    (hhigh : b.value < b.high) (hstep : 0 < step)
    (hscale : (scaleUp : ℚ) * 10 ^ e = unit * step) (hfine : (10 : ℚ) ^ e < unit) :
    b.Contains unit (Decimal.value ⟨b.value * scaleUp / step, e⟩) := by
  have hpow : (0 : ℚ) < 10 ^ e := by positivity
  have hbelow : (b.value * scaleUp / step : ℕ) * (10 : ℚ) ^ e ≤ b.value * unit :=
    (mul_step_le_iff hstep hscale).mp (Nat.div_mul_le_self _ _)
  have habove : b.value * unit < ((b.value * scaleUp / step + 1 : ℕ) : ℚ) * 10 ^ e :=
    not_le.mp fun hle => absurd ((mul_step_le_iff hstep hscale).mpr hle)
      (not_le.mpr (Nat.lt_mul_of_div_lt (Nat.lt_succ_self _) hstep))
  have hlow' : (b.low : ℚ) + 1 ≤ b.value := by exact_mod_cast hlow
  have hhigh' : (b.value : ℚ) < b.high := by exact_mod_cast hhigh
  have hunit : 0 < unit := hpow.trans hfine
  push_cast at habove
  have hstrict : b.low * unit < (b.value * scaleUp / step : ℕ) * (10 : ℚ) ^ e := by
    have hmul := mul_le_mul_of_nonneg_right hlow' hunit.le
    linarith
  have hstrict' : (b.value * scaleUp / step : ℕ) * (10 : ℚ) ^ e < b.high * unit :=
    hbelow.trans_lt (mul_lt_mul_of_pos_right hhigh' hunit)
  rw [Neighbourhood.Contains, Decimal.value]
  split
  · exact ⟨hstrict.le, hstrict'.le⟩
  · exact ⟨hstrict, hstrict'⟩

/-- The search finds a point of the neighbourhood. -/
theorem contains_shortestFrom (hlow : b.low < b.value) (hhigh : b.value < b.high) (hden : 0 < den)
    (hfine : (10 : ℚ) ^ (lead - 17) < num / den) {fuel count : ℕ} (hcount : count ≤ 17)
    (hfuel : 18 ≤ fuel + count) :
    b.Contains (num / den) (shortestFrom tie b num den lead fuel count).value := by
  induction fuel generalizing count with
  | zero => omega
  | succ fuel ih =>
    obtain ⟨scaleUp, step, hgrid, hstep, hscale⟩ := exists_grid num hden (lead - count)
    rw [shortestFrom]
    dsimp only
    rw [hgrid]
    dsimp only
    have hinside : ∀ k, _ ↔ b.Contains (num / den) (Decimal.value ⟨k, lead - count⟩) :=
      fun k => inside_iff hstep hscale
    split
    next hbelow habove =>
      split
      · exact (hinside _).mp hbelow
      · exact (hinside _).mp habove
    next hbelow _ => exact (hinside _).mp hbelow
    next _ habove => exact (hinside _).mp habove
    next hbelow _ =>
      by_cases hlast : count = 17
      · subst hlast
        have hfound := contains_below hlow hhigh hstep hscale hfine
        rw [(hinside _).mpr hfound] at hbelow
        cases hbelow
      · exact ih (by omega) (by omega)

end

/-! ## Doubles -/

variable {d : Double}

theorem low_lt_value (hd : d.magnitude ≠ 0) : d.neighbourhood.low < d.neighbourhood.value := by
  have hpos := significand_pos hd
  rw [neighbourhood]
  dsimp only
  split <;> omega

theorem value_lt_high : d.neighbourhood.value < d.neighbourhood.high := by
  rw [neighbourhood]
  dsimp only
  omega

/-- A quarter of the last place as a ratio. -/
theorem exists_quarter (d : Double) :
    ∃ num den : ℕ,
      (if 1076 ≤ d.scale then (twoTo (d.scale - 1076), 1) else (1, twoTo (1076 - d.scale))) =
        (num, den) ∧ 0 < num ∧ 0 < den ∧ (num : ℚ) / den = d.quarter := by
  have hpos : ∀ n, (twoTo n : ℚ) ≠ 0 := fun n => by exact_mod_cast (twoTo_pos n).ne'
  unfold quarter
  generalize 1076 = places
  by_cases h : places ≤ d.scale
  · refine ⟨_, _, if_pos h, twoTo_pos _, Nat.one_pos, ?_⟩
    obtain ⟨n, hn⟩ := Nat.exists_eq_add_of_le h
    rw [hn, Nat.add_sub_cancel_left, twoTo_add, Nat.cast_mul, mul_div_cancel_left₀ _ (hpos places),
      Nat.cast_one, div_one]
  · refine ⟨_, _, if_neg h, Nat.one_pos, twoTo_pos _, ?_⟩
    obtain ⟨n, hn⟩ := Nat.exists_eq_add_of_le (Nat.le_of_not_le h)
    rw [hn, Nat.add_sub_cancel_left, twoTo_add, Nat.cast_mul, Nat.cast_one,
      div_mul_cancel_left₀ (hpos d.scale), one_div]

/-- A double has less than eighteen digits in quarters of its last place. -/
theorem value_lt_tenTo : d.neighbourhood.value < tenTo 17 := by
  have hlt := d.significand_lt
  have hfour : twoTo 55 = 4 * twoTo 53 := twoTo_add_two 53
  have hpowers : twoTo 55 < tenTo 17 := by decide
  rw [neighbourhood]
  dsimp only
  omega

/-- **The shortest digits are in the neighbourhood of the double.** -/
theorem isNear_shortest (tie : Tie) (hd : d.magnitude ≠ 0) : d.IsNear (d.shortest tie).value := by
  obtain ⟨num, den, hquarter, hnum, hden, hvalue⟩ := d.exists_quarter
  rw [shortest]
  dsimp only
  rw [hquarter]
  dsimp only
  rw [value_stripZeros, IsNear, ← hvalue]
  refine contains_shortestFrom (low_lt_value hd) value_lt_high hden ?_ (by omega) (by omega)
  have hpos : 0 < d.neighbourhood.value := (Nat.zero_le _).trans_lt (low_lt_value hd)
  have hdigits : (d.neighbourhood.value : ℚ) < 10 ^ 17 := by
    rw [← cast_tenTo]
    exact_mod_cast value_lt_tenTo
  have hunit : (0 : ℚ) < num / den := by
    rw [hvalue]
    exact d.quarter_pos
  rw [zpow_sub₀ (by norm_num), div_lt_iff₀ (by norm_num)]
  calc (10 : ℚ) ^ leadingPower (d.neighbourhood.value * num) den
      ≤ (d.neighbourhood.value * num : ℕ) / den := zpow_leadingPower_le (Nat.mul_pos hpos hnum) hden
    _ = d.neighbourhood.value * (num / den) := by rw [Nat.cast_mul, mul_div_assoc]
    _ < 10 ^ 17 * (num / den) := mul_lt_mul_of_pos_right hdigits hunit
    _ = num / den * 10 ^ (17 : ℤ) := by rw [mul_comm]; rfl

end Double

end WebForm
