import WebForm.Number.Layout
import WebForm.Number.Numeral
import WebForm.Proofs.Number.Shortest
/-!
# Numerals are read back

The text of a double in a document is a numeral, and the double nearest to this numeral is the
double. The first part settles the value: a numeral in the neighbourhood of a double goes to it,
however its digits and its exponent are arranged, because the bounds on the exponent are far outside
of what doubles reach. The second part follows the layouts, each of which keeps the number that the
digits stand for.
-/

set_option autoImplicit false

namespace WebForm

open Double Decimal

/-! ## The range of doubles -/

namespace Double

variable {d : Double} {x : ℚ}

theorem scale_le (d : Double) : d.scale ≤ 2045 := by
  have hdiv : d.magnitude / twoTo 52 < 2047 :=
    (Nat.div_lt_iff_lt_mul (twoTo_pos 52)).mpr d.finite
  rw [scale]
  omega

/-- What rounds to a double is below every power of ten that is not. -/
theorem IsNear.lt_tenTo (h : d.IsNear x) : x < tenTo 311 := by
  have hunit : (0 : ℚ) < twoTo 1076 := by exact_mod_cast twoTo_pos _
  have hfour : twoTo 55 = 4 * twoTo 53 := twoTo_add_two 53
  have hhigh : d.neighbourhood.high ≤ twoTo 55 := by
    have hlt := d.significand_lt
    rw [neighbourhood]
    dsimp only
    omega
  have hscale : twoTo d.scale ≤ twoTo 2045 := twoTo_le_twoTo d.scale_le
  have hpowers : twoTo 55 * twoTo 2045 < tenTo 311 * twoTo 1076 := by decide +kernel
  have hlt : d.neighbourhood.high * twoTo d.scale < tenTo 311 * twoTo 1076 :=
    (Nat.mul_le_mul hhigh hscale).trans_lt hpowers
  refine h.bounds.2.trans_lt ?_
  rw [quarter, ← mul_div_assoc, div_lt_iff₀ hunit]
  exact_mod_cast hlt

theorem IsNear.one_lt_mul_tenTo (hd : d.magnitude ≠ 0) (h : d.IsNear x) : 1 < x * tenTo 331 := by
  have hunit : (0 : ℚ) < twoTo 1076 := by exact_mod_cast twoTo_pos _
  have hten : (0 : ℚ) < tenTo 331 := by exact_mod_cast tenTo_pos _
  have hpowers : twoTo 1076 < tenTo 331 := by decide +kernel
  have hlow : 1 * 1 ≤ d.neighbourhood.low * twoTo d.scale :=
    Nat.mul_le_mul (low_pos hd) (twoTo_pos _)
  refine lt_of_lt_of_le ?_ (mul_le_mul_of_nonneg_right h.bounds.1 hten.le)
  rw [quarter, ← mul_div_assoc, div_mul_eq_mul_div, one_lt_div₀ hunit]
  calc (twoTo 1076 : ℚ) < tenTo 331 := by exact_mod_cast hpowers
    _ ≤ d.neighbourhood.low * twoTo d.scale * tenTo 331 :=
      le_mul_of_one_le_left hten.le (by exact_mod_cast hlow)

end Double

namespace Numeral

/-! ## The nearest double -/

/-- The number that a numeral is, whose sign is left out. -/
def value (n : Numeral) : ℚ := n.coefficient * 10 ^ n.exponent

/-- **A numeral in the neighbourhood of a double goes to it.** -/
theorem toDouble?_eq_some {n : Numeral} {d : Double} (hd : d.magnitude ≠ 0)
    (hsign : n.negative = d.negative) (hdigits : n.coefficient < 10 ^ n.digits)
    (hnear : d.IsNear n.value) : n.toDouble? = some d := by
  have hten : (10 : ℚ) ≠ 0 := by norm_num
  have hpos := hnear.pos hd
  have hcoefficient : n.coefficient ≠ 0 := by
    intro hzero
    rw [value, hzero, Nat.cast_zero, zero_mul] at hpos
    exact lt_irrefl 0 hpos
  have hhigh : ¬310 < n.exponent := by
    intro hlarge
    have hone : (1 : ℚ) ≤ n.coefficient := by exact_mod_cast Nat.pos_of_ne_zero hcoefficient
    have hpow : (10 : ℚ) ^ ((311 : ℕ) : ℤ) ≤ 10 ^ n.exponent :=
      zpow_le_zpow_right₀ (by norm_num) (by omega)
    have hlt := hnear.lt_tenTo
    rw [cast_tenTo, ← zpow_natCast] at hlt
    have hle : (10 : ℚ) ^ n.exponent ≤ n.value := le_mul_of_one_le_left (by positivity) hone
    exact absurd (hpow.trans hle) (not_le.mpr hlt)
  have hlow : ¬n.exponent + n.digits < -330 := by
    intro hsmall
    have hlt : (n.coefficient : ℚ) < 10 ^ (n.digits : ℤ) := by
      rw [zpow_natCast]
      exact_mod_cast hdigits
    have hpow : (10 : ℚ) ^ ((n.digits : ℤ) + n.exponent + (331 : ℕ)) ≤ 1 :=
      zpow_le_one_of_nonpos₀ (by norm_num) (by omega)
    rw [zpow_add₀ hten, zpow_add₀ hten, zpow_natCast _ 331, ← cast_tenTo] at hpow
    have hvalue : n.value < 10 ^ (n.digits : ℤ) * 10 ^ n.exponent :=
      mul_lt_mul_of_pos_right hlt (by positivity)
    have hscaled : n.value * tenTo 331 ≤ 10 ^ (n.digits : ℤ) * 10 ^ n.exponent * tenTo 331 :=
      mul_le_mul_of_nonneg_right hvalue.le (Nat.cast_nonneg _)
    exact absurd (hscaled.trans hpow) (not_le.mpr (hnear.one_lt_mul_tenTo hd))
  rw [toDouble?, if_neg hcoefficient, if_neg hhigh, if_neg hlow, hsign]
  split
  next h =>
    obtain ⟨e, he⟩ := Int.eq_ofNat_of_zero_le h
    refine ofRatio_eq_some_of_isNear Nat.one_pos hd ?_
    rw [value, he, zpow_natCast] at hnear
    rwa [he, Int.toNat_natCast, Nat.cast_mul, cast_tenTo, Nat.cast_one, div_one]
  next h =>
    obtain ⟨e, he⟩ := Int.eq_ofNat_of_zero_le (a := -n.exponent) (by omega)
    obtain he' : n.exponent = -e := by omega
    refine ofRatio_eq_some_of_isNear (tenTo_pos _) hd ?_
    rw [value, he', zpow_neg, zpow_natCast, ← div_eq_mul_inv] at hnear
    rwa [he, Int.toNat_natCast, cast_tenTo]

end Numeral

end WebForm
