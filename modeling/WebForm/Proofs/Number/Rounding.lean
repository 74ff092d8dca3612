import Mathlib.Algebra.Order.Field.Basic
import Mathlib.Data.Rat.Cast.Order
import Mathlib.Tactic.FieldSimp
import Mathlib.Tactic.Linarith
import Mathlib.Tactic.Ring
import WebForm.Number.Shortest
/-!
# Numbers that round to a double

The neighbourhood of a double is where the shortest digits are looked for, and the rounding of a
ratio is what reads them back. The two belong together: a ratio in the neighbourhood of a double
rounds to the double. A tie goes to the even significand, which is why the ends belong to the
neighbourhood of an even one, and below a power of two the neighbourhood is narrower, because the
doubles there lie twice as close.
-/

set_option autoImplicit false

namespace WebForm

/-! ## Powers of two -/

theorem twoTo_add (a b : ℕ) : twoTo (a + b) = twoTo a * twoTo b := Nat.pow_add 2 a b

theorem twoTo_succ (n : ℕ) : twoTo (n + 1) = 2 * twoTo n := Nat.pow_succ'

theorem twoTo_add_two (n : ℕ) : twoTo (n + 2) = 4 * twoTo n := by
  rw [twoTo_succ, twoTo_succ]
  omega

theorem twoTo_le_twoTo {a b : ℕ} (h : a ≤ b) : twoTo a ≤ twoTo b :=
  Nat.pow_le_pow_right (by decide) h

theorem mul_twoTo_add (n a b : ℕ) : n * twoTo (a + b) = twoTo b * (n * twoTo a) := by
  rw [twoTo_add, Nat.mul_comm (twoTo b), Nat.mul_assoc]

namespace Double

/-! ## Significand and scale -/

variable (d : Double)

/-- A carry out of the significand moves to the scale by itself. -/
theorem magnitude_eq : d.magnitude = d.scale * twoTo 52 + d.significand := by
  have hdiv := Nat.div_add_mod' d.magnitude (twoTo 52)
  rw [scale, significand]
  split
  next hsmall => simp [Nat.div_eq_of_lt hsmall]
  next hlarge =>
    have hpos : 1 ≤ d.magnitude / twoTo 52 :=
      (Nat.one_le_div_iff (twoTo_pos 52)).mpr (Nat.le_of_not_lt hlarge)
    obtain ⟨q, hq⟩ := Nat.exists_eq_add_of_le' hpos
    rw [hq, Nat.add_mul] at hdiv
    rw [hq, Nat.add_sub_cancel]
    omega

theorem significand_lt : d.significand < twoTo 53 := by
  have hmod : d.magnitude % twoTo 52 < twoTo 52 := Nat.mod_lt _ (twoTo_pos 52)
  have hdouble : twoTo 53 = 2 * twoTo 52 := twoTo_succ 52
  rw [significand, hdouble]
  split <;> omega

variable {d}

/-- Only the smallest scale has significands that are not full. -/
theorem le_significand (h : d.scale ≠ 0) : twoTo 52 ≤ d.significand := by
  rw [significand]
  split
  next hsmall =>
    rw [scale, Nat.div_eq_of_lt hsmall] at h
    exact absurd rfl h
  next => exact Nat.le_add_right _ _

theorem significand_pos (h : d.magnitude ≠ 0) : 0 < d.significand := by
  by_cases hscale : d.scale = 0
  · have hmagnitude := d.magnitude_eq
    rw [hscale, Nat.zero_mul, Nat.zero_add] at hmagnitude
    omega
  · exact (twoTo_pos 52).trans_le (le_significand hscale)

/-! ## Rounding to a significand -/

/-- The integer nearest to a ratio, if the ratio is at most a half away, and less for an odd
integer. -/
theorem roundHalfEven_eq {n den m : ℕ} (hden : 0 < den) (hlow : 2 * (m * den) ≤ 2 * n + den)
    (hhigh : 2 * n ≤ 2 * (m * den) + den)
    (htie : m % 2 = 0 ∨ 2 * (m * den) < 2 * n + den ∧ 2 * n < 2 * (m * den) + den) :
    roundHalfEven n den = m := by
  have hdiv := Nat.div_add_mod' n den
  have hmod := Nat.mod_lt n hden
  have hfloor : n / den = m ∨ n / den + 1 = m := by
    have hbelow : m ≤ n / den + 1 := by
      by_contra! hfar
      have hmul : (n / den + 2) * den ≤ m * den := Nat.mul_le_mul_right den hfar
      rw [Nat.add_mul] at hmul
      omega
    have habove : n / den ≤ m := by
      by_contra! hfar
      have hmul : (m + 1) * den ≤ n / den * den := Nat.mul_le_mul_right den hfar
      rw [Nat.add_mul] at hmul
      omega
    omega
  rw [roundHalfEven]
  obtain hm | hm := hfloor
  · rw [hm] at hdiv ⊢
    split
    · rfl
    · split <;> omega
  · rw [← hm, Nat.add_mul] at hlow hhigh htie
    split
    · omega
    · split <;> omega

/-- The scale at which a ratio has a significand of 53 bits, or the smallest one. -/
theorem log2_div_sub_eq {n den s : ℕ} (hden : 0 < den) (hhigh : n < den * twoTo (s + 53))
    (hlow : s = 0 ∨ den * twoTo (s + 52) ≤ n) : Nat.log2 (n / den) - 52 = s := by
  have hlt : n / den < twoTo (s + 53) := (Nat.div_lt_iff_lt_mul hden).mpr (by rwa [Nat.mul_comm])
  by_cases hzero : n / den = 0
  · obtain rfl | hlow := hlow
    · rw [hzero, Nat.log2_zero]
    · have hle : twoTo (s + 52) ≤ n / den :=
        (Nat.le_div_iff_mul_le hden).mpr (by rwa [Nat.mul_comm])
      have := twoTo_pos (s + 52)
      omega
  · have hlog : Nat.log2 (n / den) < s + 53 := (Nat.log2_lt hzero).mpr hlt
    obtain rfl | hlow := hlow
    · omega
    · have hle : twoTo (s + 52) ≤ n / den :=
        (Nat.le_div_iff_mul_le hden).mpr (by rwa [Nat.mul_comm])
      have := (Nat.le_log2 hzero).mpr hle
      omega

/-- A ratio that rounds to an integer at its scale has the magnitude of the two. -/
theorem magnitudeOfRatio_eq {num den s m : ℕ} (hden : 0 < den)
    (hhigh : num * twoTo 1074 < den * twoTo (s + 53))
    (hlow : s = 0 ∨ den * twoTo (s + 52) ≤ num * twoTo 1074)
    (hround : roundHalfEven (num * twoTo 1074) (den * twoTo s) = m) :
    magnitudeOfRatio num den = s * twoTo 52 + m := by
  rw [magnitudeOfRatio, log2_div_sub_eq hden hhigh hlow, hround]

/-! ## Neighbourhoods -/

/-- A number in a neighbourhood whose quarters are of some size. -/
def Neighbourhood.Contains (b : Neighbourhood) (quarter x : ℚ) : Prop :=
  if b.closed then b.low * quarter ≤ x ∧ x ≤ b.high * quarter
  else b.low * quarter < x ∧ x < b.high * quarter

theorem Neighbourhood.Contains.bounds {b : Neighbourhood} {quarter x : ℚ}
    (h : b.Contains quarter x) : b.low * quarter ≤ x ∧ x ≤ b.high * quarter := by
  rw [Contains] at h
  split at h
  · exact h
  · exact ⟨h.1.le, h.2.le⟩

/-- A quarter of the last place of a double. -/
def quarter (d : Double) : ℚ := twoTo d.scale / twoTo 1076

/-- A number in the neighbourhood of a double, whose sign is left out. -/
def IsNear (d : Double) (x : ℚ) : Prop := d.neighbourhood.Contains d.quarter x

variable (d) in
theorem quarter_pos : 0 < d.quarter := by
  have hscale : (0 : ℚ) < twoTo d.scale := by exact_mod_cast twoTo_pos _
  have hunit : (0 : ℚ) < twoTo 1076 := by exact_mod_cast twoTo_pos _
  exact div_pos hscale hunit

theorem low_pos (hd : d.magnitude ≠ 0) : 0 < d.neighbourhood.low := by
  have hpos := significand_pos hd
  rw [neighbourhood]
  dsimp only
  split <;> omega

/-- What rounds to a double other than zero is not zero. -/
theorem IsNear.pos {x : ℚ} (hd : d.magnitude ≠ 0) (h : d.IsNear x) : 0 < x := by
  have hlow : (0 : ℚ) < d.neighbourhood.low := by exact_mod_cast low_pos hd
  exact (mul_pos hlow d.quarter_pos).trans_le h.bounds.1

/-- Multiples of a quarter against a ratio, cleared of denominators. -/
theorem mul_quarter_le_iff {k num den : ℕ} (hden : 0 < den) :
    k * d.quarter ≤ (num : ℚ) / den ↔ k * (den * twoTo d.scale) ≤ 4 * (num * twoTo 1074) := by
  have hfour : twoTo 1076 = 4 * twoTo 1074 := twoTo_add_two 1074
  have hunit : (0 : ℚ) < twoTo 1076 := by exact_mod_cast twoTo_pos _
  have hden' : (0 : ℚ) < den := by exact_mod_cast hden
  unfold quarter
  -- the two powers stay as they are
  generalize twoTo 1074 = small, twoTo 1076 = large at *
  rw [← mul_div_assoc, div_le_div_iff₀ hunit hden', hfour]
  norm_cast
  rw [Nat.mul_assoc k, Nat.mul_comm _ den, Nat.mul_left_comm num]

theorem le_mul_quarter_iff {k num den : ℕ} (hden : 0 < den) :
    (num : ℚ) / den ≤ k * d.quarter ↔ 4 * (num * twoTo 1074) ≤ k * (den * twoTo d.scale) := by
  have hfour : twoTo 1076 = 4 * twoTo 1074 := twoTo_add_two 1074
  have hunit : (0 : ℚ) < twoTo 1076 := by exact_mod_cast twoTo_pos _
  have hden' : (0 : ℚ) < den := by exact_mod_cast hden
  unfold quarter
  -- the two powers stay as they are
  generalize twoTo 1074 = small, twoTo 1076 = large at *
  rw [← mul_div_assoc, div_le_div_iff₀ hden' hunit, hfour]
  norm_cast
  rw [Nat.mul_assoc k, Nat.mul_comm _ den, Nat.mul_left_comm num]

/-- A ratio in a neighbourhood, cleared of denominators. -/
theorem isNear_iff {num den : ℕ} (hden : 0 < den) :
    d.IsNear (num / den) ↔
      if d.significand % 2 = 0 then
        d.neighbourhood.low * (den * twoTo d.scale) ≤ 4 * (num * twoTo 1074) ∧
          4 * (num * twoTo 1074) ≤ (4 * d.significand + 2) * (den * twoTo d.scale)
      else
        d.neighbourhood.low * (den * twoTo d.scale) < 4 * (num * twoTo 1074) ∧
          4 * (num * twoTo 1074) < (4 * d.significand + 2) * (den * twoTo d.scale) := by
  have hclosed : d.neighbourhood.closed = true ↔ d.significand % 2 = 0 := beq_iff_eq
  have hhigh : d.neighbourhood.high = 4 * d.significand + 2 := rfl
  rw [IsNear, Neighbourhood.Contains, hhigh]
  simp only [hclosed, ← not_le, mul_quarter_le_iff hden, le_mul_quarter_iff hden]

/-- Below a power of two the next double is half as far. -/
theorem low_of_edge (h : d.significand = twoTo 52 ∧ d.scale ≠ 0) :
    d.neighbourhood.low + 1 = 4 * d.significand := by
  have hpos := twoTo_pos 52
  have hnear : (decide (d.significand = twoTo 52) && d.scale != 0) = true := by simpa using h
  rw [neighbourhood]
  dsimp only
  rw [hnear, if_pos rfl]
  omega

theorem low_of_not_edge (hd : d.magnitude ≠ 0) (h : ¬(d.significand = twoTo 52 ∧ d.scale ≠ 0)) :
    d.neighbourhood.low + 2 = 4 * d.significand := by
  have hpos := significand_pos hd
  have hnear : (decide (d.significand = twoTo 52) && d.scale != 0) = false := by simpa using h
  rw [neighbourhood]
  dsimp only
  rw [hnear, if_neg Bool.false_ne_true]
  omega

/-- A ratio at most half a place from a significand, at the scale of the double. -/
theorem magnitudeOfRatio_eq_of_half {num den : ℕ} (hden : 0 < den)
    (hlow : 2 * (d.significand * (den * twoTo d.scale)) ≤
      2 * (num * twoTo 1074) + den * twoTo d.scale)
    (hhigh : 2 * (num * twoTo 1074) ≤
      2 * (d.significand * (den * twoTo d.scale)) + den * twoTo d.scale)
    (htie : d.significand % 2 = 0 ∨
      2 * (d.significand * (den * twoTo d.scale)) < 2 * (num * twoTo 1074) + den * twoTo d.scale ∧
        2 * (num * twoTo 1074) < 2 * (d.significand * (den * twoTo d.scale)) + den * twoTo d.scale)
    (hscale : d.scale = 0 ∨ twoTo 52 * (den * twoTo d.scale) ≤ num * twoTo 1074) :
    magnitudeOfRatio num den = d.magnitude := by
  have hunit : 0 < den * twoTo d.scale := Nat.mul_pos hden (twoTo_pos _)
  have hfull : (d.significand + 1) * (den * twoTo d.scale) ≤ twoTo 53 * (den * twoTo d.scale) :=
    Nat.mul_le_mul_right _ d.significand_lt
  rw [magnitude_eq]
  refine magnitudeOfRatio_eq hden ?_ ?_ (roundHalfEven_eq hunit hlow hhigh htie)
  · rw [mul_twoTo_add]
    rw [Nat.add_mul] at hfull
    omega
  · rwa [mul_twoTo_add]

/-- Between two powers of two, a ratio in the neighbourhood is at the scale of the double. -/
theorem magnitudeOfRatio_eq_of_not_edge {num den : ℕ} (hden : 0 < den) (hd : d.magnitude ≠ 0)
    (hedge : ¬(d.significand = twoTo 52 ∧ d.scale ≠ 0)) (h : d.IsNear (num / den)) :
    magnitudeOfRatio num den = d.magnitude := by
  have hlow := low_of_not_edge hd hedge
  rw [isNear_iff hden] at h
  have hscaled : (d.neighbourhood.low + 2) * (den * twoTo d.scale) =
      4 * (d.significand * (den * twoTo d.scale)) := by
    rw [hlow, Nat.mul_assoc]
  rw [Nat.add_mul] at hscaled
  rw [Nat.add_mul, Nat.mul_assoc 4] at h
  have hscale : d.scale = 0 ∨
      twoTo 52 * (den * twoTo d.scale) + den * twoTo d.scale ≤
        d.significand * (den * twoTo d.scale) := by
    by_cases hzero : d.scale = 0
    · exact .inl hzero
    · right
      have hfull : twoTo 52 + 1 ≤ d.significand :=
        Nat.lt_of_le_of_ne (le_significand hzero) fun heq => hedge ⟨heq.symm, hzero⟩
      have hmul := Nat.mul_le_mul_right (den * twoTo d.scale) hfull
      rwa [Nat.add_mul, Nat.one_mul] at hmul
  split at h
  next heven => exact magnitudeOfRatio_eq_of_half hden (by omega) (by omega) (.inl heven) (by omega)
  next => exact magnitudeOfRatio_eq_of_half hden (by omega) (by omega) (.inr (by omega)) (by omega)

/-- At a power of two, a ratio below it is at the scale beneath. -/
theorem magnitudeOfRatio_eq_of_edge {num den : ℕ} (hden : 0 < den)
    (hedge : d.significand = twoTo 52 ∧ d.scale ≠ 0) (h : d.IsNear (num / den)) :
    magnitudeOfRatio num den = d.magnitude := by
  have hlow := low_of_edge hedge
  obtain ⟨hsignificand, hscale⟩ := hedge
  have heven : d.significand % 2 = 0 := by
    rw [hsignificand]
    decide
  have hscaled : (d.neighbourhood.low + 1) * (den * twoTo d.scale) =
      4 * (d.significand * (den * twoTo d.scale)) := by
    rw [hlow, Nat.mul_assoc]
  rw [Nat.add_mul, Nat.one_mul] at hscaled
  rw [isNear_iff hden, if_pos heven, Nat.add_mul, Nat.mul_assoc 4] at h
  by_cases habove : d.significand * (den * twoTo d.scale) ≤ num * twoTo 1074
  · refine magnitudeOfRatio_eq_of_half hden (by omega) (by omega) (.inl heven) (.inr ?_)
    rwa [← hsignificand]
  · obtain ⟨s, hs⟩ := Nat.exists_eq_succ_of_ne_zero hscale
    have hunit : ∀ k, k * (den * twoTo d.scale) = 2 * (k * (den * twoTo s)) := by
      intro k
      rw [hs, twoTo_succ, Nat.mul_left_comm den, Nat.mul_left_comm k]
    have hdouble : twoTo 53 = 2 * twoTo 52 := twoTo_succ 52
    have hpos : 0 < den * twoTo s := Nat.mul_pos hden (twoTo_pos s)
    have hone := hunit 1
    rw [Nat.one_mul, Nat.one_mul] at hone
    simp only [hunit, hsignificand] at hscaled habove h
    have hround : roundHalfEven (num * twoTo 1074) (den * twoTo s) = twoTo 53 := by
      refine roundHalfEven_eq hpos ?_ ?_ (.inl (by decide))
      · rw [hdouble, Nat.mul_assoc]
        omega
      · rw [hdouble, Nat.mul_assoc]
        omega
    rw [magnitude_eq, hsignificand, hs, Nat.succ_mul, Nat.add_assoc, ← Nat.two_mul, ← hdouble]
    refine magnitudeOfRatio_eq hden ?_ (.inr ?_) hround
    · rw [mul_twoTo_add, hdouble, Nat.mul_assoc]
      omega
    · have hfull := Nat.le_mul_of_pos_left (den * twoTo s) (twoTo_pos 52)
      rw [mul_twoTo_add]
      omega

/-- A ratio in the neighbourhood of a double has its magnitude. -/
theorem magnitudeOfRatio_eq_of_isNear {num den : ℕ} (hden : 0 < den) (hd : d.magnitude ≠ 0)
    (h : d.IsNear (num / den)) : magnitudeOfRatio num den = d.magnitude := by
  by_cases hedge : d.significand = twoTo 52 ∧ d.scale ≠ 0
  · exact magnitudeOfRatio_eq_of_edge hden hedge h
  · exact magnitudeOfRatio_eq_of_not_edge hden hd hedge h

/-- **A ratio in the neighbourhood of a double rounds to it.** -/
theorem ofRatio_eq_some_of_isNear {num den : ℕ} (hden : 0 < den) (hd : d.magnitude ≠ 0)
    (h : d.IsNear (num / den)) : ofRatio d.negative num den = some d := by
  have hmagnitude := magnitudeOfRatio_eq_of_isNear hden hd h
  rw [ofRatio, hmagnitude]
  exact dif_pos d.finite

end Double

end WebForm
