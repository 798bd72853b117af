import Mathlib.Tactic

/-!
# Rounding a quotient of integers

`Int.roundDiv a b` is the integer nearest to `a / b`, halves going up. It is what rounding to the
nearest integer does to a quotient that is computed exactly.

## Main results

* `Int.roundDiv_mul_cancel`: rounding an exact quotient gives the quotient
* `Int.roundDiv_nonneg`, `Int.roundDiv_mul_le_left`, `Int.roundDiv_mul_le_right`: a share of a
  part stays between zero, the part and the whole
-/

namespace Int

/-- The integer nearest to `a / b`, halves going up; `b` is meant to be positive. -/
def roundDiv (a b : ℤ) : ℤ := (2 * a + b) / (2 * b)

variable {a b c n : ℤ}

/-- Below every bound that the exact quotient respects. -/
theorem roundDiv_le (hb : 0 < b) (h : a ≤ n * b) : a.roundDiv b ≤ n := by
  have hlt : 2 * a + b < (n + 1) * (2 * b) := by
    have : (n + 1) * (2 * b) = 2 * (n * b) + 2 * b := by ring
    omega
  have := Int.ediv_lt_of_lt_mul (by omega) hlt
  unfold roundDiv
  omega

/-- Above every bound that the exact quotient respects. -/
theorem le_roundDiv (hb : 0 < b) (h : n * b ≤ a) : n ≤ a.roundDiv b := by
  refine Int.le_ediv_of_mul_le (by omega) ?_
  have : n * (2 * b) = 2 * (n * b) := by ring
  omega

theorem roundDiv_nonneg (hb : 0 < b) (ha : 0 ≤ a) : 0 ≤ a.roundDiv b :=
  le_roundDiv hb (by simpa using ha)

/-- Rounding an exact quotient gives the quotient. -/
@[simp] theorem roundDiv_mul_cancel (hb : 0 < b) : (n * b).roundDiv b = n :=
  le_antisymm (roundDiv_le hb le_rfl) (le_roundDiv hb le_rfl)

@[simp] theorem zero_roundDiv (hb : 0 < b) : (0 : ℤ).roundDiv b = 0 := by
  simpa using roundDiv_mul_cancel (n := 0) hb

/-- The share of `c` out of `b` in the part `a` is at most the part. -/
theorem roundDiv_mul_le_left (hb : 0 < b) (ha : 0 ≤ a) (hc : c ≤ b) : (a * c).roundDiv b ≤ a :=
  roundDiv_le hb (mul_le_mul_of_nonneg_left hc ha)

/-- The share of `c` out of `b` in a part `a` of `b` is at most `c`. -/
theorem roundDiv_mul_le_right (hb : 0 < b) (hc : 0 ≤ c) (ha : a ≤ b) : (a * c).roundDiv b ≤ c :=
  roundDiv_le hb (by simpa only [mul_comm c b] using mul_le_mul_of_nonneg_right ha hc)

end Int
