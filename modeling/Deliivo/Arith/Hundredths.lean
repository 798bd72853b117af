import Deliivo.Arith.Rounding
import Mathlib.Data.Rat.Floor

/-!
# Rounding rational numbers to hundredths

`Rat.roundHalfUp` is the nearest integer, halves going up; amounts with two decimals are counted in
hundredths with it.

## Main definitions

* `Rat.roundHalfUp`
* `Rat.hundredths`: an amount in hundredths
* `Rat.toHundredth`: the nearest amount with two decimals
* `Rat.IsHundredths`: an amount has at most two decimals

## Main results

* `Rat.roundHalfUp_le_iff`, `Rat.le_roundHalfUp_iff`: when the nearest integer is below or above another
* `Rat.roundHalfUp_div`: rounding a quotient of integers
* `Rat.toHundredth_mono`, `Rat.toHundredth_of_isHundredths`
* `Rat.toHundredth_between`: rounding stays between amounts that have two decimals
-/

namespace Rat

/-! ## The nearest integer -/

/-- The nearest integer, halves going up. -/
def roundHalfUp (x : ℚ) : ℤ := ⌊x + 1 / 2⌋

variable {x y : ℚ} {n : ℤ}

theorem le_roundHalfUp_iff : n ≤ x.roundHalfUp ↔ (n : ℚ) ≤ x + 1 / 2 := Int.le_floor

theorem roundHalfUp_le_iff : x.roundHalfUp ≤ n ↔ x < n + 1 / 2 := by
  rw [roundHalfUp, ← Int.lt_add_one_iff, Int.floor_lt, Int.cast_add, Int.cast_one]
  constructor
  · intro h
    linarith
  · intro h
    linarith

theorem roundHalfUp_mono (h : x ≤ y) : x.roundHalfUp ≤ y.roundHalfUp :=
  Int.floor_mono (add_le_add_left h _)

@[simp] theorem roundHalfUp_intCast (n : ℤ) : roundHalfUp (n : ℚ) = n := by
  refine le_antisymm (roundHalfUp_le_iff.mpr ?_) (le_roundHalfUp_iff.mpr ?_)
  · linarith
  · linarith

@[simp] theorem roundHalfUp_zero : roundHalfUp 0 = 0 := by
  have := roundHalfUp_intCast 0
  rwa [Int.cast_zero] at this

theorem roundHalfUp_nonneg (h : 0 ≤ x) : 0 ≤ x.roundHalfUp := by
  have := roundHalfUp_mono h
  rwa [roundHalfUp_zero] at this

/-- Rounding a quotient of integers. -/
theorem roundHalfUp_div {a b : ℤ} (hb : 0 < b) : roundHalfUp ((a : ℚ) / b) = a.roundDiv b := by
  obtain ⟨d, rfl⟩ := Int.eq_ofNat_of_zero_le hb.le
  have hd : (d : ℚ) ≠ 0 := Nat.cast_ne_zero.mpr (Int.natCast_pos.mp hb).ne'
  have hsum : (a : ℚ) / (d : ℤ) + 1 / 2 = ((2 * a + d : ℤ) : ℚ) / ((2 * d : ℕ) : ℚ) := by
    push_cast
    field_simp
  rw [roundHalfUp, hsum, Int.roundDiv, Rat.floor_intCast_div_natCast]
  push_cast
  rfl

/-! ## Hundredths -/

/-- An amount in hundredths, rounded. -/
def hundredths (x : ℚ) : ℤ := roundHalfUp (x * 100)

/-- The nearest amount with two decimals. -/
def toHundredth (x : ℚ) : ℚ := x.hundredths / 100

/-- An amount with at most two decimals. -/
def IsHundredths (x : ℚ) : Prop := ∃ n : ℤ, x = n / 100

@[simp] theorem hundredths_div (n : ℤ) : hundredths ((n : ℚ) / 100) = n := by
  rw [hundredths, div_mul_cancel₀ _ (by norm_num), roundHalfUp_intCast]

theorem hundredths_mono (h : x ≤ y) : x.hundredths ≤ y.hundredths :=
  roundHalfUp_mono (mul_le_mul_of_nonneg_right h (by norm_num))

theorem hundredths_nonneg (h : 0 ≤ x) : 0 ≤ x.hundredths :=
  roundHalfUp_nonneg (mul_nonneg h (by norm_num))

theorem isHundredths_zero : IsHundredths 0 := ⟨0, by norm_num⟩

theorem isHundredths_toHundredth (x : ℚ) : x.toHundredth.IsHundredths := ⟨x.hundredths, rfl⟩

theorem toHundredth_of_isHundredths (h : x.IsHundredths) : x.toHundredth = x := by
  obtain ⟨n, rfl⟩ := h
  rw [toHundredth, hundredths_div]

theorem toHundredth_mono (h : x ≤ y) : x.toHundredth ≤ y.toHundredth := by
  have := hundredths_mono h
  exact div_le_div_of_nonneg_right (Int.cast_le.mpr this) (by norm_num)

/-- Rounding does not pass an amount that has two decimals. -/
theorem toHundredth_le (hy : y.IsHundredths) (h : x ≤ y) : x.toHundredth ≤ y :=
  (toHundredth_mono h).trans_eq (toHundredth_of_isHundredths hy)

theorem le_toHundredth (hx : x.IsHundredths) (h : x ≤ y) : x ≤ y.toHundredth :=
  (toHundredth_of_isHundredths hx).symm.trans_le (toHundredth_mono h)

/-- Rounding to hundredths stays between amounts that have two decimals. -/
theorem toHundredth_between (lo hi x : ℚ) (hlo : lo.IsHundredths) (hhi : hi.IsHundredths)
    (hlox : lo ≤ x) (hxhi : x ≤ hi) : lo ≤ x.toHundredth ∧ x.toHundredth ≤ hi :=
  ⟨le_toHundredth hlo hlox, toHundredth_le hhi hxhi⟩

end Rat
