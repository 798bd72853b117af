import Deliivo.Arith.Hundredths
import Mathlib.Data.Int.Log
import Mathlib.Tactic

/-!
# Floating-point numbers

A floating-point number is an integer of a fixed number of bits times a power of two, and an
operation rounds its exact result to the nearest one, halves to the even neighbour. The numbers are
kept as the rational numbers that they are; the exponents have a lower end and no upper one, so that
an overflow is not modelled, and zero has one sign.

## Main definitions

* `Rat.roundHalfEven`: the nearest integer, halves to the even one
* `FloatFormat.IsFloat`, `FloatFormat.round`: the numbers of a format, and rounding to them
* `Binary64`: the numbers of double precision, with their arithmetic

## Main results

* `FloatFormat.isFloat_round`, `FloatFormat.round_of_isFloat`: rounding gives a number of the format,
  and leaves such a number as it is
* `FloatFormat.abs_round_sub_le_div`: how far rounding moves a number
* `FloatFormat.round_pos_iff`: what is rounded keeps its sign, down to the least exponent
* `Binary64.sub_pos_iff`, `Binary64.sub_neg_iff`: the rounded difference of two numbers tells which of
  them is greater
-/

namespace Rat

/-! ## The nearest integer -/

/-- The nearest integer, halves to the even neighbour. -/
def roundHalfEven (x : ℚ) : ℤ :=
  if Int.fract x < 1 / 2 ∨ Int.fract x = 1 / 2 ∧ Even ⌊x⌋ then ⌊x⌋ else ⌊x⌋ + 1

variable {x : ℚ} {n : ℤ}

theorem roundHalfEven_le (h : x ≤ n) : x.roundHalfEven ≤ n := by
  have hfloor : ⌊x⌋ ≤ n := by
    have := (Int.floor_le x).trans h
    exact_mod_cast this
  unfold roundHalfEven
  split_ifs with hdown
  · exact hfloor
  · -- rounded up, so that it is no integer
    rcases hfloor.lt_or_eq with hlt | heq
    · exact hlt
    · have hfract : Int.fract x = 0 := by
        have hnonneg := Int.fract_nonneg x
        have hsum := Int.floor_add_fract x
        have hcast : ((⌊x⌋ : ℤ) : ℚ) = n := by rw [heq]
        linarith
      exact absurd (Or.inl (by rw [hfract]; norm_num)) hdown

theorem le_roundHalfEven (h : (n : ℚ) ≤ x) : n ≤ x.roundHalfEven := by
  have hfloor : n ≤ ⌊x⌋ := Int.le_floor.mpr h
  unfold roundHalfEven
  split_ifs
  · exact hfloor
  · exact hfloor.trans (by omega)

@[simp] theorem roundHalfEven_intCast (n : ℤ) : roundHalfEven (n : ℚ) = n :=
  le_antisymm (roundHalfEven_le le_rfl) (le_roundHalfEven le_rfl)

theorem abs_roundHalfEven_sub_le (x : ℚ) : |(x.roundHalfEven : ℚ) - x| ≤ 1 / 2 := by
  have hsum := Int.floor_add_fract x
  have hnonneg := Int.fract_nonneg x
  have hlt := Int.fract_lt_one x
  unfold roundHalfEven
  split_ifs with hdown
  · have hhalf : Int.fract x ≤ 1 / 2 := by
      rcases hdown with hless | heq
      · exact hless.le
      · exact heq.1.le
    rw [abs_le]
    constructor <;> linarith
  · have hhalf : 1 / 2 ≤ Int.fract x := not_lt.mp fun hless => hdown (Or.inl hless)
    push_cast
    rw [abs_le]
    constructor <;> linarith

end Rat

/-! ## Formats -/

/-- A binary format: how many bits stand behind the first one, and the least exponent. -/
structure FloatFormat where
  fractionBits : ℕ
  minExponent : ℤ

namespace FloatFormat

variable (F : FloatFormat)

/-- The numbers of a format. -/
def IsFloat (x : ℚ) : Prop :=
  ∃ m e : ℤ, |m| < 2 ^ (F.fractionBits + 1) ∧ F.minExponent ≤ e ∧ x = m * 2 ^ e

/-- The exponent that a number is rounded at: as many bits as the format has, or the least one. -/
def exponent (x : ℚ) : ℤ := max F.minExponent (Int.log 2 |x| - F.fractionBits)

/-- What an operation whose exact result is `x` returns. -/
def round (x : ℚ) : ℚ := (x / 2 ^ F.exponent x).roundHalfEven * 2 ^ F.exponent x

variable {F} {x : ℚ}

/-- Scaled by its exponent, a number has no more bits than the format. -/
theorem abs_scaled_lt (F : FloatFormat) (x : ℚ) :
    |x / 2 ^ F.exponent x| < ((2 ^ (F.fractionBits + 1) : ℤ) : ℚ) := by
  have hpos : (0 : ℚ) < 2 ^ F.exponent x := by positivity
  have hlog : |x| < (2 : ℚ) ^ (Int.log 2 |x| + 1) := by
    exact_mod_cast Int.lt_zpow_succ_log_self (b := 2) (by norm_num) |x|
  rw [abs_div, abs_of_pos hpos, div_lt_iff₀ hpos]
  refine hlog.trans_le ?_
  push_cast
  rw [← zpow_natCast, ← zpow_add₀ (by norm_num : (2 : ℚ) ≠ 0)]
  refine zpow_le_zpow_right₀ (by norm_num) ?_
  have : Int.log 2 |x| - F.fractionBits ≤ F.exponent x := le_max_right _ _
  push_cast
  omega

/-- **Rounding gives a number of the format.** -/
theorem isFloat_round (F : FloatFormat) (x : ℚ) : F.IsFloat (F.round x) := by
  obtain ⟨hlow, hhigh⟩ := abs_lt.mp (abs_scaled_lt F x)
  set m := (x / 2 ^ F.exponent x).roundHalfEven with hm
  have hle : m ≤ 2 ^ (F.fractionBits + 1) := Rat.roundHalfEven_le hhigh.le
  have hge : -2 ^ (F.fractionBits + 1) ≤ m := Rat.le_roundHalfEven (by push_cast at hlow ⊢; exact hlow.le)
  have hexponent : F.minExponent ≤ F.exponent x := le_max_left _ _
  by_cases hlt : |m| < 2 ^ (F.fractionBits + 1)
  · exact ⟨m, F.exponent x, hlt, hexponent, rfl⟩
  -- rounded up to the next power of two: one exponent further
  have hpow : (2 : ℤ) ^ (F.fractionBits + 1) = 2 * 2 ^ F.fractionBits := by ring
  have hbits : (0 : ℤ) < 2 ^ F.fractionBits := by positivity
  have htop : |m| = 2 ^ (F.fractionBits + 1) := le_antisymm (abs_le.mpr ⟨hge, hle⟩) (not_lt.mp hlt)
  have hstep : (2 : ℚ) ^ (F.exponent x + 1) = 2 * 2 ^ F.exponent x := by
    rw [zpow_add_one₀ (by norm_num)]
    ring
  rcases abs_eq (by positivity) |>.mp htop with hpos | hneg
  · refine ⟨2 ^ F.fractionBits, F.exponent x + 1, ?_, by omega, ?_⟩
    · rw [abs_of_pos hbits]
      omega
    · rw [round, ← hm, hpos, hpow, hstep]
      push_cast
      ring
  · refine ⟨-2 ^ F.fractionBits, F.exponent x + 1, ?_, by omega, ?_⟩
    · rw [abs_neg, abs_of_pos hbits]
      omega
    · rw [round, ← hm, hneg, hpow, hstep]
      push_cast
      ring

/-- What is a multiple of the power that it is rounded at stays. -/
theorem round_of_multiple {k : ℤ} (h : x = k * 2 ^ F.exponent x) : F.round x = x := by
  have hpos : (2 : ℚ) ^ F.exponent x ≠ 0 := by positivity
  have hscaled : x / 2 ^ F.exponent x = k := by rw [div_eq_iff hpos, ← h]
  rw [round, hscaled, Rat.roundHalfEven_intCast, ← h]

/-- **Numbers of the format stay as they are.** -/
theorem round_of_isFloat (h : F.IsFloat x) : F.round x = x := by
  obtain ⟨m, e, hm, he, hx⟩ := h
  by_cases hzero : m = 0
  · have hx0 : x = 0 := by rw [hx, hzero, Int.cast_zero, zero_mul]
    exact round_of_multiple (k := 0) (by rw [hx0, Int.cast_zero, zero_mul])
  · have hpos : 0 < |x| := by
      rw [hx, abs_pos]
      exact mul_ne_zero (Int.cast_ne_zero.mpr hzero) (by positivity)
    have hlt : |x| < ((2 : ℕ) : ℚ) ^ ((F.fractionBits + 1 : ℕ) + e : ℤ) := by
      have hcast : ((|m| : ℤ) : ℚ) < ((2 ^ (F.fractionBits + 1) : ℤ) : ℚ) := Int.cast_lt.mpr hm
      push_cast at hcast
      rw [hx, abs_mul, abs_of_pos (by positivity : (0 : ℚ) < 2 ^ e)]
      push_cast
      rw [zpow_add₀ (by norm_num : (2 : ℚ) ≠ 0)]
      refine mul_lt_mul_of_pos_right ?_ (by positivity)
      calc |(m : ℚ)| < 2 ^ (F.fractionBits + 1) := hcast
        _ = 2 ^ ((F.fractionBits : ℤ) + 1) := by
          rw [← zpow_natCast]
          push_cast
          rfl
    have hlog : Int.log 2 |x| < (F.fractionBits + 1 : ℕ) + e :=
      (Int.lt_zpow_iff_log_lt (by norm_num) hpos).mp hlt
    have hexponent : F.exponent x ≤ e := by
      rw [exponent]
      push_cast at hlog
      omega
    -- so the power that it is rounded at divides the one that it is a multiple of
    obtain ⟨d, hd⟩ := Int.le.dest hexponent
    refine round_of_multiple (k := m * 2 ^ d) ?_
    conv_lhs => rw [hx, ← hd, zpow_add₀ (by norm_num : (2 : ℚ) ≠ 0), zpow_natCast]
    push_cast
    ring

@[simp] theorem round_zero (F : FloatFormat) : F.round 0 = 0 :=
  round_of_multiple (k := 0) (by rw [Int.cast_zero, zero_mul])

/-! ### The error of rounding -/

/-- What is rounded moves by at most half a unit of the power that it is rounded at. -/
theorem abs_round_sub_le (F : FloatFormat) (x : ℚ) : |F.round x - x| ≤ 2 ^ F.exponent x / 2 := by
  have hpower : (0 : ℚ) < 2 ^ F.exponent x := by positivity
  have hfactor : F.round x - x =
      ((x / 2 ^ F.exponent x).roundHalfEven - x / 2 ^ F.exponent x) * 2 ^ F.exponent x := by
    rw [round, sub_mul, div_mul_cancel₀ x hpower.ne']
  rw [hfactor, abs_mul, abs_of_pos hpower]
  calc _ ≤ 1 / 2 * (2 : ℚ) ^ F.exponent x :=
        mul_le_mul_of_nonneg_right (Rat.abs_roundHalfEven_sub_le _) hpower.le
    _ = 2 ^ F.exponent x / 2 := by ring

/-- **A number that is not too small moves by at most half a unit of its last bit.** -/
theorem abs_round_sub_le_div (h : x = 0 ∨ 2 ^ (F.minExponent + F.fractionBits) ≤ |x|) :
    |F.round x - x| ≤ |x| / 2 ^ (F.fractionBits + 1) := by
  rcases h with rfl | hnormal
  · simp
  have hpos : 0 < |x| := lt_of_lt_of_le (by positivity) hnormal
  have hlog : F.minExponent + F.fractionBits ≤ Int.log 2 |x| :=
    (Int.zpow_le_iff_le_log (b := 2) (by norm_num) hpos).mp (by exact_mod_cast hnormal)
  have hself : (2 : ℚ) ^ Int.log 2 |x| ≤ |x| := by
    exact_mod_cast Int.zpow_log_le_self (b := 2) (by norm_num) hpos
  have hexponent : (2 : ℚ) ^ F.exponent x = 2 ^ Int.log 2 |x| / 2 ^ F.fractionBits := by
    rw [exponent, max_eq_right (by omega), zpow_sub₀ (by norm_num : (2 : ℚ) ≠ 0), zpow_natCast]
  calc |F.round x - x| ≤ 2 ^ F.exponent x / 2 := abs_round_sub_le F x
    _ = 2 ^ Int.log 2 |x| / 2 ^ (F.fractionBits + 1) := by
      rw [hexponent, pow_succ, div_div]
    _ ≤ |x| / 2 ^ (F.fractionBits + 1) := div_le_div_of_nonneg_right hself (by positivity)

/-! ### Signs -/

/-- A multiple of the least power. -/
def OnGrid (F : FloatFormat) (x : ℚ) : Prop := ∃ k : ℤ, x = k * 2 ^ F.minExponent

theorem IsFloat.onGrid (h : F.IsFloat x) : F.OnGrid x := by
  obtain ⟨m, e, -, he, hx⟩ := h
  obtain ⟨d, rfl⟩ := Int.le.dest he
  refine ⟨m * 2 ^ d, ?_⟩
  rw [hx, zpow_add₀ (by norm_num : (2 : ℚ) ≠ 0), zpow_natCast]
  push_cast
  ring

theorem OnGrid.sub {y : ℚ} (hx : F.OnGrid x) (hy : F.OnGrid y) : F.OnGrid (x - y) := by
  obtain ⟨k, rfl⟩ := hx
  obtain ⟨l, rfl⟩ := hy
  refine ⟨k - l, ?_⟩
  push_cast
  ring

/-- A multiple of the least power is at least one unit of the power that it is rounded at. -/
theorem one_le_scaled (hgrid : F.OnGrid x) (hpos : 0 < x) : 1 ≤ x / 2 ^ F.exponent x := by
  have hpower : (0 : ℚ) < 2 ^ F.exponent x := by positivity
  rw [le_div_iff₀ hpower, one_mul]
  rcases max_choice F.minExponent (Int.log 2 |x| - F.fractionBits) with hmin | hlog
  · obtain ⟨k, hk⟩ := hgrid
    rw [exponent, hmin]
    have hk0 : 0 < k := by
      rw [hk] at hpos
      have := (mul_pos_iff_of_pos_right (by positivity : (0 : ℚ) < 2 ^ F.minExponent)).mp hpos
      exact_mod_cast this
    have hk1 : (1 : ℚ) ≤ k := by exact_mod_cast hk0
    calc (2 : ℚ) ^ F.minExponent = 1 * 2 ^ F.minExponent := (one_mul _).symm
      _ ≤ k * 2 ^ F.minExponent := mul_le_mul_of_nonneg_right hk1 (by positivity)
      _ = x := hk.symm
  · rw [exponent, hlog]
    have hself : (2 : ℚ) ^ Int.log 2 |x| ≤ |x| := by
      exact_mod_cast Int.zpow_log_le_self (b := 2) (by norm_num) (abs_pos.mpr hpos.ne')
    rw [abs_of_pos hpos] at hself ⊢
    exact (zpow_le_zpow_right₀ (by norm_num) (by omega)).trans hself

theorem exponent_neg (F : FloatFormat) (x : ℚ) : F.exponent (-x) = F.exponent x := by
  rw [exponent, exponent, abs_neg]

/-- **What is rounded keeps its sign**, down to the least exponent. -/
theorem round_pos_iff (hgrid : F.OnGrid x) : 0 < F.round x ↔ 0 < x := by
  have hpower : (0 : ℚ) < 2 ^ F.exponent x := by positivity
  rw [round, mul_pos_iff_of_pos_right hpower, Int.cast_pos]
  constructor
  · intro hpos
    by_contra hneg
    have hscaled : x / 2 ^ F.exponent x ≤ ((0 : ℤ) : ℚ) := by
      rw [Int.cast_zero]
      exact div_nonpos_of_nonpos_of_nonneg (not_lt.mp hneg) hpower.le
    exact absurd (Rat.roundHalfEven_le hscaled) (not_le.mpr hpos)
  · intro hpos
    have hone : ((1 : ℤ) : ℚ) ≤ x / 2 ^ F.exponent x := by
      rw [Int.cast_one]
      exact one_le_scaled hgrid hpos
    exact Rat.le_roundHalfEven hone

theorem round_neg_iff (hgrid : F.OnGrid x) : F.round x < 0 ↔ x < 0 := by
  have hpower : (0 : ℚ) < 2 ^ F.exponent x := by positivity
  rw [round, ← neg_pos, ← neg_mul, mul_pos_iff_of_pos_right hpower, neg_pos, Int.cast_lt_zero]
  constructor
  · intro hneg
    by_contra hpos
    have hscaled : ((0 : ℤ) : ℚ) ≤ x / 2 ^ F.exponent x := by
      rw [Int.cast_zero]
      exact div_nonneg (not_lt.mp hpos) hpower.le
    exact absurd (Rat.le_roundHalfEven hscaled) (not_le.mpr hneg)
  · intro hneg
    have hgrid' : F.OnGrid (-x) := by
      obtain ⟨k, rfl⟩ := hgrid
      exact ⟨-k, by push_cast; ring⟩
    have hone := one_le_scaled hgrid' (neg_pos.mpr hneg)
    rw [exponent_neg, neg_div] at hone
    have hscaled : x / 2 ^ F.exponent x ≤ ((-1 : ℤ) : ℚ) := by
      push_cast
      linarith
    exact (Rat.roundHalfEven_le hscaled).trans_lt (by norm_num)

end FloatFormat

/-! ## Double precision -/

/-- `binary64`: 53 bits, the least of them of the value `2 ^ (-1074)`. -/
def binary64 : FloatFormat where
  fractionBits := 52
  minExponent := -1074

/-- A number of double precision. -/
@[ext] structure Binary64 where
  value : ℚ
  isFloat : binary64.IsFloat value

namespace Binary64

/-- The number that an operation with the exact result `x` returns. -/
def ofRat (x : ℚ) : Binary64 := ⟨binary64.round x, binary64.isFloat_round x⟩

@[simp] theorem ofRat_value (x : Binary64) : ofRat x.value = x :=
  Binary64.ext (FloatFormat.round_of_isFloat x.isFloat)

instance : DecidableEq Binary64 := fun x y => decidable_of_iff (x.value = y.value) Binary64.ext_iff.symm
instance : Zero Binary64 := ⟨ofRat 0⟩
instance : Add Binary64 := ⟨fun x y => ofRat (x.value + y.value)⟩
instance : Sub Binary64 := ⟨fun x y => ofRat (x.value - y.value)⟩
instance : Mul Binary64 := ⟨fun x y => ofRat (x.value * y.value)⟩
instance : Div Binary64 := ⟨fun x y => ofRat (x.value / y.value)⟩
instance : IntCast Binary64 := ⟨fun n => ofRat n⟩
instance : LT Binary64 := ⟨fun x y => x.value < y.value⟩
instance : DecidableLT Binary64 := fun x y => inferInstanceAs (Decidable (x.value < y.value))

variable {x y : Binary64}

@[simp] theorem zero_value : (0 : Binary64).value = 0 := FloatFormat.round_zero binary64

theorem mul_value (x y : Binary64) : (x * y).value = binary64.round (x.value * y.value) := rfl

theorem div_value (x y : Binary64) : (x / y).value = binary64.round (x.value / y.value) := rfl

/-- Integers of at most 53 bits are numbers of double precision. -/
theorem intCast_value {n : ℤ} (h : |n| < 2 ^ 53) : (n : Binary64).value = n :=
  FloatFormat.round_of_isFloat ⟨n, 0, h, by decide, by rw [zpow_zero, mul_one]⟩

/-- Rounding a number above the least ones moves it by at most half a unit of its last bit. -/
theorem abs_round_sub_le {x : ℚ} (h : x = 0 ∨ 2 ^ (-1022 : ℤ) ≤ |x|) :
    |binary64.round x - x| ≤ |x| / 2 ^ 53 :=
  FloatFormat.abs_round_sub_le_div (F := binary64) h

theorem lt_iff : x < y ↔ x.value < y.value := Iff.rfl

theorem sub_value (x y : Binary64) : (x - y).value = binary64.round (x.value - y.value) := rfl

@[simp] theorem sub_zero (x : Binary64) : x - 0 = x := by
  apply Binary64.ext
  rw [sub_value, zero_value, show x.value - 0 = x.value by ring]
  exact FloatFormat.round_of_isFloat x.isFloat

theorem onGrid_sub (x y : Binary64) : binary64.OnGrid (x.value - y.value) :=
  x.isFloat.onGrid.sub y.isFloat.onGrid

/-- The rounded difference of two numbers is positive exactly if the first one is greater. -/
theorem sub_pos_iff : 0 < x - y ↔ y < x := by
  rw [lt_iff, zero_value, sub_value, FloatFormat.round_pos_iff (onGrid_sub x y), sub_pos, lt_iff]

theorem sub_neg_iff : x - y < 0 ↔ x < y := by
  rw [lt_iff, zero_value, sub_value, FloatFormat.round_neg_iff (onGrid_sub x y), sub_neg, lt_iff]

end Binary64
