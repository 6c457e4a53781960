import Mathlib.Data.Rat.Floor
import TracePipeline.Proofs.Binary64.Rounding

/-!
# Values of numbers

The value of a number is a fraction, and the order of numbers is that of their values. A product is
a number whose value is as near to the product of the values as that of any number.
-/

namespace TracePipeline

namespace Binary64

/-- How many binary digits can follow the point. -/
def places : Nat := 1074

/-- The value of a number; that of an infinite one is the power of two after the greatest value. -/
def value (x : Binary64) : ℚ := x.signedUnits / one

variable {x y z : Binary64} {num den n : Nat} {negative : Bool}

lemma one_eq : one = 2 ^ places := Nat.one_shiftLeft places

lemma one_pos : 0 < one := one_eq ▸ Nat.two_pow_pos places

lemma cast_one_pos : (0 : ℚ) < one := Nat.cast_pos.mpr one_pos

lemma value_le_value : x.value ≤ y.value ↔ x.signedUnits ≤ y.signedUnits := by
  rw [value, value, div_le_div_iff_of_pos_right cast_one_pos, Int.cast_le]

lemma value_lt_value : x.value < y.value ↔ x.signedUnits < y.signedUnits := by
  rw [value, value, div_lt_div_iff_of_pos_right cast_one_pos, Int.cast_lt]

theorem lt_iff : x.lt y = true ↔ x.isNaN = false ∧ y.isNaN = false ∧ x.value < y.value := by
  simp [lt, value_lt_value, and_assoc]

theorem le_iff : x.le y = true ↔ x.isNaN = false ∧ y.isNaN = false ∧ x.value ≤ y.value := by
  simp [le, value_le_value, and_assoc]

lemma value_eq (x : Binary64) :
    x.value = (if x.isNegative then -1 else 1) * ((x.units : ℚ) / one) := by
  unfold value signedUnits
  split <;> simp [neg_div]

lemma abs_value (x : Binary64) : |x.value| = x.units / one := by
  have hnonneg : (0 : ℚ) ≤ x.units / one := div_nonneg (Nat.cast_nonneg _) cast_one_pos.le
  rw [value_eq, abs_mul, abs_of_nonneg hnonneg]
  split <;> simp

lemma value_of_nonneg (h : 0 ≤ x.value) : x.value = x.units / one := by
  rw [← abs_value, abs_of_nonneg h]

lemma units_le_units (hx : 0 ≤ x.value) (hy : 0 ≤ y.value) :
    x.units ≤ y.units ↔ x.value ≤ y.value := by
  rw [value_of_nonneg hx, value_of_nonneg hy, div_le_div_iff_of_pos_right cast_one_pos,
    Nat.cast_le]

lemma units_le_one (hx : 0 ≤ x.value) (hle : x.value ≤ 1) : x.units ≤ one := by
  rw [value_of_nonneg hx, div_le_one cast_one_pos] at hle
  exact Nat.cast_le.mp hle

lemma value_nearest (h : (nearest negative num den).isFinite = true) :
    (nearest negative num den).value =
      (if negative then -1 else 1) * ((rounded num den : ℚ) / one) := by
  rw [value_eq, isNegative_nearest, units_nearest h]

/-! ### Natural numbers -/

lemma rounded_mul_one (h : n < 2 ^ 53) : rounded (n * one) 1 = n * one :=
  one_eq ▸ rounded_mul_two_pow h places

lemma isFinite_ofNat (h : n < 2 ^ 53) : (ofNat n).isFinite = true := by
  rw [ofNat, one_eq]
  exact isFinite_mul_two_pow false h (by decide)

lemma units_ofNat (h : n < 2 ^ 53) : (ofNat n).units = n * one :=
  (units_nearest (isFinite_ofNat h)).trans (rounded_mul_one h)

lemma isNaN_ofNat (n : Nat) : (ofNat n).isNaN = false := isNaN_nearest false _ _

/-- Natural numbers of 53 bits are exact. -/
theorem value_ofNat (h : n < 2 ^ 53) : (ofNat n).value = n := by
  have hvalue := value_nearest (isFinite_ofNat h)
  rw [rounded_mul_one h] at hvalue
  rw [ofNat, hvalue, if_neg Bool.false_ne_true, one_mul, Nat.cast_mul,
    mul_div_cancel_right₀ _ cast_one_pos.ne']

lemma value_ofNat_zero : (ofNat 0).value = 0 := by rw [value_ofNat (by decide), Nat.cast_zero]

lemma value_ofNat_one : (ofNat 1).value = 1 := by rw [value_ofNat (by decide), Nat.cast_one]

/-! ### Products -/

lemma cast_dist (a b : Nat) : (Nat.dist a b : ℚ) = |(a : ℚ) - b| := by
  rcases Nat.le_total a b with h | h
  · rw [Nat.dist_eq_sub_of_le h, Nat.cast_sub h, abs_sub_comm, abs_of_nonneg]
    exact sub_nonneg.mpr (Nat.cast_le.mpr h)
  · rw [Nat.dist_eq_sub_of_le_right h, Nat.cast_sub h, abs_of_nonneg]
    exact sub_nonneg.mpr (Nat.cast_le.mpr h)

/-- Distances of fractions of units, by those of the units. -/
lemma abs_div_sub (hden : 0 < den) (num a : Nat) :
    |(a : ℚ) / one - num / (den * one)| = Nat.dist num (a * den) / (den * one) := by
  have hden' : (0 : ℚ) < den := Nat.cast_pos.mpr hden
  have hpos : (0 : ℚ) < den * one := mul_pos hden' cast_one_pos
  have hsame : (a : ℚ) / one = (a * den : Nat) / (den * one) := by
    rw [Nat.cast_mul, mul_comm (a : ℚ), mul_div_mul_left _ _ hden'.ne']
  rw [hsame, ← sub_div, abs_div, abs_of_pos hpos, abs_sub_comm, cast_dist]

/-- No number is nearer to a fraction than the nearest one, which has its sign. -/
theorem nearest_nearest (hden : 0 < den) (h : (nearest negative num den).isFinite = true)
    (z : Binary64) :
    |(nearest negative num den).value - (if negative then -1 else 1) * (num / (den * one))| ≤
      |z.value - (if negative then -1 else 1) * (num / (den * one))| := by
  have hpos : (0 : ℚ) < den * one := mul_pos (Nat.cast_pos.mpr hden) cast_one_pos
  have hnonneg : (0 : ℚ) ≤ num / (den * one) := div_nonneg (Nat.cast_nonneg _) hpos.le
  have hsign : |if negative then (-1 : ℚ) else 1| = 1 := by split <;> simp
  have hmagnitude : |(if negative then (-1 : ℚ) else 1) * (num / (den * one))| =
      num / (den * one) := by rw [abs_mul, hsign, one_mul, abs_of_nonneg hnonneg]
  calc |(nearest negative num den).value - (if negative then -1 else 1) * (num / (den * one))|
    _ = |(rounded num den : ℚ) / one - num / (den * one)| := by
      rw [value_nearest h, ← mul_sub, abs_mul, hsign, one_mul]
    _ ≤ |(z.units : ℚ) / one - num / (den * one)| := by
      rw [abs_div_sub hden, abs_div_sub hden, div_le_div_iff_of_pos_right hpos]
      exact Nat.cast_le.mpr (rounded_nearest hden z)
    _ ≤ |z.value - (if negative then -1 else 1) * (num / (den * one))| := by
      rw [← abs_value z]
      nth_rewrite 1 [← hmagnitude]
      exact abs_abs_sub_abs_le_abs_sub _ _

/-- A product is rounded to nearest. -/
theorem mul_nearest (h : (x.mul y).isFinite = true) (z : Binary64) :
    |(x.mul y).value - x.value * y.value| ≤ |z.value - x.value * y.value| := by
  have hproduct : x.value * y.value = (if (x.isNegative != y.isNegative) then -1 else 1) *
      ((x.units * y.units : Nat) / (one * one)) := by
    rw [value_eq x, value_eq y, Nat.cast_mul, mul_mul_mul_comm, div_mul_div_comm]
    cases x.isNegative <;> cases y.isNegative <;> simp
  rw [hproduct]
  exact nearest_nearest one_pos h z

/-- A product that some number has exactly is not rounded. -/
theorem mul_exact (h : (x.mul y).isFinite = true) (hz : z.value = x.value * y.value) :
    (x.mul y).value = x.value * y.value := by
  have hnearest := mul_nearest h z
  rw [hz, sub_self, abs_zero] at hnearest
  exact sub_eq_zero.mp (abs_nonpos_iff.mp hnearest)

/-- Products with a natural number are finite, if the other factor is at most one. -/
lemma isFinite_mul_ofNat (hx : x.units ≤ one) (hn : n < 2 ^ 53) :
    (x.mul (ofNat n)).isFinite = true := by
  have hlt : x.units * (ofNat n).units / one < 2 ^ (places + 53) := by
    rw [units_ofNat hn, ← Nat.mul_assoc, Nat.mul_div_cancel _ one_pos, Nat.pow_add]
    exact Nat.mul_lt_mul_of_le_of_lt (one_eq ▸ hx) hn (Nat.two_pow_pos _)
  exact isFinite_nearest _ hlt (by decide)

/-- Products keep the order of their factors. -/
lemma units_mul_mono (hx : (x.mul z).isFinite = true) (hy : (y.mul z).isFinite = true)
    (hle : x.units ≤ y.units) : (x.mul z).units ≤ (y.mul z).units := by
  unfold mul at hx hy ⊢
  rw [units_nearest hx, units_nearest hy]
  exact rounded_mono (Nat.mul_le_mul_right _ hle) _

end Binary64

end TracePipeline
