import Mathlib.Data.Nat.Dist
import TracePipeline.Binary64.Basic

/-!
# Rounding to 53 bits

What a value of `num / den` units rounds to, in units: a multiple of a power of two, and no number
of 64 bits has a nearer value. Rounding keeps the order, and it keeps what needs no rounding.
-/

namespace TracePipeline

namespace Binary64

/-- The value in units that `num / den` units round to, if that is finite. -/
def rounded (num den : Nat) : Nat :=
  divEven num (den * 2 ^ shiftFor num den) * 2 ^ shiftFor num den

variable {num den k d q s n : Nat} {x : Binary64}

/-! ### Fields -/

/-- A significand and the power of two that it is scaled by, from the magnitude they make. One with
54 bits raises the exponent. -/
lemma units_of_magnitude (hx : x.magnitude = s * exponentWeight + n) (hn : n ≤ 2 ^ 53)
    (hs : s = 0 ∨ 2 ^ 52 ≤ n) : x.units = n * 2 ^ s := by
  unfold units significand scale exponent
  rw [hx, Nat.shiftLeft_eq, exponentWeight]
  rcases Nat.lt_or_ge n (2 ^ 52) with hsmall | hnormal
  · obtain rfl : s = 0 := by omega
    have hexponent : (0 * 0x10000000000000 + n) / 0x10000000000000 = 0 := by omega
    have hfraction : (0 * 0x10000000000000 + n) % 0x10000000000000 = n := by omega
    rw [hexponent, hfraction]
    rfl
  rcases Nat.lt_or_ge n (2 ^ 53) with hlt | hcarry
  · have hexponent : (s * 0x10000000000000 + n) / 0x10000000000000 = s + 1 := by omega
    have hsignificand : (s * 0x10000000000000 + n) % 0x10000000000000 + 0x10000000000000 = n := by
      omega
    rw [hexponent, if_neg (Nat.succ_ne_zero s), hsignificand, Nat.add_sub_cancel]
  · obtain rfl : n = 2 ^ 53 := by omega
    have hexponent : (s * 0x10000000000000 + 2 ^ 53) / 0x10000000000000 = s + 1 + 1 := by omega
    have hfraction : (s * 0x10000000000000 + 2 ^ 53) % 0x10000000000000 = 0 := by omega
    rw [hexponent, if_neg (Nat.succ_ne_zero _), hfraction, Nat.add_sub_cancel, Nat.pow_succ 2 s,
      ← Nat.mul_assoc, Nat.mul_right_comm]
    rfl

lemma significand_lt (x : Binary64) : x.significand < 2 ^ 53 := by
  have hfraction : x.magnitude % exponentWeight < 2 ^ 52 := Nat.mod_lt _ (by decide)
  unfold significand
  split
  · omega
  · have hweight : exponentWeight = 2 ^ 52 := rfl
    omega

/-- A value is a multiple of `2 ^ s` units, unless it is below the values with that scale. -/
lemma units_multiple (x : Binary64) (s : Nat) :
    (∃ k, x.units = k * 2 ^ s) ∨ (0 < s ∧ x.units < 2 ^ 52 * 2 ^ s) := by
  unfold units
  rw [Nat.shiftLeft_eq]
  rcases Nat.lt_or_ge x.scale s with hlt | hge
  · refine .inr ⟨by omega, ?_⟩
    calc x.significand * 2 ^ x.scale
      _ < 2 ^ 53 * 2 ^ x.scale :=
        Nat.mul_lt_mul_of_pos_right (significand_lt x) (Nat.two_pow_pos _)
      _ = 2 ^ 52 * 2 ^ (x.scale + 1) := by rw [Nat.pow_succ 2 x.scale]; omega
      _ ≤ 2 ^ 52 * 2 ^ s := Nat.mul_le_mul_left _ (Nat.pow_le_pow_right (by decide) hlt)
  · refine .inl ⟨x.significand * 2 ^ (x.scale - s), ?_⟩
    rw [Nat.mul_assoc, ← Nat.pow_add, Nat.sub_add_cancel hge]

/-! ### Quotients -/

lemma divEven_cases (num d : Nat) :
    (divEven num d = num / d ∧ 2 * (num % d) ≤ d) ∨
      (divEven num d = num / d + 1 ∧ d ≤ 2 * (num % d)) := by
  unfold divEven
  dsimp only
  split
  · exact .inl ⟨rfl, by omega⟩
  · exact .inr ⟨rfl, by omega⟩

lemma divEven_of_dvd (h : d ∣ num) (hd : 0 < d) : divEven num d = num / d := by
  have hmod : num % d = 0 := Nat.mod_eq_zero_of_dvd h
  rw [divEven, hmod]
  exact if_pos (.inl hd)

/-- No multiple of the divisor is nearer than the one that the quotient gives. -/
lemma divEven_nearest (hd : 0 < d) (k : Nat) :
    Nat.dist num (divEven num d * d) ≤ Nat.dist num (k * d) := by
  have hnum : num / d * d + num % d = num := by rw [Nat.mul_comm]; exact Nat.div_add_mod num d
  have hmod : num % d < d := Nat.mod_lt num hd
  have hside : k * d ≤ num / d * d ∨ num / d * d + d ≤ k * d := by
    rcases Nat.lt_or_ge (num / d) k with hlt | hge
    · exact .inr (Nat.succ_mul (num / d) d ▸ Nat.mul_le_mul_right d hlt)
    · exact .inl (Nat.mul_le_mul_right d hge)
  unfold Nat.dist
  rcases divEven_cases num d with ⟨hquotient, hrest⟩ | ⟨hquotient, hrest⟩ <;> rw [hquotient]
  · omega
  · rw [Nat.succ_mul]
    omega

lemma divEven_mono (hle : num ≤ k) (d : Nat) : divEven num d ≤ divEven k d := by
  rcases Nat.lt_or_eq_of_le (Nat.div_le_div_right hle : num / d ≤ k / d) with hlt | heq
  · have hbelow := divEven_cases num d
    have habove := divEven_cases k d
    omega
  · have hrest : num % d ≤ k % d := by
      have hnum := Nat.div_add_mod num d
      have hk := Nat.div_add_mod k d
      rw [heq] at hnum
      omega
    unfold divEven
    dsimp only
    rw [heq]
    split <;> split <;> omega

/-! ### Shifts -/

/-- A shift leaves 53 bits, unless there are fewer to begin with. -/
lemma shiftFor_bounds (num den : Nat) :
    num / den < 2 ^ (53 + shiftFor num den) ∧
      (shiftFor num den = 0 ∨ 2 ^ (52 + shiftFor num den) ≤ num / den) := by
  unfold shiftFor
  generalize num / den = q
  constructor
  · calc q
      _ < 2 ^ (q.log2 + 1) := Nat.lt_log2_self
      _ ≤ 2 ^ (53 + (q.log2 - 52)) := Nat.pow_le_pow_right (by decide) (by omega)
  · rcases Nat.eq_zero_or_pos (q.log2 - 52) with hzero | hpos
    · exact .inl hzero
    · have hlog : 52 + (q.log2 - 52) = q.log2 := by omega
      have hq : q ≠ 0 := by
        rintro rfl
        exact absurd hpos (by decide)
      rw [hlog]
      exact .inr (Nat.log2_self_le hq)

lemma shiftFor_mono (hle : num ≤ k) (den : Nat) : shiftFor num den ≤ shiftFor k den := by
  obtain ⟨hk, -⟩ := shiftFor_bounds k den
  obtain ⟨-, hzero | hnum⟩ := shiftFor_bounds num den
  · omega
  · have hpow := Nat.lt_of_le_of_lt (hnum.trans (Nat.div_le_div_right hle)) hk
    have hexponent := (Nat.pow_lt_pow_iff_right (by decide)).mp hpow
    omega

/-- The quotient at the shift is a significand. -/
lemma divEven_shiftFor (num den : Nat) :
    divEven num (den * 2 ^ shiftFor num den) ≤ 2 ^ 53 ∧
      (shiftFor num den = 0 ∨ 2 ^ 52 ≤ divEven num (den * 2 ^ shiftFor num den)) := by
  obtain ⟨hlt, hge⟩ := shiftFor_bounds num den
  have hcases := divEven_cases num (den * 2 ^ shiftFor num den)
  rw [← Nat.div_div_eq_div_mul] at hcases
  rw [Nat.pow_add] at hlt
  have hsmall := Nat.div_lt_of_lt_mul (Nat.mul_comm _ _ ▸ hlt)
  refine ⟨by omega, hge.imp_right fun hnormal => ?_⟩
  rw [Nat.pow_add] at hnormal
  have hlarge := (Nat.le_div_iff_mul_le (Nat.two_pow_pos _)).mpr hnormal
  omega

/-! ### Rounded values -/

/-- Rounding keeps the order. -/
theorem rounded_mono (hle : num ≤ k) (den : Nat) : rounded num den ≤ rounded k den := by
  unfold rounded
  rcases Nat.lt_or_eq_of_le (shiftFor_mono hle den) with hlt | heq
  · obtain ⟨hbelow, -⟩ := divEven_shiftFor num den
    obtain ⟨-, hzero | habove⟩ := divEven_shiftFor k den
    · omega
    · calc divEven num (den * 2 ^ shiftFor num den) * 2 ^ shiftFor num den
        _ ≤ 2 ^ 53 * 2 ^ shiftFor num den := Nat.mul_le_mul_right _ hbelow
        _ = 2 ^ 52 * 2 ^ (shiftFor num den + 1) := by rw [Nat.pow_succ 2 (shiftFor num den)]; omega
        _ ≤ 2 ^ 52 * 2 ^ shiftFor k den :=
          Nat.mul_le_mul_left _ (Nat.pow_le_pow_right (by decide) hlt)
        _ ≤ divEven k (den * 2 ^ shiftFor k den) * 2 ^ shiftFor k den :=
          Nat.mul_le_mul_right _ habove
  · rw [heq]
    exact Nat.mul_le_mul_right _ (divEven_mono hle _)

/-- No number has a value nearer to the exact one. -/
theorem rounded_nearest (hden : 0 < den) (x : Binary64) :
    Nat.dist num (rounded num den * den) ≤ Nat.dist num (x.units * den) := by
  have hscale : 0 < den * 2 ^ shiftFor num den := Nat.mul_pos hden (Nat.two_pow_pos _)
  have hregroup : ∀ k, k * 2 ^ shiftFor num den * den = k * (den * 2 ^ shiftFor num den) :=
    fun k => by rw [Nat.mul_assoc, Nat.mul_comm den]
  rw [rounded, hregroup]
  rcases units_multiple x (shiftFor num den) with ⟨k, hk⟩ | ⟨hpos, hlt⟩
  · rw [hk, hregroup]
    exact divEven_nearest hscale k
  · -- below the values with this scale, even the least of those is nearer
    have hleast : 2 ^ 52 * (den * 2 ^ shiftFor num den) ≤ num := by
      obtain ⟨-, hzero | hge⟩ := shiftFor_bounds num den
      · omega
      · rw [Nat.pow_add] at hge
        rw [← hregroup]
        exact (Nat.le_div_iff_mul_le hden).mp hge
    have hbelow : x.units * den < 2 ^ 52 * (den * 2 ^ shiftFor num den) := by
      rw [← hregroup]
      exact Nat.mul_lt_mul_of_pos_right hlt hden
    have hnearest : Nat.dist num (divEven num (den * 2 ^ shiftFor num den) *
        (den * 2 ^ shiftFor num den)) ≤ Nat.dist num (2 ^ 52 * (den * 2 ^ shiftFor num den)) :=
      divEven_nearest hscale (2 ^ 52)
    unfold Nat.dist at hnearest ⊢
    omega

/-- Values that 53 bits can express stay as they are. -/
theorem rounded_of_dvd (hden : 0 < den) (h : den * 2 ^ shiftFor num den ∣ num) :
    rounded num den = num / den := by
  have hscale : 0 < den * 2 ^ shiftFor num den := Nat.mul_pos hden (Nat.two_pow_pos _)
  rw [rounded, divEven_of_dvd h hscale, ← Nat.div_div_eq_div_mul]
  refine Nat.div_mul_cancel ?_
  exact Nat.dvd_div_of_mul_dvd h

/-- So do natural numbers of 53 bits, followed by any number of zeros. -/
lemma rounded_mul_two_pow (hn : n < 2 ^ 53) (k : Nat) : rounded (n * 2 ^ k) 1 = n * 2 ^ k := by
  have hshift : shiftFor (n * 2 ^ k) 1 ≤ k := by
    obtain ⟨-, hzero | hge⟩ := shiftFor_bounds (n * 2 ^ k) 1
    · omega
    · have hlt : n * 2 ^ k < 2 ^ (53 + k) := by
        rw [Nat.pow_add]
        exact Nat.mul_lt_mul_of_pos_right hn (Nat.two_pow_pos _)
      rw [Nat.div_one] at hge
      have hexponent := (Nat.pow_lt_pow_iff_right (by decide)).mp (Nat.lt_of_le_of_lt hge hlt)
      omega
  have hdvd : 1 * 2 ^ shiftFor (n * 2 ^ k) 1 ∣ n * 2 ^ k := by
    rw [Nat.one_mul]
    exact Nat.dvd_mul_left_of_dvd (Nat.pow_dvd_pow 2 hshift) n
  rw [rounded_of_dvd Nat.one_pos hdvd, Nat.div_one]

/-! ### The number nearest to a quotient -/

lemma nearestMagnitude_le (num den : Nat) : nearestMagnitude num den ≤ infinite :=
  Nat.min_le_left _ _

lemma nearestMagnitude_lt (num den : Nat) : nearestMagnitude num den < 0x8000000000000000 :=
  Nat.lt_of_le_of_lt (nearestMagnitude_le num den) (by decide)

lemma toNat_bits_nearest (negative : Bool) (num den : Nat) :
    (nearest negative num den).bits.toNat =
      (if negative then 0x8000000000000000 else 0) + nearestMagnitude num den := by
  have hlt := nearestMagnitude_lt num den
  have hsize : UInt64.size = 0x10000000000000000 := rfl
  refine UInt64.toNat_ofNat_of_lt' ?_
  unfold signWeight
  split <;> omega

@[simp] lemma magnitude_nearest (negative : Bool) (num den : Nat) :
    (nearest negative num den).magnitude = nearestMagnitude num den := by
  have hlt := nearestMagnitude_lt num den
  rw [magnitude, toNat_bits_nearest, signWeight]
  split <;> omega

@[simp] lemma isNegative_nearest (negative : Bool) (num den : Nat) :
    (nearest negative num den).isNegative = negative := by
  rw [isNegative, toNat_bits_nearest, signWeight]
  cases negative with
  | false =>
    have hlt : ¬ 0x8000000000000000 ≤ 0 + nearestMagnitude num den := by
      rw [Nat.zero_add, Nat.not_le]
      exact nearestMagnitude_lt num den
    exact decide_eq_false hlt
  | true => exact decide_eq_true (Nat.le_add_right _ _)

lemma isNaN_nearest (negative : Bool) (num den : Nat) :
    (nearest negative num den).isNaN = false := by
  rw [isNaN, magnitude_nearest, decide_eq_false_iff_not, Nat.not_lt]
  exact nearestMagnitude_le num den

/-- The value of the nearest number, unless that is infinite. -/
theorem units_nearest {negative : Bool} (h : (nearest negative num den).isFinite = true) :
    (nearest negative num den).units = rounded num den := by
  have hmagnitude := magnitude_nearest negative num den
  rw [isFinite, hmagnitude, decide_eq_true_eq] at h
  have hmin : nearestMagnitude num den =
      shiftFor num den * exponentWeight + divEven num (den * 2 ^ shiftFor num den) := by
    unfold nearestMagnitude at h ⊢
    dsimp only at h ⊢
    rw [← Nat.shiftLeft_eq den]
    omega
  obtain ⟨hle, hge⟩ := divEven_shiftFor num den
  exact units_of_magnitude (hmagnitude.trans hmin) hle hge

/-- Values below `2 ^ 1023` stay finite. -/
lemma isFinite_nearest (negative : Bool) (h : num / den < 2 ^ k) (hk : k ≤ 2097) :
    (nearest negative num den).isFinite = true := by
  have hshift : shiftFor num den < 2045 := by
    obtain ⟨-, hzero | hge⟩ := shiftFor_bounds num den
    · omega
    · have hexponent := (Nat.pow_lt_pow_iff_right (by decide)).mp (Nat.lt_of_le_of_lt hge h)
      omega
  obtain ⟨hle, -⟩ := divEven_shiftFor num den
  have hmin : nearestMagnitude num den ≤
      shiftFor num den * exponentWeight + divEven num (den * 2 ^ shiftFor num den) := by
    unfold nearestMagnitude
    dsimp only
    rw [Nat.shiftLeft_eq den]
    exact Nat.min_le_right _ _
  rw [isFinite, magnitude_nearest, decide_eq_true_eq, infinite]
  unfold exponentWeight at hmin ⊢
  omega

lemma isFinite_mul_two_pow (negative : Bool) (hn : n < 2 ^ 53) (hk : k ≤ 2044) :
    (nearest negative (n * 2 ^ k) 1).isFinite = true := by
  have hlt : n * 2 ^ k / 1 < 2 ^ (53 + k) := by
    rw [Nat.div_one, Nat.pow_add]
    exact Nat.mul_lt_mul_of_pos_right hn (Nat.two_pow_pos _)
  exact isFinite_nearest negative hlt (by omega)

end Binary64

end TracePipeline
