import Mathlib.Data.List.Induction
import TracePipeline.Proofs.Binary64.Value
import TracePipeline.Sampler

/-!
# Sampling by rate

A sampler compares the salted id, cut down to six digits, with a bound that depends on the rate
alone and grows with it. The rate is the last one that was accepted, whatever was tried after it.
-/

namespace TracePipeline

namespace Sampler

/-- The sampler after an attempt to change its rate, which may be rejected. -/
def retune (s : Sampler) (rate : Binary64) : Sampler :=
  match s.setRate rate with
  | .ok s' => s'
  | .error _ => s

/-- The sampler after several attempts. -/
def retuned (s : Sampler) (rates : List Binary64) : Sampler := rates.foldl retune s

/-- The least whole number that is not below the threshold of a rate. -/
def bound (rate : Binary64) : Nat := ⌈(threshold rate).value⌉₊

/-- What holds of all samplers, with `k` for the bound that a rate puts on salted ids. -/
structure SamplesBelow (k : Binary64 → Nat) : Prop where
  tuned : ∀ (s : Sampler) rates,
    (s.retuned rates).rate = (rates.filter isRate).getLast?.getD s.rate ∧
      (s.retuned rates).salt = s.salt
  range : ∀ s : Sampler, s.rate.isNaN = false ∧ 0 ≤ s.rate.value ∧ s.rate.value ≤ 1
  rejected : ∀ (s : Sampler) rate, ¬ (rate.isNaN = false ∧ 0 ≤ rate.value ∧ rate.value ≤ 1) →
    s.setRate rate = .error (.samplingRate rate) ∧ s.retune rate = s
  bounded : ∀ rate, isRate rate = true → k rate ≤ 1000000
  nearest : ∀ rate, isRate rate = true → ∃ product : Binary64, k rate = ⌈product.value⌉₊ ∧
    ∀ z : Binary64, |product.value - rate.value * 1000000| ≤ |z.value - rate.value * 1000000|
  zero : k ⟨0⟩ = 0 ∧ k ⟨0x8000000000000000⟩ = 0
  one : k ⟨0x3FF0000000000000⟩ = 1000000
  mono : ∀ rate rate', isRate rate = true → isRate rate' = true → rate.le rate' = true →
    k rate ≤ k rate'
  sampled : ∀ (s : Sampler) id,
    s.sample id = decide ((id ^^^ s.salt).toInt64.toInt.natAbs % 1000000 < k s.rate)
  none : ∀ (s : Sampler) id, s.rate.value = 0 → s.sample id = false
  all : ∀ (s : Sampler) id, s.rate.value = 1 → s.sample id = true
  negated : ∀ (s : Sampler) id id', id ^^^ s.salt = -(id' ^^^ s.salt) → s.sample id = s.sample id'
  raised : ∀ (s : Sampler) rate id, isRate rate = true → s.rate.le rate = true →
    s.sample id = true → (s.retune rate).sample id = true

variable {s : Sampler} {rate rate' : Binary64} {rates : List Binary64} {id id' : UInt64}

/-! ### Rates -/

lemma isRate_iff (rate : Binary64) :
    isRate rate = true ↔ rate.isNaN = false ∧ 0 ≤ rate.value ∧ rate.value ≤ 1 := by
  rw [isRate, Bool.and_eq_true, Binary64.le_iff, Binary64.le_iff, Binary64.value_ofNat_zero,
    Binary64.value_ofNat_one]
  simp only [Binary64.isNaN_ofNat, true_and]
  tauto

lemma setRate_eq_error (h : isRate rate = false) (s : Sampler) :
    s.setRate rate = .error (.samplingRate rate) := by
  rw [setRate, new, dif_neg (Bool.eq_false_iff.mp h)]

lemma retune_of_not_isRate (h : isRate rate = false) (s : Sampler) : s.retune rate = s := by
  rw [retune, setRate_eq_error h]

lemma retune_of_isRate (h : isRate rate = true) (s : Sampler) :
    s.retune rate = ⟨rate, s.salt, h⟩ := by
  rw [retune, setRate, new, dif_pos h]

/-- The rate in force is the last one accepted. -/
theorem retuned_eq (s : Sampler) (rates : List Binary64) :
    (s.retuned rates).rate = (rates.filter isRate).getLast?.getD s.rate ∧
      (s.retuned rates).salt = s.salt := by
  induction rates using List.reverseRecOn with
  | nil => exact ⟨rfl, rfl⟩
  | append_singleton rates rate ih =>
    have hconcat : s.retuned (rates ++ [rate]) = (s.retuned rates).retune rate := by
      rw [retuned, List.foldl_append]
      rfl
    rw [hconcat, List.filter_append]
    cases h : isRate rate with
    | false =>
      rw [retune_of_not_isRate h, List.filter_cons_of_neg (Bool.eq_false_iff.mp h),
        List.filter_nil, List.append_nil]
      exact ih
    | true =>
      rw [retune_of_isRate h, List.filter_cons_of_pos h, List.filter_nil,
        List.getLast?_concat]
      exact ⟨rfl, ih.2⟩

/-! ### Thresholds -/

lemma value_precision : (Binary64.ofNat precision).value = 1000000 := by
  rw [Binary64.value_ofNat (by decide)]
  rfl

lemma threshold_isFinite (h : isRate rate = true) : (threshold rate).isFinite = true := by
  obtain ⟨-, hnonneg, hle⟩ := (isRate_iff rate).mp h
  exact Binary64.isFinite_mul_ofNat (Binary64.units_le_one hnonneg hle) (by decide)

/-- No number is nearer to the exact product than the threshold. -/
theorem threshold_nearest (h : isRate rate = true) (z : Binary64) :
    |(threshold rate).value - rate.value * 1000000| ≤ |z.value - rate.value * 1000000| := by
  have hnearest := Binary64.mul_nearest (threshold_isFinite h) z
  rwa [value_precision] at hnearest

lemma threshold_nonneg (h : isRate rate = true) : 0 ≤ (threshold rate).value := by
  obtain ⟨-, hnonneg, -⟩ := (isRate_iff rate).mp h
  have hzero : |(Binary64.ofNat 0).value - rate.value * 1000000| = rate.value * 1000000 := by
    rw [Binary64.value_ofNat_zero, zero_sub, abs_neg, abs_of_nonneg (by linarith)]
  have hnearest := threshold_nearest h (.ofNat 0)
  rw [hzero] at hnearest
  linarith [(abs_le.mp hnearest).1]

lemma threshold_le (h : isRate rate = true) : (threshold rate).value ≤ 1000000 := by
  obtain ⟨-, -, hle⟩ := (isRate_iff rate).mp h
  have hmillion : |(Binary64.ofNat precision).value - rate.value * 1000000| =
      1000000 - rate.value * 1000000 := by
    rw [value_precision, abs_of_nonneg (by linarith)]
  have hnearest := threshold_nearest h (.ofNat precision)
  rw [hmillion] at hnearest
  linarith [(abs_le.mp hnearest).2]

/-- Thresholds grow with their rates. -/
lemma threshold_mono (h : isRate rate = true) (h' : isRate rate' = true)
    (hle : rate.le rate' = true) : (threshold rate).value ≤ (threshold rate').value := by
  obtain ⟨-, hnonneg, -⟩ := (isRate_iff rate).mp h
  obtain ⟨-, hnonneg', -⟩ := (isRate_iff rate').mp h'
  obtain ⟨-, -, hvalue⟩ := Binary64.le_iff.mp hle
  refine (Binary64.units_le_units (threshold_nonneg h) (threshold_nonneg h')).mp ?_
  exact Binary64.units_mul_mono (threshold_isFinite h) (threshold_isFinite h')
    ((Binary64.units_le_units hnonneg hnonneg').mpr hvalue)

/-- Where the exact threshold is a whole number, it is the bound. -/
lemma bound_of_value (h : isRate rate = true) {n : Nat} (hn : n < 2 ^ 53)
    (hvalue : rate.value * 1000000 = n) : bound rate = n := by
  have hexact : (Binary64.ofNat n).value = rate.value * (Binary64.ofNat precision).value := by
    rw [Binary64.value_ofNat hn, value_precision, hvalue]
  rw [bound, threshold, Binary64.mul_exact (threshold_isFinite h) hexact, ← hexact,
    Binary64.value_ofNat hn, Nat.ceil_natCast]

lemma bound_of_zero (h : isRate rate = true) (hvalue : rate.value = 0) : bound rate = 0 :=
  bound_of_value h (by decide) (by rw [hvalue, zero_mul, Nat.cast_zero])

lemma bound_of_one (h : isRate rate = true) (hvalue : rate.value = 1) : bound rate = 1000000 :=
  bound_of_value h (by decide) (by rw [hvalue, one_mul, Nat.cast_ofNat])

/-- Both zeros are rates. -/
lemma bound_of_signedUnits (hnumber : rate.isNaN = false) (hunits : rate.signedUnits = 0) :
    bound rate = 0 := by
  have hvalue : rate.value = 0 := by rw [Binary64.value, hunits, Int.cast_zero, zero_div]
  refine bound_of_zero ((isRate_iff rate).mpr ⟨hnumber, ?_⟩) hvalue
  rw [hvalue]
  exact ⟨le_rfl, zero_le_one⟩

/-! ### Salted ids -/

lemma signedMagnitude_eq (id : UInt64) : signedMagnitude id = id.toInt64.toInt.natAbs := by
  have hint : id.toInt64.toInt = id.toBitVec.toInt := rfl
  have hnat : id.toBitVec.toNat = id.toNat := rfl
  have hlt : id.toNat < UInt64.size := id.toNat_lt_size
  have hsize : UInt64.size = 2 ^ 64 := rfl
  rw [signedMagnitude, hint, BitVec.toInt_eq_toNat_cond, hnat]
  split <;> split <;> omega

lemma signedMagnitude_neg (id : UInt64) : signedMagnitude (-id) = signedMagnitude id := by
  have hlt : id.toNat < UInt64.size := id.toNat_lt_size
  have hsize : UInt64.size = 2 ^ 64 := rfl
  have hneg : (-id).toNat = (2 ^ 64 - id.toNat) % 2 ^ 64 := UInt64.toNat_neg id
  unfold signedMagnitude
  rw [hneg]
  split <;> split <;> omega

lemma bucket_lt (salt id : UInt64) : bucket salt id < 1000000 := Nat.mod_lt _ (by decide)

/-- A trace is sampled if its bucket is below the bound of the rate. -/
theorem sample_eq (s : Sampler) (id : UInt64) :
    s.sample id = decide (bucket s.salt id < bound s.rate) := by
  have hbucket := bucket_lt s.salt id
  have hnumber : (threshold s.rate).isNaN = false := Binary64.isNaN_nearest _ _ _
  refine Bool.eq_iff_iff.mpr ?_
  rw [sample, Binary64.lt_iff, Binary64.isNaN_ofNat, hnumber, decide_eq_true_eq, bound,
    Binary64.value_ofNat (by omega), Nat.lt_ceil]
  simp only [true_and]

/-! ### All samplers -/

theorem samplesBelow_bound : SamplesBelow bound where
  tuned := retuned_eq
  range s := (isRate_iff s.rate).mp s.valid
  rejected s rate h := by
    have hrate : isRate rate = false := Bool.eq_false_iff.mpr (mt (isRate_iff rate).mp h)
    exact ⟨setRate_eq_error hrate s, retune_of_not_isRate hrate s⟩
  bounded rate h := Nat.ceil_le.mpr (by exact_mod_cast threshold_le h)
  nearest rate h := ⟨threshold rate, rfl, threshold_nearest h⟩
  zero := ⟨bound_of_signedUnits rfl rfl, bound_of_signedUnits rfl rfl⟩
  one := by
    have hone : (⟨0x3FF0000000000000⟩ : Binary64) = .ofNat 1 := by decide +kernel
    rw [hone]
    refine bound_of_one ((isRate_iff _).mpr ⟨Binary64.isNaN_ofNat 1, ?_⟩) Binary64.value_ofNat_one
    rw [Binary64.value_ofNat_one]
    exact ⟨zero_le_one, le_rfl⟩
  mono rate rate' h h' hle := Nat.ceil_le_ceil (threshold_mono h h' hle)
  sampled s id := by
    rw [sample_eq, bucket, signedMagnitude_eq]
    rfl
  none s id h := by
    rw [sample_eq, bound_of_zero s.valid h]
    rfl
  all s id h := by
    rw [sample_eq, bound_of_one s.valid h]
    exact decide_eq_true (bucket_lt s.salt id)
  negated s id id' h := by
    rw [sample_eq, sample_eq, bucket, bucket, h, signedMagnitude_neg]
  raised s rate id h hle hsampled := by
    rw [retune_of_isRate h, sample_eq, decide_eq_true_eq]
    rw [sample_eq, decide_eq_true_eq] at hsampled
    exact hsampled.trans_le (Nat.ceil_le_ceil (threshold_mono s.valid h hle))

end Sampler

end TracePipeline
