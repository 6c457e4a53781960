import Mathlib.Algebra.GroupWithZero.Nat
import Mathlib.Data.List.Basic
import Mathlib.Data.List.Induction
import TracePipeline.Text.Numeral

/-!
# Reading numerals back

A numeral is read back as the number it was written for, up to where its digits end. It has no zero
in front, unless it is the numeral of zero, and no more digits than its number needs. A numeral that is
padded to a width is read as what is left of its number in so many digits.
-/

namespace TracePipeline.Text

/-- A number in base sixteen: lower-case digits, `width` of them, that are read as `n`. -/
structure Hexadecimal (width n : Nat) (text : List Char) : Prop where
  length : text.length = width
  lower : ∀ c ∈ text, '0' ≤ c ∧ c ≤ '9' ∨ 'a' ≤ c ∧ c ≤ 'f'
  reads : ∃ digits, spanDigits 16 text = (digits, []) ∧ ofDigits 16 digits = n

/-- The values of the digits of `n` in base `b + 2`, without leading zeros. -/
def digitsFrom (b n : Nat) : List Nat :=
  if _h : n < b + 2 then [n] else digitsFrom b (n / (b + 2)) ++ [n % (b + 2)]
termination_by n
decreasing_by exact Nat.div_lt_self (by omega) (by omega)

variable {base b n d width : Nat} {ds : List Nat} {rest text : List Char}

lemma digitValue?_digit (hb : base ≤ 16) (h : d < base) : digitValue? base (digit d) = some d := by
  have hall : ∀ base, base < 17 → ∀ d, d < base → digitValue? base (digit d) = some d := by decide
  exact hall base (by omega) d h

lemma numeralFrom_eq (b n : Nat) : numeralFrom b n = (digitsFrom b n).map digit := by
  fun_induction digitsFrom b n with
  | case1 n h => rw [numeralFrom, dif_pos h, List.map_singleton]
  | case2 n h ih => rw [numeralFrom, dif_neg h, ih, List.map_append, List.map_singleton]

lemma lt_of_mem_digitsFrom (hd : d ∈ digitsFrom b n) : d < b + 2 := by
  fun_induction digitsFrom b n with
  | case1 n h =>
    rw [List.mem_singleton.mp hd]
    exact h
  | case2 n h ih =>
    rcases List.mem_append.mp hd with hd | hd
    · exact ih hd
    · rw [List.mem_singleton.mp hd]
      exact Nat.mod_lt n (by omega)

lemma ofDigits_concat (base : Nat) (ds : List Nat) (d : Nat) :
    ofDigits base (ds ++ [d]) = ofDigits base ds * base + d := by
  rw [ofDigits, List.foldl_append]
  rfl

lemma ofDigits_digitsFrom (b n : Nat) : ofDigits (b + 2) (digitsFrom b n) = n := by
  fun_induction digitsFrom b n with
  | case1 n h => simp [ofDigits]
  | case2 n h ih =>
    rw [ofDigits_concat, ih]
    exact Nat.div_add_mod' n (b + 2)

lemma digitsFrom_ne_nil (b n : Nat) : digitsFrom b n ≠ [] := by
  rw [digitsFrom]
  split <;> simp

lemma exists_digit_cons (b n : Nat) :
    ∃ (d : Nat) (ds : List Nat), d < b + 2 ∧ numeralFrom b n = digit d :: ds.map digit := by
  obtain ⟨d, ds, hds⟩ := List.exists_cons_of_ne_nil (digitsFrom_ne_nil b n)
  refine ⟨d, ds, lt_of_mem_digitsFrom (n := n) ?_, ?_⟩
  · rw [hds]
    exact List.mem_cons_self
  · rw [numeralFrom_eq, hds, List.map_cons]

/-- Only the numeral of zero starts with a zero. -/
lemma eq_zero_of_head?_digitsFrom (hd : (digitsFrom b n).head? = some 0) : n = 0 := by
  fun_induction digitsFrom b n with
  | case1 n h => exact Option.some.inj hd
  | case2 n h ih =>
    rw [List.head?_append_of_ne_nil _ (digitsFrom_ne_nil _ _)] at hd
    have hpos : 0 < n / (b + 2) := Nat.div_pos (by omega) (by omega)
    rw [ih hd] at hpos
    cases hpos

lemma eq_zero_of_head?_numeralFrom (hb : b + 2 ≤ 16) (hd : (numeralFrom b n).head? = some '0') :
    n = 0 := by
  have hzero : ∀ d, d < 16 → digit d = '0' → d = 0 := by decide
  obtain ⟨d, ds, hds⟩ := List.exists_cons_of_ne_nil (digitsFrom_ne_nil b n)
  have hlt : d < b + 2 := lt_of_mem_digitsFrom (n := n) (by rw [hds]; exact List.mem_cons_self)
  rw [numeralFrom_eq, hds] at hd
  apply eq_zero_of_head?_digitsFrom (b := b)
  rw [hds, hzero d (by omega) (Option.some.inj hd)]
  rfl

lemma length_digitsFrom_le {k : Nat} (hk : 0 < k) (hn : n < (b + 2) ^ k) :
    (digitsFrom b n).length ≤ k := by
  fun_induction digitsFrom b n generalizing k with
  | case1 n h => exact hk
  | case2 n h ih =>
    obtain ⟨k, rfl⟩ : ∃ j, k = j + 1 := ⟨k - 1, by omega⟩
    have hk : 0 < k := by
      rcases Nat.eq_zero_or_pos k with rfl | hk
      · rw [Nat.zero_add, Nat.pow_one] at hn
        exact absurd hn h
      · exact hk
    have hquotient : n / (b + 2) < (b + 2) ^ k := by
      rw [Nat.div_lt_iff_lt_mul (by omega), ← Nat.pow_succ]
      exact hn
    rw [List.length_append, List.length_singleton]
    exact Nat.succ_le_succ (ih hk hquotient)

/-- Digits are read up to a text that starts with none. -/
lemma spanDigits_map_digit (hb : base ≤ 16) (hds : ∀ d ∈ ds, d < base)
    (hrest : spanDigits base rest = ([], rest)) :
    spanDigits base (ds.map digit ++ rest) = (ds, rest) := by
  induction ds with
  | nil => exact hrest
  | cons d ds ih =>
    have htail := ih fun e he => hds e (List.mem_cons_of_mem d he)
    rw [List.map_cons, List.cons_append, spanDigits,
      digitValue?_digit hb (hds d List.mem_cons_self)]
    simp only [htail]

lemma spanDigits_numeralFrom (hb : b + 2 ≤ 16) (n : Nat)
    (hrest : spanDigits (b + 2) rest = ([], rest)) :
    spanDigits (b + 2) (numeralFrom b n ++ rest) = (digitsFrom b n, rest) := by
  rw [numeralFrom_eq]
  exact spanDigits_map_digit hb (fun d => lt_of_mem_digitsFrom) hrest

lemma spanDigits_cons_of_none {c : Char} (h : digitValue? base c = none) (rest : List Char) :
    spanDigits base (c :: rest) = ([], c :: rest) := by
  rw [spanDigits, h]

/-! ### Padded numerals -/

/-- The values of the last `width` digits of `n` in base sixteen, leading zeros included. -/
def paddedDigits : (width n : Nat) → List Nat
  | 0, _ => []
  | width + 1, n => paddedDigits width (n / 16) ++ [n % 16]

lemma hexPadded_eq (width n : Nat) : hexPadded width n = (paddedDigits width n).map digit := by
  induction width generalizing n with
  | zero => rfl
  | succ width ih => rw [hexPadded, ih, paddedDigits, List.map_append, List.map_singleton]

lemma length_paddedDigits (width n : Nat) : (paddedDigits width n).length = width := by
  induction width generalizing n with
  | zero => rfl
  | succ width ih => rw [paddedDigits, List.length_append, ih, List.length_singleton]

lemma lt_of_mem_paddedDigits (hd : d ∈ paddedDigits width n) : d < 16 := by
  induction width generalizing n with
  | zero => cases hd
  | succ width ih =>
    rcases List.mem_append.mp hd with hd | hd
    · exact ih hd
    · rw [List.mem_singleton.mp hd]
      exact Nat.mod_lt n (by omega)

lemma ofDigits_paddedDigits (width n : Nat) : ofDigits 16 (paddedDigits width n) = n % 16 ^ width := by
  induction width generalizing n with
  | zero => rw [Nat.pow_zero, Nat.mod_one]; rfl
  | succ width ih =>
    rw [paddedDigits, ofDigits_concat, ih, Nat.pow_succ, Nat.mul_comm (16 ^ width), Nat.mod_mul]
    omega

/-- The digits in front count as many times more as the digits behind them have values. -/
lemma ofDigits_append (base : Nat) (high low : List Nat) :
    ofDigits base (high ++ low) = ofDigits base high * base ^ low.length + ofDigits base low := by
  induction low using List.reverseRecOn with
  | nil => rw [List.append_nil, List.length_nil, Nat.pow_zero, Nat.mul_one]; rfl
  | append_singleton low d ih =>
    rw [← List.append_assoc, ofDigits_concat, ofDigits_concat, ih, List.length_append,
      List.length_singleton, Nat.pow_succ, Nat.add_mul, Nat.mul_assoc, Nat.add_assoc]

/-- A text is read as one number only. -/
lemma Hexadecimal.unique {width' m : Nat} (hm : Hexadecimal width m text)
    (hn : Hexadecimal width' n text) : m = n := by
  obtain ⟨ds, hds, rfl⟩ := hm.reads
  obtain ⟨ds', hds', rfl⟩ := hn.reads
  rw [hds] at hds'
  rw [(Prod.mk.inj hds').1]

lemma hexadecimal_map_digit (hds : ∀ d ∈ ds, d < 16) :
    Hexadecimal ds.length (ofDigits 16 ds) (ds.map digit) where
  length := List.length_map digit
  lower := by
    have hlower : ∀ d, d < 16 →
        '0' ≤ digit d ∧ digit d ≤ '9' ∨ 'a' ≤ digit d ∧ digit d ≤ 'f' := by decide
    intro c hc
    obtain ⟨d, hd, rfl⟩ := List.mem_map.mp hc
    exact hlower d (hds d hd)
  reads := by
    have hend : spanDigits 16 [] = ([], []) := rfl
    have hspan := spanDigits_map_digit (Nat.le_refl 16) hds hend
    rw [List.append_nil] at hspan
    exact ⟨ds, hspan, rfl⟩

end TracePipeline.Text
