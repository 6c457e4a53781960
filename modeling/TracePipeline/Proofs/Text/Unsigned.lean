import Mathlib.Data.List.DropRight
import TracePipeline.Text.Blank
import TracePipeline.Text.Numeral

/-!
# Unsigned numbers between white space

A text that is trimmed and read is a number exactly if it has decimal digits, with or without a plus sign in
front of them, white space at its two ends and nothing else, and its number is below the limit.
-/

namespace TracePipeline.Text

/-- The number that decimal digits denote. -/
def denoted (digits : List Char) : Nat := ofDigits 10 (digits.map fun c => c.toNat - '0'.toNat)

/-- A text for an unsigned number: decimal digits after an optional plus sign, between white space. -/
inductive Unsigned (limit : Nat) : List Char → Nat → Prop where
  | intro (left sign digits right : List Char) :
      (∀ c ∈ left, isBlank c) → (∀ c ∈ right, isBlank c) → (sign = [] ∨ sign = ['+']) →
      digits ≠ [] → (∀ c ∈ digits, c.isDigit) → denoted digits < limit →
      Unsigned limit (left ++ (sign ++ digits) ++ right) (denoted digits)

variable {limit n : Nat} {text left right sign digits body : List Char} {c : Char} {ds : List Nat}

lemma Unsigned.lt (h : Unsigned limit text n) : n < limit := by
  cases h with
  | intro _ _ _ _ _ _ _ _ _ hlt => exact hlt

/-! ### Digits -/

lemma isDigit_iff (c : Char) : c.isDigit ↔ '0' ≤ c ∧ c ≤ '9' := by
  simp [Char.isDigit, Char.le_def]

/-- Letters are digits in larger bases only. -/
lemma digitValue?_ten (c : Char) :
    digitValue? 10 c = if c.isDigit then some (c.toNat - '0'.toNat) else none := by
  unfold digitValue?
  by_cases hdigit : '0' ≤ c ∧ c ≤ '9'
  · have hle : c.toNat ≤ '9'.toNat := hdigit.2
    rw [if_pos hdigit, if_pos ((isDigit_iff c).mpr hdigit)]
    apply Option.filter_some_pos
    rw [decide_eq_true_eq]
    exact Nat.lt_succ_of_le (Nat.sub_le_sub_right hle '0'.toNat)
  · rw [if_neg hdigit, if_neg (mt (isDigit_iff c).mp hdigit), Option.filter_eq_none_iff]
    intro value hvalue
    rw [decide_eq_true_eq]
    split at hvalue
    · rename_i hlower
      have hge : 97 ≤ c.toNat := hlower.1
      cases hvalue
      omega
    · split at hvalue
      · rename_i hupper
        have hge : 65 ≤ c.toNat := hupper.1
        cases hvalue
        omega
      · cases hvalue

lemma spanDigits_of_isDigit (h : ∀ c ∈ text, c.isDigit) :
    spanDigits 10 text = (text.map fun c => c.toNat - '0'.toNat, []) := by
  induction text with
  | nil => rfl
  | cons c text ih =>
    obtain ⟨hc, htext⟩ := List.forall_mem_cons.mp h
    rw [spanDigits, digitValue?_ten, if_pos hc, ih htext]
    rfl

/-- A text that is read to its end has digits only. -/
lemma isDigit_of_spanDigits (h : spanDigits 10 text = (ds, [])) : ∀ c ∈ text, c.isDigit := by
  induction text generalizing ds with
  | nil => exact List.forall_mem_nil _
  | cons c text ih =>
    rw [spanDigits, digitValue?_ten] at h
    split at h
    · cases h
    · rename_i d hd
      have htext : spanDigits 10 text = ((spanDigits 10 text).1, []) := Prod.ext rfl (Prod.mk.inj h).2
      have hc : c.isDigit := by
        by_contra hc
        rw [if_neg hc] at hd
        cases hd
      exact List.forall_mem_cons.mpr ⟨hc, ih htext⟩

/-- Reads a number without a sign in front. -/
def digitsBelow? (limit : Nat) (text : List Char) : Option Nat :=
  match spanDigits 10 text with
  | (d :: ds, []) => some (ofDigits 10 (d :: ds)) |>.filter (· < limit)
  | _ => none

lemma digitsBelow?_eq_some_iff : digitsBelow? limit text = some n ↔
    text ≠ [] ∧ (∀ c ∈ text, c.isDigit) ∧ denoted text = n ∧ n < limit := by
  constructor
  · intro h
    unfold digitsBelow? at h
    split at h
    · rename_i d ds hspan
      obtain ⟨hn, hlt⟩ := Option.filter_eq_some_iff.mp h
      have hdigits := isDigit_of_spanDigits hspan
      rw [spanDigits_of_isDigit hdigits] at hspan
      have hmap := (Prod.mk.inj hspan).1
      refine ⟨?_, hdigits, ?_, of_decide_eq_true hlt⟩
      · rintro rfl
        cases hmap
      · unfold denoted
        rw [hmap]
        exact Option.some.inj hn
    · cases h
  · rintro ⟨hne, hdigits, rfl, hlt⟩
    obtain ⟨c, text, rfl⟩ := List.exists_cons_of_ne_nil hne
    unfold digitsBelow?
    rw [spanDigits_of_isDigit hdigits]
    exact Option.filter_some_pos (decide_eq_true hlt)

lemma readUnsigned?_of_ne_plus (h : ∀ body, text ≠ '+' :: body) :
    readUnsigned? limit text = digitsBelow? limit text := by
  unfold readUnsigned?
  split
  · exact absurd rfl (h _)
  · rfl

lemma readUnsigned?_eq_some_iff : readUnsigned? limit text = some n ↔
    ∃ sign digits, text = sign ++ digits ∧ (sign = [] ∨ sign = ['+']) ∧ digits ≠ [] ∧
      (∀ c ∈ digits, c.isDigit) ∧ denoted digits = n ∧ n < limit := by
  by_cases hplus : ∃ body, text = '+' :: body
  · obtain ⟨body, rfl⟩ := hplus
    have hread : readUnsigned? limit ('+' :: body) = digitsBelow? limit body := rfl
    rw [hread, digitsBelow?_eq_some_iff]
    constructor
    · intro h
      exact ⟨['+'], body, rfl, .inr rfl, h⟩
    · rintro ⟨sign, digits, htext, rfl | rfl, h⟩
      · -- the sign is no digit
        have hsign := h.2.1 '+' (by rw [← List.nil_append digits, ← htext]; exact List.mem_cons_self)
        exact absurd hsign (by decide)
      · cases htext
        exact h
  · rw [readUnsigned?_of_ne_plus (not_exists.mp hplus), digitsBelow?_eq_some_iff]
    constructor
    · intro h
      exact ⟨[], text, rfl, .inl rfl, h⟩
    · rintro ⟨sign, digits, rfl, rfl | rfl, h⟩
      · exact h
      · exact absurd ⟨digits, rfl⟩ hplus

/-! ### White space -/

lemma not_isBlank_of_isDigit (h : c.isDigit) : isBlank c = false := by
  have hge : 48 ≤ c.toNat := ((isDigit_iff c).mp h).1
  have hle : c.toNat ≤ 57 := ((isDigit_iff c).mp h).2
  simp [isBlank]
  omega

/-- What trimming takes away is white space. -/
lemma exists_trimmed (text : List Char) : ∃ left right, (∀ c ∈ left, isBlank c) ∧
    (∀ c ∈ right, isBlank c) ∧ text = left ++ trimmed text ++ right := by
  refine ⟨text.takeWhile isBlank, (text.dropWhile isBlank).rtakeWhile isBlank, ?_, ?_, ?_⟩
  · intro c hc
    exact List.mem_takeWhile_imp hc
  · intro c hc
    exact List.mem_rtakeWhile_imp hc
  · have htrimmed : trimmed text = (text.dropWhile isBlank).rdropWhile isBlank := rfl
    rw [htrimmed, List.append_assoc, List.rdropWhile_append_rtakeWhile,
      List.takeWhile_append_dropWhile]

lemma dropWhile_isBlank (hleft : ∀ c ∈ left, isBlank c) (hne : body ≠ [])
    (hbody : ∀ c ∈ body, isBlank c = false) (right : List Char) :
    (left ++ (body ++ right)).dropWhile isBlank = body ++ right := by
  obtain ⟨c, body, rfl⟩ := List.exists_cons_of_ne_nil hne
  rw [List.dropWhile_append_of_pos hleft, List.cons_append]
  apply List.dropWhile_cons_of_neg
  rw [hbody c List.mem_cons_self]
  exact Bool.false_ne_true

lemma trimmed_append (hleft : ∀ c ∈ left, isBlank c) (hright : ∀ c ∈ right, isBlank c)
    (hne : body ≠ []) (hbody : ∀ c ∈ body, isBlank c = false) :
    trimmed (left ++ body ++ right) = body := by
  have hback : (right.reverse ++ body.reverse).dropWhile isBlank = body.reverse := by
    have hends : ∀ c ∈ right.reverse, isBlank c := fun c hc => hright c (List.mem_reverse.mp hc)
    have hmiddle : ∀ c ∈ body.reverse, isBlank c = false :=
      fun c hc => hbody c (List.mem_reverse.mp hc)
    have h := dropWhile_isBlank hends (mt List.reverse_eq_nil_iff.mp hne) hmiddle []
    rw [List.append_nil] at h
    exact h
  unfold trimmed
  rw [List.append_assoc, dropWhile_isBlank hleft hne hbody, List.reverse_append, hback,
    List.reverse_reverse]

/-- Trimming and reading accept the texts for unsigned numbers and no others. -/
lemma readUnsigned?_trimmed_iff :
    readUnsigned? limit (trimmed text) = some n ↔ Unsigned limit text n := by
  constructor
  · intro h
    obtain ⟨sign, digits, htext, hsign, hne, hdigits, rfl, hlt⟩ := readUnsigned?_eq_some_iff.mp h
    obtain ⟨left, right, hleft, hright, hall⟩ := exists_trimmed text
    rw [hall, htext]
    exact .intro left sign digits right hleft hright hsign hne hdigits hlt
  · rintro ⟨left, sign, digits, right, hleft, hright, hsign, hne, hdigits, hlt⟩
    have hbody : ∀ c ∈ sign ++ digits, isBlank c = false := by
      intro c hc
      rcases List.mem_append.mp hc with hc | hc
      · rcases hsign with rfl | rfl
        · cases hc
        · rw [List.mem_singleton.mp hc]
          decide
      · exact not_isBlank_of_isDigit (hdigits c hc)
    rw [trimmed_append hleft hright (List.append_ne_nil_of_right_ne_nil sign hne) hbody]
    exact readUnsigned?_eq_some_iff.mpr ⟨sign, digits, rfl, hsign, hne, hdigits, rfl, hlt⟩

example : readUnsigned? UInt64.size (trimmed [' ', '+', '0', '7', '\n']) = some 7 := by decide

end TracePipeline.Text
