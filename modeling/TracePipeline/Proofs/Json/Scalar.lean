import Mathlib.Data.Option.Basic
import TracePipeline.Json.Read
import TracePipeline.Proofs.Text.Numeral

/-!
# Reading whole numbers and texts back

A whole number is read back in front of whatever may follow it in a JSON text. A text is read back
after its opening quote, since each of its characters is written as it is or by an escape that
stands for it.
-/

namespace TracePipeline.Json

/-- What may follow a value: nothing, or a sign that ends it. -/
def Ends (rest : List Char) : Prop := ∀ c ∈ rest.head?, c = ',' ∨ c = ']' ∨ c = '}'

variable {n : Nat} {rest : List Char} {fuel : Nat} {c : Char}

lemma Ends.cases (h : Ends rest) :
    rest = [] ∨ ∃ tail, rest = ',' :: tail ∨ rest = ']' :: tail ∨ rest = '}' :: tail := by
  cases rest with
  | nil => exact .inl rfl
  | cons c tail =>
    right
    refine ⟨tail, ?_⟩
    rcases h c rfl with rfl | rfl | rfl <;> simp

lemma ends_cons (h : c = ',' ∨ c = ']' ∨ c = '}') (tail : List Char) : Ends (c :: tail) := by
  intro d hd
  cases hd
  exact h

lemma Ends.noDigit (h : Ends rest) : Text.spanDigits 10 rest = ([], rest) := by
  obtain rfl | ⟨tail, rfl | rfl | rfl⟩ := h.cases
  · rfl
  all_goals exact Text.spanDigits_cons_of_none (by decide) tail

lemma whole?_decimal (n : Nat) (hrest : Text.spanDigits 10 rest = ([], rest)) :
    whole? (Text.decimal n ++ rest) = some (Text.digitsFrom 8 n, rest) := by
  have hspan : Text.spanDigits 10 (Text.decimal n ++ rest) = (Text.digitsFrom 8 n, rest) :=
    Text.spanDigits_numeralFrom (by decide) n hrest
  rw [whole?, hspan]
  split
  · rename_i hnil
    exact absurd (Prod.mk.inj hnil).1 (Text.digitsFrom_ne_nil 8 n)
  · rename_i hzero
    have hds := (Prod.mk.inj hzero).1
    have hn : n = 0 := Text.eq_zero_of_head?_digitsFrom (b := 8) (by rw [hds]; rfl)
    rw [hn, Text.digitsFrom] at hds
    simp at hds
  · rfl

lemma whole_ofInt (n : Int) : (Text.Decimal.ofInt n).whole = Text.digitsFrom 8 n.natAbs := by
  have hdigit : ∀ d, d < 10 → (Text.digit d).toNat - 48 = d := by decide
  rw [Text.Decimal.ofInt, Text.decimal, Text.numeralFrom_eq, List.map_map]
  conv_rhs => rw [← List.map_id (Text.digitsFrom 8 n.natAbs)]
  exact List.map_congr_left fun d hd => hdigit d (Text.lt_of_mem_digitsFrom hd)

lemma chars_ofInt (n : Int) : (Text.Decimal.ofInt n).chars ['+'] =
    (if n < 0 then ['-'] else []) ++ Text.decimal n.natAbs := by
  rw [Text.Decimal.chars, whole_ofInt, Text.Decimal.digitChars, Text.decimal, Text.numeralFrom_eq]
  simp [Text.Decimal.ofInt]

lemma number?_unsigned (hrest : Ends rest) :
    number? (Text.decimal n ++ rest) = some (⟨false, Text.digitsFrom 8 n, [], none⟩, rest) := by
  obtain ⟨d, ds, hd, hn⟩ := Text.exists_digit_cons 8 n
  have hsign : ∀ d, d < 10 → Text.digit d ≠ '-' := by decide
  have hwhole := whole?_decimal n hrest.noDigit
  rw [Text.decimal, hn] at hwhole ⊢
  rw [number?]
  · simp only [hwhole, Option.bind_eq_bind, Option.bind_some]
    obtain rfl | ⟨tail, rfl | rfl | rfl⟩ := hrest.cases <;> rfl
  · intro tail hminus
    exact hsign d hd (List.cons.inj hminus).1

lemma number?_negative (hrest : Ends rest) :
    number? ('-' :: Text.decimal n ++ rest) =
      some (⟨true, Text.digitsFrom 8 n, [], none⟩, rest) := by
  have hwhole := whole?_decimal n hrest.noDigit
  rw [List.cons_append, number?]
  simp only [hwhole, Option.bind_eq_bind, Option.bind_some]
  obtain rfl | ⟨tail, rfl | rfl | rfl⟩ := hrest.cases <;> rfl

/-- A whole number is read back. -/
lemma number?_ofInt (n : Int) (hrest : Ends rest) :
    number? ((Text.Decimal.ofInt n).chars ['+'] ++ rest) = some (.ofInt n, rest) := by
  have hparts : Text.Decimal.ofInt n = ⟨decide (n < 0), Text.digitsFrom 8 n.natAbs, [], none⟩ := by
    rw [← whole_ofInt]
    rfl
  rw [chars_ofInt, hparts]
  by_cases hn : n < 0
  · rw [if_pos hn, List.singleton_append, number?_negative hrest, decide_eq_true hn]
  · rw [if_neg hn, List.nil_append, number?_unsigned hrest, decide_eq_false hn]

/-- A character that starts a whole number. -/
def isNumeric (c : Char) : Bool := c == '-' || c.isDigit

lemma exists_numeric_cons (n : Int) :
    ∃ c text, (Text.Decimal.ofInt n).chars ['+'] = c :: text ∧ isNumeric c = true := by
  have hdigit : ∀ d, d < 10 → isNumeric (Text.digit d) = true := by decide
  obtain ⟨d, ds, hd, hds⟩ := Text.exists_digit_cons 8 n.natAbs
  rw [chars_ofInt, Text.decimal, hds]
  by_cases hn : n < 0
  · rw [if_pos hn]
    exact ⟨_, _, rfl, by decide⟩
  · rw [if_neg hn]
    exact ⟨_, _, rfl, hdigit d hd⟩

lemma ne_of_numeric {d : Char} (hc : isNumeric c = true) (hd : isNumeric d = false) : c ≠ d := by
  rintro rfl
  rw [hc] at hd
  cases hd

lemma hex4?_hexPadded (h : n < 65536) (rest : List Char) :
    hex4? (Text.hexPadded 4 n ++ rest) = some (n, rest) := by
  have hdigit : ∀ m, Text.digitValue? 16 (Text.digit (m % 16)) = some (m % 16) := fun m =>
    Text.digitValue?_digit (Nat.le_refl 16) (Nat.mod_lt m (by omega))
  have hvalue : ((n / 16 / 16 / 16 % 16 * 16 + n / 16 / 16 % 16) * 16 + n / 16 % 16) * 16 +
      n % 16 = n := by omega
  simp [Text.hexPadded, hex4?, hdigit, hvalue]

/-- A character is written as it is, or by an escape that stands for it. -/
lemma escaped_cases (c : Char) :
    (∃ body, escaped c = '\\' :: body ∧ ∀ text, escape? (body ++ text) = some (.char c, text)) ∨
      escaped c = [c] ∧ c ≠ '"' ∧ c ≠ '\\' ∧ ¬ c.toNat < 0x20 := by
  unfold escaped
  split
  case h_8 hquote hbackslash _ _ _ _ _ =>
    split
    · rename_i hcontrol
      refine .inl ⟨'u' :: Text.hexPadded 4 c.toNat, rfl, fun text => ?_⟩
      have hsurrogate : ¬ (0xD800 ≤ c.toNat ∧ c.toNat < 0xE000) := by omega
      have hhex := hex4?_hexPadded (n := c.toNat) (by omega) text
      rw [List.cons_append, escape?, hhex]
      simp only [Option.map_some, if_neg hsurrogate, Char.ofNat_toNat]
    · exact .inr ⟨rfl, hquote, hbackslash, ‹_›⟩
  all_goals exact .inl ⟨_, rfl, fun text => rfl⟩

lemma units?_escaped (c : Char) (fuel : Nat) (text : List Char) :
    units? (fuel + 1) (escaped c ++ text) =
      (units? fuel text).map fun (us, tail) => (.char c :: us, tail) := by
  rcases escaped_cases c with ⟨body, hbody, hescape⟩ | ⟨hself, hquote, hbackslash, hcontrol⟩
  · rw [hbody, List.cons_append, units?, if_neg (by decide), if_pos rfl, hescape]
    exact (Option.map_eq_bind ..).symm
  · rw [hself, List.singleton_append, units?, if_neg hquote, if_neg hbackslash, if_neg hcontrol]
    exact (Option.map_eq_bind ..).symm

/-- The parts of a written text are its characters, given fuel for each of them. -/
lemma units?_written (s rest : List Char) (hfuel : s.length < fuel) :
    units? fuel (s.flatMap escaped ++ '"' :: rest) = some (s.map .char, rest) := by
  induction s generalizing fuel with
  | nil =>
    obtain ⟨fuel, rfl⟩ : ∃ n, fuel = n + 1 := ⟨fuel - 1, by omega⟩
    rw [List.flatMap_nil, List.nil_append, units?, if_pos rfl]
    rfl
  | cons c s ih =>
    rw [List.length_cons] at hfuel
    obtain ⟨fuel, rfl⟩ : ∃ n, fuel = n + 1 := ⟨fuel - 1, by omega⟩
    rw [List.flatMap_cons, List.append_assoc, units?_escaped, ih (by omega)]
    rfl

lemma joined?_chars (s : List Char) : joined? (s.map .char) = some s := by
  induction s with
  | nil => rfl
  | cons c s ih => rw [List.map_cons, joined?, ih, Option.map_some]

lemma length_le_flatMap_escaped (s : List Char) : s.length ≤ (s.flatMap escaped).length := by
  induction s with
  | nil => exact Nat.le_refl 0
  | cons c s ih =>
    have hpos : 0 < (escaped c).length := by
      rcases escaped_cases c with ⟨body, hbody, -⟩ | ⟨hself, -⟩
      · rw [hbody]
        exact Nat.succ_pos _
      · rw [hself]
        exact Nat.one_pos
    rw [List.flatMap_cons, List.length_append, List.length_cons]
    omega

/-- A written text is read back after its opening quote. -/
lemma string?_written (s : String) (rest : List Char) :
    string? (s.toList.flatMap escaped ++ '"' :: rest) = some (some s, rest) := by
  have hlength := length_le_flatMap_escaped s.toList
  have hfuel : s.toList.length < (s.toList.flatMap escaped ++ '"' :: rest).length + 1 := by
    rw [List.length_append]
    omega
  rw [string?, units?_written _ _ hfuel]
  simp only [Option.map_some, joined?_chars, String.ofList_toList]

end TracePipeline.Json
