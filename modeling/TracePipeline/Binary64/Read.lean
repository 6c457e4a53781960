import TracePipeline.Binary64.Basic
import TracePipeline.Text.Decimal

/-!
# Reading numbers

The grammar of a decimal number: digits with an optional point among or around them, at least one
digit in all, and an optional exponent. A text is read as the nearest number, or as one of the words
for infinity and for what is not a number, in letters of either case.
-/

namespace TracePipeline.Binary64

/-- The decimal that a whole text is, apart from its sign. -/
def readDecimal? (negative : Bool) (text : List Char) : Option Text.Decimal :=
  let (whole, rest) := Text.spanDigits 10 text
  let (fraction, rest) := match rest with
    | '.' :: more => Text.spanDigits 10 more
    | other => ([], other)
  if whole.isEmpty && fraction.isEmpty then none
  else match rest with
    | [] => some ⟨negative, whole, fraction, none⟩
    | c :: more =>
      if c = 'e' ∨ c = 'E' then
        match Text.Decimal.readExponent? more with
        | some (e, []) => some ⟨negative, whole, fraction, some e⟩
        | _ => none
      else none

/-- The number nearest to a decimal. An exponent so far out that the answer is zero or infinity is
not carried out. -/
def ofDecimal (d : Text.Decimal) : Binary64 :=
  let digits := d.whole ++ d.fraction
  let m := Text.ofDigits 10 digits
  let e := d.exponent.getD 0 - d.fraction.length
  if m = 0 ∨ e + digits.length < -400 then nearest d.negative 0 1
  else if 400 < e then infinity d.negative
  else if e < 0 then nearest d.negative (m * one) (Nat.pow 10 e.natAbs)
  else nearest d.negative (m * Nat.pow 10 e.natAbs * one) 1

/-- A letter in lower case, of the first 128 characters only. -/
def lower (c : Char) : Char := if 'A' ≤ c ∧ c ≤ 'Z' then Char.ofNat (c.toNat + 32) else c

/-- The number that a whole text denotes. -/
def read? (text : List Char) : Option Binary64 :=
  let (negative, body) := match text with
    | '-' :: rest => (true, rest)
    | '+' :: rest => (false, rest)
    | other => (false, other)
  let word := String.ofList (body.map lower)
  if word = "inf" ∨ word = "infinity" then some (infinity negative)
  else if word = "nan" then some (if negative then ⟨0xFFF8000000000000⟩ else nan)
  else (readDecimal? negative body).map ofDecimal

end TracePipeline.Binary64
