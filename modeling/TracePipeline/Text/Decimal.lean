import TracePipeline.Text.Numeral

/-!
# Written decimals

A decimal number digit by digit, as it stands in a text: its sign, the digits before and after the
point, and its exponent.
-/

namespace TracePipeline.Text

structure Decimal where
  negative : Bool
  whole : List Nat
  /-- Without digits there is no point. -/
  fraction : List Nat
  exponent : Option Int
  deriving DecidableEq

namespace Decimal

def digitChars (digits : List Nat) : List Char := digits.map digit

/-- The text of a decimal. `plus` stands before an exponent that is not negative. -/
def chars (plus : List Char) (d : Decimal) : List Char :=
  (if d.negative then ['-'] else []) ++ digitChars d.whole ++
    (if d.fraction.isEmpty then [] else '.' :: digitChars d.fraction) ++
    match d.exponent with
    | none => []
    | some e => 'e' :: (if e < 0 then [] else plus) ++ integer e

/-- A whole number. -/
def ofInt (n : Int) : Decimal :=
  ⟨decide (n < 0), (decimal n.natAbs).map fun c => c.toNat - 48, [], none⟩

/-- An exponent part: a sign, which may be absent, and at least one digit. -/
def readExponent? (text : List Char) : Option (Int × List Char) :=
  let (negative, body) := match text with
    | '-' :: rest => (true, rest)
    | '+' :: rest => (false, rest)
    | other => (false, other)
  match spanDigits 10 body with
  | ([], _) => none
  | (ds, rest) =>
    let n : Int := ofDigits 10 ds
    some (if negative then -n else n, rest)

/-- The value of a whole number that is not written with a point or an exponent; zero has no
sign. -/
def toInt? (d : Decimal) : Option Int :=
  let n := ofDigits 10 d.whole
  if d.fraction.isEmpty && d.exponent.isNone && !(d.negative && n == 0) then
    some (if d.negative then -n else n)
  else none

end Decimal

end TracePipeline.Text
