import TracePipeline.Binary64.Read
import TracePipeline.Binary64.Text
import TracePipeline.Json.Basic

/-!
# Numbers in JSON

The number that stands for a floating-point number, and the floating-point number that a written
number stands for.
-/

namespace TracePipeline

namespace Json

/-- In JSON a number has an exponent below `10 ^ (-5)` and from `10 ^ 16` on, and its last digit is
even where two are equally near; what is not finite is `null`. -/
def double (x : Binary64) : Json :=
  let layout : Binary64.Layout := ⟨fun e => decide (-5 ≤ e ∧ e < 16), true, .toEven⟩
  if x.isFinite then number (x.toDecimal layout) else null

/-- How many digits are read one by one. A number halfway between two floating-point numbers has no
more, so what follows can only tell on which side of such a number the value lies. -/
def readDigits : Nat := 768

/-- A decimal with all the digits after those that are read one by one replaced by a single one. The
digits are those from the first that is not zero; zeros at the end of the fraction are left out, but
other digits count as they are written, whether they are zero or not. -/
def shortened (d : Text.Decimal) : Text.Decimal :=
  let fraction := (d.fraction.reverse.dropWhile (· == 0)).reverse
  let digits := (d.whole ++ fraction).dropWhile (· == 0)
  if digits.length ≤ readDigits then d
  else
    { d with
      whole := digits.take readDigits ++ [1]
      fraction := []
      exponent := some
        (d.exponent.getD 0 - fraction.length + (digits.length - (readDigits + 1) : Nat)) }

/-- The floating-point number that a written number is read as, unless that is too large. -/
def toDouble? (d : Text.Decimal) : Option Binary64 :=
  let x := Binary64.ofDecimal (shortened d)
  if x.isFinite then some x else none

end Json

end TracePipeline
