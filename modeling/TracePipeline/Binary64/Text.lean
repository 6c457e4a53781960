import TracePipeline.Binary64.Shortest
import TracePipeline.Text.Decimal

/-!
# Written numbers

Two ways to write a number, both with the digits of its shortest decimal: plainly, without an
exponent; and as a literal, whose whole numbers end in `.0` and whose very large and very small ones
have an exponent.
-/

namespace TracePipeline.Binary64

/-- What a way of writing decides. -/
structure Layout where
  /-- The decimal exponents that are written without an exponent part. -/
  positional : Int → Bool
  /-- Whether a whole number written without an exponent ends in `.0`. -/
  pointZero : Bool
  tie : Tie

/-- A decimal without an exponent part. -/
def positional (pointZero negative : Bool) (d : Digits) : Text.Decimal :=
  let places := d.point.natAbs
  if d.point ≤ 0 then ⟨negative, [0], List.replicate places 0 ++ d.digits, none⟩
  else if d.digits.length ≤ places then
    ⟨negative, d.digits ++ List.replicate (places - d.digits.length) 0,
      if pointZero then [0] else [], none⟩
  else ⟨negative, d.digits.take places, d.digits.drop places, none⟩

/-- A decimal with one digit before the point, and an exponent part. -/
def scientific (negative : Bool) (d : Digits) : Text.Decimal :=
  ⟨negative, d.digits.take 1, d.digits.drop 1, some (d.point - 1)⟩

/-- A finite number as a decimal. -/
def toDecimal (l : Layout) (x : Binary64) : Text.Decimal :=
  if x.magnitude = 0 then ⟨x.isNegative, [0], if l.pointZero then [0] else [], none⟩
  else
    let d := x.shortest l.tie
    if l.positional (d.point - 1) then positional l.pointZero x.isNegative d
    else scientific x.isNegative d

/-- A number, or one of the words `NaN`, `inf` and `-inf`. -/
def textWith (l : Layout) (x : Binary64) : String :=
  if x.isNaN then "NaN"
  else if x.isInfinite then (if x.isNegative then "-inf" else "inf")
  else String.ofList ((x.toDecimal l).chars [])

/-- Written plainly there is never an exponent, and a whole number has no point. -/
def plain (x : Binary64) : String := textWith ⟨fun _ => true, false, .up⟩ x

/-- A literal has an exponent below `10 ^ (-4)` and from `10 ^ 16` on. -/
def literal (x : Binary64) : String := textWith ⟨fun e => decide (-4 ≤ e ∧ e < 16), true, .up⟩ x

end TracePipeline.Binary64
