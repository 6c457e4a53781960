/-!
# Binary floating point with 64 bits

A number is its bit pattern. A finite number is a whole count of the smallest positive one,
`2 ^ (-1074)`, so that order and products are exact statements on integers, and the only rounding is
the one function `nearest`.
-/

namespace TracePipeline

/-- A number in the interchange format `binary64`, by its bits. -/
structure Binary64 where
  bits : UInt64
  deriving DecidableEq

namespace Binary64

/-- How many of the smallest positive number make one. -/
def one : Nat := 1 <<< 1074

/-- The weight of the sign. -/
def signWeight : Nat := 0x8000000000000000

/-- The weight of the exponent, which is also that of a significand's leading bit. -/
def exponentWeight : Nat := 0x10000000000000

def isNegative (x : Binary64) : Bool := decide (signWeight ≤ x.bits.toNat)

/-- The bits below the sign. -/
def magnitude (x : Binary64) : Nat := x.bits.toNat % signWeight

/-- The magnitude of infinity; those above are not numbers. -/
def infinite : Nat := 0x7FF * exponentWeight

def isNaN (x : Binary64) : Bool := decide (infinite < x.magnitude)

def isInfinite (x : Binary64) : Bool := x.magnitude == infinite

def isFinite (x : Binary64) : Bool := decide (x.magnitude < infinite)

/-- The biased exponent. -/
def exponent (x : Binary64) : Nat := x.magnitude / exponentWeight

/-- The significand, with its leading bit unless the number is subnormal. -/
def significand (x : Binary64) : Nat :=
  x.magnitude % exponentWeight + if x.exponent = 0 then 0 else exponentWeight

/-- The power of two by which the significand is scaled, in units of the smallest number. -/
def scale (x : Binary64) : Nat := x.exponent - 1

/-- The distance from zero, in units of the smallest number; infinity comes after all the rest. -/
def units (x : Binary64) : Nat := x.significand <<< x.scale

/-- The value with its sign, in units of the smallest number. -/
def signedUnits (x : Binary64) : Int :=
  if x.isNegative then -(x.units : Int) else x.units

/-- Nothing is below, above or equal to what is not a number; the two zeros are equal. -/
def lt (x y : Binary64) : Bool :=
  !x.isNaN && !y.isNaN && decide (x.signedUnits < y.signedUnits)

def le (x y : Binary64) : Bool :=
  !x.isNaN && !y.isNaN && decide (x.signedUnits ≤ y.signedUnits)

/-- Numerical equality. -/
def eqv (x y : Binary64) : Bool :=
  !x.isNaN && !y.isNaN && decide (x.signedUnits = y.signedUnits)

/-- The whole number nearest to `num / den`, an even one in the middle. -/
def divEven (num den : Nat) : Nat :=
  let q := num / den
  let r := num % den
  if 2 * r < den ∨ (2 * r = den ∧ q % 2 = 0) then q else q + 1

/-- How far a value of `num / den` units has to be shifted to leave at most 53 bits. -/
def shiftFor (num den : Nat) : Nat := (num / den).log2 - 52

/-- The magnitude nearest to `num / den` units. The significand is added to the exponent field, so
that one that rounds up to 53 zeros after a one raises the exponent. -/
def nearestMagnitude (num den : Nat) : Nat :=
  let s := shiftFor num den
  min infinite (s * exponentWeight + divEven num (den <<< s))

/-- The number nearest to `num / den` units, with the given sign. -/
def nearest (negative : Bool) (num den : Nat) : Binary64 :=
  ⟨UInt64.ofNat ((if negative then signWeight else 0) + nearestMagnitude num den)⟩

/-- The number nearest to a natural number. -/
def ofNat (n : Nat) : Binary64 := nearest false (n * one) 1

/-- Not a number. -/
def nan : Binary64 := ⟨0x7FF8000000000000⟩

/-- Infinity with a sign. -/
def infinity (negative : Bool) : Binary64 :=
  ⟨if negative then 0xFFF0000000000000 else 0x7FF0000000000000⟩

/-- The product of finite numbers, rounded to nearest. -/
def mul (x y : Binary64) : Binary64 :=
  nearest (x.isNegative != y.isNegative) (x.units * y.units) one

end Binary64

end TracePipeline
