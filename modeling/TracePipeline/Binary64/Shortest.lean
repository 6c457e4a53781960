import TracePipeline.Binary64.Basic
import TracePipeline.Text.Numeral

/-!
# The shortest decimal that reads back

Among the decimals that round to a given number, those with the fewest digits, and of these the
nearest. On every grid of decimals only the two neighbours of the number have to be tried: if any
point of the grid rounds to the number, one of the two does.
-/

namespace TracePipeline.Binary64

/-- What is taken in the middle between two neighbours. -/
inductive Tie where
  | up
  | toEven
  deriving DecidableEq

/-- A positive decimal `0.d₁d₂… × 10 ^ point`, by its digits. -/
structure Digits where
  digits : List Nat
  point : Int

/-- A positive rational interval around a value, all three with one denominator. -/
structure Rounding where
  low : Nat
  value : Nat
  high : Nat
  den : Nat
  /-- Whether the two ends belong to it. -/
  closed : Bool

/-- The reals that round to a positive finite number. Below a power of two the gap is half as
wide, except at the bottom of the range. -/
def rounding (x : Binary64) : Rounding :=
  let unit := 1 <<< x.scale
  let value := 4 * x.units
  let below := if x.significand = exponentWeight ∧ x.exponent > 1 then unit else 2 * unit
  { low := value - below, value, high := value + 2 * unit, den := 4 * one
    closed := x.significand % 2 == 0 }

namespace Rounding

/-- Whether `n / den` lies in the interval. -/
def holds (r : Rounding) (n : Nat) : Bool :=
  if r.closed then decide (r.low ≤ n ∧ n ≤ r.high) else decide (r.low < n ∧ n < r.high)

/-- Multiplies everything by `10 ^ k`. -/
def scaled (r : Rounding) (k : Int) : Rounding :=
  if k < 0 then { r with den := r.den * Nat.pow 10 k.natAbs }
  else
    let f := Nat.pow 10 k.natAbs
    { r with low := r.low * f, value := r.value * f, high := r.high * f }

/-- Whether the value is rounded to the whole number below it. -/
def goesDown (r : Rounding) (tie : Tie) : Bool :=
  let rest := 2 * (r.value % r.den)
  decide (rest < r.den) || (rest == r.den && tie == .toEven && r.value / r.den % 2 == 0)

/-- The neighbour of the value among the whole numbers that lies in the interval; of two, the one
that the value is rounded to. -/
def whole? (r : Rounding) (tie : Tie) : Option Nat :=
  let down := r.value / r.den
  let up := down + 1
  match r.holds (down * r.den), r.holds (up * r.den) with
  | false, false => none
  | true, false => some down
  | false, true => some up
  | true, true => some (if r.goesDown tie then down else up)

/-- Tries `fuel` grids, from the one with `digits` digits on, for a value below `10 ^ point`. -/
def search (r : Rounding) (tie : Tie) (point : Int) (digits : Nat) :
    (fuel : Nat) → Option (Nat × Nat)
  | 0 => none
  | fuel + 1 =>
    match (r.scaled (digits - point)).whole? tie with
    | some n => some (n, digits)
    | none => search r tie point (digits + 1) fuel

end Rounding

/-- The least `p` with `num / den < 10 ^ p`, from an estimate that is at most one too low. -/
def pointOf (num den : Nat) : Int :=
  let bits : Int := (num.log2 : Int) - (den.log2 : Int) - 1
  let guess := Int.fdiv (bits * 30103) 100000
  let fits (p : Int) : Bool :=
    if p < 0 then decide (num * Nat.pow 10 p.natAbs < den)
    else decide (num < den * Nat.pow 10 p.natAbs)
  if fits guess then guess
  else if fits (guess + 1) then guess + 1
  else guess + 2

/-- The shortest decimal that rounds to the given positive finite number. -/
def shortest (tie : Tie) (x : Binary64) : Digits :=
  let r := x.rounding
  let point := pointOf r.value r.den
  match r.search tie point 1 17 with
  | some (n, digits) =>
    let text := (Text.decimal n).map fun c => c.toNat - 48
    { digits := (text.reverse.dropWhile (· == 0)).reverse
      point := point + (text.length - digits : Int) }
  | none => { digits := [], point }

end TracePipeline.Binary64
