import TracePipeline.Text.Numeral

/-!
# Lengths of time

A length of time is a number of nanoseconds, of less than `2 ^ 64` seconds. Where a component
compares times it counts microseconds or milliseconds in 64 bits, and higher bits are lost. A clock
shows less than `2 ^ 63` seconds, so that it may not reach the end of a length of time.
-/

namespace TracePipeline

structure Duration where
  nanos : Nat
  inRange : nanos < 18446744073709551616 * 1000000000 := by decide
  deriving DecidableEq

namespace Duration

/-- The nanoseconds in a microsecond. -/
def micro : Nat := 1000

/-- The nanoseconds in a millisecond. -/
def milli : Nat := 1000000

/-- The nanoseconds in a second. -/
def second : Nat := 1000000000

/-- Whole seconds and the nanoseconds beyond them. -/
def ofParts (seconds : UInt64) (nanos : Nat) (h : nanos < second) : Duration :=
  ⟨seconds.toNat * second + nanos, by have := seconds.toNat_lt; unfold second at *; omega⟩

def ofMillis (n : UInt64) : Duration :=
  ⟨n.toNat * milli, by have := n.toNat_lt; unfold milli; omega⟩

def ofSeconds (n : UInt64) : Duration :=
  ⟨n.toNat * second, by have := n.toNat_lt; unfold second; omega⟩

/-- The microseconds, as 64 bits hold them. -/
def micros (d : Duration) : UInt64 := UInt64.ofNat (d.nanos / micro)

/-- The milliseconds, as 64 bits hold them. -/
def millis (d : Duration) : UInt64 := UInt64.ofNat (d.nanos / milli)

/-- What a clock may show is less than this. -/
def clockRange : Nat := 9223372036854775808 * second

/-- What the clock shows when a length of time is over that begins `now`, if it can show that. -/
def deadline? (d : Duration) (now : Nat) : Option Nat :=
  if now + d.nanos < clockRange then some (now + d.nanos) else none

/-- The last of the times `start`, `start + period`, `start + 2 * period` and so on up to `now`. -/
def lastTick (start period now : Nat) : Nat :=
  if period = 0 then now else start + (now - start) / period * period

/-- Digits after a point, without the zeros at their end; nothing if all are zeros. -/
def fractionText (width n : Nat) : List Char :=
  let digits := (Text.zeroFilled width (Text.decimal n)).reverse.dropWhile (· == '0')
  if digits.isEmpty then [] else '.' :: digits.reverse

/-- A number of units with a fraction; a unit has `10 ^ width` nanoseconds. -/
def chars (n unit width : Nat) : List Char :=
  Text.decimal (n / unit) ++ fractionText width (n % unit)

/-- A length of time in the largest unit that gives at least one, down to nanoseconds. -/
def text (d : Duration) : String :=
  let n := d.nanos
  if second ≤ n then String.ofList (chars n second 9) ++ "s"
  else if milli ≤ n then String.ofList (chars n milli 6) ++ "ms"
  else if micro ≤ n then String.ofList (chars n micro 3) ++ "µs"
  else Text.showNat n ++ "ns"

end Duration

end TracePipeline
