import TracePipeline.Duration

/-!
# Warning throttle

Lets one warning through per interval and counts those it holds back, so that the next one that
passes can report them. Times are microseconds; zero stands for "never", and a warning at time zero
counts as one at time one.
-/

namespace TracePipeline

/-- The difference of two times, zero if the second is the later one. -/
def since (now earlier : UInt64) : UInt64 := if earlier ≤ now then now - earlier else 0

structure Throttle where
  interval : UInt64
  last : UInt64
  suppressed : UInt64
  deriving DecidableEq

namespace Throttle

def new (interval : Duration) : Throttle := ⟨interval.micros, 0, 0⟩

/-- One warning a minute. -/
def standard : Throttle := new (.ofSeconds 60)

/-- Whether a warning at the given time is too early. -/
def holdsBack (t : Throttle) (now : UInt64) : Bool :=
  t.last != 0 && decide (since now t.last < t.interval)

/-- A warning at the given time: the number of warnings held back before it, if it passes. -/
def check (t : Throttle) (now : UInt64) : Option UInt64 × Throttle :=
  if t.holdsBack now then (none, { t with suppressed := t.suppressed + 1 })
  else (some t.suppressed, { t with last := max now 1, suppressed := 0 })

end Throttle

end TracePipeline
