import TracePipeline.Assembly

/-!
# Sweep timer

Sweeps an assembly over and over, an interval after it was started and after each sweep, until it is
stopped or a sweep breaks down. Times are clock readings in nanoseconds.
-/

namespace TracePipeline

inductive SweepTimer where
  | stopped
  /-- The next sweep is due at a time. -/
  | running (interval : Duration) (due : Nat)
  | brokeDown

namespace SweepTimer

def start (interval : Duration) (now : Nat) : SweepTimer := running interval (now + interval.nanos)

/-- The time from one sweep to the next: the interval, and a microsecond that a sweep takes. -/
def period (interval : Duration) : Nat := interval.nanos + Duration.micro

/-- When the next sweep is due. -/
def due? : SweepTimer → Option Nat
  | running _ due => some due
  | _ => none

/-- A sweep. -/
def sweep (interval : Duration) (a : Assembly) (time : Nat) : SweepTimer × Assembly :=
  let (a, ending) := a.sweep (UInt64.ofNat (time / Duration.micro))
  (match ending with
    | .returned _ => running interval (time + period interval)
    | _ => brokeDown, a)

/-- Time passes up to `time`, and no record comes meanwhile. Of the sweeps that are due there are the
first, which finds the stale spans, and the last, which forgets what has become old since; those
between them find nothing that these two do not find. -/
def advance (t : SweepTimer) (a : Assembly) (now time : Nat) : SweepTimer × Assembly :=
  match t with
  | running interval due =>
    if time < due then (t, a.wait (time - now))
    else
      match sweep interval (a.wait (due - now)) due with
      | (running _ next, a) =>
        if time < next then (running interval next, a.wait (time - due))
        else
          let last := Duration.lastTick due (period interval) time
          let (t, a) := sweep interval (a.wait (last - due)) last
          (t, a.wait (time - last))
      | (broken, a) => (broken, a.wait (time - due))
  | t => (t, a.wait (time - now))

/-- What stopping the timer reports: that a sweep broke down, if one did. -/
def stop : SweepTimer → List Event
  | brokeDown => [.sweepsBrokeDown]
  | _ => []

end SweepTimer

end TracePipeline
