import TracePipeline.Error
import TracePipeline.Flags
import TracePipeline.Binary64.Read

/-!
# Sampling by rate

A trace is sampled if its salted id, read as a signed number, has a magnitude whose last six decimal
digits are below the rate times a million. The decision depends on the trace id, the salt and the
rate alone.
-/

namespace TracePipeline

/-- Rates lie between zero and one. -/
def isRate (x : Binary64) : Bool := (Binary64.ofNat 0).le x && x.le (.ofNat 1)

structure Sampler where
  rate : Binary64
  salt : UInt64
  valid : isRate rate = true

namespace Sampler

/-- How many different answers a rate can tell apart. -/
def precision : Nat := 1000000

def new (rate : Binary64) (salt : UInt64) : Except ConfigError Sampler :=
  if h : isRate rate = true then .ok ⟨rate, salt, h⟩ else .error (.samplingRate rate)

/-- The sampler with another rate. -/
def setRate (s : Sampler) (rate : Binary64) : Except ConfigError Sampler := new rate s.salt

/-- The distance from zero of an id read as a signed number. -/
def signedMagnitude (id : UInt64) : Nat :=
  if id.toNat < 0x8000000000000000 then id.toNat else UInt64.size - id.toNat

/-- The salted id, cut down to the precision of rates. -/
def bucket (salt id : UInt64) : Nat := signedMagnitude (id ^^^ salt) % precision

/-- The bound below which buckets are sampled. -/
def threshold (rate : Binary64) : Binary64 := rate.mul (.ofNat precision)

/-- Whether the trace with the given id is sampled. -/
def sample (s : Sampler) (id : UInt64) : Bool :=
  (Binary64.ofNat (bucket s.salt id)).lt (threshold s.rate)

/-- The decision about a record: the one its flags carry, or else the sampler's. -/
def admits (s : Sampler) (flags : Flags) (id : UInt64) : Bool :=
  match flags.status with
  | .sampled => true
  | .notSampled => false
  | .noDecision => s.sample id

def literal (s : Sampler) : String :=
  Text.fields "Sampler" [
    ("rate", Text.showNat s.rate.bits.toNat), ("salt", Text.showNat s.salt.toNat)]

/-- How many of the ids `start + i * stride` with `i < n` are sampled. -/
def countSampled (s : Sampler) (start stride : UInt64) (n : Nat) : Nat :=
  (List.range n).countP fun i => s.sample (start + UInt64.ofNat i * stride)

end Sampler

end TracePipeline
