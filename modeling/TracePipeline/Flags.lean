import TracePipeline.Text.Literal

/-!
# Trace flags

The decisions that travel with a trace, one bit each. Whether a trace is sampled means something
only once a decision is known; until then its records are forwarded and the decision is left to
those who receive them.
-/

namespace TracePipeline

structure Flags where
  bits : UInt8
  deriving DecidableEq

/-- The sampling decision that flags carry. -/
inductive SamplingStatus where
  | noDecision
  | sampled
  | notSampled
  deriving DecidableEq

namespace Flags

/-- No decision. -/
def empty : Flags := ⟨0⟩

/-- Capture was asked for. -/
def debug : Flags := ⟨1⟩

/-- A sampling decision was made. -/
def samplingKnown : Flags := ⟨2⟩

/-- The decision was to sample. -/
def sampled : Flags := ⟨4⟩

def and (f g : Flags) : Flags := ⟨f.bits &&& g.bits⟩

def or (f g : Flags) : Flags := ⟨f.bits ||| g.bits⟩

def not (f : Flags) : Flags := ⟨~~~f.bits⟩

/-- Whether every bit of `g` is set. -/
def contains (f g : Flags) : Bool := f.and g == g

def isDebug (f : Flags) : Bool := f.contains debug

def isSamplingKnown (f : Flags) : Bool := f.contains samplingKnown

def status (f : Flags) : SamplingStatus :=
  if f.isSamplingKnown then
    if f.contains sampled then .sampled else .notSampled
  else .noDecision

/-- The flags with a sampling decision. -/
def decide (f : Flags) (sample : Bool) : Flags :=
  if sample then (f.or samplingKnown).or sampled
  else (f.or samplingKnown).and sampled.not

/-- The flags with the debug bit set or cleared. -/
def withDebug (f : Flags) (on : Bool) : Flags :=
  if on then f.or debug else f.and debug.not

/-- Whether records with these flags are forwarded: all but those decided against. -/
def forwards (f : Flags) : Bool := !f.isSamplingKnown || f.contains sampled

def literal (f : Flags) : String := Text.applied "Flags" (Text.showNat f.bits.toNat)

/-- The bits in hexadecimal: with as many digits as needed, or two. -/
def hex (f : Flags) : String := String.ofList (Text.hexadecimal f.bits.toNat)

def hexByte (f : Flags) : String := String.ofList (Text.hexPadded 2 f.bits.toNat)

end Flags

def SamplingStatus.text : SamplingStatus → String
  | .noDecision => "NoDecision"
  | .sampled => "Sampled"
  | .notSampled => "NotSampled"

end TracePipeline
