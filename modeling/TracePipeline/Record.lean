import TracePipeline.Annotation
import TracePipeline.Flags
import TracePipeline.Identity

/-!
# Records

An annotation of one span at one time, in microseconds since the epoch, with the flags that its
trace had then.
-/

namespace TracePipeline

structure Record where
  identity : Identity
  flags : Flags
  timestamp : UInt64
  annotation : Annotation
  deriving DecidableEq

namespace Record

/-- Equality of records, that of annotations in the last field. -/
def eqv (r s : Record) : Bool :=
  r.identity == s.identity && r.flags == s.flags && r.timestamp == s.timestamp &&
    r.annotation.eqv s.annotation

/-- The annotation and its time. -/
def timed (r : Record) : Annotation × UInt64 := (r.annotation, r.timestamp)

/-- `count` records that differ from `r` in their times only, a microsecond from one to the next. -/
def series (r : Record) (count : Nat) : List Record :=
  (List.range count).map fun i => { r with timestamp := r.timestamp + UInt64.ofNat i }

def literal (r : Record) : String :=
  Text.fields "Record" [
    ("identity", r.identity.literal),
    ("flags", r.flags.literal),
    ("timestamp_micros", Text.showNat r.timestamp.toNat),
    ("annotation", r.annotation.literal)]

end Record

end TracePipeline
