import TracePipeline.IdSource
import TracePipeline.Record

/-!
# Traces

A trace is a handle on one span: it derives child spans, carries the flags, and makes records of
what happens. The sampling decision is made once, when a trace is started or wrapped, and travels
with its flags.
-/

namespace TracePipeline

/-- Where the records of a trace go: nowhere, or into the pipeline. -/
inductive Route where
  | nowhere
  | pipeline
  deriving DecidableEq

structure Trace where
  identity : Identity
  flags : Flags
  route : Route
  deriving DecidableEq

/-- A sampler as a trace sees it: its answer to the `n`-th question about a trace id, and how many
questions it has answered. -/
structure Oracle where
  answer : Nat → UInt64 → Bool
  calls : Nat

namespace Oracle

/-- A sampler whose answers depend on the trace id alone. -/
def ofFunction (f : UInt64 → Bool) : Oracle := ⟨fun _ => f, 0⟩

def ask (o : Oracle) (id : UInt64) : Bool × Oracle :=
  (o.answer o.calls id, { o with calls := o.calls + 1 })

/-- The same sampler with other answers from now on. -/
def retune (o : Oracle) (f : UInt64 → Bool) : Oracle := { o with answer := fun _ => f }

end Oracle

namespace Trace

/-- What a trace has in common with everything that belongs to it. -/
def correlationId (t : Trace) : UInt64 := t.identity.trace

/-- Makes the sampling decision, if there is none yet and there is a sampler. -/
def decideSampling (t : Trace) (sampler : Option Oracle) : Trace × Option Oracle :=
  match t.flags.isSamplingKnown, sampler with
  | false, some o =>
    let (sampled, o) := o.ask t.identity.trace
    ({ t with flags := t.flags.decide sampled }, some o)
  | _, _ => (t, sampler)

/-- A child span, with the same flags and a span id of its own. -/
def child (t : Trace) (ids : IdSource) : Trace × IdSource :=
  let (span, ids) := ids.drawOther t.identity.span
  ({ t with identity := t.identity.child span }, ids)

/-- Samples the trace, whatever a sampler would say. -/
def forceSampled (t : Trace) : Trace := { t with flags := t.flags.decide true }

/-- The record of an annotation, unless the trace is decided against or its pipeline inactive. -/
def record? (t : Trace) (isActive : Bool) (mark : Annotation) (timestamp : UInt64) :
    Option Record :=
  if t.flags.forwards && isActive then some ⟨t.identity, t.flags, timestamp, mark⟩ else none

end Trace

/-- A new root span. Only a wide trace id has an upper half, which is drawn first. -/
def Identity.drawRoot (wide : Bool) (ids : IdSource) : Identity × IdSource :=
  let (high, ids) := if wide then ids.draw else (0, ids)
  let (trace, ids) := ids.draw
  let (span, ids) := ids.draw
  (⟨high, trace, none, span⟩, ids)

end TracePipeline
