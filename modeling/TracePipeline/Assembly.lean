import TracePipeline.Assembler
import TracePipeline.Processor
import TracePipeline.Sampler

/-!
# Assemblies

A span assembler with the processor that takes its spans, and maybe a sampler in front, which
decides about the records whose flags leave that open.
-/

namespace TracePipeline

structure Assembly where
  assembler : Assembler
  processor : Processor
  sampler : Option Sampler

namespace Assembly

/-- An assembler with a collector. -/
def collecting (timeToLive : Duration) (failure : Option TraceError) (sampler : Option Sampler) :
    Assembly :=
  ⟨.new timeToLive, .collector (.new failure), sampler⟩

/-- Whether a record gets past the sampler. -/
def admits (a : Assembly) (r : Record) : Bool :=
  match a.sampler with
  | none => true
  | some s => s.admits r.flags r.identity.trace

/-- Gives the processor what left the assembler. -/
def handOver (a : Assembly) (assembler : Assembler) (out : Handover) : Assembly × List Event :=
  let (processor, events) := a.processor.logAll out.spans
  ({ a with assembler, processor }, out.events ++ events)

def record (a : Assembly) (r : Record) : Assembly × List Event :=
  if a.admits r then
    let (assembler, out) := a.assembler.record r
    a.handOver assembler out
  else (a, [])

/-- Takes several records. -/
def recordAll (a : Assembly) : List Record → Assembly × List Event
  | [] => (a, [])
  | r :: rest =>
    let (a, events) := a.record r
    let (a, more) := a.recordAll rest
    (a, events ++ more)

/-- A sweep, with the number of spans that it flushed. -/
def flushOld (a : Assembly) (now : UInt64) : Assembly × Nat × List Event :=
  let (assembler, out) := a.assembler.flushOld now
  let (a, events) := a.handOver assembler out
  (a, out.spans.length, events)

/-- Gives the processor the spans that a flush took out of the assembler, one by one. Whoever does so
breaks down at the first span over which the processor does; the spans after that are lost without
being counted. -/
def handOverEach (a : Assembly) (assembler : Assembler) (out : Handover) :
    Assembly × Ending Unit × List Event :=
  match out.spans.span fun span => !a.processor.breaksDownOn span with
  | (_, []) =>
    let (a, events) := a.handOver assembler out
    (a, .returned (), events)
  | (before, last :: _) =>
    let spans := before ++ [last]
    let statistics := spans.foldl (fun st _ => st.spanFlushed) a.assembler.statistics
    let (a, events) := a.handOver { assembler with statistics } { spans }
    (a, .brokeDown, events)

/-- A sweep in the background, and how it ended. -/
def sweep (a : Assembly) (now : UInt64) : Assembly × Ending Unit :=
  let (assembler, out) := a.assembler.flushOld now
  let (a, ending, _) := a.handOverEach assembler out
  (a, ending)

/-- Time passes. -/
def wait (a : Assembly) (nanos : Nat) : Assembly := { a with processor := a.processor.wait nanos }

/-- Flushes every open span, with their number. -/
def flushAll (a : Assembly) : Assembly × Nat × List Event :=
  let (assembler, out) := a.assembler.flushAll
  let (a, events) := a.handOver assembler out
  (a, out.spans.length, events)

/-- That the processor was shut down already is no failure. -/
def excuse : Except TraceError Unit → Except TraceError Unit
  | .error .alreadyShutdown => .ok ()
  | result => result

/-- Shuts the processor down. -/
def shutdownProcessor (a : Assembly) : Assembly × Ending (Except TraceError Unit) × List Event :=
  let (processor, ending, events) := a.processor.shutdown
  ({ a with processor }, ending.map excuse, events)

/-- Flushes everything and shuts the processor down, once. -/
def shutdown (a : Assembly) : Assembly × Ending (Except TraceError Unit) × List Event :=
  match a.assembler.shutdown with
  | (_, none) => (a, .returned (.ok ()), [])
  | (assembler, some out) =>
    Ending.andThen (a.handOverEach assembler out) fun a _ => a.shutdownProcessor

/-- Another rate for the sampler. -/
def setRate (a : Assembly) (rate : Binary64) : Except ConfigError Assembly :=
  match a.sampler with
  | none => .ok a
  | some s => (s.setRate rate).map fun s => { a with sampler := some s }

/-- The spans that the processor gives out. -/
def release (a : Assembly) : List Span × Assembly :=
  let (spans, processor) := a.processor.release
  (spans, { a with processor })

/-- The spans that records make; those that are never ended are incomplete. -/
def spansOf (records : List Record) : List Span :=
  let a := ((collecting Assembler.standardTimeToLive none none).recordAll records).1
  a.flushAll.1.release.1

end Assembly

end TracePipeline
