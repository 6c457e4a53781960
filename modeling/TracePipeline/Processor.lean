import TracePipeline.Ending
import TracePipeline.Processor.Batch
import TracePipeline.Processor.Collector
import TracePipeline.Processor.Simple

/-!
# Processors

What takes the spans of an assembler: a collector, a processor that sends each span at once, or one
that sends them in bundles.
-/

namespace TracePipeline

inductive Processor where
  | collector (c : Collector)
  | simple (p : SimpleProcessor)
  | batch (p : BatchProcessor)

namespace Processor

/-- Takes spans. -/
def logAll (p : Processor) (spans : List Span) : Processor × List Event :=
  match p with
  | collector c => (collector (spans.foldl Collector.log c), [])
  | simple p => let (p, events) := p.logAll spans; (simple p, events)
  | batch p => let (p, events) := p.logAll spans; (batch p, events)

/-- Whether whoever hands over a span breaks down with the processor. -/
def breaksDownOn (p : Processor) (span : Span) : Bool :=
  match p with
  | simple p => p.breaksDownOn span
  | _ => false

def shutdown (p : Processor) : Processor × Ending (Except TraceError Unit) × List Event :=
  match p with
  | collector c => let (c, result) := c.shutdown; (collector c, .returned result, [])
  | simple p => let (p, result) := p.shutdown; (simple p, .returned result, [])
  | batch p => let (p, ending, events) := p.shutdown; (batch p, ending, events)

/-- Time passes; only a batch processor notices. -/
def wait (p : Processor) (nanos : Nat) : Processor :=
  match p with
  | batch p => batch (p.wait nanos)
  | p => p

/-- The spans that a collector holds, which it gives out. -/
def release (p : Processor) : List Span × Processor :=
  match p with
  | collector c => let (spans, c) := c.release; (spans, collector c)
  | p => ([], p)

/-- How often a collector was shut down. -/
def shutdowns : Processor → Nat
  | collector c => c.shutdowns
  | _ => 0

def payloads : Processor → List ByteArray
  | collector _ => []
  | simple p => p.payloads
  | batch p => p.worker.payloads

def statistics : Processor → Statistics
  | collector _ => {}
  | simple p => p.statistics
  | batch p => p.worker.statistics

end Processor

end TracePipeline
