import TracePipeline.Error
import TracePipeline.Span

/-!
# Collector

A processor that holds the spans it is handed until they are asked for, and answers every shutdown
in the same way.
-/

namespace TracePipeline

structure Collector where
  /-- What a shutdown fails with, if it does. -/
  failure : Option TraceError
  spans : List Span
  shutdowns : Nat

namespace Collector

def new (failure : Option TraceError) : Collector := ⟨failure, [], 0⟩

/-- Takes a span. -/
def log (c : Collector) (span : Span) : Collector := { c with spans := c.spans ++ [span] }

/-- Gives out the spans that it holds. -/
def release (c : Collector) : List Span × Collector := (c.spans, { c with spans := [] })

def shutdown (c : Collector) : Collector × Except TraceError Unit :=
  ({ c with shutdowns := c.shutdowns + 1 },
    match c.failure with
    | none => .ok ()
    | some e => .error e)

end Collector

end TracePipeline
