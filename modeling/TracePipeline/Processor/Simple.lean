import TracePipeline.Event
import TracePipeline.Export
import TracePipeline.Statistics

/-!
# Simple processor

Makes a payload of every span at once, until it is shut down. A span that the format refuses is
reported and lost.
-/

namespace TracePipeline

structure SimpleProcessor where
  format : Format
  statistics : Statistics
  /-- The payloads sent so far, oldest first. -/
  payloads : List ByteArray
  isShutdown : Bool

namespace SimpleProcessor

def new (format : Format) : SimpleProcessor := ⟨format, {}, [], false⟩

/-- Whether the format breaks down over a span. -/
def breaksDownOn (p : SimpleProcessor) (span : Span) : Bool :=
  !p.isShutdown &&
    match p.format [span] with
    | .brokeDown => true
    | _ => false

/-- Takes a span and sends it. -/
def log (p : SimpleProcessor) (span : Span) : SimpleProcessor × List Event :=
  if p.isShutdown then (p, [])
  else
    let p := { p with statistics := p.statistics.spanAccepted span }
    match p.format [span] with
    | .payload bytes =>
      ({ p with
          statistics := p.statistics.payloadSent 1 bytes.size
          payloads := p.payloads ++ [bytes] }, [])
    | .failed cause => (p, [.spanNotSent (.serialization cause)])
    | .brokeDown => (p, [])

/-- Takes several spans. -/
def logAll (p : SimpleProcessor) : List Span → SimpleProcessor × List Event
  | [] => (p, [])
  | span :: rest =>
    let (p, events) := p.log span
    let (p, more) := p.logAll rest
    (p, events ++ more)

/-- Nothing is ever kept back, so there is nothing to send. -/
def flush (_ : SimpleProcessor) : Except TraceError Unit := .ok ()

def shutdown (p : SimpleProcessor) : SimpleProcessor × Except TraceError Unit :=
  if p.isShutdown then (p, .error .alreadyShutdown) else ({ p with isShutdown := true }, .ok ())

/-- Forgets the payloads. -/
def forget (p : SimpleProcessor) : SimpleProcessor := { p with payloads := [] }

end SimpleProcessor

end TracePipeline
