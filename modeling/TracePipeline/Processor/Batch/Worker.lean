import TracePipeline.Config.Batch
import TracePipeline.Event
import TracePipeline.Export
import TracePipeline.Statistics

/-!
# The worker of a batch processor

Gathers spans in a bucket and makes a bundle of it when the bucket is full, when the time window
has passed, or when it is asked to. A bundle that the format refuses is dropped whole. A bundle
that it accepts goes to the sender, which may keep the worker waiting.
-/

namespace TracePipeline

/-- What is sent to the worker. Who asks for a flush or for the shutdown is known by a number. -/
inductive BatchMessage where
  | span (s : Span)
  | flush (caller : Nat)
  | shutdown (caller : Nat)

/-- What the worker is woken by. -/
inductive BatchSignal where
  | message (m : BatchMessage)
  /-- The time window has passed. -/
  | timeout
  /-- Nobody is left who could send anything. -/
  | disconnect

/-- Spans that were made one bundle, and what the format made of them. -/
structure Bundle where
  spans : List Span
  outcome : Serialized

/-- What the worker does once the bucket is empty. -/
inductive AfterFlush where
  | proceed
  | reply (caller : Nat)
  | leave (caller : Option Nat)

inductive BatchPhase where
  /-- Ready for the next signal. -/
  | ready
  /-- In the sender, with the payload of the bucket. -/
  | sending (payload : ByteArray) (next : AfterFlush)
  | exited
  /-- The format broke down, and the worker with it. -/
  | crashed

structure BatchWorker where
  batchSize : Nat
  format : Format
  phase : BatchPhase
  bucket : List Span
  /-- The bundles made so far, oldest first. -/
  bundles : List Bundle
  statistics : Statistics
  /-- The answers given so far, by caller. -/
  replies : List (Nat × Except TraceError Unit)
  log : List Event
  /-- When the time window began. -/
  windowStart : Nat

namespace BatchWorker

def new (config : BatchConfig) (format : Format) : BatchWorker where
  batchSize := config.batchSize
  format
  phase := .ready
  bucket := []
  bundles := []
  statistics := {}
  replies := []
  log := [.batchStarted config.batchSize config.timeWindow]
  windowStart := 0

/-- Answers a caller. -/
def answer (w : BatchWorker) (caller : Nat) (result : Except TraceError Unit) : BatchWorker :=
  { w with replies := w.replies ++ [(caller, result)] }

/-- Goes on after a flush. -/
def goOn (w : BatchWorker) (now : Nat) (result : Except TraceError Unit) :
    AfterFlush → BatchWorker
  | .proceed => { w with phase := .ready, windowStart := now }
  | .reply caller => { w.answer caller result with phase := .ready, windowStart := now }
  | .leave caller =>
    let w := match caller with
      | some caller => w.answer caller result
      | none => w
    { w with phase := .exited, log := w.log ++ [.batchExiting] }

/-- Empties the bucket into a bundle. -/
def bundle (w : BatchWorker) (outcome : Serialized) : BatchWorker :=
  { w with bucket := [], bundles := w.bundles ++ [⟨w.bucket, outcome⟩] }

/-- Makes a bundle of the bucket, unless that is empty. -/
def flush (w : BatchWorker) (now : Nat) (next : AfterFlush) : BatchWorker :=
  if w.bucket.isEmpty then w.goOn now (.ok ()) next
  else match w.format w.bucket with
    | .payload bytes => { w with phase := .sending bytes next }
    | .failed cause =>
      let reason := TraceError.serialization cause
      let w : BatchWorker :=
        { w.bundle (.failed cause) with log := w.log ++ [.bundleNotSent reason] }
      w.goOn now (.error reason) next
    | .brokeDown => { w.bundle .brokeDown with phase := .crashed }

/-- The sender has taken the payload. -/
def sent (w : BatchWorker) (now : Nat) : BatchWorker :=
  match w.phase with
  | .sending bytes next =>
    let w : BatchWorker := { w.bundle (.payload bytes) with
      statistics := w.statistics.payloadSent w.bucket.length bytes.size }
    w.goOn now (.ok ()) next
  | _ => w

/-- Handles a signal. -/
def receive (w : BatchWorker) (now : Nat) : BatchSignal → BatchWorker
  | .message (.span s) =>
    let w := { w with statistics := w.statistics.spanAccepted s, bucket := w.bucket ++ [s] }
    if w.batchSize ≤ w.bucket.length then w.flush now .proceed else w
  | .message (.flush caller) => w.flush now (.reply caller)
  | .message (.shutdown caller) => w.flush now (.leave (some caller))
  | .timeout => w.flush now .proceed
  | .disconnect => w.flush now (.leave none)

/-- Handles a signal with a sender that takes every payload at once. -/
def handle (w : BatchWorker) (now : Nat) (signal : BatchSignal) : BatchWorker :=
  (w.receive now signal).sent now

def isReady (w : BatchWorker) : Bool :=
  match w.phase with
  | .ready => true
  | _ => false

def isSending (w : BatchWorker) : Bool :=
  match w.phase with
  | .sending _ _ => true
  | _ => false

/-- Whether the worker is gone. -/
def isGone (w : BatchWorker) : Bool :=
  match w.phase with
  | .exited | .crashed => true
  | _ => false

/-- The payload of a bundle that was sent. -/
def payloadOf (b : Bundle) : Option ByteArray :=
  match b.outcome with
  | .payload bytes => some bytes
  | _ => none

/-- The payloads sent so far, oldest first. -/
def payloads (w : BatchWorker) : List ByteArray := w.bundles.filterMap payloadOf

/-- The spans sent so far. -/
def sentCount (w : BatchWorker) : Nat :=
  (w.bundles.filter fun b => (payloadOf b).isSome).foldl (fun n b => n + b.spans.length) 0

end BatchWorker

end TracePipeline
