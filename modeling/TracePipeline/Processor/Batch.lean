import TracePipeline.Channel
import TracePipeline.Ending
import TracePipeline.Processor.Batch.Worker
import TracePipeline.Throttle

/-!
# Batch processor

Spans are queued for a worker, which sends them in bundles. Logging never waits: a span that finds
no room is dropped, with a warning now and then. A flush and the shutdown are requests in the same
queue; they wait for the worker's answer, but not for longer than the shutdown timeout. If the clock
cannot show when that is over, whoever makes a request breaks down before it is queued. Time is
counted in nanoseconds since the processor was made.
-/

namespace TracePipeline

structure BatchProcessor where
  config : BatchConfig
  queue : Channel BatchMessage
  worker : BatchWorker
  isShutdown : Bool
  /-- Whether nobody holds the processor any more. -/
  isAbandoned : Bool
  dropped : UInt64
  warning : Throttle
  /-- How many requests were made. -/
  callers : Nat
  /-- Whether the sender takes payloads at once; otherwise it keeps the worker waiting. -/
  isSenderOpen : Bool
  clock : Nat

namespace BatchProcessor

def new (config : BatchConfig) (format : Format) : BatchProcessor where
  config
  queue := .new config.maxQueueSize
  worker := .new config format
  isShutdown := false
  isAbandoned := false
  dropped := 0
  warning := .standard
  callers := 0
  isSenderOpen := true
  clock := 0

/-- The processor with what became of its worker. A worker that is gone leaves nobody to receive. -/
def withWorker (p : BatchProcessor) (worker : BatchWorker) : BatchProcessor :=
  { p with worker, queue := if worker.isGone then p.queue.close else p.queue }

/-- Wakes the worker. -/
def signal (p : BatchProcessor) (s : BatchSignal) : BatchProcessor :=
  p.withWorker (p.worker.receive p.clock s)

/-- When the time window ends. -/
def windowEnd (p : BatchProcessor) : Nat := p.worker.windowStart + p.config.timeWindow.nanos

/-- What the worker does next, unless it has to wait. -/
def work? (p : BatchProcessor) : Option BatchProcessor :=
  if p.worker.isSending then
    if p.isSenderOpen then some (p.withWorker (p.worker.sent p.clock)) else none
  else if p.worker.isReady then
    match p.queue.take with
    | (some m, queue) => some ({ p with queue }.signal (.message m))
    | (none, _) =>
      if p.isAbandoned then some (p.signal .disconnect)
      else if p.worker.bucket.isEmpty || p.clock < p.windowEnd then none
      else some (p.signal .timeout)
  else none

/-- At most `n` things that the worker does. -/
def work : (n : Nat) → BatchProcessor → BatchProcessor
  | 0, p => p
  | n + 1, p =>
    match p.work? with
    | none => p
    | some p => work n p

/-- The worker goes on until it has to wait. It does at most two things for each message, and two
after the last. -/
def settle (p : BatchProcessor) : BatchProcessor := p.work (2 * p.queue.items.length + 4)

/-- The microseconds since the processor was made. -/
def micros (p : BatchProcessor) : UInt64 := UInt64.ofNat (p.clock / Duration.micro)

/-- Queues a span, or drops it if there is no room. -/
def put (p : BatchProcessor) (span : Span) : BatchProcessor × List Event :=
  match p.queue.trySend (.span span) with
  | .ok queue => ({ p with queue }, [])
  | .error _ =>
    let dropped := p.dropped + 1
    let (passed, warning) := p.warning.check p.micros
    let events := match passed with
      | some suppressed => [.spanDropped suppressed dropped]
      | none => []
    ({ p with dropped, warning }, events)

/-- Takes a span, unless the processor was shut down. -/
def log (p : BatchProcessor) (span : Span) : BatchProcessor × List Event :=
  if p.isShutdown then ({ p with dropped := p.dropped + 1 }, []) else p.put span

/-- Queues several spans. -/
def logAll (p : BatchProcessor) : List Span → BatchProcessor × List Event
  | [] => (p, [])
  | span :: rest =>
    let (p, events) := p.log span
    let (p, more) := p.logAll rest
    (p, events ++ more)

/-- Time passes, in which the worker goes on. A bucket that waits is sent when its window ends; an
empty one only sees one window after the other. -/
def wait (p : BatchProcessor) (nanos : Nat) : BatchProcessor :=
  let p := p.settle
  let now := p.clock + nanos
  if !p.worker.isReady then { p with clock := now }
  else
    let p := if p.worker.bucket.isEmpty || now < p.windowEnd then p
      else { p with clock := max p.clock p.windowEnd }.settle
    let p := { p with clock := now }
    if p.worker.isReady && p.worker.bucket.isEmpty then
      { p with worker := { p.worker with
          windowStart := Duration.lastTick p.worker.windowStart p.config.timeWindow.nanos now } }
    else p

/-- Time passes until the window of a bucket that waits has ended. -/
def expire (p : BatchProcessor) : BatchProcessor :=
  if p.worker.isReady && !p.worker.bucket.isEmpty then p.wait (p.windowEnd - p.clock) else p

/-- Waits until something holds, unless it does already. The worker goes on, and if that is not
enough, the window of a bucket that waits ends. -/
def await (p : BatchProcessor) (holds : BatchProcessor → Bool) : BatchProcessor :=
  if holds p then p
  else
    let p := p.settle
    if holds p then p else p.expire

/-- Queues a request. -/
def request (p : BatchProcessor) (message : Nat → BatchMessage) :
    Except (SendError BatchMessage) BatchProcessor :=
  (p.queue.trySend (message p.callers)).map fun queue => { p with queue, callers := p.callers + 1 }

/-- Makes a request, and waits for the answer until the timeout has passed. -/
def callInTime (p : BatchProcessor) (message : Nat → BatchMessage) :
    BatchProcessor × Except TraceError Unit :=
  let timeout := p.config.shutdownTimeout
  let closed := TraceError.channelClosed "BatchSpanProcessor"
  let p := p.settle
  let caller := p.callers
  match p.request message with
  | .ok p =>
    let p := p.settle
    match p.worker.replies.lookup caller with
    | some result => (p, result)
    | none =>
      if p.worker.isGone then (p, .error closed)
      else (p.wait timeout.nanos, .error (.timedOut timeout))
  | .error (.full _) => (p.wait timeout.nanos, .error (.timedOut timeout))
  | .error (.disconnected _) => (p, .error closed)

/-- The deadline of a request that is made now. -/
def deadline? (p : BatchProcessor) : Option Nat := p.config.shutdownTimeout.deadline? p.clock

/-- Makes a request, and waits for the answer. -/
def call (p : BatchProcessor) (message : Nat → BatchMessage) :
    BatchProcessor × Ending (Except TraceError Unit) :=
  if p.deadline?.isSome then
    let (p, result) := p.callInTime message
    (p, .returned result)
  else (p, .brokeDown)

/-- Sends what waits in the bucket. -/
def flush (p : BatchProcessor) : BatchProcessor × Ending (Except TraceError Unit) :=
  if p.isShutdown then (p, .returned (.error .alreadyShutdown)) else p.call .flush

/-- What is reported at the end of a shutdown. -/
def shutdownReport (p : BatchProcessor) : List Event :=
  if p.dropped = 0 then [] else [.batchShutdown p.dropped]

/-- Sends what waits in the bucket, and ends the worker. -/
def shutdown (p : BatchProcessor) : BatchProcessor × Ending (Except TraceError Unit) × List Event :=
  if p.isShutdown then (p, .returned (.error .alreadyShutdown), [])
  else match { p with isShutdown := true }.call .shutdown with
    | (p, .returned result) => (p, .returned result, p.shutdownReport)
    | (p, ending) => (p, ending, [])

/-- The sender keeps the worker waiting from now on. -/
def closeSender (p : BatchProcessor) : BatchProcessor := { p with isSenderOpen := false }

/-- The sender takes payloads at once from now on. -/
def openSender (p : BatchProcessor) : BatchProcessor := { p with isSenderOpen := true }

/-- The processor is let go of without a shutdown; the worker sends what it holds. -/
def abandon (p : BatchProcessor) : BatchProcessor := { p with isAbandoned := true }

end BatchProcessor

end TracePipeline
