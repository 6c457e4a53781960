import TracePipeline.Dispatcher
import TracePipeline.Probe
import TracePipeline.SweepTimer

/-!
# Pipelines

A dispatcher with the sinks that it delivers to: probes, and maybe an assembler, which a timer may
sweep. Gates among the probes may keep the worker waiting; each opens when it is told to, or when
its time comes. Time is counted in nanoseconds. Only while somebody waits does it pass, and do the
workers go on: whoever does not wait is ahead of them. Somebody may wait for ever, if no gate is going
to open that would let the worker go on.
-/

namespace TracePipeline

/-- Where records are delivered to. -/
inductive Target where
  | probe (i : Nat)
  | assembler
  deriving DecidableEq

structure Pipeline where
  dispatcher : Dispatcher Target
  probes : List Probe
  assembly : Option Assembly
  timer : SweepTimer
  clock : Nat
  /-- The gates that will open, with the times at which they do, in the order of these. -/
  openings : List (Nat × Nat)
  /-- What the worker reported. -/
  log : List Event

namespace Pipeline

/-- A pipeline, made at the time that the clock shows, that delivers to each of the probes, and then
to the assembler. -/
def new (config : DispatcherConfig) (probes : List Probe) (assembly : Option Assembly)
    (clock : Nat) : Pipeline where
  dispatcher := .new config
    ((List.range probes.length).map .probe ++ if assembly.isSome then [.assembler] else [])
  probes
  assembly
  timer := .stopped
  clock
  openings := []
  log := [.dispatcherStarted]

/-- Changes a probe. -/
def modifyProbe (p : Pipeline) (i : Nat) (f : Probe → Probe) : Pipeline :=
  { p with probes := p.probes.modify i f }

/-- Whether a sink keeps its caller waiting. -/
def isClosed (p : Pipeline) : Target → Bool
  | .probe i => p.probes[i]?.any Probe.isClosed
  | .assembler => false

/-- A sink takes a record. -/
def call (p : Pipeline) (r : Record) : Target → Pipeline
  | .probe i =>
    match p.probes[i]? with
    | none => p
    | some probe =>
      let (probe, events) := probe.record r
      { p with probes := p.probes.set i probe, log := p.log ++ events }
  | .assembler =>
    match p.assembly with
    | none => p
    | some a =>
      let (a, events) := a.record r
      { p with assembly := some a, log := p.log ++ events }

/-- What the worker does next, unless it has to wait. -/
def work? (p : Pipeline) : Option Pipeline :=
  match p.dispatcher.nextCall? with
  | some (target, r) =>
    if p.isClosed target then none
    else some { p.call r target with dispatcher := p.dispatcher.called }
  | none =>
    match p.dispatcher.finish with
    | some dispatcher => some { p with dispatcher }
    | none => p.dispatcher.take.map fun dispatcher =>
      let exiting := if dispatcher.hasExited then [.dispatcherExiting dispatcher.delivered] else []
      { p with dispatcher, log := p.log ++ exiting }

/-- At most `n` things that the worker does, until something holds. -/
def work (holds : Pipeline → Bool) : (n : Nat) → Pipeline → Pipeline
  | 0, p => p
  | n + 1, p =>
    if holds p then p
    else match p.work? with
      | none => p
      | some p => work holds n p

/-- A bound for what the worker can do: for each message and each record in hand, a call of each
sink, and taking and finishing it. -/
def workload (p : Pipeline) : Nat :=
  let inHand := match p.dispatcher.phase with
    | .delivering _ rest => rest.length
    | _ => 0
  inHand + (p.dispatcher.queue.items.length + 1) * (p.dispatcher.sinks.length + 2)

/-- The worker goes on until something holds or it has to wait. -/
def workUntil (p : Pipeline) (holds : Pipeline → Bool) : Pipeline := p.work holds p.workload

/-- The worker goes on until it has to wait. -/
def settle (p : Pipeline) : Pipeline := p.workUntil fun _ => false

/-- Whether everything that was accepted has been delivered or abandoned. -/
def isIdle (p : Pipeline) : Bool :=
  p.dispatcher.hasExited || (!p.dispatcher.isDelivering && p.dispatcher.queue.items.isEmpty)

/-- A gate opens. -/
def openGate (p : Pipeline) (i : Nat) : Pipeline := p.modifyProbe i (·.setOpen true)

/-- A gate closes. -/
def closeGate (p : Pipeline) (i : Nat) : Pipeline := p.modifyProbe i (·.setOpen false)

/-- Every gate opens. -/
def openAll (p : Pipeline) : Pipeline :=
  { p with probes := p.probes.map (Probe.setOpen · true), openings := [] }

/-- A gate is to open after a time. -/
def openLater (p : Pipeline) (i : Nat) (nanos : Nat) : Pipeline :=
  let time := p.clock + nanos
  let (before, after) := p.openings.span fun o => o.1 ≤ time
  { p with openings := before ++ (time, i) :: after }

/-- Time passes up to `time`, without a record for the assembler; the timer sweeps when it is due. -/
def pass (p : Pipeline) (time : Nat) : Pipeline :=
  let clock := max p.clock time
  match p.assembly with
  | none => { p with clock }
  | some a =>
    let (timer, a) := p.timer.advance a p.clock clock
    { p with timer, assembly := some a, clock }

/-- Waits, but not beyond a deadline, until something holds. Whenever a gate has opened the pipeline
goes on. -/
def waitFor (goOn : Pipeline → Pipeline) (holds : Pipeline → Bool) (deadline : Option Nat) :
    (openings : List (Nat × Nat)) → Pipeline → Pipeline
  | [], p =>
    let p := { p with openings := [] }
    if holds p then p else deadline.elim p p.pass
  | (time, i) :: rest, p =>
    let p := { p with openings := (time, i) :: rest }
    if holds p then p
    else if deadline.any (· < time) then deadline.elim p p.pass
    else waitFor goOn holds deadline rest (goOn ((p.pass time).openGate i))

/-- Waits, however long it takes, until something holds or no gate is left to open. -/
def waitUntil (p : Pipeline) (holds : Pipeline → Bool) : Pipeline :=
  waitFor (·.workUntil holds) holds none p.openings (p.workUntil holds)

/-- Everybody goes on until he has to wait. -/
def catchUp (p : Pipeline) : Pipeline :=
  let p := p.settle
  p.pass p.clock

/-- Waits until something holds, unless it does already. By then everybody else has gone on too. -/
def await (p : Pipeline) (holds : Pipeline → Bool) : Pipeline :=
  if holds p then p else (p.waitUntil holds).catchUp

/-- Whether the worker has to wait for a gate. -/
def isBlockedAt (i : Nat) (p : Pipeline) : Bool :=
  p.dispatcher.nextCall?.any fun call => call.1 == .probe i && p.isClosed call.1

/-- Waits until the worker has to wait for a gate. -/
def awaitBlocked (p : Pipeline) (i : Nat) : Pipeline := p.await (isBlockedAt i)

/-- Waits until a probe was delivered a number of records. -/
def awaitDelivered (p : Pipeline) (i n : Nat) : Pipeline :=
  p.await fun p => p.probes[i]?.any (n ≤ ·.delivered)

/-- Waits for the next sweep, unless something holds already or a gate opens before it. -/
def awaitSweep (p : Pipeline) (holds : Pipeline → Bool) : Pipeline :=
  match p.timer.due? with
  | none => p
  | some due => if holds p || p.openings.any (·.1 ≤ due) then p else p.pass due

/-- Whether the assembler has flushed a number of spans in all. -/
def hasFlushed (n : Nat) (p : Pipeline) : Bool :=
  p.assembly.any fun a => n ≤ a.assembler.statistics.spansFlushed.toNat

/-- Waits until the sweeps have flushed a number of spans in all. -/
def awaitFlushed (p : Pipeline) (n : Nat) : Pipeline :=
  let holds := hasFlushed n
  if holds p then p
  else (((p.catchUp.awaitSweep holds).waitUntil holds).awaitSweep holds).catchUp

/-- Hands a record to the dispatcher. -/
def dispatch (p : Pipeline) (r : Record) : Bool × Pipeline :=
  let (accepted, dispatcher) := p.dispatcher.dispatch r
  (accepted, { p with dispatcher })

/-- Hands over several records, and counts those accepted. -/
def dispatchAll (p : Pipeline) : List Record → Nat × Pipeline
  | [] => (0, p)
  | r :: rest =>
    let (accepted, p) := p.dispatch r
    let (n, p) := p.dispatchAll rest
    (n + accepted.toNat, p)

/-- Waits until the delivery of a record is over; only between two of them can the sinks be changed.
-/
def betweenRecords (p : Pipeline) : Pipeline := p.waitUntil fun p => !p.dispatcher.isDelivering

/-- Registers a sink, unless a gate keeps the worker for ever. -/
def register (p : Pipeline) (target : Target) : Pipeline × Ending Unit :=
  let p := p.betweenRecords
  if p.dispatcher.isDelivering then (p, .stuck)
  else ({ p with dispatcher := p.dispatcher.register target }, .returned ())

/-- Registers another probe. -/
def addProbe (p : Pipeline) (probe : Probe) : Pipeline × Ending Unit :=
  { p with probes := p.probes ++ [probe] }.register (.probe p.probes.length)

/-- Unregisters every sink, and says which there were, unless a gate keeps the worker for ever. -/
def clear (p : Pipeline) : Pipeline × Ending (List Target) :=
  let p := p.betweenRecords
  if p.dispatcher.isDelivering then (p, .stuck)
  else ({ p with dispatcher := p.dispatcher.clear }, .returned p.dispatcher.sinks)

/-- Queues the message that ends the worker, if there is room and it is not queued yet. -/
def sendStop (p : Pipeline) : Pipeline :=
  if p.dispatcher.isStopQueued then p
  else match p.dispatcher.sendStop with
    | .ok dispatcher => { p with dispatcher }
    | .error _ => p

/-- The worker goes on, and is told to end as soon as there is room for the message. -/
def drain (p : Pipeline) : Pipeline := p.settle.sendStop.settle

/-- When a dispatcher that is stopped now has to be through, if the clock can show that. -/
def deadline? (p : Pipeline) : Option Nat :=
  p.dispatcher.config.shutdownTimeout.deadline? p.clock

/-- Waits until the worker has ended, but not beyond a deadline. What is left then is abandoned. -/
def drainUntil (p : Pipeline) (deadline : Nat) : Pipeline × List Event :=
  let p := waitFor drain (·.dispatcher.hasExited) (some deadline) p.openings p.drain
  if p.dispatcher.hasExited then (p, [.dispatcherStopped p.dispatcher.dropped])
  else
    ({ p with dispatcher := p.dispatcher.abandon },
      [.drainTimedOut p.dispatcher.config.shutdownTimeout p.dispatcher.dropped])

/-- Accepts no more records, and waits until the worker has delivered those that it had, but not
longer than the shutdown timeout. If the clock cannot show when this is over, whoever stops the
dispatcher breaks down before the worker is told. -/
def stop (p : Pipeline) : Pipeline × Ending Unit × List Event :=
  if p.dispatcher.isStopped then (p, .returned (), [])
  else
    let p := { p with dispatcher := p.dispatcher.refuse }
    match p.deadline? with
    | none => (p, .brokeDown, [])
    | some deadline =>
      let (p, events) := p.drainUntil deadline
      (p, .returned (), events)

/-- Shuts a sink down. -/
def shutdownSink (p : Pipeline) : Target → Pipeline × Ending (Except TraceError Unit) × List Event
  | .probe i =>
    match p.probes[i]? with
    | none => (p, .returned (.ok ()), [])
    | some probe =>
      let (probe, result, events) := probe.shutdown
      ({ p with probes := p.probes.set i probe }, .returned result, events)
  | .assembler =>
    match p.assembly with
    | none => (p, .returned (.ok ()), [])
    | some a =>
      let (a, ending, events) := a.shutdown
      ({ p with assembly := some a }, ending, events)

/-- Another failure, if the result is one. -/
def gather (errors : List TraceError) : Except TraceError Unit → List TraceError
  | .ok _ => errors
  | .error e => errors ++ [e]

/-- Shuts several sinks down, one after the other, and gathers the failures. -/
def shutdownSinks (p : Pipeline) (errors : List TraceError) :
    List Target → Pipeline × Ending (List TraceError) × List Event
  | [] => (p, .returned errors, [])
  | target :: rest =>
    Ending.andThen (p.shutdownSink target) fun p result => p.shutdownSinks (gather errors result) rest

/-- Stops the dispatcher if it was ever started, and the timer even if that breaks down, and
unregisters every sink. -/
def halt (p : Pipeline) (wasStarted : Bool) : Pipeline × Ending (List Target) × List Event :=
  let (p, ending, stopped) := if wasStarted then p.stop else (p, .returned (), [])
  let swept := p.timer.stop
  Ending.andThen ({ p with timer := .stopped }, ending, stopped ++ swept) fun p _ =>
    let (p, ending) := p.clear
    (p, ending, [])

end Pipeline

end TracePipeline
