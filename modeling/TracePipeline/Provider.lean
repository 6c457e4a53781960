import TracePipeline.Pipeline
import TracePipeline.Tracing

/-!
# Tracer providers

A provider owns a pipeline and the traces that lead into it. Its traces make records only between
its start and its shutdown. The shutdown delivers what was accepted, and then shuts down every sink
and, if it is not among them any more, the assembler; what fails on the way does not stop it. What
breaks down on the way does, or waits for ever; even then the provider counts as shut down.
-/

namespace TracePipeline

inductive Stage where
  | built
  | running
  | shutdown
  deriving DecidableEq

structure Provider where
  pipeline : Pipeline
  sampler : Option Sampler
  tracing : Tracing
  sweepInterval : Duration
  stage : Stage
  /-- Whether the dispatcher was ever started. -/
  wasStarted : Bool
  /-- Whether somebody holds the provider. -/
  isHeld : Bool
  /-- Whether somebody holds a copy of it. -/
  hasCopy : Bool

namespace Provider

/-- A provider, made at the time that the clock shows, for the probes and the assembler, whose
records are sampled if the flags leave that open. -/
def new (config : DispatcherConfig) (probes : List Probe) (assembly : Option Assembly)
    (sampler : Option Sampler) (wide : Bool) (ids : IdSource) (sweepInterval : Duration)
    (clock : Nat) : Provider where
  pipeline := .new config probes (assembly.map fun a => { a with sampler }) clock
  sampler
  tracing := .new wide ids (sampler.map fun s => .ofFunction s.sample)
  sweepInterval
  stage := .built
  wasStarted := false
  isHeld := true
  hasCopy := false

/-- Whether records lead anywhere. -/
def isActive (p : Provider) : Bool := p.wasStarted && !p.pipeline.dispatcher.isStopped

/-- Whether records on a route lead anywhere. -/
def isActiveOn (p : Provider) : Route → Bool
  | .nowhere => false
  | .pipeline => p.isActive

/-- A step of a program that traces; a record that it makes is dispatched. -/
def trace (p : Provider) (step : Tracing.Step) : Option Tracing.Answer × Provider :=
  match p.tracing.step p.isActiveOn step with
  | none => (none, p)
  | some (answer, tracing) =>
    let p := { p with tracing }
    match answer with
    | .record (some r) => (some answer, { p with pipeline := (p.pipeline.dispatch r).2 })
    | _ => (some answer, p)

def start (p : Provider) : Provider × Except TraceError Unit × List Event :=
  match p.stage with
  | .running => (p, .ok (), [])
  | .shutdown => (p, .error .alreadyShutdown, [])
  | .built =>
    let timer := if p.pipeline.assembly.isSome then .start p.sweepInterval p.pipeline.clock
      else .stopped
    ({ p with pipeline := { p.pipeline with timer }, stage := .running, wasStarted := true },
      .ok (), [.providerStarted p.pipeline.dispatcher.sinks.length p.sweepInterval])

/-- What a shutdown says about the failures on its way. -/
def verdict (errors : List TraceError) : Except TraceError Unit :=
  if errors.isEmpty then .ok () else .error (.combined errors)

/-- What it reports about them. -/
def closing (errors : List TraceError) : List Event :=
  if errors.isEmpty then [.providerShutdown] else errors.map .shutdownFailed

/-- The first shutdown. -/
def close (p : Provider) : Provider × Ending (Except TraceError Unit) × List Event :=
  let (pipeline, ending, events) :=
    Ending.andThen (p.pipeline.halt p.wasStarted) fun q sinks =>
      Ending.andThen (q.shutdownSinks [] (sinks ++ [.assembler])) fun q errors =>
        (q, .returned (verdict errors), closing errors)
  ({ p with pipeline, stage := .shutdown }, ending, events)

/-- Shuts everything down, unless that was done before. -/
def shutdown (p : Provider) : Provider × Ending (Except TraceError Unit) × List Event :=
  if p.stage = .shutdown then (p, .returned (.ok ()), []) else p.close

/-- Makes a copy, which stands for the same provider. -/
def copy (p : Provider) : Provider := { p with hasCopy := true }

/-- Lets go of the provider. If there is a copy it takes its place; otherwise the provider is shut
down, unless that was done before. -/
def drop (p : Provider) : Provider × Ending Unit × List Event :=
  if p.hasCopy then ({ p with hasCopy := false }, .returned (), [])
  else
    let p := { p with isHeld := false }
    if p.stage = .shutdown then (p, .returned (), [.droppedAfterShutdown])
    else let (p, ending, events) := p.close; (p, ending.map fun _ => (), events)

/-- Another rate for the sampler, both for traces and in front of the assembler. -/
def setRate (p : Provider) (rate : Binary64) : Except ConfigError Provider :=
  match p.sampler with
  | none => .ok p
  | some s => (s.setRate rate).map fun s =>
    { p with
      sampler := some s
      tracing := { p.tracing with sampler := p.tracing.sampler.map (·.retune s.sample) }
      pipeline := { p.pipeline with
        assembly := p.pipeline.assembly.map fun a => { a with sampler := some s } } }

/-- The worker of the dispatcher goes on until it has to wait. -/
def settle (p : Provider) : Provider := { p with pipeline := p.pipeline.settle }

/-- Registers another probe. -/
def addProbe (p : Provider) (probe : Probe) : Provider × Ending Unit :=
  let (pipeline, ending) := p.pipeline.addProbe probe
  ({ p with pipeline }, ending)

/-- Unregisters every sink without shutting it down. -/
def clearSinks (p : Provider) : Provider × Ending Unit :=
  let (pipeline, ending) := p.pipeline.clear
  ({ p with pipeline }, ending.map fun _ => ())

/-- The records that the dispatcher dropped. -/
def dropped (p : Provider) : UInt64 := if p.wasStarted then p.pipeline.dispatcher.dropped else 0

/-- Sweeps the assembler, with the number of spans that were flushed. -/
def flushOld (p : Provider) (now : UInt64) : Provider × Nat × List Event :=
  match p.pipeline.assembly with
  | none => (p, 0, [])
  | some a =>
    let (a, n, events) := a.flushOld now
    ({ p with pipeline := { p.pipeline with assembly := some a } }, n, events)

/-- Waits until the sweeps have flushed a number of spans in all. -/
def awaitFlushed (p : Provider) (n : Nat) : Provider :=
  { p with pipeline := p.pipeline.awaitFlushed n }

end Provider

end TracePipeline
