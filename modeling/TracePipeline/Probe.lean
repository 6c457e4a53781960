import TracePipeline.Assembler
import TracePipeline.Sampler

/-!
# Probes

Sinks for watching a pipeline. A probe counts what it is delivered and keeps it, or some of it; it
may break down at every record, keep its caller waiting, or feed an assembler, which it shuts down
with itself; and it answers every shutdown in the same way.
-/

namespace TracePipeline

inductive ProbeKind where
  | memory
  /-- Breaks down at every record, once it has kept it. -/
  | faulty
  /-- Keeps its caller waiting before it keeps a record, unless it is open. -/
  | gate (isOpen : Bool)
  /-- Keeps what a sampler lets pass. -/
  | filter (s : Sampler)
  /-- Keeps nothing, but the spans that an assembler makes of the records. -/
  | assembler (a : Assembler) (spans : List Span)

structure Probe where
  kind : ProbeKind
  /-- What a shutdown fails with, if it does. -/
  failure : Option TraceError
  delivered : Nat
  kept : List Record
  shutdowns : Nat

namespace Probe

def new (kind : ProbeKind) (failure : Option TraceError) : Probe := ⟨kind, failure, 0, [], 0⟩

def name (p : Probe) : String :=
  match p.kind with
  | .memory => "Probe(memory)"
  | .faulty => "Probe(panic)"
  | .gate _ => "Probe(gate)"
  | .filter _ => "Probe(filter)"
  | .assembler _ _ => "Probe(assembler)"

/-- Whether a caller has to wait. -/
def isClosed (p : Probe) : Bool :=
  match p.kind with
  | .gate isOpen => !isOpen
  | _ => false

def setOpen (p : Probe) (isOpen : Bool) : Probe :=
  match p.kind with
  | .gate _ => { p with kind := .gate isOpen }
  | _ => p

/-- Keeps a record. -/
def keep (p : Probe) (r : Record) : Probe := { p with kept := p.kept ++ [r] }

/-- Takes a record; the events are what is reported meanwhile. -/
def record (p : Probe) (r : Record) : Probe × List Event :=
  let p := { p with delivered := p.delivered + 1 }
  match p.kind with
  | .memory | .gate _ => (p.keep r, [])
  | .faulty => (p.keep r, [.sinkPanicked p.name r.identity])
  | .filter s => (if s.admits r.flags r.identity.trace then p.keep r else p, [])
  | .assembler a spans =>
    let (a, out) := a.record r
    ({ p with kind := .assembler a (spans ++ out.spans) }, out.events)

/-- Forgets what was kept. -/
def forget (p : Probe) : Probe := { p with kept := [] }

/-- The assembler that is fed is shut down first. -/
def shutdown (p : Probe) : Probe × Except TraceError Unit × List Event :=
  let p := { p with shutdowns := p.shutdowns + 1 }
  let result := match p.failure with
    | none => .ok ()
    | some e => .error e
  match p.kind with
  | .assembler a spans =>
    let (a, out) := a.shutdown
    let out := out.getD {}
    ({ p with kind := .assembler a (spans ++ out.spans) }, result, out.events)
  | _ => (p, result, [])

/-- Another rate for the sampler of a filter. -/
def setRate (p : Probe) (rate : Binary64) : Except ConfigError Probe :=
  match p.kind with
  | .filter s => (s.setRate rate).map fun s => { p with kind := .filter s }
  | _ => .ok p

/-- The assembler that is fed, and the spans that it made since they were last asked for. -/
def release (p : Probe) : Option (Assembler × List Span × Probe) :=
  match p.kind with
  | .assembler a spans => some (a, spans, { p with kind := .assembler a [] })
  | _ => none

end Probe

end TracePipeline
