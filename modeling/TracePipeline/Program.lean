import TracePipeline.Ambient
import TracePipeline.Task
import TracePipeline.Tracing

/-!
# Programs on their own

A program that traces without a pipeline: its records go to a keeper, which holds them, unless it
refuses them or is inactive, or the program is not connected to it. One trace may be current, and
one route is the global one; until it is set, the global route leads nowhere.
-/

namespace TracePipeline

/-- Takes the records of a program. -/
structure Keeper where
  records : List Record := []
  /-- How many records were offered. -/
  attempts : Nat := 0
  isRefusing : Bool := false
  isActive : Bool := true

namespace Keeper

/-- Offers a record, and says whether it was accepted. -/
def offer (k : Keeper) (r : Record) : Bool × Keeper :=
  let k := { k with attempts := k.attempts + 1 }
  if k.isRefusing then (false, k) else (true, { k with records := k.records ++ [r] })

end Keeper

structure Program where
  tracing : Tracing
  keeper : Keeper
  current : Ambient Trace
  /-- Whether the program's own route leads to the keeper. -/
  isConnected : Bool
  /-- The route of the traces that are made globally. -/
  globalRoute : Route

namespace Program

def new (tracing : Tracing) (isConnected : Bool) : Program :=
  ⟨tracing, {}, {}, isConnected, .nowhere⟩

/-- Whether records on a route lead anywhere. -/
def isActiveOn (p : Program) : Route → Bool
  | .nowhere => false
  | .pipeline => p.isConnected && p.keeper.isActive

/-- A step of the program; a record that it makes is offered to the keeper. -/
def trace (p : Program) (step : Tracing.Step) : Option Tracing.Answer × Program :=
  match p.tracing.step p.isActiveOn step with
  | none => (none, p)
  | some (answer, tracing) =>
    let p := { p with tracing }
    match answer with
    | .record (some r) => (some answer, { p with keeper := (p.keeper.offer r).2 })
    | _ => (some answer, p)

/-- The record of an annotation at the present time, if it is accepted. It is not kept. -/
def recordNow (p : Program) (slot : Nat) (mark : Annotation) (now : UInt64) :
    Option Record × Program :=
  match (p.tracing.traces[slot]?).bind fun t =>
      t.record? (p.isActiveOn t.route) mark now with
  | none => (none, p)
  | some r =>
    let (accepted, keeper) := p.keeper.offer r
    (if accepted then some r else none,
      { p with keeper := { keeper with records := p.keeper.records } })

/-- Makes a trace current, as it is now. -/
def attach (p : Program) (slot : Nat) : Program :=
  match p.tracing.traces[slot]? with
  | none => p
  | some t => { p with current := p.current.attach t }

/-- Releases a guard. -/
def detach (p : Program) (guard : Nat) : Program := { p with current := p.current.release guard }

/-- Derives a child of the current trace. -/
def currentChild (p : Program) : Option Trace × Program :=
  match p.current.current with
  | none => (none, p)
  | some t => let (c, tracing) := p.tracing.derive t; (some c, { p with tracing })

/-- Runs a task whose layers carry traces: the identities seen in each poll, and the one that was
current after it. -/
def run (p : Program) (layers : List (Option Nat × Nat)) :
    List (List (Option Identity) × Option Identity) :=
  let task := layers.map fun l => (⟨l.1.bind (p.tracing.traces[·]?), l.2⟩ : Layer Trace)
  let identity := Option.map Trace.identity
  (Layer.complete task p.current.current).map fun poll => (poll.1.map identity, identity poll.2)

/-- Makes the program's own route the global one, and says whether the one before was active. -/
def setGlobal (p : Program) : Bool × Program :=
  (p.isActiveOn p.globalRoute, { p with globalRoute := .pipeline })

/-- Lets the global route lead nowhere. -/
def clearGlobal (p : Program) : Program := { p with globalRoute := .nowhere }

end Program

/-- A source of ids, with the next one of those that follow each other. -/
def IdSource.literal : IdSource → String
  | listed _ next => Text.applied "IncrementIdGenerator" (Text.showNat next.toNat)
  | scattered _ => Text.fields "RandomIdGenerator" [("_private", "()")]

namespace Program

/-- A route: where it leads, and what gives its traces their ids and decisions. The sampler of the
pipeline is given by its literal. -/
def routeLiteral (p : Program) (sampler : Option String) (route : Route) : String :=
  let (dispatch, sampler, wide) := match route with
    | .nowhere => ("NoopDispatch", none, false)
    | .pipeline => (if p.isConnected then "Collect" else "NoopDispatch", sampler, p.tracing.wide)
  Text.fields "Tracer" [
    ("dispatch", dispatch),
    ("id_generator", (p.tracing.idsOf route).literal),
    ("sampler", Text.optional sampler),
    ("trace_id_128_bit", Text.truth wide)]

/-- A trace with its route. -/
def traceLiteral (p : Program) (sampler : Option String) (t : Trace) : String :=
  Text.fields "Trace" [
    ("identity", t.identity.literal),
    ("flags", t.flags.literal),
    ("tracer", p.routeLiteral sampler t.route)]

end Program

end TracePipeline
