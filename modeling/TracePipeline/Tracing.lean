import TracePipeline.Trace

/-!
# Programs that trace

The traces of a program, in the order in which it made them, and the steps by which it makes and
uses them. Traces that lead nowhere have a source of ids of their own, and no sampler.
-/

namespace TracePipeline

structure Tracing where
  /-- Whether new trace ids have 128 bits. -/
  wide : Bool
  ids : IdSource
  looseIds : IdSource
  sampler : Option Oracle
  traces : List Trace

namespace Tracing

def new (wide : Bool) (ids : IdSource) (sampler : Option Oracle) : Tracing :=
  { wide, ids, looseIds := .scattered 0, sampler, traces := [] }

/-- The sampler of a route. -/
def samplerOf (s : Tracing) : Route → Option Oracle
  | .nowhere => none
  | .pipeline => s.sampler

/-- The ids of a route. -/
def idsOf (s : Tracing) : Route → IdSource
  | .nowhere => s.looseIds
  | .pipeline => s.ids

def setSampler (s : Tracing) (route : Route) (sampler : Option Oracle) : Tracing :=
  match route with
  | .nowhere => s
  | .pipeline => { s with sampler }

def setIds (s : Tracing) (route : Route) (ids : IdSource) : Tracing :=
  match route with
  | .nowhere => { s with looseIds := ids }
  | .pipeline => { s with ids }

/-- Adds a trace to those made. -/
def add (s : Tracing) (t : Trace) : Tracing := { s with traces := s.traces ++ [t] }

/-- Makes a trace of an identity that came from elsewhere. -/
def wrap (s : Tracing) (route : Route) (identity : Identity) (flags : Flags) : Trace × Tracing :=
  let (t, sampler) := Trace.decideSampling ⟨identity, flags, route⟩ (s.samplerOf route)
  (t, (s.setSampler route sampler).add t)

/-- Starts a trace with new ids. -/
def start (s : Tracing) (route : Route) : Trace × Tracing :=
  let wide := match route with
    | .nowhere => false
    | .pipeline => s.wide
  let (identity, ids) := Identity.drawRoot wide (s.idsOf route)
  (s.setIds route ids).wrap route identity .empty

/-- Derives a child span. -/
def derive (s : Tracing) (t : Trace) : Trace × Tracing :=
  let (c, ids) := t.child (s.idsOf t.route)
  (c, (s.setIds t.route ids).add c)

/-- A step of a program; traces go by their place in the order of creation. -/
inductive Step where
  | start (route : Route)
  | wrap (route : Route) (identity : Identity) (flags : Flags)
  | child (slot : Nat)
  | clone (slot : Nat)
  | force (slot : Nat)
  | decide (slot : Nat)
  | record (slot : Nat) (mark : Annotation) (timestamp : UInt64)

/-- What a step shows: the trace it made or changed, the decision it came to, or the record that it
hands over. -/
inductive Answer where
  | trace (t : Trace)
  | decision (t : Trace)
  | record (r : Option Record)
  deriving DecidableEq

/-- The program after a step; a step on a trace that does not exist does nothing. -/
def step (isActive : Route → Bool) (s : Tracing) : Step → Option (Answer × Tracing)
  | .start route => let (t, s) := s.start route; some (.trace t, s)
  | .wrap route identity flags => let (t, s) := s.wrap route identity flags; some (.trace t, s)
  | .child slot => s.traces[slot]?.map fun t => let (c, s) := s.derive t; (.trace c, s)
  | .clone slot => s.traces[slot]?.map fun t => (.trace t, s.add t)
  | .force slot => s.traces[slot]?.map fun t =>
    let t := t.forceSampled
    (.trace t, { s with traces := s.traces.set slot t })
  | .decide slot => s.traces[slot]?.map fun t =>
    let (t, sampler) := t.decideSampling (s.samplerOf t.route)
    (.decision t, { s.setSampler t.route sampler with traces := s.traces.set slot t })
  | .record slot mark timestamp => s.traces[slot]?.map fun t =>
    (.record (t.record? (isActive t.route) mark timestamp), s)

end Tracing

end TracePipeline
