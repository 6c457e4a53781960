import TracePipeline.Event
import TracePipeline.Statistics
import TracePipeline.Table
import TracePipeline.Throttle

/-!
# Span assembler

Gathers records into spans, one for each identity. A span is handed over once: complete, when a
record ends it, or incomplete, when a sweep finds it idle for longer than the time to live, or when
everything is flushed. Its identity is then remembered, with the time at which it closed, until a
sweep forgets it, and records that come late are dropped.
-/

namespace TracePipeline

structure Assembler where
  timeToLive : Duration
  opened : Table Span
  /-- The close time of every remembered identity. -/
  closed : Table UInt64
  statistics : Statistics
  isShutdown : Bool

/-- What leaves the assembler in one step: spans for the processor, and events. -/
structure Handover where
  spans : List Span := []
  events : List Event := []

namespace Assembler

def standardTimeToLive : Duration := .ofSeconds 60

def standardSweepInterval : Duration := .ofSeconds 10

def new (timeToLive : Duration) : Assembler where
  timeToLive
  opened := []
  closed := []
  statistics := {}
  isShutdown := false

/-- The time to live as it is compared: whole microseconds, in 64 bits. -/
def ttl (a : Assembler) : UInt64 := a.timeToLive.micros

/-- The open span of an identity, or a new one. -/
def spanFor (a : Assembler) (i : Identity) : Span := (a.opened.get? i).getD (Span.new i)

/-- Takes a record. -/
def record (a : Assembler) (r : Record) : Assembler × Handover :=
  if a.closed.contains r.identity then
    (a, { events := [.lateRecordDropped r.identity r.annotation.text] })
  else
    let span := (a.spanFor r.identity).push r
    let statistics := a.statistics.recordProcessed
    if r.annotation.isTerminal then
      ({ a with
          opened := a.opened.without r.identity
          closed := a.closed.put r.identity span.lastUpdate
          statistics },
        { spans := [span.completed] })
    else ({ a with opened := a.opened.put r.identity span, statistics }, {})

/-- Whether a time lies further back than the time to live. -/
def isOld (a : Assembler) (now time : UInt64) : Bool := decide (a.ttl < since now time)

/-- The open spans that have been idle for longer than the time to live. -/
def stale (a : Assembler) (now : UInt64) : List Span :=
  (a.opened.filter fun e => a.isOld now e.2.lastUpdate).map Prod.snd

/-- A sweep: forgets the identities that closed long ago, and hands over the stale spans. -/
def flushOld (a : Assembler) (now : UInt64) : Assembler × Handover :=
  let expired := a.stale now
  ({ a with
      opened := a.opened.filter fun e => !a.isOld now e.2.lastUpdate
      closed := Table.putAll (a.closed.filter fun e => !a.isOld now e.2)
        (expired.map fun s => (s.identity, now))
      statistics := expired.foldl (fun st _ => st.spanFlushed) a.statistics },
    { spans := expired
      events := expired.map fun s => .spanExpired s.identity s.records.length })

/-- Hands over every open span. -/
def flushAll (a : Assembler) : Assembler × Handover :=
  let spans := a.opened.map Prod.snd
  ({ a with
      opened := []
      closed := Table.putAll a.closed (spans.map fun s => (s.identity, s.lastUpdate))
      statistics := spans.foldl (fun st _ => st.spanFlushed) a.statistics },
    { spans })

/-- Flushes everything. Only the first call does so; the processor is then shut down as well. -/
def shutdown (a : Assembler) : Assembler × Option Handover :=
  if a.isShutdown then (a, none)
  else
    let (a, out) := { a with isShutdown := true }.flushAll
    let events := if out.spans.isEmpty then [] else [.assemblerShutdown out.spans.length]
    (a, some { out with events })

end Assembler

end TracePipeline
