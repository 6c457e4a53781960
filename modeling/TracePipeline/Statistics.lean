import TracePipeline.Span

/-!
# Statistics

The counters of the assembler and of the processors, of 64 bits each.
-/

namespace TracePipeline

structure Statistics where
  recordsProcessed : UInt64 := 0
  spansFlushed : UInt64 := 0
  spansSent : UInt64 := 0
  bytesSent : UInt64 := 0
  deriving DecidableEq

namespace Statistics

/-- A record was put into a span. -/
def recordProcessed (s : Statistics) : Statistics :=
  { s with recordsProcessed := s.recordsProcessed + 1 }

/-- A span was handed over incomplete. -/
def spanFlushed (s : Statistics) : Statistics := { s with spansFlushed := s.spansFlushed + 1 }

/-- A processor took a span. -/
def spanAccepted (s : Statistics) (span : Span) : Statistics :=
  { s with
    recordsProcessed := s.recordsProcessed + UInt64.ofNat span.records.length
    spansFlushed := s.spansFlushed + 1 }

/-- A payload was sent. -/
def payloadSent (s : Statistics) (spans bytes : Nat) : Statistics :=
  { s with
    spansSent := s.spansSent + UInt64.ofNat spans
    bytesSent := s.bytesSent + UInt64.ofNat bytes }

end Statistics

end TracePipeline
