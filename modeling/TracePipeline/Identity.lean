import TracePipeline.Text.Literal

/-!
# Span identities

The identity of a span: the trace it belongs to, the span it was started from, and its own id. Its
text determines it.
-/

namespace TracePipeline

structure Identity where
  /-- The upper half of a trace id of 128 bits, zero for one of 64 bits. -/
  traceHigh : UInt64
  trace : UInt64
  parent : Option UInt64
  span : UInt64
  deriving DecidableEq

namespace Identity

/-- A span that was not started from another one. -/
def isRoot (i : Identity) : Bool := i.parent.isNone

/-- The identity of a span started from this one. -/
def child (i : Identity) (span : UInt64) : Identity :=
  { i with parent := some i.span, span }

/-- The whole trace id. -/
def traceId (i : Identity) : Nat := i.traceHigh.toNat * UInt64.size + i.trace.toNat

/-- The sixteen digits of an id. -/
def idChars (id : UInt64) : List Char := Text.hexPadded 16 id.toNat

/-- The trace id, of 32 digits if it has an upper half, a point, the span id, and the parent's id
after an arrow. -/
def chars (i : Identity) : List Char :=
  (if i.traceHigh = 0 then [] else idChars i.traceHigh) ++ idChars i.trace ++
    '.' :: idChars i.span ++
    match i.parent with
    | none => []
    | some parent => '<' :: ':' :: idChars parent

def text (i : Identity) : String := String.ofList i.chars

def literal (i : Identity) : String :=
  Text.fields "SpanIdentity" [
    ("trace_id_high", Text.showNat i.traceHigh.toNat),
    ("trace_id", Text.showNat i.trace.toNat),
    ("parent_span_id", Text.optional (i.parent.map fun p => Text.showNat p.toNat)),
    ("span_id", Text.showNat i.span.toNat)]

end Identity

end TracePipeline
