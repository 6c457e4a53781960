import TracePipeline.Record.Encode

/-!
# Spans

All records of one identity, in the order in which they came, and what they say about the span: its
names, its own address, when it started and ended, and when it was last heard of.
-/

namespace TracePipeline

structure Span where
  identity : Identity
  /-- The flags of the last record. -/
  flags : Flags
  records : List Record
  lastUpdate : UInt64
  isComplete : Bool
  name : Option String
  serviceName : Option String
  localEndpoint : Option Endpoint
  startTime : Option UInt64
  endTime : Option UInt64
  deriving DecidableEq

/-- What a remote peer of a span is to it. -/
inductive RemoteKind where
  | server
  | client
  | messageBroker
  deriving DecidableEq

def RemoteKind.text : RemoteKind → String
  | .server => "Server"
  | .client => "Client"
  | .messageBroker => "MessageBroker"

structure RemoteEndpoint where
  kind : RemoteKind
  service : Option String
  address : Endpoint
  deriving DecidableEq

namespace Span

def new (identity : Identity) : Span where
  identity
  flags := .empty
  records := []
  lastUpdate := 0
  isComplete := false
  name := none
  serviceName := none
  localEndpoint := none
  startTime := none
  endTime := none

/-- The span has started at the given time, unless it did so before. -/
def markStart (s : Span) (time : UInt64) : Span :=
  { s with startTime := some (match s.startTime with
      | some start => min start time
      | none => time) }

/-- What an annotation at a time says about its span. -/
def note (s : Span) (time : UInt64) : Annotation → Span
  | .clientSend | .serverRecv => s.markStart time
  | .clientRecv | .serverSend | .localOperationStop => { s with endTime := some time }
  | .localOperationStart name =>
    let s := s.markStart time
    { s with name := s.name.or (some name) }
  | .rpc name => { s with name := some name }
  | .serviceName name => { s with serviceName := some name }
  | .localAddr address => { s with localEndpoint := some address }
  | .wireSend | .wireRecv | .event _ | .serverAddr _ _ | .clientAddr _ | .messageAddr _ _
  | .binary _ _ | .tag _ _ => s

/-- Appends a record. -/
def push (s : Span) (r : Record) : Span :=
  { s.note r.timestamp r.annotation with
    lastUpdate := max s.lastUpdate r.timestamp
    flags := r.flags
    records := s.records ++ [r] }

/-- The span with its end seen. -/
def completed (s : Span) : Span := { s with isComplete := true }

/-- The time from start to end, if both were seen; zero if the end came first. -/
def duration (s : Span) : Option UInt64 :=
  match s.startTime, s.endTime with
  | some start, some stop => some (if start ≤ stop then stop - start else 0)
  | _, _ => none

/-- The peer that an annotation names. -/
def remoteOf : Annotation → Option RemoteEndpoint
  | .serverAddr service address => some ⟨.server, some service, address⟩
  | .clientAddr address => some ⟨.client, none, address⟩
  | .messageAddr service address => some ⟨.messageBroker, some service, address⟩
  | _ => none

/-- The text of an annotation that marks a point in time. -/
def markOf : Annotation → Option String
  | .event name => some name
  | a => a.code?

/-- The pair that an annotation holds; a tag is a pair with a text. -/
def pairOf : Annotation → Option (String × BinaryValue)
  | .binary key value => some (key, value)
  | .tag key value => some (key, .string value)
  | _ => none

def remoteEndpoints (s : Span) : List RemoteEndpoint :=
  s.records.filterMap fun r => remoteOf r.annotation

def timedAnnotations (s : Span) : List (UInt64 × String) :=
  s.records.filterMap fun r => (markOf r.annotation).map fun mark => (r.timestamp, mark)

def binaryAnnotations (s : Span) : List (String × BinaryValue) :=
  s.records.filterMap fun r => pairOf r.annotation

/-- A text that sorts spans by trace, then by parent with the roots first, then by span id. -/
def sortKey (s : Span) : String :=
  let hex (n : UInt64) : List Char := Text.hexPadded 16 n.toNat
  let parent := s.identity.parent.elim [] hex
  String.ofList (hex s.identity.traceHigh ++ hex s.identity.trace ++ '.' :: parent ++
    '.' :: hex s.identity.span)

/-- An optional time in a literal. -/
def timeLiteral (t : Option UInt64) : String := Text.optional (t.map fun n => Text.showNat n.toNat)

def literal (s : Span) : String :=
  Text.fields "Span" [
    ("identity", s.identity.literal),
    ("flags", s.flags.literal),
    ("records", Text.bracketed (s.records.map Record.literal)),
    ("last_update_micros", Text.showNat s.lastUpdate.toNat),
    ("complete", Text.truth s.isComplete),
    ("name", Text.optional (s.name.map Text.quoted)),
    ("service_name", Text.optional (s.serviceName.map Text.quoted)),
    ("local_endpoint", Text.optional (s.localEndpoint.map Endpoint.text)),
    ("start_micros", timeLiteral s.startTime),
    ("end_micros", timeLiteral s.endTime)]

/-- An optional time in JSON. -/
def timeJson : Option UInt64 → Json := .optional fun n => .nat n.toNat

def toJson (s : Span) : Json :=
  .fields [
    ("identity", s.identity.toJson),
    ("flags", s.flags.toJson),
    ("records", .array (s.records.map Record.toJson)),
    ("last_update_micros", .nat s.lastUpdate.toNat),
    ("complete", .bool s.isComplete),
    ("name", .optional .text s.name),
    ("service_name", .optional .text s.serviceName),
    ("local_endpoint", .optional Endpoint.toJson s.localEndpoint),
    ("start_micros", timeJson s.startTime),
    ("end_micros", timeJson s.endTime)]

end Span

end TracePipeline
