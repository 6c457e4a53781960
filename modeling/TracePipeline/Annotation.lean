import TracePipeline.Binary64.Text
import TracePipeline.Endpoint.Basic
import TracePipeline.Text.Literal

/-!
# Annotations

What can be recorded about a span: the steps of a remote call, its names and addresses, key and
value pairs, events, and the start and end of a local operation. The two annotations that end a
call end the span.
-/

namespace TracePipeline

/-- The value of a typed pair. -/
inductive BinaryValue where
  | bool (value : Bool)
  | bytes (value : List UInt8)
  | i16 (value : Int16)
  | i32 (value : Int32)
  | i64 (value : Int64)
  | double (value : Binary64)
  | string (value : String)
  deriving DecidableEq

inductive Annotation where
  | clientSend
  | clientRecv
  | serverRecv
  | serverSend
  | wireSend
  | wireRecv
  | rpc (name : String)
  | serviceName (name : String)
  | localAddr (address : Endpoint)
  | serverAddr (service : String) (address : Endpoint)
  | clientAddr (address : Endpoint)
  | messageAddr (service : String) (address : Endpoint)
  | binary (key : String) (value : BinaryValue)
  | tag (key value : String)
  | event (name : String)
  | localOperationStart (name : String)
  | localOperationStop
  deriving DecidableEq

namespace BinaryValue

/-- Equality of values: that of numbers for doubles, so that no double that is not a number equals
any other. -/
def eqv : BinaryValue → BinaryValue → Bool
  | double x, double y => x.eqv y
  | v, w => v == w

/-- The bare value. -/
def text : BinaryValue → String
  | bool b => Text.truth b
  | bytes b => String.ofList (Text.hexBytes b)
  | i16 n => Text.showInt n.toInt
  | i32 n => Text.showInt n.toInt
  | i64 n => Text.showInt n.toInt
  | double x => x.plain
  | string s => s

def literal : BinaryValue → String
  | bool b => Text.applied "Bool" (Text.truth b)
  | bytes b => Text.applied "Bytes" (Text.bracketed (b.map fun x => Text.showNat x.toNat))
  | i16 n => Text.applied "I16" (Text.showInt n.toInt)
  | i32 n => Text.applied "I32" (Text.showInt n.toInt)
  | i64 n => Text.applied "I64" (Text.showInt n.toInt)
  | double x => Text.applied "Double" x.literal
  | string s => Text.applied "String" (Text.quoted s)

end BinaryValue

namespace Annotation

/-- Whether the annotation ends its span. -/
def isTerminal : Annotation → Bool
  | clientRecv | serverSend => true
  | _ => false

/-- The short code of a step of a call. -/
def code? : Annotation → Option String
  | clientSend => some "cs"
  | clientRecv => some "cr"
  | serverRecv => some "sr"
  | serverSend => some "ss"
  | wireSend => some "ws"
  | wireRecv => some "wr"
  | _ => none

/-- Equality of annotations, that of values for typed pairs. -/
def eqv : Annotation → Annotation → Bool
  | binary k v, binary l w => k == l && v.eqv w
  | a, b => a == b

/-- The annotation as it is printed: texts stand as they are. -/
def text : Annotation → String
  | clientSend => "cs"
  | clientRecv => "cr"
  | serverRecv => "sr"
  | serverSend => "ss"
  | wireSend => "ws"
  | wireRecv => "wr"
  | rpc name => "rpc=" ++ name
  | serviceName name => "service_name=" ++ name
  | localAddr address => "local_addr=" ++ address.text
  | serverAddr service address => "server_addr=" ++ service ++ "@" ++ address.text
  | clientAddr address => "client_addr=" ++ address.text
  | messageAddr service address => "message_addr=" ++ service ++ "@" ++ address.text
  | binary key value => key ++ "=" ++ value.text
  | tag key value => key ++ "=" ++ value
  | event name => "event=" ++ name
  | localOperationStart name => "local_start=" ++ name
  | localOperationStop => "local_stop"

/-- A pair of a key or name with something, as fields. -/
def pairLiteral (name first second : String) (k v : String) : String :=
  Text.fields name [(first, k), (second, v)]

def literal : Annotation → String
  | clientSend => "ClientSend"
  | clientRecv => "ClientRecv"
  | serverRecv => "ServerRecv"
  | serverSend => "ServerSend"
  | wireSend => "WireSend"
  | wireRecv => "WireRecv"
  | rpc name => Text.applied "Rpc" (Text.quoted name)
  | serviceName name => Text.applied "ServiceName" (Text.quoted name)
  | localAddr address => Text.applied "LocalAddr" address.text
  | serverAddr service address =>
    pairLiteral "ServerAddr" "service_name" "endpoint" (Text.quoted service) address.text
  | clientAddr address => Text.applied "ClientAddr" address.text
  | messageAddr service address =>
    pairLiteral "MessageAddr" "service_name" "endpoint" (Text.quoted service) address.text
  | binary key value => pairLiteral "Binary" "key" "value" (Text.quoted key) value.literal
  | tag key value => pairLiteral "Tag" "key" "value" (Text.quoted key) (Text.quoted value)
  | event name => Text.applied "Event" (Text.quoted name)
  | localOperationStart name => Text.applied "LocalOperationStart" (Text.quoted name)
  | localOperationStop => "LocalOperationStop"

end Annotation

end TracePipeline
