import TracePipeline.Json.Number
import TracePipeline.Record

/-!
# Records in JSON

A structure is an object of its fields in order, a variant without contents is its name, and one
with contents an object with the name as its only key. Bytes are numbers, addresses are texts.
-/

namespace TracePipeline

def Identity.toJson (i : Identity) : Json :=
  .fields [
    ("trace_id_high", .nat i.traceHigh.toNat),
    ("trace_id", .nat i.trace.toNat),
    ("parent_span_id", .optional (fun (p : UInt64) => .nat p.toNat) i.parent),
    ("span_id", .nat i.span.toNat)]

def Flags.toJson (f : Flags) : Json := .nat f.bits.toNat

def Endpoint.toJson (e : Endpoint) : Json := .text e.text

namespace BinaryValue

/-- The name of a variant. -/
def variant : BinaryValue → String
  | bool _ => "Bool"
  | bytes _ => "Bytes"
  | i16 _ => "I16"
  | i32 _ => "I32"
  | i64 _ => "I64"
  | double _ => "Double"
  | string _ => "String"

/-- The contents of a variant. -/
def contents : BinaryValue → Json
  | bool b => .bool b
  | bytes b => .array (b.map fun x => .nat x.toNat)
  | i16 n => .int n.toInt
  | i32 n => .int n.toInt
  | i64 n => .int n.toInt
  | double x => .double x
  | string s => .text s

def toJson (v : BinaryValue) : Json := .tagged v.variant v.contents

end BinaryValue

namespace Annotation

/-- The name of a variant. -/
def variant : Annotation → String
  | clientSend => "ClientSend"
  | clientRecv => "ClientRecv"
  | serverRecv => "ServerRecv"
  | serverSend => "ServerSend"
  | wireSend => "WireSend"
  | wireRecv => "WireRecv"
  | rpc _ => "Rpc"
  | serviceName _ => "ServiceName"
  | localAddr _ => "LocalAddr"
  | serverAddr _ _ => "ServerAddr"
  | clientAddr _ => "ClientAddr"
  | messageAddr _ _ => "MessageAddr"
  | binary _ _ => "Binary"
  | tag _ _ => "Tag"
  | event _ => "Event"
  | localOperationStart _ => "LocalOperationStart"
  | localOperationStop => "LocalOperationStop"

/-- The contents of a variant, if it has any. -/
def contents : Annotation → Option Json
  | rpc name | serviceName name | event name | localOperationStart name => some (.text name)
  | localAddr address | clientAddr address => some address.toJson
  | serverAddr service address | messageAddr service address =>
    some (.fields [("service_name", .text service), ("endpoint", address.toJson)])
  | binary key value => some (.fields [("key", .text key), ("value", value.toJson)])
  | tag key value => some (.fields [("key", .text key), ("value", .text value)])
  | _ => none

def toJson (a : Annotation) : Json :=
  match a.contents with
  | none => .text a.variant
  | some value => .tagged a.variant value

end Annotation

def Record.toJson (r : Record) : Json :=
  .fields [
    ("identity", r.identity.toJson),
    ("flags", r.flags.toJson),
    ("timestamp_micros", .nat r.timestamp.toNat),
    ("annotation", r.annotation.toJson)]

end TracePipeline
