import TracePipeline.Endpoint.Read
import TracePipeline.Json.Number
import TracePipeline.Json.Read
import TracePipeline.Record

/-!
# Records from JSON

The reading of what `TracePipeline.Record.Encode` writes. A structure may also be an array of its
fields in order; in an object the fields stand in any order, each at most once, and entries with
other names are passed over.
-/

namespace TracePipeline

namespace Json

/-- A whole number in the given range. -/
def intIn? (low high : Int) : Json → Option Int
  | number d => d.toInt?.filter fun n => decide (low ≤ n ∧ n ≤ high)
  | _ => none

/-- A natural number below a limit. -/
def natBelow? (limit : Nat) (j : Json) : Option Nat := (j.intIn? 0 (limit - 1)).map Int.toNat

def uint64? (j : Json) : Option UInt64 := (j.natBelow? UInt64.size).map UInt64.ofNat

def text? : Json → Option String
  | string s => s
  | _ => none

/-- The values of the named fields of a structure, where an object need not have all of them. -/
def fieldValues? (names : List String) : Json → Option (List (Option Json))
  | array items => if items.length = names.length then some (items.map some) else none
  | object entries =>
    if entries.any (·.1.isNone) then none
    else names.mapM fun name =>
      match entries.filter (·.1 == some name) with
      | [] => some none
      | [entry] => some (some entry.2)
      | _ => none
  | _ => none

/-- The name of a variant and its contents. -/
def variant? : Json → Option (String × Option Json)
  | string (some name) => some (name, none)
  | object [(some name, value)] => some (name, some value)
  | _ => none

end Json

namespace Identity

def ofJson? (j : Json) : Option Identity :=
  match j.fieldValues? ["trace_id_high", "trace_id", "parent_span_id", "span_id"] with
  | some [some high, some trace, parent, some span] => do
    let high ← high.uint64?
    let trace ← trace.uint64?
    let parent ← match parent with
      | none | some .null => some none
      | some p => p.uint64?.map some
    let span ← span.uint64?
    return ⟨high, trace, parent, span⟩
  | _ => none

end Identity

def Flags.ofJson? (j : Json) : Option Flags := (j.natBelow? 256).map fun n => ⟨UInt8.ofNat n⟩

def Endpoint.ofJson? (j : Json) : Option Endpoint := do read? (← j.text?).toList

namespace BinaryValue

def ofJson? (j : Json) : Option BinaryValue := do
  match ← j.variant? with
  | (name, some value) =>
    match name, value with
    | "Bool", .bool b => some (bool b)
    | "Bytes", .array items => do
      let ns ← items.mapM (Json.natBelow? 256)
      return bytes (ns.map UInt8.ofNat)
    | "I16", v => (v.intIn? (-32768) 32767).map fun n => i16 (Int16.ofInt n)
    | "I32", v => (v.intIn? (-2147483648) 2147483647).map fun n => i32 (Int32.ofInt n)
    | "I64", v =>
      (v.intIn? (-9223372036854775808) 9223372036854775807).map fun n => i64 (Int64.ofInt n)
    | "Double", .number d => (Json.toDouble? d).map double
    | "String", v => v.text?.map string
    | _, _ => none
  | (_, none) => none

end BinaryValue

namespace Annotation

/-- A structure of two fields. -/
def pair? (first second : String) (f : Json → Json → Option α) (j : Json) : Option α :=
  match j.fieldValues? [first, second] with
  | some [some v, some w] => f v w
  | _ => none

/-- A variant without contents, by its name. -/
def bare? : String → Option Annotation
  | "ClientSend" => some clientSend
  | "ClientRecv" => some clientRecv
  | "ServerRecv" => some serverRecv
  | "ServerSend" => some serverSend
  | "WireSend" => some wireSend
  | "WireRecv" => some wireRecv
  | "LocalOperationStop" => some localOperationStop
  | _ => none

/-- A service and its address. -/
def peer? (f : String → Endpoint → Annotation) : Json → Option Annotation :=
  pair? "service_name" "endpoint" fun service address => do
    return f (← service.text?) (← Endpoint.ofJson? address)

/-- A variant with contents, by its name. -/
def filled? (name : String) (value : Json) : Option Annotation :=
  match name with
  | "Rpc" => value.text?.map rpc
  | "ServiceName" => value.text?.map serviceName
  | "LocalAddr" => (Endpoint.ofJson? value).map localAddr
  | "ServerAddr" => peer? serverAddr value
  | "ClientAddr" => (Endpoint.ofJson? value).map clientAddr
  | "MessageAddr" => peer? messageAddr value
  | "Binary" => pair? "key" "value" (fun k v => do
      return binary (← k.text?) (← BinaryValue.ofJson? v)) value
  | "Tag" => pair? "key" "value" (fun k v => do return tag (← k.text?) (← v.text?)) value
  | "Event" => value.text?.map event
  | "LocalOperationStart" => value.text?.map localOperationStart
  | _ => match value with
    | .null => bare? name
    | _ => none

def ofJson? (j : Json) : Option Annotation := do
  match ← j.variant? with
  | (name, none) => bare? name
  | (name, some value) => filled? name value

end Annotation

def Record.ofJson? (j : Json) : Option Record :=
  match j.fieldValues? ["identity", "flags", "timestamp_micros", "annotation"] with
  | some [some identity, some flags, some timestamp, some annotation] => do
    let identity ← Identity.ofJson? identity
    let flags ← Flags.ofJson? flags
    let timestamp ← timestamp.uint64?
    let annotation ← Annotation.ofJson? annotation
    return ⟨identity, flags, timestamp, annotation⟩
  | _ => none

/-- The value of a type that a JSON text denotes. -/
def decode? (ofJson? : Json → Option α) (text : String) : Option α := do ofJson? (← Json.read? text)

end TracePipeline
