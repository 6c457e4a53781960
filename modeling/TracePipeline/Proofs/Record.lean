import Mathlib.Data.List.Basic
import TracePipeline.Proofs.Endpoint
import TracePipeline.Proofs.Json.Reading
import TracePipeline.Record.Decode
import TracePipeline.Record.Encode

/-!
# Decoding records again

A record is decoded from its JSON text as the record it was, so the text tells records apart. This
leaves out annotations that hold a floating-point number: one that is not finite is written as
`null`, and such a text is refused.
-/

namespace TracePipeline

namespace Json

variable {low high n : Int} {limit : Nat} {entries : List (String × Json)} {j : Json}

lemma toInt?_ofInt (n : Int) : (Text.Decimal.ofInt n).toInt? = some n := by
  have hvalue : Text.ofDigits 10 (Text.Decimal.ofInt n).whole = n.natAbs := by
    rw [whole_ofInt]
    exact Text.ofDigits_digitsFrom 8 n.natAbs
  have hsign : ((Text.Decimal.ofInt n).negative && n.natAbs == 0) = false := by
    simp only [Text.Decimal.ofInt, Bool.and_eq_false_iff, decide_eq_false_iff_not,
      beq_eq_false_iff_ne]
    omega
  rw [Text.Decimal.toInt?, hvalue, hsign]
  simp only [Text.Decimal.ofInt, List.isEmpty_nil, Option.isNone_none, Bool.and_self,
    Bool.not_false, if_pos, decide_eq_true_eq, Option.some.injEq]
  omega

lemma intIn?_int (h : low ≤ n ∧ n ≤ high) : (int n).intIn? low high = some n := by
  rw [int, intIn?, toInt?_ofInt, Option.filter_some, if_pos (decide_eq_true h)]

lemma natBelow?_nat {n : Nat} (h : n < limit) : (nat n).natBelow? limit = some n := by
  rw [nat, natBelow?, intIn?_int (by omega), Option.map_some, Int.toNat_natCast]

lemma uint64?_nat (x : UInt64) : (nat x.toNat).uint64? = some x := by
  rw [uint64?, natBelow?_nat x.toNat_lt, Option.map_some, UInt64.ofNat_toNat]

lemma mapM_map_eq_some {α β γ : Type} {f : β → Option γ} {g : α → β} {k : α → γ} {l : List α}
    (h : ∀ x ∈ l, f (g x) = some (k x)) : (l.map g).mapM f = some (l.map k) := by
  induction l with
  | nil => rfl
  | cons x l ih =>
    have hrest := ih fun y hy => h y (List.mem_cons_of_mem x hy)
    rw [List.map_cons, List.mapM_cons, h x List.mem_cons_self, hrest]
    rfl

/-- The entries of one name, where no two entries have the same. -/
lemma filter_entry (h : (entries.map Prod.fst).Nodup) {e : String × Json} (he : e ∈ entries) :
    (entries.map fun (k, v) => (some k, v)).filter (·.1 == some e.1) = [(some e.1, e.2)] := by
  induction entries with
  | nil => cases he
  | cons a entries ih =>
    obtain ⟨hnotin, hnodup⟩ := List.nodup_cons.mp h
    rw [List.map_cons, List.filter_cons]
    rcases List.mem_cons.mp he with rfl | he
    · have hrest : (entries.map fun (k, v) => (some k, v)).filter (·.1 == some e.1) = [] := by
        simp only [List.filter_eq_nil_iff, List.mem_map]
        rintro _ ⟨b, hb, rfl⟩ heq
        exact hnotin (List.mem_map.mpr ⟨b, hb, Option.some.inj (eq_of_beq heq)⟩)
      rw [if_pos (beq_self_eq_true _), hrest]
    · have hne : a.1 ≠ e.1 := fun heq => hnotin (List.mem_map.mpr ⟨e, he, heq.symm⟩)
      rw [if_neg (by simpa using hne), ih hnodup he]

/-- The fields of a written structure are found under their names. -/
lemma fieldValues?_fields {names : List String} (hnames : entries.map Prod.fst = names)
    (h : names.Nodup) :
    (fields entries).fieldValues? names = some (entries.map fun e => some e.2) := by
  subst hnames
  have hkeys : (entries.map fun (k, v) => (some k, v)).any (·.1.isNone) = false := by
    simp
  rw [fields, fieldValues?, hkeys, if_neg Bool.false_ne_true]
  refine mapM_map_eq_some fun e he => ?_
  rw [filter_entry h he]

lemma plain_nat (n : Nat) : Plain (nat n) := .int n

lemma plain_tagged {tag : String} (h : Plain j) : Plain (tagged tag j) :=
  .fields _ fun e he => by
    rw [List.mem_singleton.mp he]
    exact h

lemma plain_pair {first second : String} {v w : Json} (hv : Plain v) (hw : Plain w) :
    Plain (fields [(first, v), (second, w)]) :=
  .fields _ fun e he => by
    rcases List.mem_pair.mp he with rfl | rfl
    · exact hv
    · exact hw

end Json

namespace Identity

lemma ofJson?_toJson (i : Identity) : ofJson? i.toJson = some i := by
  obtain ⟨high, trace, parent, span⟩ := i
  have hfields : (toJson ⟨high, trace, parent, span⟩).fieldValues?
      ["trace_id_high", "trace_id", "parent_span_id", "span_id"] =
      some [some (.nat high.toNat), some (.nat trace.toNat),
        some (.optional (fun (p : UInt64) => .nat p.toNat) parent), some (.nat span.toNat)] :=
    Json.fieldValues?_fields rfl (by decide)
  rw [ofJson?, hfields]
  simp only [Json.uint64?_nat, Option.bind_eq_bind, Option.bind_some]
  cases parent with
  | none => rfl
  | some p =>
    have hparent : (Json.nat p.toNat).uint64?.map some = some (some p) := by
      rw [Json.uint64?_nat, Option.map_some]
    exact congrArg (Option.bind · _) hparent

lemma plain_toJson (i : Identity) : Json.Plain i.toJson := by
  have hparent : Json.Plain (.optional (fun (p : UInt64) => .nat p.toNat) i.parent) := by
    cases i.parent with
    | none => exact .null
    | some p => exact Json.plain_nat p.toNat
  refine .fields _ ?_
  simp only [List.forall_mem_cons, List.not_mem_nil, false_implies, implies_true, and_true]
  exact ⟨Json.plain_nat _, Json.plain_nat _, hparent, Json.plain_nat _⟩

end Identity

lemma Flags.ofJson?_toJson (f : Flags) : ofJson? f.toJson = some f := by
  rw [ofJson?, toJson, Json.natBelow?_nat f.bits.toNat_lt, Option.map_some, UInt8.ofNat_toNat]

lemma Endpoint.ofJson?_toJson (e : Endpoint) : ofJson? e.toJson = some e := by
  have htext : e.toJson.text? = some e.text := rfl
  rw [ofJson?, htext, Option.bind_eq_bind, Option.bind_some, text, String.toList_ofList,
    read?_chars]

namespace BinaryValue

/-- The floating-point number that a value is. -/
def double? : BinaryValue → Option Binary64
  | double x => some x
  | _ => none

lemma ofJson?_bytes (b : List UInt8) : ofJson? (toJson (bytes b)) = some (bytes b) := by
  have hbytes : (b.map fun x => Json.nat x.toNat).mapM (Json.natBelow? 256) =
      some (b.map UInt8.toNat) :=
    Json.mapM_map_eq_some fun x _ => Json.natBelow?_nat x.toNat_lt
  have hvalues : (b.map UInt8.toNat).map UInt8.ofNat = b := by
    rw [List.map_map]
    exact List.map_id'' (fun x => UInt8.ofNat_toNat) b
  have hread : ofJson? (toJson (bytes b)) =
      ((b.map fun x => Json.nat x.toNat).mapM (Json.natBelow? 256)).bind
        fun ns => some (bytes (ns.map UInt8.ofNat)) := rfl
  rw [hread, hbytes, Option.bind_some, hvalues]

lemma ofJson?_toJson {v : BinaryValue} (h : v.double? = none) : ofJson? v.toJson = some v := by
  cases v with
  | bool b => rfl
  | bytes b => exact ofJson?_bytes b
  | i16 n =>
    have hn : (Json.int n.toInt).intIn? (-32768) 32767 = some n.toInt :=
      Json.intIn?_int ⟨n.le_toInt, Int.le_of_lt_add_one n.toInt_lt⟩
    have hread := congrArg (Option.map fun n => i16 (Int16.ofInt n)) hn
    rw [Option.map_some, Int16.ofInt_toInt] at hread
    exact hread
  | i32 n =>
    have hn : (Json.int n.toInt).intIn? (-2147483648) 2147483647 = some n.toInt :=
      Json.intIn?_int ⟨n.le_toInt, Int.le_of_lt_add_one n.toInt_lt⟩
    have hread := congrArg (Option.map fun n => i32 (Int32.ofInt n)) hn
    rw [Option.map_some, Int32.ofInt_toInt] at hread
    exact hread
  | i64 n =>
    have hn : (Json.int n.toInt).intIn? (-9223372036854775808) 9223372036854775807 =
        some n.toInt := Json.intIn?_int ⟨n.le_toInt, Int.le_of_lt_add_one n.toInt_lt⟩
    have hread := congrArg (Option.map fun n => i64 (Int64.ofInt n)) hn
    rw [Option.map_some, Int64.ofInt_toInt] at hread
    exact hread
  | double x => cases h
  | string s => rfl

lemma plain_toJson {v : BinaryValue} (h : ∀ x, v.double? = some x → x.isFinite = false) :
    Json.Plain v.toJson := by
  apply Json.plain_tagged
  cases v with
  | bool b => exact .bool b
  | bytes b =>
    refine .array _ fun j hj => ?_
    obtain ⟨x, -, rfl⟩ := List.mem_map.mp hj
    exact Json.plain_nat x.toNat
  | i16 n => exact .int n.toInt
  | i32 n => exact .int n.toInt
  | i64 n => exact .int n.toInt
  | double x =>
    rw [contents, Json.double, h x rfl]
    exact .null
  | string s => exact .text s

/-- A number that is not finite is refused. -/
lemma ofJson?_not_finite {x : Binary64} (h : x.isFinite = false) :
    ofJson? (toJson (double x)) = none := by
  rw [toJson, contents, Json.double, h]
  rfl

end BinaryValue

namespace Annotation

/-- The floating-point number that an annotation holds. -/
def double? : Annotation → Option Binary64
  | binary _ value => value.double?
  | _ => none

variable {a : Annotation} {value : Json}

lemma pair?_fields {first second : String} (hne : first ≠ second)
    (f : Json → Json → Option Annotation) (v w : Json) :
    pair? first second f (.fields [(first, v), (second, w)]) = f v w := by
  have hfields : (Json.fields [(first, v), (second, w)]).fieldValues? [first, second] =
      some [some v, some w] :=
    Json.fieldValues?_fields rfl (by simp [hne])
  rw [pair?, hfields]

lemma peer?_fields (f : String → Endpoint → Annotation) (service : String) (address : Endpoint) :
    peer? f (.fields [("service_name", .text service), ("endpoint", address.toJson)]) =
      some (f service address) := by
  rw [peer?, pair?_fields (by decide), Endpoint.ofJson?_toJson]
  rfl

lemma filled?_binary (key : String) (value : BinaryValue) :
    filled? "Binary" (.fields [("key", .text key), ("value", value.toJson)]) =
      (BinaryValue.ofJson? value.toJson).map (binary key) := by
  have hread : ∀ j, filled? "Binary" j = pair? "key" "value"
      (fun k v => do return binary (← k.text?) (← BinaryValue.ofJson? v)) j := fun j => rfl
  rw [hread, pair?_fields (by decide)]
  exact (Option.map_eq_bind ..).symm

lemma bare?_variant (h : a.contents = none) : bare? a.variant = some a := by
  cases a <;> first | rfl | cases h

lemma filled?_variant (h : a.contents = some value) (hdouble : a.double? = none) :
    filled? a.variant value = some a := by
  cases a with
  | localAddr address =>
    cases h
    exact congrArg (Option.map localAddr) address.ofJson?_toJson
  | clientAddr address =>
    cases h
    exact congrArg (Option.map clientAddr) address.ofJson?_toJson
  | serverAddr service address =>
    cases h
    exact peer?_fields serverAddr service address
  | messageAddr service address =>
    cases h
    exact peer?_fields messageAddr service address
  | binary key v =>
    cases h
    have hv : BinaryValue.ofJson? v.toJson = some v := BinaryValue.ofJson?_toJson hdouble
    rw [variant, filled?_binary, hv, Option.map_some]
  | tag key v =>
    cases h
    have hread : ∀ j, filled? "Tag" j = pair? "key" "value"
        (fun k v => do return tag (← k.text?) (← v.text?)) j := fun j => rfl
    rw [variant, hread, pair?_fields (by decide)]
    rfl
  | _ =>
    cases h <;> rfl

lemma ofJson?_toJson (h : a.double? = none) : ofJson? a.toJson = some a := by
  rw [toJson]
  split
  · rename_i hcontents
    exact bare?_variant hcontents
  · rename_i value hcontents
    exact filled?_variant hcontents h

lemma plain_toJson (h : ∀ x, a.double? = some x → x.isFinite = false) : Json.Plain a.toJson := by
  cases a with
  | serverAddr service address =>
    exact Json.plain_tagged (Json.plain_pair (.text service) (.text address.text))
  | messageAddr service address =>
    exact Json.plain_tagged (Json.plain_pair (.text service) (.text address.text))
  | binary key value =>
    exact Json.plain_tagged (Json.plain_pair (.text key) (BinaryValue.plain_toJson h))
  | tag key value => exact Json.plain_tagged (Json.plain_pair (.text key) (.text value))
  | rpc name | serviceName name | event name | localOperationStart name =>
    exact Json.plain_tagged (.text name)
  | localAddr address | clientAddr address => exact Json.plain_tagged (.text address.text)
  | _ => exact .text _

/-- An annotation that holds a number that is not finite is refused. -/
lemma ofJson?_not_finite {x : Binary64} (h : a.double? = some x) (hx : x.isFinite = false) :
    ofJson? a.toJson = none := by
  cases a with
  | binary key value =>
    cases value with
    | double y =>
      cases h
      have hread : ofJson? (toJson (binary key (.double x))) = filled? "Binary"
          (.fields [("key", .text key), ("value", BinaryValue.toJson (.double x))]) := rfl
      rw [hread, filled?_binary, BinaryValue.ofJson?_not_finite hx, Option.map_none]
    | _ => cases h
  | _ => cases h

end Annotation

namespace Record

lemma ofJson?_toJson (r : Record) :
    ofJson? r.toJson = do
      return { r with annotation := ← Annotation.ofJson? r.annotation.toJson } := by
  obtain ⟨identity, flags, timestamp, annotation⟩ := r
  have hfields : (toJson ⟨identity, flags, timestamp, annotation⟩).fieldValues?
      ["identity", "flags", "timestamp_micros", "annotation"] =
      some [some identity.toJson, some flags.toJson, some (.nat timestamp.toNat),
        some annotation.toJson] :=
    Json.fieldValues?_fields rfl (by decide)
  rw [ofJson?, hfields]
  simp only [Identity.ofJson?_toJson, Flags.ofJson?_toJson, Json.uint64?_nat, Option.bind_eq_bind,
    Option.bind_some]

lemma plain_toJson {r : Record} (h : ∀ x, r.annotation.double? = some x → x.isFinite = false) :
    Json.Plain r.toJson := by
  refine .fields _ ?_
  simp only [List.forall_mem_cons, List.not_mem_nil, false_implies, implies_true, and_true]
  exact ⟨r.identity.plain_toJson, Json.plain_nat _, Json.plain_nat _, Annotation.plain_toJson h⟩

/-- What the JSON text of a record says about the record. -/
structure DecodesBack (r : Record) : Prop where
  decoded : r.annotation.double? = none → decode? ofJson? r.toJson.compact = some r
  distinct : ∀ s : Record, r.annotation.double? = none → s.annotation.double? = none →
    r ≠ s → r.toJson.compact ≠ s.toJson.compact
  refused : ∀ x, r.annotation.double? = some x → (x.isNaN = true ∨ x.isInfinite = true) →
    decode? ofJson? r.toJson.compact = none

lemma decode?_compact {r : Record} (h : ∀ x, r.annotation.double? = some x → x.isFinite = false) :
    decode? ofJson? r.toJson.compact = ofJson? r.toJson := by
  rw [decode?, Json.read?_compact (plain_toJson h)]
  rfl

lemma decode?_toJson {r : Record} (h : r.annotation.double? = none) :
    decode? ofJson? r.toJson.compact = some r := by
  have hplain : ∀ x, r.annotation.double? = some x → x.isFinite = false := by
    rw [h]
    rintro x ⟨⟩
  rw [decode?_compact hplain, ofJson?_toJson, Annotation.ofJson?_toJson h]
  rfl

lemma decode?_not_finite {r : Record} {x : Binary64} (h : r.annotation.double? = some x)
    (hx : x.isFinite = false) : decode? ofJson? r.toJson.compact = none := by
  have hplain : ∀ y, r.annotation.double? = some y → y.isFinite = false := by
    rw [h]
    rintro y ⟨⟩
    exact hx
  rw [decode?_compact hplain, ofJson?_toJson, Annotation.ofJson?_not_finite h hx]
  rfl

/-- Every record is decoded from its own text, and no two have the same; but a floating-point number
that is not finite makes the text one that is refused. -/
theorem decodes_back (r : Record) : r.DecodesBack where
  decoded := decode?_toJson
  distinct := by
    intro s hr hs hne htext
    have hsame := decode?_toJson hr
    rw [htext, decode?_toJson hs] at hsame
    exact hne (Option.some.inj hsame).symm
  refused := by
    intro x hx hnot
    have hfinite : x.isFinite = false := by
      simp only [Binary64.isNaN, Binary64.isInfinite, decide_eq_true_eq, beq_iff_eq] at hnot
      simp only [Binary64.isFinite, decide_eq_false_iff_not]
      omega
    exact decode?_not_finite hx hfinite

end Record

end TracePipeline
