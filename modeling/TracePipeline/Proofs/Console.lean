import TracePipeline.Console
import TracePipeline.Proofs.Printing

/-!
# Lines of the console

Each record before the first shutdown is printed with a line feed at its end, and no other call prints
anything. The texts of an annotation are printed as they stand, so a record is on one line if and only if
none of them has a line feed. A record with one that does may be printed like several others.
-/

namespace TracePipeline

open Text

namespace BinaryValue

/-- The texts of a value that are printed as they stand. -/
def texts : BinaryValue → List String
  | string s => [s]
  | bool _ | bytes _ | i16 _ | i32 _ | i64 _ | double _ => []

lemma lineFeeds_text (v : BinaryValue) : lineFeeds v.text = (v.texts.map lineFeeds).sum := by
  cases v with
  | bool b => exact lineFeeds_eq_zero_iff.mpr (oneLine_truth b)
  | bytes bytes => exact lineFeeds_eq_zero_iff.mpr (oneLine_ofList (lineFeed_notMem_hexBytes bytes))
  | i16 n => exact lineFeeds_eq_zero_iff.mpr (oneLine_showInt _)
  | i32 n => exact lineFeeds_eq_zero_iff.mpr (oneLine_showInt _)
  | i64 n => exact lineFeeds_eq_zero_iff.mpr (oneLine_showInt _)
  | double x => exact lineFeeds_eq_zero_iff.mpr (x.oneLine_textWith _)
  | string s => rfl

end BinaryValue

namespace Annotation

/-- The texts of an annotation that are printed as they stand. -/
def texts : Annotation → List String
  | rpc name | serviceName name | event name | localOperationStart name => [name]
  | serverAddr service _ | messageAddr service _ => [service]
  | binary key value => key :: value.texts
  | tag key value => [key, value]
  | clientSend | clientRecv | serverRecv | serverSend | wireSend | wireRecv | localAddr _ | clientAddr _
  | localOperationStop => []

/-- No line feed is printed but those of the texts. -/
lemma lineFeeds_text (a : Annotation) : lineFeeds a.text = (a.texts.map lineFeeds).sum := by
  have hpair (key value : String) :
      lineFeeds (key ++ "=" ++ value) = lineFeeds key + lineFeeds value := by
    have hequals : OneLine "=" := by decide
    rw [Text.lineFeeds_append, Text.lineFeeds_append, lineFeeds_eq_zero_iff.mpr hequals, Nat.add_zero]
  have hpeer {mark : String} (hmark : OneLine mark) (service : String) (address : Endpoint) :
      lineFeeds (mark ++ service ++ "@" ++ address.text) = lineFeeds service := by
    have hat : OneLine "@" := by decide
    rw [Text.lineFeeds_append, Text.lineFeeds_append, hmark.lineFeeds_append,
      lineFeeds_eq_zero_iff.mpr hat, lineFeeds_eq_zero_iff.mpr address.oneLine_text]
    rfl
  cases a with
  | clientSend | clientRecv | serverRecv | serverSend | wireSend | wireRecv | localOperationStop => decide
  | rpc name => exact OneLine.lineFeeds_append (by decide) name
  | serviceName name => exact OneLine.lineFeeds_append (by decide) name
  | event name => exact OneLine.lineFeeds_append (by decide) name
  | localOperationStart name => exact OneLine.lineFeeds_append (by decide) name
  | localAddr address =>
    exact lineFeeds_eq_zero_iff.mpr (OneLine.append (by decide) address.oneLine_text)
  | clientAddr address =>
    exact lineFeeds_eq_zero_iff.mpr (OneLine.append (by decide) address.oneLine_text)
  | serverAddr service address => exact hpeer (by decide) service address
  | messageAddr service address => exact hpeer (by decide) service address
  | binary key value =>
    have hvalue := hpair key value.text
    rw [value.lineFeeds_text] at hvalue
    exact hvalue
  | tag key value => exact hpair key value

end Annotation

namespace Console

/-- What is printed for a record, without the line feed at the end. -/
def content (r : Record) : String :=
  showNat r.timestamp.toNat ++ " " ++ r.identity.text ++ " flags=0x" ++ r.flags.hexByte ++ " " ++
    r.annotation.text

/-- The records of calls before the first shutdown. -/
def shown : List Step → List Record
  | [] | .shutdown :: _ => []
  | .record r :: steps => r :: shown steps

/-- All that is printed. -/
def output (steps : List Step) : String := String.join (run {} steps)

/-- There are as many lines as records before the first shutdown. -/
def OneLineEach (steps : List Step) : Prop := lineFeeds (output steps) = (shown steps).length

/-- What is printed for a sequence of calls, by the records before the first shutdown and the texts in
their annotations. -/
structure PrintsRecords (steps : List Step) : Prop where
  pieces : run {} steps =
    (shown steps).map line ++ List.replicate (steps.length - (shown steps).length) ""
  lineFeeds : lineFeeds (output steps) = (shown steps).length +
    (((shown steps).flatMap fun r => r.annotation.texts).map Text.lineFeeds).sum
  oneLineEach_iff : OneLineEach steps ↔ ∀ r ∈ shown steps, ∀ s ∈ r.annotation.texts, OneLine s
  split : OneLineEach steps →
    (output steps).toList.splitOn '\n' = (shown steps).map (content · |>.toList) ++ [[]]

lemma lineFeeds_content (r : Record) :
    Text.lineFeeds (content r) = (r.annotation.texts.map Text.lineFeeds).sum := by
  have htime : OneLine (showNat r.timestamp.toNat ++ " ") := (oneLine_showNat _).append (by decide)
  have hidentity : OneLine (showNat r.timestamp.toNat ++ " " ++ r.identity.text) :=
    htime.append r.identity.oneLine_text
  have hflags : OneLine (showNat r.timestamp.toNat ++ " " ++ r.identity.text ++ " flags=0x" ++
      r.flags.hexByte) := (hidentity.append (by decide)).append r.flags.oneLine_hexByte
  unfold content
  rw [(hflags.append (by decide)).lineFeeds_append, r.annotation.lineFeeds_text]

lemma sum_lineFeeds_content (records : List Record) :
    ((records.map content).map Text.lineFeeds).sum =
      ((records.flatMap fun r => r.annotation.texts).map Text.lineFeeds).sum := by
  induction records with
  | nil => rfl
  | cons r records ih =>
    rw [List.map_cons, List.map_cons, List.sum_cons, ih, lineFeeds_content, List.flatMap_cons,
      List.map_append, List.sum_append]

lemma oneLine_content_iff (r : Record) :
    OneLine (content r) ↔ ∀ s ∈ r.annotation.texts, OneLine s := by
  rw [← lineFeeds_eq_zero_iff, lineFeeds_content]
  exact sum_lineFeeds_eq_zero_iff

/-- After a shutdown nothing is printed. -/
lemma run_shutdown (steps : List Step) : run ⟨true⟩ steps = List.replicate steps.length "" := by
  induction steps with
  | nil => rfl
  | cons call steps ih =>
    cases call with
    | record r => exact congrArg ("" :: ·) ih
    | shutdown => exact congrArg ("" :: ·) ih

lemma run_eq (steps : List Step) : run {} steps =
    (shown steps).map line ++ List.replicate (steps.length - (shown steps).length) "" := by
  induction steps with
  | nil => rfl
  | cons call steps ih =>
    cases call with
    | record r =>
      unfold run shown
      rw [List.map_cons, List.length_cons, List.length_cons, Nat.add_sub_add_right, List.cons_append,
        ← ih]
      rfl
    | shutdown => exact congrArg ("" :: ·) (run_shutdown steps)

lemma output_eq_lined (steps : List Step) : output steps = lined ((shown steps).map content) := by
  have hnothing (n : Nat) : String.join (List.replicate n "") = "" := by
    induction n with
    | zero => rfl
    | succ n ih => rw [List.replicate_succ, String.join_cons, ih, String.append_empty]
  unfold output lined
  rw [run_eq, String.join_append, hnothing, String.append_empty, List.map_map]
  rfl

lemma oneLineEach_iff (steps : List Step) :
    OneLineEach steps ↔ ∀ s ∈ (shown steps).map content, OneLine s := by
  rw [← lineFeeds_lined_eq_length_iff, List.length_map, ← output_eq_lined]
  exact Iff.rfl

theorem prints_records (steps : List Step) : PrintsRecords steps where
  pieces := run_eq steps
  lineFeeds := by
    rw [output_eq_lined, lineFeeds_lined, List.length_map, sum_lineFeeds_content]
  oneLineEach_iff := by
    rw [oneLineEach_iff, List.forall_mem_map]
    exact forall₂_congr fun r _ => oneLine_content_iff r
  split := by
    intro honeLine
    rw [output_eq_lined, splitOn_lined ((oneLineEach_iff steps).mp honeLine), List.map_map]
    rfl

/-! ### Forged lines -/

/-- The record with an event instead, in whose name the line of another record follows. -/
def forged (r : Record) (name : String) (other : Record) : Record :=
  { r with annotation := .event (name ++ "\n" ++ content other) }

lemma not_oneLineEach_forged (r : Record) (name : String) (other : Record) :
    ¬ OneLineEach [.record (forged r name other)] := by
  intro honeLine
  have hcontent := (oneLineEach_iff _).mp honeLine _ List.mem_cons_self
  have hname := (oneLine_content_iff (forged r name other)).mp hcontent _ List.mem_cons_self
  apply hname
  rw [String.toList_append, String.toList_append]
  exact List.mem_append_left _ (List.mem_append_right _ List.mem_cons_self)

/-- The line of any record can be printed without that record. -/
lemma output_forged (r : Record) (name : String) (other : Record) :
    output [.record (forged r name other)] =
      output [.record { r with annotation := .event name }, .record other] := by
  have hline : line (forged r name other) = line { r with annotation := .event name } ++ line other := by
    have hother : line other = content other ++ "\n" := rfl
    rw [hother]
    unfold line forged Annotation.text
    simp only [String.append_assoc]
  unfold output
  rw [run_eq, run_eq]
  simp only [shown, List.map_cons, List.map_nil, List.length_cons, List.length_nil, Nat.sub_self,
    List.replicate_zero, List.append_nil, String.join_cons, String.join_nil, String.append_empty, hline]

/-- An event of the first span. -/
def eventAt (time : UInt64) (name : String) : Record := ⟨⟨0, 1, none, 1⟩, .empty, time, .event name⟩

/-- An event whose name has the line of a second event in it. -/
def twoEvents : Record := eventAt 5 "a\n6 0000000000000001.0000000000000001 flags=0x00 event=b"

theorem not_oneLineEach_twoEvents :
    ¬ OneLineEach [.record twoEvents] ∧
      output [.record twoEvents] = output [.record (eventAt 5 "a"), .record (eventAt 6 "b")] := by
  have hforged : twoEvents = forged (eventAt 5 "") "a" (eventAt 6 "b") := by decide +kernel
  rw [hforged]
  exact ⟨not_oneLineEach_forged _ _ _, output_forged _ _ _⟩

end Console

end TracePipeline
