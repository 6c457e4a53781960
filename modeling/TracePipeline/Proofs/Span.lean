import Mathlib.Data.List.Induction
import TracePipeline.Proofs.Assembler.Calls

/-!
# What a span says about its records

All that a span says is told by its records: by the first or the last of some kind, or by the
earliest or latest time. Times may come in any order. The name from a remote call goes before that
of a local operation, whichever came first. No record shows up in two of the lists of a span.
-/

namespace TracePipeline

namespace Annotation

/-- Whether a call or a local operation starts with the annotation. -/
def isStart : Annotation → Bool
  | clientSend | serverRecv | localOperationStart _ => true
  | _ => false

/-- Whether a call or a local operation is over with the annotation. -/
def isStop : Annotation → Bool
  | clientRecv | serverSend | localOperationStop => true
  | _ => false

def rpc? : Annotation → Option String
  | rpc name => some name
  | _ => none

def operation? : Annotation → Option String
  | localOperationStart name => some name
  | _ => none

def service? : Annotation → Option String
  | serviceName name => some name
  | _ => none

def localAddr? : Annotation → Option Endpoint
  | localAddr address => some address
  | _ => none

end Annotation

namespace Record

/-- The time of a record whose annotation is of some kind. -/
def timeIf (p : Annotation → Bool) (r : Record) : Option UInt64 :=
  if p r.annotation then some r.timestamp else none

/-- What a record adds to one of the lists of its span. -/
inductive Entry where
  | remote (peer : RemoteEndpoint)
  | timed (time : UInt64) (mark : String)
  | binary (key : String) (value : BinaryValue)

namespace Entry

def remote? : Entry → Option RemoteEndpoint
  | remote peer => some peer
  | _ => none

def timed? : Entry → Option (UInt64 × String)
  | timed time mark => some (time, mark)
  | _ => none

def binary? : Entry → Option (String × BinaryValue)
  | binary key value => some (key, value)
  | _ => none

end Entry

/-- Remote addresses, the steps of a call and events, and pairs are listed, and nothing else is. -/
def entry? (r : Record) : Option Entry :=
  match r.annotation with
  | .serverAddr service address => some (.remote ⟨.server, some service, address⟩)
  | .clientAddr address => some (.remote ⟨.client, none, address⟩)
  | .messageAddr service address => some (.remote ⟨.messageBroker, some service, address⟩)
  | .clientSend => some (.timed r.timestamp "cs")
  | .clientRecv => some (.timed r.timestamp "cr")
  | .serverRecv => some (.timed r.timestamp "sr")
  | .serverSend => some (.timed r.timestamp "ss")
  | .wireSend => some (.timed r.timestamp "ws")
  | .wireRecv => some (.timed r.timestamp "wr")
  | .event name => some (.timed r.timestamp name)
  | .binary key value => some (.binary key value)
  | .tag key value => some (.binary key (.string value))
  | .rpc _ | .serviceName _ | .localAddr _ | .localOperationStart _ | .localOperationStop => none

end Record

namespace Span

open Record (timeIf entry?)

open Annotation (isStart isStop)

/-- A new span with records, pushed in their order. -/
def gather (i : Identity) (rs : List Record) : Span := rs.foldl push (new i)

/-- What a span says that has gathered records of an identity. -/
structure Tells (i : Identity) (rs : List Record) (s : Span) : Prop where
  identity : s.identity = i
  records : s.records = rs
  incomplete : s.isComplete = false
  lastUpdate : s.lastUpdate = (rs.map (·.timestamp)).max?.getD 0
  flags : s.flags = (rs.map (·.flags)).getLast?.getD .empty
  startTime : s.startTime = (rs.filterMap (timeIf isStart)).min?
  timed : s.duration.isSome = true ↔
    (∃ r ∈ rs, r.annotation.isStart = true) ∧ ∃ r ∈ rs, r.annotation.isStop = true
  duration : s.duration.map UInt64.toNat = (rs.filterMap (timeIf isStart)).min?.bind fun start =>
    (rs.filterMap (timeIf isStop)).getLast?.map fun stop => stop.toNat - start.toNat
  name : s.name = (rs.filterMap (fun r => r.annotation.rpc?)).getLast?.or
    (rs.filterMap (fun r => r.annotation.operation?)).head?
  serviceName : s.serviceName = (rs.filterMap (fun r => r.annotation.service?)).getLast?
  localEndpoint : s.localEndpoint = (rs.filterMap (fun r => r.annotation.localAddr?)).getLast?
  remoteEndpoints : s.remoteEndpoints = (rs.filterMap entry?).filterMap Record.Entry.remote?
  timedAnnotations : s.timedAnnotations = (rs.filterMap entry?).filterMap Record.Entry.timed?
  binaryAnnotations : s.binaryAnnotations = (rs.filterMap entry?).filterMap Record.Entry.binary?
  listedOnce : s.remoteEndpoints.length + s.timedAnnotations.length + s.binaryAnnotations.length =
    (rs.filterMap entry?).length
  reordered : ∀ rs' : List Record, rs'.Perm rs →
    (gather i rs').startTime = s.startTime ∧ (gather i rs').lastUpdate = s.lastUpdate

variable {α : Type} {i : Identity} {rs : List Record}

instance : Std.LawfulOrderMax UInt64 :=
  .of_max_le_iff
    (fun a b c => by
      rw [UInt64.max_def]
      split <;> grind)
    fun a b => by
      rw [UInt64.max_def]
      split <;> simp

lemma min?_append_toList [Min α] (l : List α) (o : Option α) :
    (l ++ o.toList).min? = l.min?.merge min o := by
  cases o with
  | none => simp
  | some a =>
    cases l with
    | nil => rfl
    | cons first rest => simp [List.min?_cons', List.foldl_append]

lemma min?_perm {l l' : List UInt64} (h : l.Perm l') : l.min? = l'.min? := by
  ext a
  simp only [List.min?_eq_some_iff, h.mem_iff]

lemma max?_perm {l l' : List UInt64} (h : l.Perm l') : l.max? = l'.max? := by
  ext a
  simp only [List.max?_eq_some_iff, h.mem_iff]

lemma serviceName_push (s : Span) (r : Record) :
    (s.push r).serviceName = r.annotation.service?.or s.serviceName := by
  obtain ⟨_, _, _, mark⟩ := r
  cases mark <;> rfl

lemma localEndpoint_push (s : Span) (r : Record) :
    (s.push r).localEndpoint = r.annotation.localAddr?.or s.localEndpoint := by
  obtain ⟨_, _, _, mark⟩ := r
  cases mark <;> rfl

lemma endTime_push (s : Span) (r : Record) :
    (s.push r).endTime = (timeIf isStop r).or s.endTime := by
  obtain ⟨_, _, _, mark⟩ := r
  cases mark <;> rfl

lemma name_push (s : Span) (r : Record) :
    (s.push r).name = r.annotation.rpc?.or (s.name.or r.annotation.operation?) := by
  obtain ⟨_, _, _, mark⟩ := r
  cases mark <;> simp [push, note, markStart, Annotation.rpc?, Annotation.operation?]

lemma startTime_push (s : Span) (r : Record) :
    (s.push r).startTime = s.startTime.merge min (timeIf isStart r) := by
  obtain ⟨_, _, _, mark⟩ := r
  cases hstart : s.startTime <;> cases mark <;>
    simp [push, note, markStart, timeIf, isStart, hstart]

lemma gather_concat (i : Identity) (rs : List Record) (r : Record) :
    gather i (rs ++ [r]) = (gather i rs).push r := by
  rw [gather, List.foldl_append]
  rfl

/-- Of what every record of some kind sets anew, the last stays. -/
lemma gather_eq_getLast? {get : Span → Option α} {f : Record → Option α}
    (hnew : get (new i) = none) (hpush : ∀ s r, get (s.push r) = (f r).or (get s))
    (rs : List Record) : get (gather i rs) = (rs.filterMap f).getLast? := by
  induction rs using List.reverseRecOn with
  | nil => exact hnew
  | append_singleton rs r ih =>
    rw [gather_concat, hpush, ih, List.filterMap_append, List.getLast?_append]
    cases h : f r <;> simp [h]

lemma identity_gather (i : Identity) (rs : List Record) : (gather i rs).identity = i := by
  induction rs using List.reverseRecOn with
  | nil => rfl
  | append_singleton rs r ih => rw [gather_concat, identity_push, ih]

lemma isComplete_gather (i : Identity) (rs : List Record) : (gather i rs).isComplete = false := by
  induction rs using List.reverseRecOn with
  | nil => rfl
  | append_singleton rs r ih => rw [gather_concat, isComplete_push, ih]

lemma records_gather (i : Identity) (rs : List Record) : (gather i rs).records = rs := by
  induction rs using List.reverseRecOn with
  | nil => rfl
  | append_singleton rs r ih => rw [gather_concat, records_push, ih]

lemma flags_gather (i : Identity) (rs : List Record) :
    (gather i rs).flags = (rs.map (·.flags)).getLast?.getD .empty := by
  induction rs using List.reverseRecOn with
  | nil => rfl
  | append_singleton rs r ih =>
    rw [gather_concat, List.map_append, List.map_singleton, List.getLast?_concat]
    rfl

lemma lastUpdate_gather (i : Identity) (rs : List Record) :
    (gather i rs).lastUpdate = (rs.map (·.timestamp)).max?.getD 0 := by
  induction rs using List.reverseRecOn with
  | nil => rfl
  | append_singleton rs r ih =>
    have hpush : ((gather i rs).push r).lastUpdate = max (gather i rs).lastUpdate r.timestamp := rfl
    rw [gather_concat, hpush, ih, List.map_append, List.map_singleton]
    cases rs.map (·.timestamp) with
    | nil =>
      change max 0 r.timestamp = r.timestamp
      rw [UInt64.max_def, if_pos UInt64.zero_le]
    | cons first rest => simp [List.max?_cons', List.foldl_append, -List.max?_cons]

lemma startTime_gather (i : Identity) (rs : List Record) :
    (gather i rs).startTime = (rs.filterMap (timeIf isStart)).min? := by
  induction rs using List.reverseRecOn with
  | nil => rfl
  | append_singleton rs r ih =>
    have hlast : [r].filterMap (timeIf isStart) = (timeIf isStart r).toList := by
      cases h : timeIf isStart r <;> simp [h]
    rw [gather_concat, startTime_push, ih, List.filterMap_append, hlast, min?_append_toList]

lemma endTime_gather (i : Identity) (rs : List Record) :
    (gather i rs).endTime = (rs.filterMap (timeIf isStop)).getLast? :=
  gather_eq_getLast? rfl endTime_push rs

lemma name_gather (i : Identity) (rs : List Record) :
    (gather i rs).name = (rs.filterMap (fun r => r.annotation.rpc?)).getLast?.or
      (rs.filterMap (fun r => r.annotation.operation?)).head? := by
  induction rs using List.reverseRecOn with
  | nil => rfl
  | append_singleton rs r ih =>
    rw [gather_concat, name_push, ih, List.filterMap_append, List.filterMap_append,
      List.getLast?_append, List.head?_append, Option.or_assoc, Option.or_assoc]
    obtain ⟨_, _, _, mark⟩ := r
    cases mark <;> simp [ Annotation.rpc?, Annotation.operation?]

lemma duration_eq (s : Span) : s.duration.map UInt64.toNat =
    s.startTime.bind fun start => s.endTime.map fun stop => stop.toNat - start.toNat := by
  cases hstart : s.startTime with
  | none => simp [duration, hstart]
  | some start =>
    cases hstop : s.endTime with
    | none => simp [duration, hstart, hstop]
    | some stop =>
      by_cases hle : start ≤ stop
      · simp [duration, hstart, hstop, hle, UInt64.toNat_sub_of_le _ _ hle]
      · have hlt : stop.toNat - start.toNat = 0 := by
          have hlt := UInt64.lt_iff_toNat_lt.mp (UInt64.not_le.mp hle)
          omega
        simp [duration, hstart, hstop, hle, hlt]

lemma isSome_duration (s : Span) :
    s.duration.isSome = (s.startTime.isSome && s.endTime.isSome) := by
  cases hstart : s.startTime <;> cases hstop : s.endTime <;> simp [duration, hstart, hstop]

lemma filterMap_timeIf_ne_nil {p : Annotation → Bool} :
    rs.filterMap (timeIf p) ≠ [] ↔ ∃ r ∈ rs, p r.annotation = true := by
  simp [List.filterMap_eq_nil_iff, timeIf]

lemma isSome_startTime_gather (i : Identity) (rs : List Record) :
    (gather i rs).startTime.isSome = true ↔ ∃ r ∈ rs, r.annotation.isStart = true := by
  rw [startTime_gather, List.isSome_min?_iff, filterMap_timeIf_ne_nil]

lemma isSome_endTime_gather (i : Identity) (rs : List Record) :
    (gather i rs).endTime.isSome = true ↔ ∃ r ∈ rs, r.annotation.isStop = true := by
  rw [endTime_gather, List.getLast?_isSome, filterMap_timeIf_ne_nil]

/-- Each kind of entry has a list of its own. -/
lemma length_entries (l : List Record.Entry) :
    (l.filterMap Record.Entry.remote?).length + (l.filterMap Record.Entry.timed?).length +
      (l.filterMap Record.Entry.binary?).length = l.length := by
  induction l with
  | nil => rfl
  | cons e l ih =>
    cases e <;> simp [List.filterMap_cons, Record.Entry.remote?, Record.Entry.timed?,
      Record.Entry.binary?] <;> omega

lemma remoteEndpoints_eq (s : Span) :
    s.remoteEndpoints = (s.records.filterMap entry?).filterMap Record.Entry.remote? := by
  rw [remoteEndpoints, List.filterMap_filterMap]
  congr 1
  funext ⟨_, _, _, mark⟩
  cases mark <;> rfl

lemma timedAnnotations_eq (s : Span) :
    s.timedAnnotations = (s.records.filterMap entry?).filterMap Record.Entry.timed? := by
  rw [timedAnnotations, List.filterMap_filterMap]
  congr 1
  funext ⟨_, _, _, mark⟩
  cases mark <;> rfl

lemma binaryAnnotations_eq (s : Span) :
    s.binaryAnnotations = (s.records.filterMap entry?).filterMap Record.Entry.binary? := by
  rw [binaryAnnotations, List.filterMap_filterMap]
  congr 1
  funext ⟨_, _, _, mark⟩
  cases mark <;> rfl

theorem tells_of_records (i : Identity) (rs : List Record) : Tells i rs (gather i rs) where
  identity := identity_gather i rs
  records := records_gather i rs
  incomplete := isComplete_gather i rs
  lastUpdate := lastUpdate_gather i rs
  flags := flags_gather i rs
  startTime := startTime_gather i rs
  timed := by
    rw [isSome_duration, Bool.and_eq_true, isSome_startTime_gather, isSome_endTime_gather]
  duration := by rw [duration_eq, startTime_gather, endTime_gather]
  name := name_gather i rs
  serviceName := gather_eq_getLast? rfl serviceName_push rs
  localEndpoint := gather_eq_getLast? rfl localEndpoint_push rs
  remoteEndpoints := by rw [remoteEndpoints_eq, records_gather]
  timedAnnotations := by rw [timedAnnotations_eq, records_gather]
  binaryAnnotations := by rw [binaryAnnotations_eq, records_gather]
  listedOnce := by
    rw [remoteEndpoints_eq, timedAnnotations_eq, binaryAnnotations_eq, records_gather,
      length_entries]
  reordered rs' h := by
    rw [startTime_gather, startTime_gather, lastUpdate_gather, lastUpdate_gather]
    exact ⟨min?_perm (h.filterMap _), congrArg (·.getD 0) (max?_perm (h.map _))⟩

end Span

end TracePipeline
