import Mathlib.Algebra.GroupWithZero.Nat
import TracePipeline.Proofs.Assembler.History

/-!
# Counters of an assembler

One counter goes up with every record that is put into a span, the other with every span that is
handed over incomplete. A call moves records between the open spans and those that it hands over,
but their number only changes by the record that it accepts.
-/

namespace TracePipeline

namespace Assembler

/-- How many records some spans hold. -/
def recordsIn (spans : List Span) : Nat := (spans.map fun s => s.records.length).sum

/-- How many records the spans in a table hold. -/
def recordsAt (t : Table Span) : Nat := (t.map fun e => e.2.records.length).sum

lemma foldl_spanFlushed (spans : List Span) (st : Statistics) :
    spans.foldl (fun st _ => st.spanFlushed) st =
      { st with spansFlushed := st.spansFlushed + UInt64.ofNat spans.length } := by
  induction spans generalizing st with
  | nil => simp
  | cons s spans ih =>
    rw [List.foldl_cons, ih]
    simp only [Statistics.spanFlushed, List.length_cons, UInt64.ofNat_add, UInt64.add_assoc]
    rw [UInt64.add_comm 1]
    rfl

lemma recordsProcessed_step (a : Assembler) (c : Call) :
    (a.step c).1.statistics.recordsProcessed =
      a.statistics.recordsProcessed + UInt64.ofNat (a.accepts c).toList.length := by
  cases c with
  | record r =>
    simp only [step, Assembler.record, accepts]
    split
    · simp
    · split <;> rfl
  | flushOld now => simp [step, flushOld, foldl_spanFlushed, accepts]
  | flushAll => simp [step, flushAll, foldl_spanFlushed, accepts]
  | shutdown =>
    rw [step_shutdown]
    split <;> simp [step, flushAll, foldl_spanFlushed, accepts]

lemma incomplete_of_mem {a : Assembler} (h : a.WellFormed) {e : Identity × Span}
    (he : e ∈ a.opened) : e.2.isComplete = false :=
  h.incomplete e.1 e.2 (Table.get?_of_mem h.opened_distinct he)

-- the spans of a sweep or a flush come from the open table, so all of them are counted
lemma countP_flushed {a : Assembler} (h : a.WellFormed) {t : Table Span}
    (ht : List.Sublist t a.opened) :
    (t.map Prod.snd).countP (fun s => !s.isComplete) = (t.map Prod.snd).length := by
  rw [List.countP_eq_length]
  intro s hs
  obtain ⟨e, he, rfl⟩ := List.mem_map.mp hs
  simp [incomplete_of_mem h (ht.mem he)]

lemma spansFlushed_step {a : Assembler} (h : a.WellFormed) (c : Call) :
    (a.step c).1.statistics.spansFlushed = a.statistics.spansFlushed +
      UInt64.ofNat ((a.step c).2.countP fun s => !s.isComplete) := by
  have hall := countP_flushed h (List.Sublist.refl _)
  cases c with
  | record r =>
    cases hc : a.closed.get? r.identity with
    | some time => simp [step_record_late hc]
    | none =>
      cases hr : r.annotation.isTerminal with
      | false => simp [step_record_gathers hc hr, Statistics.recordProcessed]
      | true => simp [step_record_ends hc hr, Statistics.recordProcessed]
  | flushOld now =>
    have hstale : (a.stale now).countP (fun s => !s.isComplete) = (a.stale now).length :=
      countP_flushed h List.filter_sublist
    simp only [step, flushOld, foldl_spanFlushed, hstale]
  | flushAll => simp only [step, flushAll, foldl_spanFlushed, hall]
  | shutdown =>
    rw [step_shutdown]
    split
    · simp
    · simp only [step, flushAll, foldl_spanFlushed, hall]

lemma recordsIn_map_snd (t : Table Span) : recordsIn (t.map Prod.snd) = recordsAt t := by
  rw [recordsIn, recordsAt, List.map_map]
  rfl

lemma recordsAt_cons (i : Identity) (s : Span) (t : Table Span) :
    recordsAt ((i, s) :: t) = s.records.length + recordsAt t := by
  simp [recordsAt]

lemma recordsAt_filter (t : Table Span) (p : Identity × Span → Bool) :
    recordsAt (t.filter fun e => !p e) + recordsAt (t.filter p) = recordsAt t := by
  have hperm := (List.filter_append_perm p t).map fun e => e.2.records.length
  have hsum := hperm.sum_nat
  rw [List.map_append, List.sum_append_nat] at hsum
  simp only [recordsAt]
  omega

lemma recordsAt_without {a : Assembler} (h : a.WellFormed) (i : Identity) :
    (a.spanFor i).records.length + recordsAt (a.opened.without i) = recordsAt a.opened := by
  rw [spanFor]
  cases hs : a.opened.get? i with
  | none => simp [Table.without_of_get?_eq_none hs]
  | some s =>
    have hperm := (Table.perm_cons_without h.opened_distinct hs).map fun e => e.2.records.length
    rw [Option.getD_some, ← recordsAt_cons i s]
    exact hperm.sum_nat.symm

lemma recordsAt_step {a : Assembler} (h : a.WellFormed) (c : Call) :
    recordsAt (a.step c).1.opened + recordsIn (a.step c).2 =
      recordsAt a.opened + (a.accepts c).toList.length := by
  have hflush : recordsAt a.flushAll.1.opened + recordsIn a.flushAll.2.spans = recordsAt a.opened := by
    change recordsAt [] + recordsIn (a.opened.map Prod.snd) = _
    rw [recordsIn_map_snd]
    simp [recordsAt]
  cases c with
  | record r =>
    have hspan := recordsAt_without h r.identity
    cases hc : a.closed.get? r.identity with
    | some time => simp [step_record_late hc, accepts, Table.contains, hc, recordsIn]
    | none =>
      have haccepts : a.accepts (.record r) = some r := by simp [accepts, Table.contains, hc]
      rw [haccepts, ← hspan]
      cases hr : r.annotation.isTerminal with
      | false =>
        rw [step_record_gathers hc hr]
        simp only [Table.put, recordsAt_cons, Span.records_push, recordsIn]
        simp
        omega
      | true =>
        rw [step_record_ends hc hr]
        simp [recordsIn]
        omega
  | flushOld now =>
    change recordsAt (a.opened.filter _) + recordsIn ((a.opened.filter _).map Prod.snd) = _
    rw [recordsIn_map_snd, recordsAt_filter]
    rfl
  | flushAll => exact hflush
  | shutdown =>
    rw [step_shutdown]
    split
    · simp [accepts, recordsIn]
    · exact hflush

theorem recordsProcessed_after (a : Assembler) (calls : List Call) :
    (a.after calls).statistics.recordsProcessed =
      a.statistics.recordsProcessed + UInt64.ofNat (a.accepted calls).length := by
  induction calls using List.reverseRecOn with
  | nil => simp [accepted]
  | append_singleton calls c ih =>
    rw [after_concat, recordsProcessed_step, ih, accepted_concat, List.length_append,
      UInt64.ofNat_add, UInt64.add_assoc]

theorem spansFlushed_after {a : Assembler} (h : a.WellFormed) (calls : List Call) :
    (a.after calls).statistics.spansFlushed = a.statistics.spansFlushed +
      UInt64.ofNat ((a.handedOver calls).countP fun s => !s.isComplete) := by
  induction calls using List.reverseRecOn with
  | nil => simp [handedOver]
  | append_singleton calls c ih =>
    rw [after_concat, spansFlushed_step (h.after calls), ih, handedOver_concat, List.countP_append,
      UInt64.ofNat_add, UInt64.add_assoc]

theorem recordsAt_after {a : Assembler} (h : a.WellFormed) (calls : List Call) :
    recordsAt (a.after calls).opened + recordsIn (a.handedOver calls) =
      recordsAt a.opened + (a.accepted calls).length := by
  induction calls using List.reverseRecOn with
  | nil => simp [handedOver, accepted, recordsIn]
  | append_singleton calls c ih =>
    have hstep := recordsAt_step (h.after calls) c
    have hsplit : recordsIn (a.handedOver calls ++ ((a.after calls).step c).2) =
        recordsIn (a.handedOver calls) + recordsIn ((a.after calls).step c).2 := by
      simp [recordsIn]
    rw [after_concat, handedOver_concat, accepted_concat, List.length_append, hsplit]
    omega

end Assembler

end TracePipeline
