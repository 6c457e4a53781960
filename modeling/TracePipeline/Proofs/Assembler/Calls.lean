import Mathlib.Data.List.Induction
import TracePipeline.Assembler
import TracePipeline.Proofs.Table

/-!
# Calls on an assembler

An assembler is used by calls in any order. This file says what each call does to the entries of
both tables, and that a few properties of the tables, which every call relies on, never break: an
identity has one entry at most, is not open and closed at once, and names the span that it opens.
-/

namespace TracePipeline

namespace Span

@[simp] lemma identity_new (i : Identity) : (new i).identity = i := rfl

@[simp] lemma records_new (i : Identity) : (new i).records = [] := rfl

@[simp] lemma isComplete_new (i : Identity) : (new i).isComplete = false := rfl

lemma note_keeps (s : Span) (time : UInt64) (mark : Annotation) :
    (s.note time mark).identity = s.identity ∧ (s.note time mark).isComplete = s.isComplete := by
  cases mark <;> exact ⟨rfl, rfl⟩

@[simp] lemma identity_push (s : Span) (r : Record) : (s.push r).identity = s.identity :=
  (s.note_keeps r.timestamp r.annotation).1

@[simp] lemma isComplete_push (s : Span) (r : Record) : (s.push r).isComplete = s.isComplete :=
  (s.note_keeps r.timestamp r.annotation).2

@[simp] lemma records_push (s : Span) (r : Record) : (s.push r).records = s.records ++ [r] := rfl

@[simp] lemma identity_completed (s : Span) : s.completed.identity = s.identity := rfl

@[simp] lemma records_completed (s : Span) : s.completed.records = s.records := rfl

@[simp] lemma isComplete_completed (s : Span) : s.completed.isComplete = true := rfl

end Span

namespace Assembler

/-- A call on an assembler. -/
inductive Call where
  | record (r : Record)
  | flushOld (now : UInt64)
  | flushAll
  | shutdown
  deriving DecidableEq

/-- The time at which a span closes that a call hands over. -/
def Call.closeTime (s : Span) : Call → UInt64
  | .flushOld now => now
  | _ => s.lastUpdate

/-- The assembler after a call, and the spans that it hands over in it. -/
def step (a : Assembler) : Call → Assembler × List Span
  | .record r => ((a.record r).1, (a.record r).2.spans)
  | .flushOld now => ((a.flushOld now).1, (a.flushOld now).2.spans)
  | .flushAll => (a.flushAll.1, a.flushAll.2.spans)
  | .shutdown => (a.shutdown.1, a.shutdown.2.elim [] Handover.spans)

/-- The record that the assembler puts into a span in a call: one whose identity is not closed. -/
def accepts (a : Assembler) : Call → Option Record
  | .record r => if a.closed.contains r.identity then none else some r
  | .flushOld _ | .flushAll | .shutdown => none

/-- The assembler after several calls. -/
def after (a : Assembler) (calls : List Call) : Assembler :=
  calls.foldl (fun a c => (a.step c).1) a

@[simp] lemma after_nil (a : Assembler) : a.after [] = a := rfl

lemma after_append (a : Assembler) (calls more : List Call) :
    a.after (calls ++ more) = (a.after calls).after more :=
  List.foldl_append

lemma after_concat (a : Assembler) (calls : List Call) (c : Call) :
    a.after (calls ++ [c]) = ((a.after calls).step c).1 := by
  rw [after_append]
  rfl

lemma step_shutdown (a : Assembler) : a.step .shutdown =
    if a.isShutdown then (a, []) else { a with isShutdown := true }.step .flushAll := by
  cases h : a.isShutdown <;> simp [step, shutdown, h]

lemma timeToLive_step (a : Assembler) (c : Call) : (a.step c).1.timeToLive = a.timeToLive := by
  cases c with
  | record r =>
    simp only [step, Assembler.record]
    split
    · rfl
    · split <;> rfl
  | flushOld now => rfl
  | flushAll => rfl
  | shutdown =>
    rw [step_shutdown]
    split <;> rfl

lemma timeToLive_after (a : Assembler) (calls : List Call) :
    (a.after calls).timeToLive = a.timeToLive := by
  induction calls using List.reverseRecOn with
  | nil => rfl
  | append_singleton calls c ih => rw [after_concat, timeToLive_step, ih]

lemma ttl_after (a : Assembler) (calls : List Call) : (a.after calls).ttl = a.ttl := by
  rw [ttl, ttl, timeToLive_after]

/-- What every assembler that was only ever called keeps to. -/
structure WellFormed (a : Assembler) : Prop where
  opened_distinct : a.opened.Distinct
  closed_distinct : a.closed.Distinct
  own : ∀ i s, a.opened.get? i = some s → s.identity = i
  incomplete : ∀ i s, a.opened.get? i = some s → s.isComplete = false
  apart : ∀ i s, a.opened.get? i = some s → a.closed.get? i = none

lemma wellFormed_new (timeToLive : Duration) : (Assembler.new timeToLive).WellFormed where
  opened_distinct := Table.distinct_nil
  closed_distinct := Table.distinct_nil
  own := by simp [Assembler.new, Table.get?]
  incomplete := by simp [Assembler.new, Table.get?]
  apart := by simp [Assembler.new, Table.get?]

lemma WellFormed.identity_of_mem {a : Assembler} (h : a.WellFormed) {e : Identity × Span}
    (he : e ∈ a.opened) : e.2.identity = e.1 :=
  h.own e.1 e.2 (Table.get?_of_mem h.opened_distinct he)

lemma WellFormed.identities {a : Assembler} (h : a.WellFormed) {t : Table Span}
    (ht : List.Sublist t a.opened) : (t.map Prod.snd).map Span.identity = t.map Prod.fst := by
  rw [List.map_map]
  exact List.map_congr_left fun e he => h.identity_of_mem (ht.mem he)

lemma WellFormed.closing {a : Assembler} (h : a.WellFormed) {t : Table Span}
    (ht : List.Sublist t a.opened) (f : Span → UInt64) :
    (t.map Prod.snd).map (fun s => (s.identity, f s)) = t.map fun e => (e.1, f e.2) := by
  rw [List.map_map]
  refine List.map_congr_left fun e he => ?_
  simp only [Function.comp_apply, h.identity_of_mem (ht.mem he)]

lemma WellFormed.mem_spans {a : Assembler} (h : a.WellFormed) {t : Table Span}
    (ht : List.Sublist t a.opened) (s : Span) :
    s ∈ t.map Prod.snd ↔ (s.identity, s) ∈ t := by
  rw [List.mem_map]
  constructor
  · rintro ⟨⟨i, t⟩, he, rfl⟩
    have hi : t.identity = i := h.identity_of_mem (ht.mem he)
    rw [hi]
    exact he
  · intro hs
    exact ⟨(s.identity, s), hs, rfl⟩

lemma opened_flushOld {a : Assembler} (h : a.WellFormed) (now : UInt64) (i : Identity) :
    (a.flushOld now).1.opened.get? i =
      (a.opened.get? i).filter fun s => !a.isOld now s.lastUpdate :=
  Table.get?_filter h.opened_distinct _ i

lemma closed_flushOld {a : Assembler} (h : a.WellFormed) (now : UInt64) (i : Identity) :
    (a.flushOld now).1.closed.get? i =
      (((a.opened.get? i).filter fun s => a.isOld now s.lastUpdate).map fun _ => now).or
        ((a.closed.get? i).filter fun time => !a.isOld now time) := by
  change (Table.putAll _ ((a.stale now).map fun s => (s.identity, now))).get? i = _
  rw [stale, h.closing List.filter_sublist fun _ => now,
    Table.get?_putAll _ ((h.opened_distinct.filter _).map fun _ => now),
    Table.get?_map (a.opened.filter _) fun _ => now, Table.get?_filter h.opened_distinct,
    Table.get?_filter h.closed_distinct]

lemma opened_flushAll (a : Assembler) (i : Identity) : a.flushAll.1.opened.get? i = none := rfl

lemma closed_flushAll {a : Assembler} (h : a.WellFormed) (i : Identity) :
    a.flushAll.1.closed.get? i =
      ((a.opened.get? i).map Span.lastUpdate).or (a.closed.get? i) := by
  change (Table.putAll _ ((a.opened.map Prod.snd).map fun s => (s.identity, s.lastUpdate))).get? i = _
  rw [h.closing (List.Sublist.refl _) Span.lastUpdate,
    Table.get?_putAll _ (h.opened_distinct.map Span.lastUpdate),
    Table.get?_map a.opened Span.lastUpdate]

lemma mem_flushOld {a : Assembler} (h : a.WellFormed) (now : UInt64) (s : Span) :
    s ∈ (a.flushOld now).2.spans ↔
      a.opened.get? s.identity = some s ∧ a.isOld now s.lastUpdate = true := by
  rw [← Table.mem_iff_get? h.opened_distinct]
  exact (h.mem_spans List.filter_sublist s).trans List.mem_filter

lemma mem_flushAll {a : Assembler} (h : a.WellFormed) (s : Span) :
    s ∈ a.flushAll.2.spans ↔ a.opened.get? s.identity = some s := by
  rw [← Table.mem_iff_get? h.opened_distinct]
  exact h.mem_spans (List.Sublist.refl _) s

lemma step_record_late {a : Assembler} {r : Record} {time : UInt64}
    (h : a.closed.get? r.identity = some time) : a.step (.record r) = (a, []) := by
  simp [step, Assembler.record, Table.contains, h]

lemma step_record_gathers {a : Assembler} {r : Record} (h : a.closed.get? r.identity = none)
    (hr : r.annotation.isTerminal = false) :
    a.step (.record r) =
      ({ a with
          opened := a.opened.put r.identity ((a.spanFor r.identity).push r)
          statistics := a.statistics.recordProcessed }, []) := by
  simp [step, Assembler.record, Table.contains, h, hr]

lemma step_record_ends {a : Assembler} {r : Record} (h : a.closed.get? r.identity = none)
    (hr : r.annotation.isTerminal = true) :
    a.step (.record r) =
      ({ a with
          opened := a.opened.without r.identity
          closed := a.closed.put r.identity ((a.spanFor r.identity).push r).lastUpdate
          statistics := a.statistics.recordProcessed },
        [((a.spanFor r.identity).push r).completed]) := by
  simp [step, Assembler.record, Table.contains, h, hr]

lemma WellFormed.identity_spanFor {a : Assembler} (h : a.WellFormed) (i : Identity) :
    (a.spanFor i).identity = i := by
  rw [spanFor]
  cases hs : a.opened.get? i with
  | none => rfl
  | some s => exact h.own i s hs

lemma WellFormed.incomplete_spanFor {a : Assembler} (h : a.WellFormed) (i : Identity) :
    (a.spanFor i).isComplete = false := by
  rw [spanFor]
  cases hs : a.opened.get? i with
  | none => rfl
  | some s => exact h.incomplete i s hs

lemma WellFormed.record {a : Assembler} (h : a.WellFormed) (r : Record) :
    (a.step (.record r)).1.WellFormed := by
  cases hc : a.closed.get? r.identity with
  | some time =>
    rw [step_record_late hc]
    exact h
  | none =>
    cases hr : r.annotation.isTerminal with
    | false =>
      rw [step_record_gathers hc hr]
      -- an entry is the new one, or one that was there before
      have hcases : ∀ i s, (a.opened.put r.identity ((a.spanFor r.identity).push r)).get? i = some s →
          i = r.identity ∧ s = (a.spanFor r.identity).push r ∨ a.opened.get? i = some s := by
        intro i s hs
        rw [Table.get?_put] at hs
        split at hs
        · exact .inl ⟨‹_›, (Option.some.inj hs).symm⟩
        · exact .inr hs
      refine ⟨h.opened_distinct.put _ _, h.closed_distinct, ?_, ?_, ?_⟩
      · intro i s hs
        rcases hcases i s hs with ⟨rfl, rfl⟩ | hs
        · rw [Span.identity_push, h.identity_spanFor]
        · exact h.own i s hs
      · intro i s hs
        rcases hcases i s hs with ⟨rfl, rfl⟩ | hs
        · rw [Span.isComplete_push, h.incomplete_spanFor]
        · exact h.incomplete i s hs
      · intro i s hs
        rcases hcases i s hs with ⟨rfl, rfl⟩ | hs
        · exact hc
        · exact h.apart i s hs
    | true =>
      rw [step_record_ends hc hr]
      have hcases : ∀ i s, (a.opened.without r.identity).get? i = some s →
          i ≠ r.identity ∧ a.opened.get? i = some s := by
        intro i s hs
        rw [Table.get?_without] at hs
        split at hs
        · cases hs
        · exact ⟨‹_›, hs⟩
      refine ⟨h.opened_distinct.without _, h.closed_distinct.put _ _, ?_, ?_, ?_⟩
      · exact fun i s hs => h.own i s (hcases i s hs).2
      · exact fun i s hs => h.incomplete i s (hcases i s hs).2
      · intro i s hs
        obtain ⟨hi, hs⟩ := hcases i s hs
        change (a.closed.put r.identity _).get? i = none
        rw [Table.get?_put, if_neg hi]
        exact h.apart i s hs

lemma WellFormed.flushOld {a : Assembler} (h : a.WellFormed) (now : UInt64) :
    (a.flushOld now).1.WellFormed := by
  have hcases : ∀ i s, (a.flushOld now).1.opened.get? i = some s →
      a.opened.get? i = some s ∧ a.isOld now s.lastUpdate = false := by
    intro i s hs
    rw [opened_flushOld h, Option.filter_eq_some_iff] at hs
    simpa using hs
  refine ⟨h.opened_distinct.filter _, (h.closed_distinct.filter _).putAll _, ?_, ?_, ?_⟩
  · exact fun i s hs => h.own i s (hcases i s hs).1
  · exact fun i s hs => h.incomplete i s (hcases i s hs).1
  · intro i s hs
    obtain ⟨hs, hold⟩ := hcases i s hs
    rw [closed_flushOld h, hs, h.apart i s hs]
    simp [Option.filter, hold]

lemma WellFormed.flushAll {a : Assembler} (h : a.WellFormed) : a.flushAll.1.WellFormed where
  opened_distinct := Table.distinct_nil
  closed_distinct := h.closed_distinct.putAll _
  own i s hs := by simp [opened_flushAll] at hs
  incomplete i s hs := by simp [opened_flushAll] at hs
  apart i s hs := by simp [opened_flushAll] at hs

lemma WellFormed.setShutdown {a : Assembler} (h : a.WellFormed) :
    { a with isShutdown := true : Assembler }.WellFormed :=
  ⟨h.opened_distinct, h.closed_distinct, h.own, h.incomplete, h.apart⟩

theorem WellFormed.step {a : Assembler} (h : a.WellFormed) (c : Call) : (a.step c).1.WellFormed := by
  cases c with
  | record r => exact h.record r
  | flushOld now => exact h.flushOld now
  | flushAll => exact h.flushAll
  | shutdown =>
    rw [step_shutdown]
    split
    · exact h
    · exact h.setShutdown.flushAll

theorem WellFormed.after {a : Assembler} (h : a.WellFormed) (calls : List Call) :
    (a.after calls).WellFormed := by
  induction calls using List.reverseRecOn with
  | nil => exact h
  | append_singleton calls c ih =>
    rw [after_concat]
    exact ih.step c

end Assembler

end TracePipeline
