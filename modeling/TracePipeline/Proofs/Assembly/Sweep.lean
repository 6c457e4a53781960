import TracePipeline.Proofs.Assembler.Counters
import TracePipeline.Proofs.Assembler.Memory
import TracePipeline.Proofs.Assembly.Calls

/-!
# What a sweep does

A sweep hands over the spans that have been idle for longer than the time to live, as they are, and
forgets the identities that closed longer ago than that. Everything else stays, so another sweep at
the same time finds nothing to do.
-/

namespace TracePipeline

lemma not_lt_since_self (ttl now : UInt64) : ¬ ttl < since now now := by
  rw [lt_since_iff]
  omega

namespace Processor

lemma logAll_nil (p : Processor) : p.logAll [] = (p, []) := by
  cases p <;> rfl

end Processor

namespace Assembler

variable {a : Assembler} {now : UInt64} {i : Identity} {s : Span} {time : UInt64}

lemma isOld_iff : a.isOld now time = true ↔ a.ttl < since now time := decide_eq_true_iff

lemma opened_flushOld_eq_some_iff (h : a.WellFormed) :
    (a.flushOld now).1.opened.get? i = some s ↔
      a.opened.get? i = some s ∧ ¬ a.ttl < since now s.lastUpdate := by
  rw [opened_flushOld h, Option.filter_eq_some_iff, Bool.not_eq_true', ← Bool.not_eq_true,
    isOld_iff]

lemma closed_flushOld_eq_some_iff (h : a.WellFormed) :
    (a.flushOld now).1.closed.get? i = some time ↔
      a.closed.get? i = some time ∧ ¬ a.ttl < since now time ∨
        time = now ∧ ∃ s, a.opened.get? i = some s ∧ a.ttl < since now s.lastUpdate := by
  rw [closed_flushOld h]
  cases hopened : a.opened.get? i with
  | none => simp [Option.filter_eq_some_iff, isOld]
  | some s =>
    -- an open identity is not closed, so only the new entry can be there
    rw [h.apart i s hopened]
    by_cases hold : a.ttl < since now s.lastUpdate
    · simp [Option.filter, isOld, hold, eq_comm]
    · simp [Option.filter, isOld, hold]

/-- After a sweep nothing is older than the time to live. -/
lemma fresh_flushOld (h : a.WellFormed) (now : UInt64) :
    (∀ e ∈ (a.flushOld now).1.opened, ¬ a.ttl < since now e.2.lastUpdate) ∧
      ∀ e ∈ (a.flushOld now).1.closed, ¬ a.ttl < since now e.2 := by
  have hw := h.flushOld now
  refine ⟨fun e he => ?_, fun e he => ?_⟩
  · exact ((opened_flushOld_eq_some_iff h).mp (Table.get?_of_mem hw.opened_distinct he)).2
  · rcases (closed_flushOld_eq_some_iff h).mp (Table.get?_of_mem hw.closed_distinct he) with
      ⟨-, hfresh⟩ | ⟨hnow, -⟩
    · exact hfresh
    · rw [hnow]
      exact not_lt_since_self _ _

/-- A sweep that finds nothing old changes nothing. -/
lemma flushOld_of_fresh (hopened : ∀ e ∈ a.opened, ¬ a.ttl < since now e.2.lastUpdate)
    (hclosed : ∀ e ∈ a.closed, ¬ a.ttl < since now e.2) : a.flushOld now = (a, {}) := by
  have hstale : a.stale now = [] := by
    rw [stale, List.map_eq_nil_iff, List.filter_eq_nil_iff]
    exact fun e he hold => hopened e he (isOld_iff.mp hold)
  have hkept : (a.opened.filter fun e => !a.isOld now e.2.lastUpdate) = a.opened :=
    List.filter_eq_self.mpr fun e he => by simpa [isOld] using hopened e he
  have hknown : (a.closed.filter fun e => !a.isOld now e.2) = a.closed :=
    List.filter_eq_self.mpr fun e he => by simpa [isOld] using hclosed e he
  rw [flushOld, hstale, hkept, hknown]
  rfl

lemma flushOld_again (h : a.WellFormed) (now : UInt64) :
    (a.flushOld now).1.flushOld now = ((a.flushOld now).1, {}) :=
  flushOld_of_fresh (fresh_flushOld h now).1 (fresh_flushOld h now).2

end Assembler

namespace Assembly

/-- What a sweep at a time does, with a time to live in microseconds. -/
structure SweepsStale (ttl : UInt64) (a : Assembly) (now : UInt64) : Prop where
  handed : ∀ i s, s ∈ a.handed (.flushOld now) ∧ s.identity = i ↔
    a.assembler.opened.get? i = some s ∧ ttl < since now s.lastUpdate
  handed_once : ((a.handed (.flushOld now)).map Span.identity).Nodup
  incomplete : ∀ s ∈ a.handed (.flushOld now), s.isComplete = false
  returns : (a.flushOld now).2.1 = (a.handed (.flushOld now)).length
  counts : (a.flushOld now).1.assembler.statistics =
    { a.assembler.statistics with
      spansFlushed := a.assembler.statistics.spansFlushed + UInt64.ofNat (a.flushOld now).2.1 }
  opened_once : (a.flushOld now).1.assembler.opened.Distinct
  opened : ∀ i s, (a.flushOld now).1.assembler.opened.get? i = some s ↔
    a.assembler.opened.get? i = some s ∧ ¬ ttl < since now s.lastUpdate
  closed_once : (a.flushOld now).1.assembler.closed.Distinct
  closed : ∀ i time, (a.flushOld now).1.assembler.closed.get? i = some time ↔
    a.assembler.closed.get? i = some time ∧ ¬ ttl < since now time ∨
      time = now ∧ ∃ s ∈ a.handed (.flushOld now), s.identity = i
  again : (a.flushOld now).1.flushOld now = ((a.flushOld now).1, 0, [])
  again_handed : (a.flushOld now).1.handed (.flushOld now) = []
  opened_fresh : ∀ e ∈ (a.flushOld now).1.assembler.opened, ¬ ttl < since now e.2.lastUpdate
  closed_fresh : ∀ e ∈ (a.flushOld now).1.assembler.closed, ¬ ttl < since now e.2

variable {a : Assembly} {now : UInt64}

lemma handed_flushOld (a : Assembly) (now : UInt64) :
    a.handed (.flushOld now) = (a.assembler.flushOld now).2.spans :=
  handed_eq a _

lemma mem_handed_flushOld (h : a.assembler.WellFormed) (i : Identity) (s : Span) :
    s ∈ a.handed (.flushOld now) ∧ s.identity = i ↔
      a.assembler.opened.get? i = some s ∧ a.assembler.ttl < since now s.lastUpdate := by
  rw [handed_flushOld, Assembler.mem_flushOld h, Assembler.isOld_iff]
  constructor
  · rintro ⟨hs, rfl⟩
    exact hs
  · intro hs
    have hi := h.own i s hs.1
    rw [hi]
    exact ⟨hs, rfl⟩

lemma flushOld_again (h : a.assembler.WellFormed) (now : UInt64) :
    (a.flushOld now).1.flushOld now = ((a.flushOld now).1, 0, []) := by
  have hagain : (a.flushOld now).1.assembler.flushOld now = ((a.flushOld now).1.assembler, {}) :=
    Assembler.flushOld_again h now
  rw [Assembly.flushOld, hagain]
  simp [handOver, Processor.logAll_nil]

lemma sweepsStale_of_wellFormed (h : a.assembler.WellFormed) (now : UInt64) :
    SweepsStale a.assembler.ttl a now where
  handed := mem_handed_flushOld h
  handed_once := by
    rw [handed_flushOld]
    exact Assembler.nodup_step h (.flushOld now)
  incomplete s hs :=
    h.incomplete _ s ((mem_handed_flushOld h s.identity s).mp ⟨hs, rfl⟩).1
  returns := by
    rw [handed_flushOld]
    rfl
  counts := Assembler.foldl_spanFlushed _ _
  opened_once := (h.flushOld now).opened_distinct
  opened i s := Assembler.opened_flushOld_eq_some_iff h
  closed_once := (h.flushOld now).closed_distinct
  closed i time := by
    simp only [mem_handed_flushOld h]
    exact Assembler.closed_flushOld_eq_some_iff h
  again := flushOld_again h now
  again_handed := by
    have hagain : (a.flushOld now).1.assembler.flushOld now = ((a.flushOld now).1.assembler, {}) :=
      Assembler.flushOld_again h now
    rw [handed_flushOld, hagain]
  opened_fresh := (Assembler.fresh_flushOld h now).1
  closed_fresh := (Assembler.fresh_flushOld h now).2

/-- Whatever calls are made on a new assembly, and however its clock goes, a sweep flushes exactly
what is stale then. -/
theorem sweeps_exactly_stale (timeToLive : Duration) (processor : Processor)
    (sampler : Option Sampler) (calls : List Assembler.Call) (now : UInt64) :
    SweepsStale timeToLive.micros
      ((⟨.new timeToLive, processor, sampler⟩ : Assembly).after calls) now := by
  have hsweeps :=
    sweepsStale_of_wellFormed (wellFormed_after timeToLive processor sampler calls) now
  rw [Assembler.ttl, timeToLive_after] at hsweeps
  exact hsweeps

end Assembly

end TracePipeline
