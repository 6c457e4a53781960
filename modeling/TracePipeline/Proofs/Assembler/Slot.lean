import TracePipeline.Proofs.Assembler.Calls

/-!
# What an assembler knows about one identity

To each identity a call does something that depends on what the assembler knows about that identity
alone: nothing, a span that gathers records, or the time at which a span closed. So an assembler is
one small machine for each identity, its slot, and what holds of all runs of slots holds of all runs
of assemblers.
-/

namespace TracePipeline

/-- What is known about an identity. -/
inductive Slot where
  | unknown
  | gathering (s : Span)
  | closed (time : UInt64)

namespace Slot

/-- A span takes a record, and is handed over if the record ends it. -/
def gather (s : Span) (r : Record) : Slot × Option Span :=
  if r.annotation.isTerminal then (closed (s.push r).lastUpdate, some (s.push r).completed)
  else (gathering (s.push r), none)

/-- The slot of a record's identity takes the record. -/
def record (r : Record) : Slot → Slot × Option Span
  | unknown => gather (.new r.identity) r
  | gathering s => gather s r
  | closed time => (closed time, none)

/-- A sweep with a time to live. -/
def flushOld (ttl now : UInt64) : Slot → Slot × Option Span
  | unknown => (unknown, none)
  | gathering s =>
    if ttl < since now s.lastUpdate then (closed now, some s) else (gathering s, none)
  | closed time => if ttl < since now time then (unknown, none) else (closed time, none)

def flushAll : Slot → Slot × Option Span
  | unknown => (unknown, none)
  | gathering s => (closed s.lastUpdate, some s)
  | closed time => (closed time, none)

/-- A call on an assembler, as the slot of an identity sees it. -/
def step (ttl : UInt64) (isShutdown : Bool) (i : Identity) (slot : Slot) :
    Assembler.Call → Slot × Option Span
  | .record r => if r.identity = i then slot.record r else (slot, none)
  | .flushOld now => slot.flushOld ttl now
  | .flushAll => slot.flushAll
  | .shutdown => if isShutdown then (slot, none) else slot.flushAll

/-- The span that a record of an identity goes into. -/
def span? (i : Identity) : Slot → Option Span
  | unknown => some (.new i)
  | gathering s => some s
  | closed _ => none

/-- The record that the slot of an identity accepts in a call. -/
def accepts (i : Identity) (slot : Slot) : Assembler.Call → Option Record
  | .record r => if r.identity = i ∧ (slot.span? i).isSome then some r else none
  | .flushOld _ | .flushAll | .shutdown => none

/-- All that a call can do to an identity, with the record that is accepted and the span that is
handed over. -/
inductive Move (ttl : UInt64) (i : Identity) :
    Slot → Assembler.Call → Slot → Option Record → Option Span → Prop where
  | idle (slot c) (hc : ∀ r, c = .record r → r.identity = i → ∃ time, slot = closed time) :
    Move ttl i slot c slot none none
  | gathers (slot s r) (hs : slot.span? i = some s) (hi : r.identity = i)
      (hr : r.annotation.isTerminal = false) :
    Move ttl i slot (.record r) (gathering (s.push r)) (some r) none
  | ends (slot s r) (hs : slot.span? i = some s) (hi : r.identity = i)
      (hr : r.annotation.isTerminal = true) :
    Move ttl i slot (.record r) (closed (s.push r).lastUpdate) (some r) (some (s.push r).completed)
  | flushed (s c) (hc : ∀ r, c ≠ .record r)
      (hold : ∀ now, c = .flushOld now → ttl < since now s.lastUpdate) :
    Move ttl i (gathering s) c (closed (c.closeTime s)) none (some s)
  | forgets (time now) (hold : ttl < since now time) :
    Move ttl i (closed time) (.flushOld now) unknown none none

lemma move_gather {ttl : UInt64} {slot : Slot} {s : Span} {r : Record}
    (hs : slot.span? r.identity = some s) :
    Move ttl r.identity slot (.record r) (gather s r).1 (some r) (gather s r).2 := by
  rw [gather]
  cases hr : r.annotation.isTerminal with
  | false => exact .gathers slot s r hs rfl hr
  | true => exact .ends slot s r hs rfl hr

lemma move_record (ttl : UInt64) (i : Identity) (slot : Slot) (isShutdown : Bool) (r : Record) :
    Move ttl i slot (.record r) (slot.step ttl isShutdown i (.record r)).1
      (slot.accepts i (.record r)) (slot.step ttl isShutdown i (.record r)).2 := by
  rw [step, accepts]
  by_cases hi : r.identity = i
  · subst hi
    rw [if_pos rfl]
    cases slot with
    | unknown =>
      have hs : unknown.span? r.identity = some (.new r.identity) := rfl
      simpa [span?, record] using move_gather hs
    | gathering s =>
      have hs : (gathering s).span? r.identity = some s := rfl
      simpa [span?, record] using move_gather hs
    | closed time => simpa [span?, record] using .idle (closed time) _ fun _ _ _ => ⟨time, rfl⟩
  · rw [if_neg hi, if_neg fun h => hi h.1]
    refine .idle slot _ fun r' hr h => absurd h ?_
    cases hr
    exact hi

lemma move_flushAll (ttl : UInt64) (i : Identity) (slot : Slot) {c : Assembler.Call}
    (hc : c = .flushAll ∨ c = .shutdown) :
    Move ttl i slot c slot.flushAll.1 none slot.flushAll.2 := by
  have hrecord : ∀ r, c ≠ .record r := by
    rintro r rfl
    simp at hc
  have hidle : Move ttl i slot c slot none none :=
    .idle slot c fun r hr => absurd hr (hrecord r)
  cases slot with
  | unknown => exact hidle
  | closed time => exact hidle
  | gathering s =>
    have hold : ∀ now, c = .flushOld now → ttl < since now s.lastUpdate := by
      rintro now rfl
      simp at hc
    have hmove := Move.flushed (i := i) s c hrecord hold
    rcases hc with rfl | rfl <;> exact hmove

/-- Every call makes one of the moves. -/
theorem step_move (ttl : UInt64) (isShutdown : Bool) (i : Identity) (slot : Slot)
    (c : Assembler.Call) :
    Move ttl i slot c (slot.step ttl isShutdown i c).1 (slot.accepts i c)
      (slot.step ttl isShutdown i c).2 := by
  cases c with
  | record r => exact move_record ttl i slot isShutdown r
  | flushOld now =>
    rw [step, accepts]
    have hidle : Move ttl i slot (.flushOld now) slot none none := .idle slot _ (by simp)
    cases slot with
    | unknown => exact hidle
    | gathering s =>
      rw [flushOld]
      split
      · rename_i hold
        refine .flushed s _ (by simp) fun now' h => ?_
        cases h
        exact hold
      · exact hidle
    | closed time =>
      rw [flushOld]
      split
      · exact .forgets time now ‹_›
      · exact hidle
  | flushAll => exact move_flushAll ttl i slot (.inl rfl)
  | shutdown =>
    rw [step, accepts]
    split
    · exact .idle slot _ (by simp)
    · exact move_flushAll ttl i slot (.inr rfl)

variable {ttl : UInt64} {i : Identity} {before after : Slot} {c : Assembler.Call}
  {accepted : Option Record} {handed : Option Span} {s : Span}

lemma Move.of_gathering (hm : Move ttl i before c (gathering s) accepted handed) :
    before = gathering s ∧ accepted = none ∨
      ∃ t r, before.span? i = some t ∧ accepted = some r ∧ s = t.push r := by
  cases hm with
  | idle _ _ _ => exact .inl ⟨rfl, rfl⟩
  | gathers _ t r ht _ _ => exact .inr ⟨t, r, ht, rfl, rfl⟩

lemma Move.of_handed (hm : Move ttl i before c after accepted (some s)) :
    after = closed (c.closeTime s) ∧ (before = gathering s ∧ accepted = none ∨
      ∃ t r, before.span? i = some t ∧ accepted = some r ∧ s = (t.push r).completed) := by
  cases hm with
  | ends _ t r ht _ _ => exact ⟨rfl, .inr ⟨t, r, ht, rfl, rfl⟩⟩
  | flushed _ _ _ _ => exact ⟨rfl, .inl ⟨rfl, rfl⟩⟩

lemma Move.gathering_of_not_handed (hm : Move ttl i before c after accepted none)
    (hb : (∃ s, before = gathering s) ∨ ∃ r, accepted = some r) : ∃ s, after = gathering s := by
  cases hm with
  | idle _ _ _ =>
    rcases hb with hs | ⟨r, hr⟩
    · exact hs
    · cases hr
  | gathers _ s r _ _ _ => exact ⟨_, rfl⟩
  | forgets _ _ _ =>
    rcases hb with ⟨s, hs⟩ | ⟨r, hr⟩
    · cases hs
    · cases hr

end Slot

namespace Assembler

/-- What the assembler knows about an identity. -/
def slot (a : Assembler) (i : Identity) : Slot :=
  match a.opened.get? i, a.closed.get? i with
  | some s, _ => .gathering s
  | none, some time => .closed time
  | none, none => .unknown

lemma slot_eq_gathering_iff {a : Assembler} {i : Identity} {s : Span} :
    a.slot i = .gathering s ↔ a.opened.get? i = some s := by
  rw [slot]
  cases a.opened.get? i <;> cases a.closed.get? i <;> simp

lemma slot_eq_closed_iff {a : Assembler} (h : a.WellFormed) {i : Identity} {time : UInt64} :
    a.slot i = .closed time ↔ a.closed.get? i = some time := by
  rw [slot]
  cases ho : a.opened.get? i with
  | none => cases a.closed.get? i <;> simp
  | some s => simp [h.apart i s ho]

lemma opened_of_closed {a : Assembler} (h : a.WellFormed) {i : Identity} {time : UInt64}
    (hc : a.closed.get? i = some time) : a.opened.get? i = none := by
  cases ho : a.opened.get? i with
  | none => rfl
  | some s =>
    rw [h.apart i s ho] at hc
    cases hc

lemma slot_eq_unknown_iff {a : Assembler} {i : Identity} :
    a.slot i = .unknown ↔ a.opened.get? i = none ∧ a.closed.get? i = none := by
  rw [slot]
  cases a.opened.get? i <;> cases a.closed.get? i <;> simp

lemma slot_congr {a b : Assembler} {i : Identity} (ho : a.opened.get? i = b.opened.get? i)
    (hc : a.closed.get? i = b.closed.get? i) : a.slot i = b.slot i := by
  rw [slot, slot, ho, hc]

lemma slot_record_eq {a : Assembler} {r : Record} (hc : a.closed.get? r.identity = none) :
    (a.slot r.identity).record r = Slot.gather (a.spanFor r.identity) r := by
  rw [slot, spanFor, hc]
  cases a.opened.get? r.identity <;> rfl

lemma slot_record {a : Assembler} (h : a.WellFormed) (r : Record) (i : Identity) :
    (a.step (.record r)).1.slot i = (Slot.step a.ttl a.isShutdown i (a.slot i) (.record r)).1 := by
  rw [Slot.step]
  by_cases hi : r.identity = i
  · subst hi
    rw [if_pos rfl]
    cases hc : a.closed.get? r.identity with
    | some time =>
      rw [step_record_late hc, (slot_eq_closed_iff h).mpr hc]
      rfl
    | none =>
      rw [slot_record_eq hc, Slot.gather]
      cases hr : r.annotation.isTerminal with
      | false =>
        rw [step_record_gathers hc hr, if_neg (by simp), slot_eq_gathering_iff]
        exact Table.get?_put_self _ _ _
      | true =>
        have hw := h.step (.record r)
        rw [step_record_ends hc hr] at hw ⊢
        rw [if_pos rfl, slot_eq_closed_iff hw]
        exact Table.get?_put_self _ _ _
  · have hj : ¬i = r.identity := fun e => hi e.symm
    rw [if_neg hi]
    cases hc : a.closed.get? r.identity with
    | some time => rw [step_record_late hc]
    | none =>
      cases hr : r.annotation.isTerminal with
      | false =>
        rw [step_record_gathers hc hr]
        refine slot_congr ?_ rfl
        rw [Table.get?_put, if_neg hj]
      | true =>
        rw [step_record_ends hc hr]
        apply slot_congr
        · rw [Table.get?_without, if_neg hj]
        · rw [Table.get?_put, if_neg hj]

lemma slot_flushOld {a : Assembler} (h : a.WellFormed) (now : UInt64) (i : Identity) :
    (a.flushOld now).1.slot i = ((a.slot i).flushOld a.ttl now).1 := by
  cases hs : a.slot i with
  | unknown =>
    obtain ⟨ho, hc⟩ := slot_eq_unknown_iff.mp hs
    rw [Slot.flushOld, slot_eq_unknown_iff, opened_flushOld h, closed_flushOld h, ho, hc]
    simp
  | gathering s =>
    have ho := slot_eq_gathering_iff.mp hs
    have hc := h.apart i s ho
    rw [Slot.flushOld]
    split
    · rename_i hold
      rw [slot_eq_closed_iff (h.flushOld now), closed_flushOld h, ho]
      simp [Option.filter, isOld, hold]
    · rename_i hold
      rw [slot_eq_gathering_iff, opened_flushOld h, ho]
      simp [Option.filter, isOld, hold]
  | closed time =>
    have hc := (slot_eq_closed_iff h).mp hs
    have ho := opened_of_closed h hc
    rw [Slot.flushOld]
    split
    · rename_i hold
      rw [slot_eq_unknown_iff, opened_flushOld h, closed_flushOld h, ho, hc]
      simp [Option.filter, isOld, hold]
    · rename_i hold
      rw [slot_eq_closed_iff (h.flushOld now), closed_flushOld h, ho, hc]
      simp [Option.filter, isOld, hold]

lemma slot_flushAll {a : Assembler} (h : a.WellFormed) (i : Identity) :
    a.flushAll.1.slot i = (a.slot i).flushAll.1 := by
  cases hs : a.slot i with
  | unknown =>
    obtain ⟨ho, hc⟩ := slot_eq_unknown_iff.mp hs
    rw [Slot.flushAll, slot_eq_unknown_iff, opened_flushAll, closed_flushAll h, ho, hc]
    simp
  | gathering s =>
    have ho := slot_eq_gathering_iff.mp hs
    rw [Slot.flushAll, slot_eq_closed_iff h.flushAll, closed_flushAll h, ho]
    rfl
  | closed time =>
    have hc := (slot_eq_closed_iff h).mp hs
    have ho := opened_of_closed h hc
    rw [Slot.flushAll, slot_eq_closed_iff h.flushAll, closed_flushAll h, ho, hc]
    rfl

/-- Each slot goes through a call by itself. -/
theorem slot_step {a : Assembler} (h : a.WellFormed) (c : Call) (i : Identity) :
    (a.step c).1.slot i = (Slot.step a.ttl a.isShutdown i (a.slot i) c).1 := by
  cases c with
  | record r => exact slot_record h r i
  | flushOld now => exact slot_flushOld h now i
  | flushAll => exact slot_flushAll h i
  | shutdown =>
    rw [step_shutdown, Slot.step]
    split
    · rfl
    · exact slot_flushAll h.setShutdown i

lemma mem_step_record {a : Assembler} (h : a.WellFormed) (r : Record) (s : Span) :
    s ∈ (a.step (.record r)).2 ↔
      (Slot.step a.ttl a.isShutdown s.identity (a.slot s.identity) (.record r)).2 = some s := by
  rw [Slot.step]
  cases hc : a.closed.get? r.identity with
  | some time =>
    rw [step_record_late hc]
    split
    · rename_i hi
      rw [← hi, (slot_eq_closed_iff h).mpr hc]
      simp [Slot.record]
    · simp
  | none =>
    have hid : (a.spanFor r.identity).identity = r.identity := h.identity_spanFor _
    cases hr : r.annotation.isTerminal with
    | false =>
      rw [step_record_gathers hc hr]
      split
      · rename_i hi
        rw [← hi, slot_record_eq hc, Slot.gather]
        simp [hr]
      · simp
    | true =>
      rw [step_record_ends hc hr]
      split
      · rename_i hi
        rw [← hi, slot_record_eq hc, Slot.gather, if_pos hr, List.mem_singleton]
        exact ⟨fun e => by rw [e], fun e => (Option.some.inj e).symm⟩
      · rename_i hi
        rw [List.mem_singleton]
        refine ⟨fun e => absurd ?_ hi, fun e => by cases e⟩
        rw [e, Span.identity_completed, Span.identity_push, hid]

lemma mem_step_flushOld {a : Assembler} (h : a.WellFormed) (now : UInt64) (s : Span) :
    s ∈ (a.flushOld now).2.spans ↔ ((a.slot s.identity).flushOld a.ttl now).2 = some s := by
  rw [mem_flushOld h, ← slot_eq_gathering_iff]
  constructor
  · rintro ⟨hs, hold⟩
    rw [hs, Slot.flushOld, if_pos (by simpa [isOld] using hold)]
  · intro e
    cases hs : a.slot s.identity with
    | unknown => simp [hs, Slot.flushOld] at e
    | closed time =>
      rw [hs, Slot.flushOld] at e
      split at e <;> cases e
    | gathering t =>
      rw [hs, Slot.flushOld] at e
      split at e
      · rename_i hold
        cases e
        exact ⟨rfl, by simpa [isOld] using hold⟩
      · cases e

lemma mem_step_flushAll {a : Assembler} (h : a.WellFormed) (s : Span) :
    s ∈ a.flushAll.2.spans ↔ (a.slot s.identity).flushAll.2 = some s := by
  rw [mem_flushAll h, ← slot_eq_gathering_iff]
  cases a.slot s.identity <;> simp [Slot.flushAll]

/-- A span is handed over if the slot of its identity hands it over. -/
theorem mem_step {a : Assembler} (h : a.WellFormed) (c : Call) (s : Span) :
    s ∈ (a.step c).2 ↔
      (Slot.step a.ttl a.isShutdown s.identity (a.slot s.identity) c).2 = some s := by
  cases c with
  | record r => exact mem_step_record h r s
  | flushOld now => exact mem_step_flushOld h now s
  | flushAll => exact mem_step_flushAll h s
  | shutdown =>
    rw [step_shutdown, Slot.step]
    split
    · simp
    · exact mem_step_flushAll h.setShutdown s

theorem nodup_step {a : Assembler} (h : a.WellFormed) (c : Call) :
    ((a.step c).2.map Span.identity).Nodup := by
  have hflush : (a.opened.map Prod.snd).map Span.identity = a.opened.map Prod.fst :=
    h.identities (List.Sublist.refl _)
  cases c with
  | record r =>
    simp only [step, Assembler.record]
    split
    · exact List.nodup_nil
    · split
      · simp
      · exact List.nodup_nil
  | flushOld now =>
    change (((a.opened.filter _).map Prod.snd).map Span.identity).Nodup
    rw [h.identities List.filter_sublist]
    exact h.opened_distinct.filter _
  | flushAll =>
    change ((a.opened.map Prod.snd).map Span.identity).Nodup
    rw [hflush]
    exact h.opened_distinct
  | shutdown =>
    rw [step_shutdown]
    split
    · exact List.nodup_nil
    · change ((a.opened.map Prod.snd).map Span.identity).Nodup
      rw [hflush]
      exact h.opened_distinct

end Assembler

end TracePipeline
