import Mathlib.Data.List.Nodup
import TracePipeline.Proofs.Assembler.History

/-!
# Identities do not interfere

What an assembler does with one identity does not depend on the records of any other. They can be
left out of a run, and the identity is open, closed and handed over all the same, in the same calls.
So two records that follow each other can change places if they are of different identities.
-/

namespace TracePipeline

namespace Assembler

/-- Whether a call can do something to an identity, as all can but the records of others. -/
def Call.concerns (i : Identity) : Call → Bool
  | .record r => r.identity = i
  | .flushOld _ | .flushAll | .shutdown => true

/-- The spans of an identity that numbered calls hand over, each with the number of its call. -/
def handovers (i : Identity) (a : Assembler) : List (Call × Nat) → List (Span × Nat)
  | [] => []
  | (c, n) :: rest =>
    ((a.step c).2.filter fun s => s.identity = i).map (fun s => (s, n)) ++
      (a.step c).1.handovers i rest

/-- After either of two runs the same is known about an identity, and the same spans of it were
handed over, in the same calls. -/
structure SameFor (a : Assembler) (i : Identity) (calls others : List (Call × Nat)) : Prop where
  opened : (a.after (calls.map Prod.fst)).opened.get? i =
    (a.after (others.map Prod.fst)).opened.get? i
  closed : (a.after (calls.map Prod.fst)).closed.get? i =
    (a.after (others.map Prod.fst)).closed.get? i
  handovers : a.handovers i calls = a.handovers i others

/-- What an assembler promises about an identity, whatever happens to others. Numbers stay with their
calls when some are left out, and when two change places. -/
structure Isolates (a : Assembler) (i : Identity) : Prop where
  alone : ∀ calls, a.SameFor i calls (calls.filter fun c => c.1.concerns i)
  swapped : ∀ before after r r' m n, r.identity ≠ r'.identity →
    a.SameFor i (before ++ (.record r, m) :: (.record r', n) :: after)
      (before ++ (.record r', n) :: (.record r, m) :: after)

variable {a b : Assembler} {i : Identity} {c : Call} {calls others : List (Call × Nat)}

lemma SameFor.symm (h : a.SameFor i calls others) : a.SameFor i others calls :=
  ⟨h.opened.symm, h.closed.symm, h.handovers.symm⟩

lemma SameFor.trans {more : List (Call × Nat)} (h : a.SameFor i calls others)
    (h' : a.SameFor i others more) : a.SameFor i calls more :=
  ⟨h.opened.trans h'.opened, h.closed.trans h'.closed, h.handovers.trans h'.handovers⟩

lemma isShutdown_step (a : Assembler) (c : Call) :
    (a.step c).1.isShutdown = (a.isShutdown || decide (c = .shutdown)) := by
  cases c with
  | record r =>
    simp only [step, Assembler.record]
    split
    · simp
    · split <;> simp
  | flushOld now => simp [step, flushOld]
  | flushAll => simp [step, flushAll]
  | shutdown =>
    rw [step_shutdown]
    split
    · simpa using ‹_›
    · simp [step, flushAll]

lemma ttl_step (a : Assembler) (c : Call) : (a.step c).1.ttl = a.ttl := by
  unfold ttl
  rw [timeToLive_step]

lemma identity_of_handed (h : a.WellFormed) {s : Span}
    (hs : (Slot.step a.ttl a.isShutdown i (a.slot i) c).2 = some s) : s.identity = i := by
  have hmove := Slot.step_move a.ttl a.isShutdown i (a.slot i) c
  rw [hs] at hmove
  apply identity_of_move _ hmove
  intro t ht
  exact h.own i t (slot_eq_gathering_iff.mp ht)

/-- In one call at most one span of an identity is handed over, that of its slot. -/
lemma filter_step (h : a.WellFormed) (c : Call) (i : Identity) :
    ((a.step c).2.filter fun s => s.identity = i) =
      (Slot.step a.ttl a.isShutdown i (a.slot i) c).2.toList := by
  have hmem : ∀ t ∈ (a.step c).2.filter fun s => s.identity = i,
      (Slot.step a.ttl a.isShutdown i (a.slot i) c).2 = some t := by
    intro t ht
    obtain ⟨hstep, hi⟩ := List.mem_filter.mp ht
    have hi : t.identity = i := of_decide_eq_true hi
    rw [← hi]
    exact (mem_step h c t).mp hstep
  cases hout : (Slot.step a.ttl a.isShutdown i (a.slot i) c).2 with
  | none =>
    refine List.eq_nil_iff_forall_not_mem.mpr fun t ht => ?_
    have hsome := hmem t ht
    rw [hout] at hsome
    cases hsome
  | some s =>
    have hi := identity_of_handed h hout
    have hs : s ∈ (a.step c).2.filter fun t => t.identity = i := by
      refine List.mem_filter.mpr ⟨(mem_step h c s).mpr ?_, by simpa using hi⟩
      rw [hi]
      exact hout
    have hnodup : ((a.step c).2.filter fun t => t.identity = i).Nodup :=
      (List.Nodup.of_map Span.identity (nodup_step h c)).filter _
    apply List.perm_singleton.mp
    refine (List.perm_ext_iff_of_nodup hnodup (List.nodup_singleton s)).mpr fun t => ?_
    rw [List.mem_singleton]
    constructor
    · intro ht
      have hsome := hmem t ht
      rw [hout] at hsome
      exact (Option.some.inj hsome).symm
    · rintro rfl
      exact hs

/-- Two assemblers that an identity cannot tell apart. -/
structure Agrees (i : Identity) (a b : Assembler) : Prop where
  left : a.WellFormed
  right : b.WellFormed
  ttl : a.ttl = b.ttl
  isShutdown : a.isShutdown = b.isShutdown
  slot : a.slot i = b.slot i

lemma Agrees.step (h : Agrees i a b) (c : Call) : Agrees i (a.step c).1 (b.step c).1 where
  left := h.left.step c
  right := h.right.step c
  ttl := by rw [ttl_step, ttl_step, h.ttl]
  isShutdown := by rw [isShutdown_step, isShutdown_step, h.isShutdown]
  slot := by rw [slot_step h.left, slot_step h.right, h.ttl, h.isShutdown, h.slot]

lemma Agrees.handed (h : Agrees i a b) (c : Call) :
    ((a.step c).2.filter fun s => s.identity = i) = (b.step c).2.filter fun s => s.identity = i := by
  rw [filter_step h.left, filter_step h.right, h.ttl, h.isShutdown, h.slot]

lemma slot_step_of_other (hc : c.concerns i = false) (ttl : UInt64) (isShutdown : Bool)
    (slot : Slot) : slot.step ttl isShutdown i c = (slot, none) := by
  cases c with
  | record r =>
    have hne : r.identity ≠ i := of_decide_eq_false hc
    rw [Slot.step, if_neg hne]
  | flushOld now => cases hc
  | flushAll => cases hc
  | shutdown => cases hc

-- the record of another identity leaves the slot of this one alone
lemma Agrees.skip (h : Agrees i a b) (hc : c.concerns i = false) : Agrees i (a.step c).1 b where
  left := h.left.step c
  right := h.right
  ttl := (ttl_step a c).trans h.ttl
  isShutdown := by
    have hne : c ≠ .shutdown := by
      rintro rfl
      cases hc
    rw [isShutdown_step, h.isShutdown]
    simp [hne]
  slot := by rw [slot_step h.left, slot_step_of_other hc, h.slot]

lemma filter_step_of_other (h : a.WellFormed) (hc : c.concerns i = false) :
    ((a.step c).2.filter fun s => s.identity = i) = [] := by
  rw [filter_step h, slot_step_of_other hc]
  rfl

/-- What one call keeps a run keeps, whether or not the records of others are made in it. -/
theorem Agrees.run (h : Agrees i a b) (calls : List (Call × Nat)) :
    a.handovers i calls = b.handovers i (calls.filter fun c => c.1.concerns i) ∧
      Agrees i (a.after (calls.map Prod.fst))
        (b.after ((calls.filter fun c => c.1.concerns i).map Prod.fst)) := by
  induction calls generalizing a b with
  | nil => exact ⟨rfl, h⟩
  | cons call rest ih =>
    obtain ⟨c, n⟩ := call
    cases hc : c.concerns i with
    | true =>
      obtain ⟨hhanded, hlast⟩ := ih (h.step c)
      rw [List.filter_cons_of_pos (by simpa using hc)]
      refine ⟨?_, hlast⟩
      rw [Assembler.handovers, Assembler.handovers, h.handed, hhanded]
    | false =>
      obtain ⟨hhanded, hlast⟩ := ih (h.skip hc)
      rw [List.filter_cons_of_neg (by simpa using hc)]
      refine ⟨?_, hlast⟩
      rw [Assembler.handovers, filter_step_of_other h.left hc, hhanded]
      rfl

lemma Agrees.opened (h : Agrees i a b) : a.opened.get? i = b.opened.get? i := by
  apply Option.ext
  intro s
  rw [← slot_eq_gathering_iff, ← slot_eq_gathering_iff, h.slot]

lemma Agrees.closed (h : Agrees i a b) : a.closed.get? i = b.closed.get? i := by
  apply Option.ext
  intro time
  rw [← slot_eq_closed_iff h.left, ← slot_eq_closed_iff h.right, h.slot]

lemma SameFor.filter (h : a.WellFormed) (calls : List (Call × Nat)) :
    a.SameFor i calls (calls.filter fun c => c.1.concerns i) := by
  have hself : Agrees i a a := ⟨h, h, rfl, rfl, rfl⟩
  obtain ⟨hhanded, hlast⟩ := hself.run calls
  exact ⟨hlast.opened, hlast.closed, hhanded⟩

-- no identity is concerned by both records, so without those of others the runs are one
lemma filter_swap (before after : List (Call × Nat)) {r r' : Record}
    (hne : r.identity ≠ r'.identity) (m n : Nat) :
    ((before ++ (.record r, m) :: (.record r', n) :: after).filter fun c => c.1.concerns i) =
      (before ++ (.record r', n) :: (.record r, m) :: after).filter fun c => c.1.concerns i := by
  have hone : (Call.record r).concerns i = false ∨ (Call.record r').concerns i = false := by
    by_cases hr : r.identity = i
    · right
      refine decide_eq_false fun hr' => hne ?_
      rw [hr, hr']
    · left
      exact decide_eq_false hr
  rw [List.filter_append, List.filter_append]
  congr 1
  rcases hone with hr | hr
  · simp [List.filter_cons, hr]
  · simp [List.filter_cons, hr]

/-- In all runs of a new assembler every identity is on its own. -/
theorem isolates (timeToLive : Duration) (i : Identity) :
    (Assembler.new timeToLive).Isolates i where
  alone calls := SameFor.filter (wellFormed_new timeToLive) calls
  swapped before after r r' m n hne := by
    have h := wellFormed_new timeToLive
    have hleft := SameFor.filter (i := i) h (before ++ (.record r, m) :: (.record r', n) :: after)
    have hright := SameFor.filter (i := i) h (before ++ (.record r', n) :: (.record r, m) :: after)
    rw [filter_swap before after hne m n] at hleft
    exact hleft.trans hright.symm

end Assembler

end TracePipeline
