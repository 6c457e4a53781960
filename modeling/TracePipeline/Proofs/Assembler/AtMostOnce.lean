import Mathlib.Data.Nat.Init
import TracePipeline.Proofs.Assembler.History

/-!
# At most one span for an identity

Once a span is handed over its identity is closed, with a time. Only a sweep forgets it, and only one
that finds this time further back than the time to live. Until then no other span of the identity is
handed over and all its records are dropped; nor does the sweep itself hand one over.
-/

namespace TracePipeline

lemma Slot.Move.of_closed {ttl : UInt64} {i : Identity} {time : UInt64} {c : Assembler.Call}
    {after : Slot} {accepted : Option Record} {handed : Option Span}
    (hm : Move ttl i (closed time) c after accepted handed) :
    handed = none ∧
      (after = closed time ∨ ∃ now, c = .flushOld now ∧ ttl < since now time) := by
  cases hm with
  | idle _ _ _ => exact ⟨rfl, .inl rfl⟩
  | gathers _ s _ hs _ _ => cases hs
  | ends _ s _ hs _ _ => cases hs
  | forgets _ now hold => exact ⟨rfl, .inr ⟨now, rfl, hold⟩⟩

namespace Assembler

/-- A sweep after the call `m` and before the call `n` forgets what closed at a time. -/
def ForgottenBetween (a : Assembler) (calls : List Call) (time : UInt64) (m n : Nat) : Prop :=
  ∃ k now, m < k ∧ k < n ∧ calls[k]? = some (.flushOld now) ∧ a.ttl < since now time

variable {a : Assembler} {calls : List Call}

lemma slot_after_handed (h : a.WellFormed) {m : Nat} {c : Call} (hc : calls[m]? = some c) {s : Span}
    (hs : s ∈ a.handedAt calls m) :
    (a.upTo calls (m + 1)).slot s.identity = .closed (c.closeTime s) := by
  obtain ⟨out, hmove, hout⟩ := exists_move h hc s.identity
  have hsome : out = some s := (hout s).mp ⟨hs, rfl⟩
  rw [hsome] at hmove
  exact hmove.of_handed.1

lemma handedAt_of_closed (h : a.WellFormed) {n : Nat} {i : Identity} {time : UInt64}
    (hclosed : (a.upTo calls n).slot i = .closed time) {t : Span} (ht : t ∈ a.handedAt calls n) :
    t.identity ≠ i := by
  rintro hi
  obtain ⟨c, hc⟩ := call_of_mem_handedAt ht
  obtain ⟨out, hmove, hout⟩ := exists_move h hc i
  have hsome : out = some t := (hout t).mp ⟨ht, hi⟩
  rw [hclosed, hsome] at hmove
  have hnone := hmove.of_closed.1
  cases hnone

-- one call: the entry stays, or the call is a sweep that forgets it
lemma slot_closed_succ (h : a.WellFormed) {n : Nat} {i : Identity} {time : UInt64}
    (hclosed : (a.upTo calls n).slot i = .closed time)
    (hno : ∀ now, calls[n]? = some (.flushOld now) → ¬ a.ttl < since now time) :
    (a.upTo calls (n + 1)).slot i = .closed time := by
  cases hc : calls[n]? with
  | none =>
    rw [upTo_succ_of_none hc]
    exact hclosed
  | some c =>
    obtain ⟨out, hmove, -⟩ := exists_move h hc i
    rw [hclosed] at hmove
    rcases hmove.of_closed.2 with hstays | ⟨now, rfl, hold⟩
    · exact hstays
    · exact absurd hold (hno now hc)

lemma slot_closed_until (h : a.WellFormed) {m n : Nat} (hmn : m < n) {i : Identity} {time : UInt64}
    (hclosed : (a.upTo calls (m + 1)).slot i = .closed time)
    (hno : ¬ a.ForgottenBetween calls time m n) :
    (a.upTo calls n).slot i = .closed time := by
  induction n, hmn using Nat.le_induction with
  | base => exact hclosed
  | succ n hmn ih =>
    refine slot_closed_succ h (ih ?_) fun now hc hold => ?_
    · rintro ⟨k, now, hmk, hkn, hc, hold⟩
      exact hno ⟨k, now, hmk, by omega, hc, hold⟩
    · exact hno ⟨n, now, hmn, by omega, hc, hold⟩

/-- Between two calls that hand over spans of one identity there is a sweep that forgets the time
at which the first of them closed. Until then the identity stays closed with that time, and a record
of it changes nothing. -/
theorem handed_over_at_most_once (timeToLive : Duration) (calls : List Call) (m : Nat) (c : Call)
    (s : Span) (hc : calls[m]? = some c) (hs : s ∈ (Assembler.new timeToLive).handedAt calls m) :
    (∀ n t, m < n → t ∈ (Assembler.new timeToLive).handedAt calls n → t.identity = s.identity →
      (Assembler.new timeToLive).ForgottenBetween calls (c.closeTime s) m n) ∧
    ∀ n, m < n → ¬ (Assembler.new timeToLive).ForgottenBetween calls (c.closeTime s) m n →
      ((Assembler.new timeToLive).upTo calls n).closed.get? s.identity = some (c.closeTime s) ∧
      ∀ r, r.identity = s.identity → ((Assembler.new timeToLive).upTo calls n).step (.record r) =
        ((Assembler.new timeToLive).upTo calls n, []) := by
  have h := wellFormed_new timeToLive
  have hclosed := slot_after_handed h hc hs
  constructor
  · intro n t hmn ht hi
    by_contra hno
    exact handedAt_of_closed h (slot_closed_until h hmn hclosed hno) ht hi
  · intro n hmn hno
    have hentry := (slot_eq_closed_iff (h.upTo calls n)).mp (slot_closed_until h hmn hclosed hno)
    refine ⟨hentry, fun r hi => ?_⟩
    apply step_record_late
    rw [hi]
    exact hentry

/-- A span ends, sends a late record, is forgotten by a sweep and ends again. -/
def endedTwice : List Call :=
  let r : Record := ⟨⟨0, 1, none, 1⟩, .empty, 5, .clientRecv⟩
  [.record r, .record r, .flushOld 2000, .record { r with timestamp := 2001 }]

theorem handed_over_at_most_once_endedTwice :
    (Assembler.new (.ofMillis 1)).ForgottenBetween endedTwice 5 0 3 ∧
      ((Assembler.new (.ofMillis 1)).upTo endedTwice 2).closed.get? ⟨0, 1, none, 1⟩ = some 5 := by
  have hs : ((Span.new ⟨0, 1, none, 1⟩).push ⟨⟨0, 1, none, 1⟩, .empty, 5, .clientRecv⟩).completed ∈
      (Assembler.new (.ofMillis 1)).handedAt endedTwice 0 := by decide
  have ht : ((Span.new ⟨0, 1, none, 1⟩).push ⟨⟨0, 1, none, 1⟩, .empty, 2001, .clientRecv⟩).completed ∈
      (Assembler.new (.ofMillis 1)).handedAt endedTwice 3 := by decide
  obtain ⟨hbetween, huntil⟩ := handed_over_at_most_once (.ofMillis 1) endedTwice 0 _ _ rfl hs
  refine ⟨hbetween 3 _ (by decide) ht rfl, (huntil 2 (by decide) ?_).1⟩
  rintro ⟨k, now, hk, hk2, hc, -⟩
  have hk1 : k = 1 := by omega
  rw [hk1] at hc
  cases hc

end Assembler

end TracePipeline
