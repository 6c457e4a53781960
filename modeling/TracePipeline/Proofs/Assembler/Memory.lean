import TracePipeline.Proofs.Assembler.AtMostOnce
import TracePipeline.Proofs.Throttle

/-!
# How long a closed identity is remembered

A sweep forgets a closed identity once the time at which it closed lies more than the time to live
before the sweep. What counts as that time is the sweep's own for a span that a sweep closed, and the
latest time among its records for any other. Records may be stamped long ago: an identity that such
records open and end is forgotten by the next sweep, however soon that comes, and can then be handed
over again.
-/

namespace TracePipeline

lemma lt_since_iff {ttl now earlier : UInt64} :
    ttl < since now earlier ↔ earlier.toNat + ttl.toNat < now.toNat := by
  rw [UInt64.lt_iff_toNat_lt, toNat_since]
  omega

lemma Duration.toNat_micros {d : Duration} (h : d.nanos / micro < UInt64.size) :
    d.micros.toNat = d.nanos / micro :=
  UInt64.toNat_ofNat_of_lt' h

namespace Assembler

/-- The time of a sweep. -/
def Call.sweepTime? : Call → Option UInt64
  | .flushOld now => some now
  | _ => none

/-- The times of sweeps never decrease. -/
def SweepsRise (calls : List Call) : Prop := (calls.filterMap Call.sweepTime?).Pairwise (· ≤ ·)

/-- Whatever closes at or after a sweep stays closed in every sweep within one time to live of that
sweep. -/
def RemembersFromSweeps (a : Assembler) (calls : List Call) : Prop :=
  ∀ j t m s k now, calls[j]? = some (.flushOld t) → j ≤ m → s ∈ a.handedAt calls m → m < k →
    calls[k]? = some (.flushOld now) →
    now.toNat ≤ t.toNat + a.timeToLive.nanos / Duration.micro →
    (a.upTo calls (k + 1)).closed.contains s.identity = true

/-- An identity that closed in a call at a time is remembered as long as no sweep comes that is later
than this time by more than the time to live. -/
structure Remembers (a : Assembler) (calls : List Call) (m : Nat) (c : Call) (s : Span) : Prop where
  remembered : ∀ n, m < n →
    (∀ k now, m < k → k < n → calls[k]? = some (.flushOld now) →
      now.toNat ≤ (c.closeTime s).toNat + a.timeToLive.nanos / Duration.micro) →
    (a.upTo calls n).closed.get? s.identity = some (c.closeTime s) ∧
      (∀ r, r.identity = s.identity → (a.upTo calls n).step (.record r) = (a.upTo calls n, [])) ∧
      ∀ t ∈ a.handedAt calls n, t.identity ≠ s.identity
  forgotten : ∀ k now, calls[k]? = some (.flushOld now) →
    (a.upTo calls k).closed.get? s.identity = some (c.closeTime s) →
    (c.closeTime s).toNat + a.timeToLive.nanos / Duration.micro < now.toNat →
    (a.upTo calls (k + 1)).closed.get? s.identity = none
  since_sweep : SweepsRise calls → ∀ j t, calls[j]? = some (.flushOld t) → j ≤ m →
    ((∃ now, c = .flushOld now) ∨ t ≤ s.lastUpdate) →
    ∀ k now, m < k → calls[k]? = some (.flushOld now) →
      now.toNat ≤ t.toNat + a.timeToLive.nanos / Duration.micro →
      (a.upTo calls (k + 1)).closed.get? s.identity = some (c.closeTime s) ∧
        ∀ n, m < n → n ≤ k → ∀ u ∈ a.handedAt calls n, u.identity ≠ s.identity

variable {a : Assembler} {calls : List Call} {m n : Nat} {c : Call} {s : Span}

lemma SweepsRise.le (h : SweepsRise calls) {j k : Nat} {t u : UInt64} (hjk : j < k)
    (hj : calls[j]? = some (.flushOld t)) (hk : calls[k]? = some (.flushOld u)) : t ≤ u := by
  obtain ⟨hjl, hj⟩ := List.getElem?_eq_some_iff.mp hj
  obtain ⟨hkl, hk⟩ := List.getElem?_eq_some_iff.mp hk
  have hpair := List.pairwise_iff_getElem.mp (List.pairwise_filterMap.mp h) j k hjl hkl hjk
  rw [hj, hk] at hpair
  exact hpair t rfl u rfl

lemma not_forgottenBetween (hrange : a.timeToLive.nanos / Duration.micro < UInt64.size)
    {time : UInt64} (hearly : ∀ k now, m < k → k < n → calls[k]? = some (.flushOld now) →
      now.toNat ≤ time.toNat + a.timeToLive.nanos / Duration.micro) :
    ¬ a.ForgottenBetween calls time m n := by
  rintro ⟨k, now, hmk, hkn, hc, hold⟩
  have hlate := lt_since_iff.mp hold
  rw [ttl, Duration.toNat_micros hrange] at hlate
  have hsoon := hearly k now hmk hkn hc
  omega

lemma remembered_until (h : a.WellFormed)
    (hrange : a.timeToLive.nanos / Duration.micro < UInt64.size) (hc : calls[m]? = some c)
    (hs : s ∈ a.handedAt calls m) (hmn : m < n)
    (hearly : ∀ k now, m < k → k < n → calls[k]? = some (.flushOld now) →
      now.toNat ≤ (c.closeTime s).toNat + a.timeToLive.nanos / Duration.micro) :
    (a.upTo calls n).closed.get? s.identity = some (c.closeTime s) ∧
      (∀ r, r.identity = s.identity → (a.upTo calls n).step (.record r) = (a.upTo calls n, [])) ∧
      ∀ t ∈ a.handedAt calls n, t.identity ≠ s.identity := by
  have hslot := slot_closed_until h hmn (slot_after_handed h hc hs)
    (not_forgottenBetween hrange hearly)
  have hentry := (slot_eq_closed_iff (h.upTo calls n)).mp hslot
  refine ⟨hentry, fun r hr => ?_, fun t ht => handedAt_of_closed h hslot ht⟩
  apply step_record_late
  rw [hr]
  exact hentry

lemma forgotten_of_late (h : a.WellFormed)
    (hrange : a.timeToLive.nanos / Duration.micro < UInt64.size) {k : Nat} {now time : UInt64}
    {i : Identity} (hc : calls[k]? = some (.flushOld now))
    (hclosed : (a.upTo calls k).closed.get? i = some time)
    (hlate : time.toNat + a.timeToLive.nanos / Duration.micro < now.toNat) :
    (a.upTo calls (k + 1)).closed.get? i = none := by
  have hw := h.upTo calls k
  have hold : (a.upTo calls k).isOld now time = true := by
    rw [isOld, decide_eq_true_eq, lt_since_iff, upTo, ttl_after, ttl, Duration.toNat_micros hrange]
    exact hlate
  rw [upTo_succ hc]
  change ((a.upTo calls k).flushOld now).1.closed.get? i = none
  rw [closed_flushOld hw, opened_of_closed hw hclosed, hclosed]
  simp [Option.filter, hold]

/-- A span that a sweep closes, or that was updated since an earlier sweep, closes no earlier than
that sweep. -/
lemma le_closeTime (hrise : SweepsRise calls) {j : Nat} {t : UInt64}
    (hj : calls[j]? = some (.flushOld t)) (hjm : j ≤ m) (hc : calls[m]? = some c)
    (hsince : (∃ now, c = .flushOld now) ∨ t ≤ s.lastUpdate) : t ≤ c.closeTime s := by
  cases c with
  | flushOld now =>
    rcases Nat.eq_or_lt_of_le hjm with rfl | hlt
    · rw [hj] at hc
      cases hc
      exact UInt64.le_refl _
    · exact hrise.le hlt hj hc
  | record r => exact hsince.resolve_left (by simp)
  | flushAll => exact hsince.resolve_left (by simp)
  | shutdown => exact hsince.resolve_left (by simp)

/-- How long a new assembler remembers an identity that it closed. -/
theorem remembers_from_close_time (timeToLive : Duration)
    (hrange : timeToLive.nanos / Duration.micro < UInt64.size) (calls : List Call) (m : Nat) (c : Call)
    (s : Span) (hc : calls[m]? = some c) (hs : s ∈ (Assembler.new timeToLive).handedAt calls m) :
    (Assembler.new timeToLive).Remembers calls m c s := by
  have h := wellFormed_new timeToLive
  refine ⟨fun n => remembered_until h hrange hc hs, fun k now => forgotten_of_late h hrange, ?_⟩
  intro hrise j t hj hjm hsince k now hmk hk hsoon
  have hclose := UInt64.le_iff_toNat_le.mp (le_closeTime hrise hj hjm hc hsince)
  -- no sweep up to the number `k` is later than that one
  have hearly : ∀ k' now', m < k' → k' < k + 1 → calls[k']? = some (.flushOld now') →
      now'.toNat ≤ (c.closeTime s).toNat +
        (Assembler.new timeToLive).timeToLive.nanos / Duration.micro := by
    intro k' now' hmk' hk'k hk'
    have hle : now' ≤ now := by
      rcases Nat.eq_or_lt_of_le (Nat.le_of_lt_succ hk'k) with rfl | hlt
      · rw [hk] at hk'
        cases hk'
        exact UInt64.le_refl _
      · exact hrise.le hlt hk' hk
    have hnat := UInt64.le_iff_toNat_le.mp hle
    omega
  refine ⟨(remembered_until h hrange hc hs (by omega) hearly).1, fun n hmn hnk => ?_⟩
  have hbefore := remembered_until h hrange hc hs hmn fun k' now' hmk' hk'n =>
    hearly k' now' hmk' (by omega)
  exact hbefore.2.2

/-- A sweep, a span that ends after it, and two more sweeps: one just within one time to live of the
first, and one beyond that of the span. -/
def stampedSince : List Call :=
  [.flushOld 2000, .record ⟨⟨0, 1, none, 1⟩, .empty, 2001, .clientRecv⟩, .flushOld 3000,
    .flushOld 3002]

theorem remembers_from_close_time_stampedSince :
    ((Assembler.new (.ofMillis 1)).upTo stampedSince 3).closed.get? ⟨0, 1, none, 1⟩ = some 2001 ∧
      ((Assembler.new (.ofMillis 1)).upTo stampedSince 4).closed.get? ⟨0, 1, none, 1⟩ = none := by
  have hs : ((Span.new ⟨0, 1, none, 1⟩).push
      ⟨⟨0, 1, none, 1⟩, .empty, 2001, .clientRecv⟩).completed ∈
      (Assembler.new (.ofMillis 1)).handedAt stampedSince 1 := by decide
  have hremembers := remembers_from_close_time (.ofMillis 1) (by decide) stampedSince 1 _ _ rfl hs
  have hclosed := hremembers.since_sweep (by unfold SweepsRise; decide) 0 2000 rfl (by decide)
    (.inr (by decide)) 2 3000 (by decide) rfl (by decide)
  exact ⟨hclosed.1, hremembers.forgotten 3 3002 rfl hclosed.1 (by decide)⟩

/-- A sweep, a span that ends with a record from long before that, a sweep right after it, and another
record of the same identity. -/
def stampedLongAgo : List Call :=
  let r : Record := ⟨⟨0, 1, none, 1⟩, .empty, 5, .clientRecv⟩
  [.flushOld 2000, .record r, .flushOld 2001, .record { r with timestamp := 2002 }]

/-- An identity that closes after a sweep can be forgotten and handed over again within one time to
live of that sweep. -/
theorem not_remembersFromSweeps_stampedLongAgo :
    SweepsRise stampedLongAgo ∧
      ¬ (Assembler.new (.ofMillis 1)).RemembersFromSweeps stampedLongAgo ∧
      ((Assembler.new (.ofMillis 1)).handedOver stampedLongAgo).map Span.identity =
        [⟨0, 1, none, 1⟩, ⟨0, 1, none, 1⟩] := by
  refine ⟨?_, ?_, by decide⟩
  · unfold SweepsRise
    decide
  · intro hremembers
    have hs : ((Span.new ⟨0, 1, none, 1⟩).push ⟨⟨0, 1, none, 1⟩, .empty, 5, .clientRecv⟩).completed ∈
        (Assembler.new (.ofMillis 1)).handedAt stampedLongAgo 1 := by decide
    have hclosed := hremembers 0 2000 1 _ 2 2001 rfl (by decide) hs (by decide) rfl (by decide)
    revert hclosed
    decide

end Assembler

end TracePipeline
