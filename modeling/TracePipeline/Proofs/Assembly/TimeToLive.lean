import TracePipeline.Proofs.Assembly.Sweep

/-!
# The time to live as a length of time

A sweep compares whole microseconds in 64 bits with a time to live that was given in nanoseconds.
As long as its microseconds fit, what the sweep flushes or forgets has been idle for longer than the
exact time to live, and a longer one flushes less. A time to live of `2 ^ 64` microseconds or more
loses its high bits, and then counts as a much shorter one.
-/

namespace TracePipeline

/-- The exact length of time from one time to another in nanoseconds, zero if the second is the
earlier one. -/
def idleNanos (now earlier : UInt64) : Nat := (now.toNat - earlier.toNat) * Duration.micro

/-- What is idle for longer in whole microseconds is so in nanoseconds. -/
lemma lt_since_micros_iff {d : Duration} (h : d.nanos / Duration.micro < UInt64.size)
    {now earlier : UInt64} : d.micros < since now earlier ↔ d.nanos < idleNanos now earlier := by
  rw [lt_since_iff, Duration.toNat_micros h, idleNanos, Duration.micro]
  omega

namespace Assembly

/-- The assembly with another time to live. -/
def withTimeToLive (a : Assembly) (d : Duration) : Assembly :=
  { a with assembler := { a.assembler with timeToLive := d } }

/-- What a time to live promises as an exact length of time, and what a longer one promises besides
as long as its microseconds fit. -/
structure HonoursTimeToLive (d : Duration) (a : Assembly) : Prop where
  flushes : ∀ now s, s ∈ a.handed (.flushOld now) → d.nanos < idleNanos now s.lastUpdate
  forgets : ∀ now i time, a.assembler.closed.get? i = some time →
    (a.flushOld now).1.assembler.closed.get? i = none → d.nanos < idleNanos now time
  raised : ∀ shorter longer : Duration, shorter.nanos ≤ longer.nanos →
    longer.nanos / Duration.micro < UInt64.size → ∀ now s,
    s ∈ (a.withTimeToLive longer).handed (.flushOld now) →
      s ∈ (a.withTimeToLive shorter).handed (.flushOld now)

variable {a : Assembly} {d : Duration} {now : UInt64} {i : Identity} {s : Span} {time : UInt64}

lemma wellFormed_withTimeToLive (h : a.assembler.WellFormed) (d : Duration) :
    (a.withTimeToLive d).assembler.WellFormed :=
  ⟨h.opened_distinct, h.closed_distinct, h.own, h.incomplete, h.apart⟩

lemma mem_handed_withTimeToLive (h : a.assembler.WellFormed)
    (hrange : d.nanos / Duration.micro < UInt64.size) :
    s ∈ (a.withTimeToLive d).handed (.flushOld now) ↔
      a.assembler.opened.get? s.identity = some s ∧ d.nanos < idleNanos now s.lastUpdate := by
  have hmem : s ∈ (a.withTimeToLive d).handed (.flushOld now) ∧ s.identity = s.identity ↔ _ :=
    mem_handed_flushOld (wellFormed_withTimeToLive h d) s.identity s
  rw [and_iff_left rfl] at hmem
  rw [← lt_since_micros_iff hrange]
  exact hmem

lemma old_of_forgotten (h : a.assembler.WellFormed)
    (hclosed : a.assembler.closed.get? i = some time)
    (hgone : (a.flushOld now).1.assembler.closed.get? i = none) :
    a.assembler.ttl < since now time := by
  by_contra hfresh
  have hkept : (a.assembler.flushOld now).1.closed.get? i = some time :=
    (Assembler.closed_flushOld_eq_some_iff h).mpr (.inl ⟨hclosed, hfresh⟩)
  have hsame : (a.flushOld now).1.assembler = (a.assembler.flushOld now).1 := rfl
  rw [hsame, hkept] at hgone
  cases hgone

lemma raised_of_wellFormed (h : a.assembler.WellFormed) {shorter longer : Duration}
    (hle : shorter.nanos ≤ longer.nanos) (hrange : longer.nanos / Duration.micro < UInt64.size)
    (hs : s ∈ (a.withTimeToLive longer).handed (.flushOld now)) :
    s ∈ (a.withTimeToLive shorter).handed (.flushOld now) := by
  have hfits : shorter.nanos / Duration.micro < UInt64.size :=
    Nat.lt_of_le_of_lt (Nat.div_le_div_right hle) hrange
  obtain ⟨hopened, hidle⟩ := (mem_handed_withTimeToLive h hrange).mp hs
  exact (mem_handed_withTimeToLive h hfits).mpr ⟨hopened, Nat.lt_of_le_of_lt hle hidle⟩

/-- A time to live whose microseconds fit in 64 bits is honoured to the nanosecond. -/
theorem honours_time_to_live (d : Duration) (hrange : d.nanos / Duration.micro < UInt64.size)
    (processor : Processor) (sampler : Option Sampler) (calls : List Assembler.Call) :
    HonoursTimeToLive d ((⟨.new d, processor, sampler⟩ : Assembly).after calls) := by
  have h := wellFormed_after d processor sampler calls
  have httl : ((⟨.new d, processor, sampler⟩ : Assembly).after calls).assembler.ttl = d.micros := by
    rw [Assembler.ttl, timeToLive_after]
    rfl
  refine ⟨fun now s hs => ?_, fun now i time hclosed hgone => ?_,
    fun shorter longer hle hfits now s => raised_of_wellFormed h hle hfits⟩
  · have hidle := ((mem_handed_flushOld h s.identity s).mp ⟨hs, rfl⟩).2
    rw [httl] at hidle
    exact (lt_since_micros_iff hrange).mp hidle
  · have hold := old_of_forgotten h hclosed hgone
    rw [httl] at hold
    exact (lt_since_micros_iff hrange).mp hold

/-- An assembly with a time to live, and with a span that was last heard of at a time. -/
def heardAt (d : Duration) (time : UInt64) : Assembly :=
  (collecting d none none).after [.record ⟨⟨0, 1, none, 1⟩, .empty, time, .serverRecv⟩]

/-- A time to live of a millisecond and almost a microsecond more. -/
def almostTwo : Duration := ⟨1000999, by decide⟩

/-- A sweep comes while a span is idle for less than the time to live, another one when it is so for
more. -/
theorem honours_time_to_live_almostTwo :
    (heardAt almostTwo 5).handed (.flushOld 1005) = [] ∧
      ∃ s ∈ (heardAt almostTwo 5).handed (.flushOld 1006),
        almostTwo.nanos < idleNanos 1006 s.lastUpdate := by
  have hs : ((Span.new ⟨0, 1, none, 1⟩).push ⟨⟨0, 1, none, 1⟩, .empty, 5, .serverRecv⟩) ∈
      (heardAt almostTwo 5).handed (.flushOld 1006) := by decide
  have hhonours : HonoursTimeToLive almostTwo (heardAt almostTwo 5) :=
    honours_time_to_live almostTwo (by decide) _ none _
  exact ⟨by decide, _, hs, hhonours.flushes 1006 _ hs⟩

/-- A time to live of `2 ^ 64` microseconds, which are none in 64 bits. -/
def wrapping : Duration := ⟨18446744073709551616000, by decide⟩

/-- A span is flushed a microsecond after it was heard of, which a time to live of a millisecond
would have kept. -/
theorem not_honours_time_to_live_wrapping :
    ¬ HonoursTimeToLive wrapping (heardAt wrapping 1000) ∧
      ∃ s ∈ (heardAt wrapping 1000).handed (.flushOld 1001),
        s ∉ ((heardAt wrapping 1000).withTimeToLive (.ofMillis 1)).handed (.flushOld 1001) := by
  have hs : ((Span.new ⟨0, 1, none, 1⟩).push ⟨⟨0, 1, none, 1⟩, .empty, 1000, .serverRecv⟩) ∈
      (heardAt wrapping 1000).handed (.flushOld 1001) := by decide
  refine ⟨fun hhonours => ?_, _, hs, by decide⟩
  have hidle := hhonours.flushes 1001 _ hs
  revert hidle
  decide

end Assembly

end TracePipeline
