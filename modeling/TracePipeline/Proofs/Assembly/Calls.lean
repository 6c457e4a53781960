import TracePipeline.Proofs.Assembly
import TracePipeline.Proofs.Assembler.Isolation

/-!
# Calls on an assembly

An assembly is called as its assembler is. Each call goes on to the assembler, but for the records
that the sampler keeps back, and what the assembler hands over is what the processor gets. Only the
counters may fall behind those of the assembler, if the shutdown breaks down with the processor; no
call looks at them.
-/

namespace TracePipeline

namespace Assembler

/-- The assembler without its counters. -/
def uncounted (a : Assembler) : Assembler := { a with statistics := {} }

variable {a b : Assembler}

lemma uncounted_with (a : Assembler) (statistics : Statistics) :
    uncounted { a with statistics } = a.uncounted := rfl

lemma step_uncounted (a : Assembler) (c : Call) :
    (a.uncounted.step c).1.uncounted = (a.step c).1.uncounted ∧
      (a.uncounted.step c).2 = (a.step c).2 := by
  cases c with
  | record r =>
    have hclosed : a.uncounted.closed = a.closed := rfl
    simp only [step, record, hclosed]
    split
    · exact ⟨rfl, rfl⟩
    · split <;> exact ⟨rfl, rfl⟩
  | flushOld now => exact ⟨rfl, rfl⟩
  | flushAll => exact ⟨rfl, rfl⟩
  | shutdown =>
    have hshut : a.uncounted.isShutdown = a.isShutdown := rfl
    rw [step_shutdown, step_shutdown, hshut]
    split <;> exact ⟨rfl, rfl⟩

/-- No call looks at the counters. -/
lemma step_congr (h : a.uncounted = b.uncounted) (c : Call) :
    (a.step c).1.uncounted = (b.step c).1.uncounted ∧ (a.step c).2 = (b.step c).2 := by
  obtain ⟨hfirst, hsecond⟩ := a.step_uncounted c
  rw [← hfirst, ← hsecond, h]
  exact b.step_uncounted c

lemma after_congr (h : a.uncounted = b.uncounted) (calls : List Call) :
    (a.after calls).uncounted = (b.after calls).uncounted := by
  induction calls generalizing a b with
  | nil => exact h
  | cons c calls ih => exact ih (step_congr h c).1

lemma handovers_congr (h : a.uncounted = b.uncounted) (i : Identity) (calls : List (Call × Nat)) :
    a.handovers i calls = b.handovers i calls := by
  induction calls generalizing a b with
  | nil => rfl
  | cons call calls ih =>
    obtain ⟨c, n⟩ := call
    obtain ⟨hfirst, hsecond⟩ := step_congr h c
    rw [handovers, handovers, hsecond, ih hfirst]

lemma WellFormed.congr (h : a.WellFormed) (hab : b.uncounted = a.uncounted) : b.WellFormed := by
  obtain ⟨-, hopened, hclosed, -, -⟩ := Assembler.mk.inj hab
  obtain ⟨hopened_distinct, hclosed_distinct, hown, hincomplete, hapart⟩ := h
  rw [← hopened] at hopened_distinct hown hincomplete hapart
  rw [← hclosed] at hclosed_distinct hapart
  exact ⟨hopened_distinct, hclosed_distinct, hown, hincomplete, hapart⟩

end Assembler

namespace Assembly

/-- The assembly after a call. -/
def step (a : Assembly) : Assembler.Call → Assembly
  | .record r => (a.record r).1
  | .flushOld now => (a.flushOld now).1
  | .flushAll => a.flushAll.1
  | .shutdown => a.shutdown.1

/-- The assembly after several calls. -/
def after (a : Assembly) (calls : List Assembler.Call) : Assembly := calls.foldl step a

/-- The spans that leave for the processor in a call: those that a collector would get that stands
in its place. -/
def handed (a : Assembly) (c : Assembler.Call) : List Span :=
  ({ a with processor := .collector (.new none) }.step c).release.1

/-- Whether a call gets past a sampler. -/
def passes (sampler : Option Sampler) : Assembler.Call → Bool
  | .record r => sampler.all fun s => s.admits r.flags r.identity.trace
  | .flushOld _ | .flushAll | .shutdown => true

variable {a : Assembly} {c : Assembler.Call}

lemma admits_eq (a : Assembly) (r : Record) : a.admits r = passes a.sampler (.record r) := by
  rw [admits, passes]
  cases a.sampler <;> rfl

/-- The assembler is called with what gets past the sampler, and the processor is fed the spans that
it hands over. -/
structure Called (a : Assembly) (c : Assembler.Call) (b : Assembly) : Prop where
  sampler : b.sampler = a.sampler
  assembler : b.assembler = (a.assembler.step c).1
  processor : ∃ inputs, b.processor = a.processor.feed inputs ∧
    Processor.handed inputs = (a.assembler.step c).2

lemma Called.handOver (a : Assembly) (c : Assembler.Call) {out : Handover}
    (hout : out.spans = (a.assembler.step c).2) :
    Called a c (a.handOver (a.assembler.step c).1 out).1 where
  sampler := rfl
  assembler := rfl
  processor := ⟨[.spans out.spans], rfl, by simp [Processor.handed, hout]⟩

lemma called_shutdown (hsturdy : a.processor.Sturdy) : Called a .shutdown a.shutdown.1 := by
  cases hshut : a.assembler.isShutdown with
  | true =>
    have hstep := Assembler.step_shutdown_again hshut
    rw [shutdown_again hshut]
    refine ⟨rfl, ?_, [], rfl, ?_⟩
    · rw [hstep]
    · rw [hstep]
      rfl
  | false =>
    rcases shutdown_cases hshut with ⟨-, events, heq⟩ | ⟨⟨span, -, hbreaks⟩, -⟩
    · rw [heq]
      refine ⟨rfl, rfl, _, rfl, ?_⟩
      simp [Processor.handed, step_shutdown_snd hshut]
    · rw [hsturdy span] at hbreaks
      cases hbreaks

lemma called_step (h : passes a.sampler c = true) (hsturdy : a.processor.Sturdy) :
    Called a c (a.step c) := by
  cases c with
  | record r =>
    have hadmits : a.admits r = true := (admits_eq a r).trans h
    rw [step, Assembly.record, if_pos hadmits]
    exact .handOver a (.record r) rfl
  | flushOld now => exact .handOver a (.flushOld now) rfl
  | flushAll => exact .handOver a .flushAll rfl
  | shutdown => exact called_shutdown hsturdy

lemma step_of_kept_back (h : passes a.sampler c = false) : a.step c = a := by
  cases c with
  | record r =>
    have hadmits : ¬ a.admits r = true := by
      rw [admits_eq, h]
      exact Bool.false_ne_true
    rw [step, Assembly.record, if_neg hadmits]
  | flushOld now => cases h
  | flushAll => cases h
  | shutdown => cases h

lemma sampler_step (a : Assembly) (c : Assembler.Call) : (a.step c).sampler = a.sampler := by
  cases c with
  | record r =>
    rw [step, Assembly.record]
    split <;> rfl
  | flushOld now => rfl
  | flushAll => rfl
  | shutdown => exact sampler_shutdown a

lemma assembler_step (a : Assembly) (c : Assembler.Call) :
    (a.step c).assembler.uncounted =
      (if passes a.sampler c then (a.assembler.step c).1 else a.assembler).uncounted := by
  cases h : passes a.sampler c with
  | true =>
    rw [if_pos rfl]
    cases c with
    | record r =>
      have hadmits : a.admits r = true := (admits_eq a r).trans h
      rw [step, Assembly.record, if_pos hadmits]
      rfl
    | flushOld now => rfl
    | flushAll => rfl
    | shutdown =>
      obtain ⟨statistics, hassembler⟩ := a.assembler_shutdown
      rw [step, hassembler, Assembler.uncounted_with]
  | false =>
    rw [step_of_kept_back h]
    rfl

lemma handed_eq (a : Assembly) (c : Assembler.Call) :
    a.handed c = if passes a.sampler c then (a.assembler.step c).2 else [] := by
  let watched : Assembly := { a with processor := .collector (.new none) }
  cases h : passes a.sampler c with
  | true =>
    have hsturdy : watched.processor.Sturdy := fun _ => rfl
    obtain ⟨inputs, hinputs, hspans⟩ := (called_step (a := watched) h hsturdy).processor
    obtain ⟨shutdowns, hfeed⟩ := Processor.feed_collector (.new none) inputs
    have hrelease : (watched.step c).release.1 = Processor.handed inputs := by
      rw [release, hinputs, hfeed]
      rfl
    exact hrelease.trans hspans
  | false =>
    rw [handed, step_of_kept_back (a := watched) h]
    rfl

lemma sampler_after (a : Assembly) (calls : List Assembler.Call) :
    (a.after calls).sampler = a.sampler := by
  induction calls generalizing a with
  | nil => rfl
  | cons c calls ih => exact (ih (a.step c)).trans (sampler_step a c)

/-- The assembler of an assembly went through the calls that got past the sampler. -/
theorem assembler_after (a : Assembly) (calls : List Assembler.Call) :
    (a.after calls).assembler.uncounted =
      (a.assembler.after (calls.filter (passes a.sampler))).uncounted := by
  induction calls generalizing a with
  | nil => rfl
  | cons c calls ih =>
    change ((a.step c).after calls).assembler.uncounted = _
    rw [ih, sampler_step, Assembler.after_congr (assembler_step a c)]
    cases h : passes a.sampler c with
    | true =>
      rw [List.filter_cons_of_pos h]
      rfl
    | false =>
      rw [List.filter_cons_of_neg (by simpa using h)]
      rfl

/-- What a new assembly does not break in any run. -/
lemma wellFormed_after (timeToLive : Duration) (processor : Processor) (sampler : Option Sampler)
    (calls : List Assembler.Call) :
    ((⟨.new timeToLive, processor, sampler⟩ : Assembly).after calls).assembler.WellFormed :=
  ((Assembler.wellFormed_new timeToLive).after _).congr (assembler_after _ calls)

lemma timeToLive_after (a : Assembly) (calls : List Assembler.Call) :
    (a.after calls).assembler.timeToLive = a.assembler.timeToLive := by
  have htimes := congrArg Assembler.timeToLive (assembler_after a calls)
  exact htimes.trans (Assembler.timeToLive_after _ _)

end Assembly

end TracePipeline
