import TracePipeline.Proofs.Assembly.Calls

/-!
# Filtering whole traces

A sampler in front of an assembler decides by trace id, and what the assembler does with one
identity does not depend on records of others. So a trace that leaves the decision open comes out as
without the sampler or not at all, one that carries its decision comes out with its sampled records,
and no trace has an influence on another one.
-/

namespace TracePipeline

/-- Whether a call can do something to the identities of a trace, as all can but the records of
other traces. -/
def Assembler.Call.concernsTrace (t : UInt64) : Assembler.Call → Bool
  | .record r => r.identity.trace = t
  | .flushOld _ | .flushAll | .shutdown => true

/-- Whether a call is a record with the sampled bit, or no record at all. -/
def Assembler.Call.isSampled : Assembler.Call → Bool
  | .record r => r.flags.contains .sampled
  | .flushOld _ | .flushAll | .shutdown => true

namespace Assembly

/-- The spans of an identity that numbered calls hand over, each with the number of its call. -/
def handovers (i : Identity) (a : Assembly) : List (Assembler.Call × Nat) → List (Span × Nat)
  | [] => []
  | (c, n) :: rest =>
    ((a.handed c).filter fun s => s.identity = i).map (fun s => (s, n)) ++
      (a.step c).handovers i rest

/-- After runs of two assemblies the same is known about every identity of a trace, and the same
spans of it were handed over, in the same calls. -/
structure SameTrace (t : UInt64) (a b : Assembly) (calls others : List (Assembler.Call × Nat)) :
    Prop where
  opened : ∀ i, i.trace = t → (a.after (calls.map Prod.fst)).assembler.opened.get? i =
    (b.after (others.map Prod.fst)).assembler.opened.get? i
  closed : ∀ i, i.trace = t → (a.after (calls.map Prod.fst)).assembler.closed.get? i =
    (b.after (others.map Prod.fst)).assembler.closed.get? i
  handovers : ∀ i, i.trace = t → a.handovers i calls = b.handovers i others

/-- After a run nothing is known about any identity of a trace, and nothing of it was handed
over. -/
structure NothingOf (t : UInt64) (a : Assembly) (calls : List (Assembler.Call × Nat)) : Prop where
  opened : ∀ i, i.trace = t → (a.after (calls.map Prod.fst)).assembler.opened.get? i = none
  closed : ∀ i, i.trace = t → (a.after (calls.map Prod.fst)).assembler.closed.get? i = none
  handovers : ∀ i, i.trace = t → a.handovers i calls = []

/-- No record of a trace carries a decision. -/
def Undecided (t : UInt64) (calls : List (Assembler.Call × Nat)) : Prop :=
  ∀ r n, (.record r, n) ∈ calls → r.identity.trace = t → r.flags.isSamplingKnown = false

/-- Every record of a trace carries a decision. -/
def Decided (t : UInt64) (calls : List (Assembler.Call × Nat)) : Prop :=
  ∀ r n, (.record r, n) ∈ calls → r.identity.trace = t → r.flags.isSamplingKnown = true

/-- What a sampler in front of an assembly does to traces, next to the assembly without one. -/
structure FiltersTraces (a : Assembly) (s : Sampler) (bare : Assembly) : Prop where
  undecided_sampled : ∀ t calls, Undecided t calls → s.sample t = true →
    SameTrace t a bare calls calls
  undecided_dropped : ∀ t calls, Undecided t calls → s.sample t = false → NothingOf t a calls
  decided : ∀ t calls, Decided t calls →
    SameTrace t a bare calls (calls.filter fun c => c.1.isSampled)
  admits_decided : ∀ calls r, r.flags.isSamplingKnown = true →
    (a.after calls).admits r = r.flags.contains .sampled
  uninfluenced : ∀ t calls s', Decided t calls →
    SameTrace t a { a with sampler := some s' } calls calls
  alone : ∀ t calls, SameTrace t a a calls (calls.filter fun c => c.1.concernsTrace t)

variable {a b : Assembly} {s : Sampler} {t : UInt64} {i : Identity} {r : Record}
  {calls others : List (Assembler.Call × Nat)}

lemma handovers_eq (a : Assembly) (i : Identity) (calls : List (Assembler.Call × Nat)) :
    a.handovers i calls = a.assembler.handovers i (calls.filter fun c => passes a.sampler c.1) := by
  induction calls generalizing a with
  | nil => rfl
  | cons call rest ih =>
    obtain ⟨c, n⟩ := call
    rw [handovers, ih, sampler_step, handed_eq,
      Assembler.handovers_congr (assembler_step a c)]
    cases h : passes a.sampler c with
    | true =>
      rw [List.filter_cons_of_pos (by simpa using h)]
      rfl
    | false =>
      rw [List.filter_cons_of_neg (by simpa using h)]
      rfl

lemma assembler_after_numbered (a : Assembly) (calls : List (Assembler.Call × Nat)) :
    (a.after (calls.map Prod.fst)).assembler.uncounted =
      (a.assembler.after
        ((calls.filter fun c => passes a.sampler c.1).map Prod.fst)).uncounted := by
  rw [assembler_after, List.filter_map]
  rfl

/-- The calls on an assembly that get past its sampler and can do something to an identity. -/
def reaching (sampler : Option Sampler) (i : Identity) (calls : List (Assembler.Call × Nat)) :
    List (Assembler.Call × Nat) :=
  (calls.filter fun c => passes sampler c.1).filter fun c => c.1.concerns i

lemma mem_reaching {sampler : Option Sampler} {c : Assembler.Call × Nat} :
    c ∈ reaching sampler i calls ↔
      c ∈ calls ∧ passes sampler c.1 = true ∧ c.1.concerns i = true := by
  rw [reaching, List.mem_filter, List.mem_filter, and_assoc]

lemma reaching_congr {sampler sampler' : Option Sampler}
    (h : ∀ c ∈ calls, c.1.concerns i = true → passes sampler c.1 = passes sampler' c.1) :
    reaching sampler i calls = reaching sampler' i calls := by
  rw [reaching, reaching, List.filter_filter, List.filter_filter]
  refine List.filter_congr fun c hc => ?_
  cases hi : c.1.concerns i with
  | true => rw [h c hc hi]
  | false => rfl

/-- Calls may be left out that a sampler keeps back. -/
lemma reaching_filter {sampler sampler' : Option Sampler} {p : Assembler.Call → Bool}
    (h : ∀ c ∈ calls, c.1.concerns i = true →
      passes sampler c.1 = (p c.1 && passes sampler' c.1)) :
    reaching sampler i calls = reaching sampler' i (calls.filter fun c => p c.1) := by
  rw [reaching, reaching, List.filter_filter, List.filter_filter, List.filter_filter]
  refine List.filter_congr fun c hc => ?_
  cases hi : c.1.concerns i with
  | true => rw [h c hc hi, Bool.and_comm (p c.1), Bool.true_and, Bool.true_and]
  | false => rfl

lemma trace_of_concerns (hi : i.trace = t) (h : (Assembler.Call.record r).concerns i = true) :
    r.identity.trace = t := by
  have hri : r.identity = i := of_decide_eq_true h
  rw [hri, hi]

/-- The identity goes its way by the calls that reach it. -/
lemma sameFor_reaching (h : a.assembler.WellFormed) (calls : List (Assembler.Call × Nat)) :
    (a.after (calls.map Prod.fst)).assembler.opened.get? i =
        (a.assembler.after ((reaching a.sampler i calls).map Prod.fst)).opened.get? i ∧
      (a.after (calls.map Prod.fst)).assembler.closed.get? i =
        (a.assembler.after ((reaching a.sampler i calls).map Prod.fst)).closed.get? i ∧
      a.handovers i calls = a.assembler.handovers i (reaching a.sampler i calls) := by
  obtain ⟨hopened, hclosed, hhanded⟩ :=
    Assembler.SameFor.filter (i := i) h (calls.filter fun c => passes a.sampler c.1)
  have hafter := assembler_after_numbered a calls
  rw [handovers_eq]
  exact ⟨(congrArg (·.opened.get? i) hafter).trans hopened,
    (congrArg (·.closed.get? i) hafter).trans hclosed, hhanded⟩

lemma SameTrace.of_reaching (h : a.assembler.WellFormed) (hab : b.assembler = a.assembler)
    (hreach : ∀ i, i.trace = t → reaching a.sampler i calls = reaching b.sampler i others) :
    SameTrace t a b calls others := by
  have hb : b.assembler.WellFormed := by
    rw [hab]
    exact h
  refine ⟨fun i hi => ?_, fun i hi => ?_, fun i hi => ?_⟩
  · rw [(sameFor_reaching h calls).1, (sameFor_reaching hb others).1, hab, hreach i hi]
  · rw [(sameFor_reaching h calls).2.1, (sameFor_reaching hb others).2.1, hab, hreach i hi]
  · rw [(sameFor_reaching h calls).2.2, (sameFor_reaching hb others).2.2, hab, hreach i hi]

lemma SameTrace.symm (h : SameTrace t a b calls others) : SameTrace t b a others calls :=
  ⟨fun i hi => (h.opened i hi).symm, fun i hi => (h.closed i hi).symm,
    fun i hi => (h.handovers i hi).symm⟩

lemma SameTrace.trans {c : Assembly} {more : List (Assembler.Call × Nat)}
    (h : SameTrace t a b calls others) (h' : SameTrace t b c others more) :
    SameTrace t a c calls more :=
  ⟨fun i hi => (h.opened i hi).trans (h'.opened i hi),
    fun i hi => (h.closed i hi).trans (h'.closed i hi),
    fun i hi => (h.handovers i hi).trans (h'.handovers i hi)⟩

end Assembly

namespace Assembler

variable {a : Assembler} {i : Identity} {calls : List (Call × Nat)}

/-- An identity of which nothing is known stays so in a call that is no record of it. -/
lemma Slot.step_unknown (ttl : UInt64) (isShutdown : Bool) {c : Call}
    (hc : ∀ r, c = .record r → r.identity ≠ i) :
    Slot.unknown.step ttl isShutdown i c = (.unknown, none) := by
  cases c with
  | record r => rw [Slot.step, if_neg (hc r rfl)]
  | flushOld now => rfl
  | flushAll => rfl
  | shutdown => cases isShutdown <;> rfl

lemma unknown_after (h : a.WellFormed) (hslot : a.slot i = .unknown)
    (hcalls : ∀ r n, (.record r, n) ∈ calls → r.identity ≠ i) :
    (a.after (calls.map Prod.fst)).slot i = .unknown ∧ a.handovers i calls = [] := by
  induction calls generalizing a with
  | nil => exact ⟨hslot, rfl⟩
  | cons call rest ih =>
    obtain ⟨c, n⟩ := call
    have hidle : (a.slot i).step a.ttl a.isShutdown i c = (.unknown, none) := by
      rw [hslot]
      refine Slot.step_unknown _ _ fun r hr => hcalls r n ?_
      rw [hr]
      exact List.mem_cons_self
    have hnext : (a.step c).1.slot i = .unknown := by rw [slot_step h, hidle]
    obtain ⟨hlast, hnone⟩ := ih (h.step c) hnext fun r n hr =>
      hcalls r n (List.mem_cons_of_mem _ hr)
    refine ⟨hlast, ?_⟩
    rw [handovers, filter_step h, hidle, hnone]
    rfl

end Assembler

namespace Assembly

variable {a b : Assembly} {s : Sampler} {t : UInt64} {i : Identity} {r : Record}
  {calls others : List (Assembler.Call × Nat)}

lemma NothingOf.of_reaching (h : a.assembler.WellFormed)
    (hnew : ∀ i, a.assembler.slot i = .unknown)
    (hreach : ∀ i, i.trace = t → ∀ r n, (.record r, n) ∈ reaching a.sampler i calls →
      r.identity ≠ i) : NothingOf t a calls := by
  have hnothing : ∀ i, i.trace = t →
      (a.assembler.after ((reaching a.sampler i calls).map Prod.fst)).slot i = .unknown ∧
        a.assembler.handovers i (reaching a.sampler i calls) = [] :=
    fun i hi => Assembler.unknown_after h (hnew i) (hreach i hi)
  refine ⟨fun i hi => ?_, fun i hi => ?_, fun i hi => ?_⟩
  · rw [(sameFor_reaching h calls).1]
    exact (Assembler.slot_eq_unknown_iff.mp (hnothing i hi).1).1
  · rw [(sameFor_reaching h calls).2.1]
    exact (Assembler.slot_eq_unknown_iff.mp (hnothing i hi).1).2
  · rw [(sameFor_reaching h calls).2.2]
    exact (hnothing i hi).2

lemma passes_undecided (h : r.flags.isSamplingKnown = false) :
    passes (some s) (.record r) = s.sample r.identity.trace := by
  have hstatus : r.flags.status = .noDecision := by simp [Flags.status, h]
  change s.admits r.flags r.identity.trace = _
  rw [Sampler.admits, hstatus]

lemma passes_decided (h : r.flags.isSamplingKnown = true) :
    passes (some s) (.record r) = r.flags.contains .sampled := by
  change s.admits r.flags r.identity.trace = _
  rw [Sampler.admits, Flags.status, if_pos h]
  cases r.flags.contains .sampled <;> rfl

lemma passes_none (c : Assembler.Call) : passes none c = true := by
  cases c <;> rfl

lemma reaching_sampled (hi : i.trace = t) (hund : Undecided t calls) (hs : s.sample t = true) :
    reaching (some s) i calls = reaching none i calls := by
  refine reaching_congr fun c hc hconcerns => ?_
  obtain ⟨c, n⟩ := c
  cases c with
  | record r =>
    have ht := trace_of_concerns hi hconcerns
    rw [passes_undecided (hund r n hc ht), ht, hs, passes_none]
  | flushOld now => rfl
  | flushAll => rfl
  | shutdown => rfl

lemma not_reaching_dropped (hi : i.trace = t) (hund : Undecided t calls) (hs : s.sample t = false)
    {n : Nat} (hr : (.record r, n) ∈ reaching (some s) i calls) : r.identity ≠ i := by
  obtain ⟨hc, hpasses, hconcerns⟩ := mem_reaching.mp hr
  have ht := trace_of_concerns hi hconcerns
  rw [passes_undecided (hund r n hc ht), ht, hs] at hpasses
  cases hpasses

lemma reaching_decided (hi : i.trace = t) (hdec : Decided t calls) :
    reaching (some s) i calls = reaching none i (calls.filter fun c => c.1.isSampled) := by
  refine reaching_filter fun c hc hconcerns => ?_
  obtain ⟨c, n⟩ := c
  rw [passes_none, Bool.and_true]
  cases c with
  | record r => exact passes_decided (hdec r n hc (trace_of_concerns hi hconcerns))
  | flushOld now => rfl
  | flushAll => rfl
  | shutdown => rfl

lemma reaching_alone (sampler : Option Sampler) (hi : i.trace = t)
    (calls : List (Assembler.Call × Nat)) :
    reaching sampler i calls =
      reaching sampler i (calls.filter fun c => c.1.concernsTrace t) := by
  refine reaching_filter fun c hc hconcerns => ?_
  obtain ⟨c, n⟩ := c
  cases c with
  | record r =>
    have ht : (Assembler.Call.record r).concernsTrace t = true :=
      decide_eq_true (trace_of_concerns hi hconcerns)
    rw [ht, Bool.true_and]
  | flushOld now => rfl
  | flushAll => rfl
  | shutdown => rfl

/-- A sampler in front of a new assembly lets whole traces through. -/
theorem filters_whole_traces (timeToLive : Duration) (processor : Processor) (s : Sampler) :
    FiltersTraces ⟨.new timeToLive, processor, some s⟩ s ⟨.new timeToLive, processor, none⟩ := by
  have h : (Assembler.new timeToLive).WellFormed := Assembler.wellFormed_new timeToLive
  have hdecided : ∀ s t calls, Decided t calls →
      SameTrace t ⟨.new timeToLive, processor, some s⟩ ⟨.new timeToLive, processor, none⟩ calls
        (calls.filter fun c => c.1.isSampled) :=
    fun s t calls hdec => .of_reaching h rfl fun i hi => reaching_decided hi hdec
  refine
    { undecided_sampled := fun t calls hund hs =>
        .of_reaching h rfl fun i hi => reaching_sampled hi hund hs
      undecided_dropped := fun t calls hund hs =>
        .of_reaching h (fun i => rfl) fun i hi r n hr => not_reaching_dropped hi hund hs hr
      decided := hdecided s
      admits_decided := fun calls r hr => ?_
      uninfluenced := fun t calls s' hdec =>
        (hdecided s t calls hdec).trans (hdecided s' t calls hdec).symm
      alone := fun t calls => .of_reaching h rfl fun i hi => reaching_alone (some s) hi calls }
  rw [admits_eq, sampler_after]
  exact passes_decided hr

end Assembly

end TracePipeline
