import Mathlib.Data.List.TakeDrop
import Mathlib.Data.List.TakeWhile
import TracePipeline.Assembly
import TracePipeline.Proofs.Assembler.History

/-!
# What an assembly does with its processor

An assembly without a sampler makes its assembler do what it is asked to do, and gives the processor
the spans that the assembler hands over. What the processor does with them has no influence on the
assembler, so it is followed as a list of inputs. Only at its shutdown an assembly may break down with
the processor, and then spans are left.
-/

namespace TracePipeline

namespace Processor

/-- What happens to a processor. -/
inductive Input where
  | spans (l : List Span)
  | wait (nanos : Nat)
  | shutdown

def take (p : Processor) : Input → Processor
  | .spans l => (p.logAll l).1
  | .wait nanos => p.wait nanos
  | .shutdown => p.shutdown.1

def feed (p : Processor) (inputs : List Input) : Processor := inputs.foldl take p

/-- The spans that are handed to a processor. -/
def handed (inputs : List Input) : List Span :=
  inputs.flatMap fun
    | .spans l => l
    | .wait _ | .shutdown => []

lemma feed_concat (p : Processor) (inputs : List Input) (input : Input) :
    p.feed (inputs ++ [input]) = (p.feed inputs).take input := by
  rw [feed, List.foldl_append]
  rfl

lemma handed_append (inputs more : List Input) :
    handed (inputs ++ more) = handed inputs ++ handed more :=
  List.flatMap_append

lemma foldl_log (c : Collector) (l : List Span) :
    l.foldl Collector.log c = { c with spans := c.spans ++ l } := by
  induction l generalizing c with
  | nil => simp
  | cons s l ih =>
    rw [List.foldl_cons, ih]
    simp [Collector.log]

/-- A collector holds what it was handed. -/
theorem feed_collector (c : Collector) (inputs : List Input) :
    ∃ shutdowns, (collector c).feed inputs =
      collector ⟨c.failure, c.spans ++ handed inputs, shutdowns⟩ := by
  induction inputs using List.reverseRecOn with
  | nil => exact ⟨c.shutdowns, by simp [feed, handed]⟩
  | append_singleton inputs input ih =>
    obtain ⟨shutdowns, ih⟩ := ih
    rw [feed_concat, ih, handed_append]
    cases input with
    | spans l => exact ⟨shutdowns, by simp [take, logAll, foldl_log, handed]⟩
    | wait nanos => exact ⟨shutdowns, by simp [take, wait, handed]⟩
    | shutdown => exact ⟨shutdowns + 1, by simp [take, shutdown, Collector.shutdown, handed]⟩

lemma breaksDownOn_logAll (p : SimpleProcessor) (l : List Span) (span : Span) :
    (p.logAll l).1.breaksDownOn span = p.breaksDownOn span := by
  induction l generalizing p with
  | nil => rfl
  | cons s l ih =>
    have hkept : (p.log s).1.format = p.format ∧ (p.log s).1.isShutdown = p.isShutdown := by
      rw [SimpleProcessor.log]
      split
      · exact ⟨rfl, rfl⟩
      · dsimp only
        split <;> exact ⟨rfl, rfl⟩
    refine (ih (p.log s).1).trans ?_
    simp only [SimpleProcessor.breaksDownOn, hkept]

/-- What breaks a processor down does not depend on what it was handed before. -/
theorem breaksDownOn_feed (p : Processor) {inputs : List Input} (h : .shutdown ∉ inputs)
    (span : Span) : (p.feed inputs).breaksDownOn span = p.breaksDownOn span := by
  induction inputs using List.reverseRecOn with
  | nil => rfl
  | append_singleton inputs input ih =>
    rw [feed_concat, ← ih fun hmem => h (List.mem_append_left _ hmem)]
    cases input with
    | spans l =>
      cases p.feed inputs with
      | simple q => exact breaksDownOn_logAll q l span
      | collector _ | batch _ => rfl
    | wait nanos => cases p.feed inputs <;> rfl
    | shutdown => exact absurd (List.mem_append_right _ (List.mem_singleton_self _)) h

/-- No span breaks the processor down. -/
def Sturdy (p : Processor) : Prop := ∀ span, p.breaksDownOn span = false

/-- Those of several spans that a processor is handed if they are handed over one by one: all, or all
up to the first that breaks it down. -/
def reached (p : Processor) (spans : List Span) : List Span :=
  spans.takeWhile (fun span => !p.breaksDownOn span) ++
    (spans.dropWhile fun span => !p.breaksDownOn span).take 1

variable {p : Processor} {spans before rest : List Span} {last : Span}

lemma reached_of_all (h : ∀ span ∈ spans, p.breaksDownOn span = false) : p.reached spans = spans := by
  have hall : ∀ span ∈ spans, (!p.breaksDownOn span) = true := by simpa using h
  rw [reached, List.takeWhile_eq_self_iff.mpr hall, List.dropWhile_eq_nil_iff.mpr hall]
  exact List.append_nil spans

lemma reached_append (h : ∀ span ∈ before, p.breaksDownOn span = false)
    (hlast : p.breaksDownOn last = true) : p.reached (before ++ last :: rest) = before ++ [last] := by
  have hall : ∀ span ∈ before, (!p.breaksDownOn span) = true := by simpa using h
  rw [reached, List.takeWhile_append_of_pos hall, List.dropWhile_append_of_pos hall]
  simp [hlast]

lemma Sturdy.reached (h : p.Sturdy) (spans : List Span) : p.reached spans = spans :=
  reached_of_all fun span _ => h span

end Processor

namespace Assembler

lemma step_shutdown_again {a : Assembler} (h : a.isShutdown = true) :
    a.step .shutdown = (a, []) := by
  rw [step_shutdown, if_pos h]

end Assembler

namespace Assembly

/-- An assembly that came from another one by calls on its assembler, before any shutdown. -/
structure Fed (start : Assembly) (calls : List Assembler.Call) (a : Assembly) : Prop where
  sampler : a.sampler = none
  assembler : a.assembler = start.assembler.after calls
  processor : ∃ inputs, .shutdown ∉ inputs ∧ a.processor = start.processor.feed inputs ∧
    Processor.handed inputs = start.assembler.handedOver calls

variable {start a : Assembly} {calls : List Assembler.Call}

lemma Fed.refl (h : start.sampler = none) : Fed start [] start where
  sampler := h
  assembler := rfl
  processor := ⟨[], List.not_mem_nil, rfl, rfl⟩

/-- The assembler does what a call says, and the processor gets what it hands over. -/
lemma Fed.step (h : Fed start calls a) (c : Assembler.Call) {a' : Assembly}
    (hsampler : a'.sampler = a.sampler) (hassembler : a'.assembler = (a.assembler.step c).1)
    (hprocessor : a'.processor = (a.processor.logAll (a.assembler.step c).2).1) :
    Fed start (calls ++ [c]) a' where
  sampler := hsampler.trans h.sampler
  assembler := by rw [hassembler, h.assembler, Assembler.after_concat]
  processor := by
    obtain ⟨inputs, hnone, hinputs, hhanded⟩ := h.processor
    refine ⟨inputs ++ [.spans (a.assembler.step c).2], by simp [hnone], ?_, ?_⟩
    · rw [Processor.feed_concat, hprocessor, hinputs]
      rfl
    · rw [Processor.handed_append, hhanded, Assembler.handedOver_concat, ← h.assembler]
      simp [Processor.handed]

lemma Fed.record (h : Fed start calls a) (r : Record) :
    Fed start (calls ++ [.record r]) (a.record r).1 := by
  have hadmits : a.admits r = true := by rw [admits, h.sampler]
  have hrecord : (a.record r).1 =
      (a.handOver (a.assembler.record r).1 (a.assembler.record r).2).1 := by
    rw [Assembly.record, if_pos hadmits]
  rw [hrecord]
  exact h.step (.record r) rfl rfl rfl

lemma Fed.wait (h : Fed start calls a) (nanos : Nat) : Fed start calls (a.wait nanos) where
  sampler := h.sampler
  assembler := h.assembler
  processor := by
    obtain ⟨inputs, hnone, hinputs, hhanded⟩ := h.processor
    refine ⟨inputs ++ [.wait nanos], by simp [hnone], ?_, ?_⟩
    · rw [Processor.feed_concat, ← hinputs]
      rfl
    · rw [Processor.handed_append, hhanded]
      exact List.append_nil _

/-- Spans are handed over one by one until one breaks the processor down. -/
lemma handOverEach_cases (a : Assembly) (assembler : Assembler) (out : Handover) :
    (∀ span ∈ out.spans, a.processor.breaksDownOn span = false) ∧
        a.handOverEach assembler out =
          ((a.handOver assembler out).1, .returned (), (a.handOver assembler out).2) ∨
      ∃ before last rest, out.spans = before ++ last :: rest ∧
        (∀ span ∈ before, a.processor.breaksDownOn span = false) ∧
        a.processor.breaksDownOn last = true ∧ ∃ statistics, a.handOverEach assembler out =
          ((a.handOver { assembler with statistics } { spans := before ++ [last] }).1, .brokeDown,
            (a.handOver { assembler with statistics } { spans := before ++ [last] }).2) := by
  have hsplit := List.takeWhile_append_dropWhile
    (p := fun span => !a.processor.breaksDownOn span) (l := out.spans)
  rw [handOverEach, List.span_eq_takeWhile_dropWhile]
  cases hrest : out.spans.dropWhile (fun span => !a.processor.breaksDownOn span) with
  | nil =>
    have hall := List.dropWhile_eq_nil_iff.mp hrest
    exact .inl ⟨fun span hspan => by simpa using hall span hspan, rfl⟩
  | cons last rest =>
    have hbreaks := List.head_dropWhile_not (fun span => !a.processor.breaksDownOn span)
      (l := out.spans) (by rw [hrest]; exact List.cons_ne_nil _ _)
    simp only [hrest, List.head_cons] at hbreaks
    rw [hrest] at hsplit
    refine .inr ⟨_, last, rest, hsplit.symm, fun span hspan => ?_, by simpa using hbreaks, _, rfl⟩
    simpa using List.mem_takeWhile_imp hspan

/-- What is left behind when spans were handed over one by one. -/
lemma handOverEach_fst (a : Assembly) (assembler : Assembler) (out : Handover) : ∃ statistics,
    (a.handOverEach assembler out).1 =
      { a with
        assembler := { assembler with statistics }
        processor := (a.processor.logAll (a.processor.reached out.spans)).1 } := by
  rcases a.handOverEach_cases assembler out with
    ⟨hall, heq⟩ | ⟨before, last, rest, hsplit, hbefore, hlast, statistics, heq⟩
  · rw [heq, Processor.reached_of_all hall]
    exact ⟨assembler.statistics, rfl⟩
  · rw [heq, hsplit, Processor.reached_append hbefore hlast]
    exact ⟨statistics, rfl⟩

/-- The open spans. -/
def openSpans (a : Assembly) : List Span := a.assembler.opened.map Prod.snd

lemma shutdown_again (h : a.assembler.isShutdown = true) :
    a.shutdown = (a, .returned (.ok ()), []) := by
  simp [shutdown, Assembler.shutdown, h]

lemma step_shutdown_snd (h : a.assembler.isShutdown = false) :
    (a.assembler.step .shutdown).2 = a.openSpans := by
  rw [Assembler.step_shutdown, h, if_neg Bool.false_ne_true]
  rfl

/-- The first shutdown takes the open spans out of the assembler. -/
lemma exists_shutdown_eq_some (h : a.assembler.isShutdown = false) :
    ∃ out, a.assembler.shutdown = ((a.assembler.step .shutdown).1, some out) ∧
      out.spans = a.openSpans := by
  simp [Assembler.step, Assembler.shutdown, h, openSpans, Assembler.flushAll]

/-- It hands them over, and then shuts the processor down, unless one of them breaks that down. -/
lemma shutdown_cases (h : a.assembler.isShutdown = false) :
    (∀ span ∈ a.openSpans, a.processor.breaksDownOn span = false) ∧ (∃ events,
        a.shutdown =
          ({ a with
              assembler := (a.assembler.step .shutdown).1
              processor := a.processor.feed [.spans a.openSpans, .shutdown] },
            (a.processor.take (.spans a.openSpans)).shutdown.2.1.map excuse, events)) ∨
      (∃ span ∈ a.openSpans, a.processor.breaksDownOn span = true) ∧ ∃ statistics events,
        a.shutdown =
          ({ a with
              assembler := { (a.assembler.step .shutdown).1 with statistics }
              processor := a.processor.feed [.spans (a.processor.reached a.openSpans)] },
            .brokeDown, events) := by
  obtain ⟨out, hout, hspans⟩ := exists_shutdown_eq_some h
  have hshutdown : a.shutdown =
      Ending.andThen (a.handOverEach (a.assembler.step .shutdown).1 out)
        fun a _ => a.shutdownProcessor := by
    rw [shutdown, hout]
  rw [hshutdown, ← hspans]
  rcases a.handOverEach_cases (a.assembler.step .shutdown).1 out with
    ⟨hall, heq⟩ | ⟨before, last, rest, hsplit, hbefore, hlast, statistics, heq⟩
  · rw [heq]
    exact .inl ⟨hall, _, rfl⟩
  · rw [heq, hsplit, Processor.reached_append hbefore hlast]
    exact .inr ⟨⟨last, by simp, hlast⟩, statistics, _, rfl⟩

/-- However the first shutdown ends, the processor is handed the open spans that it can bear. -/
lemma shutdown_fst (h : a.assembler.isShutdown = false) : ∃ statistics more,
    Processor.handed more = [] ∧ a.shutdown.1 =
      { a with
        assembler := { (a.assembler.step .shutdown).1 with statistics }
        processor := a.processor.feed (.spans (a.processor.reached a.openSpans) :: more) } := by
  rcases shutdown_cases h with ⟨hall, events, heq⟩ | ⟨-, statistics, events, heq⟩
  · rw [heq, Processor.reached_of_all hall]
    exact ⟨_, [.shutdown], rfl, rfl⟩
  · rw [heq]
    exact ⟨statistics, [], rfl, rfl⟩

/-- A shutdown leaves the tables of the assembler the same, however it ends. -/
lemma assembler_shutdown (a : Assembly) : ∃ statistics,
    a.shutdown.1.assembler = { (a.assembler.step .shutdown).1 with statistics } := by
  cases h : a.assembler.isShutdown with
  | true =>
    rw [shutdown_again h, Assembler.step_shutdown_again h]
    exact ⟨_, rfl⟩
  | false =>
    obtain ⟨statistics, more, -, heq⟩ := shutdown_fst h
    rw [heq]
    exact ⟨statistics, rfl⟩

lemma isShutdown_shutdown (a : Assembly) : a.shutdown.1.assembler.isShutdown = true := by
  obtain ⟨statistics, hassembler⟩ := a.assembler_shutdown
  rw [hassembler, Assembler.step_shutdown]
  split
  · assumption
  · rfl

lemma sampler_shutdown (a : Assembly) : a.shutdown.1.sampler = a.sampler := by
  cases h : a.assembler.isShutdown with
  | true => rw [shutdown_again h]
  | false =>
    obtain ⟨statistics, more, -, heq⟩ := shutdown_fst h
    rw [heq]

/-- An assembly that was shut down after some calls, as far as its processor is concerned. -/
def Closed (start : Assembly) (calls : List Assembler.Call) (a : Assembly) : Prop :=
  ∃ inputs, a.processor = start.processor.feed inputs ∧
    Processor.handed inputs = start.assembler.handedOver calls ++
      start.processor.reached ((start.assembler.after calls).step .shutdown).2

lemma Closed.wait (h : Closed start calls a) (nanos : Nat) : Closed start calls (a.wait nanos) := by
  obtain ⟨inputs, hinputs, hhanded⟩ := h
  refine ⟨inputs ++ [.wait nanos], ?_, ?_⟩
  · rw [Processor.feed_concat, ← hinputs]
    rfl
  · rw [Processor.handed_append, hhanded]
    exact List.append_nil _

lemma Fed.shutdown (h : Fed start calls a) : Closed start calls a.shutdown.1 := by
  obtain ⟨inputs, hnone, hinputs, hhanded⟩ := h.processor
  rw [Closed, ← h.assembler]
  cases hshut : a.assembler.isShutdown with
  | true =>
    rw [shutdown_again hshut, Assembler.step_shutdown_again hshut]
    exact ⟨inputs, hinputs, hhanded.trans (List.append_nil _).symm⟩
  | false =>
    obtain ⟨statistics, more, hmore, heq⟩ := shutdown_fst hshut
    have hbears : a.processor.reached = start.processor.reached := by
      funext spans
      simp only [Processor.reached, hinputs, Processor.breaksDownOn_feed _ hnone]
    have hlast : Processor.handed (.spans (a.processor.reached a.openSpans) :: more) =
        a.processor.reached a.openSpans := by
      rw [Processor.handed, List.flatMap_cons, ← Processor.handed, hmore]
      exact List.append_nil _
    refine ⟨inputs ++ .spans (a.processor.reached a.openSpans) :: more, ?_, ?_⟩
    · rw [heq, hinputs]
      exact List.foldl_append.symm
    · rw [Processor.handed_append, hhanded, hlast, hbears, step_shutdown_snd hshut]

end Assembly

end TracePipeline
