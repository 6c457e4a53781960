import Mathlib.Data.List.Nodup
import TracePipeline.Proofs.Pipeline

/-!
# Shutting sinks down one after the other

Each sink is shut down once and keeps to itself, so what it answers, what it reports and what is
left of it do not depend on the others. The assembler hands its open spans over before its processor
is shut down, and does nothing when it is asked again. It comes back from its shutdown unless a span
breaks the processor down, or the clock cannot show when the processor has to be through.
-/

namespace TracePipeline

namespace BatchProcessor

lemma logAll_keeps (p : BatchProcessor) (l : List Span) :
    (p.logAll l).1.isShutdown = p.isShutdown ∧ (p.logAll l).1.deadline? = p.deadline? := by
  induction l generalizing p with
  | nil => exact ⟨rfl, rfl⟩
  | cons s l ih =>
    have hlog : (p.log s).1.isShutdown = p.isShutdown ∧ (p.log s).1.deadline? = p.deadline? := by
      rw [log, put]
      split
      · exact ⟨rfl, rfl⟩
      · split <;> exact ⟨rfl, rfl⟩
    obtain ⟨hshut, hdeadline⟩ := ih (p.log s).1
    exact ⟨hshut.trans hlog.1, hdeadline.trans hlog.2⟩

end BatchProcessor

namespace Processor

/-- Whether the processor comes back from a shutdown. -/
def canClose : Processor → Bool
  | batch p => p.isShutdown || p.deadline?.isSome
  | _ => true

lemma returns_shutdown_iff (p : Processor) : p.shutdown.2.1.Returns ↔ p.canClose = true := by
  cases p with
  | collector c => exact iff_of_true ⟨_, rfl⟩ rfl
  | simple p => exact iff_of_true ⟨_, rfl⟩ rfl
  | batch p =>
    change p.shutdown.2.1.Returns ↔ _
    have hsame : ({ p with isShutdown := true } : BatchProcessor).deadline? = p.deadline? := rfl
    rw [canClose, BatchProcessor.shutdown, BatchProcessor.call, hsame]
    cases p.isShutdown <;> cases p.deadline?.isSome <;> simp

lemma canClose_logAll (p : Processor) (l : List Span) : (p.logAll l).1.canClose = p.canClose := by
  cases p with
  | collector c => rfl
  | simple p => rfl
  | batch p =>
    obtain ⟨hshut, hdeadline⟩ := p.logAll_keeps l
    change ((p.logAll l).1.isShutdown || (p.logAll l).1.deadline?.isSome) = _
    rw [hshut, hdeadline]
    rfl

end Processor

namespace Assembly

/-- The assembler comes back from a shutdown. -/
def CanClose (a : Assembly) : Prop :=
  a.assembler.isShutdown = true ∨
    (∀ span ∈ a.openSpans, a.processor.breaksDownOn span = false) ∧ a.processor.canClose = true

/-- What the shutdown fails with, if it does: what the processor answers, unless this is that it was
shut down already. -/
def failure (a : Assembly) : Option TraceError :=
  if a.assembler.isShutdown then none
  else match (a.processor.take (.spans a.openSpans)).shutdown.2.1 with
    | .returned (.error .alreadyShutdown) => none
    | .returned (.error e) => some e
    | _ => none

variable {a : Assembly}

lemma returns_shutdown_iff (a : Assembly) : a.shutdown.2.1.Returns ↔ a.CanClose := by
  cases hshut : a.assembler.isShutdown with
  | true =>
    rw [shutdown_again hshut]
    exact iff_of_true ⟨_, rfl⟩ (.inl hshut)
  | false =>
    rw [CanClose, hshut, or_iff_right Bool.false_ne_true]
    rcases shutdown_cases hshut with ⟨hall, events, heq⟩ | ⟨⟨span, hspan, hbreaks⟩, _, _, heq⟩
    · rw [heq, Ending.returns_map_iff, Processor.returns_shutdown_iff, Processor.take,
        Processor.canClose_logAll, and_iff_right hall]
    · rw [heq]
      refine iff_of_false Ending.not_returns_brokeDown fun hcan => ?_
      rw [hcan.1 span hspan] at hbreaks
      cases hbreaks

lemma CanClose.result (h : a.CanClose) : a.shutdown.2.1 = .returned (a.failure.elim (.ok ()) .error) := by
  obtain ⟨result, hresult⟩ := a.returns_shutdown_iff.mpr h
  cases hshut : a.assembler.isShutdown with
  | true =>
    rw [shutdown_again hshut, failure, if_pos hshut]
    rfl
  | false =>
    rcases shutdown_cases hshut with ⟨-, events, heq⟩ | ⟨-, _, _, heq⟩
    · rw [heq] at hresult ⊢
      rw [failure, if_neg (by simp [hshut])]
      dsimp only at hresult ⊢
      cases hanswer : (a.processor.take (.spans a.openSpans)).shutdown.2.1 with
      | returned answer =>
        cases answer with
        | ok _ => rfl
        | error e => cases e <;> rfl
      | brokeDown | stuck =>
        rw [hanswer] at hresult
        cases hresult
    · rw [heq] at hresult
      cases hresult

lemma CanClose.processor (h : a.CanClose) (hopen : a.assembler.isShutdown = false) :
    a.shutdown.1.processor = a.processor.feed [.spans a.openSpans, .shutdown] := by
  rcases shutdown_cases hopen with ⟨-, events, heq⟩ | ⟨⟨span, hspan, hbreaks⟩, -⟩
  · rw [heq]
  · rcases h with hshut | ⟨hall, -⟩
    · rw [hopen] at hshut
      cases hshut
    · rw [hall span hspan] at hbreaks
      cases hbreaks

lemma openSpans_shutdown (h : a.assembler.isShutdown = false) : a.shutdown.1.openSpans = [] := by
  obtain ⟨statistics, hassembler⟩ := a.assembler_shutdown
  rw [openSpans, hassembler, Assembler.step_shutdown, if_neg (by simp [h])]
  rfl

end Assembly

namespace Probe

lemma shutdown_result (p : Probe) : p.shutdown.2.1 = p.failure.elim (.ok ()) .error := by
  rw [shutdown]
  cases p.failure <;> cases p.kind <;> rfl

lemma shutdowns_shutdown (p : Probe) : p.shutdown.1.shutdowns = p.shutdowns + 1 := by
  rw [shutdown]
  cases p.kind <;> rfl

end Probe

namespace Pipeline

/-- What shutting a sink down fails with, if it does. -/
def failureOf (p : Pipeline) : Target → Option TraceError
  | .probe i => p.probes[i]?.bind Probe.failure
  | .assembler => p.assembly.bind Assembly.failure

/-- What is reported while a sink is shut down. -/
def reportOf (p : Pipeline) : Target → List Event
  | .probe i => p.probes[i]?.elim [] (·.shutdown.2.2)
  | .assembler => p.assembly.elim [] (·.shutdown.2.2)

/-- The registered sinks, and the assembler if it is not among them. -/
def everyone (sinks : List Target) : List Target :=
  sinks ++ if .assembler ∈ sinks then [] else [.assembler]

/-- Certain sinks were shut down, with what they failed with and reported, in this order. -/
structure ShutsDown (targets : List Target) (p q : Pipeline) (errors : List TraceError)
    (events : List Event) : Prop where
  probes : ∀ i : Nat, q.probes[i]? =
    if .probe i ∈ targets then p.probes[i]?.map (·.shutdown.1) else p.probes[i]?
  assembly : q.assembly =
    if .assembler ∈ targets then p.assembly.map (·.shutdown.1) else p.assembly
  others : q = { p with probes := q.probes, assembly := q.assembly }
  errors : errors = targets.filterMap p.failureOf
  events : events = targets.flatMap p.reportOf

variable {p : Pipeline} {target : Target} {targets : List Target} {errors : List TraceError}

/-- The assembler comes back from a shutdown, if there is one. -/
def CanClose (p : Pipeline) : Prop := ∀ a, p.assembly = some a → a.CanClose

lemma CanClose.shutdownSink (h : p.CanClose) (target : Target) : (p.shutdownSink target).1.CanClose := by
  cases target with
  | probe i =>
    obtain ⟨probes, result, events, hprobes⟩ := p.shutdownSink_probe i
    rw [hprobes]
    exact h
  | assembler =>
    intro b hb
    cases ha : p.assembly with
    | none => simp [Pipeline.shutdownSink, ha] at hb
    | some a =>
      rw [shutdownSink_assembler ha] at hb
      cases hb
      exact .inl a.isShutdown_shutdown

lemma shutdownSink_spec (h : p.CanClose) (target : Target) :
    (p.shutdownSink target).2.1 = .returned ((p.failureOf target).elim (.ok ()) .error) ∧
    ShutsDown [target] p (p.shutdownSink target).1 (p.failureOf target).toList
      (p.shutdownSink target).2.2 := by
  cases target with
  | probe i =>
    rw [shutdownSink, failureOf]
    cases hi : p.probes[i]? with
    | none =>
      refine ⟨rfl, fun j => ?_, rfl, rfl, ?_, ?_⟩
      · by_cases hij : j = i
        · subst hij
          simp [hi]
        · simp [hij]
      · simp [failureOf, hi]
      · simp [reportOf, hi]
    | some probe =>
      refine ⟨congrArg _ probe.shutdown_result, fun j => ?_, rfl, rfl, ?_, ?_⟩
      · by_cases hij : j = i
        · subst hij
          obtain ⟨hlt, hget⟩ := List.getElem?_eq_some_iff.mp hi
          simp [hlt, hget]
        · simp [hij, Ne.symm hij]
      · cases hfailure : probe.failure <;> simp [failureOf, hi, hfailure]
      · simp [reportOf, hi]
  | assembler =>
    rw [shutdownSink, failureOf]
    cases ha : p.assembly with
    | none =>
      exact ⟨rfl, by simp, by simp [ha], rfl, by simp [failureOf, ha], by simp [reportOf, ha]⟩
    | some a =>
      refine ⟨(h a ha).result, by simp, by simp [ha], rfl, ?_, by simp [reportOf, ha]⟩
      cases hfailure : a.failure <;> simp [failureOf, ha, hfailure]

lemma ShutsDown.failureOf {q : Pipeline} {errors : List TraceError} {events : List Event}
    (h : ShutsDown targets p q errors events) (hother : target ∉ targets) :
    q.failureOf target = p.failureOf target ∧ q.reportOf target = p.reportOf target := by
  cases target with
  | probe i =>
    have hsame := h.probes i
    rw [if_neg hother] at hsame
    simp only [Pipeline.failureOf, reportOf, hsame, and_self]
  | assembler =>
    have hsame := h.assembly
    rw [if_neg hother] at hsame
    simp only [Pipeline.failureOf, reportOf, hsame, and_self]

/-- First one sink, and then others. -/
lemma ShutsDown.cons {q r : Pipeline} {errors errors' : List TraceError}
    {events events' : List Event} (h : ShutsDown [target] p q errors events)
    (h' : ShutsDown targets q r errors' events') (hother : target ∉ targets) :
    ShutsDown (target :: targets) p r (errors ++ errors') (events ++ events') := by
  have hkept : ∀ t ∈ targets, q.failureOf t = p.failureOf t ∧ q.reportOf t = p.reportOf t := by
    intro t ht
    have hne : t ≠ target := fun heq => hother (heq ▸ ht)
    exact h.failureOf (by simpa using hne)
  refine ⟨fun i => ?_, ?_, ?_, ?_, ?_⟩
  · rw [h'.probes i, h.probes i]
    by_cases hi : target = .probe i
    · subst hi
      simp [hother]
    · have hne : ¬ .probe i = target := fun heq => hi heq.symm
      simp [hne]
  · rw [h'.assembly, h.assembly]
    by_cases hi : target = .assembler
    · subst hi
      simp [hother]
    · have hne : ¬ .assembler = target := fun heq => hi heq.symm
      simp [hne]
  · rw [h'.others, h.others]
  · have hsame : targets.filterMap q.failureOf = targets.filterMap p.failureOf :=
      List.filterMap_congr fun t ht => (hkept t ht).1
    rw [h.errors, h'.errors, hsame, ← List.filterMap_append]
    rfl
  · have hsame : targets.flatMap q.reportOf = targets.flatMap p.reportOf :=
      List.flatMap_congr fun t ht => (hkept t ht).2
    rw [h.events, h'.events, hsame, ← List.flatMap_append]
    rfl

/-- Sinks that are shut down one after the other are each shut down once. -/
theorem shutdownSinks_spec (h : p.CanClose) (hdistinct : targets.Nodup) (errors : List TraceError) :
    ∃ more, (p.shutdownSinks errors targets).2.1 = .returned (errors ++ more) ∧
      ShutsDown targets p (p.shutdownSinks errors targets).1 more
        (p.shutdownSinks errors targets).2.2 := by
  induction targets generalizing p errors with
  | nil =>
    refine ⟨[], ?_, fun i => by simp [shutdownSinks], by simp [shutdownSinks], rfl, rfl, rfl⟩
    rw [List.append_nil]
    rfl
  | cons target rest ih =>
    obtain ⟨hother, hrest⟩ := List.nodup_cons.mp hdistinct
    obtain ⟨hresult, hone⟩ := shutdownSink_spec h target
    have hgather : gather errors ((p.failureOf target).elim (.ok ()) .error) =
        errors ++ (p.failureOf target).toList := by
      cases p.failureOf target with
      | none => exact (List.append_nil _).symm
      | some e => rfl
    have hclosed := h.shutdownSink target
    rw [shutdownSinks]
    generalize p.shutdownSink target = called at hresult hone hclosed
    obtain ⟨q, ending, events⟩ := called
    obtain rfl : ending = _ := hresult
    obtain ⟨more, hmore, hall⟩ := ih hclosed hrest (errors ++ (p.failureOf target).toList)
    rw [Ending.andThen_returned, hgather]
    refine ⟨(p.failureOf target).toList ++ more, ?_, hone.cons hall hother⟩
    rw [← List.append_assoc]
    exact hmore

lemma shutdownSinks_append (p : Pipeline) (errors : List TraceError) (targets more : List Target) :
    p.shutdownSinks errors (targets ++ more) =
      Ending.andThen (p.shutdownSinks errors targets) fun p errors => p.shutdownSinks errors more := by
  induction targets generalizing p errors with
  | nil => rfl
  | cons target rest ih =>
    rw [List.cons_append, shutdownSinks, shutdownSinks, Ending.andThen_assoc]
    simp only [ih]

/-- An assembler that was shut down as one of the sinks is not touched any more when it is its turn
after all of them. -/
theorem shutdownSinks_everyone (h : p.CanClose) (hdistinct : targets.Nodup)
    (errors : List TraceError) :
    p.shutdownSinks errors (targets ++ [.assembler]) = p.shutdownSinks errors (everyone targets) := by
  rw [everyone]
  split
  · rename_i hmem
    obtain ⟨more, hreturned, hdown⟩ := shutdownSinks_spec h hdistinct errors
    have hassembly := hdown.assembly
    rw [if_pos hmem] at hassembly
    rw [List.append_nil, shutdownSinks_append]
    clear hdown
    generalize p.shutdownSinks errors targets = called at hreturned hassembly ⊢
    obtain ⟨q, ending, events⟩ := called
    obtain rfl : ending = _ := hreturned
    dsimp only at hassembly
    -- the assembler was shut down by then, and answers at once
    have hagain : ∀ errors, q.shutdownSinks errors [.assembler] = (q, .returned errors, []) := by
      intro errors
      cases ha : p.assembly with
      | none =>
        rw [ha] at hassembly
        simp [shutdownSinks, shutdownSink, hassembly, gather]
      | some a =>
        rw [ha, Option.map_some] at hassembly
        have hidle := Assembly.shutdown_again (Assembly.isShutdown_shutdown a)
        have hsame : { q with assembly := some a.shutdown.1 } = q := by rw [← hassembly]
        simp [shutdownSinks, shutdownSink, hassembly, hidle, hsame, gather]
    rw [Ending.andThen_returned, hagain, List.append_nil]
  · rfl

lemma CanClose.returns_shutdownSinks (h : p.CanClose) (errors : List TraceError)
    (targets : List Target) : (p.shutdownSinks errors targets).2.1.Returns := by
  induction targets generalizing p errors with
  | nil => exact ⟨errors, rfl⟩
  | cons target rest ih =>
    rw [shutdownSinks, Ending.returns_andThen_iff]
    exact ⟨_, (shutdownSink_spec h target).1, ih (h.shutdownSink target) _⟩

/-- Whoever comes back from shutting sinks down has got the assembler to come back. -/
lemma canClose_of_returns (hmem : .assembler ∈ targets)
    (h : (p.shutdownSinks errors targets).2.1.Returns) : p.CanClose := by
  induction targets generalizing p errors with
  | nil => cases hmem
  | cons target rest ih =>
    rw [shutdownSinks, Ending.returns_andThen_iff] at h
    obtain ⟨result, hresult, hrest⟩ := h
    cases target with
    | probe i =>
      have hmem' : .assembler ∈ rest := by simpa using hmem
      have hclosed := ih hmem' hrest
      obtain ⟨probes, result', events, hprobes⟩ := p.shutdownSink_probe i
      rw [hprobes] at hclosed
      exact hclosed
    | assembler =>
      intro a ha
      rw [shutdownSink_assembler ha] at hresult
      exact a.returns_shutdown_iff.mp ⟨result, hresult⟩

lemma nodup_everyone (hdistinct : targets.Nodup) : (everyone targets).Nodup := by
  rw [everyone]
  split
  · rwa [List.append_nil]
  · rename_i hmissing
    rw [List.nodup_append]
    refine ⟨hdistinct, List.nodup_singleton _, ?_⟩
    intro a ha b hb heq
    rw [List.mem_singleton.mp hb] at heq
    exact hmissing (heq ▸ ha)

lemma probe_mem_everyone {i : Nat} : .probe i ∈ everyone targets ↔ .probe i ∈ targets := by
  rw [everyone]
  split <;> simp

lemma assembler_mem_everyone (targets : List Target) : .assembler ∈ everyone targets := by
  rw [everyone]
  split <;> simp_all

end Pipeline

end TracePipeline
