import TracePipeline.Proofs.Pipeline.Cascade
import TracePipeline.Proofs.Provider.Aftermath
import TracePipeline.Proofs.Provider.Refinement

/-!
# The shutdown of a provider

The first shutdown delivers what is queued, if the worker gets to it in time, and then shuts down
every sink that is registered, in the order of registration, and the assembler, even if this was
unregistered. What fails on the way is gathered. Whatever happens before that or after it, another
shutdown included, no sink is shut down, nor the processor of the assembler, which was handed every
open span before.

All this holds of a shutdown that comes back. It does unless the clock cannot show when the dispatcher
has to be through, a gate keeps a worker for ever that was given up, or the assembler does not come
back; in the first two cases no sink is shut down at all.
-/

namespace TracePipeline

namespace Provider

open Dispatcher (Session)
open Pipeline (everyone)

/-- The pipeline of a provider that is shut down, when no record is in delivery any more, or only one
that a gate keeps for ever. -/
def awaited (p : Provider) : Pipeline :=
  Pipeline.betweenRecords { p.stopped with timer := .stopped }

/-- When it is the first sink's turn. -/
def halted (p : Provider) : Pipeline :=
  { p.awaited with dispatcher := p.awaited.dispatcher.clear }

variable {p : Provider}

/-- Nothing keeps whoever shuts a provider down. -/
structure Unhindered (p : Provider) : Prop where
  timely : p.Timely
  /-- A worker that was given up gets to the end of the record in hand. -/
  through : p.stopped.dispatcher.isAbandoned = true → p.awaited.dispatcher.isDelivering = false
  canClose : p.halted.CanClose

/-- What the pipeline went through until then. -/
structure Halts (p : Provider) (y : Session Target) : Prop where
  follows : p.pipeline.Follows p.awaited y
  gaveUp : y.stopping = .gaveUp ↔ p.stopped.dispatcher.isAbandoned = true
  ended : p.wasStarted = true → y.stopping = .drained ∨ y.stopping = .gaveUp
  waits : p.wasStarted = false →
    p.awaited.dispatcher.phase = .waiting ∧ p.awaited.dispatcher.queue.items = []
  timer : p.awaited.timer = .stopped

variable {y : Session Target}

lemma Open.isSome_deadline? (h : Open p) (htimely : p.Timely) (hstarted : p.wasStarted = true) :
    p.pipeline.deadline?.isSome = true := by
  refine htimely ?_
  rw [h.stage, hstarted]
  rfl

lemma Open.halts (h : Open p) (htimely : p.Timely) : ∃ y, Halts p y := by
  have hstopped : ∃ y, p.pipeline.Follows p.stopped y ∧
      (p.wasStarted = true → y.stopping = .drained ∨ y.stopping = .gaveUp) := by
    rw [Provider.stopped]
    cases hstarted : p.wasStarted with
    | true =>
      obtain ⟨y, hy, hended⟩ :=
        Pipeline.follows_stop h.sound (h.isSome_deadline? htimely hstarted)
      exact ⟨y, hy, fun _ => hended⟩
    | false => exact ⟨_, .refl h.sound, fun hnot => by cases hnot⟩
  have hwaits : p.wasStarted = false →
      p.stopped.dispatcher.phase = .waiting ∧ p.stopped.dispatcher.queue.items = [] := by
    intro hnot
    rw [Provider.stopped, hnot]
    exact h.waits hnot
  -- whoever shuts the provider down waits once more, until no record is in delivery
  obtain ⟨y₁, h₁, hended₁⟩ := hstopped
  have hgaveUp₁ : y₁.stopping = .gaveUp ↔ p.stopped.dispatcher.isAbandoned = true := by
    rw [h₁.dispatcher]
    exact h₁.sound.abandoned.symm
  have htimer : p.pipeline.Follows { p.stopped with timer := .stopped } y₁ := h₁.congr rfl rfl rfl
  obtain ⟨y, hy, hgaveUp, hended⟩ := (Pipeline.steady_follows p.pipeline fun s =>
    (s = .gaveUp ↔ p.stopped.dispatcher.isAbandoned = true) ∧
      (p.wasStarted = true → s = .drained ∨ s = .gaveUp)).betweenRecords
        ⟨y₁, htimer, hgaveUp₁, hended₁⟩
  exact ⟨y, hy, hgaveUp, hended, fun hnot => steady_waits.betweenRecords (hwaits hnot),
    Pipeline.steady_timer.betweenRecords rfl⟩

lemma Halts.isAbandoned (h : Halts p y) :
    p.halted.dispatcher.isAbandoned = p.stopped.dispatcher.isAbandoned := by
  have hsame : p.awaited.dispatcher.isAbandoned = p.stopped.dispatcher.isAbandoned := by
    rw [Bool.eq_iff_iff, ← h.gaveUp, h.follows.dispatcher]
    exact h.follows.sound.abandoned
  exact hsame

lemma Halts.drained (h : Halts p y) (hintime : p.halted.dispatcher.isAbandoned = false)
    (hstarted : p.wasStarted = true) : y.stopping = .drained := by
  rcases h.ended hstarted with hdrained | hgaveUp
  · exact hdrained
  · have hleft := h.gaveUp.mp hgaveUp
    rw [← h.isAbandoned, hintime] at hleft
    cases hleft

/-- Before the first sink is shut down, every sink was called with what was due to it, unless the
worker did not get there in time. -/
lemma Halts.delivered (h : Halts p y) (hopen : Open p)
    (hintime : p.halted.dispatcher.isAbandoned = false) (target : Target) :
    y.callsTo target = p.pipeline.due target := by
  cases hstarted : p.wasStarted with
  | true => exact h.follows.delivered hopen.distinct (h.drained hintime hstarted) target
  | false =>
    obtain ⟨hphase, hitems⟩ := hopen.waits hstarted
    exact h.follows.undisturbed hopen.distinct hphase hitems target

/-- In time the worker is through. -/
lemma Halts.quiet (h : Halts p y) (hintime : p.halted.dispatcher.isAbandoned = false) :
    p.halted.Quiet (p.halted.assembly.map Assembly.assembler) ∧
      (p.wasStarted = true → p.halted.dispatcher.isStopped = true) := by
  have hthrough : p.awaited.dispatcher.isDelivering = false ∧
      (p.awaited.dispatcher.hasExited = true ∨ p.awaited.dispatcher.queue.items = []) ∧
      (p.wasStarted = true → p.awaited.dispatcher.isStopped = true) := by
    cases hstarted : p.wasStarted with
    | true =>
      have hdrained := h.drained hintime hstarted
      have hexited := h.follows.sound.drained hdrained
      have hstopped := h.follows.sound.stopped.mpr (by rw [hdrained]; decide)
      rw [h.follows.dispatcher]
      refine ⟨?_, .inl hexited, fun _ => hstopped⟩
      cases hphase : y.dispatcher.phase <;>
        simp_all [Dispatcher.hasExited, Dispatcher.isDelivering]
    | false =>
      obtain ⟨hphase, hitems⟩ := h.waits hstarted
      exact ⟨by rw [Dispatcher.isDelivering, hphase], .inr hitems, fun hnot => by cases hnot⟩
  obtain ⟨hidle, hempty, hstopped⟩ := hthrough
  exact ⟨⟨hidle, hempty, h.timer, rfl⟩, hstopped⟩

/-- So nobody waits for ever, unless for a worker that was given up. -/
lemma Halts.isDelivering (h : Halts p y)
    (hthrough : p.stopped.dispatcher.isAbandoned = true → p.awaited.dispatcher.isDelivering = false) :
    p.awaited.dispatcher.isDelivering = false := by
  cases hintime : p.stopped.dispatcher.isAbandoned with
  | true => exact hthrough hintime
  | false => exact (h.quiet (h.isAbandoned.trans hintime)).1.idle

lemma Open.close_eq (h : Open p) (htimely : p.Timely) :
    p.shutdown =
      (fun last : Pipeline × Ending (Except TraceError Unit) × List Event =>
        ({ p with pipeline := last.1, stage := .shutdown }, last.2.1, last.2.2))
        (Ending.andThen
          ((Pipeline.clear { p.stopped with timer := .stopped }).1,
            (Pipeline.clear { p.stopped with timer := .stopped }).2, p.stopReport)
          fun q sinks => Ending.andThen (q.shutdownSinks [] (sinks ++ [.assembler])) fun q errors =>
            (q, .returned (verdict errors), closing errors)) := by
  have hopen : p.pipeline.dispatcher.isStopped = false := h.sound.not_stopped rfl
  rw [shutdown, if_neg h.not_shutdown, close,
    halt_of_timely hopen fun hstarted => h.isSome_deadline? htimely hstarted]

/-- A shutdown that gets as far as the sinks. -/
lemma Halts.shutdown_eq (h : Halts p y) (hopen : Open p) (htimely : p.Timely)
    (hidle : p.awaited.dispatcher.isDelivering = false) :
    p.shutdown =
      (fun last : Pipeline × Ending (Except TraceError Unit) × List Event =>
        ({ p with pipeline := last.1, stage := .shutdown }, last.2.1, p.stopReport ++ last.2.2))
        (Ending.andThen (p.halted.shutdownSinks [] (p.pipeline.dispatcher.sinks ++ [.assembler]))
          fun q errors => (q, .returned (verdict errors), closing errors)) := by
  rcases Pipeline.clear_cases { p.stopped with timer := .stopped } with ⟨hblocked, -⟩ | ⟨-, heq⟩
  · cases hblocked.symm.trans hidle
  · rw [hopen.close_eq htimely, heq, Ending.andThen_returned, ← h.follows.sinks,
      ← h.follows.dispatcher]
    rfl

/-- If the clock cannot show when the dispatcher has to be through, the shutdown breaks down. No more
records are accepted and the timer is stopped; the worker is not told, and no sink is shut down. -/
theorem Open.shutdown_of_not_timely (h : Open p) (hlate : ¬ p.Timely) :
    p.shutdown =
      ({ p with
          pipeline :=
            { p.pipeline with dispatcher := p.pipeline.dispatcher.refuse, timer := .stopped }
          stage := .shutdown },
        .brokeDown, p.pipeline.timer.stop) := by
  rw [Timely, Classical.not_imp, Bool.not_eq_true, Option.isSome_eq_false_iff,
    Option.isNone_iff_eq_none] at hlate
  obtain ⟨hrunning, hdeadline⟩ := hlate
  have hstarted : p.wasStarted = true := by
    by_contra hnot
    have hbuilt := h.stage
    rw [if_neg hnot, hrunning] at hbuilt
    cases hbuilt
  have hopen : p.pipeline.dispatcher.isStopped = false := h.sound.not_stopped rfl
  rw [shutdown, if_neg h.not_shutdown, close, Pipeline.halt, if_pos hstarted,
    Pipeline.stop_of_no_deadline hopen hdeadline]
  rfl

/-- So whatever a provider that runs went through, it cannot be shut down with the longest timeout. -/
theorem Open.shutdown_of_longest (h : Open p) (hrunning : p.stage = .running)
    (hlongest : p.pipeline.dispatcher.config.shutdownTimeout = .longest) :
    p.shutdown.2.1 = .brokeDown := by
  have hlate : ¬ p.Timely := by
    rw [Timely, Pipeline.deadline?, hlongest, Duration.deadline?_longest]
    exact fun htimely => Bool.false_ne_true (htimely hrunning)
  rw [h.shutdown_of_not_timely hlate]

/-- If a gate keeps a worker for ever that was given up, the shutdown waits for ever. -/
theorem Open.shutdown_of_delivering (h : Open p) (htimely : p.Timely)
    (hblocked : p.awaited.dispatcher.isDelivering = true) :
    p.shutdown = ({ p with pipeline := p.awaited, stage := .shutdown }, .stuck, p.stopReport) := by
  rcases Pipeline.clear_cases { p.stopped with timer := .stopped } with ⟨-, heq⟩ | ⟨hidle, -⟩
  · rw [h.close_eq htimely, heq, Ending.andThen_stuck]
    rfl
  · cases hblocked.symm.trans hidle

/-- The gate stays closed for the one record that the worker has in hand. -/
example :
    ((Provider.new ⟨1, .ofMillis 10, by decide⟩ [.new (.gate false) none] none none false
      .consecutive (.ofSeconds 10) 0).moves
        [.act .start, .act (.trace (.start .pipeline)), .act (.trace (.record 0 .clientSend 1)),
          .act .work]).shutdown.2.1 = .stuck := rfl

/-- A first shutdown comes back if and only if nothing keeps it. -/
theorem Open.returns_shutdown_iff (h : Open p) : p.shutdown.2.1.Returns ↔ Unhindered p := by
  by_cases htimely : p.Timely
  · obtain ⟨y, hhalts⟩ := h.halts htimely
    cases hdelivering : p.awaited.dispatcher.isDelivering with
    | true =>
      rw [h.shutdown_of_delivering htimely hdelivering]
      refine iff_of_false Ending.not_returns_stuck fun hunhindered => ?_
      have hidle := hhalts.isDelivering hunhindered.through
      rw [hdelivering] at hidle
      cases hidle
    | false =>
      rw [hhalts.shutdown_eq h htimely hdelivering]
      dsimp only
      rw [Ending.returns_andThen_iff]
      constructor
      · rintro ⟨errors, herrors, -⟩
        exact ⟨htimely, fun _ => hdelivering,
          Pipeline.canClose_of_returns (by simp) ⟨errors, herrors⟩⟩
      · intro hunhindered
        obtain ⟨errors, herrors⟩ := hunhindered.canClose.returns_shutdownSinks []
          (p.pipeline.dispatcher.sinks ++ [.assembler])
        exact ⟨errors, herrors, verdict errors, rfl⟩
  · rw [h.shutdown_of_not_timely htimely]
    exact iff_of_false Ending.not_returns_brokeDown fun hunhindered => htimely hunhindered.timely

/-- What the first shutdown does. -/
structure Closes (p : Provider) : Prop where
  /-- The registered sinks, in the order of registration. -/
  distinct : (everyone p.pipeline.dispatcher.sinks).Nodup
  /-- Before the first sink is shut down, each was called with what was due to it, in time. -/
  probes : ∀ i : Nat, ∃ inputs, p.halted.probes[i]? = p.pipeline.probes[i]?.map (·.feed inputs) ∧
    (p.halted.dispatcher.isAbandoned = false →
      inputs.filterMap Probe.Input.record? = p.pipeline.due (.probe i))
  assembly : ∃ inputs, p.halted.assembly = p.pipeline.assembly.map (·.feed inputs) ∧
    (p.halted.dispatcher.isAbandoned = false →
      inputs.filterMap Assembly.Input.record? = p.pipeline.due .assembler)
  /-- The sinks are shut down in this order, and then the assembler, which does nothing if it was
  one of them. -/
  sinks : ∃ errors reports,
    p.halted.shutdownSinks [] (p.pipeline.dispatcher.sinks ++ [.assembler]) =
      (p.shutdown.1.pipeline, .returned errors, reports) ∧
    Pipeline.ShutsDown (everyone p.pipeline.dispatcher.sinks) p.halted p.shutdown.1.pipeline errors
      reports ∧
    p.shutdown.2 = (.returned (verdict errors), p.stopReport ++ reports ++ closing errors)
  canClose : p.halted.CanClose
  /-- It fails with what fails on the way, in this order. -/
  succeeds : p.shutdown.2.1 = .returned (.ok ()) ↔
    ∀ target ∈ everyone p.pipeline.dispatcher.sinks, p.halted.failureOf target = none
  fails : ∀ e, p.shutdown.2.1 = .returned (.error e) →
    e = .combined ((everyone p.pipeline.dispatcher.sinks).filterMap p.halted.failureOf)
  stage : p.shutdown.1.stage = .shutdown

lemma verdict_eq_ok {errors : List TraceError} : verdict errors = .ok () ↔ errors = [] := by
  rw [verdict]
  split <;> simp_all

lemma verdict_eq_error {errors : List TraceError} {e : TraceError}
    (h : verdict errors = .error e) : e = .combined errors := by
  rw [verdict] at h
  split at h
  · cases h
  · exact (Except.error.inj h).symm

/-- What an unhindered shutdown makes of the sinks, and what it answers. -/
lemma Open.shutdown_sinks (h : Open p) (hunhindered : Unhindered p) : ∃ errors reports,
    p.halted.shutdownSinks [] (p.pipeline.dispatcher.sinks ++ [.assembler]) =
      (p.shutdown.1.pipeline, .returned errors, reports) ∧
    Pipeline.ShutsDown (everyone p.pipeline.dispatcher.sinks) p.halted p.shutdown.1.pipeline errors
      reports ∧
    p.shutdown =
      ({ p with pipeline := p.shutdown.1.pipeline, stage := .shutdown },
        .returned (verdict errors), p.stopReport ++ reports ++ closing errors) := by
  obtain ⟨y, hhalts⟩ := h.halts hunhindered.timely
  have hidle := hhalts.isDelivering hunhindered.through
  obtain ⟨errors, hreturned, hdown⟩ :=
    Pipeline.shutdownSinks_spec hunhindered.canClose (Pipeline.nodup_everyone h.distinct) []
  rw [← Pipeline.shutdownSinks_everyone hunhindered.canClose h.distinct] at hreturned hdown
  have hshutdown := hhalts.shutdown_eq h hunhindered.timely hidle
  generalize p.halted.shutdownSinks [] _ = last at hreturned hdown hshutdown ⊢
  obtain ⟨q, ending, reports⟩ := last
  obtain rfl : ending = .returned errors := hreturned
  rw [Ending.andThen_returned] at hshutdown
  dsimp only at hshutdown
  rw [← List.append_assoc] at hshutdown
  rw [hshutdown]
  exact ⟨errors, reports, rfl, hdown, rfl⟩

theorem Open.closes (h : Open p) (hunhindered : Unhindered p) : Closes p := by
  obtain ⟨y, hhalts⟩ := h.halts hunhindered.timely
  obtain ⟨errors, reports, hsinks, hdown, hshutdown⟩ := h.shutdown_sinks hunhindered
  have hresult : p.shutdown.2.1 = .returned
      (verdict ((everyone p.pipeline.dispatcher.sinks).filterMap p.halted.failureOf)) := by
    rw [hshutdown, ← hdown.errors]
  refine
    { distinct := Pipeline.nodup_everyone h.distinct
      probes := fun i => ?_
      assembly := ?_
      sinks := ⟨errors, reports, hsinks, hdown, by rw [hshutdown]⟩
      canClose := hunhindered.canClose
      succeeds := ?_
      fails := fun e he => verdict_eq_error (Ending.returned.inj (hresult.symm.trans he))
      stage := by rw [hshutdown] }
  · obtain ⟨inputs, hfed, hrecords⟩ := hhalts.follows.probes i
    exact ⟨inputs, hfed, fun hintime => hrecords.trans (hhalts.delivered h hintime _)⟩
  · obtain ⟨inputs, hfed, hrecords⟩ := hhalts.follows.assembly
    exact ⟨inputs, hfed, fun hintime => hrecords.trans (hhalts.delivered h hintime _)⟩
  · rw [hresult, Ending.returned.injEq, verdict_eq_ok, List.filterMap_eq_nil_iff]

lemma Open.silent (h : Open p) (hunhindered : Unhindered p)
    (hintime : p.halted.dispatcher.isAbandoned = false) :
    Silent (p.shutdown.1.pipeline.assembly.map Assembly.assembler) p.shutdown.1 := by
  obtain ⟨y, hhalts⟩ := h.halts hunhindered.timely
  obtain ⟨hquiet, hstopped⟩ := hhalts.quiet hintime
  obtain ⟨errors, reports, -, hdown, hshutdown⟩ := h.shutdown_sinks hunhindered
  have hothers := hdown.others
  rw [hshutdown]
  dsimp only
  generalize p.shutdown.1.pipeline = last at hothers
  refine ⟨rfl, ⟨?_, ?_, ?_, rfl⟩, fun hstarted => ?_⟩ <;> dsimp only <;> rw [hothers]
  · exact hquiet.idle
  · exact hquiet.empty
  · exact hquiet.timer
  · exact hstopped hstarted

lemma Closes.feeds (h : Closes p) : p.pipeline.Feeds p.halted := by
  refine ⟨fun i probe hi => ?_, ?_⟩
  · obtain ⟨inputs, hfed, -⟩ := h.probes i
    rw [hi] at hfed
    exact ⟨inputs, hfed⟩
  · obtain ⟨inputs, hfed, -⟩ := h.assembly
    exact ⟨inputs, hfed⟩

lemma shutdowns_of_feeds {q : Pipeline} (h : p.pipeline.Feeds q) {i : Nat} {probe : Probe}
    (hi : p.pipeline.probes[i]? = some probe) :
    ∃ last, q.probes[i]? = some last ∧ last.shutdowns = probe.shutdowns := by
  obtain ⟨inputs, hfed⟩ := h.probes i probe hi
  exact ⟨_, hfed, (probe.feed_keeps inputs).1⟩

lemma Closes.shutdowns (h : Closes p) {i : Nat} {probe : Probe}
    (hi : p.pipeline.probes[i]? = some probe) :
    ∃ last, p.shutdown.1.pipeline.probes[i]? = some last ∧
      last.shutdowns = probe.shutdowns +
        if .probe i ∈ p.pipeline.dispatcher.sinks then 1 else 0 := by
  obtain ⟨fed, hfed, hsame⟩ := shutdowns_of_feeds h.feeds hi
  obtain ⟨errors, reports, -, hdown, -⟩ := h.sinks
  have hlast := hdown.probes i
  have hmem : .probe i ∈ everyone p.pipeline.dispatcher.sinks ↔
      .probe i ∈ p.pipeline.dispatcher.sinks := Pipeline.probe_mem_everyone
  rw [hfed] at hlast
  by_cases hregistered : .probe i ∈ p.pipeline.dispatcher.sinks
  · rw [if_pos (hmem.mpr hregistered)] at hlast
    refine ⟨_, hlast, ?_⟩
    rw [if_pos hregistered, fed.shutdowns_shutdown, hsame]
  · rw [if_neg (hmem.not.mpr hregistered)] at hlast
    refine ⟨_, hlast, ?_⟩
    rw [if_neg hregistered, hsame, Nat.add_zero]

/-- The assembler hands over what is open, and then its processor is shut down. -/
lemma Closes.processor (h : Closes p) {a : Assembly} (ha : p.pipeline.assembly = some a)
    (hrunning : a.assembler.isShutdown = false) :
    ∃ b c, p.halted.assembly = some b ∧ p.shutdown.1.pipeline.assembly = some c ∧ a.Runs b ∧
      c.processor = b.processor.feed [.spans b.openSpans, .shutdown] ∧ c.openSpans = [] := by
  obtain ⟨inputs, hfed, -⟩ := h.assembly
  obtain ⟨errors, reports, -, hdown, -⟩ := h.sinks
  have hlast := hdown.assembly
  rw [ha, Option.map_some] at hfed
  rw [if_pos (Pipeline.assembler_mem_everyone _), hfed, Option.map_some] at hlast
  have hruns := a.runs_feed inputs
  have hstill : (a.feed inputs).assembler.isShutdown = false := hruns.isShutdown.trans hrunning
  exact ⟨_, _, hfed, hlast, hruns, (h.canClose _ hfed).processor hstill,
    Assembly.openSpans_shutdown hstill⟩

lemma shutdown_idle (h : p.stage = .shutdown) : p.shutdown = (p, .returned (.ok ()), []) := by
  rw [shutdown, if_pos h]

/-- What a provider is made of. -/
structure Parts where
  config : DispatcherConfig
  probes : List Probe
  /-- The time to live and the processor of the assembler, if there is one. -/
  assembler : Option (Duration × Processor)
  sampler : Option Sampler
  wide : Bool
  ids : IdSource
  sweepInterval : Duration
  clock : Nat

namespace Parts

def assembly (c : Parts) : Option Assembly :=
  c.assembler.map fun (timeToLive, processor) => ⟨.new timeToLive, processor, none⟩

def provider (c : Parts) : Provider :=
  .new c.config c.probes c.assembly c.sampler c.wide c.ids c.sweepInterval c.clock

end Parts

lemma open_provider (c : Parts) : Open c.provider where
  stage := rfl
  sound := Dispatcher.Session.sound_start c.config _
  waits _ := ⟨rfl, rfl⟩
  distinct := by
    change ((List.range c.probes.length).map Target.probe ++ _).Nodup
    refine List.nodup_append.mpr ⟨?_, ?_, ?_⟩
    · exact List.nodup_range.map fun i j => Target.probe.inj
    · split
      · exact List.nodup_singleton _
      · exact List.nodup_nil
    · rintro target htarget other hother rfl
      obtain ⟨i, -, rfl⟩ := List.mem_map.mp htarget
      split at hother <;> simp at hother
  known i hi := by
    change .probe i ∈ (List.range c.probes.length).map Target.probe ++ _ at hi
    rcases List.mem_append.mp hi with hprobe | hlast
    · obtain ⟨j, hj, hij⟩ := List.mem_map.mp hprobe
      exact Target.probe.inj hij ▸ List.mem_range.mp hj
    · split at hlast <;> simp at hlast

lemma isShutdown_provider {c : Parts} {a : Assembly} (ha : c.provider.pipeline.assembly = some a) :
    a.assembler.isShutdown = false := by
  change c.assembly.map (fun a => { a with sampler := c.sampler }) = some a at ha
  obtain ⟨b, hb, rfl⟩ := Option.map_eq_some_iff.mp ha
  obtain ⟨made, -, rfl⟩ := Option.map_eq_some_iff.mp hb
  rfl

lemma moves_shutdown (p : Provider) (before after : List Move) :
    p.moves (before ++ .act .shutdown :: after) = (p.moves before).shutdown.1.moves after := by
  rw [moves, List.foldl_append]
  rfl

/-- A run of a provider with its first shutdown after some moves, and others to follow, which may be
shutdowns too. -/
structure ShutsDownOnce (p : Provider) (before after : List Move) : Prop where
  /-- The registered sinks are those added since the sinks were last cleared, if nobody waits for
  ever to add or clear them. -/
  registered : AllReturn p before → (p.moves before).pipeline.dispatcher.sinks =
    sinksAfter p.pipeline.dispatcher.sinks p.pipeline.probes.length before
  closes : Closes (p.moves before)
  /-- Until then, and from then on, sinks are only fed. -/
  feeds_before : ∀ k, (p.moves (before.take k)).pipeline.Feeds (p.moves before).pipeline
  feeds_after : ∀ k, (p.moves (before ++ .act .shutdown :: after.take k)).pipeline.Feeds
    (p.moves (before ++ .act .shutdown :: after)).pipeline
  /-- Any other shutdown does nothing. -/
  idle : ∀ k, (p.moves (before ++ .act .shutdown :: after.take k)).shutdown =
    (p.moves (before ++ .act .shutdown :: after.take k), .returned (.ok ()), [])
  /-- In the end a probe was shut down if it was registered then. -/
  probes : ∀ k (i : Nat) probe, (p.moves (before.take k)).pipeline.probes[i]? = some probe →
    ∃ last, (p.moves (before ++ .act .shutdown :: after)).pipeline.probes[i]? = some last ∧
      last.shutdowns = probe.shutdowns +
        if .probe i ∈ (p.moves before).pipeline.dispatcher.sinks then 1 else 0
  /-- The processor was, and took what was open just before. If the worker was through by then,
  nothing is open in the end. -/
  processor : ∀ a, p.pipeline.assembly = some a →
    ∃ b c inputs more, (p.moves before).halted.assembly = some b ∧
      (p.moves (before ++ .act .shutdown :: after)).pipeline.assembly = some c ∧
      .shutdown ∉ inputs ∧ .shutdown ∉ more ∧ b.processor = a.processor.feed inputs ∧
      c.processor = a.processor.feed (inputs ++ .spans b.openSpans :: .shutdown :: more) ∧
      ((p.moves before).halted.dispatcher.isAbandoned = false → c.openSpans = [])

/-- A small provider whose processor was shut down already. -/
def frail (shutdownTimeout : Duration) : Parts where
  config := ⟨3, shutdownTimeout, by decide⟩
  probes := [.new .memory none]
  assembler := some (.ofSeconds 60, .collector (.new (some .alreadyShutdown)))
  sampler := none
  wide := false
  ids := .consecutive
  sweepInterval := .ofSeconds 10
  clock := 0

/-- A record opens a span, all sinks are unregistered, and two others are there when another record
is queued. -/
def replaced : List Move :=
  [.act .start, .act (.trace (.start .pipeline)), .act (.trace (.record 0 .clientSend 1)),
    .act .work, .act .work, .act .work, .act .work, .clearSinks,
    .addProbe (.new .memory (some (.other "full"))),
    .addProbe (.new .faulty (some .alreadyShutdown)),
    .act (.trace (.record 0 .clientRecv 2))]

/-- It is shut down again, twice. -/
def shutAgain : List Move :=
  [.act .shutdown, .addProbe (.new .memory none), .act .start, .act .shutdown]

lemma allReturn_replaced : AllReturn (frail (.ofMillis 10000)).provider replaced := by
  refine ⟨?_, ?_, ?_, ?_, ?_, ?_, ?_, ?_, ?_, ?_, ?_, trivial⟩ <;> exact ⟨(), rfl⟩

lemma unhindered_replaced : Unhindered ((frail (.ofMillis 10000)).provider.moves replaced) where
  timely _ := rfl
  through hgaveUp := by cases hgaveUp
  canClose := by
    rintro a ha
    obtain rfl := Option.some.inj ha
    exact .inr ⟨fun _ _ => rfl, rfl⟩

end Provider

end TracePipeline
