import TracePipeline.Proofs.Pipeline
import TracePipeline.Proofs.Provider.Actions

/-!
# A provider refines a bare assembler

Until the first shutdown a provider is a session of its dispatcher that has accepted the records of
the program; the shutdown delivers them, shuts the assembler down and leaves nothing to do. So the
processor is handed what an assembler without any pipeline hands over when it takes these records,
one after the other, and is then shut down.
-/

namespace TracePipeline

namespace Provider

open Dispatcher (Session)

variable {base : Assembly} {y : Session Target} {records : List Record} {isStarted : Bool}
  {p : Provider} {s : Tracing} {actions : List Action}

/-- Before the first shutdown. -/
structure Live (base : Assembly) (y : Session Target) (records : List Record) (isStarted : Bool)
    (p : Provider) : Prop where
  stage : p.stage = if isStarted then .running else .built
  wasStarted : p.wasStarted = isStarted
  nothing : isStarted = false → records = []
  tracks : Pipeline.Tracks base y p.pipeline
  idle : y.stopping = .idle
  accepted : y.accepted = records

/-- After the first shutdown. -/
structure Done (base : Assembly) (records : List Record) (p : Provider) : Prop where
  stage : p.stage = .shutdown
  inactive : p.isActive = false
  ended : Pipeline.Ended base (records.map .record) p.pipeline

lemma Live.isOpen (h : Live base y records isStarted p) :
    p.pipeline.dispatcher.isStopped = false := by
  rw [h.tracks.dispatcher]
  exact h.tracks.sound.not_stopped h.idle

lemma Live.isActive (h : Live base y records isStarted p) : p.isActive = isStarted := by
  rw [Provider.isActive, h.wasStarted, h.isOpen]
  simp

lemma Live.dispatch (h : Live base y records isStarted p) (r : Record) (hstarted : isStarted = true)
    (hroom : p.pipeline.dispatcher.queue.items.length < p.pipeline.dispatcher.config.maxQueueSize) :
    Live base (y.step (.dispatch r false)) (records ++ [r]) isStarted
      { p with pipeline := (p.pipeline.dispatch r).2 } := by
  have hopen := h.isOpen
  rw [h.tracks.dispatcher] at hroom hopen
  have hput := Dispatcher.put_of_hasRoom
    (h.tracks.sound.hasRoom_iff.mpr ⟨h.tracks.sound.not_exited h.idle, hroom⟩) r
  have hstep : y.step (.dispatch r false) =
      { y with dispatcher := y.dispatcher.putting (.record r), accepted := y.accepted ++ [r] } := by
    simp [Session.step, Session.note, Session.accept, Dispatcher.dispatch, hopen, hput]
  refine ⟨h.stage, h.wasStarted, fun hnot => ?_, h.tracks.dispatch r, ?_, ?_⟩
  · rw [hstarted] at hnot
    cases hnot
  · rw [hstep]
    exact h.idle
  · rw [hstep, ← h.accepted]

lemma Live.trace (h : Live base y records isStarted p) (step : Tracing.Step)
    (hroom : ∀ r, (if isStarted = true then forwarded p.tracing step else none) = some r →
      p.pipeline.dispatcher.queue.items.length < p.pipeline.dispatcher.config.maxQueueSize) :
    ∃ y', Live base y'
      (records ++ (if isStarted = true then forwarded p.tracing step else none).toList) isStarted
      (p.trace step).2 := by
  rw [trace_eq, h.isActive]
  cases hrecord : if isStarted = true then forwarded p.tracing step else none with
  | none =>
    rw [Option.toList_none, List.append_nil]
    exact ⟨y, h.stage, h.wasStarted, h.nothing, h.tracks, h.idle, h.accepted⟩
  | some r =>
    have hstarted : isStarted = true := by
      by_contra hnot
      rw [if_neg hnot] at hrecord
      cases hrecord
    have hlive := h.dispatch r hstarted (hroom r hrecord)
    exact ⟨_, hlive.stage, hlive.wasStarted, hlive.nothing, hlive.tracks, hlive.idle, hlive.accepted⟩

lemma Live.start (h : Live base y records isStarted p) : Live base y records true p.start.1 := by
  have hstage := h.stage
  cases isStarted with
  | true =>
    have hrunning : p.stage = .running := hstage
    rw [Provider.start, hrunning]
    exact h
  | false =>
    have hbuilt : p.stage = .built := hstage
    rw [Provider.start, hbuilt]
    exact ⟨rfl, rfl, (fun hnot => by cases hnot), h.tracks.congr rfl rfl rfl, h.idle, h.accepted⟩

lemma Live.work (h : Live base y records isStarted p) :
    ∃ y', Live base y' records isStarted (p.act .work) := by
  cases hwork : p.pipeline.work? with
  | none =>
    refine ⟨y, ?_⟩
    rw [act, hwork]
    exact h
  | some pipeline =>
    obtain ⟨a, hworking, htracks⟩ := h.tracks.work hwork
    obtain ⟨haccepted, hstopping⟩ := Pipeline.working_keeps hworking y
    refine ⟨y.step a, ?_⟩
    rw [act, hwork]
    exact ⟨h.stage, h.wasStarted, h.nothing, htracks, hstopping.trans h.idle,
      haccepted.trans h.accepted⟩

lemma Live.pass (h : Live base y records isStarted p) (nanos : Nat)
    (hdue : ∀ due, p.pipeline.timer.due? = some due → p.pipeline.clock + nanos < due) :
    Live base y records isStarted (p.act (.pass nanos)) := by
  refine ⟨h.stage, h.wasStarted, h.nothing, h.tracks.pass _ fun due hsome => ?_, h.idle, h.accepted⟩
  have hlate := hdue due hsome
  omega

lemma Live.setGate (h : Live base y records isStarted p) (i : Nat) (isOpen : Bool) :
    Live base y records isStarted (p.act (.setGate i isOpen)) := by
  cases isOpen <;>
    exact ⟨h.stage, h.wasStarted, h.nothing, h.tracks.congr rfl rfl rfl, h.idle, h.accepted⟩

/-- The pipeline of a provider that is shut down, once its dispatcher is stopped. -/
def stopped (p : Provider) : Pipeline := if p.wasStarted then p.pipeline.stop.1 else p.pipeline

/-- What is reported before the first sink is shut down. -/
def stopReport (p : Provider) : List Event :=
  (if p.wasStarted then p.pipeline.stop.2.2 else []) ++ p.stopped.timer.stop

/-- If the clock can show when the shutdown has to be through, it gets as far as the sinks. -/
lemma halt_of_timely (hopen : p.pipeline.dispatcher.isStopped = false)
    (htimely : p.wasStarted = true → p.pipeline.deadline?.isSome = true) :
    p.pipeline.halt p.wasStarted =
      ((Pipeline.clear { p.stopped with timer := .stopped }).1,
        (Pipeline.clear { p.stopped with timer := .stopped }).2, p.stopReport) := by
  rw [Pipeline.halt, stopReport, stopped]
  cases hstarted : p.wasStarted with
  | false => simp
  | true =>
    obtain ⟨deadline, hdeadline⟩ := Option.isSome_iff_exists.mp (htimely hstarted)
    rw [Pipeline.stop_of_deadline hopen hdeadline]
    simp

lemma close_fst (p : Provider) :
    p.close.1 =
      { p with
        pipeline := (Ending.andThen (p.pipeline.halt p.wasStarted) fun q sinks =>
          q.shutdownSinks [] (sinks ++ [.assembler])).1
        stage := .shutdown } := by
  rw [close]
  generalize p.pipeline.halt p.wasStarted = halted
  obtain ⟨q, ending, events⟩ := halted
  cases ending with
  | returned sinks =>
    simp only [Ending.andThen_returned]
    generalize q.shutdownSinks [] (sinks ++ [.assembler]) = last
    obtain ⟨r, ending, events⟩ := last
    cases ending <;> rfl
  | brokeDown | stuck => rfl

/-- What a pipeline is like whose dispatcher is stopped in time. -/
lemma Live.stopped (h : Live base y records isStarted p) (htimely : p.Timely)
    (hdrained : p.stopped.dispatcher.isAbandoned = false) :
    p.stopped.dispatcher.isDelivering = false ∧
      (p.stopped.dispatcher.hasExited = true ∨ p.stopped.dispatcher.queue.items = []) ∧
      (isStarted = true → p.stopped.dispatcher.isStopped = true) ∧
      ∃ a, p.stopped.assembly = some a ∧ base.Fed (records.map .record) a := by
  have hstopped : p.stopped = if isStarted then p.pipeline.stop.1 else p.pipeline := by
    rw [Provider.stopped, h.wasStarted]
  rw [hstopped] at hdrained ⊢
  cases isStarted with
  | true =>
    obtain ⟨y', htracks, haccepted, hdone⟩ := h.tracks.stop h.idle (htimely h.stage) hdrained
    have hexited := htracks.sound.drained hdone
    have hassembly := htracks.assembly
    have hstop := htracks.sound.stopped.mpr (by rw [hdone]; decide)
    rw [htracks.callsTo_of_drained hdone, haccepted, h.accepted] at hassembly
    rw [← htracks.dispatcher] at hexited hstop
    refine ⟨?_, .inl hexited, fun _ => hstop, hassembly⟩
    change p.pipeline.stop.1.dispatcher.isDelivering = false
    cases hphase : p.pipeline.stop.1.dispatcher.phase <;>
      simp_all [Dispatcher.hasExited, Dispatcher.isDelivering]
  | false =>
    have hnothing := h.nothing rfl
    have hassembly := h.tracks.assembly
    obtain ⟨hcalls, hinHand, hitems⟩ :=
      h.tracks.callsTo_of_nothing h.idle (h.accepted.trans hnothing)
    rw [hcalls] at hassembly
    rw [← h.tracks.dispatcher] at hinHand hitems
    rw [hnothing]
    refine ⟨?_, .inr hitems, (fun hnot => by cases hnot), hassembly⟩
    change p.pipeline.dispatcher.isDelivering = false
    cases hphase : p.pipeline.dispatcher.phase <;>
      simp_all [Dispatcher.inHand, Dispatcher.isDelivering]

lemma Live.shutdown (h : Live base y records isStarted p) (htimely : p.Timely)
    (hdrained : p.shutdown.1.pipeline.dispatcher.isAbandoned = false) :
    Done base records p.shutdown.1 := by
  have hstage : p.stage ≠ .shutdown := by
    rw [h.stage]
    cases isStarted <;> decide
  have hopenings : p.stopped.openings = [] := by
    unfold Provider.stopped
    split
    · exact Pipeline.stop_openings h.tracks.openings
    · exact h.tracks.openings
  have hstarted : p.wasStarted = true → p.pipeline.deadline?.isSome = true := by
    intro hstarted
    rw [h.wasStarted] at hstarted
    exact htimely (by rw [h.stage, hstarted]; rfl)
  have hhalted : ({ p.stopped with timer := .stopped } : Pipeline).openings = [] := hopenings
  rw [Provider.shutdown, if_neg hstage, close_fst, halt_of_timely h.isOpen hstarted] at hdrained ⊢
  -- neither the sinks nor the worker take back that the worker was told to abandon the rest
  have hintime : p.stopped.dispatcher.isAbandoned = false := by
    have hkept := Pipeline.isAbandoned_clear hhalted
    generalize Pipeline.clear { p.stopped with timer := .stopped } = cleared at hkept hdrained
    obtain ⟨q, ending⟩ := cleared
    rw [← hdrained, ← hkept]
    cases ending with
    | returned sinks => exact congrArg _ (Pipeline.shutdownSinks_dispatcher _ _ _).symm
    | brokeDown | stuck => rfl
  obtain ⟨hidle, hempty, hstop, a, ha, hfed⟩ := h.stopped htimely hintime
  have hbetween : ({ p.stopped with timer := .stopped } : Pipeline).dispatcher.isDelivering = false :=
    hidle
  have hassembly : ({ p.stopped with
      timer := .stopped, openings := [], dispatcher := p.stopped.dispatcher.clear } :
        Pipeline).assembly = some a := ha
  have hmem : Target.assembler ∈ p.stopped.dispatcher.sinks ++ [.assembler] := by simp
  obtain ⟨probes, hsinks⟩ := Pipeline.shutdownSinks_eq hassembly hmem []
  rw [Pipeline.clear_eq hbetween hhalted, Ending.andThen_returned]
  dsimp only
  rw [hsinks]
  refine ⟨rfl, ?_, hidle, hempty, rfl, a.shutdown.1, rfl, hfed.shutdown⟩
  change (p.wasStarted && !p.stopped.dispatcher.isStopped) = false
  rw [h.wasStarted]
  cases isStarted with
  | true => rw [hstop rfl]; rfl
  | false => rfl

lemma Done.trace (h : Done base records p) (step : Tracing.Step) :
    Done base records (p.trace step).2 := by
  have hinactive := h.inactive
  rw [trace_eq, hinactive]
  exact ⟨h.stage, h.inactive, h.ended⟩

lemma Done.setGate (h : Done base records p) (i : Nat) (isOpen : Bool) :
    Done base records (p.act (.setGate i isOpen)) := by
  have hended := h.ended
  cases isOpen <;>
    exact ⟨h.stage, h.inactive, hended.idle, hended.empty, hended.timer, hended.assembly⟩

/-- After the first shutdown nothing reaches the assembler any more. -/
theorem Done.act (h : Done base records p) (a : Action) : Done base records (p.act a) := by
  cases a with
  | trace step => exact h.trace step
  | start =>
    rw [Provider.act, Provider.start, h.stage]
    exact h
  | shutdown =>
    rw [Provider.act, Provider.shutdown, if_pos h.stage]
    exact h
  | work =>
    rw [Provider.act, h.ended.work?]
    exact h
  | pass nanos =>
    refine ⟨h.stage, ?_, h.ended.pass _⟩
    have hinactive := h.inactive
    unfold Provider.isActive at hinactive ⊢
    rw [Provider.act, Pipeline.pass_dispatcher]
    exact hinactive
  | setGate i isOpen => exact h.setGate i isOpen

lemma tracing_act (p : Provider) (a : Action) : (p.act a).tracing = tracedBy p.tracing a := by
  cases a with
  | trace step => rw [act, trace_eq, tracedBy]
  | start =>
    rw [act, Provider.start]
    split <;> rfl
  | shutdown =>
    rw [act, Provider.shutdown]
    split
    · rfl
    · rw [close_fst]
      rfl
  | work => rfl
  | pass nanos => rfl
  | setGate i isOpen => rfl

lemma tracing_run (p : Provider) (actions : List Action) :
    (p.run actions).tracing = tracedAll p.tracing actions := by
  induction actions using List.reverseRecOn with
  | nil => rfl
  | append_singleton actions a ih => rw [run_concat, tracing_act, tracedAll_concat, ih]

/-- Where a provider has got to after several actions. -/
def Reached (base : Assembly) (s : Tracing) (actions : List Action) (p : Provider) : Prop :=
  if actions.any Action.isShutdown = true then Done base (recorded s actions) p
  else ∃ y, Live base y (recorded s actions) (actions.any Action.isStart) p

lemma Reached.of_done {a : Action} (h : Done base (recorded s actions) p)
    (hshut : actions.any Action.isShutdown = true) : Reached base s (actions ++ [a]) (p.act a) := by
  have hany : (actions ++ [a]).any Action.isShutdown = true := by
    rw [List.any_append, hshut, Bool.true_or]
  rw [Reached, if_pos hany, recorded_concat, recordAfter_of_shutdown s hshut, Option.toList_none,
    List.append_nil]
  exact h.act a

lemma Reached.of_live {a : Action} (hshut : actions.any Action.isShutdown = false)
    (hno : a.isShutdown = false)
    (hlive : ∃ y, Live base y (recorded s actions ++ (recordAfter s actions a).toList)
      (actions.any Action.isStart || a.isStart) (p.act a)) :
    Reached base s (actions ++ [a]) (p.act a) := by
  have hany : ¬ (actions ++ [a]).any Action.isShutdown = true := by simp [hshut, hno]
  rw [Reached, if_neg hany, recorded_concat, List.any_append, List.any_cons, List.any_nil,
    Bool.or_false]
  exact hlive

lemma Live.reached (h : Live base y (recorded s actions) (actions.any Action.isStart) p)
    (hshut : actions.any Action.isShutdown = false) (hs : p.tracing = tracedAll s actions)
    (a : Action)
    (hroom : ∀ r, recordAfter s actions a = some r →
      p.pipeline.dispatcher.queue.items.length < p.pipeline.dispatcher.config.maxQueueSize)
    (hunswept : ∀ nanos due, a = .pass nanos → p.pipeline.timer.due? = some due →
      p.pipeline.clock + nanos < due)
    (htimely : a = .shutdown → p.Timely)
    (hdrained : (p.act a).pipeline.dispatcher.isAbandoned = false) :
    Reached base s (actions ++ [a]) (p.act a) := by
  cases a with
  | shutdown =>
    have hany : (actions ++ [Action.shutdown]).any Action.isShutdown = true := by
      simp [Action.isShutdown]
    have hnone : recordAfter s actions .shutdown = none := rfl
    rw [Reached, if_pos hany, recorded_concat, hnone, Option.toList_none, List.append_nil]
    exact h.shutdown (htimely rfl) hdrained
  | trace step =>
    have hrecord : recordAfter s actions (.trace step) =
        if actions.any Action.isStart = true then forwarded p.tracing step else none := by
      rw [recordAfter, hshut, hs]
      simp
    apply Reached.of_live hshut rfl
    rw [hrecord] at hroom
    simp only [hrecord, Action.isStart, Bool.or_false]
    exact h.trace step hroom
  | start =>
    refine .of_live hshut rfl ⟨y, ?_⟩
    simp only [recordAfter, Option.toList_none, List.append_nil, Action.isStart, Bool.or_true]
    exact h.start
  | work =>
    apply Reached.of_live hshut rfl
    simp only [recordAfter, Option.toList_none, List.append_nil, Action.isStart, Bool.or_false]
    exact h.work
  | pass nanos =>
    refine .of_live hshut rfl ⟨y, ?_⟩
    simp only [recordAfter, Option.toList_none, List.append_nil, Action.isStart, Bool.or_false]
    exact h.pass nanos fun due hdue => hunswept nanos due rfl hdue
  | setGate i isOpen =>
    refine .of_live hshut rfl ⟨y, ?_⟩
    simp only [recordAfter, Option.toList_none, List.append_nil, Action.isStart, Bool.or_false]
    exact h.setGate i isOpen

theorem reached_of_undisturbed (hnew : Live base y [] false p) (h : Undisturbed p actions)
    (hpunctual : Punctual p actions) :
    Reached base p.tracing actions (p.run actions) := by
  -- from the end: the last action finds what the others have reached
  induction actions using List.reverseRecOn with
  | nil => exact ⟨y, hnew⟩
  | append_singleton actions a ih =>
    have hdrained := h.drained_last
    rw [run_concat] at hdrained ⊢
    have hbefore := ih h.before hpunctual.before
    unfold Reached at hbefore
    split at hbefore
    · rename_i hshut
      exact .of_done hbefore hshut
    · rename_i hnot
      obtain ⟨y, hlive⟩ := hbefore
      refine hlive.reached (Bool.eq_false_iff.mpr hnot) (tracing_run p actions) a ?_ ?_ ?_ hdrained
      · intro r hr
        exact h.room_last hr
      · rintro nanos due rfl hdue
        exact h.unswept_last hdue
      · rintro rfl
        exact hpunctual.last

/-- What a provider with an assembler, and without a sampler, is made of. -/
structure Settings where
  config : DispatcherConfig
  probes : List Probe
  timeToLive : Duration
  processor : Processor
  wide : Bool
  ids : IdSource
  sweepInterval : Duration
  clock : Nat

namespace Settings

def assembly (c : Settings) : Assembly := ⟨.new c.timeToLive, c.processor, none⟩

def provider (c : Settings) : Provider :=
  .new c.config c.probes (some c.assembly) none c.wide c.ids c.sweepInterval c.clock

def tracing (c : Settings) : Tracing := .new c.wide c.ids none

/-- What an assembler without a pipeline hands over to such a processor when it takes the records
that actions make, in their order, and is then shut down. At a span that breaks the processor down the
shutdown ends. -/
def bareSpans (c : Settings) (actions : List Action) : List Span :=
  let records := (recorded c.tracing actions).map .record
  (Assembler.new c.timeToLive).handedOver records ++
    c.processor.reached (((Assembler.new c.timeToLive).after records).step .shutdown).2

lemma bareSpans_of_sturdy (c : Settings) (h : c.processor.Sturdy) (actions : List Action) :
    c.bareSpans actions = (Assembler.new c.timeToLive).handedOver
      ((recorded c.tracing actions).map .record ++ [.shutdown]) := by
  rw [bareSpans, h.reached, Assembler.handedOver_concat]

end Settings

/-- At the end of a run the processor was handed what a bare assembler hands over. -/
def RefinesBare (c : Settings) (actions : List Action) : Prop :=
  ∃ a inputs, (c.provider.run actions).pipeline.assembly = some a ∧
    a.processor = c.processor.feed inputs ∧ Processor.handed inputs = c.bareSpans actions ∧
    ∀ collector, c.processor = .collector collector → ∃ shutdowns,
      a.processor =
        .collector ⟨collector.failure, collector.spans ++ c.bareSpans actions, shutdowns⟩

lemma live_new (c : Settings) : ∃ y, Live c.assembly y [] false c.provider := by
  have honce : ((List.range c.probes.length).map Target.probe ++ [Target.assembler]).count
      Target.assembler = 1 := by
    rw [List.count_append, List.count_eq_zero.mpr (by simp)]
    rfl
  exact ⟨_, rfl, rfl, fun _ => rfl,
    ⟨Session.sound_start c.config _, rfl, honce, rfl, rfl, rfl, _, rfl, .refl rfl⟩, rfl, rfl⟩

/-- A provider that is shut down has handed its processor the spans that an assembler without a
pipeline hands over for the records made between its start and its shutdown. -/
theorem hands_over_as_bare_assembler (c : Settings) (actions : List Action)
    (hshut : actions.any Action.isShutdown = true) (h : Undisturbed c.provider actions)
    (hpunctual : Punctual c.provider actions) : RefinesBare c actions := by
  obtain ⟨y, hnew⟩ := live_new c
  have hreached := reached_of_undisturbed hnew h hpunctual
  rw [Reached, if_pos hshut] at hreached
  obtain ⟨a, ha, inputs, hinputs, hhanded⟩ := hreached.ended.assembly
  refine ⟨a, inputs, ha, hinputs, hhanded, fun collector hcollector => ?_⟩
  have hfeed : a.processor = (Processor.collector collector).feed inputs := by
    rw [← hcollector]
    exact hinputs
  obtain ⟨shutdowns, hcollected⟩ := Processor.feed_collector collector inputs
  have hspans : Processor.handed inputs = c.bareSpans actions := hhanded
  rw [hspans] at hcollected
  exact ⟨shutdowns, hfeed.trans hcollected⟩

/-- A small provider that collects its spans. -/
def small (shutdownTimeout : Duration) : Settings where
  config := ⟨2, shutdownTimeout, by decide⟩
  probes := [.new .faulty none]
  timeToLive := .ofSeconds 60
  processor := .collector (.new none)
  wide := false
  ids := .consecutive
  sweepInterval := .ofSeconds 10
  clock := 0

/-- A trace records before the start, between start and shutdown, and after it. -/
def recordedThrice : List Action :=
  [.trace (.start .pipeline), .trace (.record 0 .clientSend 1), .start,
    .trace (.record 0 .clientSend 2), .work, .pass 5, .trace (.record 0 .clientRecv 3), .shutdown,
    .trace (.record 0 .clientSend 4), .start]

lemma undisturbed_recordedThrice {timeout : Duration}
    (h : timeout = .ofMillis 10000 ∨ timeout = .longest) :
    Undisturbed (small timeout).provider recordedThrice where
  room k r hr := by
    obtain ⟨a, hk, -⟩ := Option.bind_eq_some_iff.mp hr
    have hroom : ∀ k < 10,
        ((small timeout).provider.run (recordedThrice.take k)).pipeline.dispatcher.queue.items.length <
          ((small timeout).provider.run
            (recordedThrice.take k)).pipeline.dispatcher.config.maxQueueSize := by
      rcases h with rfl | rfl <;> decide
    exact hroom k (List.getElem?_eq_some_iff.mp hk).1
  unswept k nanos due hk hdue := by
    have hearly : ∀ k < 10,
        ((small timeout).provider.run (recordedThrice.take k)).pipeline.timer.due?.all fun due =>
          decide (((small timeout).provider.run (recordedThrice.take k)).pipeline.clock + 5 < due) := by
      rcases h with rfl | rfl <;> decide
    have hnanos : nanos = 5 := by simpa [recordedThrice] using List.mem_of_getElem? hk
    have hlate := hearly k (List.getElem?_eq_some_iff.mp hk).1
    rw [hdue] at hlate
    rw [hnanos]
    exact of_decide_eq_true hlate
  drained := by rcases h with rfl | rfl <;> decide

lemma punctual_recordedThrice : Punctual (small (.ofMillis 10000)).provider recordedThrice := by
  intro k hk _
  have hall : ∀ k < 10,
      ((small (.ofMillis 10000)).provider.run (recordedThrice.take k)).pipeline.deadline?.isSome =
        true := by
    decide
  exact hall k (List.getElem?_eq_some_iff.mp hk).1

theorem hands_over_as_bare_assembler_recordedThrice :
    ((small (.ofMillis 10000)).bareSpans recordedThrice).length = 1 ∧
      ∃ a shutdowns,
        ((small (.ofMillis 10000)).provider.run recordedThrice).pipeline.assembly = some a ∧
        a.processor =
          .collector ⟨none, (small (.ofMillis 10000)).bareSpans recordedThrice, shutdowns⟩ := by
  obtain ⟨a, inputs, ha, -, -, hcollected⟩ :=
    hands_over_as_bare_assembler (small (.ofMillis 10000)) recordedThrice rfl
      (undisturbed_recordedThrice (.inl rfl)) punctual_recordedThrice
  obtain ⟨shutdowns, hcollector⟩ := hcollected (.new none) rfl
  exact ⟨by decide, a, shutdowns, ha, hcollector⟩

/-- With the longest timeout the shutdown breaks down before the queue is drained, and the processor
gets nothing. -/
theorem not_refinesBare_recordedThrice :
    Undisturbed (small .longest).provider recordedThrice ∧
      ((small .longest).bareSpans recordedThrice).length = 1 ∧
      ((small .longest).provider.run recordedThrice).stage = .shutdown ∧
      ((small .longest).provider.run recordedThrice).pipeline.assembly.map (·.processor) =
        some (.collector (.new none)) ∧
      ¬ RefinesBare (small .longest) recordedThrice := by
  have hnothing : ((small .longest).provider.run recordedThrice).pipeline.assembly.map
      (·.processor) = some (.collector (.new none)) := rfl
  have hone : ((small .longest).bareSpans recordedThrice).length = 1 := by decide
  refine ⟨undisturbed_recordedThrice (.inr rfl), hone, rfl, hnothing, ?_⟩
  rintro ⟨a, inputs, ha, -, -, hcollected⟩
  obtain ⟨shutdowns, hcollector⟩ := hcollected (.new none) rfl
  rw [ha, Option.map_some, hcollector] at hnothing
  have hspans : [] ++ (small .longest).bareSpans recordedThrice = [] :=
    congrArg Collector.spans (Processor.collector.inj (Option.some.inj hnothing))
  rw [List.nil_append] at hspans
  rw [hspans] at hone
  cases hone

end Provider

end TracePipeline
