import Mathlib.Data.List.Nodup
import TracePipeline.Proofs.Pipeline.Draining
import TracePipeline.Proofs.Provider.Actions

/-!
# A provider whose sinks come and go

While a provider is in use, probes are added and all sinks are unregistered, before its start, while
it runs and even after its shutdown. Only the shutdown itself shuts a sink down. Before it every
sink is registered at most once, nobody has told the worker to end, and nothing is queued unless the
provider was started.
-/

namespace TracePipeline

namespace Provider

open Dispatcher (Session)

/-- What happens to a provider. -/
inductive Move where
  | act (a : Action)
  | addProbe (probe : Probe)
  | clearSinks
  /-- A gate is to open after a time. -/
  | openLater (i nanos : Nat)

def move (p : Provider) : Move → Provider
  | .act a => p.act a
  | .addProbe probe => (p.addProbe probe).1
  | .clearSinks => p.clearSinks.1
  | .openLater i nanos => { p with pipeline := p.pipeline.openLater i nanos }

def moves (p : Provider) (l : List Move) : Provider := l.foldl move p

/-- How the call ends that a move is. -/
def ending (p : Provider) : Move → Ending Unit
  | .act .shutdown => p.shutdown.2.1.map fun _ => ()
  | .addProbe probe => (p.addProbe probe).2
  | .clearSinks => p.clearSinks.2
  | _ => .returned ()

/-- Every call comes back. -/
def AllReturn (p : Provider) : List Move → Prop
  | [] => True
  | m :: l => (p.ending m).Returns ∧ AllReturn (p.move m) l

/-- The sinks that are registered after some moves, if there were `n` probes before. -/
def sinksAfter (sinks : List Target) (n : Nat) : List Move → List Target
  | [] => sinks
  | .addProbe _ :: l => sinksAfter (sinks ++ [.probe n]) (n + 1) l
  | .clearSinks :: l => sinksAfter [] n l
  | _ :: l => sinksAfter sinks n l

variable {p : Provider} {q : Pipeline} {y : Session Target} {m : Move} {l : List Move}

/-- What the worker does not change while it has nothing to do. -/
lemma steady_waits : Pipeline.Steady fun q : Pipeline =>
    q.dispatcher.phase = .waiting ∧ q.dispatcher.queue.items = [] where
  work? := by
    rintro q q' ⟨hphase, hitems⟩ hwork
    have hidle : q.dispatcher.isDelivering = false := by rw [Dispatcher.isDelivering, hphase]
    rw [Pipeline.work?_of_idle hidle (.inr hitems)] at hwork
    cases hwork
  pass := by
    intro q time h
    rwa [Pipeline.pass_dispatcher]
  setGate _ _ h := h
  setOpenings _ h := h

/-- A provider before its first shutdown. -/
structure Open (p : Provider) : Prop where
  stage : p.stage = if p.wasStarted then .running else .built
  sound : p.pipeline.session.Sound
  waits : p.wasStarted = false →
    p.pipeline.dispatcher.phase = .waiting ∧ p.pipeline.dispatcher.queue.items = []
  distinct : p.pipeline.dispatcher.sinks.Nodup
  known : ∀ i, .probe i ∈ p.pipeline.dispatcher.sinks → i < p.pipeline.probes.length

lemma Open.not_shutdown (h : Open p) : p.stage ≠ .shutdown := by
  rw [h.stage]
  split <;> decide

lemma probes_of_follows {p : Pipeline} (h : Pipeline.Follows p q y) :
    p.probes.length ≤ q.probes.length := by
  by_contra hless
  obtain ⟨inputs, hsame, -⟩ := h.probes q.probes.length
  rw [List.getElem?_eq_none (Nat.le_refl _), List.getElem?_eq_getElem (by omega)] at hsame
  cases hsame

/-- The worker goes on, and gates and the clock; nobody stops the dispatcher. -/
lemma Open.follows (h : Open p) (hq : Pipeline.Follows p.pipeline q y) (hidle : y.stopping = .idle)
    (hwaits : p.wasStarted = false →
      q.dispatcher.phase = .waiting ∧ q.dispatcher.queue.items = []) :
    Open { p with pipeline := q } := by
  have hsinks : q.dispatcher.sinks = p.pipeline.dispatcher.sinks := by
    rw [hq.dispatcher, hq.sinks]
  refine ⟨h.stage, Pipeline.sound_session hq.sound hidle hq.dispatcher, hwaits, ?_, ?_⟩
  · rw [hsinks]
    exact h.distinct
  · intro i hi
    rw [hsinks] at hi
    exact Nat.lt_of_lt_of_le (h.known i hi) (probes_of_follows hq)

/-- What the worker, the gates and the clock do together. -/
lemma Open.steady (h : Open p) (hq : ∀ P, Pipeline.Steady P → P p.pipeline → P q) :
    Open { p with pipeline := q } := by
  obtain ⟨y, hy, hidle⟩ := hq _ (Pipeline.steady_follows p.pipeline (· = .idle))
    ⟨_, .refl h.sound, rfl⟩
  exact h.follows hy hidle fun hnot => hq _ steady_waits (h.waits hnot)

lemma Open.betweenRecords (h : Open p) :
    Open { p with pipeline := p.pipeline.betweenRecords } ∧
      p.pipeline.betweenRecords.dispatcher.sinks = p.pipeline.dispatcher.sinks ∧
      p.pipeline.probes.length ≤ p.pipeline.betweenRecords.probes.length := by
  obtain ⟨y, hy, -⟩ := (Pipeline.steady_follows p.pipeline (· = .idle)).betweenRecords
    ⟨_, .refl h.sound, rfl⟩
  refine ⟨h.steady fun P hP => hP.betweenRecords, ?_, probes_of_follows hy⟩
  rw [hy.dispatcher, hy.sinks]

/-- A turn on the dispatcher that leaves the worker alone. -/
lemma Open.turn (h : Open p) (act : Dispatcher.Action Target)
    (hidle : (p.pipeline.session.step act).stopping = .idle)
    (hdispatcher : q.dispatcher = (p.pipeline.session.step act).dispatcher)
    (hwaits : p.wasStarted = false →
      q.dispatcher.phase = .waiting ∧ q.dispatcher.queue.items = [])
    (hdistinct : q.dispatcher.sinks.Nodup)
    (hknown : ∀ i, .probe i ∈ q.dispatcher.sinks → i < q.probes.length) :
    Open { p with pipeline := q } :=
  ⟨h.stage, Pipeline.sound_session (h.sound.step act) hidle hdispatcher, hwaits, hdistinct, hknown⟩

lemma Open.addProbe (h : Open p) (probe : Probe) : Open (p.addProbe probe).1 := by
  -- the probe is known before it is registered
  have hadded : Open { p with pipeline :=
      { p.pipeline with probes := p.pipeline.probes ++ [probe] } } := by
    refine ⟨h.stage, h.sound, h.waits, h.distinct, fun i hi => ?_⟩
    have hless := h.known i hi
    rw [List.length_append]
    omega
  obtain ⟨hopen, hsinks, hprobes⟩ := hadded.betweenRecords
  have hnew : ∀ target ∈ p.pipeline.dispatcher.sinks,
      target ≠ .probe p.pipeline.probes.length := by
    rintro target htarget rfl
    exact Nat.lt_irrefl _ (h.known _ htarget)
  change Open { p with pipeline := (p.pipeline.addProbe probe).1 }
  rw [Pipeline.addProbe]
  rcases Pipeline.register_cases { p.pipeline with probes := p.pipeline.probes ++ [probe] }
    (.probe p.pipeline.probes.length) with ⟨-, heq⟩ | ⟨-, heq⟩
  · rw [heq]
    exact hopen
  rw [heq]
  generalize ({ p.pipeline with probes := p.pipeline.probes ++ [probe] } :
    Pipeline).betweenRecords = q at hopen hsinks hprobes
  refine hopen.turn (.register (.probe p.pipeline.probes.length)) rfl rfl hopen.waits ?_ ?_
  · rw [Dispatcher.register, hsinks]
    exact List.nodup_append.mpr ⟨h.distinct, List.nodup_singleton _, fun t ht u hu =>
      List.mem_singleton.mp hu ▸ hnew t ht⟩
  · intro i hi
    rw [List.length_append, List.length_singleton] at hprobes
    rw [Dispatcher.register, hsinks] at hi
    rcases List.mem_append.mp hi with hold | hlast
    · have hless := h.known i hold
      dsimp only
      omega
    · cases List.mem_singleton.mp hlast
      exact hprobes

lemma Open.clearSinks (h : Open p) : Open p.clearSinks.1 := by
  obtain ⟨hopen, -, -⟩ := h.betweenRecords
  change Open { p with pipeline := p.pipeline.clear.1 }
  rcases p.pipeline.clear_cases with ⟨-, heq⟩ | ⟨-, heq⟩ <;> rw [heq]
  · exact hopen
  · exact hopen.turn .clear rfl rfl hopen.waits List.nodup_nil fun i hi => by cases hi

lemma sinks_dispatch (p : Pipeline) (r : Record) :
    (p.dispatch r).2.dispatcher.sinks = p.dispatcher.sinks := by
  change (p.dispatcher.dispatch r).2.sinks = _
  rw [Dispatcher.dispatch, Dispatcher.put]
  split
  · rfl
  · split <;> rfl

lemma Open.dispatch (h : Open p) (hstarted : p.wasStarted = true) (r : Record) :
    Open { p with pipeline := (p.pipeline.dispatch r).2 } := by
  have hsinks := sinks_dispatch p.pipeline r
  have hidle : (p.pipeline.session.step (.dispatch r false)).stopping = .idle :=
    p.pipeline.session.stopping_note r _
  refine h.turn (.dispatch r false) hidle rfl (fun hnot => ?_) ?_ ?_
  · rw [hstarted] at hnot
    cases hnot
  · rw [hsinks]
    exact h.distinct
  · rw [hsinks]
    exact h.known

lemma Open.trace (h : Open p) (step : Tracing.Step) : Open (p.trace step).2 := by
  rw [trace_eq]
  split
  · rename_i hactive
    cases forwarded p.tracing step with
    | none => exact ⟨h.stage, h.sound, h.waits, h.distinct, h.known⟩
    | some r =>
      have hdispatched := h.dispatch (Bool.and_eq_true_iff.mp hactive).1 r
      exact ⟨hdispatched.stage, hdispatched.sound, hdispatched.waits, hdispatched.distinct,
        hdispatched.known⟩
  · exact ⟨h.stage, h.sound, h.waits, h.distinct, h.known⟩

lemma Open.start (h : Open p) : Open p.start.1 := by
  have hstage := h.stage
  rw [Provider.start]
  split
  · exact h
  · exact h
  · exact ⟨rfl, h.sound, (fun hnot => by cases hnot), h.distinct, h.known⟩

/-- What is left of a provider that is not shut down may be shut down yet. -/
theorem Open.move (h : Open p) (hm : m ≠ .act .shutdown) : Open (p.move m) := by
  cases m with
  | act a =>
    cases a with
    | trace step => exact h.trace step
    | start => exact h.start
    | shutdown => exact absurd rfl hm
    | work => exact h.steady fun P hP hp => hP.workOnce hp
    | pass nanos => exact h.steady fun P hP hp => hP.pass _ hp
    | setGate i isOpen => exact h.steady fun P hP hp => hP.gate i isOpen hp
  | addProbe probe => exact h.addProbe probe
  | clearSinks => exact h.clearSinks
  | openLater i nanos => exact h.steady fun P hP hp => hP.setOpenings _ hp

/-- The worker, the gates and the clock register nothing. -/
lemma steady_sinks (sinks : List Target) (n : Nat) : Pipeline.Steady fun q : Pipeline =>
    q.dispatcher.sinks = sinks ∧ q.probes.length = n where
  work? := by
    rintro q q' ⟨hsinks, hprobes⟩ hwork
    rcases Pipeline.work?_cases hwork with
      ⟨target, r, hnext, rfl⟩ | ⟨d, hfinish, rfl⟩ | ⟨d, log, htake, rfl⟩
    · obtain ⟨rest, hphase⟩ := Dispatcher.nextCall?_eq_some_iff.mp hnext
      rw [Dispatcher.called_eq hphase]
      refine ⟨hsinks, ?_⟩
      rw [← hprobes]
      cases target with
      | probe i =>
        rw [Pipeline.call]
        split
        · rfl
        · exact List.length_set
      | assembler =>
        rw [Pipeline.call]
        split <;> rfl
    · obtain ⟨r, -, rfl⟩ := Dispatcher.finish_cases hfinish
      exact ⟨hsinks, hprobes⟩
    · obtain ⟨m, rest, -, ⟨-, rfl⟩ | ⟨-, -, rfl⟩ | ⟨r, -, -, rfl⟩⟩ := Dispatcher.take_cases htake <;>
        exact ⟨hsinks, hprobes⟩
  pass := by
    rintro q time ⟨hsinks, hprobes⟩
    rw [Pipeline.pass_dispatcher, (q.pass_feeds time).1]
    exact ⟨hsinks, hprobes⟩
  setGate := by
    rintro q i isOpen ⟨hsinks, hprobes⟩
    exact ⟨hsinks, (List.length_modify _ _ _).trans hprobes⟩
  setOpenings _ h := h

lemma sinks_addProbe {probe : Probe} (h : (p.addProbe probe).2.Returns) :
    (p.addProbe probe).1.pipeline.dispatcher.sinks =
        p.pipeline.dispatcher.sinks ++ [.probe p.pipeline.probes.length] ∧
      (p.addProbe probe).1.pipeline.probes.length = p.pipeline.probes.length + 1 := by
  obtain ⟨hsinks, hprobes⟩ := (steady_sinks p.pipeline.dispatcher.sinks
    (p.pipeline.probes ++ [probe]).length).betweenRecords
      (p := { p.pipeline with probes := p.pipeline.probes ++ [probe] }) ⟨rfl, rfl⟩
  rw [List.length_append, List.length_singleton] at hprobes
  change (p.pipeline.addProbe probe).1.dispatcher.sinks = _ ∧
    (p.pipeline.addProbe probe).1.probes.length = _
  rw [Pipeline.addProbe, Pipeline.register_of_returns h]
  exact ⟨congrArg (· ++ [_]) hsinks, hprobes⟩

lemma sinks_clearSinks (h : p.clearSinks.2.Returns) :
    p.clearSinks.1.pipeline.dispatcher.sinks = [] ∧
      p.clearSinks.1.pipeline.probes.length = p.pipeline.probes.length := by
  obtain ⟨-, hprobes⟩ := (steady_sinks p.pipeline.dispatcher.sinks
    p.pipeline.probes.length).betweenRecords ⟨rfl, rfl⟩
  have hcleared := (Ending.returns_map_iff (fun _ => ()) p.pipeline.clear.2).mp h
  change p.pipeline.clear.1.dispatcher.sinks = [] ∧ p.pipeline.clear.1.probes.length = _
  rw [Pipeline.clear_of_returns hcleared]
  exact ⟨rfl, hprobes⟩

lemma sinks_trace (p : Provider) (step : Tracing.Step) :
    (p.trace step).2.pipeline.dispatcher.sinks = p.pipeline.dispatcher.sinks ∧
      (p.trace step).2.pipeline.probes = p.pipeline.probes := by
  rw [trace_eq]
  dsimp only
  cases if p.isActive = true then forwarded p.tracing step else none with
  | none => exact ⟨rfl, rfl⟩
  | some r => exact ⟨sinks_dispatch _ r, rfl⟩

/-- What one move registers, if the call comes back. -/
lemma sinksAfter_move (hm : m ≠ .act .shutdown) (hreturns : (p.ending m).Returns) :
    sinksAfter p.pipeline.dispatcher.sinks p.pipeline.probes.length (m :: l) =
      sinksAfter (p.move m).pipeline.dispatcher.sinks (p.move m).pipeline.probes.length l := by
  have hsteady : ∀ q, (∀ P, Pipeline.Steady P → P p.pipeline → P q) →
      sinksAfter p.pipeline.dispatcher.sinks p.pipeline.probes.length l =
        sinksAfter q.dispatcher.sinks q.probes.length l := by
    intro q hq
    obtain ⟨hsinks, hprobes⟩ := hq _ (steady_sinks _ _) ⟨rfl, rfl⟩
    rw [hsinks, hprobes]
  cases m with
  | act a =>
    cases a with
    | trace step =>
      obtain ⟨hsinks, hprobes⟩ := p.sinks_trace step
      rw [Provider.move, act, hsinks, hprobes]
      rfl
    | start =>
      rw [Provider.move, act, Provider.start]
      split <;> rfl
    | shutdown => exact absurd rfl hm
    | work => exact hsteady _ fun P hP hp => hP.workOnce hp
    | pass nanos => exact hsteady _ fun P hP hp => hP.pass _ hp
    | setGate i isOpen => exact hsteady _ fun P hP hp => hP.gate i isOpen hp
  | addProbe probe =>
    obtain ⟨hsinks, hprobes⟩ := sinks_addProbe hreturns
    rw [Provider.move, hsinks, hprobes]
    rfl
  | clearSinks =>
    obtain ⟨hsinks, hprobes⟩ := sinks_clearSinks hreturns
    rw [Provider.move, hsinks, hprobes]
    rfl
  | openLater i nanos => exact hsteady _ fun P hP hp => hP.setOpenings _ hp

/-- Before the first shutdown those sinks are registered that were added since the sinks were last
cleared. -/
theorem sinks_moves (hl : .act .shutdown ∉ l) (hreturns : AllReturn p l) :
    (p.moves l).pipeline.dispatcher.sinks =
      sinksAfter p.pipeline.dispatcher.sinks p.pipeline.probes.length l := by
  induction l generalizing p with
  | nil => rfl
  | cons m l ih =>
    obtain ⟨hm, hl⟩ := List.ne_and_not_mem_of_not_mem_cons hl
    obtain ⟨hone, hrest⟩ := hreturns
    rw [sinksAfter_move hm.symm hone]
    exact ih hl hrest

/-- Whatever happens to a provider besides its shutdown, sinks are only fed. -/
theorem feeds_move (p : Provider) (hm : m = .act .shutdown → p.stage = .shutdown) :
    p.pipeline.Feeds (p.move m).pipeline := by
  cases m with
  | act a =>
    cases a with
    | trace step =>
      rw [Provider.move, act, trace_eq]
      dsimp only
      split
      · cases forwarded p.tracing step with
        | none => exact .refl _
        | some r => exact .of_eq rfl rfl
      · exact .refl _
    | start =>
      rw [Provider.move, act, Provider.start]
      split
      · exact .refl _
      · exact .refl _
      · exact .of_eq rfl rfl
    | shutdown =>
      rw [Provider.move, act, Provider.shutdown, if_pos (hm rfl)]
      exact .refl _
    | work => exact (Pipeline.steady_feeds _).workOnce (.refl _)
    | pass nanos => exact Pipeline.feeds_pass _ _
    | setGate i isOpen => exact (Pipeline.steady_feeds _).gate i isOpen (.refl _)
  | addProbe probe => exact p.pipeline.feeds_addProbe probe
  | clearSinks => exact p.pipeline.feeds_clear
  | openLater i nanos => exact .of_eq rfl rfl

lemma stage_move (h : p.stage = .shutdown) (m : Move) : (p.move m).stage = .shutdown := by
  cases m with
  | act a =>
    cases a with
    | trace step =>
      rw [Provider.move, act, trace_eq]
      exact h
    | start =>
      rw [Provider.move, act, Provider.start, h]
      exact h
    | shutdown =>
      rw [Provider.move, act, Provider.shutdown, if_pos h]
      exact h
    | work | pass nanos | setGate i isOpen => exact h
  | addProbe probe | clearSinks | openLater i nanos => exact h

lemma Open.moves (h : Open p) (hl : .act .shutdown ∉ l) : Open (p.moves l) := by
  refine List.foldlRecOn l Provider.move h fun q hq m hm => hq.move ?_
  rintro rfl
  exact hl hm

lemma stage_moves (h : p.stage = .shutdown) (l : List Move) : (p.moves l).stage = .shutdown :=
  List.foldlRecOn l Provider.move (motive := (·.stage = .shutdown)) h
    fun _ hq m _ => stage_move hq m

/-- Neither before the first shutdown nor after it. -/
lemma feeds_moves (h : .act .shutdown ∉ l ∨ p.stage = .shutdown) :
    p.pipeline.Feeds (p.moves l).pipeline := by
  -- along the moves, with the stage in hand, since another shutdown may be among them
  have hmoves : p.pipeline.Feeds (p.moves l).pipeline ∧
      (p.stage = .shutdown → (p.moves l).stage = .shutdown) := by
    refine List.foldlRecOn l Provider.move
      (motive := fun q => p.pipeline.Feeds q.pipeline ∧ (p.stage = .shutdown → q.stage = .shutdown))
      ⟨.refl _, id⟩ ?_
    rintro q ⟨hfeeds, hstage⟩ m hm
    refine ⟨hfeeds.trans (feeds_move q ?_), fun hp => stage_move (hstage hp) m⟩
    rintro rfl
    rcases h with hl | hp
    · exact absurd hm hl
    · exact hstage hp
  exact hmoves.1

lemma feeds_take (k : Nat) (h : .act .shutdown ∉ l ∨ p.stage = .shutdown) :
    (p.moves (l.take k)).pipeline.Feeds (p.moves l).pipeline := by
  have hsplit : p.moves l = (p.moves (l.take k)).moves (l.drop k) := by
    rw [moves, moves, moves, ← List.foldl_append, List.take_append_drop]
  rw [hsplit]
  exact feeds_moves (h.imp (fun hl hmem => hl (List.mem_of_mem_drop hmem))
    fun hp => stage_moves hp _)

end Provider

end TracePipeline
