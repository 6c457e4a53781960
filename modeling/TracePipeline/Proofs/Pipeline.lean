import TracePipeline.Pipeline
import TracePipeline.Proofs.Assembly
import TracePipeline.Proofs.Dispatcher.Delivery
import TracePipeline.Proofs.Ending

/-!
# A pipeline is a session of its dispatcher

Whatever a pipeline does between its start and its shutdown are turns of its dispatcher, and its
assembler has taken the records with which the dispatcher called it. So the assembler ends with what
was accepted, if the pipeline was stopped and the queue was drained in time.
-/

namespace TracePipeline

namespace Pipeline

open Dispatcher (Session Action)

/-- A pipeline with its session: its assembler, registered once, took the records that it was called
with, none of which was late, and no gate is going to open by itself. -/
structure Tracks (start : Assembly) (y : Session Target) (p : Pipeline) : Prop where
  sound : y.Sound
  prompt : y.late = []
  once : y.dispatcher.sinks.count .assembler = 1
  served : y.callsTo .assembler ++ y.dispatcher.owed .assembler = y.taken
  dispatcher : p.dispatcher = y.dispatcher
  openings : p.openings = []
  assembly : ∃ a, p.assembly = some a ∧ start.Fed ((y.callsTo .assembler).map .record) a

/-- Turns that leave the registered sinks as they are, and in which nobody is late. -/
def Ordinary (act : Action Target) : Prop :=
  act ≠ .clear ∧ (∀ target, act ≠ .register target) ∧ ∀ r, act ≠ .dispatch r true

/-- Turns of the worker. -/
def Working (acts : List (Action Target)) : Prop :=
  ∀ act ∈ acts, act = .take ∨ act = .finish ∨ ∃ panics, act = .call panics

variable {start : Assembly} {y : Session Target} {p p' : Pipeline}

lemma Tracks.step (h : Tracks start y p) {act : Action Target} (hordinary : Ordinary act)
    (hdispatcher : p'.dispatcher = (y.step act).dispatcher) (hopenings : p'.openings = [])
    (hassembly : ∃ a, p'.assembly = some a ∧
      start.Fed (((y.step act).callsTo .assembler).map .record) a) :
    Tracks start (y.step act) p' := by
  have hserves : Session.Serves .assembler y (y.run [act]) :=
    h.sound.serves [act] fun act' hact => by
      rw [List.mem_singleton.mp hact]
      exact ⟨hordinary.1, hordinary.2.1 .assembler⟩
  obtain ⟨hcount, new, htaken, hcalls⟩ := hserves
  rw [h.once] at hcalls hcount
  have hlate : (y.step act).late = [] :=
    (h.sound.late_run [act] fun r hr => hordinary.2.2 r (List.mem_singleton.mp hr).symm).trans h.prompt
  refine ⟨h.sound.step act, hlate, hcount, ?_, hdispatcher, hopenings, hassembly⟩
  have hnew : new.flatMap (List.replicate 1) = new := List.flatMap_singleton' new
  rw [hnew, h.served] at hcalls
  exact hcalls.trans htaken.symm

lemma Tracks.congr (h : Tracks start y p) (hdispatcher : p'.dispatcher = p.dispatcher)
    (hopenings : p'.openings = p.openings) (hassembly : p'.assembly = p.assembly) :
    Tracks start y p' where
  sound := h.sound
  prompt := h.prompt
  once := h.once
  served := h.served
  dispatcher := hdispatcher.trans h.dispatcher
  openings := hopenings.trans h.openings
  assembly := by
    rw [hassembly]
    exact h.assembly

lemma work?_cases (h : p.work? = some p') :
    (∃ target r, p.dispatcher.nextCall? = some (target, r) ∧
      p' = { p.call r target with dispatcher := p.dispatcher.called }) ∨
    (∃ d, p.dispatcher.finish = some d ∧ p' = { p with dispatcher := d }) ∨
    ∃ d log, p.dispatcher.take = some d ∧ p' = { p with dispatcher := d, log } := by
  unfold work? at h
  split at h
  · rename_i target r hnext
    split at h
    · cases h
    · exact .inl ⟨target, r, hnext, (Option.some.inj h).symm⟩
  · split at h
    · rename_i d hfinish
      exact .inr (.inl ⟨d, hfinish, (Option.some.inj h).symm⟩)
    · obtain ⟨d, htake, hp'⟩ := Option.map_eq_some_iff.mp h
      exact .inr (.inr ⟨d, _, htake, hp'.symm⟩)

lemma call_probe (p : Pipeline) (r : Record) (i : Nat) :
    (p.call r (.probe i)).assembly = p.assembly ∧ (p.call r (.probe i)).openings = p.openings := by
  rw [call]
  split <;> exact ⟨rfl, rfl⟩

lemma call_assembler {a : Assembly} (h : p.assembly = some a) (r : Record) :
    (p.call r .assembler).assembly = some (a.record r).1 ∧
      (p.call r .assembler).openings = p.openings := by
  rw [call, h]
  exact ⟨rfl, rfl⟩

lemma Tracks.calls (h : Tracks start y p) {target : Target} {r : Record}
    (hnext : p.dispatcher.nextCall? = some (target, r)) :
    Tracks start (y.step (.call false))
      { p.call r target with dispatcher := p.dispatcher.called } := by
  have hstep : y.step (.call false) =
      { y with dispatcher := y.dispatcher.called, calls := y.calls ++ [⟨target, r, false⟩] } := by
    rw [Session.step, ← h.dispatcher, hnext]
    rfl
  obtain ⟨a, ha, hfed⟩ := h.assembly
  refine h.step (by simp [Ordinary]) ?_ ?_ ?_
  · rw [hstep, h.dispatcher]
  · cases target with
    | probe i => exact (call_probe p r i).2.trans h.openings
    | assembler => exact (call_assembler ha r).2.trans h.openings
  · rw [hstep, Session.callsTo_concat]
    cases target with
    | probe i =>
      rw [if_neg (by simp), List.append_nil]
      exact ⟨a, (call_probe p r i).1.trans ha, hfed⟩
    | assembler =>
      rw [if_pos rfl, List.map_append]
      exact ⟨(a.record r).1, (call_assembler ha r).1, hfed.record r⟩

/-- What the worker of a pipeline does is a turn of the worker of the dispatcher. -/
theorem Tracks.work (h : Tracks start y p) (hwork : p.work? = some p') :
    ∃ act, Working [act] ∧ Tracks start (y.step act) p' := by
  rcases work?_cases hwork with ⟨target, r, hnext, rfl⟩ | ⟨d, hfinish, rfl⟩ | ⟨d, log, htake, rfl⟩
  · exact ⟨.call false, by simp [Working], h.calls hnext⟩
  · have hstep : y.step .finish =
        { y with dispatcher := d, delivered := y.delivered ++ y.dispatcher.inHand } := by
      rw [Session.step, ← h.dispatcher, hfinish]
      rfl
    refine ⟨.finish, by simp [Working], h.step (by simp [Ordinary]) ?_ h.openings ?_⟩
    · rw [hstep]
    · rw [hstep]
      exact h.assembly
  · have hstep : y.step .take = { y with dispatcher := d } := by
      rw [Session.step, ← h.dispatcher, htake]
      rfl
    refine ⟨.take, by simp [Working], h.step (by simp [Ordinary]) ?_ h.openings ?_⟩
    · rw [hstep]
    · rw [hstep]
      exact h.assembly

lemma Tracks.works (h : Tracks start y p) (holds : Pipeline → Bool) (n : Nat) :
    ∃ acts, Working acts ∧ Tracks start (y.run acts) (p.work holds n) := by
  induction n generalizing y p with
  | zero => exact ⟨[], by simp [Working], h⟩
  | succ n ih =>
    rw [Pipeline.work]
    split
    · exact ⟨[], by simp [Working], h⟩
    · split
      · exact ⟨[], by simp [Working], h⟩
      · rename_i p' hwork
        obtain ⟨act, hact, hnext⟩ := h.work hwork
        obtain ⟨acts, hacts, hlast⟩ := ih hnext
        exact ⟨act :: acts, List.forall_mem_append.mpr ⟨hact, hacts⟩, hlast⟩

lemma working_keeps {acts : List (Action Target)} (h : Working acts) (y : Session Target) :
    (y.run acts).accepted = y.accepted ∧ (y.run acts).stopping = y.stopping := by
  induction acts generalizing y with
  | nil => exact ⟨rfl, rfl⟩
  | cons act acts ih =>
    obtain ⟨hact, hacts⟩ := List.forall_mem_cons.mp h
    obtain ⟨haccepted, hstopping⟩ := ih hacts (y.step act)
    have hstep : (y.step act).accepted = y.accepted ∧ (y.step act).stopping = y.stopping := by
      rcases hact with rfl | rfl | ⟨panics, rfl⟩
      · cases htake : y.dispatcher.take <;> simp [Session.step, htake]
      · cases hfinish : y.dispatcher.finish <;> simp [Session.step, hfinish]
      · cases hnext : y.dispatcher.nextCall? <;> simp [Session.step, hnext]
    exact ⟨haccepted.trans hstep.1, hstopping.trans hstep.2⟩

lemma Tracks.settle (h : Tracks start y p) :
    ∃ y', Tracks start y' p.settle ∧ y'.accepted = y.accepted ∧ y'.stopping = y.stopping := by
  obtain ⟨acts, hacts, htracks⟩ := h.works (fun _ => false) p.workload
  exact ⟨y.run acts, htracks, working_keeps hacts y⟩

lemma Tracks.dispatch (h : Tracks start y p) (r : Record) :
    Tracks start (y.step (.dispatch r false)) (p.dispatch r).2 := by
  have hcalls : (y.step (.dispatch r false)).calls = y.calls := y.calls_note r _
  refine h.step (by simp [Ordinary]) ?_ h.openings ?_
  · rw [Pipeline.dispatch, h.dispatcher]
    rfl
  · rw [Session.callsTo, hcalls]
    exact h.assembly

lemma Tracks.refuse (h : Tracks start y p) (hidle : y.stopping = .idle) :
    Tracks start (y.step .stop) { p with dispatcher := p.dispatcher.refuse } ∧
      (y.step .stop).accepted = y.accepted ∧ (y.step .stop).stopping = .sending := by
  have hopen := h.sound.not_stopped hidle
  have hstep : y.step .stop = { y with dispatcher := y.dispatcher.refuse, stopping := .sending } := by
    rw [Session.step, hopen]
    rfl
  refine ⟨h.step (by simp [Ordinary]) ?_ h.openings ?_, ?_⟩
  · rw [hstep, h.dispatcher]
  · rw [hstep]
    exact h.assembly
  · rw [hstep]
    exact ⟨rfl, rfl⟩

-- the message that ends the worker is not queued before it is sent
lemma Tracks.isStopQueued (h : Tracks start y p) (hsending : y.stopping = .sending) :
    p.dispatcher.isStopQueued = false := by
  obtain ⟨records, hrecords⟩ :=
    h.sound.only_records (by rw [hsending]; decide) (by rw [hsending]; decide)
  rw [h.dispatcher, Dispatcher.isStopQueued, hrecords]
  simp

lemma Tracks.sendStop (h : Tracks start y p) (hsending : y.stopping = .sending) :
    Tracks start (y.step .trySend) p.sendStop ∧
      (y.step .trySend).accepted = y.accepted ∧ (y.step .trySend).stopping ≠ .gaveUp := by
  have hqueued := h.isStopQueued hsending
  rw [Pipeline.sendStop, hqueued, h.dispatcher]
  -- a full queue leaves the session as it is; a worker that is gone needs no message
  cases hsend : y.dispatcher.sendStop with
  | ok d =>
    have hstep : y.step .trySend = { y with dispatcher := d, stopping := .waiting } := by
      simp only [Session.step, hsending, hsend]
    refine ⟨h.step (by simp [Ordinary]) ?_ h.openings ?_, ?_⟩
    · rw [hstep]
      rfl
    · rw [hstep]
      exact h.assembly
    · rw [hstep]
      exact ⟨rfl, by simp⟩
  | error e =>
    have hstep : y.step .trySend = y ∨ y.step .trySend = { y with stopping := .drained } := by
      cases e <;> simp [Session.step, hsending, hsend]
    refine ⟨h.step (by simp [Ordinary]) ?_ h.openings ?_, ?_⟩
    · rcases hstep with heq | heq <;> rw [heq] <;> exact h.dispatcher
    · rcases hstep with heq | heq <;> rw [heq] <;> exact h.assembly
    · rcases hstep with heq | heq <;> rw [heq] <;> simp [hsending]

lemma Tracks.drain (h : Tracks start y p) (hsending : y.stopping = .sending) :
    ∃ y', Tracks start y' p.drain ∧ y'.accepted = y.accepted ∧ y'.stopping ≠ .gaveUp := by
  obtain ⟨y₁, h₁, haccepted₁, hstopping₁⟩ := h.settle
  obtain ⟨h₂, haccepted₂, hstopping₂⟩ := h₁.sendStop (hstopping₁.trans hsending)
  obtain ⟨y₃, h₃, haccepted₃, hstopping₃⟩ := h₂.settle
  refine ⟨y₃, h₃, ?_, ?_⟩
  · rw [haccepted₃, haccepted₂, haccepted₁]
  · rw [hstopping₃]
    exact hstopping₂

lemma pass_dispatcher (p : Pipeline) (time : Nat) : (p.pass time).dispatcher = p.dispatcher := by
  unfold pass
  split <;> rfl

lemma pass_openings (p : Pipeline) (time : Nat) : (p.pass time).openings = p.openings := by
  unfold pass
  split <;> rfl

lemma drainUntil_fst (p : Pipeline) (deadline : Nat) :
    (p.drainUntil deadline).1 =
      (fun q : Pipeline =>
        if q.dispatcher.hasExited then q else { q with dispatcher := q.dispatcher.abandon })
        (waitFor drain (·.dispatcher.hasExited) (some deadline) p.openings p.drain) := by
  rw [drainUntil]
  dsimp only
  split <;> rfl

/-- A pipeline that waited for the end of its worker and did not abandon anything has drained its
queue at once. -/
lemma drainUntil_eq {deadline : Nat} (hopenings : p.openings = [])
    (hdrained : (p.drainUntil deadline).1.dispatcher.isAbandoned = false) :
    (p.drainUntil deadline).1 = { p.drain with openings := [] } ∧
      (p.drainUntil deadline).1.dispatcher.hasExited = true := by
  have hwait := p.drainUntil_fst deadline
  generalize p.drain = q at hwait ⊢
  rw [hopenings, waitFor] at hwait
  cases hexited : q.dispatcher.hasExited with
  | true =>
    have hq : (p.drainUntil deadline).1 = { q with openings := [] } := by
      rw [hwait]
      simp only [hexited, if_true]
    rw [hq]
    exact ⟨rfl, hexited⟩
  | false =>
    have hq : (p.drainUntil deadline).1.dispatcher.isAbandoned = true := by
      rw [hwait]
      simp only [hexited, Bool.false_eq_true, if_false, Option.elim_some, pass_dispatcher]
      rfl
    rw [hq] at hdrained
    cases hdrained

lemma drainUntil_openings (hopenings : p.openings = []) (deadline : Nat) :
    (p.drainUntil deadline).1.openings = [] := by
  have hwait : ∀ q : Pipeline,
      (waitFor drain (·.dispatcher.hasExited) (some deadline) [] q).openings = [] := by
    intro q
    rw [waitFor]
    split
    · rfl
    · exact pass_openings _ _
  rw [drainUntil_fst, hopenings]
  dsimp only
  split <;> exact hwait _

/-- If the clock can show the deadline, whoever stops a dispatcher waits up to that. -/
lemma stop_of_deadline (hopen : p.dispatcher.isStopped = false) {deadline : Nat}
    (hdeadline : p.deadline? = some deadline) :
    p.stop =
      ((drainUntil { p with dispatcher := p.dispatcher.refuse } deadline).1, .returned (),
        (drainUntil { p with dispatcher := p.dispatcher.refuse } deadline).2) := by
  have hsame : deadline? { p with dispatcher := p.dispatcher.refuse } = some deadline := hdeadline
  rw [stop, if_neg (by simp [hopen])]
  simp only [hsame]

/-- Otherwise he breaks down, and has told nobody but those who record. -/
lemma stop_of_no_deadline (hopen : p.dispatcher.isStopped = false) (hdeadline : p.deadline? = none) :
    p.stop = ({ p with dispatcher := p.dispatcher.refuse }, .brokeDown, []) := by
  have hsame : deadline? { p with dispatcher := p.dispatcher.refuse } = none := hdeadline
  rw [stop, if_neg (by simp [hopen])]
  simp only [hsame]

lemma stop_openings (hopenings : p.openings = []) : p.stop.1.openings = [] := by
  cases hopen : p.dispatcher.isStopped with
  | true =>
    rw [stop, if_pos hopen]
    exact hopenings
  | false =>
    cases hdeadline : p.deadline? with
    | none =>
      rw [stop_of_no_deadline hopen hdeadline]
      exact hopenings
    | some deadline =>
      rw [stop_of_deadline hopen hdeadline]
      exact drainUntil_openings (p := { p with dispatcher := p.dispatcher.refuse }) hopenings deadline

/-- Stopping a pipeline delivers what was accepted, unless it takes too long. -/
theorem Tracks.stop (h : Tracks start y p) (hidle : y.stopping = .idle)
    (hdeadline : p.deadline?.isSome = true)
    (hdrained : p.stop.1.dispatcher.isAbandoned = false) :
    ∃ y', Tracks start y' p.stop.1 ∧ y'.accepted = y.accepted ∧ y'.stopping = .drained := by
  have hopen : p.dispatcher.isStopped = false := by
    rw [h.dispatcher]
    exact h.sound.not_stopped hidle
  obtain ⟨deadline, hsome⟩ := Option.isSome_iff_exists.mp hdeadline
  obtain ⟨h₁, haccepted₁, hsending⟩ := h.refuse hidle
  obtain ⟨y₂, h₂, haccepted₂, hstopping₂⟩ := h₁.drain hsending
  rw [stop_of_deadline hopen hsome] at hdrained ⊢
  obtain ⟨hstop, hexited⟩ := drainUntil_eq h₁.openings hdrained
  generalize (drainUntil { p with dispatcher := p.dispatcher.refuse } deadline).1 = q at *
  have hdispatcher : q.dispatcher = y₂.dispatcher := by
    rw [hstop]
    exact h₂.dispatcher
  rw [hdispatcher] at hexited hdrained
  -- the worker has ended, and only has to be noticed
  have hended := (h₂.sound.exited hexited hdrained).1
  have hawait : y₂.step .await = { y₂ with stopping := .drained } := by
    rw [Session.step]
    rcases hended with hwaiting | hnoticed
    · rw [if_pos ⟨hwaiting, hexited⟩]
    · rw [if_neg (by simp [hnoticed]), ← hnoticed]
  refine ⟨y₂.step .await, h₂.step (by simp [Ordinary]) ?_ ?_ ?_, ?_, ?_⟩
  · rw [hawait, hdispatcher]
  · rw [hstop]
  · rw [hawait, hstop]
    exact h₂.assembly
  · rw [hawait]
    exact haccepted₂.trans haccepted₁
  · rw [hawait]

lemma Tracks.callsTo_of_drained (h : Tracks start y p) (hdrained : y.stopping = .drained) :
    y.callsTo .assembler = y.accepted := by
  have hserved := h.served
  obtain ⟨more, hmore, hdelivered⟩ := h.sound.delivered_of_drained hdrained
  rw [h.prompt, List.prefix_nil] at hmore
  rw [hmore, List.append_nil] at hdelivered
  have hexited := h.sound.drained hdrained
  cases hphase : y.dispatcher.phase with
  | waiting => simp [Dispatcher.hasExited, hphase] at hexited
  | delivering r rest => simp [Dispatcher.hasExited, hphase] at hexited
  | exited =>
    simp only [Dispatcher.owed, Session.taken, Dispatcher.inHand, hphase, List.append_nil] at hserved
    exact hserved.trans hdelivered

lemma Tracks.callsTo_of_nothing (h : Tracks start y p) (hidle : y.stopping = .idle)
    (hnothing : y.accepted = []) :
    y.callsTo .assembler = [] ∧ y.dispatcher.inHand = [] ∧ y.dispatcher.queue.items = [] := by
  obtain ⟨lost, -, haccepted⟩ := h.sound.conserved
  obtain ⟨records, hrecords⟩ := h.sound.only_records (by rw [hidle]; decide) (by rw [hidle]; decide)
  rw [hnothing, h.prompt] at haccepted
  simp only [List.append_nil, List.append_eq_nil_iff] at haccepted
  obtain ⟨⟨⟨hdelivered, hinHand⟩, -⟩, hqueued⟩ := haccepted
  have hserved := h.served
  rw [Session.taken, hdelivered, hinHand, List.append_nil, List.append_eq_nil_iff] at hserved
  refine ⟨hserved.1, hinHand, ?_⟩
  rw [Dispatcher.queued, hrecords, Dispatcher.recordsOf_map_record] at hqueued
  rw [hrecords, hqueued]
  rfl

lemma pass_assembly {a : Assembly} (ha : p.assembly = some a) (time : Nat)
    (hdue : ∀ due, p.timer.due? = some due → max p.clock time < due) :
    ∃ nanos, p.pass time =
      { p with assembly := some (a.wait nanos), clock := max p.clock time } := by
  rw [pass, ha]
  refine ⟨max p.clock time - p.clock, ?_⟩
  have hadvance : p.timer.advance a p.clock (max p.clock time) =
      (p.timer, a.wait (max p.clock time - p.clock)) := by
    cases htimer : p.timer with
    | running interval due =>
      have hlate : max p.clock time < due := hdue due (by rw [htimer]; rfl)
      rw [SweepTimer.advance, if_pos hlate]
    | stopped => rfl
    | brokeDown => rfl
  simp only [hadvance]

lemma Tracks.pass (h : Tracks start y p) (time : Nat)
    (hdue : ∀ due, p.timer.due? = some due → max p.clock time < due) :
    Tracks start y (p.pass time) := by
  obtain ⟨a, ha, hfed⟩ := h.assembly
  obtain ⟨nanos, hpass⟩ := pass_assembly ha time hdue
  rw [hpass]
  exact ⟨h.sound, h.prompt, h.once, h.served, h.dispatcher, h.openings, a.wait nanos, rfl,
    hfed.wait nanos⟩

/-- A pipeline whose worker has nothing to do any more, whose timer is stopped, and whose assembler
was shut down after some calls. -/
structure Ended (start : Assembly) (calls : List Assembler.Call) (p : Pipeline) : Prop where
  idle : p.dispatcher.isDelivering = false
  empty : p.dispatcher.hasExited = true ∨ p.dispatcher.queue.items = []
  timer : p.timer = .stopped
  assembly : ∃ a, p.assembly = some a ∧ start.Closed calls a

variable {calls : List Assembler.Call}

/-- A worker without a record in hand does nothing if it has ended or nothing is queued. -/
lemma work?_of_idle (hidle : p.dispatcher.isDelivering = false)
    (hempty : p.dispatcher.hasExited = true ∨ p.dispatcher.queue.items = []) : p.work? = none := by
  cases hphase : p.dispatcher.phase with
  | delivering r rest => simp [Dispatcher.isDelivering, hphase] at hidle
  | exited =>
    simp [Pipeline.work?, Dispatcher.nextCall?, Dispatcher.finish, Dispatcher.take, hphase]
  | waiting =>
    have hitems : p.dispatcher.queue.items = [] := by
      simpa [Dispatcher.hasExited, hphase] using hempty
    simp [Pipeline.work?, Dispatcher.nextCall?, Dispatcher.finish, Dispatcher.take, hphase,
      Channel.take, hitems]

lemma Ended.work? (h : Ended start calls p) : p.work? = none := work?_of_idle h.idle h.empty

lemma Ended.pass (h : Ended start calls p) (time : Nat) : Ended start calls (p.pass time) := by
  obtain ⟨a, ha, hclosed⟩ := h.assembly
  have hdue : p.timer.due? = none := by simp [h.timer, SweepTimer.due?]
  obtain ⟨nanos, hpass⟩ := pass_assembly ha time (by simp [hdue])
  rw [hpass]
  exact ⟨h.idle, h.empty, h.timer, a.wait nanos, rfl, hclosed.wait nanos⟩

lemma work_of_holds {holds : Pipeline → Bool} (h : holds p = true) (n : Nat) : p.work holds n = p := by
  cases n with
  | zero => rfl
  | succ n => rw [Pipeline.work, if_pos h]

/-- Whoever registers a sink waits until no record is in delivery, maybe for ever. -/
lemma register_cases (p : Pipeline) (target : Target) :
    p.betweenRecords.dispatcher.isDelivering = true ∧
        p.register target = (p.betweenRecords, .stuck) ∨
      p.betweenRecords.dispatcher.isDelivering = false ∧
        p.register target =
          ({ p.betweenRecords with dispatcher := p.betweenRecords.dispatcher.register target },
            .returned ()) := by
  rw [register]
  cases p.betweenRecords.dispatcher.isDelivering with
  | true => exact .inl ⟨rfl, rfl⟩
  | false => exact .inr ⟨rfl, rfl⟩

/-- So does whoever unregisters them. -/
lemma clear_cases (p : Pipeline) :
    p.betweenRecords.dispatcher.isDelivering = true ∧ p.clear = (p.betweenRecords, .stuck) ∨
      p.betweenRecords.dispatcher.isDelivering = false ∧
        p.clear =
          ({ p.betweenRecords with dispatcher := p.betweenRecords.dispatcher.clear },
            .returned p.betweenRecords.dispatcher.sinks) := by
  rw [clear]
  cases p.betweenRecords.dispatcher.isDelivering with
  | true => exact .inl ⟨rfl, rfl⟩
  | false => exact .inr ⟨rfl, rfl⟩

lemma register_of_returns {target : Target} (h : (p.register target).2.Returns) :
    (p.register target).1 =
      { p.betweenRecords with dispatcher := p.betweenRecords.dispatcher.register target } := by
  rcases p.register_cases target with ⟨-, heq⟩ | ⟨-, heq⟩
  · rw [heq] at h
    exact absurd h Ending.not_returns_stuck
  · rw [heq]

lemma clear_of_returns (h : p.clear.2.Returns) :
    p.clear.1 = { p.betweenRecords with dispatcher := p.betweenRecords.dispatcher.clear } := by
  rcases p.clear_cases with ⟨-, heq⟩ | ⟨-, heq⟩
  · rw [heq] at h
    exact absurd h Ending.not_returns_stuck
  · rw [heq]

lemma clear_eq (hidle : p.dispatcher.isDelivering = false) (hopenings : p.openings = []) :
    p.clear = ({ p with openings := [], dispatcher := p.dispatcher.clear },
      .returned p.dispatcher.sinks) := by
  have hbetween : p.betweenRecords = { p with openings := [] } := by
    have hholds : (fun p : Pipeline => !p.dispatcher.isDelivering) p = true := by simp [hidle]
    rw [betweenRecords, waitUntil, workUntil, work_of_holds hholds, hopenings, waitFor]
    simp [hidle]
  rcases p.clear_cases with ⟨hdelivering, -⟩ | ⟨-, heq⟩
  · rw [hbetween] at hdelivering
    cases hdelivering.symm.trans hidle
  · rw [heq, hbetween]

lemma isAbandoned_work? (h : p.work? = some p') :
    p'.dispatcher.isAbandoned = p.dispatcher.isAbandoned := by
  rcases work?_cases h with ⟨target, r, hnext, rfl⟩ | ⟨d, hfinish, rfl⟩ | ⟨d, log, htake, rfl⟩
  · obtain ⟨rest, hphase⟩ := Dispatcher.nextCall?_eq_some_iff.mp hnext
    rw [Dispatcher.called_eq hphase]
  · obtain ⟨r, -, rfl⟩ := Dispatcher.finish_cases hfinish
    rfl
  · obtain ⟨m, rest, -, ⟨-, rfl⟩ | ⟨-, -, rfl⟩ | ⟨r, -, -, rfl⟩⟩ := Dispatcher.take_cases htake <;> rfl

lemma isAbandoned_work (holds : Pipeline → Bool) (n : Nat) (p : Pipeline) :
    (p.work holds n).dispatcher.isAbandoned = p.dispatcher.isAbandoned := by
  induction n generalizing p with
  | zero => rfl
  | succ n ih =>
    rw [Pipeline.work]
    split
    · rfl
    · split
      · rfl
      · rename_i p' hwork
        rw [ih, isAbandoned_work? hwork]

/-- Whoever changes the sinks waits first, and changes only them, or nothing at all. -/
lemma register_fst (p : Pipeline) (target : Target) : ∃ sinks, (p.register target).1 =
    { p.betweenRecords with dispatcher := { p.betweenRecords.dispatcher with sinks } } := by
  rcases p.register_cases target with ⟨-, heq⟩ | ⟨-, heq⟩ <;> rw [heq] <;> exact ⟨_, rfl⟩

lemma clear_fst (p : Pipeline) : ∃ sinks,
    p.clear.1 = { p.betweenRecords with dispatcher := { p.betweenRecords.dispatcher with sinks } } := by
  rcases p.clear_cases with ⟨-, heq⟩ | ⟨-, heq⟩ <;> rw [heq] <;> exact ⟨_, rfl⟩

lemma isAbandoned_clear (hopenings : p.openings = []) :
    p.clear.1.dispatcher.isAbandoned = p.dispatcher.isAbandoned := by
  have hbetween : p.betweenRecords.dispatcher.isAbandoned = p.dispatcher.isAbandoned := by
    rw [betweenRecords, waitUntil, hopenings, waitFor]
    split <;> exact isAbandoned_work _ _ p
  obtain ⟨sinks, hclear⟩ := p.clear_fst
  rw [hclear]
  exact hbetween

lemma shutdownSink_probe (p : Pipeline) (i : Nat) : ∃ probes result events,
    p.shutdownSink (.probe i) = ({ p with probes }, .returned result, events) := by
  rw [shutdownSink]
  split
  · exact ⟨p.probes, _, _, rfl⟩
  · exact ⟨_, _, _, rfl⟩

lemma shutdownSink_assembler {a : Assembly} (ha : p.assembly = some a) :
    p.shutdownSink .assembler = ({ p with assembly := some a.shutdown.1 }, a.shutdown.2) := by
  rw [shutdownSink, ha]

/-- What shutting down any sink leaves is left by shutting down several. -/
lemma shutdownSinks_induct {P : Pipeline → Prop}
    (hstep : ∀ p target, P p → P (p.shutdownSink target).1) (hp : P p) (errors : List TraceError)
    (targets : List Target) : P (p.shutdownSinks errors targets).1 := by
  induction targets generalizing p errors with
  | nil => exact hp
  | cons target targets ih =>
    have hone := hstep p target hp
    rw [shutdownSinks]
    generalize p.shutdownSink target = called at hone
    obtain ⟨q, ending, events⟩ := called
    cases ending with
    | returned result => exact ih hone (gather errors result)
    | brokeDown | stuck => exact hone

lemma shutdownSinks_dispatcher (p : Pipeline) (errors : List TraceError) (targets : List Target) :
    (p.shutdownSinks errors targets).1.dispatcher = p.dispatcher := by
  refine shutdownSinks_induct (P := (·.dispatcher = p.dispatcher)) (fun q target hq => ?_) rfl
    errors targets
  cases target with
  | probe i =>
    obtain ⟨probes, result, events, hprobes⟩ := q.shutdownSink_probe i
    rw [hprobes]
    exact hq
  | assembler =>
    rw [shutdownSink]
    split <;> exact hq

/-- Sinks that are shut down after the assembler was, which it may be among, change it no more. -/
lemma shutdownSinks_again {a : Assembly} (ha : p.assembly = some a)
    (hshut : a.assembler.isShutdown = true) (errors : List TraceError) (targets : List Target) :
    ∃ probes, (p.shutdownSinks errors targets).1 = { p with probes } := by
  refine shutdownSinks_induct (P := fun q => ∃ probes, q = { p with probes }) ?_ ⟨p.probes, rfl⟩
    errors targets
  rintro q target ⟨probes, rfl⟩
  cases target with
  | probe i =>
    obtain ⟨probes', result, events, hprobes⟩ := ({ p with probes } : Pipeline).shutdownSink_probe i
    rw [hprobes]
    exact ⟨probes', rfl⟩
  | assembler =>
    have hsame : ({ p with probes } : Pipeline).assembly = some a := ha
    rw [shutdownSink_assembler hsame, Assembly.shutdown_again hshut]
    exact ⟨probes, by rw [ha]⟩

/-- However many sinks are shut down, the assembler among them is shut down once. -/
lemma shutdownSinks_eq {a : Assembly} (ha : p.assembly = some a) {targets : List Target}
    (hmem : .assembler ∈ targets) (errors : List TraceError) : ∃ probes,
    (p.shutdownSinks errors targets).1 = { p with probes, assembly := some a.shutdown.1 } := by
  induction targets generalizing p errors with
  | nil => simp at hmem
  | cons target targets ih =>
    rw [shutdownSinks]
    cases target with
    | probe i =>
      have hrest : .assembler ∈ targets := by simpa using hmem
      obtain ⟨probes, result, events, hprobes⟩ := shutdownSink_probe p i
      rw [hprobes]
      exact ih (p := { p with probes }) ha hrest (gather errors result)
    | assembler =>
      rw [shutdownSink_assembler ha]
      have hshut := Assembly.isShutdown_shutdown a
      generalize a.shutdown = called at hshut
      obtain ⟨b, ending, events⟩ := called
      -- it goes on with the other sinks only if the assembler comes back
      cases ending with
      | returned result => exact shutdownSinks_again rfl hshut (gather errors result) targets
      | brokeDown | stuck => exact ⟨p.probes, rfl⟩

end Pipeline

end TracePipeline
