import Mathlib.Data.List.Nodup
import TracePipeline.Proofs.Pipeline.Feeding

/-!
# Stopping delivers what is queued

A pipeline that is told to stop goes on with its worker until that has ended or the time is up;
meanwhile gates may open. If the worker has ended, every registered sink was fed what it was still
owed and then what was queued, in this order.
-/

namespace TracePipeline

namespace Dispatcher

namespace Session

variable {ι : Type} {y y' : Session ι} {act : Action ι}

/-- As long as somebody waits for the end of the worker, this has ended or the message for it is
queued. -/
def Awaited (y : Session ι) : Prop :=
  y.stopping = .waiting → y.dispatcher.hasExited = true ∨ y.dispatcher.isStopQueued = true

lemma Turn.awaited (hturn : y.Turn act y') (h : y.Sound) (hawaited : y.Awaited) : y'.Awaited := by
  cases hturn with
  | takes r rest hready _ =>
    intro hwaiting
    rcases hawaited hwaiting with hexited | hqueued
    · simp [hasExited, hready.phase] at hexited
    · right
      simpa [isStopQueued, taking, hready.items] using hqueued
  | discards _ _ _ _ | ends _ _ => exact fun _ => .inl rfl
  | calls _ _ _ _ hphase | finishes _ hphase =>
    intro hwaiting
    rcases hawaited hwaiting with hexited | hqueued
    · simp [hasExited, hphase] at hexited
    · exact .inr hqueued
  | accepts _ _ hstop _ =>
    intro hwaiting
    rw [h.idle_of_not_stopped hstop] at hwaiting
    cases hwaiting
  | acceptsLate r _ _ =>
    intro hwaiting
    rcases hawaited hwaiting with hexited | hqueued
    · exact .inl hexited
    · right
      rw [isStopQueued] at hqueued
      simp [isStopQueued, putting, hqueued]
  | sends _ _ =>
    intro _
    right
    simp [isStopQueued, putting]
  | refuses _ | findsClosed _ _ | findsEnd _ _ | givesUp _ =>
    intro hwaiting
    cases hwaiting
  | drops _ _ _ | registers _ | clears => exact hawaited

lemma Turn.keeps (hturn : y.Turn act y') (hclear : act ≠ .clear)
    (hregister : ∀ i, act ≠ .register i)
    (hdispatch : ∀ r lookedBefore, act ≠ .dispatch r lookedBefore) :
    y'.dispatcher.sinks = y.dispatcher.sinks ∧ y'.accepted = y.accepted ∧ y'.late = y.late := by
  cases hturn with
  | accepts r lookedBefore _ _ => exact absurd rfl (hdispatch r lookedBefore)
  | acceptsLate r _ _ => exact absurd rfl (hdispatch r true)
  | registers i => exact absurd rfl (hregister i)
  | clears => exact absurd rfl hclear
  | _ => exact ⟨rfl, rfl, rfl⟩

end Session

end Dispatcher

namespace Pipeline

open Dispatcher (Session)

/-- A pipeline that was not stopped yet, as the beginning of a session. -/
def session (p : Pipeline) : Session Target :=
  ⟨p.dispatcher, .idle, p.dispatcher.inHand ++ p.dispatcher.queued, [], [], []⟩

/-- What a sink is to be called with: the record in hand if it was not called with that yet, and if
it is registered what is queued. -/
def due (p : Pipeline) (target : Target) : List Record :=
  p.dispatcher.owed target ++ if target ∈ p.dispatcher.sinks then p.dispatcher.queued else []

/-- A pipeline `q` that came from `p` by turns of the worker, of the gates, of the clock and of the
one who stops the dispatcher. -/
structure Follows (p q : Pipeline) (y : Session Target) : Prop where
  sound : y.Sound
  awaited : y.Awaited
  serves : ∀ target, Session.Serves target p.session y
  sinks : y.dispatcher.sinks = p.dispatcher.sinks
  accepted : y.accepted = p.session.accepted
  prompt : y.late = []
  dispatcher : q.dispatcher = y.dispatcher
  probes : ∀ i : Nat, ∃ inputs, q.probes[i]? = p.probes[i]?.map (·.feed inputs) ∧
    inputs.filterMap Probe.Input.record? = y.callsTo (.probe i)
  assembly : ∃ inputs, q.assembly = p.assembly.map (·.feed inputs) ∧
    inputs.filterMap Assembly.Input.record? = y.callsTo .assembler

/-- Turns that neither change the registered sinks nor bring a record. -/
def IsInner (act : Dispatcher.Action Target) : Prop :=
  act ≠ .clear ∧ (∀ target, act ≠ .register target) ∧
    ∀ r lookedBefore, act ≠ .dispatch r lookedBefore

variable {p q q' : Pipeline} {y : Session Target}

lemma sound_session (h : y.Sound) (hidle : y.stopping = .idle) (hp : p.dispatcher = y.dispatcher) :
    p.session.Sound := by
  have hstopped := h.stopped
  have habandoned := h.abandoned
  rw [hidle] at hstopped habandoned
  have hexited := h.not_exited hidle
  obtain ⟨records, hrecords⟩ := h.only_records (by rw [hidle]; decide) (by rw [hidle]; decide)
  rw [session, hp]
  exact
    { capacity := h.capacity
      bounded := h.bounded
      unmet := h.unmet
      isOpen := h.isOpen
      stop_once := .inl ⟨records, hrecords⟩
      stopped := hstopped
      abandoned := habandoned
      exited := fun htrue => by simp [hexited] at htrue
      drained := fun hdrained => by cases hdrained
      prompt := fun _ => rfl
      conserved := ⟨none, by simp, by simp⟩ }

lemma Follows.refl (h : p.session.Sound) : Follows p p p.session where
  sound := h
  awaited hwaiting := by cases hwaiting
  serves target := .refl target p.session
  sinks := rfl
  accepted := rfl
  prompt := rfl
  dispatcher := rfl
  probes _ := ⟨[], Option.map_id'.symm, rfl⟩
  assembly := ⟨[], Option.map_id'.symm, rfl⟩

lemma Follows.trans (h : Follows p q y) {y' : Session Target} (hsound : y'.Sound)
    (hawaited : y'.Awaited) (hserves : ∀ target, Session.Serves target y y')
    (hsinks : y'.dispatcher.sinks = y.dispatcher.sinks) (haccepted : y'.accepted = y.accepted)
    (hlate : y'.late = y.late) (hdispatcher : q'.dispatcher = y'.dispatcher)
    (hprobes : ∀ i : Nat, ∃ inputs, q'.probes[i]? = q.probes[i]?.map (·.feed inputs) ∧
      y.callsTo (.probe i) ++ inputs.filterMap Probe.Input.record? = y'.callsTo (.probe i))
    (hassembly : ∃ inputs, q'.assembly = q.assembly.map (·.feed inputs) ∧
      y.callsTo .assembler ++ inputs.filterMap Assembly.Input.record? = y'.callsTo .assembler) :
    Follows p q' y' := by
  refine
    { sound := hsound
      awaited := hawaited
      serves := fun target => (h.serves target).trans (hserves target)
      sinks := hsinks.trans h.sinks
      accepted := haccepted.trans h.accepted
      prompt := hlate.trans h.prompt
      dispatcher := hdispatcher
      probes := fun i => ?_
      assembly := ?_ }
  · obtain ⟨inputs, hq, hrecords⟩ := h.probes i
    obtain ⟨more, hq', hmore⟩ := hprobes i
    refine ⟨inputs ++ more, ?_, ?_⟩
    · rw [hq', hq, Probe.map_feed_feed]
    · rw [List.filterMap_append, hrecords, hmore]
  · obtain ⟨inputs, hq, hrecords⟩ := h.assembly
    obtain ⟨more, hq', hmore⟩ := hassembly
    refine ⟨inputs ++ more, ?_, ?_⟩
    · rw [hq', hq, Assembly.map_feed_feed]
    · rw [List.filterMap_append, hrecords, hmore]

/-- A turn of the dispatcher, with what it feeds the sinks. -/
lemma Follows.step (h : Follows p q y) {act : Dispatcher.Action Target} (hinner : IsInner act)
    (hdispatcher : q'.dispatcher = (y.step act).dispatcher)
    (hprobes : ∀ i : Nat, ∃ inputs, q'.probes[i]? = q.probes[i]?.map (·.feed inputs) ∧
      y.callsTo (.probe i) ++ inputs.filterMap Probe.Input.record? =
        (y.step act).callsTo (.probe i))
    (hassembly : ∃ inputs, q'.assembly = q.assembly.map (·.feed inputs) ∧
      y.callsTo .assembler ++ inputs.filterMap Assembly.Input.record? =
        (y.step act).callsTo .assembler) :
    Follows p q' (y.step act) := by
  have hserves : ∀ target, Session.Serves target y (y.step act) := fun target =>
    h.sound.serves [act] fun act' hact => by
      rw [List.mem_singleton.mp hact]
      exact ⟨hinner.1, hinner.2.1 target⟩
  have hturn := Session.step_turn h.sound.unmet act
  have hkept : (y.step act).Awaited ∧ (y.step act).dispatcher.sinks = y.dispatcher.sinks ∧
      (y.step act).accepted = y.accepted ∧ (y.step act).late = y.late := by
    rcases hturn with heq | hturn
    · rw [heq]
      exact ⟨h.awaited, rfl, rfl, rfl⟩
    · exact ⟨hturn.awaited h.sound h.awaited, hturn.keeps hinner.1 hinner.2.1 hinner.2.2⟩
  obtain ⟨hawaited, hsinks, haccepted, hlate⟩ := hkept
  exact h.trans (h.sound.step act) hawaited hserves hsinks haccepted hlate hdispatcher hprobes
    hassembly

/-- A turn that is no call of a sink. -/
lemma Follows.turn (h : Follows p q y) {act : Dispatcher.Action Target} (hinner : IsInner act)
    (hcalls : (y.step act).calls = y.calls)
    (hdispatcher : q'.dispatcher = (y.step act).dispatcher) (hprobes : q'.probes = q.probes)
    (hassembly : q'.assembly = q.assembly) : Follows p q' (y.step act) := by
  have hsame : ∀ target, (y.step act).callsTo target = y.callsTo target := fun target => by
    rw [Session.callsTo, hcalls]
    rfl
  refine h.step hinner hdispatcher (fun i => ⟨[], ?_, ?_⟩) ⟨[], ?_, ?_⟩
  · rw [hprobes]
    exact Option.map_id'.symm
  · rw [hsame]
    exact List.append_nil _
  · rw [hassembly]
    exact Option.map_id'.symm
  · rw [hsame]
    exact List.append_nil _

/-- What happens to the sinks besides calls. -/
lemma Follows.besides (h : Follows p q y) (hdispatcher : q'.dispatcher = q.dispatcher)
    (hprobes : ∀ i : Nat, ∃ inputs, q'.probes[i]? = q.probes[i]?.map (·.feed inputs) ∧
      inputs.filterMap Probe.Input.record? = [])
    (hassembly : ∃ inputs, q'.assembly = q.assembly.map (·.feed inputs) ∧
      inputs.filterMap Assembly.Input.record? = []) : Follows p q' y := by
  refine h.trans h.sound h.awaited (fun target => .refl target y) rfl rfl rfl
    (hdispatcher.trans h.dispatcher) (fun i => ?_) ?_
  · obtain ⟨inputs, hfeed, hrecords⟩ := hprobes i
    exact ⟨inputs, hfeed, by rw [hrecords, List.append_nil]⟩
  · obtain ⟨inputs, hfeed, hrecords⟩ := hassembly
    exact ⟨inputs, hfeed, by rw [hrecords, List.append_nil]⟩

lemma Follows.congr (h : Follows p q y) (hdispatcher : q'.dispatcher = q.dispatcher)
    (hprobes : q'.probes = q.probes) (hassembly : q'.assembly = q.assembly) : Follows p q' y := by
  refine h.besides hdispatcher (fun i => ⟨[], ?_, rfl⟩) ⟨[], ?_, rfl⟩
  · rw [hprobes]
    exact Option.map_id'.symm
  · rw [hassembly]
    exact Option.map_id'.symm

lemma Follows.pass (h : Follows p q y) (time : Nat) : Follows p (q.pass time) y := by
  obtain ⟨hprobes, hassembly⟩ := q.pass_feeds time
  refine h.besides (pass_dispatcher q time) (fun i => ⟨[], ?_, rfl⟩) hassembly
  rw [hprobes]
  exact Option.map_id'.symm

lemma Follows.setGate (h : Follows p q y) (i : Nat) (isOpen : Bool) :
    Follows p (q.modifyProbe i (·.setOpen isOpen)) y := by
  refine h.besides rfl (fun j => ?_) ⟨[], Option.map_id'.symm, rfl⟩
  rw [modifyProbe, List.getElem?_modify]
  by_cases hij : i = j
  · exact ⟨[.setOpen isOpen], by simp [hij, Probe.feed, Probe.take], rfl⟩
  · exact ⟨[], by simp [hij, Probe.feed], rfl⟩

/-- What the worker does. -/
lemma Follows.work? (h : Follows p q y) (hwork : q.work? = some q') :
    ∃ y', Follows p q' y' ∧ y'.stopping = y.stopping := by
  rcases work?_cases hwork with ⟨target, r, hnext, rfl⟩ | ⟨d, hfinish, rfl⟩ | ⟨d, log, htake, rfl⟩
  · rw [h.dispatcher] at hnext
    have hstep : y.step (.call false) =
        { y with dispatcher := y.dispatcher.called, calls := y.calls ++ [⟨target, r, false⟩] } := by
      rw [Session.step, hnext]
      rfl
    obtain ⟨hprobes, hassembly⟩ := q.call_feeds r target
    refine ⟨y.step (.call false), h.step (by simp [IsInner]) ?_ (fun i => ?_) ?_, ?_⟩
    · rw [hstep, h.dispatcher]
    · refine ⟨_, hprobes i, ?_⟩
      rw [hstep, Session.callsTo_concat]
      split <;> rfl
    · refine ⟨_, hassembly, ?_⟩
      rw [hstep, Session.callsTo_concat]
      split <;> rfl
    · rw [hstep]
  · have hstep : y.step .finish =
        { y with dispatcher := d, delivered := y.delivered ++ y.dispatcher.inHand } := by
      rw [Session.step, ← h.dispatcher, hfinish]
      rfl
    refine ⟨y.step .finish, h.turn (by simp [IsInner]) ?_ ?_ rfl rfl, ?_⟩ <;> rw [hstep]
  · have hstep : y.step .take = { y with dispatcher := d } := by
      rw [Session.step, ← h.dispatcher, htake]
      rfl
    refine ⟨y.step .take, h.turn (by simp [IsInner]) ?_ ?_ rfl rfl, ?_⟩ <;> rw [hstep]

/-- Neither the worker nor the gates nor the clock care how far the one has come who stops the
dispatcher. -/
theorem steady_follows (p : Pipeline) (S : Dispatcher.Stopping → Prop) :
    Steady fun q => ∃ y, Follows p q y ∧ S y.stopping where
  work? := by
    rintro q q' ⟨y, h, hy⟩ hwork
    obtain ⟨y', h', hsame⟩ := h.work? hwork
    exact ⟨y', h', hsame ▸ hy⟩
  pass := by
    rintro q time ⟨y, h, hy⟩
    exact ⟨y, h.pass time, hy⟩
  setGate := by
    rintro q i isOpen ⟨y, h, hy⟩
    exact ⟨y, h.setGate i isOpen, hy⟩
  setOpenings := by
    rintro q openings ⟨y, h, hy⟩
    exact ⟨y, h.congr rfl rfl rfl, hy⟩

/-- The dispatcher is being stopped, and the one who does so has not given up. -/
def IsEnding (s : Dispatcher.Stopping) : Prop := s = .sending ∨ s = .waiting ∨ s = .drained

/-- The message that ends the worker is not sent again. -/
lemma Follows.sendStop_again (h : Follows p q y) (hsent : y.stopping ≠ .sending)
    (hending : IsEnding y.stopping) : q.sendStop = q := by
  rw [Pipeline.sendStop]
  split
  · rfl
  · rename_i hqueued
    have hexited : y.dispatcher.hasExited = true := by
      rcases hending with hsending | hwaiting | hdrained
      · exact absurd hsending hsent
      · rcases h.awaited hwaiting with hexited | hstop
        · exact hexited
        · exact absurd (h.dispatcher ▸ hstop) hqueued
      · exact h.sound.drained hdrained
    have hclosed : y.dispatcher.queue.isOpen = false := by rw [h.sound.isOpen, hexited]; rfl
    simp [Dispatcher.sendStop, h.dispatcher, Channel.trySend, hclosed, Except.map]

lemma Follows.sendStop (h : Follows p q y) (hending : IsEnding y.stopping) :
    ∃ y', Follows p q.sendStop y' ∧ IsEnding y'.stopping := by
  by_cases hsending : y.stopping = .sending
  · rw [Pipeline.sendStop]
    split
    · exact ⟨y, h, hending⟩
    · split
      · rename_i d hsend
        rw [h.dispatcher] at hsend
        have hstep : y.step .trySend = { y with dispatcher := d, stopping := .waiting } := by
          simp only [Session.step, hsending, hsend]
        refine ⟨y.step .trySend, h.turn (by simp [IsInner]) ?_ ?_ rfl rfl, ?_⟩
        · rw [hstep]
        · rw [hstep]
        · rw [hstep]
          exact .inr (.inl rfl)
      · exact ⟨y, h, hending⟩
  · rw [h.sendStop_again hsending hending]
    exact ⟨y, h, hending⟩

lemma Follows.drain (h : Follows p q y) (hending : IsEnding y.stopping) :
    ∃ y', Follows p q.drain y' ∧ IsEnding y'.stopping := by
  have hsteady := steady_follows p IsEnding
  obtain ⟨y₁, h₁, hending₁⟩ := hsteady.settle ⟨y, h, hending⟩
  exact hsteady.settle (h₁.sendStop hending₁)

/-- Whoever stops a pipeline first sees to it that no more records are accepted. -/
lemma follows_refuse (h : p.session.Sound) :
    ∃ y, Follows p { p with dispatcher := p.dispatcher.refuse } y ∧ IsEnding y.stopping := by
  have hopen : p.dispatcher.isStopped = false := h.not_stopped rfl
  have hstep : p.session.step .stop =
      { p.session with dispatcher := p.dispatcher.refuse, stopping := .sending } := by
    rw [Session.step, session, hopen]
    rfl
  refine ⟨p.session.step .stop, (Follows.refl h).turn (by simp [IsInner]) ?_ ?_ rfl rfl, ?_⟩ <;>
    rw [hstep]
  exact .inl rfl

/-- Once he does not wait any longer, he sees whether the worker has ended, and gives up if it has
not. -/
lemma Follows.looks (h : Follows p q y) (hending : IsEnding y.stopping) :
    ∃ y', Follows p (if q.dispatcher.hasExited then q
        else { q with dispatcher := q.dispatcher.abandon }) y' ∧
      (y'.stopping = .drained ∨ y'.stopping = .gaveUp) := by
  cases hexited : q.dispatcher.hasExited with
  | true =>
    have hgo : y.dispatcher.isAbandoned = false :=
      h.sound.not_abandoned (by rcases hending with h | h | h <;> simp [h])
    rw [h.dispatcher] at hexited
    rcases (h.sound.exited hexited hgo).1 with hwaiting | hdrained
    · have hstep : y.step .await = { y with stopping := .drained } := by
        rw [Session.step, if_pos ⟨hwaiting, hexited⟩]
      refine ⟨y.step .await, h.turn (by simp [IsInner]) ?_ ?_ rfl rfl, .inl ?_⟩
      · rw [hstep]
      · rw [hstep]
        exact h.dispatcher
      · rw [hstep]
    · exact ⟨y, h, .inl hdrained⟩
  | false =>
    have hstopping : y.stopping = .sending ∨ y.stopping = .waiting := by
      rw [h.dispatcher] at hexited
      rcases hending with hsending | hwaiting | hdrained
      · exact .inl hsending
      · exact .inr hwaiting
      · exact absurd hdrained (h.sound.not_drained hexited)
    have hstep : y.step .deadline =
        { y with dispatcher := y.dispatcher.abandon, stopping := .gaveUp } := by
      rw [Session.step, if_pos hstopping]
    refine ⟨y.step .deadline, h.turn (by simp [IsInner]) ?_ ?_ rfl rfl, .inr ?_⟩
    · rw [hstep]
    · rw [hstep, ← h.dispatcher]
      rfl
    · rw [hstep]

/-- Whoever stops a pipeline, and does not break down, finds the end of the worker or gives up. -/
theorem follows_stop (h : p.session.Sound) (hdeadline : p.deadline?.isSome = true) :
    ∃ y, Follows p p.stop.1 y ∧ (y.stopping = .drained ∨ y.stopping = .gaveUp) := by
  obtain ⟨deadline, hsome⟩ := Option.isSome_iff_exists.mp hdeadline
  obtain ⟨y, hrefused, hsending⟩ := follows_refuse h
  have hdrain : ∀ q, (∃ y, Follows p q y ∧ IsEnding y.stopping) →
      ∃ y, Follows p q.drain y ∧ IsEnding y.stopping := by
    rintro q ⟨y, hy, hending⟩
    exact hy.drain hending
  obtain ⟨y', hwaited, hending⟩ := (steady_follows p IsEnding).waitFor hdrain
    (·.dispatcher.hasExited) (some deadline) p.openings (hrefused.drain hsending)
  rw [stop_of_deadline (h.not_stopped rfl) hsome, drainUntil_fst]
  exact hwaited.looks hending

/-- A sink was called with what it is owed, and with what the worker has taken since; at most one
record was taken and not delivered, by a worker that was told to abandon the rest. -/
lemma Follows.callsTo (h : Follows p q y) (hdistinct : p.dispatcher.sinks.Nodup) (target : Target) :
    ∃ new, ∃ lost : Option Record, (y.dispatcher.isAbandoned = false → lost = none) ∧
      new ++ lost.toList ++ y.dispatcher.queued = p.dispatcher.queued ∧
      y.callsTo target ++ y.dispatcher.owed target =
        p.dispatcher.owed target ++ if target ∈ p.dispatcher.sinks then new else [] := by
  obtain ⟨-, new, htaken, hcalls⟩ := h.serves target
  obtain ⟨lost, hlost, hconserved⟩ := h.sound.conserved
  refine ⟨new, lost, fun hgo => ?_, ?_, ?_⟩
  · cases lost with
    | none => rfl
    | some r => simp [(hlost rfl).2] at hgo
  · rw [← Session.taken, htaken, h.accepted, h.prompt] at hconserved
    simpa [session, Session.taken, List.append_assoc] using hconserved
  · rw [hcalls]
    have hstart : p.session.callsTo target = [] := rfl
    rw [hstart, List.nil_append]
    congr 1
    by_cases hmem : target ∈ p.dispatcher.sinks
    · have honce : p.session.dispatcher.sinks.count target = 1 :=
        List.count_eq_one_of_mem hdistinct hmem
      rw [honce, if_pos hmem]
      exact List.flatMap_singleton' new
    · have hnever : p.session.dispatcher.sinks.count target = 0 := List.count_eq_zero.mpr hmem
      rw [hnever, if_neg hmem]
      simp

/-- Once the end of the worker was found, every sink was called with what was due to it. -/
theorem Follows.delivered (h : Follows p q y) (hdistinct : p.dispatcher.sinks.Nodup)
    (hdrained : y.stopping = .drained) (target : Target) : y.callsTo target = p.due target := by
  have hexited := h.sound.drained hdrained
  have hgo := h.sound.not_abandoned (by rw [hdrained]; decide)
  have hempty : y.dispatcher.queued = [] := by
    obtain ⟨-, behind, hbehind, hitems⟩ := h.sound.exited hexited hgo
    rw [h.prompt, List.suffix_nil] at hbehind
    rw [Dispatcher.queued, hitems, hbehind]
    rfl
  have hnothing : y.dispatcher.owed target = [] := by
    cases hphase : y.dispatcher.phase <;> simp_all [Dispatcher.hasExited, Dispatcher.owed]
  obtain ⟨new, lost, hlost, hnew, hcalls⟩ := h.callsTo hdistinct target
  rw [hlost hgo, hempty, Option.toList_none, List.append_nil, List.append_nil] at hnew
  rw [hnothing, List.append_nil, hnew] at hcalls
  exact hcalls

/-- A worker that has nothing to do calls nobody. -/
theorem Follows.undisturbed (h : Follows p q y) (hdistinct : p.dispatcher.sinks.Nodup)
    (hphase : p.dispatcher.phase = .waiting) (hitems : p.dispatcher.queue.items = [])
    (target : Target) : y.callsTo target = p.due target := by
  have hempty : p.dispatcher.queued = [] := by
    rw [Dispatcher.queued, hitems]
    rfl
  have hnothing : p.dispatcher.owed target = [] := by rw [Dispatcher.owed, hphase]
  obtain ⟨new, lost, -, hnew, hcalls⟩ := h.callsTo hdistinct target
  rw [hempty, List.append_eq_nil_iff, List.append_eq_nil_iff] at hnew
  rw [hnothing, hnew.1.1, ite_self, List.append_nil, List.append_eq_nil_iff] at hcalls
  rw [due, hnothing, hempty, ite_self, hcalls.1]
  rfl

end Pipeline

end TracePipeline
