import TracePipeline.Proofs.Pipeline

/-!
# Filters that let everything pass

A pipeline whose records were all decided for does the same with and without a sampler in front of
its assembler, whatever happens to it: the worker goes on, time passes, it is stopped and shut down.
-/

namespace TracePipeline

namespace Assembly

/-- The assembly without a sampler. -/
def bare (a : Assembly) : Assembly := { a with sampler := none }

lemma admits_of_sampled (a : Assembly) {r : Record} (h : r.flags.status = .sampled) :
    a.admits r = true := by
  rw [admits]
  cases a.sampler with
  | none => rfl
  | some s => simp only [Sampler.admits, h]

lemma record_bare (a : Assembly) {r : Record} (h : r.flags.status = .sampled) :
    a.bare.record r = ((a.record r).1.bare, (a.record r).2) := by
  rw [record, record, admits_of_sampled a h, admits_of_sampled a.bare h]
  rfl

lemma handOverEach_bare (a : Assembly) (assembler : Assembler) (out : Handover) :
    a.bare.handOverEach assembler out =
      ((a.handOverEach assembler out).1.bare, (a.handOverEach assembler out).2) := by
  have hprocessor : a.bare.processor = a.processor := rfl
  unfold handOverEach
  rw [hprocessor]
  split <;> rfl

lemma sweep_bare (a : Assembly) (now : UInt64) :
    a.bare.sweep now = ((a.sweep now).1.bare, (a.sweep now).2) := by
  have hassembler : a.bare.assembler = a.assembler := rfl
  unfold sweep
  rw [hassembler]
  dsimp only
  rw [handOverEach_bare]

lemma shutdown_bare (a : Assembly) : a.bare.shutdown = (a.shutdown.1.bare, a.shutdown.2) := by
  have hassembler : a.bare.assembler = a.assembler := rfl
  unfold shutdown
  rw [hassembler]
  split
  · rfl
  · rw [handOverEach_bare]
    exact Ending.andThen_congr bare _ _ _ fun _ => rfl

end Assembly

namespace SweepTimer

lemma sweep_bare (interval : Duration) (a : Assembly) (time : Nat) :
    sweep interval a.bare time = ((sweep interval a time).1, (sweep interval a time).2.bare) := by
  rw [sweep, sweep, Assembly.sweep_bare]

lemma advance_bare (t : SweepTimer) (a : Assembly) (now time : Nat) :
    t.advance a.bare now time = ((t.advance a now time).1, (t.advance a now time).2.bare) := by
  have hwait : ∀ (b : Assembly) (nanos : Nat), b.bare.wait nanos = (b.wait nanos).bare :=
    fun _ _ => rfl
  cases t with
  | stopped => rfl
  | brokeDown => rfl
  | running interval due =>
    rw [advance, advance]
    split
    · rfl
    · rw [hwait, sweep_bare]
      generalize sweep interval (a.wait (due - now)) due = swept
      obtain ⟨timer, b⟩ := swept
      cases timer with
      | stopped => rfl
      | brokeDown => rfl
      | running interval' next =>
        dsimp only
        split
        · rfl
        · rw [hwait, sweep_bare]
          rfl

end SweepTimer

namespace Pipeline

/-- The pipeline without a sampler in front of its assembler. -/
def bare (p : Pipeline) : Pipeline := { p with assembly := p.assembly.map Assembly.bare }

/-- It was decided to sample the records that wait for delivery. -/
structure Sampled (p : Pipeline) : Prop where
  queued : ∀ r, .record r ∈ p.dispatcher.queue.items → r.flags.status = .sampled
  inHand : ∀ r rest, p.dispatcher.phase = .delivering r rest → r.flags.status = .sampled

/-- What happens to a pipeline happens to it without the sampler, too. -/
def Blind (f : Pipeline → Pipeline) : Prop :=
  ∀ p : Pipeline, p.Sampled → (f p).Sampled ∧ f p.bare = (f p).bare

/-- What happens to a pipeline in a call, and what comes of the call. -/
def BlindCall {α : Type} (f : Pipeline → Pipeline × α) : Prop :=
  ∀ p : Pipeline, p.Sampled → (f p).1.Sampled ∧ f p.bare = ((f p).1.bare, (f p).2)

variable {f g : Pipeline → Pipeline} {holds : Pipeline → Bool} {p p' : Pipeline}

lemma Blind.comp (hg : Blind g) (hf : Blind f) : Blind fun p => g (f p) := by
  intro p hp
  obtain ⟨hfp, hfbare⟩ := hf p hp
  obtain ⟨hgp, hgbare⟩ := hg (f p) hfp
  exact ⟨hgp, (congrArg g hfbare).trans hgbare⟩

lemma BlindCall.andThen {α β : Type} {f : Pipeline → Pipeline × Ending α × List Event}
    {next : Pipeline → α → Pipeline × Ending β × List Event} (hf : BlindCall f)
    (hnext : ∀ value, BlindCall (next · value)) : BlindCall fun p => Ending.andThen (f p) next := by
  intro p hp
  obtain ⟨hfp, hfbare⟩ := hf p hp
  dsimp only
  rw [hfbare]
  refine ⟨?_, Ending.andThen_congr bare _ _ _ fun value => (hnext value _ hfp).2⟩
  generalize f p = called at hfp
  obtain ⟨q, ending, events⟩ := called
  cases ending with
  | returned value => exact (hnext value q hfp).1
  | brokeDown | stuck => exact hfp

/-- A call after something else. -/
lemma BlindCall.comp {α : Type} {g : Pipeline → Pipeline × α} (hg : BlindCall g) (hf : Blind f) :
    BlindCall fun p => g (f p) := by
  intro p hp
  obtain ⟨hfp, hfbare⟩ := hf p hp
  dsimp only
  rw [hfbare]
  exact hg (f p) hfp

lemma blind_id : Blind fun p => p := fun _ hp => ⟨hp, rfl⟩

lemma Blind.ite {c : Pipeline → Bool} (hc : ∀ p : Pipeline, c p.bare = c p) (hf : Blind f)
    (hg : Blind g) : Blind fun p => if c p then f p else g p := by
  intro p hp
  dsimp only
  rw [hc]
  split
  · exact hf p hp
  · exact hg p hp

/-- What leaves the dispatcher alone brings no record. -/
lemma blind_of_dispatcher (hdispatcher : ∀ p, (f p).dispatcher = p.dispatcher)
    (hbare : ∀ p, f p.bare = (f p).bare) : Blind f := by
  intro p hp
  refine ⟨⟨?_, ?_⟩, hbare p⟩
  · rw [hdispatcher]
    exact hp.queued
  · rw [hdispatcher]
    exact hp.inHand

lemma Sampled.dispatch (h : p.Sampled) {r : Record} (hr : r.flags.status = .sampled) :
    (p.dispatch r).2.Sampled := by
  have hdispatch : (p.dispatch r).2 = { p with dispatcher := (p.dispatcher.dispatch r).2 } := rfl
  rw [hdispatch, Dispatcher.dispatch]
  split
  · exact ⟨h.queued, h.inHand⟩
  · rw [Dispatcher.put]
    split
    · rename_i queue hsend
      refine ⟨fun x hx => ?_, h.inHand⟩
      rcases Channel.items_trySend hsend _ hx with hold | hnew
      · exact h.queued x hold
      · cases hnew
        exact hr
    · exact ⟨h.queued, h.inHand⟩

lemma blind_sendStop : Blind sendStop := by
  intro p hp
  have hdispatcher : p.bare.dispatcher = p.dispatcher := rfl
  rw [sendStop, sendStop, hdispatcher, Dispatcher.sendStop]
  split
  · exact ⟨hp, rfl⟩
  · cases hsend : p.dispatcher.queue.trySend .stop with
    | error e => exact ⟨hp, rfl⟩
    | ok queue =>
      refine ⟨⟨fun r hr => hp.queued r ?_, hp.inHand⟩, rfl⟩
      rcases Channel.items_trySend hsend _ hr with hold | hstop
      · exact hold
      · cases hstop

lemma call_bare (p : Pipeline) {r : Record} (hr : r.flags.status = .sampled) (target : Target) :
    p.bare.call r target = (p.call r target).bare := by
  cases target with
  | probe i =>
    have hprobes : p.bare.probes = p.probes := rfl
    rw [call, call, hprobes]
    cases p.probes[i]? <;> rfl
  | assembler =>
    rw [call, call, bare]
    cases hassembly : p.assembly with
    | none => simp [bare, hassembly]
    | some a => simp [bare, Assembly.record_bare a hr]

lemma isClosed_bare (p : Pipeline) (target : Target) :
    p.bare.isClosed target = p.isClosed target := by
  cases target <;> rfl

lemma work?_bare (h : p.Sampled) : p.bare.work? = p.work?.map bare := by
  have hdispatcher : p.bare.dispatcher = p.dispatcher := rfl
  rw [work?, work?, hdispatcher]
  cases hnext : p.dispatcher.nextCall? with
  | some call =>
    obtain ⟨target, r⟩ := call
    obtain ⟨rest, hphase⟩ := Dispatcher.nextCall?_eq_some_iff.mp hnext
    have hr : r.flags.status = .sampled :=
      h.inHand r _ hphase
    dsimp only
    rw [isClosed_bare, call_bare p hr]
    split <;> rfl
  | none =>
    cases hfinish : p.dispatcher.finish with
    | some d => rfl
    | none =>
      cases htake : p.dispatcher.take <;> rfl

lemma Sampled.work? (h : p.Sampled) (hwork : p.work? = some p') : p'.Sampled := by
  rcases work?_cases hwork with ⟨target, r, hnext, rfl⟩ | ⟨d, hfinish, rfl⟩ | ⟨d, log, htake, rfl⟩
  · obtain ⟨rest, hphase⟩ := Dispatcher.nextCall?_eq_some_iff.mp hnext
    rw [Dispatcher.called_eq hphase]
    refine ⟨h.queued, fun x xs hx => ?_⟩
    cases hx
    exact h.inHand r _ hphase
  · obtain ⟨r, hphase, rfl⟩ := Dispatcher.finish_cases hfinish
    exact ⟨h.queued, nofun⟩
  · obtain ⟨m, rest, hready, htaken⟩ := Dispatcher.take_cases htake
    have hrest : ∀ x ∈ rest, x ∈ p.dispatcher.queue.items := by
      intro x hx
      rw [hready.items]
      exact List.mem_cons_of_mem m hx
    rcases htaken with ⟨-, rfl⟩ | ⟨-, -, rfl⟩ | ⟨r, rfl, -, rfl⟩
    · exact ⟨fun x hx => h.queued x (hrest _ hx), nofun⟩
    · exact ⟨fun x hx => h.queued x (hrest _ hx), nofun⟩
    · refine ⟨fun x hx => h.queued x (hrest _ hx), fun x xs hx => ?_⟩
      cases hx
      exact h.queued r (by rw [hready.items]; exact List.mem_cons_self)

lemma blind_work? : Blind fun p => p.work?.getD p := by
  intro p hp
  dsimp only
  rw [work?_bare hp]
  cases hwork : p.work? with
  | none => exact ⟨hp, rfl⟩
  | some p' => exact ⟨hp.work? hwork, rfl⟩

lemma blind_work (hholds : ∀ p : Pipeline, holds p.bare = holds p) (n : Nat) :
    Blind (work holds n) := by
  induction n with
  | zero => exact fun p hp => ⟨hp, rfl⟩
  | succ n ih =>
    intro p hp
    rw [work, work, hholds, work?_bare hp]
    split
    · exact ⟨hp, rfl⟩
    · cases hwork : p.work? with
      | none => exact ⟨hp, rfl⟩
      | some p' => exact ih p' (hp.work? hwork)

lemma blind_workUntil (hholds : ∀ p : Pipeline, holds p.bare = holds p) :
    Blind (workUntil · holds) :=
  fun p hp => blind_work hholds p.workload p hp

lemma blind_settle : Blind settle := blind_workUntil fun _ => rfl

lemma blind_pass (time : Nat) : Blind (pass · time) := by
  refine blind_of_dispatcher (pass_dispatcher · time) fun p => ?_
  rw [pass, pass, bare]
  cases hassembly : p.assembly with
  | none => simp [bare]
  | some a => simp [bare, SweepTimer.advance_bare]

lemma blind_waitFor (hgoOn : Blind f) (hholds : ∀ p : Pipeline, holds p.bare = holds p)
    (deadline : Option Nat) (openings : List (Nat × Nat)) :
    Blind (waitFor f holds deadline openings) := by
  have hset : ∀ openings, Blind fun p => { p with openings } :=
    fun _ => blind_of_dispatcher (fun _ => rfl) fun _ => rfl
  have hopen : ∀ i, Blind (openGate · i) :=
    fun _ => blind_of_dispatcher (fun _ => rfl) fun _ => rfl
  have hlate : Blind fun p => deadline.elim p p.pass := by
    cases deadline with
    | none => exact blind_id
    | some time => exact blind_pass time
  induction openings with
  | nil =>
    intro p hp
    rw [waitFor, waitFor]
    exact (blind_id.ite hholds hlate).comp (hset []) p hp
  | cons o rest ih =>
    obtain ⟨time, i⟩ := o
    have hgo := ih.comp (hgoOn.comp ((hopen i).comp (blind_pass time)))
    have helse := hlate.ite (c := fun _ => deadline.any (· < time)) (fun _ => rfl) hgo
    intro p hp
    rw [waitFor, waitFor]
    exact (blind_id.ite hholds helse).comp (hset ((time, i) :: rest)) p hp

lemma blind_waitUntil (hholds : ∀ p : Pipeline, holds p.bare = holds p) :
    Blind (waitUntil · holds) := by
  intro p hp
  have hwait := blind_waitFor (blind_workUntil hholds) hholds none p.openings
  exact hwait.comp (blind_workUntil hholds) p hp

lemma blind_drain : Blind drain := blind_settle.comp (blind_sendStop.comp blind_settle)

lemma blind_refuse : Blind fun p => { p with dispatcher := p.dispatcher.refuse } :=
  fun _ hp => ⟨⟨hp.queued, hp.inHand⟩, rfl⟩

lemma blindCall_drainUntil (deadline : Nat) : BlindCall (drainUntil · deadline) := by
  intro p hp
  have hwait : Blind (waitFor drain (·.dispatcher.hasExited) (some deadline) p.openings) :=
    blind_waitFor blind_drain (fun _ => rfl) _ _
  have hend : BlindCall fun q : Pipeline =>
      if q.dispatcher.hasExited then (q, [Event.dispatcherStopped q.dispatcher.dropped])
      else
        ({ q with dispatcher := q.dispatcher.abandon },
          [.drainTimedOut q.dispatcher.config.shutdownTimeout q.dispatcher.dropped]) := by
    intro q hq
    have hexited : q.bare.dispatcher.hasExited = q.dispatcher.hasExited := rfl
    dsimp only
    rw [hexited]
    split
    · exact ⟨hq, rfl⟩
    · exact ⟨⟨hq.queued, hq.inHand⟩, rfl⟩
  exact hend.comp (hwait.comp blind_drain) p hp

lemma blindCall_stop : BlindCall stop := by
  intro p hp
  have hstopped : p.bare.dispatcher.isStopped = p.dispatcher.isStopped := rfl
  cases hopen : p.dispatcher.isStopped with
  | true =>
    rw [stop, stop, if_pos hopen, if_pos (hstopped.trans hopen)]
    exact ⟨hp, rfl⟩
  | false =>
    obtain ⟨hrefused, -⟩ := blind_refuse p hp
    have hdeadline : p.bare.deadline? = p.deadline? := rfl
    cases hsome : p.deadline? with
    | none =>
      rw [stop_of_no_deadline hopen hsome, stop_of_no_deadline (hstopped.trans hopen)
        (hdeadline.trans hsome)]
      exact ⟨hrefused, rfl⟩
    | some deadline =>
      rw [stop_of_deadline hopen hsome, stop_of_deadline (hstopped.trans hopen)
        (hdeadline.trans hsome)]
      obtain ⟨hdrained, hbare⟩ := ((blindCall_drainUntil deadline).comp blind_refuse) p hp
      refine ⟨hdrained, ?_⟩
      dsimp only at hbare ⊢
      rw [hbare]

lemma blind_betweenRecords : Blind betweenRecords := blind_waitUntil fun _ => rfl

lemma blindCall_clear : BlindCall clear := by
  have hgo : BlindCall fun q : Pipeline =>
      if q.dispatcher.isDelivering then (q, (.stuck : Ending (List Target)))
      else ({ q with dispatcher := q.dispatcher.clear }, .returned q.dispatcher.sinks) := by
    intro q hq
    have hdelivering : q.bare.dispatcher.isDelivering = q.dispatcher.isDelivering := rfl
    dsimp only
    rw [hdelivering]
    split
    · exact ⟨hq, rfl⟩
    · exact ⟨⟨hq.queued, hq.inHand⟩, rfl⟩
  exact hgo.comp blind_betweenRecords

lemma blindCall_halt (wasStarted : Bool) : BlindCall (halt · wasStarted) := by
  have hstop : BlindCall fun p : Pipeline =>
      if wasStarted then p.stop else (p, (.returned () : Ending Unit), []) := by
    cases wasStarted with
    | false => exact fun p hp => ⟨hp, rfl⟩
    | true => exact blindCall_stop
  have htimer : BlindCall fun p : Pipeline =>
      (fun called : Pipeline × Ending Unit × List Event =>
        ({ called.1 with timer := .stopped }, called.2.1, called.2.2 ++ called.1.timer.stop))
      (if wasStarted then p.stop else (p, .returned (), [])) := by
    intro p hp
    obtain ⟨hsampled, hbare⟩ := hstop p hp
    dsimp only at hsampled hbare ⊢
    rw [hbare]
    exact ⟨⟨hsampled.queued, hsampled.inHand⟩, rfl⟩
  refine htimer.andThen fun _ p hp => ?_
  obtain ⟨hsampled, hbare⟩ := blindCall_clear p hp
  dsimp only
  rw [hbare]
  exact ⟨hsampled, rfl⟩

lemma blindCall_shutdownSink (target : Target) : BlindCall (shutdownSink · target) := by
  intro p hp
  dsimp only
  cases target with
  | probe i =>
    have hprobes : p.bare.probes = p.probes := rfl
    rw [shutdownSink, shutdownSink, hprobes]
    cases p.probes[i]? <;> exact ⟨⟨hp.queued, hp.inHand⟩, rfl⟩
  | assembler =>
    cases hassembly : p.assembly with
    | none => simp [shutdownSink, bare, hassembly, hp]
    | some a =>
      have hbare : p.bare.assembly = some a.bare := by rw [bare, hassembly, Option.map_some]
      rw [shutdownSink_assembler hassembly, shutdownSink_assembler hbare, Assembly.shutdown_bare]
      exact ⟨⟨hp.queued, hp.inHand⟩, rfl⟩

lemma blindCall_shutdownSinks (errors : List TraceError) (targets : List Target) :
    BlindCall (shutdownSinks · errors targets) := by
  induction targets generalizing errors with
  | nil => exact fun p hp => ⟨hp, rfl⟩
  | cons target rest ih =>
    exact (blindCall_shutdownSink target).andThen fun result => ih (gather errors result)

end Pipeline

end TracePipeline
