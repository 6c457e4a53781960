import TracePipeline.Proofs.Dispatcher.Invariant

/-!
# Delivery in the order of acceptance

A sink that stays registered is called for every record that the worker takes to deliver it, as often
as it is registered, in the order of the records, whatever other sinks do; which calls panic makes no
difference to anybody else. Once the one who stops the dispatcher has given up, the worker takes no
record to deliver it any more.
-/

namespace TracePipeline

namespace Dispatcher

namespace Session

variable {ι : Type} [DecidableEq ι] {y y' y'' : Session ι} {act : Action ι} {i : ι}

/-- Between two sessions a sink was called, or is still to be called, for what was taken. -/
structure Serves (i : ι) (y y' : Session ι) : Prop where
  count : y'.dispatcher.sinks.count i = y.dispatcher.sinks.count i
  calls : ∃ new, y'.taken = y.taken ++ new ∧
    y'.callsTo i ++ y'.dispatcher.owed i = y.callsTo i ++ y.dispatcher.owed i ++
      new.flatMap (List.replicate (y.dispatcher.sinks.count i))

lemma Serves.of_eq (hcount : y'.dispatcher.sinks.count i = y.dispatcher.sinks.count i)
    (htaken : y'.taken = y.taken)
    (hcalls : y'.callsTo i ++ y'.dispatcher.owed i = y.callsTo i ++ y.dispatcher.owed i) :
    Serves i y y' :=
  ⟨hcount, [], by simp [htaken], by simp [hcalls]⟩

lemma Serves.refl (i : ι) (y : Session ι) : Serves i y y := .of_eq rfl rfl rfl

lemma Serves.trans (h : Serves i y y') (h' : Serves i y' y'') : Serves i y y'' := by
  obtain ⟨hcount, new, htaken, hcalls⟩ := h
  obtain ⟨hcount', more, htaken', hcalls'⟩ := h'
  refine ⟨hcount'.trans hcount, new ++ more, ?_, ?_⟩
  · rw [htaken', htaken, List.append_assoc]
  · rw [hcalls', hcalls, hcount, List.flatMap_append, List.append_assoc]

lemma callsTo_concat (y : Session ι) (d : Dispatcher ι) (i j : ι) (r : Record) (panics : Bool) :
    callsTo { y with dispatcher := d, calls := y.calls ++ [⟨j, r, panics⟩] } i =
      y.callsTo i ++ if j = i then [r] else [] := by
  by_cases hj : j = i <;> simp [callsTo, List.filter_append, hj]

lemma serves_takes {r : Record} {rest : List DispatchMessage}
    (hready : y.dispatcher.Ready (.record r) rest) :
    Serves i y { y with dispatcher :=
      { y.dispatcher.taking (.record r) rest with phase := .delivering r y.dispatcher.sinks } } := by
  have howed : y.dispatcher.owed i = [] := by rw [owed, hready.phase]
  refine ⟨rfl, [r], ?_, ?_⟩
  · simp only [taken, hready.inHand, List.append_nil]
    rfl
  · rw [howed, List.append_nil, List.flatMap_singleton]
    rfl

lemma serves_calls {j : ι} {r : Record} {rest : List ι} {panics : Bool}
    (hphase : y.dispatcher.phase = .delivering r (j :: rest)) :
    Serves i y { y with
      dispatcher := { y.dispatcher with phase := .delivering r rest }
      calls := y.calls ++ [⟨j, r, panics⟩] } := by
  have hinHand : y.dispatcher.inHand = [r] := by rw [inHand, hphase]
  have howed : y.dispatcher.owed i = List.replicate ((j :: rest).count i) r := by
    rw [owed, hphase]
  apply Serves.of_eq
  · rfl
  · rw [taken, taken, hinHand]
    rfl
  · rw [callsTo_concat, howed, List.append_assoc]
    by_cases hj : j = i
    · subst hj
      rw [if_pos rfl, List.count_cons_self, List.replicate_succ]
      rfl
    · rw [if_neg hj, List.count_cons_of_ne hj]
      rfl

lemma serves_finishes {r : Record} (hphase : y.dispatcher.phase = .delivering r []) :
    Serves i y { y with
      dispatcher := { y.dispatcher with phase := .waiting, delivered := y.dispatcher.delivered + 1 }
      delivered := y.delivered ++ [r] } := by
  have hinHand : y.dispatcher.inHand = [r] := by rw [inHand, hphase]
  have howed : y.dispatcher.owed i = [] := by simp [owed, hphase]
  apply Serves.of_eq
  · rfl
  · rw [taken, taken, hinHand]
    exact List.append_nil _
  · rw [howed]
    rfl

lemma serves_exits {m : DispatchMessage} {rest : List DispatchMessage}
    (hready : y.dispatcher.Ready m rest) :
    Serves i y { y with dispatcher := (y.dispatcher.taking m rest).exit } := by
  have howed : y.dispatcher.owed i = [] := by rw [owed, hready.phase]
  apply Serves.of_eq
  · rfl
  · rw [taken, taken, hready.inHand]
    rfl
  · rw [howed]
    rfl

theorem Turn.serves (hturn : y.Turn act y') (hclear : act ≠ .clear) (hregister : act ≠ .register i) :
    Serves i y y' := by
  cases hturn with
  | takes r rest hready _ => exact serves_takes hready
  | discards r rest hready _ => exact serves_exits hready
  | ends rest hready => exact serves_exits hready
  | calls j r rest panics hphase => exact serves_calls hphase
  | finishes r hphase => exact serves_finishes hphase
  | registers j =>
    have hj : ¬j = i := fun h => hregister (by rw [h])
    refine .of_eq ?_ rfl rfl
    simp [register, List.count_append, hj]
  | clears => exact absurd rfl hclear
  | accepts _ _ _ _ => exact .of_eq rfl rfl rfl
  | acceptsLate _ _ _ => exact .of_eq rfl rfl rfl
  | drops _ _ _ => exact .of_eq rfl rfl rfl
  | refuses _ => exact .of_eq rfl rfl rfl
  | sends _ _ => exact .of_eq rfl rfl rfl
  | findsClosed _ _ => exact .of_eq rfl rfl rfl
  | findsEnd _ _ => exact .of_eq rfl rfl rfl
  | givesUp _ => exact .of_eq rfl rfl rfl

theorem Sound.serves (h : y.Sound) (actions : List (Action ι))
    (hkeep : ∀ act ∈ actions, act ≠ .clear ∧ act ≠ .register i) : Serves i y (y.run actions) := by
  induction actions using List.reverseRecOn with
  | nil => exact .refl i y
  | append_singleton actions act ih =>
    have hbefore := ih fun act hact => hkeep act (List.mem_append_left _ hact)
    obtain ⟨hclear, hregister⟩ := hkeep act (by simp)
    rw [run_concat]
    rcases step_turn (h.run actions).unmet act with heq | hturn
    · rw [heq]
      exact hbefore
    · exact hbefore.trans (hturn.serves hclear hregister)

omit [DecidableEq ι]

/-- After the one who stops the dispatcher gave up nothing is taken to be delivered, and calls are
only made for the record that the worker had in its hand then. -/
structure Ceases (y y' : Session ι) : Prop where
  abandoned : y'.dispatcher.isAbandoned = true
  taken : y'.taken = y.taken
  inHand : ∀ r ∈ y'.dispatcher.inHand, r ∈ y.dispatcher.inHand
  calls : ∃ later, y'.calls = y.calls ++ later ∧ ∀ c ∈ later, c.record ∈ y.dispatcher.inHand

lemma Ceases.refl (h : y.dispatcher.isAbandoned = true) : Ceases y y :=
  ⟨h, rfl, fun _ hr => hr, [], by simp, by simp⟩

lemma Ceases.of_eq (h : Ceases y y') (habandoned : y''.dispatcher.isAbandoned = true)
    (htaken : y''.taken = y'.taken) (hcalls : y''.calls = y'.calls)
    (hinHand : ∀ r ∈ y''.dispatcher.inHand, r ∈ y'.dispatcher.inHand) : Ceases y y'' where
  abandoned := habandoned
  taken := htaken.trans h.taken
  inHand r hr := h.inHand r (hinHand r hr)
  calls := by
    rw [hcalls]
    exact h.calls

lemma Ceases.exits (h : Ceases y y') {m : DispatchMessage} {rest : List DispatchMessage}
    (hready : y'.dispatcher.Ready m rest) :
    Ceases y { y' with dispatcher := (y'.dispatcher.taking m rest).exit } := by
  refine h.of_eq h.abandoned ?_ rfl (fun r hr => (List.not_mem_nil hr).elim)
  rw [Session.taken, Session.taken, hready.inHand]
  rfl

lemma Ceases.makesCall (h : Ceases y y') {i : ι} {r : Record} {rest : List ι} {panics : Bool}
    (hphase : y'.dispatcher.phase = .delivering r (i :: rest)) :
    Ceases y { y' with
      dispatcher := { y'.dispatcher with phase := .delivering r rest }
      calls := y'.calls ++ [⟨i, r, panics⟩] } := by
  have hinHand : y'.dispatcher.inHand = [r] := by rw [Dispatcher.inHand, hphase]
  have hr : r ∈ y.dispatcher.inHand := h.inHand r (by simp [hinHand])
  obtain ⟨later, hcalls, hlater⟩ := h.calls
  refine ⟨h.abandoned, ?_, fun r' hr' => ?_, later ++ [⟨i, r, panics⟩], ?_, ?_⟩
  · rw [← h.taken, Session.taken, Session.taken, hinHand]
    rfl
  · have hsame : r' = r := List.mem_singleton.mp hr'
    rw [hsame]
    exact hr
  · rw [← List.append_assoc, ← hcalls]
  · intro c hc
    rcases List.mem_append.mp hc with hold | hnew
    · exact hlater c hold
    · rw [List.mem_singleton.mp hnew]
      exact hr

theorem Ceases.turn (h : Ceases y y') (hturn : y'.Turn act y'') : Ceases y y'' := by
  cases hturn with
  | takes _ _ _ hgo =>
    have habandoned := h.abandoned
    rw [hgo] at habandoned
    cases habandoned
  | discards _ _ hready _ => exact h.exits hready
  | ends _ hready => exact h.exits hready
  | calls _ _ _ _ hphase => exact h.makesCall hphase
  | finishes r hphase =>
    have hinHand : y'.dispatcher.inHand = [r] := by rw [Dispatcher.inHand, hphase]
    refine h.of_eq h.abandoned ?_ rfl (fun r' hr' => (List.not_mem_nil hr').elim)
    rw [Session.taken, Session.taken, hinHand]
    exact List.append_nil _
  | accepts _ _ _ _ => exact h.of_eq h.abandoned rfl rfl fun _ hr => hr
  | acceptsLate _ _ _ => exact h.of_eq h.abandoned rfl rfl fun _ hr => hr
  | drops _ _ _ => exact h.of_eq h.abandoned rfl rfl fun _ hr => hr
  | refuses _ => exact h.of_eq h.abandoned rfl rfl fun _ hr => hr
  | sends _ _ => exact h.of_eq h.abandoned rfl rfl fun _ hr => hr
  | findsClosed _ _ => exact h.of_eq h.abandoned rfl rfl fun _ hr => hr
  | findsEnd _ _ => exact h.of_eq h.abandoned rfl rfl fun _ hr => hr
  | givesUp _ => exact h.of_eq rfl rfl rfl fun _ hr => hr
  | registers _ => exact h.of_eq h.abandoned rfl rfl fun _ hr => hr
  | clears => exact h.of_eq h.abandoned rfl rfl fun _ hr => hr

theorem Sound.ceases (h : y.Sound) (hgaveUp : y.stopping = .gaveUp) (more : List (Action ι)) :
    Ceases y (y.run more) := by
  induction more using List.reverseRecOn with
  | nil => exact .refl (h.abandoned.mpr hgaveUp)
  | append_singleton more act ih =>
    rw [run_concat]
    rcases step_turn (h.run more).unmet act with heq | hturn
    · rw [heq]
      exact ih
    · exact ih.turn hturn

lemma Turn.config (hturn : y.Turn act y') : y'.dispatcher.config = y.dispatcher.config := by
  cases hturn <;> rfl

lemma Sound.config_run (h : y.Sound) (actions : List (Action ι)) :
    (y.run actions).dispatcher.config = y.dispatcher.config := by
  induction actions using List.reverseRecOn with
  | nil => rfl
  | append_singleton actions act ih =>
    rw [run_concat, ← ih]
    rcases step_turn (h.run actions).unmet act with heq | hturn
    · rw [heq]
    · exact hturn.config

lemma isStopped_stop (y : Session ι) : (y.step .stop).dispatcher.isStopped = true := by
  rw [step]
  split
  · assumption
  · rfl

lemma Turn.isStopped (hturn : y.Turn act y') (hstop : act ≠ .stop) :
    y'.dispatcher.isStopped = y.dispatcher.isStopped := by
  cases hturn with
  | refuses _ => exact absurd rfl hstop
  | _ => rfl

lemma Sound.isStopped_run (h : y.Sound) (actions : List (Action ι)) :
    (y.run actions).dispatcher.isStopped = true ↔
      y.dispatcher.isStopped = true ∨ .stop ∈ actions := by
  induction actions using List.reverseRecOn with
  | nil => simp [Session.run]
  | append_singleton actions act ih =>
    rw [run_concat]
    by_cases hstop : act = .stop
    · subst hstop
      simp [isStopped_stop]
    · have hmem : .stop ∈ actions ++ [act] ↔ .stop ∈ actions := by
        have hne : ¬ Action.stop = act := fun h => hstop h.symm
        simp [hne]
      rw [hmem, ← ih]
      rcases step_turn (h.run actions).unmet act with heq | hturn
      · rw [heq]
      · rw [hturn.isStopped hstop]

/-! ## Panics -/

/-- The session as if no call had panicked. -/
def calm (y : Session ι) : Session ι :=
  { y with calls := y.calls.map fun c => { c with panicked := false } }

lemma calm_accept (y : Session ι) (r : Record) : (y.accept r).calm = y.calm.accept r := by
  rw [accept, accept]
  change _ = if y.dispatcher.isStopped then _ else _
  split <;> rfl

lemma calm_note (y : Session ι) (r : Record) (answer : Bool × Dispatcher ι) :
    (y.note r answer).calm = y.calm.note r answer := by
  rw [note, note, ← calm_accept]
  split <;> rfl

lemma calm_step (y : Session ι) (act : Action ι) : (y.step act).calm = y.calm.step act.calm := by
  obtain ⟨d, stopping, accepted, late, delivered, calls⟩ := y
  cases act with
  | dispatch r lookedBefore =>
    exact calm_note _ r _
  | take =>
    simp only [Action.calm, step, calm]
    cases d.take <;> rfl
  | call panics =>
    simp only [Action.calm, step, calm]
    cases d.nextCall? with
    | none => rfl
    | some next => simp
  | finish =>
    simp only [Action.calm, step, calm]
    cases d.finish <;> rfl
  | stop => exact apply_ite calm _ _ _
  | trySend =>
    simp only [Action.calm, step, calm]
    cases stopping <;> cases d.sendStop with
    | ok d => rfl
    | error e => cases e <;> rfl
  | await => exact apply_ite calm _ _ _
  | deadline => exact apply_ite calm _ _ _
  | register i => rfl
  | clear => rfl

/-- Which calls panic makes no difference to anything else. -/
theorem calm_run (y : Session ι) (actions : List (Action ι)) :
    (y.run actions).calm = y.calm.run (actions.map Action.calm) := by
  induction actions using List.reverseRecOn with
  | nil => rfl
  | append_singleton actions act ih =>
    rw [run_concat, calm_step, ih, List.map_append, List.map_singleton, run_concat]

/-! ## Answers -/

lemma Sound.hasRoom_iff (h : y.Sound) :
    y.dispatcher.HasRoom ↔ y.dispatcher.hasExited = false ∧
      y.dispatcher.queue.items.length < y.dispatcher.config.maxQueueSize := by
  rw [HasRoom, h.isOpen, h.capacity, Bool.not_eq_true']

/-- What a producer is told, and what has become of his record then. -/
structure Answers (d : Dispatcher ι) (r : Record) (answer : Bool × Dispatcher ι) (fits : Prop) :
    Prop where
  accepts_iff : answer.1 = true ↔ fits
  accepts : answer.1 = true → answer.2 = d.putting (.record r)
  drops : answer.1 = false → answer.2 = { d with dropped := d.dropped + 1 }

lemma Sound.answers_put (h : y.Sound) (r : Record) :
    Answers y.dispatcher r (y.dispatcher.put r) (y.dispatcher.hasExited = false ∧
      y.dispatcher.queue.items.length < y.dispatcher.config.maxQueueSize) := by
  rw [← h.hasRoom_iff]
  by_cases hroom : y.dispatcher.HasRoom
  · rw [put_of_hasRoom hroom]
    exact ⟨iff_of_true rfl hroom, fun _ => rfl, fun hfalse => nomatch hfalse⟩
  · rw [put_of_not_hasRoom hroom h.unmet]
    exact ⟨iff_of_false Bool.false_ne_true hroom, (fun htrue => nomatch htrue), fun _ => rfl⟩

lemma Sound.answers_dispatch (h : y.Sound) (r : Record) :
    Answers y.dispatcher r (y.dispatcher.dispatch r) (y.dispatcher.isStopped = false ∧
      y.dispatcher.queue.items.length < y.dispatcher.config.maxQueueSize) := by
  cases hstop : y.dispatcher.isStopped with
  | true =>
    have hdrops : y.dispatcher.dispatch r =
        (false, { y.dispatcher with dropped := y.dispatcher.dropped + 1 }) := by
      simp [dispatch, hstop]
    rw [hdrops]
    exact ⟨by simp, fun htrue => absurd htrue Bool.false_ne_true, fun _ => rfl⟩
  | false =>
    rw [dispatch, hstop, if_neg Bool.false_ne_true]
    have hput := h.answers_put r
    rw [h.not_exited (h.idle_of_not_stopped hstop)] at hput
    exact hput

lemma Turn.late (hturn : y.Turn act y') (hlate : ∀ r, act ≠ .dispatch r true) :
    y'.late = y.late := by
  cases hturn with
  | acceptsLate r _ _ => exact absurd rfl (hlate r)
  | _ => rfl

/-- Nothing is late if every producer looks and queues his record at once. -/
lemma Sound.late_run (h : y.Sound) (actions : List (Action ι))
    (hlate : ∀ r, .dispatch r true ∉ actions) : (y.run actions).late = y.late := by
  induction actions using List.reverseRecOn with
  | nil => rfl
  | append_singleton actions act ih =>
    rw [run_concat, ← ih fun r hmem => hlate r (List.mem_append_left _ hmem)]
    rcases step_turn (h.run actions).unmet act with heq | hturn
    · rw [heq]
    · exact hturn.late fun r hr => hlate r (by simp [hr])

/-! ## What is promised -/

lemma Sound.conserved_apart (h : y.Sound) : ∃ lost : Option Record,
    (lost.isSome → y.dispatcher.hasExited = true ∧ y.stopping = .gaveUp) ∧
      y.delivered ++ y.dispatcher.inHand ++ lost.toList ++ y.dispatcher.waiting ++
        y.dispatcher.discarded = y.accepted ++ y.late := by
  obtain ⟨lost, hlost, haccepted⟩ := h.conserved
  refine ⟨lost, fun hsome => ⟨(hlost hsome).1, h.abandoned.mp (hlost hsome).2⟩, ?_⟩
  rw [List.append_assoc _ y.dispatcher.waiting, waiting_append_discarded]
  exact haccepted

lemma Sound.discarded_eq_nil (h : y.Sound) (hexit : y.dispatcher.hasExited = false) :
    y.dispatcher.discarded = [] := by
  rw [discarded, Channel.discarded, h.isOpen, hexit]
  rfl

/-- What is queued when the worker has ended in time is late. -/
lemma Sound.delivered_of_drained (h : y.Sound) (hdrained : y.stopping = .drained) :
    ∃ more, more <+: y.late ∧ y.delivered = y.accepted ++ more := by
  have hexit := h.drained hdrained
  have hgo := h.not_abandoned (by rw [hdrained]; decide)
  obtain ⟨-, behind, ⟨more, hlate⟩, hitems⟩ := h.exited hexit hgo
  have hinHand : y.dispatcher.inHand = [] := by
    cases hphase : y.dispatcher.phase <;> simp_all [hasExited, inHand]
  refine ⟨more, ⟨behind, hlate⟩, ?_⟩
  obtain ⟨lost, hlost, haccepted⟩ := h.conserved
  cases lost with
  | some r =>
    have hleft := (hlost rfl).2
    rw [hgo] at hleft
    cases hleft
  | none =>
    rw [hinHand, queued, hitems, recordsOf_map_record, ← hlate, ← List.append_assoc] at haccepted
    exact (List.append_left_inj behind).mp (by simpa using haccepted)

lemma Sound.delivered_prefix (h : y.Sound) : y.delivered <+: y.accepted ++ y.late := by
  obtain ⟨lost, -, haccepted⟩ := h.conserved
  rw [← haccepted, List.append_assoc, List.append_assoc]
  exact List.prefix_append _ _

/-- What a dispatcher promises about all that can happen to it, in any order. -/
structure Delivers [DecidableEq ι] (y : Session ι) (actions : List (Action ι)) : Prop where
  bounded : (y.run actions).dispatcher.queue.items.length ≤ y.dispatcher.config.maxQueueSize
  /-- To a producer who looks and queues his record at once. -/
  answers : ∀ r, Answers (y.run actions).dispatcher r ((y.run actions).dispatcher.dispatch r)
    (.stop ∉ actions ∧
      (y.run actions).dispatcher.queue.items.length < y.dispatcher.config.maxQueueSize)
  /-- To a producer who looked before the dispatcher was stopped. -/
  answers_late : ∀ r, Answers (y.run actions).dispatcher r ((y.run actions).dispatcher.put r)
    ((y.run actions).dispatcher.hasExited = false ∧
      (y.run actions).dispatcher.queue.items.length < y.dispatcher.config.maxQueueSize)
  prompt : .stop ∉ actions ∨ (∀ r, .dispatch r true ∉ actions) → (y.run actions).late = []
  conserved : ∃ lost : Option Record,
    (lost.isSome →
      (y.run actions).dispatcher.hasExited = true ∧ (y.run actions).stopping = .gaveUp) ∧
      (y.run actions).delivered ++ (y.run actions).dispatcher.inHand ++ lost.toList ++
        (y.run actions).dispatcher.waiting ++ (y.run actions).dispatcher.discarded =
          (y.run actions).accepted ++ (y.run actions).late
  discarded : (y.run actions).dispatcher.hasExited = false →
    (y.run actions).dispatcher.discarded = []
  serves : ∀ before after i, actions = before ++ after →
    (∀ act ∈ after, act ≠ .clear ∧ act ≠ .register i) → Serves i (y.run before) (y.run actions)
  /-- Which calls panic makes no difference to anything else. -/
  calm : (y.run actions).calm = y.calm.run (actions.map Action.calm)
  drained : (y.run actions).stopping = .drained →
    ∃ more, more <+: (y.run actions).late ∧
      (y.run actions).delivered = (y.run actions).accepted ++ more
  gaveUp : (y.run actions).stopping = .gaveUp →
    (y.run actions).delivered <+: (y.run actions).accepted ++ (y.run actions).late ∧
      ∀ more, Ceases (y.run actions) ((y.run actions).run more)

theorem delivers [DecidableEq ι] (config : DispatcherConfig) (sinks : List ι)
    (actions : List (Action ι)) : (start config sinks).Delivers actions := by
  have hstart := sound_start config sinks
  have h := hstart.run actions
  have hconfig := hstart.config_run actions
  have hstopped := hstart.isStopped_run actions
  have hnot : (start config sinks).dispatcher.isStopped = false := rfl
  rw [hnot] at hstopped
  have hopen : ((start config sinks).run actions).dispatcher.isStopped = false ↔
      .stop ∉ actions := by
    rw [← Bool.not_eq_true, hstopped]
    simp
  refine
    { bounded := hconfig ▸ h.bounded
      answers := fun r => ?_
      answers_late := fun r => hconfig ▸ h.answers_put r
      prompt := fun hprompt => ?_
      conserved := h.conserved_apart
      discarded := h.discarded_eq_nil
      serves := fun before after i hsplit hkeep => ?_
      calm := calm_run _ actions
      drained := h.delivered_of_drained
      gaveUp := fun hgaveUp => ⟨h.delivered_prefix, h.ceases hgaveUp⟩ }
  · rw [← hopen, ← hconfig]
    exact h.answers_dispatch r
  · rcases hprompt with hstop | hlate
    · exact h.prompt (hopen.mpr hstop)
    · exact hstart.late_run actions hlate
  · rw [hsplit, run_append]
    exact (hstart.run before).serves after hkeep

/-- Two sinks, of which the first panics over a record; another record is late. -/
example (r s : Record) :
    let y := (start (DispatcherConfig.Builder.build ⟨1, .ofMillis 10⟩) [0, 1]).run
      [.dispatch r false, .take, .call true, .call false, .finish, .stop, .dispatch s true, .take,
        .trySend, .call false, .call false, .finish, .take, .await]
    y.stopping = .drained ∧ y.delivered = [r, s] ∧ y.accepted = [r] ∧ y.late = [s] ∧
      y.calls = [⟨0, r, true⟩, ⟨1, r, false⟩, ⟨0, s, false⟩, ⟨1, s, false⟩] := by
  cbv

end Session

end Dispatcher

end TracePipeline
