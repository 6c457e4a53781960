import TracePipeline.Proofs.Dispatcher.Turn

/-!
# What holds of every session

The queue holds records, and maybe the message that ends the worker, with late records at most behind
it. What was delivered, what the worker has in its hand and what is queued make up what was accepted,
in this order; only a worker that is told to abandon the rest throws a record away, and it ends with
that one.
-/

namespace TracePipeline

namespace Dispatcher

variable {ι : Type} {d : Dispatcher ι}

@[simp] lemma recordsOf_nil : recordsOf [] = [] := rfl

@[simp] lemma recordsOf_append (l m : List DispatchMessage) :
    recordsOf (l ++ m) = recordsOf l ++ recordsOf m :=
  List.filterMap_append

@[simp] lemma recordsOf_record_cons (r : Record) (l : List DispatchMessage) :
    recordsOf (.record r :: l) = r :: recordsOf l := rfl

@[simp] lemma recordsOf_stop_cons (l : List DispatchMessage) :
    recordsOf (.stop :: l) = recordsOf l := rfl

@[simp] lemma recordsOf_map_record (records : List Record) :
    recordsOf (records.map .record) = records := by
  induction records with
  | nil => rfl
  | cons r records ih => simp [ih]

lemma waiting_append_discarded (d : Dispatcher ι) : d.waiting ++ d.discarded = d.queued := by
  rw [waiting, discarded, ← recordsOf_append, Channel.waiting_append_discarded, queued]

lemma queued_putting_record (d : Dispatcher ι) (r : Record) :
    (d.putting (.record r)).queued = d.queued ++ [r] := by
  simp [queued, putting]

lemma queued_putting_stop (d : Dispatcher ι) : (d.putting .stop).queued = d.queued := by
  simp [queued, putting]

lemma Ready.queued_record {r : Record} {rest : List DispatchMessage}
    (h : d.Ready (.record r) rest) : d.queued = r :: (d.taking (.record r) rest).queued := by
  simp [queued, taking, h.items]

lemma Ready.queued_stop {rest : List DispatchMessage} (h : d.Ready .stop rest) :
    d.queued = (d.taking .stop rest).queued := by
  simp [queued, taking, h.items]

lemma Ready.not_exited {m : DispatchMessage} {rest : List DispatchMessage} (h : d.Ready m rest) :
    d.hasExited = false := by
  rw [hasExited, h.phase]

lemma Ready.inHand {m : DispatchMessage} {rest : List DispatchMessage} (h : d.Ready m rest) :
    d.inHand = [] := by
  rw [Dispatcher.inHand, h.phase]

namespace Session

/-- What holds of every session. -/
structure Sound (y : Session ι) : Prop where
  capacity : y.dispatcher.queue.capacity = y.dispatcher.config.maxQueueSize
  bounded : y.dispatcher.queue.items.length ≤ y.dispatcher.config.maxQueueSize
  unmet : y.dispatcher.queue.isWaiting = false
  isOpen : y.dispatcher.queue.isOpen = !y.dispatcher.hasExited
  stop_once : (∃ records : List Record, y.dispatcher.queue.items = records.map .record) ∨
    (∃ records behind : List Record, behind <:+ y.late ∧
      y.dispatcher.queue.items = records.map .record ++ .stop :: behind.map .record) ∧
      (y.stopping = .waiting ∨ y.stopping = .gaveUp)
  stopped : y.dispatcher.isStopped = true ↔ y.stopping ≠ .idle
  abandoned : y.dispatcher.isAbandoned = true ↔ y.stopping = .gaveUp
  exited : y.dispatcher.hasExited = true → y.dispatcher.isAbandoned = false →
    (y.stopping = .waiting ∨ y.stopping = .drained) ∧
      ∃ behind : List Record, behind <:+ y.late ∧ y.dispatcher.queue.items = behind.map .record
  drained : y.stopping = .drained → y.dispatcher.hasExited = true
  prompt : y.dispatcher.isStopped = false → y.late = []
  conserved : ∃ lost : Option Record,
    (lost.isSome → y.dispatcher.hasExited = true ∧ y.dispatcher.isAbandoned = true) ∧
      y.delivered ++ y.dispatcher.inHand ++ lost.toList ++ y.dispatcher.queued =
        y.accepted ++ y.late

lemma sound_start (config : DispatcherConfig) (sinks : List ι) : (start config sinks).Sound where
  capacity := rfl
  bounded := Nat.zero_le _
  unmet := rfl
  isOpen := rfl
  stop_once := .inl ⟨[], rfl⟩
  stopped := by simp [start, Dispatcher.new]
  abandoned := by simp [start, Dispatcher.new]
  exited h := by cases h
  drained h := by cases h
  prompt _ := rfl
  conserved := ⟨none, by simp, rfl⟩

variable {y y' : Session ι} {act : Action ι}

lemma Sound.idle_of_not_stopped (h : y.Sound) (hstop : y.dispatcher.isStopped = false) :
    y.stopping = .idle := by
  by_contra hne
  have htrue := h.stopped.mpr hne
  rw [hstop] at htrue
  cases htrue

lemma Sound.not_abandoned (h : y.Sound) (hne : y.stopping ≠ .gaveUp) :
    y.dispatcher.isAbandoned = false := by
  rw [Bool.eq_false_iff]
  exact fun hleft => hne (h.abandoned.mp hleft)

lemma Sound.not_stopped (h : y.Sound) (hidle : y.stopping = .idle) :
    y.dispatcher.isStopped = false := by
  rw [Bool.eq_false_iff]
  exact fun hstopped => h.stopped.mp hstopped hidle

lemma Sound.not_exited (h : y.Sound) (hidle : y.stopping = .idle) :
    y.dispatcher.hasExited = false := by
  rw [Bool.eq_false_iff]
  intro hexit
  have hgo := h.not_abandoned (by rw [hidle]; decide)
  have hstopping := (h.exited hexit hgo).1
  simp [hidle] at hstopping

lemma Sound.not_drained (h : y.Sound) (hexit : y.dispatcher.hasExited = false) :
    y.stopping ≠ .drained := by
  intro hdrained
  have htrue := h.drained hdrained
  rw [hexit] at htrue
  cases htrue

lemma Sound.only_records (h : y.Sound) (hwaiting : y.stopping ≠ .waiting)
    (hgaveUp : y.stopping ≠ .gaveUp) :
    ∃ records : List Record, y.dispatcher.queue.items = records.map .record := by
  rcases h.stop_once with hrecords | ⟨-, hstopping⟩
  · exact hrecords
  · rcases hstopping with hw | hg
    · exact absurd hw hwaiting
    · exact absurd hg hgaveUp

lemma Sound.rest_of_stop (h : y.Sound) {rest : List DispatchMessage}
    (hready : y.dispatcher.Ready .stop rest) :
    (∃ behind : List Record, behind <:+ y.late ∧ rest = behind.map .record) ∧
      (y.stopping = .waiting ∨ y.stopping = .gaveUp) := by
  have hitems := hready.items
  rcases h.stop_once with ⟨records, hrecords⟩ | ⟨⟨records, behind, hlate, hrecords⟩, hstopping⟩
  · cases records <;> simp [hitems] at hrecords
  · cases records with
    | nil =>
      simp only [hitems, List.map_nil, List.nil_append, List.cons.injEq, true_and] at hrecords
      exact ⟨⟨behind, hlate, hrecords⟩, hstopping⟩
    | cons r records => simp [hitems] at hrecords

lemma Sound.stop_once_of_ready (h : y.Sound) {m : DispatchMessage} {rest : List DispatchMessage}
    (hready : y.dispatcher.Ready m rest) :
    (∃ records : List Record, rest = records.map .record) ∨
      (∃ records behind : List Record, behind <:+ y.late ∧
        rest = records.map .record ++ .stop :: behind.map .record) ∧
        (y.stopping = .waiting ∨ y.stopping = .gaveUp) := by
  have hitems := hready.items
  rcases h.stop_once with ⟨records, hrecords⟩ | ⟨⟨records, behind, hlate, hrecords⟩, hstopping⟩
  · cases records with
    | nil => simp [hitems] at hrecords
    | cons r records =>
      simp only [hitems, List.map_cons, List.cons.injEq] at hrecords
      exact .inl ⟨records, hrecords.2⟩
  · cases records with
    | nil =>
      simp only [hitems, List.map_nil, List.nil_append, List.cons.injEq] at hrecords
      exact .inl ⟨behind, hrecords.2⟩
    | cons r records =>
      simp only [hitems, List.map_cons, List.cons_append, List.cons.injEq] at hrecords
      exact .inr ⟨⟨records, behind, hlate, hrecords.2⟩, hstopping⟩

lemma Sound.not_exited_of_hasRoom (h : y.Sound) (hroom : y.dispatcher.HasRoom) :
    y.dispatcher.hasExited = false := by
  have hopen := h.isOpen
  rw [hroom.1] at hopen
  simpa using hopen.symm

lemma Sound.length_putting (h : y.Sound) (hroom : y.dispatcher.HasRoom) (m : DispatchMessage) :
    (y.dispatcher.putting m).queue.items.length ≤ y.dispatcher.config.maxQueueSize := by
  have hfits := hroom.2
  rw [h.capacity] at hfits
  simpa [putting] using Nat.succ_le_of_lt hfits

lemma Sound.conserved_of_not_exited (h : y.Sound) (hexit : y.dispatcher.hasExited = false) :
    y.delivered ++ y.dispatcher.inHand ++ y.dispatcher.queued = y.accepted ++ y.late := by
  obtain ⟨lost, hlost, haccepted⟩ := h.conserved
  cases lost with
  | none => simpa using haccepted
  | some r =>
    have htrue := (hlost rfl).1
    rw [hexit] at htrue
    cases htrue

lemma Sound.accepts (h : y.Sound) (r : Record) (hstop : y.dispatcher.isStopped = false)
    (hroom : y.dispatcher.HasRoom) :
    Sound { y with
      dispatcher := y.dispatcher.putting (.record r), accepted := y.accepted ++ [r] } := by
  have hidle := h.idle_of_not_stopped hstop
  have hexit := h.not_exited_of_hasRoom hroom
  have haccepted := h.conserved_of_not_exited hexit
  obtain ⟨records, hrecords⟩ := h.only_records (by rw [hidle]; decide) (by rw [hidle]; decide)
  refine
    { h with
      bounded := h.length_putting hroom _
      stop_once := .inl ⟨records ++ [r], by simp [putting, hrecords]⟩
      exited := fun htrue => absurd (htrue.symm.trans hexit) (by decide)
      conserved := ⟨none, by simp, ?_⟩ }
  rw [h.prompt hstop, List.append_nil] at haccepted
  change y.delivered ++ y.dispatcher.inHand ++ [] ++ (y.dispatcher.putting (.record r)).queued =
    y.accepted ++ [r] ++ y.late
  rw [h.prompt hstop, queued_putting_record, List.append_nil, List.append_nil, ← List.append_assoc,
    haccepted]

lemma Sound.acceptsLate (h : y.Sound) (r : Record) (hstop : y.dispatcher.isStopped = true)
    (hroom : y.dispatcher.HasRoom) :
    Sound { y with dispatcher := y.dispatcher.putting (.record r), late := y.late ++ [r] } := by
  have hexit := h.not_exited_of_hasRoom hroom
  have haccepted := h.conserved_of_not_exited hexit
  refine
    { h with
      bounded := h.length_putting hroom _
      stop_once := ?_
      exited := fun htrue => absurd (htrue.symm.trans hexit) (by decide)
      prompt := fun hopen => absurd (hopen.symm.trans hstop) (by decide)
      conserved := ⟨none, by simp, ?_⟩ }
  · rcases h.stop_once with ⟨records, hrecords⟩ | ⟨⟨records, behind, ⟨ahead, hlate⟩, hrecords⟩, hs⟩
    · exact .inl ⟨records ++ [r], by simp [putting, hrecords]⟩
    · refine .inr ⟨⟨records, behind ++ [r], ⟨ahead, ?_⟩, by simp [putting, hrecords]⟩, hs⟩
      rw [← List.append_assoc, hlate]
  · change y.delivered ++ y.dispatcher.inHand ++ [] ++ (y.dispatcher.putting (.record r)).queued =
      y.accepted ++ (y.late ++ [r])
    rw [queued_putting_record, List.append_nil, ← List.append_assoc, haccepted, List.append_assoc]

lemma Sound.takes (h : y.Sound) (r : Record) (rest : List DispatchMessage)
    (hready : y.dispatcher.Ready (.record r) rest) :
    Sound { y with dispatcher :=
      { y.dispatcher.taking (.record r) rest with phase := .delivering r y.dispatcher.sinks } } := by
  have haccepted := h.conserved_of_not_exited hready.not_exited
  have hbounded := h.bounded
  rw [hready.items, List.length_cons] at hbounded
  refine
    { h with
      bounded := Nat.le_of_succ_le hbounded
      isOpen := hready.isOpen
      stop_once := h.stop_once_of_ready hready
      exited := fun hexit => by cases hexit
      drained := fun hdrained => absurd hdrained (h.not_drained hready.not_exited)
      conserved := ⟨none, by simp, ?_⟩ }
  rw [hready.inHand, hready.queued_record] at haccepted
  change y.delivered ++ [r] ++ [] ++ (y.dispatcher.taking (.record r) rest).queued = _
  simpa using haccepted

/-- The worker ends, either on the message for it or because it abandons what is left. -/
lemma Sound.exits (h : y.Sound) {m : DispatchMessage} {rest : List DispatchMessage}
    (hready : y.dispatcher.Ready m rest)
    (hexited : y.dispatcher.isAbandoned = false → y.stopping = .waiting ∧
      ∃ behind : List Record, behind <:+ y.late ∧ rest = behind.map .record)
    (lost : Option Record) (hlost : lost.isSome → y.dispatcher.isAbandoned = true)
    (haccepted : y.delivered ++ lost.toList ++ (y.dispatcher.taking m rest).queued =
      y.accepted ++ y.late) :
    Sound { y with dispatcher := (y.dispatcher.taking m rest).exit } := by
  have hbounded := h.bounded
  rw [hready.items, List.length_cons] at hbounded
  refine
    { h with
      bounded := Nat.le_of_succ_le hbounded
      unmet := rfl
      isOpen := rfl
      stop_once := h.stop_once_of_ready hready
      exited := fun _ hgo => ⟨.inl (hexited hgo).1, (hexited hgo).2⟩
      drained := fun _ => rfl
      conserved := ⟨lost, fun hsome => ⟨rfl, hlost hsome⟩, ?_⟩ }
  change y.delivered ++ [] ++ lost.toList ++ (y.dispatcher.taking m rest).queued = _
  rw [List.append_nil]
  exact haccepted

lemma Sound.discards (h : y.Sound) (r : Record) (rest : List DispatchMessage)
    (hready : y.dispatcher.Ready (.record r) rest) (hleft : y.dispatcher.isAbandoned = true) :
    Sound { y with dispatcher := (y.dispatcher.taking (.record r) rest).exit } := by
  have haccepted := h.conserved_of_not_exited hready.not_exited
  rw [hready.inHand, hready.queued_record] at haccepted
  refine h.exits hready (fun hgo => ?_) (some r) (fun _ => hleft) (by simpa using haccepted)
  rw [hleft] at hgo
  cases hgo

lemma Sound.ends (h : y.Sound) (rest : List DispatchMessage)
    (hready : y.dispatcher.Ready .stop rest) :
    Sound { y with dispatcher := (y.dispatcher.taking .stop rest).exit } := by
  obtain ⟨hbehind, hstopping⟩ := h.rest_of_stop hready
  have haccepted := h.conserved_of_not_exited hready.not_exited
  rw [hready.inHand, hready.queued_stop] at haccepted
  refine h.exits hready (fun hgo => ⟨?_, hbehind⟩) none (by simp) (by simpa using haccepted)
  rcases hstopping with hwaiting | hgaveUp
  · exact hwaiting
  · have hleft := h.abandoned.mpr hgaveUp
    rw [hgo] at hleft
    cases hleft

lemma Sound.finishes (h : y.Sound) (r : Record)
    (hphase : y.dispatcher.phase = .delivering r []) :
    Sound { y with
      dispatcher := { y.dispatcher with phase := .waiting, delivered := y.dispatcher.delivered + 1 }
      delivered := y.delivered ++ [r] } := by
  have hexit : y.dispatcher.hasExited = false := by simp [hasExited, hphase]
  have haccepted := h.conserved_of_not_exited hexit
  refine
    { h with
      isOpen := ?_
      exited := fun hexit => by cases hexit
      drained := fun hdrained => absurd hdrained (h.not_drained hexit)
      conserved := ⟨none, by simp, ?_⟩ }
  · have hopen := h.isOpen
    rw [hexit] at hopen
    exact hopen
  · have hinHand : y.dispatcher.inHand = [r] := by rw [inHand, hphase]
    rw [hinHand] at haccepted
    change y.delivered ++ [r] ++ [] ++ [] ++ y.dispatcher.queued = _
    simpa using haccepted

lemma Sound.calls (h : y.Sound) (i : ι) (r : Record) (rest : List ι) (panics : Bool)
    (hphase : y.dispatcher.phase = .delivering r (i :: rest)) :
    Sound { y with
      dispatcher := { y.dispatcher with phase := .delivering r rest }
      calls := y.calls ++ [⟨i, r, panics⟩] } := by
  have hexit : y.dispatcher.hasExited = false := by simp [hasExited, hphase]
  have hinHand : y.dispatcher.inHand = [r] := by rw [inHand, hphase]
  have hopen := h.isOpen
  have haccepted := h.conserved_of_not_exited hexit
  rw [hexit] at hopen
  rw [hinHand] at haccepted
  refine
    { h with
      isOpen := hopen
      exited := fun hexit => by cases hexit
      drained := fun hdrained => absurd hdrained (h.not_drained hexit)
      conserved := ⟨none, by simp, ?_⟩ }
  change y.delivered ++ [r] ++ [] ++ y.dispatcher.queued = _
  simpa using haccepted

lemma Sound.refuses (h : y.Sound) (hstop : y.dispatcher.isStopped = false) :
    Sound { y with dispatcher := y.dispatcher.refuse, stopping := .sending } := by
  have hidle := h.idle_of_not_stopped hstop
  have hgo := h.not_abandoned (by rw [hidle]; decide)
  have hexit := h.not_exited hidle
  exact
    { h with
      stop_once := .inl (h.only_records (by rw [hidle]; decide) (by rw [hidle]; decide))
      stopped := by simp [refuse]
      abandoned := by simp [refuse, hgo]
      exited := fun htrue _ => absurd (htrue.symm.trans hexit) (by decide)
      drained := fun hdrained => by cases hdrained
      prompt := fun hopen => by cases hopen }

lemma Sound.sends (h : y.Sound) (hsending : y.stopping = .sending) (hroom : y.dispatcher.HasRoom) :
    Sound { y with dispatcher := y.dispatcher.putting .stop, stopping := .waiting } := by
  obtain ⟨records, hrecords⟩ := h.only_records (by rw [hsending]; decide) (by rw [hsending]; decide)
  obtain ⟨lost, hlost, haccepted⟩ := h.conserved
  have hexit := h.not_exited_of_hasRoom hroom
  have hstopped := h.stopped
  have habandoned := h.abandoned
  rw [hsending] at hstopped habandoned
  refine
    { h with
      bounded := h.length_putting hroom _
      stop_once := .inr ⟨⟨records, [], List.nil_suffix, by simp [putting, hrecords]⟩, .inl rfl⟩
      stopped := by simpa [putting] using hstopped
      abandoned := by simpa [putting] using habandoned
      exited := fun htrue => absurd (htrue.symm.trans hexit) (by decide)
      drained := fun hdrained => by cases hdrained
      conserved := ⟨lost, hlost, ?_⟩ }
  rw [queued_putting_stop]
  exact haccepted

lemma Sound.endFound (h : y.Sound) (hstopping : y.stopping = .sending ∨ y.stopping = .waiting)
    (hexit : y.dispatcher.hasExited = true) : Sound { y with stopping := .drained } := by
  have hstopped := h.stopped
  have hgo := h.not_abandoned (by rcases hstopping with hs | hs <;> simp [hs])
  obtain ⟨-, behind, hlate, hitems⟩ := h.exited hexit hgo
  refine
    { h with
      stop_once := .inl ⟨behind, hitems⟩
      stopped := ?_
      abandoned := by simp [hgo]
      exited := fun _ _ => ⟨.inr rfl, behind, hlate, hitems⟩
      drained := fun _ => hexit }
  rcases hstopping with hs | hs <;> simpa [hs] using hstopped

lemma Sound.givesUp (h : y.Sound) (hstopping : y.stopping = .sending ∨ y.stopping = .waiting) :
    Sound { y with dispatcher := y.dispatcher.abandon, stopping := .gaveUp } := by
  obtain ⟨lost, hlost, haccepted⟩ := h.conserved
  have hstopped := h.stopped
  refine
    { h with
      stop_once := h.stop_once.imp_right fun hstop => ⟨hstop.1, .inr rfl⟩
      stopped := ?_
      abandoned := by simp [abandon]
      exited := fun _ hgo => nomatch hgo
      drained := fun hdrained => nomatch hdrained
      conserved := ⟨lost, fun hsome => ⟨(hlost hsome).1, rfl⟩, haccepted⟩ }
  rcases hstopping with hs | hs <;> simpa [hs, abandon] using hstopped

/-- What holds of a session holds after every turn. -/
theorem Sound.turn (h : y.Sound) (hturn : y.Turn act y') : y'.Sound := by
  cases hturn with
  | accepts r _ hstop hroom => exact h.accepts r hstop hroom
  | acceptsLate r hstop hroom => exact h.acceptsLate r hstop hroom
  | drops _ _ _ => exact { h with }
  | takes r rest hready _ => exact h.takes r rest hready
  | discards r rest hready hleft => exact h.discards r rest hready hleft
  | ends rest hready => exact h.ends rest hready
  | calls i r rest panics hphase => exact h.calls i r rest panics hphase
  | finishes r hphase => exact h.finishes r hphase
  | refuses hstop => exact h.refuses hstop
  | sends hstopping hroom => exact h.sends hstopping hroom
  | findsClosed hstopping hopen =>
    apply h.endFound (.inl hstopping)
    have hexit := h.isOpen
    rw [hopen] at hexit
    simpa using hexit
  | findsEnd hstopping hexit => exact h.endFound (.inr hstopping) hexit
  | givesUp hstopping => exact h.givesUp hstopping
  | registers i => exact { h with }
  | clears => exact { h with }

theorem Sound.step (h : y.Sound) (act : Action ι) : (y.step act).Sound := by
  rcases step_turn h.unmet act with heq | hturn
  · rw [heq]
    exact h
  · exact h.turn hturn

theorem Sound.run (h : y.Sound) (actions : List (Action ι)) : (y.run actions).Sound := by
  induction actions using List.reverseRecOn with
  | nil => exact h
  | append_singleton actions act ih =>
    rw [run_concat]
    exact ih.step act

end Session

end Dispatcher

end TracePipeline
