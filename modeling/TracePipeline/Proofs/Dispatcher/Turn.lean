import TracePipeline.Proofs.Channel
import TracePipeline.Proofs.Dispatcher.Session

/-!
# What a turn can do

A turn on a dispatcher either changes nothing or does one of a few things, each only in a certain
state. All that is proved about sessions goes through these cases.
-/

namespace TracePipeline

namespace Dispatcher

variable {ι : Type}

/-- The queue without its oldest message. -/
def taking (d : Dispatcher ι) (m : DispatchMessage) (rest : List DispatchMessage) : Dispatcher ι :=
  { d with queue := { d.queue with items := rest, received := d.queue.received ++ [m] } }

/-- The queue with another message. -/
def putting (d : Dispatcher ι) (m : DispatchMessage) : Dispatcher ι :=
  { d with queue := { d.queue with items := d.queue.items ++ [m] } }

/-- There is room in the queue, and it is still read. -/
def HasRoom (d : Dispatcher ι) : Prop :=
  d.queue.isOpen = true ∧ d.queue.items.length < d.queue.capacity

/-- The worker can take a message now, with the others that are queued. -/
structure Ready (d : Dispatcher ι) (m : DispatchMessage) (rest : List DispatchMessage) : Prop where
  phase : d.phase = .waiting
  isOpen : d.queue.isOpen = true
  items : d.queue.items = m :: rest

lemma put_of_hasRoom {d : Dispatcher ι} (h : d.HasRoom) (r : Record) :
    d.put r = (true, d.putting (.record r)) := by
  simp [put, Channel.trySend_of_hasRoom h, putting]

lemma put_of_not_hasRoom {d : Dispatcher ι} (h : ¬ d.HasRoom) (hwait : d.queue.isWaiting = false)
    (r : Record) : d.put r = (false, { d with dropped := d.dropped + 1 }) := by
  simp [put, Channel.trySend_of_not_hasRoom h hwait]

lemma take_cases {d d' : Dispatcher ι} (h : d.take = some d') :
    ∃ m rest, d.Ready m rest ∧
      (m = .stop ∧ d' = (d.taking m rest).exit ∨
        (∃ r, m = .record r) ∧ d.isAbandoned = true ∧ d' = (d.taking m rest).exit ∨
        ∃ r, m = .record r ∧ d.isAbandoned = false ∧
          d' = { d.taking m rest with phase := .delivering r d.sinks }) := by
  rw [take] at h
  split at h
  · rename_i hphase
    split at h
    · cases h
    · rename_i queue hqueue
      obtain ⟨hopen, rest, hitems, rfl⟩ := Channel.take_cases hqueue
      exact ⟨.stop, rest, ⟨hphase, hopen, hitems⟩, .inl ⟨rfl, (Option.some.inj h).symm⟩⟩
    · rename_i r queue hqueue
      obtain ⟨hopen, rest, hitems, rfl⟩ := Channel.take_cases hqueue
      refine ⟨.record r, rest, ⟨hphase, hopen, hitems⟩, ?_⟩
      split at h
      · rename_i hleft
        exact .inr (.inl ⟨⟨r, rfl⟩, hleft, (Option.some.inj h).symm⟩)
      · rename_i hgo
        exact .inr (.inr ⟨r, rfl, Bool.eq_false_iff.mpr hgo, (Option.some.inj h).symm⟩)
  · cases h

lemma nextCall?_eq_some_iff {d : Dispatcher ι} {i : ι} {r : Record} :
    d.nextCall? = some (i, r) ↔ ∃ rest, d.phase = .delivering r (i :: rest) := by
  rw [nextCall?]
  constructor
  · intro h
    split at h
    · rename_i r' j rest hphase
      cases h
      exact ⟨rest, hphase⟩
    · cases h
  · rintro ⟨rest, hphase⟩
    rw [hphase]

lemma called_eq {d : Dispatcher ι} {i : ι} {r : Record} {rest : List ι}
    (h : d.phase = .delivering r (i :: rest)) :
    d.called = { d with phase := .delivering r rest } := by
  rw [called, h]

lemma finish_cases {d d' : Dispatcher ι} (h : d.finish = some d') :
    ∃ r, d.phase = .delivering r [] ∧
      d' = { d with phase := .waiting, delivered := d.delivered + 1 } := by
  rw [finish] at h
  split at h
  · rename_i r hphase
    exact ⟨r, hphase, (Option.some.inj h).symm⟩
  · cases h

namespace Session

/-- One turn that changed a session, from `y` to `y'`. -/
inductive Turn (y : Session ι) : Action ι → Session ι → Prop where
  | accepts (r lookedBefore) (hstop : y.dispatcher.isStopped = false)
      (hroom : y.dispatcher.HasRoom) :
    Turn y (.dispatch r lookedBefore)
      { y with dispatcher := y.dispatcher.putting (.record r), accepted := y.accepted ++ [r] }
  | acceptsLate (r) (hstop : y.dispatcher.isStopped = true) (hroom : y.dispatcher.HasRoom) :
    Turn y (.dispatch r true)
      { y with dispatcher := y.dispatcher.putting (.record r), late := y.late ++ [r] }
  | drops (r lookedBefore)
      (h : y.dispatcher.isStopped = true ∧ lookedBefore = false ∨ ¬ y.dispatcher.HasRoom) :
    Turn y (.dispatch r lookedBefore)
      { y with dispatcher := { y.dispatcher with dropped := y.dispatcher.dropped + 1 } }
  | takes (r rest) (hready : y.dispatcher.Ready (.record r) rest)
      (hgo : y.dispatcher.isAbandoned = false) :
    Turn y .take
      { y with dispatcher :=
          { y.dispatcher.taking (.record r) rest with
            phase := .delivering r y.dispatcher.sinks } }
  | discards (r rest) (hready : y.dispatcher.Ready (.record r) rest)
      (hleft : y.dispatcher.isAbandoned = true) :
    Turn y .take { y with dispatcher := (y.dispatcher.taking (.record r) rest).exit }
  | ends (rest) (hready : y.dispatcher.Ready .stop rest) :
    Turn y .take { y with dispatcher := (y.dispatcher.taking .stop rest).exit }
  | calls (i r rest panics) (hphase : y.dispatcher.phase = .delivering r (i :: rest)) :
    Turn y (.call panics)
      { y with
        dispatcher := { y.dispatcher with phase := .delivering r rest }
        calls := y.calls ++ [⟨i, r, panics⟩] }
  | finishes (r) (hphase : y.dispatcher.phase = .delivering r []) :
    Turn y .finish
      { y with
        dispatcher :=
          { y.dispatcher with phase := .waiting, delivered := y.dispatcher.delivered + 1 }
        delivered := y.delivered ++ [r] }
  | refuses (hstop : y.dispatcher.isStopped = false) :
    Turn y .stop { y with dispatcher := y.dispatcher.refuse, stopping := .sending }
  | sends (hstopping : y.stopping = .sending) (hroom : y.dispatcher.HasRoom) :
    Turn y .trySend
      { y with dispatcher := y.dispatcher.putting .stop, stopping := .waiting }
  | findsClosed (hstopping : y.stopping = .sending) (hopen : y.dispatcher.queue.isOpen = false) :
    Turn y .trySend { y with stopping := .drained }
  | findsEnd (hstopping : y.stopping = .waiting) (hexit : y.dispatcher.hasExited = true) :
    Turn y .await { y with stopping := .drained }
  | givesUp (hstopping : y.stopping = .sending ∨ y.stopping = .waiting) :
    Turn y .deadline { y with dispatcher := y.dispatcher.abandon, stopping := .gaveUp }
  | registers (i) : Turn y (.register i) { y with dispatcher := y.dispatcher.register i }
  | clears : Turn y .clear { y with dispatcher := y.dispatcher.clear }

lemma turn_put {y : Session ι} (hwait : y.dispatcher.queue.isWaiting = false) (r : Record)
    (lookedBefore : Bool)
    (hput : y.step (.dispatch r lookedBefore) = y.note r (y.dispatcher.put r))
    (hlooked : y.dispatcher.isStopped = true → lookedBefore = true) :
    Turn y (.dispatch r lookedBefore) (y.step (.dispatch r lookedBefore)) := by
  rw [note] at hput
  by_cases hroom : y.dispatcher.HasRoom
  · rw [put_of_hasRoom hroom, if_pos rfl, accept] at hput
    cases hstop : y.dispatcher.isStopped with
    | true =>
      rw [hstop, if_pos rfl] at hput
      rw [hput, hlooked hstop]
      exact .acceptsLate r hstop hroom
    | false =>
      rw [hstop, if_neg Bool.false_ne_true] at hput
      rw [hput]
      exact .accepts r lookedBefore hstop hroom
  · rw [put_of_not_hasRoom hroom hwait, if_neg Bool.false_ne_true] at hput
    rw [hput]
    exact .drops r lookedBefore (.inr hroom)

lemma turn_dispatch {y : Session ι} (hwait : y.dispatcher.queue.isWaiting = false) (r : Record)
    (lookedBefore : Bool) :
    Turn y (.dispatch r lookedBefore) (y.step (.dispatch r lookedBefore)) := by
  cases lookedBefore with
  | true => exact turn_put hwait r true rfl fun _ => rfl
  | false =>
    cases hstop : y.dispatcher.isStopped with
    | true =>
      have hstep : y.step (.dispatch r false) =
          { y with dispatcher := { y.dispatcher with dropped := y.dispatcher.dropped + 1 } } := by
        simp [step, note, dispatch, hstop]
      rw [hstep]
      exact .drops r false (.inl ⟨hstop, rfl⟩)
    | false =>
      apply turn_put hwait r false
      · simp [step, dispatch, hstop]
      · intro htrue
        rw [hstop] at htrue
        cases htrue

lemma turn_take {y : Session ι} {d : Dispatcher ι} (h : y.dispatcher.take = some d) :
    Turn y .take { y with dispatcher := d } := by
  obtain ⟨m, rest, hready, ⟨rfl, rfl⟩ | ⟨⟨r, rfl⟩, hleft, rfl⟩ | ⟨r, rfl, hgo, rfl⟩⟩ := take_cases h
  · exact .ends rest hready
  · exact .discards r rest hready hleft
  · exact .takes r rest hready hgo

lemma turn_finish {y : Session ι} {d : Dispatcher ι} (h : y.dispatcher.finish = some d) :
    Turn y .finish { y with dispatcher := d, delivered := y.delivered ++ y.dispatcher.inHand } := by
  obtain ⟨r, hphase, rfl⟩ := finish_cases h
  have hinHand : y.dispatcher.inHand = [r] := by rw [inHand, hphase]
  rw [hinHand]
  exact .finishes r hphase

lemma turn_trySend {y : Session ι} (hwait : y.dispatcher.queue.isWaiting = false) :
    y.step .trySend = y ∨ Turn y .trySend (y.step .trySend) := by
  by_cases hstopping : y.stopping = .sending
  · by_cases hroom : y.dispatcher.HasRoom
    · have hstep : y.step .trySend =
          { y with dispatcher := y.dispatcher.putting .stop, stopping := .waiting } := by
        simp [step, hstopping, sendStop, Channel.trySend_of_hasRoom hroom, putting, Except.map]
      rw [hstep]
      exact .inr (.sends hstopping hroom)
    · cases hopen : y.dispatcher.queue.isOpen with
      | true =>
        left
        simp [step, hstopping, sendStop, Channel.trySend_of_not_hasRoom hroom hwait, hopen,
          Except.map]
      | false =>
        have hstep : y.step .trySend = { y with stopping := .drained } := by
          simp [step, hstopping, sendStop, Channel.trySend_of_not_hasRoom hroom hwait, hopen,
            Except.map]
        rw [hstep]
        exact .inr (.findsClosed hstopping hopen)
  · left
    cases h : y.stopping <;> simp_all [step]

/-- What a turn can do. -/
theorem step_turn {y : Session ι} (hwait : y.dispatcher.queue.isWaiting = false) (act : Action ι) :
    y.step act = y ∨ Turn y act (y.step act) := by
  cases act with
  | dispatch r lookedBefore => exact .inr (turn_dispatch hwait r lookedBefore)
  | take =>
    rw [step]
    cases h : y.dispatcher.take with
    | none => exact .inl rfl
    | some d => exact .inr (turn_take h)
  | call panics =>
    rw [step]
    cases h : y.dispatcher.nextCall? with
    | none => exact .inl rfl
    | some next =>
      obtain ⟨i, r⟩ := next
      obtain ⟨rest, hphase⟩ := nextCall?_eq_some_iff.mp h
      right
      rw [Option.elim_some, called_eq hphase]
      exact .calls i r rest panics hphase
  | finish =>
    rw [step]
    cases h : y.dispatcher.finish with
    | none => exact .inl rfl
    | some d => exact .inr (turn_finish h)
  | stop =>
    rw [step]
    cases h : y.dispatcher.isStopped with
    | true => exact .inl rfl
    | false => exact .inr (.refuses h)
  | trySend => exact turn_trySend hwait
  | await =>
    rw [step]
    split
    · rename_i h
      exact .inr (.findsEnd h.1 h.2)
    · exact .inl rfl
  | deadline =>
    rw [step]
    split
    · rename_i h
      exact .inr (.givesUp h)
    · exact .inl rfl
  | register i => exact .inr (.registers i)
  | clear => exact .inr .clears

end Session

end Dispatcher

end TracePipeline
