import TracePipeline.Proofs.Channel

/-!
# Sending with a deadline

An attempt to send tries again after each pause in which the receiver moves, and a try that fails leaves
the channel alone. So all that an attempt did is what its last try did: that one put the message in, or it
was the first that found the receiver gone, or the first that found the channel full with the clock at
the deadline. The time of a try is what the clock shows when it has failed.

From this it follows that no message is lost or comes twice: whatever is sent and taken, the messages that
have passed, and those in the queue after them, are the ones that were there at first and then the ones
that were sent.
-/

namespace TracePipeline

namespace Channel

variable {α : Type}

/-- All messages that came into the channel, oldest first. -/
def entered (c : Channel α) : List α := c.received ++ c.items

/-- A message can be queued, or handed over to the receiver that waits. -/
def Accepts (c : Channel α) : Prop :=
  c.isOpen = true ∧ (c.items.length < c.capacity ∨ c.isWaiting = true)

/-- The receiver still exists, but there is no room and it does not wait. -/
def IsFull (c : Channel α) : Prop :=
  c.isOpen = true ∧ c.capacity ≤ c.items.length ∧ c.isWaiting = false

/-- The channel with one more message: queued if there is room, else handed over. -/
def accept (c : Channel α) (m : α) : Channel α :=
  if c.items.length < c.capacity then { c with items := c.items ++ [m] }
  else { c with isWaiting := false, received := c.received ++ [m] }

/-- An attempt to send comes to a try that finds the channel as `d`, with the pauses `left` after it. It
tries again if the channel was full before the deadline, when the receiver has moved. -/
inductive Tries (deadline : Nat) : List Pause → Channel α → List Pause → Channel α → Prop where
  | first (pauses : List Pause) (c : Channel α) : Tries deadline pauses c pauses c
  | again {p : Pause} {rest left : List Pause} {c d : Channel α} :
      c.IsFull → p.now < deadline → Tries deadline rest (p.moves.foldl move c) left d →
      Tries deadline (p :: rest) c left d

/-- The messages that an attempt to send `m` brought into the channel, by how it ended. -/
def Outcome.delivered (m : α) : Outcome α → List α
  | .sent => [m]
  | .failed _ => []
  | .pending _ => []

/-- What the last try of an attempt found, and what became of it. -/
inductive Ends (deadline : Nat) (m : α) (pauses : List Pause) (c : Channel α) :
    Outcome α → Channel α → Prop where
  | sent {left : List Pause} {d : Channel α} :
      Tries deadline pauses c left d → d.Accepts → Ends deadline m pauses c .sent (d.accept m)
  | full {p : Pause} {left : List Pause} {d : Channel α} :
      Tries deadline pauses c (p :: left) d → d.IsFull → deadline ≤ p.now →
      Ends deadline m pauses c (.failed (.full m)) d
  | disconnected {left : List Pause} {d : Channel α} :
      Tries deadline pauses c left d → d.isOpen = false →
      Ends deadline m pauses c (.failed (.disconnected m)) d
  | pending {d : Channel α} :
      Tries deadline pauses c [] d → d.IsFull → Ends deadline m pauses c (.pending m) d

/-- How an attempt to send `m` ends, and as what it leaves the channel. -/
structure Attempts (deadline : Nat) (m : α) (pauses : List Pause) (c : Channel α)
    (outcome : Outcome α) (after : Channel α) : Prop where
  last : Ends deadline m pauses c outcome after
  entered : after.entered = c.entered ++ outcome.delivered m
  sent_iff : outcome = .sent ↔ ∃ left d, Tries deadline pauses c left d ∧ d.Accepts
  full_iff : outcome = .failed (.full m) ↔
    ∃ p left d, Tries deadline pauses c (p :: left) d ∧ d.IsFull ∧ deadline ≤ p.now
  disconnected_iff : outcome = .failed (.disconnected m) ↔
    ∃ left d, Tries deadline pauses c left d ∧ d.isOpen = false
  not_pending : (∃ p ∈ pauses, deadline ≤ p.now) → outcome ≠ .pending m
  bounded : ∀ left d, Tries deadline pauses c left d → d.items.length ≤ c.capacity
  room : c.HasRoom → outcome = .sent ∧ after = { c with items := c.items ++ [m] }

/-- The queue is within its capacity, and the receiver waits at a meeting point only. -/
structure Sound (c : Channel α) : Prop where
  bounded : c.items.length ≤ c.capacity
  meets : c.isWaiting = true → c.capacity = 0

variable {c d d' after : Channel α} {m : α} {deadline : Nat} {pauses left : List Pause}
  {outcome : Outcome α}

/-! ### One try -/

lemma trySend_of_accepts (h : c.Accepts) (m : α) : c.trySend m = .ok (c.accept m) := by
  obtain ⟨hopen, hroom | hwait⟩ := h
  · unfold accept
    rw [trySend_of_hasRoom ⟨hopen, hroom⟩, if_pos hroom]
  · unfold trySend accept
    rw [hopen, hwait]
    split
    · rename_i hclosed
      cases hclosed
    · split
      · rfl
      · rfl

lemma trySend_of_isFull (h : c.IsFull) (m : α) : c.trySend m = .error (.full m) := by
  obtain ⟨hopen, hfull, hwait⟩ := h
  have hroom : ¬ c.HasRoom := fun hroom => Nat.not_lt.mpr hfull hroom.2
  rw [trySend_of_not_hasRoom hroom hwait, if_pos hopen]

lemma trySend_of_closed (h : c.isOpen = false) (m : α) : c.trySend m = .error (.disconnected m) := by
  unfold trySend
  rw [h]
  rfl

/-- What a try may find. -/
lemma accepts_or_closed_or_isFull (c : Channel α) : c.Accepts ∨ c.isOpen = false ∨ c.IsFull := by
  cases hopen : c.isOpen with
  | false => exact .inr (.inl rfl)
  | true =>
    by_cases hroom : c.items.length < c.capacity
    · exact .inl ⟨hopen, .inl hroom⟩
    · cases hwait : c.isWaiting with
      | true => exact .inl ⟨hopen, .inr hwait⟩
      | false => exact .inr (.inr ⟨hopen, Nat.not_lt.mp hroom, hwait⟩)

/-! ### Tries of one attempt -/

lemma sendUntil_of_accepts (h : c.Accepts) (deadline : Nat) (m : α) (pauses : List Pause) :
    sendUntil deadline m pauses c = (.sent, c.accept m) := by
  cases pauses with
  | nil => rw [sendUntil, trySend_of_accepts h]
  | cons p rest => rw [sendUntil, trySend_of_accepts h]

lemma sendUntil_of_closed (h : c.isOpen = false) (deadline : Nat) (m : α) (pauses : List Pause) :
    sendUntil deadline m pauses c = (.failed (.disconnected m), c) := by
  cases pauses with
  | nil => rw [sendUntil, trySend_of_closed h]
  | cons p rest => rw [sendUntil, trySend_of_closed h]

lemma sendUntil_of_isFull (h : c.IsFull) (deadline : Nat) (m : α) (p : Pause) (rest : List Pause) :
    sendUntil deadline m (p :: rest) c =
      if deadline ≤ p.now then (.failed (.full m), c)
      else sendUntil deadline m rest (p.moves.foldl move c) := by
  rw [sendUntil, trySend_of_isFull h]

lemma sendUntil_nil_of_isFull (h : c.IsFull) (deadline : Nat) (m : α) :
    sendUntil deadline m [] c = (.pending m, c) := by
  rw [sendUntil, trySend_of_isFull h]

/-- All tries before one that an attempt comes to make no difference but that the receiver has moved. -/
lemma Tries.sendUntil_eq (h : Tries deadline pauses c left d) (m : α) :
    sendUntil deadline m pauses c = sendUntil deadline m left d := by
  induction h with
  | first => rfl
  | again hfull hearly htries ih =>
    rw [sendUntil_of_isFull hfull, if_neg (Nat.not_le.mpr hearly), ih]

lemma Ends.again {p : Pause} {rest : List Pause} (hfull : c.IsFull)
    (hearly : p.now < deadline) (h : Ends deadline m rest (p.moves.foldl move c) outcome d) :
    Ends deadline m (p :: rest) c outcome d := by
  cases h with
  | sent htries haccepts => exact .sent (.again hfull hearly htries) haccepts
  | full htries hd hlate => exact .full (.again hfull hearly htries) hd hlate
  | disconnected htries hclosed => exact .disconnected (.again hfull hearly htries) hclosed
  | pending htries hd => exact .pending (.again hfull hearly htries) hd

lemma ends (deadline : Nat) (m : α) (pauses : List Pause) (c : Channel α) :
    Ends deadline m pauses c (sendUntil deadline m pauses c).1
      (sendUntil deadline m pauses c).2 := by
  induction pauses generalizing c with
  | nil =>
    obtain haccepts | hclosed | hfull := c.accepts_or_closed_or_isFull
    · rw [sendUntil_of_accepts haccepts]
      exact .sent (.first [] c) haccepts
    · rw [sendUntil_of_closed hclosed]
      exact .disconnected (.first [] c) hclosed
    · rw [sendUntil_nil_of_isFull hfull]
      exact .pending (.first [] c) hfull
  | cons p rest ih =>
    obtain haccepts | hclosed | hfull := c.accepts_or_closed_or_isFull
    · rw [sendUntil_of_accepts haccepts]
      exact .sent (.first _ c) haccepts
    · rw [sendUntil_of_closed hclosed]
      exact .disconnected (.first _ c) hclosed
    · rw [sendUntil_of_isFull hfull]
      split
      · rename_i hlate
        exact .full (.first _ c) hfull hlate
      · rename_i hearly
        exact (ih (p.moves.foldl move c)).again hfull (Nat.not_le.mp hearly)

/-- A pause after which the clock is past the deadline is never over. -/
lemma Tries.mem_left (h : Tries deadline pauses c left d) :
    ∀ p ∈ pauses, deadline ≤ p.now → p ∈ left := by
  induction h with
  | first => exact fun p hp _ => hp
  | again hfull hearly htries ih =>
    intro p hp hlate
    obtain rfl | hrest := List.mem_cons.mp hp
    · exact absurd hlate (Nat.not_le.mpr hearly)
    · exact ih p hrest hlate

/-! ### What the receiver keeps -/

/-- Nothing came into the channel on the way from `c` to `d`, and nothing was lost. -/
structure Keeps (c d : Channel α) : Prop where
  entered : d.entered = c.entered
  capacity : d.capacity = c.capacity
  sound : c.Sound → d.Sound

lemma Keeps.refl (c : Channel α) : Keeps c c := ⟨rfl, rfl, id⟩

lemma Keeps.trans (h : Keeps c d) (h' : Keeps d d') : Keeps c d' :=
  ⟨h'.entered.trans h.entered, h'.capacity.trans h.capacity, h'.sound ∘ h.sound⟩

lemma Keeps.nothing (h : Keeps c d) (hc : c.Sound) :
    d.Sound ∧ d.capacity = c.capacity ∧ d.entered = c.entered ++ [] :=
  ⟨h.sound hc, h.capacity, h.entered.trans (List.append_nil c.entered).symm⟩

lemma keeps_take (c : Channel α) : Keeps c c.take.2 := by
  unfold take
  split
  · exact .refl c
  · rename_i m rest hitems
    split
    · constructor
      · unfold entered
        rw [hitems]
        exact List.append_assoc c.received [m] rest
      · rfl
      · intro h
        have hbounded := h.bounded
        rw [hitems, List.length_cons] at hbounded
        exact ⟨Nat.le_of_succ_le hbounded, h.meets⟩
    · exact .refl c

lemma keeps_move (c : Channel α) (a : Move) : Keeps c (c.move a) := by
  cases a with
  | take => exact c.keeps_take
  | close => exact ⟨rfl, rfl, fun h => ⟨h.bounded, fun hwait => absurd hwait Bool.false_ne_true⟩⟩
  | wait =>
    unfold move
    dsimp only
    split
    · rename_i hmeet
      rw [Bool.and_eq_true, beq_iff_eq] at hmeet
      exact ⟨rfl, rfl, fun h => ⟨h.bounded, fun _ => hmeet.2⟩⟩
    · exact .refl c

lemma keeps_foldl (c : Channel α) (moves : List Move) : Keeps c (moves.foldl move c) := by
  induction moves generalizing c with
  | nil => exact .refl c
  | cons a moves ih => exact (c.keeps_move a).trans (ih (c.move a))

/-- Until its last try an attempt does nothing to the channel. -/
lemma Tries.keeps (h : Tries deadline pauses c left d) : Keeps c d := by
  induction h with
  | first pauses c => exact .refl c
  | again hfull hearly htries ih => exact (keeps_foldl _ _).trans ih

/-- Who takes a message gets the one that is counted as received. -/
lemma received_take (c : Channel α) : c.take.2.received = c.received ++ c.take.1.toList := by
  unfold take
  split
  · exact (List.append_nil c.received).symm
  · split
    · rfl
    · exact (List.append_nil c.received).symm

lemma capacity_accept (c : Channel α) (m : α) : (c.accept m).capacity = c.capacity := by
  unfold accept
  split
  · rfl
  · rfl

/-- A receiver that waits has nothing left to take, so a message that is handed over comes last. -/
lemma Sound.entered_accept (h : c.Sound) (haccepts : c.Accepts) (m : α) :
    (c.accept m).entered = c.entered ++ [m] := by
  unfold accept entered
  split
  · exact (List.append_assoc c.received c.items [m]).symm
  · rename_i hfull
    have hzero := h.meets (haccepts.2.resolve_left hfull)
    have hbounded := h.bounded
    have hnone : c.items = [] := List.eq_nil_of_length_eq_zero (by omega)
    rw [hnone, List.append_nil, List.append_nil]

lemma Sound.accept (h : c.Sound) (m : α) : (c.accept m).Sound := by
  unfold Channel.accept
  split
  · rename_i hroom
    refine ⟨?_, h.meets⟩
    rw [List.length_append]
    exact hroom
  · exact ⟨h.bounded, fun hwait => absurd hwait Bool.false_ne_true⟩

lemma Ends.keeps (h : Ends deadline m pauses c outcome after) (hc : c.Sound) :
    after.Sound ∧ after.capacity = c.capacity ∧
      after.entered = c.entered ++ outcome.delivered m := by
  cases h with
  | @sent left d htries haccepts =>
    have hkeeps := htries.keeps
    have hd := hkeeps.sound hc
    refine ⟨hd.accept m, (d.capacity_accept m).trans hkeeps.capacity, ?_⟩
    rw [hd.entered_accept haccepts, hkeeps.entered]
    rfl
  | full htries hfull hlate => exact htries.keeps.nothing hc
  | disconnected htries hclosed => exact htries.keeps.nothing hc
  | pending htries hfull => exact htries.keeps.nothing hc

/-- An attempt that comes to a try ends as one that begins there. -/
lemma Tries.result (h : Tries deadline pauses c left d)
    (hresult : sendUntil deadline m pauses c = (outcome, after)) :
    sendUntil deadline m left d = (outcome, after) := (h.sendUntil_eq m).symm.trans hresult

lemma Sound.attempts (hc : c.Sound) (hresult : sendUntil deadline m pauses c = (outcome, after)) :
    Attempts deadline m pauses c outcome after := by
  have hends := c.ends deadline m pauses
  rw [hresult] at hends
  constructor
  case last => exact hends
  case entered => exact (hends.keeps hc).2.2
  case sent_iff =>
    constructor
    · rintro rfl
      cases hends with
      | sent htries haccepts => exact ⟨_, _, htries, haccepts⟩
    · rintro ⟨left, d, htries, haccepts⟩
      have hlast := htries.result hresult
      rw [sendUntil_of_accepts haccepts] at hlast
      exact (congrArg Prod.fst hlast).symm
  case full_iff =>
    constructor
    · rintro rfl
      cases hends with
      | full htries hfull hlate => exact ⟨_, _, _, htries, hfull, hlate⟩
    · rintro ⟨p, left, d, htries, hfull, hlate⟩
      have hlast := htries.result hresult
      rw [sendUntil_of_isFull hfull, if_pos hlate] at hlast
      exact (congrArg Prod.fst hlast).symm
  case disconnected_iff =>
    constructor
    · rintro rfl
      cases hends with
      | disconnected htries hclosed => exact ⟨_, _, htries, hclosed⟩
    · rintro ⟨left, d, htries, hclosed⟩
      have hlast := htries.result hresult
      rw [sendUntil_of_closed hclosed] at hlast
      exact (congrArg Prod.fst hlast).symm
  case not_pending =>
    rintro ⟨p, hp, hlate⟩ rfl
    cases hends with
    | pending htries hfull => exact absurd (htries.mem_left p hp hlate) List.not_mem_nil
  case bounded =>
    intro left d htries
    have hkeeps := htries.keeps
    rw [← hkeeps.capacity]
    exact (hkeeps.sound hc).bounded
  case room =>
    intro hroom
    rw [sendUntil_of_accepts ⟨hroom.1, .inl hroom.2⟩, Channel.accept, if_pos hroom.2] at hresult
    cases hresult
    exact ⟨rfl, rfl⟩

/-! ### Many messages -/

/-- What senders and the receiver do, one thing after the other. -/
inductive Action (α : Type) where
  | send (deadline : Nat) (m : α) (pauses : List Pause)
  | receive (a : Move)

/-- A channel and the messages for which sending succeeded, in the order in which they were sent. -/
structure Session (α : Type) where
  channel : Channel α
  sent : List α

/-- A message that is pending after the last pause has not come in, and nobody tries it any more. -/
def Session.step (y : Session α) : Action α → Session α
  | .send deadline m pauses =>
    let (outcome, c) := y.channel.sendUntil deadline m pauses
    { channel := c, sent := y.sent ++ outcome.delivered m }
  | .receive a => { y with channel := y.channel.move a }

/-- The session after some actions on a new channel that holds the given messages. -/
def session (capacity : Nat) (initial : List α) (actions : List (Action α)) : Session α :=
  actions.foldl Session.step ⟨{ new capacity with items := initial }, []⟩

/-- What holds after any actions, and of any attempt to send after them. -/
structure Delivers (capacity : Nat) (initial : List α) (y : Session α) : Prop where
  entered : y.channel.received ++ y.channel.items = initial ++ y.sent
  bounded : y.channel.items.length ≤ capacity
  attempts : ∀ deadline m pauses, Attempts deadline m pauses y.channel
    (y.channel.sendUntil deadline m pauses).1 (y.channel.sendUntil deadline m pauses).2
  takes : ∀ c : Channel α, c.take.2.received = c.received ++ c.take.1.toList

/-- Nothing is lost and nothing comes twice. -/
structure Conserves (capacity : Nat) (initial : List α) (y : Session α) : Prop where
  entered : y.channel.entered = initial ++ y.sent
  sound : y.channel.Sound
  fixed : y.channel.capacity = capacity

variable {capacity : Nat} {initial : List α} {y : Session α}

lemma Conserves.send (h : Conserves capacity initial y) (deadline : Nat) (m : α)
    (pauses : List Pause) : Conserves capacity initial (y.step (.send deadline m pauses)) := by
  obtain ⟨hsound, hcapacity, hentered⟩ := (y.channel.ends deadline m pauses).keeps h.sound
  refine ⟨?_, hsound, hcapacity.trans h.fixed⟩
  unfold Session.step
  dsimp only
  rw [hentered, h.entered, List.append_assoc]

lemma Conserves.receive (h : Conserves capacity initial y) (a : Move) :
    Conserves capacity initial (y.step (.receive a)) := by
  have hkeeps := y.channel.keeps_move a
  exact ⟨hkeeps.entered.trans h.entered, hkeeps.sound h.sound, hkeeps.capacity.trans h.fixed⟩

lemma Conserves.foldl (h : Conserves capacity initial y) (actions : List (Action α)) :
    Conserves capacity initial (actions.foldl Session.step y) := by
  induction actions generalizing y with
  | nil => exact h
  | cons a actions ih =>
    cases a with
    | send deadline m pauses => exact ih (h.send deadline m pauses)
    | receive a => exact ih (h.receive a)

lemma delivers_of_conserves (h : Conserves capacity initial y) : Delivers capacity initial y where
  entered := h.entered
  bounded := by
    rw [← h.fixed]
    exact h.sound.bounded
  attempts deadline m pauses := h.sound.attempts rfl
  takes := received_take

/-- Whatever the capacity of a channel, the messages in it at first, and what is done with it, every
message that was sent came into it once. -/
theorem delivers_once (capacity : Nat) (initial : List α) (hfits : initial.length ≤ capacity)
    (actions : List (Action α)) :
    Delivers capacity initial (session capacity initial actions) := by
  have hstart : Conserves capacity initial ⟨{ new capacity with items := initial }, []⟩ :=
    ⟨(List.append_nil initial).symm, ⟨hfits, fun hwait => absurd hwait Bool.false_ne_true⟩, rfl⟩
  exact delivers_of_conserves (hstart.foldl actions)

/-- A full channel with a message that is taken between two tries, and a second message that does not get
in before its deadline. -/
theorem delivers_once_after_take :
    [1].length ≤ 1 ∧
      Delivers 1 [1] (session 1 [1] [.send 5 2 [⟨0, [.take]⟩], .send 9 3 [⟨7, []⟩, ⟨9, [.take]⟩]]) ∧
      (session 1 [1] [.send 5 2 [⟨0, [.take]⟩], .send 9 3 [⟨7, []⟩, ⟨9, [.take]⟩]]).sent = [2] := by
  refine ⟨by decide, ?_, rfl⟩
  exact delivers_once 1 [1] (by decide) _

example : (session 0 [] [.send 5 2 [⟨0, [.wait]⟩], .receive .wait, .send 0 3 []]).channel.received =
    [2, 3] := rfl

end Channel

end TracePipeline
