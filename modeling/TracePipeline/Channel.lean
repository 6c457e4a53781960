/-!
# Bounded channels

A queue with a limit between senders that never block and one receiver. With capacity zero it is a
meeting point: a message passes only while the receiver waits for it. A sender that may wait tries
again and again until its deadline; what the receiver does between two tries is given from outside.
-/

namespace TracePipeline

structure Channel (α : Type) where
  capacity : Nat
  /-- The messages that were sent and not taken, oldest first. -/
  items : List α
  /-- Whether the receiver still exists. -/
  isOpen : Bool
  /-- Whether the receiver waits at an empty channel of capacity zero. -/
  isWaiting : Bool
  /-- The messages that the receiver got, oldest first. -/
  received : List α

/-- Why a message was not sent, with the message. -/
inductive SendError (α : Type) where
  | full (message : α)
  | disconnected (message : α)

namespace Channel

variable {α : Type}

def new (capacity : Nat) : Channel α := ⟨capacity, [], true, false, []⟩

/-- Sends a message if it can be queued, or handed over, at once. -/
def trySend (c : Channel α) (m : α) : Except (SendError α) (Channel α) :=
  if !c.isOpen then .error (.disconnected m)
  else if c.items.length < c.capacity then .ok { c with items := c.items ++ [m] }
  else if c.isWaiting then .ok { c with isWaiting := false, received := c.received ++ [m] }
  else .error (.full m)

/-- The receiver takes the oldest message. -/
def take (c : Channel α) : Option α × Channel α :=
  match c.items with
  | [] => (none, c)
  | m :: rest =>
    if c.isOpen then (some m, { c with items := rest, received := c.received ++ [m] })
    else (none, c)

/-- The receiver is gone, and what is queued with it. -/
def close (c : Channel α) : Channel α := { c with isOpen := false, isWaiting := false }

/-- What waits for the receiver. -/
def waiting (c : Channel α) : List α := if c.isOpen then c.items else []

/-- What was still queued when the receiver went. -/
def discarded (c : Channel α) : List α := if c.isOpen then [] else c.items

/-- What the receiver may do while a sender waits. -/
inductive Move where
  | take
  | wait
  | close

def move (c : Channel α) : Move → Channel α
  | .take => c.take.2
  | .wait =>
    if c.isOpen && c.items.isEmpty && c.capacity == 0 then { c with isWaiting := true } else c
  | .close => c.close

/-- The time between two tries: the clock after the first of them failed, and what the receiver does
until the second. -/
structure Pause where
  now : Nat
  moves : List Move

/-- How an attempt to send ended, if it did. -/
inductive Outcome (α : Type) where
  | sent
  | failed (error : SendError α)
  | pending (message : α)

/-- Tries to send until it succeeds, the receiver is gone, or the channel is still full at the
deadline. There is one pause for each try that failed before; after the last the attempt is pending
if it did not end. -/
def sendUntil (deadline : Nat) (m : α) : List Pause → Channel α → Outcome α × Channel α
  | [], c =>
    match c.trySend m with
    | .ok c' => (.sent, c')
    | .error (.disconnected m) => (.failed (.disconnected m), c)
    | .error (.full m) => (.pending m, c)
  | p :: rest, c =>
    match c.trySend m with
    | .ok c' => (.sent, c')
    | .error (.disconnected m) => (.failed (.disconnected m), c)
    | .error (.full m) =>
      if deadline ≤ p.now then (.failed (.full m), c)
      else sendUntil deadline m rest (p.moves.foldl move c)

/-- Sends while the receiver does nothing: the clock passes from zero to the deadline. -/
def sendAlone (deadline : Nat) (m : α) (c : Channel α) : Outcome α × Channel α :=
  sendUntil deadline m [⟨0, []⟩, ⟨deadline, []⟩] c

/-- Sends while the receiver takes one message, a little after the first try. If the first try
succeeds the receiver takes its message then. -/
def sendWhileTaking (m : α) (c : Channel α) : Outcome α × Option α × Channel α :=
  let before := c.received.length
  let move := if c.capacity = 0 then Move.wait else .take
  let (outcome, c) := sendUntil 1 m [⟨0, [move]⟩] c
  let c := if c.received.length = before then c.take.2 else c
  (outcome, c.received[before]?, c)

end Channel

end TracePipeline
