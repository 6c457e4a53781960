import Mathlib.Data.List.Induction
import TracePipeline.Dispatcher

/-!
# A dispatcher in use

Producers, the worker and the one who stops the dispatcher take turns in any order. A session is the
dispatcher together with what has happened to it: the records that were accepted, those that were
delivered, and the calls of sinks, each of which may have panicked. Stopping goes through several
turns, since it waits for room in the queue and then for the worker. A producer looks first whether
the dispatcher is stopped, and that may happen before he gets to the queue; so there may be records
that are late, and still accepted.
-/

namespace TracePipeline

namespace Dispatcher

/-- How far the one who stops the dispatcher has come. -/
inductive Stopping where
  | idle
  /-- Waits for room for the message that ends the worker. -/
  | sending
  /-- Waits for the worker to get to that message. -/
  | waiting
  | drained
  | gaveUp
  deriving DecidableEq

structure SinkCall (ι : Type) where
  sink : ι
  record : Record
  panicked : Bool

structure Session (ι : Type) where
  dispatcher : Dispatcher ι
  stopping : Stopping
  /-- The records that were accepted before the dispatcher was stopped. -/
  accepted : List Record
  /-- Those that were accepted after that. -/
  late : List Record
  delivered : List Record
  calls : List (SinkCall ι)

inductive Action (ι : Type) where
  /-- Dispatches a record, having looked whether the dispatcher is stopped just now, or maybe before
  it was. -/
  | dispatch (r : Record) (lookedBefore : Bool)
  | take
  | call (panics : Bool)
  | finish
  | stop
  | trySend
  | await
  | deadline
  | register (i : ι)
  | clear

/-- The turn without a panic. -/
def Action.calm {ι : Type} : Action ι → Action ι
  | .call _ => .call false
  | act => act

variable {ι : Type}

/-- The records among messages. -/
def recordsOf (messages : List DispatchMessage) : List Record :=
  messages.filterMap fun
    | .record r => some r
    | .stop => none

/-- The records in the queue. -/
def queued (d : Dispatcher ι) : List Record := recordsOf d.queue.items

/-- The records that wait for the worker. -/
def waiting (d : Dispatcher ι) : List Record := recordsOf d.queue.waiting

/-- The records that were still queued when the worker ended. -/
def discarded (d : Dispatcher ι) : List Record := recordsOf d.queue.discarded

/-- The record that the worker is delivering. -/
def inHand (d : Dispatcher ι) : List Record :=
  match d.phase with
  | .delivering r _ => [r]
  | _ => []

/-- The calls of a sink that the worker has still to make for the record in its hand. -/
def owed [DecidableEq ι] (d : Dispatcher ι) (i : ι) : List Record :=
  match d.phase with
  | .delivering r rest => List.replicate (rest.count i) r
  | _ => []

namespace Session

def start (config : DispatcherConfig) (sinks : List ι) : Session ι :=
  ⟨.new config sinks, .idle, [], [], [], []⟩

/-- Notes that a record was accepted. -/
def accept (y : Session ι) (r : Record) : Session ι :=
  if y.dispatcher.isStopped then { y with late := y.late ++ [r] }
  else { y with accepted := y.accepted ++ [r] }

/-- Notes what a producer was told about his record. -/
def note (y : Session ι) (r : Record) (answer : Bool × Dispatcher ι) : Session ι :=
  { if answer.1 then y.accept r else y with dispatcher := answer.2 }

lemma stopping_note (y : Session ι) (r : Record) (answer : Bool × Dispatcher ι) :
    (y.note r answer).stopping = y.stopping := by
  change (if answer.1 then y.accept r else y).stopping = y.stopping
  rw [accept]
  split
  · split <;> rfl
  · rfl

lemma calls_note (y : Session ι) (r : Record) (answer : Bool × Dispatcher ι) :
    (y.note r answer).calls = y.calls := by
  change (if answer.1 then y.accept r else y).calls = y.calls
  rw [accept]
  split
  · split <;> rfl
  · rfl

/-- A turn of somebody; a turn that nobody can take now changes nothing. -/
def step (y : Session ι) : Action ι → Session ι
  | .dispatch r lookedBefore =>
    y.note r (if lookedBefore then y.dispatcher.put r else y.dispatcher.dispatch r)
  | .take => y.dispatcher.take.elim y fun dispatcher => { y with dispatcher }
  | .call panics =>
    y.dispatcher.nextCall?.elim y fun next =>
      { y with
        dispatcher := y.dispatcher.called
        calls := y.calls ++ [⟨next.1, next.2, panics⟩] }
  | .finish =>
    y.dispatcher.finish.elim y fun dispatcher =>
      { y with dispatcher, delivered := y.delivered ++ y.dispatcher.inHand }
  | .stop =>
    if y.dispatcher.isStopped then y
    else { y with dispatcher := y.dispatcher.refuse, stopping := .sending }
  | .trySend =>
    match y.stopping, y.dispatcher.sendStop with
    | .sending, .ok dispatcher => { y with dispatcher, stopping := .waiting }
    | .sending, .error (.disconnected _) => { y with stopping := .drained }
    | _, _ => y
  | .await =>
    if y.stopping = .waiting ∧ y.dispatcher.hasExited then { y with stopping := .drained } else y
  | .deadline =>
    if y.stopping = .sending ∨ y.stopping = .waiting then
      { y with dispatcher := y.dispatcher.abandon, stopping := .gaveUp }
    else y
  | .register i => { y with dispatcher := y.dispatcher.register i }
  | .clear => { y with dispatcher := y.dispatcher.clear }

def run (y : Session ι) (actions : List (Action ι)) : Session ι := actions.foldl step y

/-- The records that the worker has taken to deliver them. -/
def taken (y : Session ι) : List Record := y.delivered ++ y.dispatcher.inHand

/-- The records with which a sink was called. -/
def callsTo [DecidableEq ι] (y : Session ι) (i : ι) : List Record :=
  (y.calls.filter fun c => c.sink = i).map SinkCall.record

lemma run_append (y : Session ι) (actions more : List (Action ι)) :
    y.run (actions ++ more) = (y.run actions).run more :=
  List.foldl_append

lemma run_concat (y : Session ι) (actions : List (Action ι)) (act : Action ι) :
    y.run (actions ++ [act]) = (y.run actions).step act := by
  rw [run_append]
  rfl

end Session

end Dispatcher

end TracePipeline
