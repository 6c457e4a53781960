import TracePipeline.Channel
import TracePipeline.Config.Dispatcher
import TracePipeline.Record

/-!
# Record dispatcher

A bounded queue between those who record and a worker, which delivers the records to the registered
sinks one by one, in the order in which they were accepted. A record that finds no room is dropped.
Stopping sends a last message through the same queue; if the worker does not get to it in time, it
is told to abandon what is left.

Sinks go by names of type `ι`. What a call to a sink does is not known here: the dispatcher says
which call is next, and is told when that call is over.
-/

namespace TracePipeline

inductive DispatchMessage where
  | record (r : Record)
  | stop

inductive DispatchPhase (ι : Type) where
  | waiting
  /-- Delivering a record; the sinks that have not been called yet. -/
  | delivering (r : Record) (rest : List ι)
  | exited

structure Dispatcher (ι : Type) where
  config : DispatcherConfig
  queue : Channel DispatchMessage
  sinks : List ι
  phase : DispatchPhase ι
  isStopped : Bool
  isAbandoned : Bool
  dropped : UInt64
  delivered : UInt64

namespace Dispatcher

variable {ι : Type}

def new (config : DispatcherConfig) (sinks : List ι) : Dispatcher ι where
  config
  queue := .new config.maxQueueSize
  sinks
  phase := .waiting
  isStopped := false
  isAbandoned := false
  dropped := 0
  delivered := 0

/-- Queues a record, or drops it if there is no room. -/
def put (d : Dispatcher ι) (r : Record) : Bool × Dispatcher ι :=
  match d.queue.trySend (.record r) with
  | .ok queue => (true, { d with queue })
  | .error _ => (false, { d with dropped := d.dropped + 1 })

/-- Accepts a record for delivery, or drops it. -/
def dispatch (d : Dispatcher ι) (r : Record) : Bool × Dispatcher ι :=
  if d.isStopped then (false, { d with dropped := d.dropped + 1 }) else d.put r

/-- The worker is gone; what is queued will not be delivered. -/
def exit (d : Dispatcher ι) : Dispatcher ι := { d with phase := .exited, queue := d.queue.close }

/-- The worker takes the oldest message, if it waits for one. -/
def take (d : Dispatcher ι) : Option (Dispatcher ι) :=
  match d.phase with
  | .waiting =>
    match d.queue.take with
    | (none, _) => none
    | (some .stop, queue) => some { d with queue }.exit
    | (some (.record r), queue) =>
      if d.isAbandoned then some { d with queue }.exit
      else some { d with queue, phase := .delivering r d.sinks }
  | _ => none

/-- The call that the worker makes next. -/
def nextCall? (d : Dispatcher ι) : Option (ι × Record) :=
  match d.phase with
  | .delivering r (i :: _) => some (i, r)
  | _ => none

/-- The call is over, however it ended. -/
def called (d : Dispatcher ι) : Dispatcher ι :=
  match d.phase with
  | .delivering r (_ :: rest) => { d with phase := .delivering r rest }
  | _ => d

/-- A record has been delivered to every sink. -/
def finish (d : Dispatcher ι) : Option (Dispatcher ι) :=
  match d.phase with
  | .delivering _ [] => some { d with phase := .waiting, delivered := d.delivered + 1 }
  | _ => none

def isDelivering (d : Dispatcher ι) : Bool :=
  match d.phase with
  | .delivering _ _ => true
  | _ => false

def hasExited (d : Dispatcher ι) : Bool :=
  match d.phase with
  | .exited => true
  | _ => false

/-- Accepts no more records. -/
def refuse (d : Dispatcher ι) : Dispatcher ι := { d with isStopped := true }

/-- Queues the message that ends the worker. -/
def sendStop (d : Dispatcher ι) : Except (SendError DispatchMessage) (Dispatcher ι) :=
  (d.queue.trySend .stop).map fun queue => { d with queue }

/-- Whether the message that ends the worker is queued. -/
def isStopQueued (d : Dispatcher ι) : Bool :=
  d.queue.items.any fun
    | .stop => true
    | .record _ => false

/-- The worker is to deliver no further record. -/
def abandon (d : Dispatcher ι) : Dispatcher ι := { d with isAbandoned := true }

/-- Registers a sink; it is called from the next record on. -/
def register (d : Dispatcher ι) (i : ι) : Dispatcher ι := { d with sinks := d.sinks ++ [i] }

/-- Unregisters every sink. -/
def clear (d : Dispatcher ι) : Dispatcher ι := { d with sinks := [] }

end Dispatcher

end TracePipeline
