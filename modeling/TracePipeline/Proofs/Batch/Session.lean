import Mathlib.Data.List.Induction
import TracePipeline.Proofs.Batch.Worker
import TracePipeline.Processor.Batch

/-!
# A batch processor in use

Those who log spans, those who ask for a flush or the shutdown, the worker, its time window and the
clock take turns in any order. A session is the processor together with what has happened to it: the
spans that were logged, and the requests. A request takes several turns, since it waits for room in
the queue and then for the answer; between any two of them others may go on. Who logs a span looks
first whether the processor is shut down, and that may happen before he gets to the queue.
-/

namespace TracePipeline

namespace BatchProcessor

inductive Request where
  | flush
  | shutdown

def Request.message : Request → Nat → BatchMessage
  | flush => .flush
  | shutdown => .shutdown

/-- How far a request has come. -/
inductive Progress where
  /-- The processor was shut down already. -/
  | refused
  /-- Waits for room in the queue. -/
  | sending
  /-- Waits for the answer, under a number. -/
  | waiting (caller : Nat)
  /-- Found the worker gone. -/
  | closed
  /-- Took too long. -/
  | gaveUp
  /-- Broke down, since the clock cannot show the deadline. -/
  | brokeDown

structure Asker where
  request : Request
  /-- The spans that were accepted before. -/
  before : List Span
  progress : Progress

structure Session where
  processor : BatchProcessor
  /-- The spans that were logged, and whether they were accepted, oldest first. -/
  logged : List (Span × Bool)
  askers : List Asker

inductive Action where
  /-- Logs a span, having looked whether the processor is shut down just now, or maybe before it
  was. -/
  | log (s : Span) (lookedBefore : Bool)
  | ask (request : Request)
  | trySend (k : Nat)
  | giveUp (k : Nat)
  | work
  | timeout
  | pass (nanos : Nat)
  | setSender (isOpen : Bool)

/-- What a request does to a processor that is not shut down. -/
def Request.begin (request : Request) (p : BatchProcessor) : BatchProcessor :=
  match request with
  | flush => p
  | shutdown => { p with isShutdown := true }

namespace Session

/-- A session before its first turn. -/
def start (config : BatchConfig) (serialize : List Span → Except String ByteArray) : Session :=
  ⟨.new config (.of serialize), [], []⟩

/-- The spans that were accepted. -/
def accepted (y : Session) : List Span := (y.logged.filter (·.2)).map (·.1)

/-- The spans that were not accepted. -/
def refused (y : Session) : List Span := (y.logged.filter (!·.2)).map (·.1)

/-- The messages that got into the queue. -/
def sent (y : Session) : List BatchMessage :=
  y.processor.queue.received ++ y.processor.queue.items

def setProgress (y : Session) (k : Nat) (progress : Progress) : Session :=
  { y with askers := y.askers.modify k ({ · with progress }) }

/-- A request that waits for room in the queue tries to get into it. -/
def trySend (y : Session) (k : Nat) : Session :=
  match y.askers[k]? with
  | some ⟨request, _, .sending⟩ =>
    match y.processor.request request.message with
    | .ok processor => { y.setProgress k (.waiting y.processor.callers) with processor }
    | .error (.full _) => y
    | .error (.disconnected _) => y.setProgress k .closed
  | _ => y

def step (y : Session) : Action → Session
  | .log s lookedBefore =>
    if y.processor.isShutdown && !lookedBefore then
      { y with processor := (y.processor.log s).1, logged := y.logged ++ [(s, false)] }
    else
      { y with
        processor := (y.processor.put s).1
        logged := y.logged ++ [(s, (y.processor.queue.trySend (.span s)).isOk)] }
  | .ask request =>
    if y.processor.isShutdown then
      { y with askers := y.askers ++ [⟨request, y.accepted, .refused⟩] }
    else
      { y with
        processor := request.begin y.processor
        askers := y.askers ++ [⟨request, y.accepted,
          if y.processor.deadline?.isSome then .sending else .brokeDown⟩] }
  | .trySend k => y.trySend k
  | .giveUp k => y.setProgress k .gaveUp
  | .work => { y with processor := y.processor.work?.getD y.processor }
  | .timeout =>
    if y.processor.worker.isReady then { y with processor := y.processor.signal .timeout } else y
  | .pass nanos => { y with processor := { y.processor with clock := y.processor.clock + nanos } }
  | .setSender isOpen => { y with processor := { y.processor with isSenderOpen := isOpen } }

def run (y : Session) (actions : List Action) : Session := actions.foldl step y

lemma run_append (y : Session) (actions more : List Action) :
    y.run (actions ++ more) = (y.run actions).run more :=
  List.foldl_append

lemma run_concat (y : Session) (actions : List Action) (a : Action) :
    y.run (actions ++ [a]) = (y.run actions).step a :=
  y.run_append actions [a]

end Session

end BatchProcessor

end TracePipeline
