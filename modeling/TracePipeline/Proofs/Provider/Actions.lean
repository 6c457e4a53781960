import Mathlib.Data.List.Basic
import Mathlib.Data.List.Induction
import TracePipeline.Provider

/-!
# A provider in use

Programs that trace, those who start and shut down the provider, the worker of the dispatcher and
the clock take turns in any order. Which records a program makes is said here without the pipeline:
those of traces that forward, from the first start on and before the first shutdown.
-/

namespace TracePipeline

namespace Provider

inductive Action where
  | trace (step : Tracing.Step)
  | start
  | shutdown
  | work
  | pass (nanos : Nat)
  | setGate (i : Nat) (isOpen : Bool)

namespace Action

def isStart : Action → Bool
  | start => true
  | _ => false

def isShutdown : Action → Bool
  | shutdown => true
  | _ => false

end Action

def act (p : Provider) : Action → Provider
  | .trace step => (p.trace step).2
  | .start => p.start.1
  | .shutdown => p.shutdown.1
  | .work => { p with pipeline := p.pipeline.work?.getD p.pipeline }
  | .pass nanos => { p with pipeline := p.pipeline.pass (p.pipeline.clock + nanos) }
  | .setGate i isOpen =>
    { p with pipeline := if isOpen then p.pipeline.openGate i else p.pipeline.closeGate i }

def run (p : Provider) (actions : List Action) : Provider := actions.foldl act p

/-- The traces of a program after a step, wherever its records lead. -/
def traced (s : Tracing) (step : Tracing.Step) : Tracing :=
  (s.step (fun _ => false) step).elim s Prod.snd

/-- The record that a step makes if the pipeline is active. -/
def forwarded (s : Tracing) : Tracing.Step → Option Record
  | .record slot mark timestamp =>
    s.traces[slot]?.bind fun t =>
      if t.route = .pipeline ∧ t.flags.forwards = true then
        some ⟨t.identity, t.flags, timestamp, mark⟩
      else none
  | _ => none

/-- The traces after an action. -/
def tracedBy (s : Tracing) : Action → Tracing
  | .trace step => traced s step
  | _ => s

/-- The traces after several actions. -/
def tracedAll (s : Tracing) (actions : List Action) : Tracing := actions.foldl tracedBy s

/-- The record that an action makes when others came before it: one that forwards, after the first
start and before the first shutdown. -/
def recordAfter (s : Tracing) (before : List Action) : Action → Option Record
  | .trace step =>
    if before.any Action.isStart && !before.any Action.isShutdown then
      forwarded (tracedAll s before) step
    else none
  | _ => none

/-- The records that several actions make. -/
def recorded (s : Tracing) (actions : List Action) : List Record :=
  (List.range actions.length).filterMap fun k =>
    actions[k]?.bind (recordAfter s (actions.take k))

/-- No record that is made finds the queue full, no sweep is due while time passes, and the worker
is never told to abandon what is queued, since the queue is drained in time. -/
structure Undisturbed (p : Provider) (actions : List Action) : Prop where
  room : ∀ k r, actions[k]?.bind (recordAfter p.tracing (actions.take k)) = some r →
    (p.run (actions.take k)).pipeline.dispatcher.queue.items.length <
      (p.run (actions.take k)).pipeline.dispatcher.config.maxQueueSize
  unswept : ∀ k nanos due, actions[k]? = some (.pass nanos) →
    (p.run (actions.take k)).pipeline.timer.due? = some due →
    (p.run (actions.take k)).pipeline.clock + nanos < due
  drained : ∀ k, k ≤ actions.length →
    (p.run (actions.take k)).pipeline.dispatcher.isAbandoned = false

/-- If the provider runs, the clock can show when a shutdown that begins now has to be through. -/
def Timely (p : Provider) : Prop := p.stage = .running → p.pipeline.deadline?.isSome = true

/-- It can whenever one begins. -/
def Punctual (p : Provider) (actions : List Action) : Prop :=
  ∀ k, actions[k]? = some .shutdown → (p.run (actions.take k)).Timely

variable {p : Provider} {actions : List Action}

lemma run_concat (p : Provider) (actions : List Action) (a : Action) :
    p.run (actions ++ [a]) = (p.run actions).act a := by
  rw [run, List.foldl_append]
  rfl

lemma tracedAll_concat (s : Tracing) (actions : List Action) (a : Action) :
    tracedAll s (actions ++ [a]) = tracedBy (tracedAll s actions) a := by
  rw [tracedAll, List.foldl_append]
  rfl

lemma recordAfter_of_shutdown (s : Tracing) {before : List Action}
    (h : before.any Action.isShutdown = true) (a : Action) : recordAfter s before a = none := by
  cases a <;> simp [recordAfter, h]

lemma recorded_concat (s : Tracing) (actions : List Action) (a : Action) :
    recorded s (actions ++ [a]) = recorded s actions ++ (recordAfter s actions a).toList := by
  have hbefore : ∀ k ∈ List.range actions.length,
      (actions ++ [a])[k]?.bind (recordAfter s ((actions ++ [a]).take k)) =
        actions[k]?.bind (recordAfter s (actions.take k)) := by
    intro k hk
    have hlt : k < actions.length := List.mem_range.mp hk
    rw [List.getElem?_append_left hlt, List.take_append_of_le_length (Nat.le_of_lt hlt)]
  rw [recorded, List.length_append, List.length_singleton, List.range_succ, List.filterMap_append,
    List.filterMap_congr hbefore, recorded]
  cases hlast : recordAfter s actions a <;> simp [hlast]

lemma Undisturbed.before {a : Action} (h : Undisturbed p (actions ++ [a])) :
    Undisturbed p actions where
  room k r hr := by
    obtain ⟨b, hk, -⟩ := Option.bind_eq_some_iff.mp hr
    have hlt : k < actions.length := (List.getElem?_eq_some_iff.mp hk).1
    have hroom := h.room k r
    rw [List.getElem?_append_left hlt, List.take_append_of_le_length (Nat.le_of_lt hlt)] at hroom
    exact hroom hr
  unswept k nanos due hk hdue := by
    have hlt : k < actions.length := (List.getElem?_eq_some_iff.mp hk).1
    have hunswept := h.unswept k nanos due (by rw [List.getElem?_append_left hlt, hk])
    rw [List.take_append_of_le_length (Nat.le_of_lt hlt)] at hunswept
    exact hunswept hdue
  drained k hk := by
    have hdrained := h.drained k (by rw [List.length_append]; omega)
    rwa [List.take_append_of_le_length hk] at hdrained

lemma Punctual.before {a : Action} (h : Punctual p (actions ++ [a])) : Punctual p actions := by
  intro k hk
  have hlt : k < actions.length := (List.getElem?_eq_some_iff.mp hk).1
  have htimely := h k (by rw [List.getElem?_append_left hlt, hk])
  rwa [List.take_append_of_le_length (Nat.le_of_lt hlt)] at htimely

lemma Punctual.last (h : Punctual p (actions ++ [.shutdown])) : (p.run actions).Timely := by
  simpa using h actions.length (by simp)

lemma Undisturbed.room_last {a : Action} {r : Record} (h : Undisturbed p (actions ++ [a]))
    (hr : recordAfter p.tracing actions a = some r) :
    (p.run actions).pipeline.dispatcher.queue.items.length <
      (p.run actions).pipeline.dispatcher.config.maxQueueSize := by
  simpa using h.room actions.length r (by simpa using hr)

lemma Undisturbed.unswept_last {nanos due : Nat} (h : Undisturbed p (actions ++ [.pass nanos]))
    (hdue : (p.run actions).pipeline.timer.due? = some due) :
    (p.run actions).pipeline.clock + nanos < due := by
  simpa using h.unswept actions.length nanos due (by simp) (by simpa using hdue)

lemma Undisturbed.drained_last (h : Undisturbed p actions) :
    (p.run actions).pipeline.dispatcher.isAbandoned = false := by
  simpa using h.drained actions.length (Nat.le_refl _)

lemma forwarded_of_record (p : Provider) (slot : Nat) (mark : Annotation) (timestamp : UInt64) :
    (if p.isActive = true then forwarded p.tracing (.record slot mark timestamp) else none) =
      p.tracing.traces[slot]?.bind fun t => t.record? (p.isActiveOn t.route) mark timestamp := by
  cases hslot : p.tracing.traces[slot]? with
  | none => simp [forwarded, hslot]
  | some t =>
    cases hroute : t.route <;> cases hactive : p.isActive <;> cases hforwards : t.flags.forwards <;>
      simp [forwarded, hslot, Trace.record?, isActiveOn, hroute, hactive, hforwards]

/-- What a step of a program does to the provider: its traces change, and the record that it makes,
if the provider is active, is dispatched. -/
theorem trace_eq (p : Provider) (step : Tracing.Step) :
    (p.trace step).2 =
      { p with
        tracing := traced p.tracing step
        pipeline := (if p.isActive = true then forwarded p.tracing step else none).elim p.pipeline
          fun r => (p.pipeline.dispatch r).2 } := by
  cases step with
  | start route | wrap route identity flags => simp [trace, Tracing.step, traced, forwarded]
  | child slot | clone slot | force slot | decide slot =>
    cases hslot : p.tracing.traces[slot]? <;> simp [trace, Tracing.step, traced, forwarded, hslot]
  | record slot mark timestamp =>
    rw [forwarded_of_record]
    cases hslot : p.tracing.traces[slot]? with
    | none => simp [trace, Tracing.step, traced, hslot]
    | some t =>
      cases hrecord : t.record? (p.isActiveOn t.route) mark timestamp <;>
        simp [trace, Tracing.step, traced, hslot, hrecord]

end Provider

end TracePipeline
