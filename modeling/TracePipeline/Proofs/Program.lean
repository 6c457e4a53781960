import Mathlib.Tactic.Lemma
import TracePipeline.Program
import TracePipeline.Proofs.Ambient

/-!
# The current trace of a program

A program attaches traces, as they are then, and releases the guards. All else that it does leaves the
slot alone: a trace that is changed later is current as it was when it was attached. So the traces that a
program attaches are a stack.
-/

namespace TracePipeline

namespace Program

/-- What a program may do one thing after the other. -/
inductive Action where
  | trace (step : Tracing.Step)
  | recordNow (slot : Nat) (mark : Annotation) (now : UInt64)
  | attach (slot : Nat)
  | detach (guard : Nat)
  | currentChild
  | setGlobal
  | clearGlobal

def act (p : Program) : Action → Program
  | .trace step => (p.trace step).2
  | .recordNow slot mark now => (p.recordNow slot mark now).2
  | .attach slot => p.attach slot
  | .detach guard => p.detach guard
  | .currentChild => p.currentChild.2
  | .setGlobal => p.setGlobal.2
  | .clearGlobal => p.clearGlobal

/-- The program after some actions. -/
def after (p : Program) (actions : List Action) : Program := actions.foldl act p

/-- What an action does with the slot of the current trace. -/
def effect (p : Program) : Action → Ambient.Step Trace
  | .attach slot => p.tracing.traces[slot]?.elim .look .attach
  | .detach guard => .release guard
  | _ => .look

/-- What actions do with the slot, each in the program as it is then. -/
def effects (p : Program) : List Action → List (Ambient.Step Trace)
  | [] => []
  | a :: rest => p.effect a :: (p.act a).effects rest

lemma current_trace (p : Program) (step : Tracing.Step) : (p.trace step).2.current = p.current := by
  unfold trace
  split
  · rfl
  · dsimp only
    split
    · rfl
    · rfl

lemma current_recordNow (p : Program) (slot : Nat) (mark : Annotation) (now : UInt64) :
    (p.recordNow slot mark now).2.current = p.current := by
  unfold recordNow
  split
  · rfl
  · rfl

lemma current_currentChild (p : Program) : p.currentChild.2.current = p.current := by
  unfold currentChild
  split
  · rfl
  · rfl

lemma current_attach (p : Program) (slot : Nat) :
    (p.attach slot).current = p.current.step (p.effect (.attach slot)) := by
  unfold attach effect
  dsimp only
  cases p.tracing.traces[slot]? with
  | none => rfl
  | some t => rfl

lemma current_act (p : Program) (a : Action) : (p.act a).current = p.current.step (p.effect a) := by
  cases a with
  | trace step => exact p.current_trace step
  | recordNow slot mark now => exact p.current_recordNow slot mark now
  | attach slot => exact p.current_attach slot
  | detach guard => rfl
  | currentChild => exact p.current_currentChild
  | setGlobal => rfl
  | clearGlobal => rfl

lemma current_after (p : Program) (actions : List Action) :
    (p.after actions).current = p.current.after (p.effects actions) := by
  induction actions generalizing p with
  | nil => rfl
  | cons a actions ih =>
    have hrest := ih (p.act a)
    rw [current_act] at hrest
    exact hrest

lemma effects_take (p : Program) (actions : List Action) (n : Nat) :
    p.effects (actions.take n) = (p.effects actions).take n := by
  induction actions generalizing p n with
  | nil => cases n <;> rfl
  | cons a actions ih =>
    cases n with
    | zero => rfl
    | succ n => exact congrArg (_ :: ·) (ih (p.act a) n)

/-- Whatever is attached and released makes up a stack, and after every action the current trace of a
program is what its actions up to then have attached and released. -/
theorem attaches_as_stack :
    (∀ (s : Ambient Trace) (steps : List (Ambient.Step Trace)), s.Stacks steps) ∧
      ∀ (p : Program) (actions : List Action) (n : Nat),
        (p.after (actions.take n)).current = p.current.after ((p.effects actions).take n) := by
  constructor
  · exact Ambient.makes_stack
  · intro p actions n
    rw [← effects_take]
    exact p.current_after (actions.take n)

end Program

end TracePipeline
