/-!
# The ambient value

One slot holds what is current. Attaching a value puts it there and gives a guard that remembers
what was there before; releasing the guard puts that back, whatever happened in between.
-/

namespace TracePipeline

/-- The slot, and what each guard remembers; `none` for a guard that was released. -/
structure Ambient (α : Type) where
  current : Option α := none
  guards : List (Option (Option α)) := []

namespace Ambient

variable {α : Type}

/-- Makes a value current; the new guard is the last one. -/
def attach (s : Ambient α) (x : α) : Ambient α :=
  { current := some x, guards := s.guards ++ [some s.current] }

/-- Releases a guard. Doing so again does nothing. -/
def release (s : Ambient α) (guard : Nat) : Ambient α :=
  match s.guards[guard]? with
  | some (some previous) => { current := previous, guards := s.guards.set guard none }
  | _ => s

end Ambient

end TracePipeline
