import TracePipeline.Event

/-!
# How calls end

A call may give something back. It may break down, and with it whoever made it; or what it waits for
does not happen, and it never comes back. Whatever it was made on is left as it was then.
-/

namespace TracePipeline

inductive Ending (α : Type) where
  | returned (value : α)
  | brokeDown
  | stuck

namespace Ending

variable {σ α β : Type}

def map (f : α → β) : Ending α → Ending β
  | returned value => returned (f value)
  | brokeDown => brokeDown
  | stuck => stuck

/-- Goes on after a call if it returned. A call leaves something behind, and reports events. -/
def andThen (call : σ × Ending α × List Event) (next : σ → α → σ × Ending β × List Event) :
    σ × Ending β × List Event :=
  match call with
  | (s, returned value, events) =>
    let (s, ending, more) := next s value
    (s, ending, events ++ more)
  | (s, brokeDown, events) => (s, brokeDown, events)
  | (s, stuck, events) => (s, stuck, events)

end Ending

end TracePipeline
