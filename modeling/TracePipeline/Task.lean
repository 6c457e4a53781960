/-!
# Nested tasks

A task is polled until it is finished. It consists of layers, one around the other, and a layer may
carry a value that is current while the layer is polled. Polling a layer polls the one inside first,
unless that one is finished; a layer is finished once it has yielded as often as it has to.
-/

namespace TracePipeline

/-- A layer of a task, with the number of times that it still yields. -/
structure Layer (α : Type) where
  carried : Option α
  yields : Nat

/-- What happened in a poll: the current values that were seen, the task that is left unless it is
finished, and what is current afterwards. -/
structure Poll (α : Type) where
  seen : List (Option α)
  rest : Option (List (Layer α))
  current : Option α

namespace Layer

variable {α : Type}

/-- Polls a task, outermost layer first. A carried value takes the place of the current one, which
is put back at the end. Each layer sees what is current before and after it polls the one inside. -/
def poll : List (Layer α) → Option α → Poll α
  | [], current => ⟨[], none, current⟩
  | l :: inner, current =>
    let entered := l.carried.or current
    let below := poll inner entered
    let seen := if inner.isEmpty then [entered] else entered :: below.seen ++ [below.current]
    let rest := match l.yields with
      | 0 => none
      | n + 1 => some (⟨l.carried, n⟩ :: below.rest.getD [])
    let left := if l.carried.isSome then current else below.current
    ⟨seen, rest, left⟩

/-- Polls a task until it is finished: what was seen in each poll and was current after it. The
outermost layer yields once in every poll but the last. -/
def run : (polls : Nat) → List (Layer α) → Option α → List (List (Option α) × Option α)
  | 0, _, _ => []
  | polls + 1, task, current =>
    let p := poll task current
    (p.seen, p.current) :: match p.rest with
      | none => []
      | some task => run polls task p.current

/-- The polls that a task needs. -/
def pollsOf : List (Layer α) → Nat
  | [] => 0
  | l :: _ => l.yields + 1

/-- Polls a task until it is finished. -/
def complete (task : List (Layer α)) (current : Option α) : List (List (Option α) × Option α) :=
  run (pollsOf task) task current

end Layer

end TracePipeline
