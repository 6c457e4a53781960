import Mathlib.Tactic.Lemma
import TracePipeline.Duration
import TracePipeline.Ending

/-!
# Calls one after the other

A call goes on with the next only if it returned. If it breaks down or is stuck, that is how the whole
ends. It breaks down, for example, if it has to be through in the longest length of time, which is
over at no time that a clock shows.
-/

namespace TracePipeline

namespace Ending

variable {σ α β γ : Type}

/-- The call comes back. -/
def Returns (ending : Ending α) : Prop := ∃ value, ending = returned value

@[simp] lemma returns_returned (value : α) : (returned value).Returns := ⟨value, rfl⟩

@[simp] lemma not_returns_brokeDown : ¬ (brokeDown : Ending α).Returns := nofun

@[simp] lemma not_returns_stuck : ¬ (stuck : Ending α).Returns := nofun

@[simp] lemma returns_map_iff (f : α → β) (ending : Ending α) :
    (ending.map f).Returns ↔ ending.Returns := by
  cases ending <;> simp [map]

@[simp] lemma andThen_returned (s : σ) (value : α) (events : List Event)
    (next : σ → α → σ × Ending β × List Event) :
    andThen (s, returned value, events) next =
      ((next s value).1, (next s value).2.1, events ++ (next s value).2.2) := rfl

@[simp] lemma andThen_brokeDown (s : σ) (events : List Event)
    (next : σ → α → σ × Ending β × List Event) :
    andThen (s, brokeDown, events) next = (s, brokeDown, events) := rfl

@[simp] lemma andThen_stuck (s : σ) (events : List Event)
    (next : σ → α → σ × Ending β × List Event) :
    andThen (s, stuck, events) next = (s, stuck, events) := rfl

lemma andThen_assoc (call : σ × Ending α × List Event) (next : σ → α → σ × Ending β × List Event)
    (last : σ → β → σ × Ending γ × List Event) :
    andThen (andThen call next) last = andThen call fun s value => andThen (next s value) last := by
  obtain ⟨s, ending, events⟩ := call
  cases ending with
  | returned value =>
    rw [andThen_returned, andThen_returned]
    obtain ⟨s', ending', more⟩ := next s value
    cases ending' <;> simp
  | brokeDown => rfl
  | stuck => rfl

/-- What is not seen by either of two calls is not seen by them together. -/
lemma andThen_congr {τ : Type} (f : σ → τ) (call : σ × Ending α × List Event)
    (next : σ → α → σ × Ending β × List Event) (next' : τ → α → τ × Ending β × List Event)
    (h : ∀ value, next' (f call.1) value = (f (next call.1 value).1, (next call.1 value).2)) :
    andThen (f call.1, call.2) next' = (f (andThen call next).1, (andThen call next).2) := by
  obtain ⟨s, ending, events⟩ := call
  cases ending with
  | returned value =>
    rw [andThen_returned, andThen_returned, h value]
  | brokeDown | stuck => rfl

lemma returns_andThen_iff (call : σ × Ending α × List Event)
    (next : σ → α → σ × Ending β × List Event) :
    (andThen call next).2.1.Returns ↔
      ∃ value, call.2.1 = returned value ∧ (next call.1 value).2.1.Returns := by
  obtain ⟨s, ending, events⟩ := call
  cases ending <;> simp

end Ending

namespace Duration

/-- As long as a length of time can be. -/
def longest : Duration := .ofParts 18446744073709551615 999999999 (by decide)

theorem deadline?_longest (now : Nat) : longest.deadline? now = none := by
  have hbeyond : clockRange ≤ longest.nanos := by decide
  rw [deadline?, if_neg (by omega)]

end Duration

end TracePipeline
