import Mathlib.Tactic.Lemma
import TracePipeline.Channel

/-!
# What passes through a channel

A message is sent if there is room for it; nobody waits at a channel of positive capacity. The
receiver takes the oldest message.
-/

namespace TracePipeline

namespace Channel

variable {α : Type} {c c' : Channel α} {m : α}

/-- There is room in the channel, and it is still read. -/
def HasRoom (c : Channel α) : Prop := c.isOpen = true ∧ c.items.length < c.capacity

lemma waiting_append_discarded (c : Channel α) : c.waiting ++ c.discarded = c.items := by
  cases h : c.isOpen <;> simp [waiting, discarded, h]

lemma trySend_of_hasRoom (h : c.HasRoom) (m : α) :
    c.trySend m = .ok { c with items := c.items ++ [m] } := by
  obtain ⟨hopen, hroom⟩ := h
  simp [trySend, hopen, hroom]

lemma trySend_of_not_hasRoom (h : ¬ c.HasRoom) (hwait : c.isWaiting = false) (m : α) :
    c.trySend m = .error (if c.isOpen then .full m else .disconnected m) := by
  cases hopen : c.isOpen with
  | false => simp [trySend, hopen]
  | true =>
    have hfull : ¬ c.items.length < c.capacity := fun hroom => h ⟨hopen, hroom⟩
    simp [trySend, hopen, hfull, hwait]

lemma items_trySend (h : c.trySend m = .ok c') : ∀ x ∈ c'.items, x ∈ c.items ∨ x = m := by
  unfold trySend at h
  split at h
  · cases h
  · split at h
    · cases h
      simp
    · split at h
      · cases h
        exact fun x hx => .inl hx
      · cases h

lemma take_cases (h : c.take = (some m, c')) :
    c.isOpen = true ∧
      ∃ rest, c.items = m :: rest ∧
        c' = { c with items := rest, received := c.received ++ [m] } := by
  rw [take] at h
  split at h
  · cases h
  · rename_i m' rest hitems
    split at h
    · rename_i hopen
      cases h
      exact ⟨hopen, rest, hitems, rfl⟩
    · cases h

/-- A receiver that gets nothing has taken all there was. -/
lemma items_of_take_none (h : c.take = (none, c')) (hopen : c.isOpen = true) : c.items = [] := by
  rw [take] at h
  split at h
  · assumption
  · simp [hopen] at h

end Channel

end TracePipeline
