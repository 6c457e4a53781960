import TracePipeline.Proofs.Batch.Invariant

/-!
# What the shutdown leaves behind

The worker leaves with an empty bucket, and only when it took a shutdown. If nobody who logged a
span was overtaken by the shutdown, no span got into the queue behind it, and none is left there.
-/

namespace TracePipeline

namespace BatchProcessor

open BatchMessage

namespace Session

/-- No span comes after a shutdown. -/
def ShutsLast (l : List BatchMessage) : Prop :=
  ∀ caller, .shutdown caller ∈ l → ahead caller l = spansIn l

variable {config : BatchConfig} {serialize : List Span → Except String ByteArray} {y : Session}

/-- The worker takes messages, and sends none. -/
lemma Sound.sent_work (h : Sound config serialize y) : (y.step .work).sent = y.sent := by
  rw [Session.step]
  cases hwork : y.processor.work? with
  | none => rfl
  | some p =>
    rcases work?_cases hwork h.held with
      ⟨_, _, _, rfl⟩ | ⟨_, ⟨m, rest, _, hitems, rfl⟩ | ⟨_, _, rfl⟩⟩
    · exact sent_withWorker _ _
    · have htaken : (y.processor.queue.received ++ [m]) ++ rest = y.sent := by
        rw [Session.sent, hitems, List.append_assoc]
        rfl
      exact (sent_withWorker (y.processor.taking m rest) _).trans htaken
    · exact sent_withWorker _ _

/-- What a turn puts into the queue. -/
lemma Sound.sent_step (h : Sound config serialize y) (a : Action) :
    (y.step a).sent = y.sent ∨
    (∃ s lookedBefore, a = .log s lookedBefore ∧
      (y.processor.isShutdown = true → lookedBefore = true) ∧
      (y.step a).sent = y.sent ++ [.span s]) ∨
    ∃ request : Request,
      (y.step a).sent = y.sent ++ [request.message y.processor.callers] := by
  cases a with
  | log s lookedBefore =>
    rw [Session.step]
    split
    · rename_i hshut
      left
      rw [log, if_pos (Bool.and_eq_true_iff.mp hshut).1]
      rfl
    · rename_i hgo
      by_cases hroom : y.processor.queue.HasRoom
      · rw [put_of_hasRoom hroom]
        exact .inr (.inl ⟨s, lookedBefore, rfl, fun hshut => by simpa [hshut] using hgo,
          sent_sending y _⟩)
      · obtain ⟨warning, hput⟩ := put_of_not_hasRoom hroom h.unmet s
        rw [hput]
        exact .inl rfl
  | ask request =>
    left
    rw [Session.step]
    split
    · rfl
    · cases request <;> rfl
  | trySend k =>
    rw [Session.step, Session.trySend]
    split
    · rename_i request before hk
      by_cases hroom : y.processor.queue.HasRoom
      · rw [request_of_hasRoom hroom]
        exact .inr (.inr ⟨request, (List.append_assoc _ _ _).symm⟩)
      · rw [request_of_not_hasRoom hroom h.unmet]
        cases y.processor.queue.isOpen <;> exact .inl rfl
    · exact .inl rfl
  | work => exact .inl h.sent_work
  | timeout =>
    left
    rw [Session.step]
    split
    · exact sent_withWorker _ _
    · rfl
  | giveUp _ | pass _ | setSender _ => exact .inl rfl

/-- Whoever looks whether the processor is shut down just when he logs puts nothing behind the
shutdown. -/
theorem Sound.shutsLast_step (h : Sound config serialize y) (hlast : ShutsLast y.sent) {a : Action}
    (hprompt : ∀ s, a ≠ .log s true) : ShutsLast (y.step a).sent := by
  rcases h.sent_step a with hsame | ⟨s, lookedBefore, rfl, hlooked, hsent⟩ | ⟨request, hsent⟩
  · rw [hsame]
    exact hlast
  · intro caller hcaller
    rw [hsent] at hcaller
    have hshut := h.shutdown caller (by simpa using hcaller)
    exact absurd (congrArg (Action.log s) (hlooked hshut)) (hprompt s)
  · intro caller hcaller
    rw [hsent] at hcaller ⊢
    have hspans : spansIn (y.sent ++ [request.message y.processor.callers]) = spansIn y.sent := by
      rw [spansIn_concat]
      cases request <;> exact List.append_nil _
    rw [hspans]
    rcases List.mem_append.mp hcaller with hold | hnew
    · rw [ahead_append (mem_callersIn hold rfl)]
      exact hlast caller hold
    · have hmessage := List.mem_singleton.mp hnew
      cases request with
      | flush => cases hmessage
      | shutdown =>
        cases hmessage
        exact ahead_concat h.callers_notMem rfl

theorem Sound.shutsLast_run (h : Sound config serialize y) (hlast : ShutsLast y.sent)
    {actions : List Action} (hprompt : ∀ s, .log s true ∉ actions) :
    ShutsLast (y.run actions).sent := by
  induction actions using List.reverseRecOn with
  | nil => exact hlast
  | append_singleton actions a ih =>
    have hearlier := ih fun s hs => hprompt s (List.mem_append_left _ hs)
    rw [run_concat]
    refine (h.run actions).shutsLast_step hearlier ?_
    rintro s rfl
    exact hprompt s (List.mem_append_right _ (List.mem_singleton_self _))

/-- A worker that is gone took a shutdown and left nothing in the bucket. -/
lemma Sound.gone (h : Sound config serialize y) (hgone : y.processor.worker.isGone = true) :
    y.processor.worker.bucket = [] ∧ ∃ caller, .shutdown caller ∈ y.processor.queue.received := by
  have hfits := h.worker.fits
  cases hphase : y.processor.worker.phase with
  | ready | sending _ _ => simp [BatchWorker.isGone, hphase] at hgone
  | crashed => rw [hphase] at hfits; exact hfits.elim
  | exited => rw [hphase] at hfits; exact hfits

/-- The queue is closed only when the processor was shut down. -/
lemma Sound.isShutdown_of_closed (h : Sound config serialize y)
    (hclosed : y.processor.queue.isOpen = false) : y.processor.isShutdown = true := by
  have hgone : y.processor.worker.isGone = true := by
    have hopen := h.isOpen
    rw [hclosed] at hopen
    simpa using hopen
  obtain ⟨-, caller, hcaller⟩ := h.gone hgone
  exact h.shutdown caller (List.mem_append_left _ hcaller)

/-- A worker that is gone leaves nothing that waits for it. -/
lemma Sound.waiting_eq_nil (h : Sound config serialize y)
    (hgone : y.processor.worker.isGone = true) : y.processor.queue.waiting = [] := by
  rw [Channel.waiting, h.isOpen, hgone]
  rfl

/-- No span is left behind. -/
lemma Sound.left (h : Sound config serialize y) (hgone : y.processor.worker.isGone = true)
    (hlast : ShutsLast y.sent) : spansIn y.processor.queue.discarded = [] := by
  obtain ⟨-, caller, hcaller⟩ := h.gone hgone
  have hspans : spansIn y.sent =
      spansIn y.processor.queue.received ++ spansIn y.processor.queue.discarded := by
    rw [sent, ← Channel.waiting_append_discarded, h.waiting_eq_nil hgone, List.nil_append,
      spansIn_append]
  have hahead : ahead caller y.processor.queue.received = spansIn y.sent := by
    rw [← hlast caller (List.mem_append_left _ hcaller)]
    exact (ahead_append (mem_callersIn hcaller rfl) _).symm
  have hprefix := (ahead_prefix_spansIn caller y.processor.queue.received).length_le
  rw [hahead, hspans, List.length_append] at hprefix
  exact List.eq_nil_of_length_eq_zero (by omega)

end Session

end BatchProcessor

end TracePipeline
