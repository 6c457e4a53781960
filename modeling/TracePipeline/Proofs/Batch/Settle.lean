import TracePipeline.Proofs.Batch.Conservation

/-!
# The worker goes on until it has to wait

While the sender takes every payload, the worker has to wait only when nothing is queued. What it
does before is bounded, so that it gets there, and a shutdown that is asked for then is answered.
-/

namespace TracePipeline

namespace BatchWorker

variable {w : BatchWorker} {next : AfterFlush} {now caller : Nat}

/-- What a worker does with what it holds, if nothing comes: it makes a bundle, and sends it. -/
def pending (w : BatchWorker) : Nat :=
  match w.phase with
  | .ready => if w.bucket.isEmpty then 0 else 2
  | .sending _ _ => 1
  | .exited | .crashed => 0

lemma pending_le (w : BatchWorker) : w.pending ≤ 2 := by
  unfold pending
  split
  · split <;> omega
  all_goals omega

lemma pending_goOn (hempty : w.bucket = []) (now : Nat) (result : Except TraceError Unit)
    (next : AfterFlush) : (w.goOn now result next).pending = 0 := by
  cases next <;> simp [goOn, answer, pending, hempty]

lemma pending_flush (w : BatchWorker) (now : Nat) (next : AfterFlush) :
    (w.flush now next).pending ≤ 1 := by
  unfold flush
  split
  · rename_i hempty
    rw [pending_goOn (List.isEmpty_iff.mp hempty)]
    exact Nat.zero_le 1
  · split
    · exact Nat.le_refl 1
    · rw [pending_goOn rfl]
      exact Nat.zero_le 1
    · exact Nat.zero_le 1

lemma pending_sent {bytes : ByteArray} (hphase : w.phase = .sending bytes next) :
    (w.sent now).pending = 0 := by
  rw [sent, hphase]
  exact pending_goOn rfl now (.ok ()) next

/-- Whatever becomes of the bucket, a worker that is asked to leave does so with an answer. -/
lemma handle_shutdown (hformat : w.format = .debug) (now caller : Nat) :
    (w.handle now (.message (.shutdown caller))).phase = .exited ∧
    (w.handle now (.message (.shutdown caller))).replies = w.replies ++ [(caller, .ok ())] := by
  cases hbucket : w.bucket.isEmpty <;>
    simp [handle, receive, flush, sent, goOn, answer, bundle, Format.debug, hformat, hbucket]

end BatchWorker

namespace BatchProcessor

open BatchMessage

variable {p p' : BatchProcessor}

/-- A bound for what the worker does before it has to wait. The bucket is made a bundle when its
time has come only if nothing is queued. -/
def toDo (p : BatchProcessor) : Nat :=
  if p.queue.items.isEmpty then p.worker.pending
  else 2 * p.queue.items.length + 1 + min p.worker.pending 1

lemma toDo_withWorker (p : BatchProcessor) (worker : BatchWorker) :
    (p.withWorker worker).toDo =
      if p.queue.items.isEmpty then worker.pending
      else 2 * p.queue.items.length + 1 + min worker.pending 1 := by
  have hitems : (p.withWorker worker).queue.items = p.queue.items := by
    unfold withWorker
    cases worker.isGone <;> rfl
  rw [toDo, hitems]
  rfl

lemma toDo_work? (hwork : p.work? = some p') (hheld : p.isAbandoned = false)
    (hopen : p.queue.isOpen = !p.worker.isGone) : p'.toDo < p.toDo := by
  rcases work?_cases hwork hheld with
    ⟨text, next, hphase, rfl⟩ | ⟨hphase, ⟨m, rest, -, hitems, rfl⟩ | ⟨hnone, hbucket, rfl⟩⟩
  · have hbefore : p.worker.pending = 1 := by simp [BatchWorker.pending, hphase]
    rw [toDo_withWorker, BatchWorker.pending_sent hphase, toDo, hbefore]
    split <;> omega
  · have hafter := BatchWorker.pending_le (p.worker.receive p.clock (.message m))
    rw [signal, toDo_withWorker, toDo, hitems]
    cases rest <;> simp [taking] <;> omega
  · have hitems : p.queue.items = [] := hnone (by simp [hopen, BatchWorker.isGone, hphase])
    have hbefore : p.worker.pending = 2 := by simp [BatchWorker.pending, hphase, hbucket]
    rw [signal, toDo_withWorker, toDo, hitems, hbefore]
    exact Nat.lt_succ_of_le (BatchWorker.pending_flush p.worker p.clock .proceed)

/-- What the sender does is not up to the worker. -/
lemma isSenderOpen_work? (hwork : p.work? = some p') (hheld : p.isAbandoned = false) :
    p'.isSenderOpen = p.isSenderOpen := by
  rcases work?_cases hwork hheld with ⟨_, _, _, rfl⟩ | ⟨_, ⟨_, _, _, _, rfl⟩ | ⟨_, _, rfl⟩⟩ <;> rfl

/-- A worker that is gone does nothing. -/
lemma work_exited (hphase : p.worker.phase = .exited) (n : Nat) : p.work n = p := by
  cases n with
  | zero => rfl
  | succ n => simp [work, work?, hphase, BatchWorker.isSending, BatchWorker.isReady]

/-- A worker that is ready takes the shutdown that is queued, and leaves. -/
lemma settle_shutdown {caller : Nat} (hready : p.worker.phase = .ready)
    (hformat : p.worker.format = .debug) (hopen : p.queue.isOpen = true)
    (hsender : p.isSenderOpen = true) (hitems : p.queue.items = [.shutdown caller]) :
    p.settle.worker = p.worker.handle p.clock (.message (.shutdown caller)) := by
  have hexited := (BatchWorker.handle_shutdown hformat p.clock caller).1
  have htake : p.work? =
      some ((p.taking (.shutdown caller) []).signal (.message (.shutdown caller))) := by
    simp [work?, BatchWorker.isSending, BatchWorker.isReady, hready, Channel.take, hitems, hopen,
      taking]
  have hsettle : p.settle =
      ((p.taking (.shutdown caller) []).signal (.message (.shutdown caller))).work 5 := by
    rw [settle, hitems, List.length_singleton, work, htake]
  rw [hsettle]
  rw [BatchWorker.handle] at hexited ⊢
  generalize htaken : p.worker.receive p.clock (.message (.shutdown caller)) = w at hexited
  have hworker : ((p.taking (.shutdown caller) []).signal
      (.message (.shutdown caller))).worker = w := htaken
  generalize hleft : (p.taking (.shutdown caller) []).signal (.message (.shutdown caller)) = left
    at hworker
  have hclock : left.clock = p.clock := by subst hleft; rfl
  have hstays : left.isSenderOpen = true := by subst hleft; exact hsender
  cases hphase : w.phase with
  | sending text next =>
    have hsent : left.work? = some (left.withWorker (w.sent p.clock)) := by
      simp [work?, hworker, BatchWorker.isSending, hphase, hstays, hclock]
    rw [work, hsent]
    exact congrArg worker (work_exited hexited 4)
  | exited =>
    rw [work_exited (by rw [hworker, hphase]), hworker, BatchWorker.sent, hphase]
  | ready | crashed => simp [BatchWorker.sent, hphase] at hexited

lemma toDo_le_settle (p : BatchProcessor) : p.toDo ≤ 2 * p.queue.items.length + 4 := by
  have hpending := p.worker.pending_le
  unfold toDo
  split <;> omega

/-- The span that a turn logs. -/
def Action.span? : Action → Option Span
  | .log s _ => some s
  | _ => none

/-- Writes the literals of spans, a line each. -/
def writeLines (spans : List Span) : Except String ByteArray := .ok (Format.lines spans).toUTF8

namespace Session

variable {config : BatchConfig} {serialize : List Span → Except String ByteArray} {y : Session}
  {k : Nat}

lemma logged_step (y : Session) {a : Action} (ha : a.span? = none) :
    (y.step a).logged = y.logged := by
  cases a with
  | log s _ => cases ha
  | ask request =>
    rw [Session.step]
    split <;> rfl
  | trySend k =>
    rw [Session.step, Session.trySend]
    split
    · split <;> rfl
    · rfl
  | timeout =>
    rw [Session.step]
    split <;> rfl
  | giveUp _ | work | pass _ | setSender _ => rfl

lemma logged_run_after (y : Session) {after : List Action} (hafter : ∀ a ∈ after, a.span? = none) :
    (y.run after).logged = y.logged := by
  induction after using List.reverseRecOn with
  | nil => rfl
  | append_singleton after a ih =>
    have hlast := hafter a (List.mem_append_right _ (List.mem_singleton_self a))
    rw [run_concat, logged_step _ hlast]
    exact ih fun a ha => hafter a (List.mem_append_left _ ha)

/-- The worker comes to a stop. -/
lemma Sound.work_rests (h : Sound config serialize y) {n : Nat} (hn : y.processor.toDo ≤ n) :
    (y.processor.work n).work? = none ∧
    (y.processor.work n).isSenderOpen = y.processor.isSenderOpen ∧
    sent { y with processor := y.processor.work n } = y.sent := by
  induction n generalizing y with
  | zero =>
    rw [work]
    cases hwork : y.processor.work? with
    | none => exact ⟨rfl, rfl, rfl⟩
    | some p =>
      have hless := toDo_work? hwork h.held h.isOpen
      omega
  | succ n ih =>
    rw [work]
    cases hwork : y.processor.work? with
    | none => exact ⟨hwork, rfl, rfl⟩
    | some p =>
      have hless := toDo_work? hwork h.held h.isOpen
      have hstep := h.step .work
      have hsent := h.sent_work
      rw [Session.step, hwork] at hstep hsent
      have hn' : p.toDo ≤ n := by omega
      obtain ⟨hidle, hsender, hsame⟩ := ih hstep hn'
      exact ⟨hidle, hsender.trans (isSenderOpen_work? hwork h.held), hsame.trans hsent⟩

/-- Nobody has asked the worker to leave, and it has not. -/
lemma Sound.stays (h : Sound config serialize y) (hnone : ∀ caller, .shutdown caller ∉ y.sent) :
    y.processor.worker.isGone = false := by
  cases hgone : y.processor.worker.isGone with
  | false => rfl
  | true =>
    obtain ⟨-, caller, hcaller⟩ := h.gone hgone
    exact absurd (List.mem_append_left _ hcaller) (hnone caller)

/-- A worker that the sender does not keep waiting waits only for messages. -/
lemma Sound.idle_ready (h : Sound config serialize y) (hidle : y.processor.work? = none)
    (hstays : y.processor.worker.isGone = false) (hsender : y.processor.isSenderOpen = true) :
    y.processor.worker.phase = .ready ∧ y.processor.queue.items = [] := by
  have hopen : y.processor.queue.isOpen = true := by rw [h.isOpen, hstays]; rfl
  cases hphase : y.processor.worker.phase with
  | exited | crashed => simp [BatchWorker.isGone, hphase] at hstays
  | sending text next => simp [work?, BatchWorker.isSending, hphase, hsender] at hidle
  | ready =>
    refine ⟨rfl, ?_⟩
    cases hitems : y.processor.queue.items with
    | nil => rfl
    | cons m rest =>
      simp [work?, BatchWorker.isSending, BatchWorker.isReady, hphase, Channel.take, hitems,
        hopen] at hidle

/-- Nobody has been answered under the next number. -/
lemma Sound.lookup_callers (h : Sound config serialize y) :
    y.processor.worker.replies.lookup y.processor.callers = none := by
  rw [List.lookup_eq_none_iff]
  rintro ⟨caller, result⟩ hreply
  obtain ⟨hcaller, -⟩ := h.worker.answered caller result hreply
  have hsent : caller ∈ callersIn y.sent := by
    rw [Session.sent, callersIn, List.filterMap_append]
    exact List.mem_append_left _ hcaller
  have hless := h.fresh caller hsent
  exact bne_iff_ne.mpr (Nat.ne_of_gt hless)

/-- As long as nobody asked it to leave, the worker ends up ready, with nothing in its queue. -/
lemma Sound.settle_ready (h : Sound config serialize y)
    (hnone : ∀ caller, .shutdown caller ∉ y.sent) (hsender : y.processor.isSenderOpen = true) :
    y.processor.settle.worker.phase = .ready ∧ y.processor.settle.queue.items = [] ∧
    y.processor.settle.queue.HasRoom ∧ y.processor.settle.isSenderOpen = true := by
  obtain ⟨hidle, hopen, hsent⟩ := h.work_rests y.processor.toDo_le_settle
  have hsettled := h.settle
  have hstays := hsettled.stays fun caller hcaller => hnone caller (hsent ▸ hcaller)
  obtain ⟨hready, hitems⟩ := hsettled.idle_ready hidle hstays (hopen.trans hsender)
  have hpos : 0 < config.maxQueueSize := Nat.lt_of_lt_of_le config.batch_pos config.batch_le_queue
  refine ⟨hready, hitems, ⟨?_, ?_⟩, hopen.trans hsender⟩
  · exact hsettled.isOpen.trans (by rw [hstays]; rfl)
  · rw [hitems, hsettled.capacity]
    exact hpos

/-- The worker goes on, the request gets into the queue, and the worker goes on again. -/
lemma run_request {request : Request} {before : List Span}
    (hk : y.askers[k]? = some ⟨request, before, .sending⟩)
    (hrequest : y.processor.settle.request request.message = .ok p) :
    ∃ after : List Action, (∀ a ∈ after, a = .work ∨ a = .trySend k) ∧
      (y.run after).processor = p.settle := by
  have hrun := run_work y (2 * y.processor.queue.items.length + 4)
  rw [← BatchProcessor.settle] at hrun
  have htry : ({ y with processor := y.processor.settle } : Session).step (.trySend k) =
      { y.setProgress k (.waiting y.processor.settle.callers) with processor := p } := by
    rw [Session.step, Session.trySend]
    simp only [hk, hrequest]
    rfl
  refine ⟨List.replicate (2 * y.processor.queue.items.length + 4) .work ++
    ([.trySend k] ++ List.replicate (2 * p.queue.items.length + 4) .work), ?_, ?_⟩
  · intro a ha
    simp only [List.mem_append, List.mem_singleton] at ha
    rcases ha with hwork | htry | hwork
    · exact .inl (List.eq_of_mem_replicate hwork)
    · exact .inr htry
    · exact .inl (List.eq_of_mem_replicate hwork)
  · have hone : ({ y with processor := y.processor.settle } : Session).run [.trySend k] =
        { y.setProgress k (.waiting y.processor.settle.callers) with processor := p } := htry
    rw [run_append, hrun, run_append, hone, run_work]
    rfl

/-- A shutdown that is asked for is answered. It takes no more than that the request gets into the
queue, and that the worker goes on before and after. -/
theorem Sound.callInTime_shutdown (h : Sound config writeLines y) {before : List Span}
    (hk : y.askers[k]? = some ⟨.shutdown, before, .sending⟩)
    (hnone : ∀ caller, .shutdown caller ∉ y.sent) (hsender : y.processor.isSenderOpen = true) :
    ∃ after : List Action, (∀ a ∈ after, a = .work ∨ a = .trySend k) ∧
      (y.run after).processor.worker.isGone = true ∧
      y.processor.callInTime .shutdown = ((y.run after).processor, .ok ()) := by
  have hsettled := h.settle
  obtain ⟨hready, hitems, hroom, hopen⟩ := h.settle_ready hnone hsender
  have hrequest := request_of_hasRoom hroom .shutdown
  have hrun := fun queued => run_request (p := queued) hk
  generalize hsettle : y.processor.settle = settled at *
  generalize hqueued : ({ settled.sending (.shutdown settled.callers) with
    callers := settled.callers + 1 } : BatchProcessor) = queued at hrequest
  obtain ⟨after, hafter, hlast⟩ := hrun queued hrequest
  have hworker : queued.settle.worker =
      settled.worker.handle settled.clock (.message (.shutdown settled.callers)) := by
    subst hqueued
    refine settle_shutdown hready hsettled.worker.format hroom.1 hopen ?_
    exact congrArg (· ++ [BatchMessage.shutdown settled.callers]) hitems
  obtain ⟨hexited, hreplies⟩ :=
    BatchWorker.handle_shutdown hsettled.worker.format settled.clock settled.callers
  rw [← hworker] at hexited hreplies
  have hlookup : queued.settle.worker.replies.lookup settled.callers = some (.ok ()) := by
    rw [hreplies, List.lookup_append, hsettled.lookup_callers]
    simp
  refine ⟨after, hafter, ?_, ?_⟩
  · rw [hlast, BatchWorker.isGone, hexited]
  · rw [hlast, BatchProcessor.callInTime, hsettle]
    simp only [hrequest, hlookup]

/-- A shutdown whose deadline the clock can show succeeds, and it is the request for it followed by
what takes it to the end. -/
theorem Sound.shutdown_run (h : Sound config writeLines y)
    (hopen : y.processor.isShutdown = false) (hsender : y.processor.isSenderOpen = true)
    (hdeadline : y.processor.deadline?.isSome = true) :
    ∃ after : List Action, (∀ a ∈ after, a.span? = none) ∧
      (y.run (.ask .shutdown :: after)).processor.worker.isGone = true ∧
      y.processor.shutdown = ((y.run (.ask .shutdown :: after)).processor, .returned (.ok ()),
        y.processor.shutdownReport) := by
  have hnone : ∀ caller, .shutdown caller ∉ y.sent := by
    intro caller hcaller
    have hshut := h.shutdown caller hcaller
    simp [hopen] at hshut
  have hasked := h.step (.ask .shutdown)
  have hstep : ∀ after, (y.step (.ask .shutdown)).run after = y.run (.ask .shutdown :: after) :=
    fun _ => rfl
  rw [Session.step, if_neg (by simp [hopen]), if_pos hdeadline] at hasked hstep
  obtain ⟨after, hturns, hgone, hcall⟩ :=
    hasked.callInTime_shutdown List.getElem?_concat_length hnone hsender
  rw [hstep] at hgone hcall
  have hafter : ∀ a ∈ after, a.span? = none := by
    intro a ha
    rcases hturns a ha with rfl | rfl <;> rfl
  have hdropped : (y.run (.ask .shutdown :: after)).processor.dropped = y.processor.dropped := by
    have hlogged := logged_run_after (y.step (.ask .shutdown)) hafter
    rw [logged_step y rfl] at hlogged
    have hrefused : (y.run (.ask .shutdown :: after)).refused = y.refused :=
      congrArg (fun logged => (logged.filter (!·.2)).map (·.1)) hlogged
    rw [(h.run (.ask .shutdown :: after)).dropped, hrefused, h.dropped]
  have hcall' : ({ y.processor with isShutdown := true } : BatchProcessor).call .shutdown =
      ((y.run (.ask .shutdown :: after)).processor, .returned (.ok ())) := by
    have hsame : ({ y.processor with isShutdown := true } : BatchProcessor).callInTime .shutdown =
        ((y.run (.ask .shutdown :: after)).processor, .ok ()) := hcall
    have hshows : ({ y.processor with isShutdown := true } : BatchProcessor).deadline?.isSome =
        true := hdeadline
    rw [call, if_pos hshows, hsame]
  refine ⟨after, hafter, hgone, ?_⟩
  rw [BatchProcessor.shutdown, if_neg (by simp [hopen]), hcall']
  simp only [shutdownReport, hdropped]

end Session

end BatchProcessor

end TracePipeline
