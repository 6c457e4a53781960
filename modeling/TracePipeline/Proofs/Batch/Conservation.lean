import Mathlib.Data.List.Flatten
import TracePipeline.Proofs.Batch.Shutdown

/-!
# No span is lost or counted twice

Every span that was logged was dropped, or waits in the queue or in the bucket, or is in one bundle,
which was sent or could not be serialized. The bundles are made in the order in which the spans were
logged. Whoever gets an answer finds what was accepted before in the bundles. No span is discarded
with the queue of a worker that leaves, unless the shutdown overtook somebody who was about to log.
-/

namespace TracePipeline

namespace BatchProcessor

open BatchMessage

/-- Makes a request and waits for the answer. -/
def Request.perform (request : Request) (p : BatchProcessor) :
    BatchProcessor × Ending (Except TraceError Unit) :=
  match request with
  | flush => p.flush
  | shutdown => (p.shutdown.1, p.shutdown.2.1)

variable {p p' : BatchProcessor} {message : Nat → BatchMessage} {result : Except TraceError Unit}

lemma call_returned (h : p.call message = (p', .returned result)) :
    p.deadline?.isSome = true ∧ p.callInTime message = (p', result) := by
  unfold call at h
  split at h
  · rename_i hdeadline
    cases h
    exact ⟨hdeadline, rfl⟩
  · cases h

lemma Request.deadline?_begin (request : Request) (p : BatchProcessor) :
    (request.begin p).deadline? = p.deadline? := by
  cases request <;> rfl

lemma Request.perform_of_open (hopen : p.isShutdown = false) (request : Request) :
    request.perform p = (request.begin p).call request.message := by
  cases request with
  | flush =>
    rw [Request.perform, BatchProcessor.flush, hopen, if_neg Bool.false_ne_true]
    rfl
  | shutdown =>
    rw [Request.perform, BatchProcessor.shutdown, hopen, if_neg Bool.false_ne_true]
    change _ = ({ p with isShutdown := true } : BatchProcessor).call .shutdown
    generalize ({ p with isShutdown := true } : BatchProcessor).call .shutdown = called
    obtain ⟨q, ending⟩ := called
    cases ending <;> rfl

/-- What the worker may answer. -/
def IsAnswer (result : Except TraceError Unit) : Prop :=
  result = .ok () ∨ ∃ cause, result = .error (.serialization cause)

namespace Session

/-- What became of the spans that were logged. -/
structure Conserves (config : BatchConfig) (serialize : List Span → Except String ByteArray)
    (actions : List Action) (y : Session) : Prop where
  logs : ∀ s lookedBefore, ∃ ok,
    (y.step (.log s lookedBefore)).logged = y.logged ++ [(s, ok)] ∧
      (ok = false → y.processor.isShutdown = true ∨
        config.maxQueueSize ≤ y.processor.queue.items.length) ∧
      (ok = true → (y.processor.isShutdown = true → lookedBefore = true) ∧
        y.processor.queue.items.length < config.maxQueueSize)
  dropped : y.processor.dropped = .ofNat y.refused.length
  conserved : y.accepted = Bundle.spansOf y.processor.worker.bundles ++
    y.processor.worker.bucket ++ spansIn y.processor.queue.waiting ++
    spansIn y.processor.queue.discarded
  bundled : ∀ b ∈ y.processor.worker.bundles, b.spans ≠ [] ∧
    b.spans.length ≤ config.batchSize ∧
    b.outcome = match serialize b.spans with
      | .ok bytes => .payload bytes
      | .error cause => .failed cause
  ordered : (Bundle.spansOf (y.processor.worker.bundles.filter Bundle.isSent)).Sublist
    (y.logged.map (·.1))
  taken : spansIn y.processor.queue.received =
    Bundle.spansOf y.processor.worker.bundles ++ y.processor.worker.bucket
  counted : y.processor.worker.statistics =
    .tally (spansIn y.processor.queue.received) y.processor.worker.bundles
  answered : ∀ a ∈ y.askers, ∀ caller result, a.progress = .waiting caller →
    y.processor.worker.replies.lookup caller = some result →
      a.before <+: Bundle.spansOf y.processor.worker.bundles
  returned : y.processor.isShutdown = false → ∀ request p result,
    Request.perform request y.processor = (p, .returned result) → IsAnswer result →
      y.accepted <+: Bundle.spansOf p.worker.bundles
  stays : y.processor.worker.isGone = false → y.processor.queue.discarded = []
  left : y.processor.worker.isGone = true → y.processor.worker.bucket = [] ∧
    y.processor.queue.waiting = [] ∧
    ((∀ s, .log s true ∉ actions) → spansIn y.processor.queue.discarded = [])

variable {config : BatchConfig} {serialize : List Span → Except String ByteArray} {y : Session}
  {k : Nat}

lemma Sound.logs (h : Sound config serialize y) (s : Span) (lookedBefore : Bool) :
    ∃ ok, (y.step (.log s lookedBefore)).logged = y.logged ++ [(s, ok)] ∧
      (ok = false → y.processor.isShutdown = true ∨
        config.maxQueueSize ≤ y.processor.queue.items.length) ∧
      (ok = true → (y.processor.isShutdown = true → lookedBefore = true) ∧
        y.processor.queue.items.length < config.maxQueueSize) := by
  rw [Session.step]
  split
  · rename_i hshut
    exact ⟨false, rfl, fun _ => .inl (Bool.and_eq_true_iff.mp hshut).1, by simp⟩
  · rename_i hgo
    by_cases hroom : y.processor.queue.HasRoom
    · rw [Channel.trySend_of_hasRoom hroom]
      refine ⟨true, rfl, by simp, fun _ => ⟨fun hshut => ?_, ?_⟩⟩
      · simpa [hshut] using hgo
      · rw [← h.capacity]
        exact hroom.2
    · rw [Channel.trySend_of_not_hasRoom hroom h.unmet]
      refine ⟨false, rfl, fun _ => ?_, by simp⟩
      cases hopen : y.processor.queue.isOpen with
      | false => exact .inl (h.isShutdown_of_closed hopen)
      | true =>
        right
        rw [← h.capacity]
        exact Nat.le_of_not_lt fun hless => hroom ⟨hopen, hless⟩

lemma Sound.answered (h : Sound config serialize y) {a : Asker} (ha : a ∈ y.askers) {caller : Nat}
    {result : Except TraceError Unit} (hwaiting : a.progress = .waiting caller)
    (hreply : y.processor.worker.replies.lookup caller = some result) :
    a.before <+: Bundle.spansOf y.processor.worker.bundles := by
  have hmem : (caller, result) ∈ y.processor.worker.replies := by
    obtain ⟨earlier, later, hreplies, -⟩ := List.lookup_eq_some_iff.mp hreply
    rw [hreplies]
    exact List.mem_append_right _ List.mem_cons_self
  obtain ⟨hcaller, hdone⟩ := h.worker.answered caller result hmem
  obtain ⟨-, hahead⟩ := h.waiting a ha caller hwaiting
  have hsame : ahead caller y.sent = ahead caller y.processor.queue.received :=
    ahead_append hcaller _
  rw [hsame] at hahead
  exact hahead.trans hdone

/-- The worker goes on for a while. -/
lemma run_work (y : Session) (n : Nat) :
    y.run (List.replicate n .work) = { y with processor := y.processor.work n } := by
  induction n generalizing y with
  | zero => rfl
  | succ n ih =>
    have hstep : y.run (List.replicate (n + 1) .work) =
        (y.step .work).run (List.replicate n .work) := rfl
    rw [hstep, ih, BatchProcessor.work]
    cases hwork : y.processor.work? with
    | some p => simp [Session.step, hwork]
    | none =>
      have hidle : y.processor.work n = y.processor := by
        cases n with
        | zero => rfl
        | succ n => rw [BatchProcessor.work, hwork]
      simp [Session.step, hwork, hidle]

lemma Sound.settle (h : Sound config serialize y) :
    Sound config serialize { y with processor := y.processor.settle } := by
  have hrun := h.run (List.replicate (2 * y.processor.queue.items.length + 4) .work)
  rw [run_work] at hrun
  exact hrun

lemma not_isAnswer_timedOut (timeout : Duration) : ¬ IsAnswer (.error (.timedOut timeout)) := by
  rintro (h | ⟨cause, h⟩) <;> cases h

lemma not_isAnswer_channelClosed (what : String) : ¬ IsAnswer (.error (.channelClosed what)) := by
  rintro (h | ⟨cause, h⟩) <;> cases h

/-- A request that is made without anybody else going on but the worker. -/
lemma Sound.callInTime (h : Sound config serialize y) {request : Request} {before : List Span}
    (hk : y.askers[k]? = some ⟨request, before, .sending⟩) {p : BatchProcessor}
    {result : Except TraceError Unit}
    (hcall : y.processor.callInTime request.message = (p, result)) (hanswer : IsAnswer result) :
    before <+: Bundle.spansOf p.worker.bundles := by
  have hsettled := h.settle
  rw [BatchProcessor.callInTime] at hcall
  generalize y.processor.settle = settled at hsettled hcall
  dsimp only at hcall
  cases hrequest : settled.request request.message with
  | error e =>
    rw [hrequest] at hcall
    cases e <;> cases hcall
    · exact absurd hanswer (not_isAnswer_timedOut _)
    · exact absurd hanswer (not_isAnswer_channelClosed _)
  | ok sent =>
    -- the request is queued, and the worker goes on until it has to wait
    have hsent := hsettled.step (.trySend k)
    rw [Session.step, Session.trySend] at hsent
    simp only [hk, hrequest] at hsent
    have hdone := hsent.settle
    rw [hrequest] at hcall
    dsimp only at hcall hdone
    generalize sent.settle = done at hdone hcall
    cases hreply : done.worker.replies.lookup settled.callers with
    | some answer =>
      rw [hreply] at hcall
      cases hcall
      have hasker : (y.setProgress k (.waiting settled.callers)).askers[k]? =
          some ⟨request, before, .waiting settled.callers⟩ := by
        rw [Session.setProgress, List.getElem?_modify, hk]
        simp
      exact hdone.answered (List.mem_of_getElem? hasker) rfl hreply
    | none =>
      rw [hreply] at hcall
      dsimp only at hcall
      split at hcall
      · cases hcall
        exact absurd hanswer (not_isAnswer_channelClosed _)
      · cases hcall
        exact absurd hanswer (not_isAnswer_timedOut _)

lemma Sound.returned (h : Sound config serialize y) (hopen : y.processor.isShutdown = false)
    (request : Request) {p : BatchProcessor} {result : Except TraceError Unit}
    (hperform : request.perform y.processor = (p, .returned result)) (hanswer : IsAnswer result) :
    y.accepted <+: Bundle.spansOf p.worker.bundles := by
  have hasked := h.step (.ask request)
  rw [Request.perform_of_open hopen] at hperform
  obtain ⟨hdeadline, hcall⟩ := call_returned hperform
  rw [Request.deadline?_begin] at hdeadline
  rw [Session.step, hopen, if_neg Bool.false_ne_true, if_pos hdeadline] at hasked
  have hk : (y.askers ++ [⟨request, y.accepted, .sending⟩])[y.askers.length]? =
      some ⟨request, y.accepted, .sending⟩ := List.getElem?_concat_length
  exact hasked.callInTime hk hcall hanswer

lemma Sound.conserved (h : Sound config serialize y) :
    y.accepted = Bundle.spansOf y.processor.worker.bundles ++ y.processor.worker.bucket ++
      spansIn y.processor.queue.waiting ++ spansIn y.processor.queue.discarded := by
  rw [h.accepted, sent, spansIn_append, h.worker.taken, List.append_assoc _ (spansIn _),
    ← spansIn_append, Channel.waiting_append_discarded]

lemma Sound.ordered (h : Sound config serialize y) :
    (Bundle.spansOf (y.processor.worker.bundles.filter Bundle.isSent)).Sublist
      (y.logged.map (·.1)) := by
  have hsent : (Bundle.spansOf (y.processor.worker.bundles.filter Bundle.isSent)).Sublist
      (Bundle.spansOf y.processor.worker.bundles) :=
    List.filter_sublist.flatMap Bundle.spans
  have hdone : (Bundle.spansOf y.processor.worker.bundles).Sublist y.accepted := by
    rw [h.conserved, List.append_assoc, List.append_assoc]
    exact List.sublist_append_left _ _
  have hlogged : y.accepted.Sublist (y.logged.map (·.1)) := List.filter_sublist.map _
  exact (hsent.trans hdone).trans hlogged

lemma Sound.discarded_eq_nil (h : Sound config serialize y)
    (hstays : y.processor.worker.isGone = false) : y.processor.queue.discarded = [] := by
  rw [Channel.discarded, h.isOpen, hstays]
  rfl

theorem conserves (config : BatchConfig) (serialize : List Span → Except String ByteArray)
    (actions : List Action) :
    Conserves config serialize actions ((start config serialize).run actions) := by
  have h := (sound_start config serialize).run actions
  have hlast := fun hprompt : ∀ s, .log s true ∉ actions =>
    (sound_start config serialize).shutsLast_run (fun _ hnone => nomatch hnone) hprompt
  generalize (start config serialize).run actions = y at h hlast
  exact
    { logs := h.logs
      dropped := h.dropped
      conserved := h.conserved
      bundled := h.worker.bundled
      ordered := h.ordered
      taken := h.worker.taken
      counted := h.worker.statistics
      answered := fun a ha caller result => h.answered ha
      returned := fun hopen request p result => h.returned hopen request
      stays := h.discarded_eq_nil
      left := fun hgone => ⟨(h.gone hgone).1, h.waiting_eq_nil hgone, fun hprompt =>
        h.left hgone (hlast hprompt)⟩ }

/-- Bundles of two spans, and a queue that holds no more. -/
def pairs : BatchConfig := BatchConfig.Builder.build ⟨2, 2, .ofMillis 5, .ofMillis 10⟩

/-- A span of one record. -/
def answered (n : UInt64) : Span :=
  (Span.new ⟨0, 1, none, n⟩).push ⟨⟨0, 1, none, n⟩, .empty, 5, .clientRecv⟩

/-- The third span finds the queue full, and the fifth comes after the shutdown. The first two are
sent together; the fourth is a bundle of its own when the worker leaves, and cannot be serialized. -/
example :
    let y := (start pairs fun spans => if spans.length = 2 then .ok ⟨#[0]⟩ else .error "odd").run
      [.log (answered 1) false, .log (answered 2) false, .log (answered 3) false, .work, .work,
        .work, .log (answered 4) false, .ask .shutdown, .trySend 0, .work, .work,
        .log (answered 5) false]
    y.accepted = [answered 1, answered 2, answered 4] ∧ y.processor.dropped = 2 ∧
      y.processor.worker.bundles.map (·.spans) = [[answered 1, answered 2], [answered 4]] ∧
      y.processor.worker.payloads = [⟨#[0]⟩] ∧ y.processor.worker.statistics.spansSent.toNat = 2 ∧
      y.processor.worker.replies = [(0, .error (.serialization "odd"))] := by
  cbv

end Session

end BatchProcessor

end TracePipeline
