import TracePipeline.Processor.Simple
import TracePipeline.Proofs.Batch.Settle
import TracePipeline.Proofs.Ending
import TracePipeline.Proofs.Export

/-!
# Sending in bundles and one by one

The lines of a bundle are the lines of its spans, one after the other. So it does not matter where
the stream of spans is cut: by the size of the bucket, by the time window, by a flush or by the
shutdown. What a batch processor has sent by the time its worker is gone is what a simple processor
sends for the same spans, and the two have counted the same.
-/

namespace TracePipeline

/-- Payloads, one after the other. -/
def joined (payloads : List ByteArray) : ByteArray := payloads.foldr (· ++ ·) .empty

lemma size_joined (payloads : List ByteArray) :
    (joined payloads).size = (payloads.map ByteArray.size).sum := by
  induction payloads with
  | nil => rfl
  | cons bytes payloads ih =>
    rw [List.map_cons, List.sum_cons, ← ih]
    exact ByteArray.size_append

namespace Bundle

variable {bundles : List Bundle}

/-- Every bundle was accepted, and its payload has a line for every span. -/
def Written (bundles : List Bundle) : Prop :=
  ∀ b ∈ bundles, b.outcome = .payload (Format.lines b.spans).toUTF8

/-- Each span in a bundle of its own. -/
def singly (spans : List Span) : List Bundle := spans.map fun s => ⟨[s], Format.debug [s]⟩

lemma written_singly (spans : List Span) : Written (singly spans) := by
  intro b hb
  obtain ⟨s, -, rfl⟩ := List.mem_map.mp hb
  rfl

lemma spansOf_singly (spans : List Span) : spansOf (singly spans) = spans := by
  simp [spansOf, singly, List.flatMap_map]

lemma Written.payloads (h : Written bundles) :
    bundles.filterMap BatchWorker.payloadOf = bundles.map (Format.lines ·.spans |>.toUTF8) := by
  induction bundles with
  | nil => rfl
  | cons b bundles ih =>
    have hpayload : BatchWorker.payloadOf b = some (Format.lines b.spans).toUTF8 := by
      rw [BatchWorker.payloadOf, h b List.mem_cons_self]
    rw [List.filterMap_cons_some hpayload, ih fun b hb => h b (List.mem_cons_of_mem _ hb)]
    rfl

/-- The payloads together have the lines of all spans, however these were bundled. -/
lemma Written.joined (h : Written bundles) :
    joined (bundles.filterMap BatchWorker.payloadOf) =
      (Format.lines (spansOf bundles)).toUTF8 := by
  rw [h.payloads]
  clear h
  induction bundles with
  | nil => rfl
  | cons b bundles ih =>
    have hspans : spansOf (b :: bundles) = b.spans ++ spansOf bundles := rfl
    rw [hspans, Format.toUTF8_lines_append, ← ih]
    rfl

lemma Written.isSent (h : Written bundles) : bundles.filter isSent = bundles := by
  refine List.filter_eq_self.mpr fun b hb => ?_
  rw [Bundle.isSent, BatchWorker.payloadOf, h b hb]
  rfl

/-- Bundles of one span each are told by the spans. -/
lemma Written.eq_singly (h : Written bundles)
    (hsize : ∀ b ∈ bundles, b.spans ≠ [] ∧ b.spans.length ≤ 1) :
    bundles = singly (spansOf bundles) := by
  induction bundles with
  | nil => rfl
  | cons b bundles ih =>
    obtain ⟨hsome, hone⟩ := hsize b List.mem_cons_self
    have hrest := ih (fun b hb => h b (List.mem_cons_of_mem _ hb))
      fun b hb => hsize b (List.mem_cons_of_mem _ hb)
    have hpos := List.length_pos_of_ne_nil hsome
    obtain ⟨s, hs⟩ := List.length_eq_one_iff.mp (Nat.le_antisymm hone hpos)
    obtain ⟨spans, outcome⟩ := b
    obtain rfl : spans = [s] := hs
    obtain rfl : outcome = Format.debug [s] := h _ List.mem_cons_self
    exact congrArg (_ :: ·) hrest

/-- The counters do not depend on how the spans were bundled. -/
lemma Written.tally (h : Written bundles) (taken : List Span) :
    Statistics.tally taken bundles =
      { recordsProcessed := .ofNat (taken.map (·.records.length)).sum
        spansFlushed := .ofNat taken.length
        spansSent := .ofNat (spansOf bundles).length
        bytesSent := .ofNat (Format.lines (spansOf bundles)).toUTF8.size } := by
  have hspans : (bundles.map (·.spans.length)).sum = (spansOf bundles).length := by
    rw [spansOf, List.length_flatMap]
  have hbytes : ((bundles.filterMap BatchWorker.payloadOf).map ByteArray.size).sum =
      (Format.lines (spansOf bundles)).toUTF8.size := by
    rw [← h.joined, size_joined]
  rw [Statistics.tally, h.isSent, hspans, hbytes]

end Bundle

namespace SimpleProcessor

open TracePipeline.Bundle

/-- What holds of a simple processor that took certain spans. -/
structure Took (taken : List Span) (p : SimpleProcessor) : Prop where
  format : p.format = .debug
  isOpen : p.isShutdown = false
  payloads : p.payloads = (singly taken).filterMap BatchWorker.payloadOf
  statistics : p.statistics = .tally taken (singly taken)

variable {taken : List Span} {p : SimpleProcessor}

lemma took_new : Took [] (.new .debug) := ⟨rfl, rfl, rfl, rfl⟩

lemma Took.log (h : Took taken p) (s : Span) : Took (taken ++ [s]) (p.log s).1 := by
  have hsingly : singly (taken ++ [s]) =
      singly taken ++ [⟨[s], .payload (Format.lines [s]).toUTF8⟩] := List.map_append
  have hlog : (p.log s).1 = { p with
      statistics := (p.statistics.spanAccepted s).payloadSent 1 (Format.lines [s]).toUTF8.size
      payloads := p.payloads ++ [(Format.lines [s]).toUTF8] } := by
    simp [SimpleProcessor.log, h.isOpen, h.format, Format.debug]
  rw [hlog]
  refine ⟨h.format, h.isOpen, ?_, ?_⟩
  · rw [hsingly, List.filterMap_append, ← h.payloads]
    rfl
  · rw [hsingly, Statistics.tally_sent, Statistics.tally_taken, ← h.statistics]
    rfl

lemma Took.logAll (h : Took taken p) (spans : List Span) :
    Took (taken ++ spans) (p.logAll spans).1 := by
  induction spans generalizing taken p with
  | nil =>
    rw [List.append_nil]
    exact h
  | cons s spans ih =>
    have hrest := ih (h.log s)
    rw [List.append_assoc] at hrest
    exact hrest

end SimpleProcessor

namespace BatchProcessor

open TracePipeline.Bundle BatchMessage

/-- A simple processor that took the spans and was shut down. -/
def simply (spans : List Span) : SimpleProcessor :=
  (((SimpleProcessor.new .debug).logAll spans).1.shutdown).1

/-- The worker has sent what a simple processor sent, and counted the same. -/
structure SentAlike (config : BatchConfig) (worker : BatchWorker) (simple : SimpleProcessor) :
    Prop where
  sent : joined worker.payloads = joined simple.payloads
  counted : worker.statistics = simple.statistics
  each : config.batchSize = 1 → worker.payloads = simple.payloads

namespace Session

/-- Whoever logs a span finds room in the queue. -/
def FindsRoom (config : BatchConfig) (actions : List Action) : Prop :=
  ∀ k (hk : k < actions.length), actions[k].span?.isSome = true →
    ((start config writeLines).run (actions.take k)).processor.queue.items.length <
      config.maxQueueSize

variable {config : BatchConfig} {serialize : List Span → Except String ByteArray}
  {actions : List Action} {y : Session} {spans : List Span}

lemma Sound.isShutdown_step (h : Sound config serialize y) {a : Action}
    (ha : a ≠ .ask .shutdown) : (y.step a).processor.isShutdown = y.processor.isShutdown := by
  cases a with
  | log s lookedBefore =>
    rw [Session.step]
    split
    · rename_i hshut
      rw [BatchProcessor.log, if_pos (Bool.and_eq_true_iff.mp hshut).1]
    · by_cases hroom : y.processor.queue.HasRoom
      · rw [put_of_hasRoom hroom]
        rfl
      · obtain ⟨warning, hput⟩ := put_of_not_hasRoom hroom h.unmet s
        rw [hput]
  | ask request =>
    cases request with
    | flush =>
      rw [Session.step]
      split <;> rfl
    | shutdown => exact absurd rfl ha
  | trySend k =>
    rw [Session.step, Session.trySend]
    split
    · by_cases hroom : y.processor.queue.HasRoom
      · rw [request_of_hasRoom hroom]
        rfl
      · rw [request_of_not_hasRoom hroom h.unmet]
        cases y.processor.queue.isOpen <;> rfl
    · rfl
  | work =>
    rw [Session.step]
    cases hwork : y.processor.work? with
    | none => rfl
    | some p =>
      rcases work?_cases hwork h.held with ⟨_, _, _, rfl⟩ | ⟨_, ⟨_, _, _, _, rfl⟩ | ⟨_, _, rfl⟩⟩ <;>
        rfl
  | timeout =>
    rw [Session.step]
    split <;> rfl
  | giveUp _ | pass _ | setSender _ => rfl

/-- As long as nobody asks for the shutdown, a span is accepted if there is room. -/
lemma logged_run (hask : .ask .shutdown ∉ actions) (hroom : FindsRoom config actions) :
    ((start config writeLines).run actions).processor.isShutdown = false ∧
    ((start config writeLines).run actions).logged =
      (actions.filterMap Action.span?).map (·, true) := by
  induction actions using List.reverseRecOn with
  | nil => exact ⟨rfl, rfl⟩
  | append_singleton actions a ih =>
    have hlast : a ≠ .ask .shutdown := by
      rintro rfl
      exact hask (List.mem_append_right _ (List.mem_singleton_self _))
    have hearlier : FindsRoom config actions := by
      intro k hk hspan
      have hmore : k < (actions ++ [a]).length := by simp; omega
      have hfound := hroom k hmore (by rwa [List.getElem_append_left hk])
      rwa [List.take_append_of_le_length (Nat.le_of_lt hk)] at hfound
    obtain ⟨hopen, hlogged⟩ := ih (fun h => hask (List.mem_append_left _ h)) hearlier
    have hsound := (sound_start config writeLines).run actions
    rw [run_concat]
    refine ⟨(hsound.isShutdown_step hlast).trans hopen, ?_⟩
    cases a with
    | log s lookedBefore =>
      have hfound := hroom actions.length (by simp) (by simp [Action.span?])
      rw [List.take_left] at hfound
      obtain ⟨ok, hlog, hrefused, -⟩ := hsound.logs s lookedBefore
      cases ok with
      | true =>
        rw [hlog, hlogged, List.filterMap_append, List.map_append]
        rfl
      | false =>
        rcases hrefused rfl with hshut | hfull
        · simp [hopen] at hshut
        · omega
    | ask _ | trySend _ | giveUp _ | work | timeout | pass _ | setSender _ =>
      rw [logged_step _ rfl, hlogged, List.filterMap_append]
      simp [Action.span?]

/-- A worker that is gone and left nothing behind has sent what was accepted. -/
lemma Sound.sentAlike (h : Sound config writeLines y)
    (hgone : y.processor.worker.isGone = true)
    (hempty : spansIn y.processor.queue.discarded = []) :
    SentAlike config y.processor.worker (simply y.accepted) := by
  have hwritten : Written y.processor.worker.bundles := fun b hb =>
    (h.worker.bundled b hb).2.2
  have htaken : spansIn y.processor.queue.received = spansOf y.processor.worker.bundles := by
    rw [h.worker.taken, (h.gone hgone).1, List.append_nil]
  have haccepted : y.accepted = spansOf y.processor.worker.bundles := by
    rw [h.conserved, (h.gone hgone).1, h.waiting_eq_nil hgone, hempty, List.append_nil,
      List.append_nil]
    exact List.append_nil _
  have htook := SimpleProcessor.took_new.logAll y.accepted
  rw [List.nil_append] at htook
  have hpayloads : (simply y.accepted).payloads =
      (singly y.accepted).filterMap BatchWorker.payloadOf := by
    rw [simply, SimpleProcessor.shutdown, htook.isOpen]
    exact htook.payloads
  have hstatistics : (simply y.accepted).statistics = .tally y.accepted (singly y.accepted) := by
    rw [simply, SimpleProcessor.shutdown, htook.isOpen]
    exact htook.statistics
  refine ⟨?_, ?_, fun hone => ?_⟩
  · rw [hpayloads, (written_singly _).joined, spansOf_singly, haccepted]
    exact hwritten.joined
  · rw [hstatistics, (written_singly _).tally, spansOf_singly, h.worker.statistics, htaken,
      hwritten.tally, haccepted]
  · have hsize : ∀ b ∈ y.processor.worker.bundles, b.spans ≠ [] ∧ b.spans.length ≤ 1 := by
      intro b hb
      obtain ⟨hsome, hlength, -⟩ := h.worker.bundled b hb
      exact ⟨hsome, hone ▸ hlength⟩
    rw [hpayloads, haccepted, ← hwritten.eq_singly hsize]
    rfl

/-- However a session ends in which nothing is logged after the shutdown is asked for. -/
lemma Sound.sentAlike_run (h : Sound config writeLines y)
    (hopen : y.processor.isShutdown = false) {after : List Action}
    (hafter : ∀ a ∈ after, a.span? = none)
    (hgone : (y.run (.ask .shutdown :: after)).processor.worker.isGone = true) :
    SentAlike config (y.run (.ask .shutdown :: after)).processor.worker (simply y.accepted) := by
  have hnever : ∀ a ∈ Action.ask .shutdown :: after, a.span? = none := by
    intro a ha
    rcases List.mem_cons.mp ha with rfl | hrest
    · rfl
    · exact hafter a hrest
  have hnone : ShutsLast y.sent := by
    intro caller hcaller
    have hshut := h.shutdown caller hcaller
    simp [hopen] at hshut
  have hlast : ShutsLast (y.run (.ask .shutdown :: after)).sent :=
    h.shutsLast_run hnone fun _ hs => nomatch hnever _ hs
  have hsame : (y.run (.ask .shutdown :: after)).accepted = y.accepted := by
    rw [Session.accepted, logged_run_after y hnever]
    rfl
  have hsound := h.run (.ask .shutdown :: after)
  rw [← hsame]
  exact hsound.sentAlike hgone (hsound.left hgone hlast)

/-- What a batch processor has sent when it is shut down, at once or while others go on, compared
with what a simple processor sends for the spans that were logged. -/
structure AgreesWithSimple (config : BatchConfig) (actions : List Action) : Prop where
  atOnce : ((start config writeLines).run actions).processor.isSenderOpen = true →
    ∃ p, ((start config writeLines).run actions).processor.shutdown =
        (p, .returned (.ok ()), []) ∧
      SentAlike config p.worker (simply (actions.filterMap Action.span?))
  inTheEnd : ∀ after : List Action, (∀ a ∈ after, a.span? = none) →
    ((start config writeLines).run (actions ++ .ask .shutdown :: after)).processor.worker.isGone =
      true →
    SentAlike config
      ((start config writeLines).run (actions ++ .ask .shutdown :: after)).processor.worker
      (simply (actions.filterMap Action.span?))

/-- A flush that waits for room while the sender keeps the worker waiting, and a time window that
ends. -/
def someTurns : List Action :=
  [.log (answered 1) false, .log (answered 2) true, .ask .flush, .setSender false, .work,
    .trySend 0, .work, .setSender true, .work, .work, .log (answered 3) false, .work, .timeout,
    .work, .log (answered 4) false]

/-- The same, but the shutdown may take as long as any length of time. -/
def patientPairs : BatchConfig :=
  BatchConfig.Builder.build ⟨2, 2, .ofMillis 5, .longest⟩

end Session

end BatchProcessor

end TracePipeline
