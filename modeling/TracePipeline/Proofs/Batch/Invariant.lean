import TracePipeline.Proofs.Batch.Session
import TracePipeline.Proofs.Channel

/-!
# What every turn on a batch processor preserves

Messages are never lost between those who send them and the worker, so that what the worker took and
what is queued are all that was sent, in this order. Requests have numbers of their own. What was
accepted before a request stays ahead of it.
-/

namespace TracePipeline

namespace BatchProcessor

open BatchMessage

/-- The processor with another message in its queue. -/
def sending (p : BatchProcessor) (m : BatchMessage) : BatchProcessor :=
  { p with queue := { p.queue with items := p.queue.items ++ [m] } }

/-- The processor with the oldest message taken out of its queue. -/
def taking (p : BatchProcessor) (m : BatchMessage) (rest : List BatchMessage) : BatchProcessor :=
  { p with queue := { p.queue with items := rest, received := p.queue.received ++ [m] } }

variable {p p' : BatchProcessor}

lemma put_of_hasRoom (h : p.queue.HasRoom) (s : Span) : (p.put s).1 = p.sending (.span s) := by
  rw [put, Channel.trySend_of_hasRoom h]
  rfl

lemma put_of_not_hasRoom (h : ¬ p.queue.HasRoom) (hunmet : p.queue.isWaiting = false) (s : Span) :
    ∃ warning, (p.put s).1 = { p with dropped := p.dropped + 1, warning } := by
  rw [put, Channel.trySend_of_not_hasRoom h hunmet]
  exact ⟨_, rfl⟩

lemma request_of_hasRoom (h : p.queue.HasRoom) (message : Nat → BatchMessage) :
    p.request message =
      .ok { p.sending (message p.callers) with callers := p.callers + 1 } := by
  rw [request, Channel.trySend_of_hasRoom h]
  rfl

lemma request_of_not_hasRoom (h : ¬ p.queue.HasRoom) (hunmet : p.queue.isWaiting = false)
    (message : Nat → BatchMessage) :
    p.request message =
      .error (if p.queue.isOpen then .full (message p.callers)
        else .disconnected (message p.callers)) := by
  rw [request, Channel.trySend_of_not_hasRoom h hunmet]
  rfl

/-- What the worker of a processor does that is still held by somebody. -/
lemma work?_cases (h : p.work? = some p') (hheld : p.isAbandoned = false) :
    (∃ text next, p.worker.phase = .sending text next ∧
      p' = p.withWorker (p.worker.sent p.clock)) ∨
    p.worker.phase = .ready ∧
      ((∃ m rest, p.queue.isOpen = true ∧ p.queue.items = m :: rest ∧
        p' = (p.taking m rest).signal (.message m)) ∨
      (p.queue.isOpen = true → p.queue.items = []) ∧ p.worker.bucket ≠ [] ∧
        p' = p.signal .timeout) := by
  unfold work? at h
  split at h
  · rename_i hsending
    split at h
    · left
      cases hphase : p.worker.phase with
      | sending text next => exact ⟨text, next, rfl, (Option.some.inj h).symm⟩
      | _ => simp [BatchWorker.isSending, hphase] at hsending
    · cases h
  · split at h
    · rename_i hready
      right
      have hphase : p.worker.phase = .ready := by
        cases hphase : p.worker.phase <;> simp_all [BatchWorker.isReady]
      refine ⟨hphase, ?_⟩
      split at h
      · rename_i m queue htake
        obtain ⟨hopen, rest, hitems, rfl⟩ := Channel.take_cases htake
        exact .inl ⟨m, rest, hopen, hitems, (Option.some.inj h).symm⟩
      · rename_i queue htake
        rw [hheld, if_neg nofun] at h
        split at h
        · cases h
        · rename_i hwaits
          refine .inr ⟨Channel.items_of_take_none htake, ?_, (Option.some.inj h).symm⟩
          intro hempty
          simp [hempty] at hwaits
    · cases h

namespace Session

/-- What holds of every session. -/
structure Sound (config : BatchConfig) (serialize : List Span → Except String ByteArray)
    (y : Session) : Prop where
  capacity : y.processor.queue.capacity = config.maxQueueSize
  unmet : y.processor.queue.isWaiting = false
  held : y.processor.isAbandoned = false
  isOpen : y.processor.queue.isOpen = !y.processor.worker.isGone
  worker : BatchWorker.Sound config serialize y.processor.queue.received y.processor.worker
  accepted : y.accepted = spansIn y.sent
  dropped : y.processor.dropped = .ofNat y.refused.length
  fresh : ∀ caller ∈ callersIn y.sent, caller < y.processor.callers
  before : ∀ a ∈ y.askers, a.before <+: y.accepted
  waiting : ∀ a ∈ y.askers, ∀ caller, a.progress = .waiting caller →
    caller ∈ callersIn y.sent ∧ a.before <+: ahead caller y.sent
  shutdown : ∀ caller, .shutdown caller ∈ y.sent → y.processor.isShutdown = true
  asked : ∀ a ∈ y.askers, a.request = .shutdown → y.processor.isShutdown = true

variable {config : BatchConfig} {serialize : List Span → Except String ByteArray} {y : Session}
  {logged : List (Span × Bool)} {askers : List Asker} {s : Span} {k : Nat} {progress : Progress}

lemma sound_start (config : BatchConfig) (serialize : List Span → Except String ByteArray) :
    Sound config serialize (start config serialize) where
  capacity := rfl
  unmet := rfl
  held := rfl
  isOpen := rfl
  worker := BatchWorker.sound_new config serialize
  accepted := rfl
  dropped := rfl
  fresh := nofun
  before := nofun
  waiting := nofun
  shutdown := nofun
  asked := nofun

lemma accepted_concat (y : Session) (s : Span) (ok : Bool) :
    accepted ⟨p, y.logged ++ [(s, ok)], askers⟩ = y.accepted ++ if ok then [s] else [] := by
  cases ok <;> simp [accepted]

lemma refused_concat (y : Session) (s : Span) (ok : Bool) :
    refused ⟨p, y.logged ++ [(s, ok)], askers⟩ = y.refused ++ if ok then [] else [s] := by
  cases ok <;> simp [refused]

lemma sent_sending (y : Session) (m : BatchMessage) :
    sent ⟨y.processor.sending m, logged, askers⟩ = y.sent ++ [m] :=
  (List.append_assoc _ _ _).symm

lemma sent_withWorker (p : BatchProcessor) (worker : BatchWorker) :
    sent ⟨p.withWorker worker, logged, askers⟩ = p.queue.received ++ p.queue.items := by
  rw [sent, withWorker]
  cases worker.isGone <;> rfl

/-- Nobody has the next number yet. -/
lemma Sound.callers_notMem (h : Sound config serialize y) :
    y.processor.callers ∉ callersIn y.sent := fun hused =>
  Nat.lt_irrefl _ (h.fresh _ hused)

/-- A span is dropped. -/
lemma Sound.drops (h : Sound config serialize y) (s : Span) (warning : Throttle) :
    Sound config serialize
      { y with
        processor := { y.processor with dropped := y.processor.dropped + 1, warning }
        logged := y.logged ++ [(s, false)] } := by
  refine { h with accepted := ?_, dropped := ?_, before := ?_ }
  · rw [accepted_concat, if_neg nofun, List.append_nil]
    exact h.accepted
  · rw [refused_concat, if_neg nofun, List.length_append, UInt64.ofNat_add, ← h.dropped]
    rfl
  · rw [accepted_concat, if_neg nofun, List.append_nil]
    exact h.before

/-- What was ahead of a request stays ahead of it, and nothing else comes there. -/
lemma Sound.waiting_append (h : Sound config serialize y) (later : List BatchMessage) {a : Asker}
    (ha : a ∈ y.askers) {caller : Nat} (hwaiting : a.progress = .waiting caller) :
    caller ∈ callersIn (y.sent ++ later) ∧ a.before <+: ahead caller (y.sent ++ later) := by
  obtain ⟨hcaller, hahead⟩ := h.waiting a ha caller hwaiting
  rw [ahead_append hcaller, callersIn, List.filterMap_append]
  exact ⟨List.mem_append_left _ hcaller, hahead⟩

/-- A span gets into the queue. -/
lemma Sound.accepts (h : Sound config serialize y) (s : Span) :
    Sound config serialize
      { y with
        processor := y.processor.sending (.span s)
        logged := y.logged ++ [(s, true)] } where
  capacity := h.capacity
  unmet := h.unmet
  held := h.held
  isOpen := h.isOpen
  worker := h.worker
  accepted := by
    rw [accepted_concat, if_pos rfl, h.accepted, sent_sending, spansIn_concat]
    rfl
  dropped := by
    rw [refused_concat, if_pos rfl, List.append_nil]
    exact h.dropped
  fresh := by
    have hcallers : callersIn (y.sent ++ [.span s]) = callersIn y.sent :=
      (callersIn_concat _ _).trans (List.append_nil _)
    rw [sent_sending, hcallers]
    exact h.fresh
  before a ha := by
    rw [accepted_concat]
    exact (h.before a ha).trans (List.prefix_append _ _)
  waiting a ha caller hwaiting := by
    rw [sent_sending]
    exact h.waiting_append [.span s] ha hwaiting
  shutdown caller hcaller := by
    rw [sent_sending] at hcaller
    exact h.shutdown caller (by simpa using hcaller)
  asked := h.asked

lemma mem_setProgress {a : Asker} (ha : a ∈ (y.setProgress k progress).askers) :
    a ∈ y.askers ∨ ∃ b, y.askers[k]? = some b ∧ a = { b with progress } := by
  obtain ⟨i, hi⟩ := List.mem_iff_getElem?.mp ha
  rw [setProgress, List.getElem?_modify] at hi
  obtain ⟨b, hb, hset⟩ := Option.map_eq_some_iff.mp hi
  by_cases hsame : k = i
  · subst hsame
    rw [if_pos rfl] at hset
    exact .inr ⟨b, hb, hset.symm⟩
  · rw [if_neg hsame] at hset
    subst hset
    exact .inl (List.mem_of_getElem? hb)

/-- A request comes to an end, or to nothing. -/
lemma Sound.setProgress (h : Sound config serialize y) (k : Nat)
    (hprogress : ∀ caller, progress ≠ .waiting caller) :
    Sound config serialize (y.setProgress k progress) := by
  have hold : ∀ a ∈ (y.setProgress k progress).askers, ∃ b ∈ y.askers,
      b.before = a.before ∧ b.request = a.request ∧
        ∀ caller, a.progress = .waiting caller → b.progress = .waiting caller := by
    intro a ha
    rcases mem_setProgress ha with hsame | ⟨b, hb, rfl⟩
    · exact ⟨a, hsame, rfl, rfl, fun _ hwaiting => hwaiting⟩
    · exact ⟨b, List.mem_of_getElem? hb, rfl, rfl, fun caller hwaiting =>
        absurd hwaiting (hprogress caller)⟩
  refine { h with before := ?_, waiting := ?_, asked := ?_ }
  · intro a ha
    obtain ⟨b, hb, hbefore, -, -⟩ := hold a ha
    rw [← hbefore]
    exact h.before b hb
  · intro a ha caller hwaiting
    obtain ⟨b, hb, hbefore, -, hprogress⟩ := hold a ha
    rw [← hbefore]
    exact h.waiting b hb caller (hprogress caller hwaiting)
  · intro a ha hrequest
    obtain ⟨b, hb, -, hsame, -⟩ := hold a ha
    exact h.asked b hb (hsame.trans hrequest)

/-- A request gets into the queue, under the next number. -/
lemma Sound.requests (h : Sound config serialize y) {a : Asker} (hk : y.askers[k]? = some a) :
    Sound config serialize
      { y.setProgress k (.waiting y.processor.callers) with
        processor :=
          { y.processor.sending (a.request.message y.processor.callers) with
            callers := y.processor.callers + 1 } } := by
  have hmem : a ∈ y.askers := List.mem_of_getElem? hk
  have hspan : (a.request.message y.processor.callers).span? = none := by cases a.request <;> rfl
  have hcaller : (a.request.message y.processor.callers).caller? = some y.processor.callers := by
    cases a.request <;> rfl
  have hshutdown : ∀ caller, a.request.message y.processor.callers = .shutdown caller →
      a.request = .shutdown := by
    intro caller hm
    cases hrequest : a.request with
    | flush => rw [hrequest] at hm; cases hm
    | shutdown => rfl
  generalize a.request.message y.processor.callers = m at hspan hcaller hshutdown
  have hsent : sent { y.setProgress k (.waiting y.processor.callers) with
      processor := { y.processor.sending m with callers := y.processor.callers + 1 } } =
      y.sent ++ [m] := (List.append_assoc _ _ _).symm
  have hold : ∀ b ∈ (y.setProgress k (.waiting y.processor.callers)).askers,
      b ∈ y.askers ∨ b = { a with progress := .waiting y.processor.callers } := by
    intro b hb
    rcases mem_setProgress hb with hsame | ⟨a', ha', rfl⟩
    · exact .inl hsame
    · rw [hk] at ha'
      cases ha'
      exact .inr rfl
  refine
    { h with accepted := ?_, fresh := ?_, before := ?_, waiting := ?_, shutdown := ?_, asked := ?_ }
  · rw [hsent, spansIn_concat, hspan, Option.toList_none, List.append_nil]
    exact h.accepted
  · intro caller hcallers
    rw [hsent, callersIn_concat, hcaller] at hcallers
    change caller < y.processor.callers + 1
    rcases List.mem_append.mp hcallers with hused | hlast
    · have hless := h.fresh caller hused
      omega
    · cases List.mem_singleton.mp hlast
      omega
  · intro b hb
    rcases hold b hb with hsame | rfl
    · exact h.before b hsame
    · exact h.before a hmem
  · intro b hb caller hwaiting
    rw [hsent]
    rcases hold b hb with hsame | rfl
    · exact h.waiting_append [m] hsame hwaiting
    · cases hwaiting
      rw [ahead_concat h.callers_notMem hcaller, ← h.accepted]
      exact ⟨mem_callersIn (List.mem_append_right _ (List.mem_singleton_self m)) hcaller,
        h.before a hmem⟩
  · intro caller hcaller'
    rw [hsent] at hcaller'
    rcases List.mem_append.mp hcaller' with hused | hlast
    · exact h.shutdown caller hused
    · exact h.asked a hmem (hshutdown caller (List.mem_singleton.mp hlast).symm)
  · intro b hb hrequest
    rcases hold b hb with hsame | rfl
    · exact h.asked b hsame hrequest
    · exact h.asked a hmem hrequest

/-- Somebody asks for something. -/
lemma Sound.asks (h : Sound config serialize y) (request : Request)
    (hprogress : ∀ caller, progress ≠ .waiting caller) {isShutdown : Bool}
    (hstays : y.processor.isShutdown = true → isShutdown = true)
    (hrequest : request = .shutdown → isShutdown = true) :
    Sound config serialize
      { y with
        processor := { y.processor with isShutdown }
        askers := y.askers ++ [⟨request, y.accepted, progress⟩] } := by
  refine { h with before := ?_, waiting := ?_, shutdown := ?_, asked := ?_ }
  · intro a ha
    rcases List.mem_append.mp ha with hold | hnew
    · exact h.before a hold
    · cases List.mem_singleton.mp hnew
      exact List.prefix_refl _
  · intro a ha caller hwaiting
    rcases List.mem_append.mp ha with hold | hnew
    · exact h.waiting a hold caller hwaiting
    · cases List.mem_singleton.mp hnew
      exact absurd hwaiting (hprogress caller)
  · exact fun caller hcaller => hstays (h.shutdown caller hcaller)
  · intro a ha hshutdown
    rcases List.mem_append.mp ha with hold | hnew
    · exact hstays (h.asked a hold hshutdown)
    · cases List.mem_singleton.mp hnew
      exact hrequest hshutdown

/-- The worker goes on, and maybe takes a message; nothing is sent meanwhile. -/
lemma Sound.works (h : Sound config serialize y) {queue : Channel BatchMessage}
    {worker : BatchWorker} (hqueue : queue.capacity = y.processor.queue.capacity)
    (hunmet : queue.isWaiting = false) (hopen : queue.isOpen = true)
    (hsent : queue.received ++ queue.items = y.sent)
    (hworker : BatchWorker.Sound config serialize queue.received worker) :
    Sound config serialize
      { y with processor := withWorker { y.processor with queue } worker } := by
  rw [withWorker]
  generalize hleft : (if worker.isGone = true then queue.close else queue) = left
  have hkeeps : left.items = queue.items ∧ left.received = queue.received ∧
      left.capacity = queue.capacity ∧ left.isWaiting = false ∧ left.isOpen = !worker.isGone := by
    subst hleft
    cases worker.isGone with
    | false => exact ⟨rfl, rfl, rfl, hunmet, hopen⟩
    | true => exact ⟨rfl, rfl, rfl, rfl, rfl⟩
  obtain ⟨hitems, hreceived, hcapacity, hwaits, hstays⟩ := hkeeps
  have hsame : left.received ++ left.items = y.sent := by rw [hreceived, hitems, hsent]
  refine
    { h with
      capacity := hcapacity.trans (hqueue.trans h.capacity)
      unmet := hwaits
      isOpen := hstays
      worker := ?_
      accepted := h.accepted.trans (congrArg spansIn hsame.symm)
      fresh := fun caller hcaller => h.fresh caller (hsame ▸ hcaller)
      waiting := ?_
      shutdown := fun caller hcaller => h.shutdown caller (hsame ▸ hcaller) }
  · rw [← hreceived] at hworker
    exact hworker
  · intro a ha caller hwaiting
    have hahead := h.waiting a ha caller hwaiting
    rw [← hsame] at hahead
    exact hahead

/-- The worker goes on without taking a message. -/
lemma Sound.keepsWorking (h : Sound config serialize y) {worker : BatchWorker}
    (hstays : y.processor.worker.isGone = false)
    (hworker : BatchWorker.Sound config serialize y.processor.queue.received worker) :
    Sound config serialize { y with processor := y.processor.withWorker worker } := by
  have hopen : y.processor.queue.isOpen = true := by rw [h.isOpen, hstays]; rfl
  exact h.works rfl h.unmet hopen rfl hworker

lemma Sound.step_log (h : Sound config serialize y) (s : Span) (lookedBefore : Bool) :
    Sound config serialize (y.step (.log s lookedBefore)) := by
  rw [Session.step]
  split
  · rename_i hshut
    have hlog : (y.processor.log s).1 =
        { y.processor with dropped := y.processor.dropped + 1 } := by
      rw [log, if_pos (Bool.and_eq_true_iff.mp hshut).1]
    rw [hlog]
    exact h.drops s y.processor.warning
  · by_cases hroom : y.processor.queue.HasRoom
    · rw [put_of_hasRoom hroom, Channel.trySend_of_hasRoom hroom]
      exact h.accepts s
    · obtain ⟨warning, hput⟩ := put_of_not_hasRoom hroom h.unmet s
      rw [hput, Channel.trySend_of_not_hasRoom hroom h.unmet]
      exact h.drops s warning

lemma Sound.step_ask (h : Sound config serialize y) (request : Request) :
    Sound config serialize (y.step (.ask request)) := by
  rw [Session.step]
  split
  · rename_i hshut
    exact h.asks request (by simp) id fun _ => hshut
  · have hprogress : ∀ caller, (if y.processor.deadline?.isSome then Progress.sending
        else .brokeDown) ≠ .waiting caller := by
      intro caller
      split <;> nofun
    cases request with
    | flush => exact h.asks .flush hprogress id nofun
    | shutdown => exact h.asks .shutdown hprogress (fun _ => rfl) fun _ => rfl

lemma Sound.step_trySend (h : Sound config serialize y) (k : Nat) :
    Sound config serialize (y.step (.trySend k)) := by
  rw [Session.step, Session.trySend]
  split
  · rename_i request before hk
    by_cases hroom : y.processor.queue.HasRoom
    · rw [request_of_hasRoom hroom]
      exact h.requests hk
    · rw [request_of_not_hasRoom hroom h.unmet]
      cases y.processor.queue.isOpen with
      | true => exact h
      | false => exact h.setProgress k nofun
  · exact h

lemma Sound.step_work (h : Sound config serialize y) :
    Sound config serialize (y.step .work) := by
  rw [Session.step]
  cases hwork : y.processor.work? with
  | none => exact h
  | some p =>
    rcases work?_cases hwork h.held with ⟨text, next, hphase, rfl⟩ | ⟨hphase, hready⟩
    · exact h.keepsWorking (by simp [BatchWorker.isGone, hphase]) (h.worker.sent _)
    · rcases hready with ⟨m, rest, hopen, hitems, rfl⟩ | ⟨-, -, rfl⟩
      · have hsent : (y.processor.queue.received ++ [m]) ++ rest = y.sent := by
          rw [Session.sent, hitems, List.append_assoc]
          rfl
        exact h.works rfl h.unmet hopen hsent (h.worker.receive hphase m _)
      · exact h.keepsWorking (by simp [BatchWorker.isGone, hphase]) (h.worker.timeout hphase _)

theorem Sound.step (h : Sound config serialize y) (a : Action) :
    Sound config serialize (y.step a) := by
  cases a with
  | log s lookedBefore => exact h.step_log s lookedBefore
  | ask request => exact h.step_ask request
  | trySend k => exact h.step_trySend k
  | giveUp k => exact h.setProgress k nofun
  | work => exact h.step_work
  | timeout =>
    rw [Session.step]
    split
    · rename_i hready
      have hphase : y.processor.worker.phase = .ready := by
        cases hphase : y.processor.worker.phase <;> simp_all [BatchWorker.isReady]
      exact h.keepsWorking (by simp [BatchWorker.isGone, hphase]) (h.worker.timeout hphase _)
    · exact h
  | pass nanos => exact { h with }
  | setSender isOpen => exact { h with }

theorem Sound.run (h : Sound config serialize y) (actions : List Action) :
    Sound config serialize (y.run actions) := by
  induction actions using List.reverseRecOn with
  | nil => exact h
  | append_singleton actions a ih =>
    rw [run_concat]
    exact ih.step a

end Session

end BatchProcessor

end TracePipeline
