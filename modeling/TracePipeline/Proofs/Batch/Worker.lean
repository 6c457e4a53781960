import Mathlib.Algebra.GroupWithZero.Nat
import Mathlib.Data.List.Basic
import TracePipeline.Processor.Batch.Worker

/-!
# The worker of a batch processor and the messages it took

Whatever the worker was woken by, the spans that it took are those of its bundles and then those in
its bucket, and its counters say how many these are. Before it answers a caller it has emptied the
bucket, so that what came ahead of the request is in a bundle.
-/

namespace TracePipeline

/-- A format that fails or succeeds as a function of the bundle. -/
def Format.of (serialize : List Span → Except String ByteArray) : Format := fun spans =>
  match serialize spans with
  | .ok bytes => .payload bytes
  | .error cause => .failed cause

namespace BatchMessage

def span? : BatchMessage → Option Span
  | .span s => some s
  | _ => none

def caller? : BatchMessage → Option Nat
  | .span _ => none
  | .flush caller | .shutdown caller => some caller

/-- The spans among messages. -/
def spansIn (l : List BatchMessage) : List Span := l.filterMap span?

/-- Those who ask for something in messages. -/
def callersIn (l : List BatchMessage) : List Nat := l.filterMap caller?

/-- The spans that came before a caller asked. -/
def ahead (caller : Nat) (l : List BatchMessage) : List Span :=
  spansIn (l.takeWhile fun m => m.caller? != some caller)

variable {l : List BatchMessage} {m : BatchMessage} {caller : Nat}

lemma spansIn_append (l later : List BatchMessage) :
    spansIn (l ++ later) = spansIn l ++ spansIn later :=
  List.filterMap_append

lemma spansIn_concat (l : List BatchMessage) (m : BatchMessage) :
    spansIn (l ++ [m]) = spansIn l ++ m.span?.toList := by
  cases m <;> simp [spansIn, span?]

lemma callersIn_concat (l : List BatchMessage) (m : BatchMessage) :
    callersIn (l ++ [m]) = callersIn l ++ m.caller?.toList := by
  cases m <;> simp [callersIn, caller?]

lemma mem_callersIn (hm : m ∈ l) (hcaller : m.caller? = some caller) : caller ∈ callersIn l :=
  List.mem_filterMap.mpr ⟨m, hm, hcaller⟩

lemma ahead_prefix_spansIn (caller : Nat) (l : List BatchMessage) : ahead caller l <+: spansIn l :=
  (List.takeWhile_prefix _).filterMap span?

/-- Whoever has asked is not affected by what comes later. -/
lemma ahead_append (h : caller ∈ callersIn l) (later : List BatchMessage) :
    ahead caller (l ++ later) = ahead caller l := by
  induction l with
  | nil => cases h
  | cons m l ih =>
    by_cases hm : m.caller? = some caller
    · simp [ahead, hm]
    · have hrest : caller ∈ callersIn l := by
        obtain ⟨x, hx, hcaller⟩ := List.mem_filterMap.mp h
        rcases List.mem_cons.mp hx with rfl | hx
        · exact absurd hcaller hm
        · exact mem_callersIn hx hcaller
      have hkeep : (m.caller? != some caller) = true := by simpa using hm
      have hcons : ∀ l, ahead caller (m :: l) = m.span?.toList ++ ahead caller l := by
        intro l
        simp only [ahead, spansIn, List.takeWhile_cons, hkeep, if_true]
        cases m <;> rfl
      rw [List.cons_append, hcons, hcons, ih hrest]

/-- All that was sent before is ahead of whoever asks for the first time. -/
lemma ahead_concat (h : caller ∉ callersIn l) (hm : m.caller? = some caller) :
    ahead caller (l ++ [m]) = spansIn l := by
  have hall : ∀ x ∈ l, (x.caller? != some caller) = true := by
    intro x hx
    have hother : x.caller? ≠ some caller := fun heq => h (mem_callersIn hx heq)
    simpa using hother
  rw [ahead, List.takeWhile_append_of_pos hall]
  simp [hm]

end BatchMessage

/-- The bundle was sent, and not dropped. -/
def Bundle.isSent (b : Bundle) : Bool := (BatchWorker.payloadOf b).isSome

/-- The spans in bundles. -/
def Bundle.spansOf (bundles : List Bundle) : List Span := bundles.flatMap Bundle.spans

/-- The counters of a worker that took certain spans and made certain bundles. -/
def Statistics.tally (taken : List Span) (bundles : List Bundle) : Statistics where
  recordsProcessed := .ofNat (taken.map (·.records.length)).sum
  spansFlushed := .ofNat taken.length
  spansSent := .ofNat ((bundles.filter Bundle.isSent).map (·.spans.length)).sum
  bytesSent := .ofNat ((bundles.filterMap BatchWorker.payloadOf).map ByteArray.size).sum

namespace Statistics

lemma tally_taken (taken : List Span) (s : Span) (bundles : List Bundle) :
    tally (taken ++ [s]) bundles = (tally taken bundles).spanAccepted s := by
  simp [tally, spanAccepted, UInt64.ofNat_add]

lemma tally_sent (taken spans : List Span) (bytes : ByteArray) (bundles : List Bundle) :
    tally taken (bundles ++ [⟨spans, .payload bytes⟩]) =
      (tally taken bundles).payloadSent spans.length bytes.size := by
  have hsent : [(⟨spans, .payload bytes⟩ : Bundle)].filter Bundle.isSent = [⟨spans, .payload bytes⟩] :=
    rfl
  simp [tally, payloadSent, hsent, BatchWorker.payloadOf, UInt64.ofNat_add]

lemma tally_failed (taken spans : List Span) (cause : String) (bundles : List Bundle) :
    tally taken (bundles ++ [⟨spans, .failed cause⟩]) = tally taken bundles := by
  have hsent : [(⟨spans, .failed cause⟩ : Bundle)].filter Bundle.isSent = [] := rfl
  have hpayload : [(⟨spans, .failed cause⟩ : Bundle)].filterMap BatchWorker.payloadOf = [] := rfl
  simp [tally, hsent, hpayload]

end Statistics

namespace BatchWorker

open BatchMessage

/-- What follows a flush was asked for. -/
def Asked (received : List BatchMessage) : AfterFlush → Prop
  | .proceed => True
  | .reply caller => .flush caller ∈ received
  | .leave caller => ∃ n, caller = some n ∧ .shutdown n ∈ received

/-- What holds of a worker that took certain messages, whatever it is doing. -/
structure Accounts (config : BatchConfig) (serialize : List Span → Except String ByteArray)
    (received : List BatchMessage) (w : BatchWorker) : Prop where
  batchSize : w.batchSize = config.batchSize
  format : w.format = .of serialize
  taken : spansIn received = Bundle.spansOf w.bundles ++ w.bucket
  bundled : ∀ b ∈ w.bundles, b.spans ≠ [] ∧ b.spans.length ≤ config.batchSize ∧
    b.outcome = Format.of serialize b.spans
  statistics : w.statistics = .tally (spansIn received) w.bundles
  answered : ∀ caller result, (caller, result) ∈ w.replies →
    caller ∈ callersIn received ∧ ahead caller received <+: Bundle.spansOf w.bundles

/-- What the worker is doing fits what is in its bucket. -/
def Fits (config : BatchConfig) (serialize : List Span → Except String ByteArray)
    (received : List BatchMessage) (bucket : List Span) : BatchPhase → Prop
  | .ready => bucket.length < config.batchSize
  | .sending bytes next => bucket ≠ [] ∧ bucket.length ≤ config.batchSize ∧
    serialize bucket = .ok bytes ∧ Asked received next
  | .exited => bucket = [] ∧ ∃ n, .shutdown n ∈ received
  | .crashed => False

structure Sound (config : BatchConfig) (serialize : List Span → Except String ByteArray)
    (received : List BatchMessage) (w : BatchWorker) : Prop
    extends Accounts config serialize received w where
  fits : Fits config serialize received w.bucket w.phase

variable {config : BatchConfig} {serialize : List Span → Except String ByteArray}
  {received : List BatchMessage} {w : BatchWorker} {next : AfterFlush}

lemma sound_new (config : BatchConfig) (serialize : List Span → Except String ByteArray) :
    Sound config serialize [] (.new config (.of serialize)) where
  batchSize := rfl
  format := rfl
  taken := rfl
  bundled := nofun
  statistics := rfl
  answered := nofun
  fits := config.batch_pos

lemma Accounts.answer (h : Accounts config serialize received w) (hempty : w.bucket = [])
    {caller : Nat} (hcaller : caller ∈ callersIn received) (result : Except TraceError Unit) :
    Accounts config serialize received (w.answer caller result) := by
  refine { h with answered := fun n r hr => ?_ }
  rcases List.mem_append.mp hr with hold | hnew
  · exact h.answered n r hold
  · cases List.mem_singleton.mp hnew
    refine ⟨hcaller, ?_⟩
    have htaken := h.taken
    rw [hempty, List.append_nil] at htaken
    change ahead caller received <+: Bundle.spansOf w.bundles
    rw [← htaken]
    exact ahead_prefix_spansIn caller received

lemma Accounts.goOn (h : Accounts config serialize received w) (hempty : w.bucket = [])
    (hasked : Asked received next) (now : Nat) (result : Except TraceError Unit) :
    Sound config serialize received (w.goOn now result next) := by
  have hroom : ([] : List Span).length < config.batchSize := config.batch_pos
  cases next with
  | proceed => exact { h with fits := by simpa [BatchWorker.goOn, hempty, Fits] using hroom }
  | reply caller =>
    have hanswer := h.answer hempty (mem_callersIn hasked rfl) result
    exact { hanswer with
      fits := by simpa [BatchWorker.goOn, BatchWorker.answer, hempty, Fits] using hroom }
  | leave caller =>
    obtain ⟨n, rfl, hshutdown⟩ := hasked
    have hanswer := h.answer hempty (mem_callersIn hshutdown rfl) result
    exact { hanswer with fits := ⟨hempty, n, hshutdown⟩ }

/-- The bucket becomes a bundle with what the format makes of it. -/
lemma Accounts.bundle (h : Accounts config serialize received w) (hsome : w.bucket ≠ [])
    (hfull : w.bucket.length ≤ config.batchSize) {outcome : Serialized}
    (houtcome : Format.of serialize w.bucket = outcome) {statistics : Statistics}
    (hstatistics : statistics =
      .tally (spansIn received) (w.bundles ++ [⟨w.bucket, outcome⟩])) (log : List Event) :
    Accounts config serialize received { w.bundle outcome with statistics, log } := by
  have hspans : Bundle.spansOf (w.bundles ++ [⟨w.bucket, outcome⟩]) =
      Bundle.spansOf w.bundles ++ w.bucket := by
    simp [Bundle.spansOf]
  refine ⟨h.batchSize, h.format, ?_, ?_, hstatistics, ?_⟩
  · exact h.taken.trans (hspans.symm.trans (List.append_nil _).symm)
  · intro b hb
    rcases List.mem_append.mp hb with hold | hnew
    · exact h.bundled b hold
    · cases List.mem_singleton.mp hnew
      exact ⟨hsome, hfull, houtcome.symm⟩
  · intro caller result hreply
    obtain ⟨hcaller, hahead⟩ := h.answered caller result hreply
    exact ⟨hcaller, hahead.trans (hspans ▸ List.prefix_append _ _)⟩

lemma Accounts.flush (h : Accounts config serialize received w)
    (hfull : w.bucket.length ≤ config.batchSize) (hasked : Asked received next) (now : Nat) :
    Sound config serialize received (w.flush now next) := by
  have hformat : w.format w.bucket = Format.of serialize w.bucket := by rw [h.format]
  rw [BatchWorker.flush]
  cases hbucket : w.bucket.isEmpty with
  | true => exact h.goOn (List.isEmpty_iff.mp hbucket) hasked now (.ok ())
  | false =>
    have hsome : w.bucket ≠ [] := by simpa using hbucket
    cases hserialize : serialize w.bucket with
    | ok bytes =>
      have hpayload : w.format w.bucket = .payload bytes := by rw [hformat, Format.of, hserialize]
      rw [hpayload]
      exact { h with fits := ⟨hsome, hfull, hserialize, hasked⟩ }
    | error cause =>
      have hfailed : w.format w.bucket = .failed cause := by rw [hformat, Format.of, hserialize]
      have hstatistics := h.statistics.trans (Statistics.tally_failed _ w.bucket cause _).symm
      have hbundle := h.bundle hsome hfull (hformat.symm.trans hfailed) hstatistics
        (w.log ++ [.bundleNotSent (.serialization cause)])
      rw [hfailed]
      exact hbundle.goOn rfl hasked now (.error (.serialization cause))

lemma Sound.sent (h : Sound config serialize received w) (now : Nat) :
    Sound config serialize received (w.sent now) := by
  have hfits := h.fits
  cases hphase : w.phase with
  | sending bytes next =>
    rw [hphase] at hfits
    obtain ⟨hsome, hfull, hserialize, hasked⟩ := hfits
    have hpayload : Format.of serialize w.bucket = .payload bytes := by rw [Format.of, hserialize]
    have hstatistics : w.statistics.payloadSent w.bucket.length bytes.size =
        .tally (spansIn received) (w.bundles ++ [⟨w.bucket, .payload bytes⟩]) := by
      rw [h.statistics, Statistics.tally_sent]
    have hbundle := h.bundle hsome hfull hpayload hstatistics w.log
    rw [BatchWorker.sent, hphase]
    exact hbundle.goOn rfl hasked now (.ok ())
  | ready | exited | crashed =>
    rw [BatchWorker.sent, hphase]
    exact h

lemma answered_append (h : Accounts config serialize received w) (later : List BatchMessage)
    (caller : Nat) (result : Except TraceError Unit) (hreply : (caller, result) ∈ w.replies) :
    caller ∈ callersIn (received ++ later) ∧
      ahead caller (received ++ later) <+: Bundle.spansOf w.bundles := by
  obtain ⟨hcaller, hahead⟩ := h.answered caller result hreply
  rw [ahead_append hcaller, callersIn, List.filterMap_append]
  exact ⟨List.mem_append_left _ hcaller, hahead⟩

/-- The worker takes a request. -/
lemma Accounts.takes (h : Accounts config serialize received w) {m : BatchMessage}
    (hm : m.span? = none) : Accounts config serialize (received ++ [m]) w := by
  have hspans : spansIn (received ++ [m]) = spansIn received := by
    rw [spansIn_concat, hm, Option.toList_none, List.append_nil]
  refine ⟨h.batchSize, h.format, ?_, h.bundled, ?_, answered_append h [m]⟩
  · rw [hspans, h.taken]
  · rw [hspans, h.statistics]

/-- The worker takes a span. -/
lemma Accounts.gathers (h : Accounts config serialize received w) (s : Span) :
    Accounts config serialize (received ++ [.span s])
      { w with statistics := w.statistics.spanAccepted s, bucket := w.bucket ++ [s] } := by
  have hspans : spansIn (received ++ [.span s]) = spansIn received ++ [s] := spansIn_concat _ _
  refine ⟨h.batchSize, h.format, ?_, h.bundled, ?_, answered_append h [.span s]⟩
  · rw [hspans, h.taken, List.append_assoc]
  · rw [hspans, Statistics.tally_taken, h.statistics]

theorem Sound.receive (h : Sound config serialize received w) (hready : w.phase = .ready)
    (m : BatchMessage) (now : Nat) :
    Sound config serialize (received ++ [m]) (w.receive now (.message m)) := by
  have hroom : w.bucket.length < config.batchSize := by
    have hfits := h.fits
    rwa [hready] at hfits
  have hlast : m ∈ received ++ [m] := List.mem_append_right _ (List.mem_singleton_self m)
  cases m with
  | span s =>
    have hgathers := h.gathers s
    have hlength : (w.bucket ++ [s]).length ≤ config.batchSize := by
      rw [List.length_append]
      exact hroom
    have hproceed : Asked (received ++ [.span s]) .proceed := trivial
    rw [BatchWorker.receive]
    dsimp only
    split
    · exact hgathers.flush hlength hproceed now
    · rename_i hsmall
      rw [h.batchSize] at hsmall
      refine { hgathers with fits := ?_ }
      rw [hready]
      exact Nat.lt_of_not_le hsmall
  | flush caller =>
    have hreply : Asked (received ++ [.flush caller]) (.reply caller) := hlast
    exact (h.takes rfl).flush (Nat.le_of_lt hroom) hreply now
  | shutdown caller =>
    have hleave : Asked (received ++ [.shutdown caller]) (.leave (some caller)) :=
      ⟨caller, rfl, hlast⟩
    exact (h.takes rfl).flush (Nat.le_of_lt hroom) hleave now

theorem Sound.timeout (h : Sound config serialize received w) (hready : w.phase = .ready)
    (now : Nat) : Sound config serialize received (w.receive now .timeout) := by
  have hfits := h.fits
  rw [hready] at hfits
  have hproceed : Asked received .proceed := trivial
  exact h.flush (Nat.le_of_lt hfits) hproceed now

end BatchWorker

end TracePipeline
