import Mathlib.Data.List.Defs
import TracePipeline.Proofs.Batch.Worker

/-!
# Where the stream of spans is cut

A worker is woken again and again, and bundles what it has. Whatever wakes it but a span ends a
piece of the stream of spans, and each piece is cut whenever a bundle is full. The bundles are these
cuts, in their order, and the bucket holds the last one as long as it may still grow. Which of the
bundles the format refuses makes no difference.
-/

namespace TracePipeline

namespace Bundle

variable {α : Type} {n : Nat} {b : List α}

lemma toChunks_cons (hn : 0 < n) (a : α) (l : List α) :
    (a :: l).toChunks n = List.toChunks.go n l #[a] #[] := by
  obtain ⟨n, rfl⟩ := Nat.exists_eq_add_of_lt hn
  simp [List.toChunks]

/-- The chunk that was begun is filled, and then the rest is cut. -/
lemma toChunks_go (hn : 0 < n) (l : List α) {begun : Array α} (hroom : begun.size ≤ n)
    (done : Array (List α)) :
    List.toChunks.go n l begun done = done.toList ++
      (begun.toList ++ l.take (n - begun.size)) :: (l.drop (n - begun.size)).toChunks n := by
  induction l generalizing begun done with
  | nil => simp [List.toChunks.go, List.toChunks]
  | cons a l ih =>
    rw [List.toChunks.go]
    split
    · rename_i hfull
      rw [beq_iff_eq] at hfull
      have hone : (#[a] : Array α).size ≤ n := hn
      change List.toChunks.go n l #[a] _ = _
      rw [hfull, Nat.sub_self, List.take_zero, List.drop_zero, toChunks_cons hn, ih hone, ih hone]
      simp
    · rename_i hmore
      rw [beq_iff_eq] at hmore
      have hlt : begun.size < n := Nat.lt_of_le_of_ne hroom hmore
      have hnext : (begun.push a).size ≤ n := by rwa [Array.size_push]
      obtain ⟨k, hk⟩ : ∃ k, n - begun.size = k + 1 := ⟨n - begun.size - 1, by omega⟩
      have hrest : n - (begun.push a).size = k := by
        rw [Array.size_push]
        omega
      rw [ih hnext, hrest, hk, List.take_succ_cons, List.drop_succ_cons]
      simp

/-- A list that has more than its first chunk is cut there, and then the rest is. -/
lemma toChunks_append (hn : b.length = n) (hpos : 0 < n) (l : List α) :
    (b ++ l).toChunks n = b :: l.toChunks n := by
  cases b with
  | nil => simp at hn; omega
  | cons a b =>
    rw [List.length_cons] at hn
    have hone : (#[a] : Array α).size ≤ n := hpos
    have hsize : n - (#[a] : Array α).size = b.length := by simp; omega
    rw [List.cons_append, toChunks_cons hpos, toChunks_go hpos _ hone, hsize, List.take_left,
      List.drop_left]
    simp

lemma toChunks_of_length_le (hsome : b ≠ []) (hn : b.length ≤ n) : b.toChunks n = [b] := by
  cases b with
  | nil => exact absurd rfl hsome
  | cons a b =>
    rw [List.length_cons] at hn
    have hpos : 0 < n := by omega
    have hone : (#[a] : Array α).size ≤ n := hpos
    have hsize : b.length ≤ n - (#[a] : Array α).size := by simp; omega
    rw [toChunks_cons hpos, toChunks_go hpos _ hone, List.take_of_length_le hsize,
      List.drop_of_length_le hsize]
    simp [List.toChunks]

end Bundle

namespace BatchSignal

def span? : BatchSignal → Option Span
  | .message m => m.span?
  | .timeout | .disconnect => none

/-- Whether the worker leaves on the signal. -/
def leaves : BatchSignal → Bool
  | .message (.shutdown _) | .disconnect => true
  | .message (.span _) | .message (.flush _) | .timeout => false

/-- The signals that a worker gets to see: none after one on which it leaves. -/
def heard : List BatchSignal → List BatchSignal
  | [] => []
  | x :: signals => x :: if x.leaves then [] else heard signals

/-- The spans that came, cut wherever something else came. -/
def pieces (signals : List BatchSignal) : List (List Span) :=
  (signals.splitOnP (·.span?.isNone)).map (·.filterMap span?)

/-- The pieces of a stream, cut whenever there are `n` spans. -/
def cuts (n : Nat) (signals : List BatchSignal) : List (List Span) :=
  (pieces signals).flatMap (·.toChunks n)

/-- What is in a bucket, unless that is empty. -/
def waiting (bucket : List Span) : List (List Span) := [bucket].filter (!·.isEmpty)

/-- What is taken out of a bucket on a signal, and what is in it then. -/
def cutNext (n : Nat) (bucket : List Span) (x : BatchSignal) : List (List Span) × List Span :=
  match x.span? with
  | some s => if bucket.length + 1 < n then ([], bucket ++ [s]) else ([bucket ++ [s]], [])
  | none => (waiting bucket, [])

/-- What is taken out of a bucket on several signals, and what is in it then. -/
def cutAll (n : Nat) (bucket : List Span) : List BatchSignal → List (List Span) × List Span
  | [] => ([], bucket)
  | x :: signals =>
    let (first, bucket) := cutNext n bucket x
    let (rest, bucket) := cutAll n bucket signals
    (first ++ rest, bucket)

variable {x : BatchSignal} {s : Span} {n : Nat} {bucket : List Span}

lemma eq_of_span? (hx : x.span? = some s) : x = .message (.span s) := by
  cases x with
  | message m => cases m <;> cases hx; rfl
  | timeout | disconnect => cases hx

lemma pieces_span (hx : x.span? = some s) (signals : List BatchSignal) :
    pieces (x :: signals) = (pieces signals).modifyHead (s :: ·) := by
  rw [pieces, List.splitOnP_cons_eq_if_modifyHead, hx, Option.isNone_some, if_neg nofun, pieces]
  cases signals.splitOnP (·.span?.isNone) with
  | nil => rfl
  | cons first rest => simp [hx]

lemma pieces_other (hx : x.span? = none) (signals : List BatchSignal) :
    pieces (x :: signals) = [] :: pieces signals := by
  rw [pieces, List.splitOnP_cons_eq_if_modifyHead, hx, Option.isNone_none, if_pos rfl, pieces]
  rfl

lemma exists_pieces_eq_cons (signals : List BatchSignal) :
    ∃ first rest, pieces signals = first :: rest :=
  List.exists_cons_of_ne_nil (by simp [pieces, List.splitOnP_ne_nil])

lemma toChunks_eq_waiting (h : bucket.length ≤ n) : bucket.toChunks n = waiting bucket := by
  cases bucket with
  | nil => simp [waiting, List.toChunks]
  | cons s bucket => exact Bundle.toChunks_of_length_le nofun h

lemma cutNext_span (hx : x.span? = some s) : cutNext n bucket x =
    if bucket.length + 1 < n then ([], bucket ++ [s]) else ([bucket ++ [s]], []) := by
  rw [cutNext, hx]

lemma cutNext_other (hx : x.span? = none) : cutNext n bucket x = (waiting bucket, []) := by
  rw [cutNext, hx]

/-- The bucket has room after every signal. -/
lemma length_cutNext (hpos : 0 < n) (bucket : List Span) (x : BatchSignal) :
    (cutNext n bucket x).2.length < n := by
  unfold cutNext
  split
  · split
    · rename_i hroom
      simpa using hroom
    · exact hpos
  · exact hpos

/-- At most one bundle is made on a signal. It is full unless the signal was no span. -/
lemma cutNext_cases (hroom : bucket.length < n) (x : BatchSignal) :
    (cutNext n bucket x).1 = [] ∨ ∃ spans, (cutNext n bucket x).1 = [spans] ∧ spans ≠ [] ∧
      spans.length ≤ n ∧ (spans.length < n → x.span? = none) := by
  cases hx : x.span? with
  | none =>
    rw [cutNext_other hx]
    cases bucket with
    | nil => exact .inl rfl
    | cons s bucket => exact .inr ⟨_, rfl, nofun, Nat.le_of_lt hroom, fun _ => rfl⟩
  | some s =>
    rw [cutNext_span hx]
    split
    · exact .inl rfl
    · rename_i hfull
      have hlength : (bucket ++ [s]).length = n := by
        rw [List.length_append, List.length_singleton]
        omega
      refine .inr ⟨_, rfl, by simp, Nat.le_of_eq hlength, fun hshort => ?_⟩
      exact absurd hlength (Nat.ne_of_lt hshort)

lemma length_cutAll (hroom : bucket.length < n) (signals : List BatchSignal) :
    (cutAll n bucket signals).2.length < n := by
  induction signals generalizing bucket with
  | nil => exact hroom
  | cons x signals ih => exact ih (length_cutNext (by omega) bucket x)

lemma sized_cutAll (hroom : bucket.length < n) (signals : List BatchSignal) :
    ∀ spans ∈ (cutAll n bucket signals).1, spans ≠ [] ∧ spans.length ≤ n := by
  induction signals generalizing bucket with
  | nil => exact nofun
  | cons x signals ih =>
    intro spans hspans
    rw [cutAll] at hspans
    rcases List.mem_append.mp hspans with hfirst | hrest
    · rcases cutNext_cases hroom x with hnone | ⟨first, hone, hsome, hlength, -⟩
      · rw [hnone] at hfirst
        cases hfirst
      · rw [hone] at hfirst
        cases List.mem_singleton.mp hfirst
        exact ⟨hsome, hlength⟩
    · exact ih (length_cutNext (by omega) bucket x) spans hrest

/-- Cutting signal by signal cuts the stream into its pieces, the first of which begins with what
was in the bucket, and these into bundles. -/
lemma cutAll_eq (hroom : bucket.length < n) (signals : List BatchSignal) :
    (cutAll n bucket signals).1 ++ waiting (cutAll n bucket signals).2 =
      ((pieces signals).modifyHead (bucket ++ ·)).flatMap (·.toChunks n) := by
  have hpos : 0 < n := by omega
  induction signals generalizing bucket with
  | nil =>
    have hpieces : pieces [] = [[]] := rfl
    rw [cutAll, hpieces, List.modifyHead_cons, List.flatMap_singleton, List.append_nil,
      toChunks_eq_waiting (Nat.le_of_lt hroom)]
    rfl
  | cons x signals ih =>
    obtain ⟨first, rest, hpieces⟩ := exists_pieces_eq_cons signals
    have hrest := ih (length_cutNext hpos bucket x)
    rw [hpieces, List.modifyHead_cons, List.flatMap_cons] at hrest
    rw [cutAll]
    dsimp only
    rw [List.append_assoc, hrest]
    cases hx : x.span? with
    | none =>
      rw [pieces_other hx, hpieces, cutNext_other hx, List.modifyHead_cons, List.append_nil,
        List.flatMap_cons, List.flatMap_cons, List.nil_append,
        toChunks_eq_waiting (Nat.le_of_lt hroom)]
    | some s =>
      have hjoin : bucket ++ s :: first = (bucket ++ [s]) ++ first := by simp
      rw [pieces_span hx, hpieces, cutNext_span hx, List.modifyHead_cons, List.modifyHead_cons,
        List.flatMap_cons, ← List.append_assoc, hjoin]
      split
      · rfl
      · rename_i hfull
        have hlength : (bucket ++ [s]).length = n := by
          rw [List.length_append, List.length_singleton]
          omega
        rw [Bundle.toChunks_append hlength hpos]
        rfl

end BatchSignal

/-- Whether the worker goes on after a flush. -/
def AfterFlush.goesOn : AfterFlush → Bool
  | .proceed | .reply _ => true
  | .leave _ => false

namespace BatchWorker

open BatchSignal (heard cuts cutNext cutAll waiting)

/-- What wakes a worker, at what time, and what the format makes of spans this time. -/
structure Turn where
  now : Nat
  signal : BatchSignal
  serialize : List Span → Except String ByteArray

/-- Spans that are made a bundle. -/
def Turn.bundle (t : Turn) (spans : List Span) : Bundle := ⟨spans, Format.of t.serialize spans⟩

/-- The worker is woken, unless it is gone. -/
def turn (w : BatchWorker) (t : Turn) : BatchWorker :=
  if w.isReady then { w with format := .of t.serialize }.handle t.now t.signal else w

/-- The worker is woken again and again. -/
def after (w : BatchWorker) (turns : List Turn) : BatchWorker := turns.foldl turn w

/-- What the bundles of a worker are after several turns, and what the next turn adds to them. -/
structure CutsStream (config : BatchConfig) (turns : List Turn) (w : BatchWorker) : Prop where
  room : w.bucket.length < config.batchSize
  sized : ∀ b ∈ w.bundles, b.spans ≠ [] ∧ b.spans.length ≤ config.batchSize
  cut : w.bundles.map (·.spans) ++ waiting w.bucket =
    cuts config.batchSize (heard (turns.map Turn.signal))
  next : ∀ t, (w.turn t).bundles = w.bundles ∨ ∃ b, (w.turn t).bundles = w.bundles ++ [b] ∧
    b.outcome = Format.of t.serialize b.spans ∧
    (b.spans.length < config.batchSize → t.signal.span? = none)
  regardless : ∀ format turns', turns'.map Turn.signal = turns.map Turn.signal →
    ((new config format).after turns').bundles.map (·.spans) = w.bundles.map (·.spans)

/-- What a worker has made so far, and what it has in its bucket. -/
structure Holds (n : Nat) (bundles : List Bundle) (bucket : List Span) (w : BatchWorker) :
    Prop where
  batchSize : w.batchSize = n
  bundles : w.bundles = bundles
  bucket : w.bucket = bucket

/-- Where a worker stands between two turns. -/
structure Stands (n : Nat) (bundles : List Bundle) (bucket : List Span) (isReady : Bool)
    (w : BatchWorker) : Prop extends Holds n bundles bucket w where
  phase : w.phase = if isReady then .ready else .exited

variable {w : BatchWorker} {t : Turn} {n : Nat} {bundles : List Bundle} {bucket : List Span}
  {ready : Bool} {s : Span} {config : BatchConfig}

lemma Stands.isReady (h : Stands n bundles bucket ready w) : w.isReady = ready := by
  rw [BatchWorker.isReady, h.phase]
  cases ready <;> rfl

lemma Stands.sent (h : Stands n bundles bucket ready w) (now : Nat) : w.sent now = w := by
  rw [BatchWorker.sent, h.phase]
  cases ready <;> rfl

lemma Holds.goOn (h : Holds n bundles bucket w) (now : Nat) (result : Except TraceError Unit)
    (next : AfterFlush) : Stands n bundles bucket next.goesOn (w.goOn now result next) := by
  cases next with
  | proceed | reply _ => exact { h with phase := rfl }
  | leave caller => cases caller <;> exact { h with phase := rfl }

lemma Holds.bundle (h : Holds n bundles bucket w) (outcome : Serialized) (statistics : Statistics)
    (phase : BatchPhase) (log : List Event) :
    Holds n (bundles ++ [⟨bucket, outcome⟩]) []
      { w.bundle outcome with statistics, phase, log } where
  batchSize := h.batchSize
  bundles := by rw [BatchWorker.bundle, h.bundles, h.bucket]
  bucket := rfl

/-- With a sender that takes the payload at once, a flush turns the bucket into a bundle. -/
lemma Holds.flush (h : Holds n bundles bucket w) (hformat : w.format = .of t.serialize) (now : Nat)
    (next : AfterFlush) : Stands n (bundles ++ (waiting bucket).map t.bundle) [] next.goesOn
      ((w.flush now next).sent now) := by
  have houtcome : w.format w.bucket = Format.of t.serialize bucket := by rw [hformat, h.bucket]
  rw [BatchWorker.flush]
  cases hbucket : w.bucket.isEmpty with
  | true =>
    obtain rfl : bucket = [] := h.bucket.symm.trans (List.isEmpty_iff.mp hbucket)
    have hnone : (waiting []).map t.bundle = [] := rfl
    have hgoes := h.goOn now (.ok ()) next
    rw [if_pos rfl, hnone, List.append_nil, hgoes.sent]
    exact hgoes
  | false =>
    have hone : (waiting bucket).map t.bundle = [⟨bucket, Format.of t.serialize bucket⟩] := by
      rw [waiting, ← h.bucket, List.filter_cons, hbucket]
      rfl
    rw [if_neg Bool.false_ne_true, hone]
    cases hserialize : Format.of t.serialize bucket with
    | payload bytes =>
      have hbundle := h.bundle (.payload bytes)
        (w.statistics.payloadSent w.bucket.length bytes.size) (.sending bytes next) w.log
      rw [houtcome.trans hserialize]
      exact hbundle.goOn now (.ok ()) next
    | failed cause =>
      have hbundle := h.bundle (.failed cause) w.statistics w.phase
        (w.log ++ [.bundleNotSent (.serialization cause)])
      have hgoes := hbundle.goOn now (.error (.serialization cause)) next
      rw [houtcome.trans hserialize]
      rw [← hgoes.sent now] at hgoes
      exact hgoes
    | brokeDown =>
      rw [Format.of] at hserialize
      split at hserialize <;> cases hserialize

/-- A worker that is woken by a span puts it into its bucket, and sees whether that is full. -/
lemma Stands.turn_span (h : Stands n bundles bucket true w) (ht : t.signal.span? = some s) :
    ∃ w', Stands n bundles (bucket ++ [s]) true w' ∧ w'.format = .of t.serialize ∧ w.turn t =
      ((if n ≤ bucket.length + 1 then w'.flush t.now .proceed else w').sent t.now) := by
  let w' : BatchWorker := { w with
    format := .of t.serialize
    statistics := w.statistics.spanAccepted s
    bucket := w.bucket ++ [s] }
  have hbucket : w'.bucket = bucket ++ [s] := by rw [← h.bucket]
  refine ⟨w', ⟨⟨h.batchSize, h.bundles, hbucket⟩, h.phase⟩, rfl, ?_⟩
  rw [turn, h.isReady, if_pos rfl, handle, BatchSignal.eq_of_span? ht, receive, ← h.batchSize,
    ← h.bucket]
  simp only [List.length_append, List.length_singleton]
  rfl

/-- All but a span makes a bundle of what is in the bucket. -/
lemma Stands.turn_other (h : Stands n bundles bucket true w) (ht : t.signal.span? = none) :
    Stands n (bundles ++ (waiting bucket).map t.bundle) [] (!t.signal.leaves) (w.turn t) := by
  have hholds : Holds n bundles bucket { w with format := .of t.serialize } :=
    ⟨h.batchSize, h.bundles, h.bucket⟩
  rw [turn, h.isReady, if_pos rfl, handle]
  cases hsignal : t.signal with
  | message m =>
    cases m with
    | span s => rw [hsignal] at ht; cases ht
    | flush caller => exact hholds.flush rfl t.now (.reply caller)
    | shutdown caller => exact hholds.flush rfl t.now (.leave (some caller))
  | timeout => exact hholds.flush rfl t.now .proceed
  | disconnect => exact hholds.flush rfl t.now (.leave none)

theorem Stands.turn (h : Stands n bundles bucket true w) (t : Turn) :
    Stands n (bundles ++ (cutNext n bucket t.signal).1.map t.bundle) (cutNext n bucket t.signal).2
      (!t.signal.leaves) (w.turn t) := by
  cases ht : t.signal.span? with
  | none =>
    rw [BatchSignal.cutNext_other ht]
    exact h.turn_other ht
  | some s =>
    obtain ⟨w', hstands, hformat, hturn⟩ := h.turn_span ht
    have hstays : (!t.signal.leaves) = true := by
      rw [BatchSignal.eq_of_span? ht]
      rfl
    rw [BatchSignal.cutNext_span ht, hturn, hstays]
    by_cases hfull : n ≤ bucket.length + 1
    · have hsome : waiting (bucket ++ [s]) = [bucket ++ [s]] := by simp [waiting]
      have hflush := hstands.flush hformat t.now .proceed
      rw [hsome] at hflush
      rw [if_pos hfull, if_neg (Nat.not_lt_of_le hfull)]
      exact hflush
    · rw [if_neg hfull, if_pos (Nat.lt_of_not_le hfull), hstands.sent, List.map_nil,
        List.append_nil]
      exact hstands

lemma Stands.stays (h : Stands n bundles bucket false w) (t : Turn) : w.turn t = w := by
  rw [BatchWorker.turn, h.isReady, if_neg nofun]

lemma Stands.stays_after (h : Stands n bundles bucket false w) (turns : List Turn) :
    w.after turns = w := by
  induction turns with
  | nil => rfl
  | cons t turns ih => rw [BatchWorker.after, List.foldl_cons, h.stays, ← BatchWorker.after, ih]

/-- A worker makes the bundles that its signals cut out, however the format takes them. -/
theorem Stands.after (h : Stands n bundles bucket true w) (turns : List Turn) :
    ∃ made ready, Stands n (bundles ++ made) (cutAll n bucket (heard (turns.map Turn.signal))).2
        ready (w.after turns) ∧
      made.map (·.spans) = (cutAll n bucket (heard (turns.map Turn.signal))).1 := by
  induction turns generalizing w bundles bucket with
  | nil => exact ⟨[], true, by rwa [List.append_nil], rfl⟩
  | cons t turns ih =>
    have hspans : ∀ l : List (List Span), (l.map t.bundle).map (·.spans) = l := by
      simp [Turn.bundle, Function.comp_def]
    have hturn := h.turn t
    have hcons : w.after (t :: turns) = (w.turn t).after turns := rfl
    rw [hcons, List.map_cons, heard, cutAll]
    cases hleaves : t.signal.leaves with
    | true =>
      rw [hleaves] at hturn
      rw [if_pos rfl, hturn.stays_after]
      refine ⟨_, _, hturn, ?_⟩
      rw [hspans]
      exact (List.append_nil _).symm
    | false =>
      rw [hleaves] at hturn
      obtain ⟨made, ready, hstands, hmade⟩ := ih hturn
      rw [List.append_assoc] at hstands
      rw [if_neg nofun]
      refine ⟨_, ready, hstands, ?_⟩
      rw [List.map_append, hspans, hmade]

lemma Stands.next (h : Stands n bundles bucket ready w) (hroom : bucket.length < n) (t : Turn) :
    (w.turn t).bundles = w.bundles ∨ ∃ b, (w.turn t).bundles = w.bundles ++ [b] ∧
      b.outcome = Format.of t.serialize b.spans ∧ (b.spans.length < n → t.signal.span? = none) := by
  cases ready with
  | false =>
    rw [h.stays]
    exact .inl rfl
  | true =>
    rw [(h.turn t).bundles, h.bundles]
    rcases BatchSignal.cutNext_cases hroom t.signal with hnone | ⟨spans, hone, -, -, hshort⟩
    · rw [hnone]
      exact .inl (List.append_nil _)
    · rw [hone]
      exact .inr ⟨t.bundle spans, rfl, rfl, hshort⟩

theorem cuts_stream (config : BatchConfig) (format : Format) (turns : List Turn) :
    CutsStream config turns ((new config format).after turns) := by
  have hnew : ∀ format, Stands config.batchSize [] [] true (new config format) :=
    fun _ => ⟨⟨rfl, rfl, rfl⟩, rfl⟩
  have hpos : ([] : List Span).length < config.batchSize := config.batch_pos
  obtain ⟨made, ready, hstands, hmade⟩ := (hnew format).after turns
  rw [List.nil_append] at hstands
  have hroom := BatchSignal.length_cutAll hpos (heard (turns.map Turn.signal))
  have hsized := BatchSignal.sized_cutAll hpos (heard (turns.map Turn.signal))
  have hcut := BatchSignal.cutAll_eq hpos (heard (turns.map Turn.signal))
  refine ⟨?_, fun b hb => ?_, ?_, hstands.next hroom, fun format' turns' hsignals => ?_⟩
  · rw [hstands.bucket]
    exact hroom
  · rw [hstands.bundles] at hb
    rw [← hmade] at hsized
    exact hsized b.spans (List.mem_map_of_mem hb)
  · obtain ⟨first, rest, hpieces⟩ :=
      BatchSignal.exists_pieces_eq_cons (heard (turns.map Turn.signal))
    rw [hstands.bundles, hstands.bucket, hmade, hcut, cuts, hpieces]
    rfl
  · obtain ⟨made', ready', hstands', hmade'⟩ := (hnew format').after turns'
    rw [hstands'.bundles, hstands.bundles, List.nil_append, hmade', hmade, hsignals]

end BatchWorker
end TracePipeline
