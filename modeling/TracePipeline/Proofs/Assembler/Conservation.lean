import TracePipeline.Proofs.Assembler.Counters

/-!
# Conservation of records

A record that an assembler takes is dropped, because its identity was closed at that moment, or it
sits in exactly one span: in the open span of its identity, or in one span that was handed over. A
span holds all records of its identity that were accepted since it was opened, in their order, and
nothing else. The counters count just these records, and the spans that were handed over incomplete.
-/

namespace TracePipeline

namespace Assembler

/-- What becomes of a record: it is dropped, or kept in a span that is still open at the end, or
handed over in the call with a number. -/
inductive Fate where
  | dropped
  | kept
  | handedOver (call : Nat)
  deriving DecidableEq

/-- The first call, from number `k` on, that hands over a span of an identity. -/
def handoverFrom (a : Assembler) (calls : List Call) (i : Identity) (k : Nat) : Option Nat :=
  (List.range' k (calls.length - k)).find? fun e =>
    (a.handedAt calls e).any fun s => s.identity = i

/-- What becomes of the record of the call with a number. -/
def fate (a : Assembler) (calls : List Call) (k : Nat) : Fate :=
  match a.acceptedAt calls k with
  | none => .dropped
  | some r => (a.handoverFrom calls r.identity k).elim .kept .handedOver

/-- The records of an identity that were accepted in the calls from `first` on and before `stop`. -/
def acceptedIn (a : Assembler) (calls : List Call) (i : Identity) (first stop : Nat) :
    List Record :=
  (List.range' first (stop - first)).filterMap fun k =>
    (a.acceptedAt calls k).filter fun r => r.identity = i

/-- An identity was opened in the call `first` and open from then on before every call that comes
before `stop`. -/
structure OpenSince (a : Assembler) (calls : List Call) (i : Identity) (first stop : Nat) :
    Prop where
  first_lt : first < stop
  unopened : (a.upTo calls first).opened.get? i = none
  opens : ∃ r, a.acceptedAt calls first = some r ∧ r.identity = i
  stays : ∀ k, first < k → k < stop → ∃ s, (a.upTo calls k).opened.get? i = some s

/-- A span holds the records of its identity that were accepted since it was opened, and these are
the records with the fate of the span. -/
structure Holds (a : Assembler) (calls : List Call) (s : Span) (f : Fate) (first stop : Nat) :
    Prop where
  since : a.OpenSince calls s.identity first stop
  records : s.records = a.acceptedIn calls s.identity first stop
  fate_iff : ∀ k r, a.acceptedAt calls k = some r → r.identity = s.identity →
    (a.fate calls k = f ↔ first ≤ k ∧ k < stop)

/-- No record is lost, doubled, altered or moved to another identity. -/
structure Conserved (a : Assembler) (calls : List Call) : Prop where
  dropped : ∀ k r, calls[k]? = some (.record r) →
    (a.fate calls k = .dropped ↔ (a.upTo calls k).closed.contains r.identity = true)
  kept : ∀ k r, calls[k]? = some (.record r) → a.fate calls k = .kept →
    ∃ s, (a.after calls).opened.get? r.identity = some s
  handed : ∀ k r e, calls[k]? = some (.record r) → a.fate calls k = .handedOver e →
    ∃ s ∈ a.handedAt calls e, s.identity = r.identity
  opened_once : (a.after calls).opened.Distinct
  handed_once : ∀ e, ((a.handedAt calls e).map Span.identity).Nodup
  opened_holds : ∀ i s, (a.after calls).opened.get? i = some s →
    s.identity = i ∧ ∃ first, a.Holds calls s .kept first calls.length
  handed_holds : ∀ e s, s ∈ a.handedAt calls e →
    ∃ first, a.Holds calls s (.handedOver e) first (e + 1)
  accepted_count : (a.accepted calls).length =
    recordsAt (a.after calls).opened + recordsIn (a.handedOver calls)
  records_counter : (a.after calls).statistics.recordsProcessed =
    UInt64.ofNat (a.accepted calls).length
  spans_counter : (a.after calls).statistics.spansFlushed =
    UInt64.ofNat ((a.handedOver calls).countP fun s => !s.isComplete)

variable {a : Assembler} {calls : List Call} {i : Identity}

lemma acceptedIn_succ {first k : Nat} (hk : first ≤ k) :
    a.acceptedIn calls i first (k + 1) = a.acceptedIn calls i first k ++
      ((a.acceptedAt calls k).filter fun r => r.identity = i).toList := by
  have hrange : List.range' first (k + 1 - first) = List.range' first (k - first) ++ [k] := by
    have hlen : k + 1 - first = k - first + 1 := by omega
    rw [hlen, List.range'_concat]
    congr 2
    omega
  rw [acceptedIn, hrange, List.filterMap_append, acceptedIn]
  congr 1

lemma acceptedIn_self (first : Nat) : a.acceptedIn calls i first first = [] := by
  simp [acceptedIn]

lemma OpenSince.succ {first k : Nat} (h : a.OpenSince calls i first k)
    (hk : ∃ s, (a.upTo calls k).opened.get? i = some s) : a.OpenSince calls i first (k + 1) where
  first_lt := by have := h.first_lt; omega
  unopened := h.unopened
  opens := h.opens
  stays j hj hjk := by
    by_cases he : j = k
    · rw [he]
      exact hk
    · exact h.stays j hj (by omega)

lemma OpenSince.start {k : Nat} (hk : (a.upTo calls k).opened.get? i = none) {r : Record}
    (hr : a.acceptedAt calls k = some r) (hi : r.identity = i) :
    a.OpenSince calls i k (k + 1) where
  first_lt := by omega
  unopened := hk
  opens := ⟨r, hr, hi⟩
  stays j hj hjk := by omega

/-- The open span of an identity has gathered what was accepted since some call. -/
def Gathered (a : Assembler) (calls : List Call) (i : Identity) (records : List Record)
    (stop : Nat) : Prop :=
  ∃ first, a.OpenSince calls i first stop ∧ records = a.acceptedIn calls i first stop

lemma gathered_push {k : Nat} {s : Span} {r : Record}
    (hgathered : ∀ s, (a.upTo calls k).slot i = .gathering s → a.Gathered calls i s.records k)
    (hs : ((a.upTo calls k).slot i).span? i = some s)
    (hr : (a.acceptedAt calls k).filter (fun r => r.identity = i) = some r) :
    a.Gathered calls i (s.push r).records (k + 1) := by
  obtain ⟨hat, hid⟩ := Option.filter_eq_some_iff.mp hr
  have hid : r.identity = i := of_decide_eq_true hid
  cases hslot : (a.upTo calls k).slot i with
  -- the record opens the span, so nothing was accepted since then before it
  | unknown =>
    rw [hslot] at hs
    cases hs
    have hopen := (slot_eq_unknown_iff.mp hslot).1
    refine ⟨k, .start hopen hat hid, ?_⟩
    rw [acceptedIn_succ (Nat.le_refl k), acceptedIn_self, hr]
    rfl
  | gathering t =>
    rw [hslot] at hs
    cases hs
    obtain ⟨first, hsince, hrecords⟩ := hgathered s hslot
    have hopen := slot_eq_gathering_iff.mp hslot
    refine ⟨first, hsince.succ ⟨s, hopen⟩, ?_⟩
    rw [acceptedIn_succ (Nat.le_of_lt hsince.first_lt), ← hrecords, hr]
    rfl
  | closed time =>
    rw [hslot] at hs
    cases hs

lemma gathered_idle {k : Nat} {s : Span} (hs : (a.upTo calls k).slot i = .gathering s)
    (hgathered : a.Gathered calls i s.records k)
    (hr : (a.acceptedAt calls k).filter (fun r => r.identity = i) = none) :
    a.Gathered calls i s.records (k + 1) := by
  obtain ⟨first, hsince, hrecords⟩ := hgathered
  refine ⟨first, hsince.succ ⟨s, slot_eq_gathering_iff.mp hs⟩, ?_⟩
  rw [acceptedIn_succ (Nat.le_of_lt hsince.first_lt), ← hrecords, hr]
  simp

/-- What an open span holds has been accepted since it was opened. -/
theorem gathered_of_opened (h : a.WellFormed) (hnew : ∀ i, a.opened.get? i = none) {k : Nat}
    (hk : k ≤ calls.length) {s : Span} (hs : (a.upTo calls k).opened.get? i = some s) :
    a.Gathered calls i s.records k := by
  -- on the number of calls; whatever the last one did to the identity is one move of its slot
  induction k generalizing s with
  | zero =>
    rw [upTo_zero, hnew] at hs
    cases hs
  | succ k ih =>
    have hc : calls[k]? = some calls[k] := List.getElem?_eq_getElem hk
    have hgathered : ∀ s, (a.upTo calls k).slot i = .gathering s → a.Gathered calls i s.records k :=
      fun s hs => ih (by omega) (slot_eq_gathering_iff.mp hs)
    obtain ⟨out, hmove, -⟩ := exists_move h hc i
    rw [slot_eq_gathering_iff.mpr hs] at hmove
    rcases hmove.of_gathering with ⟨hbefore, hr⟩ | ⟨t, r, ht, hr, rfl⟩
    · exact gathered_idle hbefore (hgathered s hbefore) hr
    · exact gathered_push hgathered ht hr

theorem gathered_of_handed (h : a.WellFormed) (hnew : ∀ i, a.opened.get? i = none) {e : Nat}
    {s : Span} (hs : s ∈ a.handedAt calls e) :
    a.Gathered calls s.identity s.records (e + 1) := by
  obtain ⟨c, hc⟩ := call_of_mem_handedAt hs
  have he : e < calls.length := (List.getElem?_eq_some_iff.mp hc).1
  have hgathered : ∀ t, (a.upTo calls e).slot s.identity = .gathering t →
      a.Gathered calls s.identity t.records e := fun t ht =>
    gathered_of_opened h hnew (Nat.le_of_lt he) (slot_eq_gathering_iff.mp ht)
  obtain ⟨out, hmove, hout⟩ := exists_move h hc s.identity
  rw [(hout s).mp ⟨hs, rfl⟩] at hmove
  rcases hmove.of_handed.2 with ⟨hbefore, hr⟩ | ⟨t, r, ht, hr, hst⟩
  · exact gathered_idle hbefore (hgathered s hbefore) hr
  · have hg := gathered_push hgathered ht hr
    rw [hst]
    rw [hst] at hg
    exact hg

lemma opened_succ (h : a.WellFormed) {k : Nat} {c : Call} (hc : calls[k]? = some c)
    (hno : ∀ s ∈ a.handedAt calls k, s.identity ≠ i)
    (hk : (∃ s, (a.upTo calls k).opened.get? i = some s) ∨
      ∃ r, a.acceptedAt calls k = some r ∧ r.identity = i) :
    ∃ s, (a.upTo calls (k + 1)).opened.get? i = some s := by
  obtain ⟨out, hmove, hout⟩ := exists_move h hc i
  have hnone : out = none := by
    cases out with
    | none => rfl
    | some s =>
      obtain ⟨hs, hi⟩ := (hout s).mpr rfl
      exact absurd hi (hno s hs)
  rw [hnone] at hmove
  simp only [← slot_eq_gathering_iff] at hk ⊢
  refine hmove.gathering_of_not_handed (hk.imp_right ?_)
  rintro ⟨r, hr, hi⟩
  exact ⟨r, by simp [hr, hi, Option.filter]⟩

/-- From a call that accepts one of its records on, an identity is open until it is handed over. -/
lemma opened_of_accepted (h : a.WellFormed) {k m : Nat} (hkm : k < m) (hm : m ≤ calls.length)
    {r : Record} (hr : a.acceptedAt calls k = some r)
    (hno : ∀ j, k ≤ j → j < m → ∀ s ∈ a.handedAt calls j, s.identity ≠ r.identity) :
    ∃ s, (a.upTo calls m).opened.get? r.identity = some s := by
  induction m with
  | zero => omega
  | succ m ih =>
    have hc : calls[m]? = some calls[m] := List.getElem?_eq_getElem hm
    refine opened_succ h hc (hno m (by omega) (by omega)) ?_
    by_cases he : k = m
    · rw [← he]
      exact .inr ⟨r, hr, rfl⟩
    · exact .inl (ih (by omega) (by omega) fun j hj hjm => hno j hj (by omega))

lemma not_opened_of_handed (h : a.WellFormed) {e : Nat} {s : Span}
    (hs : s ∈ a.handedAt calls e) : (a.upTo calls (e + 1)).opened.get? s.identity = none := by
  obtain ⟨c, hc⟩ := call_of_mem_handedAt hs
  obtain ⟨out, hmove, hout⟩ := exists_move h hc s.identity
  rw [(hout s).mp ⟨hs, rfl⟩] at hmove
  have hw := h.upTo calls (e + 1)
  exact opened_of_closed hw ((slot_eq_closed_iff hw).mp hmove.of_handed.1)

lemma handoverFrom_eq_some_iff {k e : Nat} :
    a.handoverFrom calls i k = some e ↔ k ≤ e ∧ (∃ s ∈ a.handedAt calls e, s.identity = i) ∧
      ∀ j, k ≤ j → j < e → ∀ s ∈ a.handedAt calls j, s.identity ≠ i := by
  rw [handoverFrom, List.find?_range'_eq_some]
  simp only [List.any_eq_true, decide_eq_true_eq, List.mem_range'_1, Bool.not_eq_true',
    List.any_eq_false]
  constructor
  · rintro ⟨hs, hmem, hno⟩
    exact ⟨hmem.1, hs, hno⟩
  · rintro ⟨hke, ⟨s, hs, hi⟩, hno⟩
    obtain ⟨c, hc⟩ := call_of_mem_handedAt hs
    have he : e < calls.length := (List.getElem?_eq_some_iff.mp hc).1
    exact ⟨⟨s, hs, hi⟩, ⟨hke, by omega⟩, hno⟩

lemma handoverFrom_eq_none_iff {k : Nat} :
    a.handoverFrom calls i k = none ↔
      ∀ j, k ≤ j → ∀ s ∈ a.handedAt calls j, s.identity ≠ i := by
  rw [handoverFrom, List.find?_range'_eq_none]
  simp only [Bool.not_eq_true', List.any_eq_false, decide_eq_true_eq]
  constructor
  · intro hno j hkj s hs
    obtain ⟨c, hc⟩ := call_of_mem_handedAt hs
    have hj : j < calls.length := (List.getElem?_eq_some_iff.mp hc).1
    exact hno j hkj (by omega) s hs
  · exact fun hno j hkj _ => hno j hkj

lemma fate_of_accepted {k : Nat} {r : Record} (hr : a.acceptedAt calls k = some r) :
    a.fate calls k = (a.handoverFrom calls r.identity k).elim .kept .handedOver := by
  rw [fate, hr]

lemma fate_eq_kept_iff {k : Nat} {r : Record} (hr : a.acceptedAt calls k = some r) :
    a.fate calls k = .kept ↔
      ∀ j, k ≤ j → ∀ s ∈ a.handedAt calls j, s.identity ≠ r.identity := by
  rw [fate_of_accepted hr, ← handoverFrom_eq_none_iff]
  cases a.handoverFrom calls r.identity k <;> simp

lemma fate_eq_handedOver_iff {k e : Nat} {r : Record} (hr : a.acceptedAt calls k = some r) :
    a.fate calls k = .handedOver e ↔
      k ≤ e ∧ (∃ s ∈ a.handedAt calls e, s.identity = r.identity) ∧
        ∀ j, k ≤ j → j < e → ∀ s ∈ a.handedAt calls j, s.identity ≠ r.identity := by
  rw [fate_of_accepted hr, ← handoverFrom_eq_some_iff]
  cases a.handoverFrom calls r.identity k <;> simp

lemma OpenSince.not_handed (h : a.WellFormed) {first stop : Nat}
    (hsince : a.OpenSince calls i first stop) {j : Nat} (hj : first ≤ j) (hstop : j + 1 < stop) :
    ∀ s ∈ a.handedAt calls j, s.identity ≠ i := by
  rintro s hs rfl
  obtain ⟨t, ht⟩ := hsince.stays (j + 1) (by omega) hstop
  rw [not_opened_of_handed h hs] at ht
  cases ht

lemma OpenSince.first_le (h : a.WellFormed) {first stop k : Nat}
    (hsince : a.OpenSince calls i first stop) {r : Record} (hr : a.acceptedAt calls k = some r)
    (hi : r.identity = i)
    (hno : ∀ j, k ≤ j → j < first → ∀ s ∈ a.handedAt calls j, s.identity ≠ r.identity) :
    first ≤ k := by
  by_contra hlt
  obtain ⟨r', hr', -⟩ := hsince.opens
  have hfirst : first < calls.length := (List.getElem?_eq_some_iff.mp (call_of_acceptedAt hr')).1
  obtain ⟨s, hs⟩ := opened_of_accepted h (Nat.lt_of_not_le hlt) (Nat.le_of_lt hfirst) hr hno
  rw [hi, hsince.unopened] at hs
  cases hs

theorem holds_of_opened (h : a.WellFormed) (hnew : ∀ i, a.opened.get? i = none) {s : Span}
    (hs : (a.after calls).opened.get? i = some s) :
    s.identity = i ∧ ∃ first, a.Holds calls s .kept first calls.length := by
  have hid : s.identity = i := (h.after calls).own i s hs
  subst hid
  rw [← upTo_length] at hs
  obtain ⟨first, hsince, hrecords⟩ := gathered_of_opened h hnew (Nat.le_refl _) hs
  refine ⟨rfl, first, hsince, hrecords, fun k r hr hi => ?_⟩
  have hk : k < calls.length := (List.getElem?_eq_some_iff.mp (call_of_acceptedAt hr)).1
  rw [fate_eq_kept_iff hr]
  constructor
  · intro hno
    exact ⟨hsince.first_le h hr hi fun j hj _ => hno j hj, hk⟩
  -- while the identity stays open nothing is handed over, and the last call did not close it
  · rintro ⟨hfirst, -⟩ j hj t ht
    rw [hi]
    obtain ⟨c, hc⟩ := call_of_mem_handedAt ht
    have hj' : j < calls.length := (List.getElem?_eq_some_iff.mp hc).1
    rcases Nat.lt_or_ge (j + 1) calls.length with hlt | hge
    · exact hsince.not_handed h (by omega) hlt t ht
    · rintro hts
      have hlast : j + 1 = calls.length := by omega
      have hclosed := not_opened_of_handed h ht
      rw [hts, hlast, hs] at hclosed
      cases hclosed

theorem holds_of_handed (h : a.WellFormed) (hnew : ∀ i, a.opened.get? i = none) {e : Nat}
    {s : Span} (hs : s ∈ a.handedAt calls e) :
    ∃ first, a.Holds calls s (.handedOver e) first (e + 1) := by
  obtain ⟨first, hsince, hrecords⟩ := gathered_of_handed h hnew hs
  refine ⟨first, hsince, hrecords, fun k r hr hi => ?_⟩
  rw [fate_eq_handedOver_iff hr, hi]
  constructor
  · rintro ⟨hke, -, hno⟩
    have hfirst := hsince.first_lt
    refine ⟨hsince.first_le h hr hi fun j hj hjf => ?_, by omega⟩
    rw [hi]
    exact hno j hj (by omega)
  · rintro ⟨hfirst, hke⟩
    refine ⟨by omega, ⟨s, hs, rfl⟩, fun j hj hje => ?_⟩
    exact hsince.not_handed h (by omega) (by omega)

lemma fate_eq_dropped_iff {k : Nat} {r : Record} (hc : calls[k]? = some (.record r)) :
    a.fate calls k = .dropped ↔ (a.upTo calls k).closed.contains r.identity = true := by
  cases hclosed : (a.upTo calls k).closed.contains r.identity with
  | true =>
    have hnone : a.acceptedAt calls k = none := by simp [acceptedAt_eq hc, accepts, hclosed]
    simp [fate, hnone]
  | false =>
    have hr : a.acceptedAt calls k = some r := by simp [acceptedAt_eq hc, accepts, hclosed]
    rw [fate_of_accepted hr]
    cases a.handoverFrom calls r.identity k <;> simp

lemma accepted_of_fate {k : Nat} {r : Record} (hc : calls[k]? = some (.record r))
    (hfate : a.fate calls k ≠ .dropped) : a.acceptedAt calls k = some r := by
  cases hr : a.acceptedAt calls k with
  | none => exact absurd (by rw [fate, hr]) hfate
  | some r' =>
    have hc' := call_of_acceptedAt hr
    rw [hc] at hc'
    cases hc'
    rfl

lemma opened_of_kept (h : a.WellFormed) {k : Nat} {r : Record}
    (hc : calls[k]? = some (.record r)) (hfate : a.fate calls k = .kept) :
    ∃ s, (a.after calls).opened.get? r.identity = some s := by
  have hr := accepted_of_fate hc (by rw [hfate]; decide)
  have hk : k < calls.length := (List.getElem?_eq_some_iff.mp hc).1
  have hno := (fate_eq_kept_iff hr).mp hfate
  rw [← upTo_length]
  exact opened_of_accepted h hk (Nat.le_refl _) hr fun j hj _ => hno j hj

lemma handed_of_fate {k e : Nat} {r : Record} (hc : calls[k]? = some (.record r))
    (hfate : a.fate calls k = .handedOver e) :
    ∃ s ∈ a.handedAt calls e, s.identity = r.identity := by
  have hr := accepted_of_fate hc (by rw [hfate]; simp)
  exact ((fate_eq_handedOver_iff hr).mp hfate).2.1

lemma nodup_handedAt (h : a.WellFormed) (e : Nat) :
    ((a.handedAt calls e).map Span.identity).Nodup := by
  cases hc : calls[e]? with
  | none => simp [handedAt, hc]
  | some c =>
    rw [handedAt_eq hc]
    exact nodup_step (h.upTo calls e) c

/-- Whatever calls are made on a new assembler, no record is lost, doubled, altered or moved. -/
theorem records_conserved (timeToLive : Duration) (calls : List Call) :
    (Assembler.new timeToLive).Conserved calls := by
  have h := wellFormed_new timeToLive
  have hnew : ∀ i, (Assembler.new timeToLive).opened.get? i = none := fun _ => rfl
  refine
    { dropped := fun k r hc => fate_eq_dropped_iff hc
      kept := fun k r hc hfate => opened_of_kept h hc hfate
      handed := fun k r e hc hfate => handed_of_fate hc hfate
      opened_once := (h.after calls).opened_distinct
      handed_once := nodup_handedAt h
      opened_holds := fun i s hs => holds_of_opened h hnew hs
      handed_holds := fun e s hs => holds_of_handed h hnew hs
      accepted_count := ?_
      records_counter := ?_
      spans_counter := ?_ }
  · have hcount := recordsAt_after h calls
    have hstart : recordsAt (Assembler.new timeToLive).opened = 0 := rfl
    omega
  · rw [recordsProcessed_after]
    exact UInt64.zero_add _
  · rw [spansFlushed_after h]
    exact UInt64.zero_add _

end Assembler

end TracePipeline
