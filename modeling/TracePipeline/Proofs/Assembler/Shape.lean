import TracePipeline.Proofs.Assembler.History

/-!
# The shape of spans

An open span has begun and not ended: it holds records of its own identity, none of which ends it,
and was last updated at the latest of their times. It is ended by at most one record, its last, and
is then handed over in the call that brought this record. The spans that sweeps and flushes hand over
were open until then. An identity that is closed has no open span, so the record that ends a span
never meets one that was ended before.
-/

namespace TracePipeline

lemma Annotation.isTerminal_iff {mark : Annotation} :
    mark.isTerminal = true ↔ mark = .clientRecv ∨ mark = .serverSend := by
  cases mark <;> simp [isTerminal]

namespace Span

/-- A span has gathered records of an identity. -/
structure Gathered (s : Span) (i : Identity) : Prop where
  identity : s.identity = i
  nonempty : s.records ≠ []
  own : ∀ r ∈ s.records, r.identity = i
  latest : ∃ r ∈ s.records, r.timestamp = s.lastUpdate
  bounded : ∀ r ∈ s.records, r.timestamp ≤ s.lastUpdate

/-- A span has begun and not ended. -/
structure Unended (s : Span) (i : Identity) : Prop extends s.Gathered i where
  incomplete : s.isComplete = false
  unended : ∀ r ∈ s.records, r.annotation.isTerminal = false

/-- A span as a call hands it over. -/
structure HandedBy (s : Span) (c : Assembler.Call) : Prop extends s.Gathered s.identity where
  complete_iff : s.isComplete = true ↔
    ∃ r, s.records.getLast? = some r ∧ (r.annotation = .clientRecv ∨ r.annotation = .serverSend)
  ended : s.isComplete = true → ∃ before r, s.records = before ++ [r] ∧ c = .record r ∧
    r.annotation.isTerminal = true ∧ ∀ r' ∈ before, r'.annotation.isTerminal = false
  flushed : s.isComplete = false → (∀ r ∈ s.records, r.annotation.isTerminal = false) ∧
    ((∃ now, c = .flushOld now) ∨ c = .flushAll ∨ c = .shutdown)

lemma lastUpdate_push (s : Span) (r : Record) :
    (s.push r).lastUpdate = if s.lastUpdate ≤ r.timestamp then r.timestamp else s.lastUpdate :=
  UInt64.max_def s.lastUpdate r.timestamp

variable {s : Span} {i : Identity} {r : Record}

lemma gathered_push_new (hi : r.identity = i) : ((new i).push r).Gathered i where
  identity := by simp
  nonempty := by simp
  own := by simpa using hi
  latest := by
    have hzero : (new i).lastUpdate ≤ r.timestamp := UInt64.zero_le
    rw [lastUpdate_push, if_pos hzero]
    exact ⟨r, by simp, rfl⟩
  bounded := by
    have hzero : (new i).lastUpdate ≤ r.timestamp := UInt64.zero_le
    rw [lastUpdate_push, if_pos hzero]
    simp

lemma Gathered.push (h : s.Gathered i) (hi : r.identity = i) : (s.push r).Gathered i where
  identity := by rw [identity_push, h.identity]
  nonempty := by simp
  own x hx := by
    rw [records_push, List.mem_append, List.mem_singleton] at hx
    rcases hx with hold | rfl
    · exact h.own x hold
    · exact hi
  latest := by
    rw [lastUpdate_push, records_push]
    split
    · exact ⟨r, by simp, rfl⟩
    · obtain ⟨x, hx, htime⟩ := h.latest
      exact ⟨x, List.mem_append_left _ hx, htime⟩
  bounded x hx := by
    rw [records_push, List.mem_append, List.mem_singleton] at hx
    rw [lastUpdate_push]
    split
    · rename_i hle
      rcases hx with hold | rfl
      · exact UInt64.le_trans (h.bounded x hold) hle
      · exact UInt64.le_refl _
    · rename_i hlate
      rcases hx with hold | rfl
      · exact h.bounded x hold
      · exact (UInt64.le_total _ _).resolve_right hlate

lemma Gathered.completed (h : s.Gathered i) : s.completed.Gathered i :=
  ⟨h.identity, h.nonempty, h.own, h.latest, h.bounded⟩

lemma Unended.handedBy (h : s.Unended i) {c : Assembler.Call}
    (hc : (∃ now, c = .flushOld now) ∨ c = .flushAll ∨ c = .shutdown) : s.HandedBy c := by
  have hgathered : s.Gathered s.identity := by
    rw [h.identity]
    exact h.toGathered
  refine { hgathered with complete_iff := ?_, ended := ?_, flushed := fun _ => ⟨h.unended, hc⟩ }
  · rw [h.incomplete]
    refine ⟨nofun, ?_⟩
    rintro ⟨r, hlast, hends⟩
    have hunended := h.unended r (List.mem_of_getLast? hlast)
    have hterminal := Annotation.isTerminal_iff.mpr hends
    rw [hunended] at hterminal
    cases hterminal
  · rw [h.incomplete]
    exact nofun

end Span

namespace Slot

/-- What a slot gathers has not ended. -/
def Sound (i : Identity) (slot : Slot) : Prop := ∀ s, slot = gathering s → s.Unended i

variable {ttl : UInt64} {i : Identity} {slot before after : Slot} {c : Assembler.Call}
  {accepted : Option Record} {s : Span} {r : Record}

lemma Sound.push (h : slot.Sound i) (hs : slot.span? i = some s) (hi : r.identity = i) :
    (s.push r).Gathered i := by
  cases slot with
  | unknown =>
    cases hs
    exact Span.gathered_push_new hi
  | gathering t =>
    cases hs
    exact (h s rfl).toGathered.push hi
  | closed time => cases hs

lemma Sound.before_push (h : slot.Sound i) (hs : slot.span? i = some s) :
    s.isComplete = false ∧ ∀ r ∈ s.records, r.annotation.isTerminal = false := by
  cases slot with
  | unknown =>
    cases hs
    simp
  | gathering t =>
    cases hs
    exact ⟨(h s rfl).incomplete, (h s rfl).unended⟩
  | closed time => cases hs

/-- What a slot gathers does not end while it gathers. -/
lemma Sound.move (h : before.Sound i) {handed : Option Span}
    (hm : Move ttl i before c after accepted handed) : after.Sound i := by
  intro t ht
  subst ht
  cases hm with
  | idle _ _ _ => exact h t rfl
  | gathers _ s r hs hi hr =>
    obtain ⟨hincomplete, hunended⟩ := h.before_push hs
    refine { h.push hs hi with incomplete := ?_, unended := fun x hx => ?_ }
    · rw [Span.isComplete_push, hincomplete]
    · rw [Span.records_push, List.mem_append, List.mem_singleton] at hx
      rcases hx with hold | rfl
      · exact hunended x hold
      · exact hr

/-- A span leaves a slot with the record that ends it, or as it was gathered. -/
lemma Sound.handed (h : before.Sound i) (hm : Move ttl i before c after accepted (some s)) :
    s.HandedBy c := by
  cases hm with
  | ends _ t r ht hi hr =>
    obtain ⟨hincomplete, hunended⟩ := h.before_push ht
    have hgathered := (h.push ht hi).completed
    have hidentity := hgathered.identity
    rw [← hidentity] at hgathered
    refine { hgathered with complete_iff := ?_, ended := fun _ => ?_, flushed := ?_ }
    · refine ⟨fun _ => ⟨r, by simp, Annotation.isTerminal_iff.mp hr⟩, fun _ => rfl⟩
    · exact ⟨t.records, r, rfl, rfl, hr, hunended⟩
    · rw [Span.isComplete_completed]
      exact nofun
  | flushed _ _ hrecord _ =>
    refine (h s rfl).handedBy ?_
    cases c with
    | record r => exact absurd rfl (hrecord r)
    | flushOld now => exact .inl ⟨now, rfl⟩
    | flushAll => exact .inr (.inl rfl)
    | shutdown => exact .inr (.inr rfl)

end Slot

namespace Assembler

variable {a : Assembler} {calls : List Call}

lemma sound_slot (h : a.WellFormed) (hnew : ∀ i, a.opened.get? i = none) (i : Identity) (k : Nat) :
    ((a.upTo calls k).slot i).Sound i := by
  -- on the number of calls; each makes one move of the slot
  induction k with
  | zero =>
    intro s hs
    rw [upTo_zero, slot_eq_gathering_iff, hnew] at hs
    cases hs
  | succ k ih =>
    cases hc : calls[k]? with
    | none =>
      rw [upTo_succ_of_none hc]
      exact ih
    | some c =>
      obtain ⟨out, hmove, -⟩ := exists_move h hc i
      exact ih.move hmove

/-- The tables of an assembler after some calls, and the spans that these handed over, are as they
have to be. -/
structure Shaped (a : Assembler) (calls : List Call) : Prop where
  opened_once : (a.after calls).opened.Distinct
  closed_once : (a.after calls).closed.Distinct
  apart : ∀ i, ¬ ((a.after calls).opened.contains i = true ∧
    (a.after calls).closed.contains i = true)
  opened : ∀ i s, (i, s) ∈ (a.after calls).opened → s.Unended i
  handed : ∀ k c s, calls[k]? = some c → s ∈ a.handedAt calls k → s.HandedBy c

/-- Whatever calls are made on a new assembler, its spans keep their shape. -/
theorem spans_shaped (timeToLive : Duration) (calls : List Call) :
    (Assembler.new timeToLive).Shaped calls := by
  have h := wellFormed_new timeToLive
  have hnew : ∀ i, (Assembler.new timeToLive).opened.get? i = none := fun _ => rfl
  have hw := h.after calls
  refine
    { opened_once := hw.opened_distinct
      closed_once := hw.closed_distinct
      apart := ?_
      opened := fun i s hs => ?_
      handed := fun k c s hc hs => ?_ }
  · rintro i ⟨hopened, hclosed⟩
    obtain ⟨s, hs⟩ := Option.isSome_iff_exists.mp hopened
    rw [Table.contains, hw.apart i s hs] at hclosed
    cases hclosed
  · have hsound : Slot.Sound i (((Assembler.new timeToLive).upTo calls calls.length).slot i) :=
      sound_slot h hnew i calls.length
    rw [upTo_length] at hsound
    exact hsound s (slot_eq_gathering_iff.mpr (Table.get?_of_mem hw.opened_distinct hs))
  · obtain ⟨out, hmove, hout⟩ := exists_move h hc s.identity
    rw [(hout s).mp ⟨hs, rfl⟩] at hmove
    exact (sound_slot h hnew s.identity k).handed hmove

end Assembler

end TracePipeline
