import Mathlib.Data.List.Basic
import TracePipeline.Proofs.Assembler.Slot

/-!
# Histories of an assembler

The calls made on an assembler, in their order, fix the assembler before each call, the record that
the call put into a span and the spans that it handed over. Calls go by their numbers, from zero on.
-/

namespace TracePipeline

namespace Assembler

/-- The assembler before the call with a number. -/
def upTo (a : Assembler) (calls : List Call) (k : Nat) : Assembler := a.after (calls.take k)

/-- The spans handed over in the call with a number. -/
def handedAt (a : Assembler) (calls : List Call) (k : Nat) : List Span :=
  calls[k]?.elim [] fun c => ((a.upTo calls k).step c).2

/-- The record of the call with a number, if it was put into a span. -/
def acceptedAt (a : Assembler) (calls : List Call) (k : Nat) : Option Record :=
  calls[k]?.bind (a.upTo calls k).accepts

/-- All records that were accepted, in their order. -/
def accepted (a : Assembler) (calls : List Call) : List Record :=
  (List.range calls.length).filterMap (a.acceptedAt calls)

/-- All spans that were handed over. -/
def handedOver (a : Assembler) (calls : List Call) : List Span :=
  (List.range calls.length).flatMap (a.handedAt calls)

variable {a : Assembler} {calls : List Call} {c : Call} {k : Nat}

@[simp] lemma upTo_zero : a.upTo calls 0 = a := rfl

lemma upTo_succ (hc : calls[k]? = some c) :
    a.upTo calls (k + 1) = ((a.upTo calls k).step c).1 := by
  rw [upTo, List.take_add_one, hc]
  exact after_concat a _ c

lemma upTo_succ_of_none (hc : calls[k]? = none) : a.upTo calls (k + 1) = a.upTo calls k := by
  rw [upTo, List.take_add_one, hc]
  simp [upTo]

lemma upTo_length : a.upTo calls calls.length = a.after calls := by
  rw [upTo, List.take_length]

lemma handedAt_eq (hc : calls[k]? = some c) :
    a.handedAt calls k = ((a.upTo calls k).step c).2 := by
  rw [handedAt, hc, Option.elim_some]

lemma acceptedAt_eq (hc : calls[k]? = some c) :
    a.acceptedAt calls k = (a.upTo calls k).accepts c := by
  rw [acceptedAt, hc, Option.bind_some]

lemma call_of_mem_handedAt {s : Span} (hs : s ∈ a.handedAt calls k) : ∃ c, calls[k]? = some c := by
  cases hc : calls[k]? with
  | none => simp [handedAt, hc] at hs
  | some c => exact ⟨c, rfl⟩

lemma call_of_acceptedAt {r : Record} (hr : a.acceptedAt calls k = some r) :
    calls[k]? = some (.record r) := by
  obtain ⟨c, hc, hr⟩ := Option.bind_eq_some_iff.mp hr
  cases c with
  | record r' =>
    rw [accepts] at hr
    split at hr
    · cases hr
    · cases hr
      exact hc
  | flushOld now => cases hr
  | flushAll => cases hr
  | shutdown => cases hr

lemma upTo_append (more : List Call) (hk : k ≤ calls.length) :
    a.upTo (calls ++ more) k = a.upTo calls k := by
  rw [upTo, upTo, List.take_append_of_le_length hk]

lemma handedAt_append (more : List Call) (hk : k < calls.length) :
    a.handedAt (calls ++ more) k = a.handedAt calls k := by
  rw [handedAt, handedAt, List.getElem?_append_left hk, upTo_append more (Nat.le_of_lt hk)]

lemma acceptedAt_append (more : List Call) (hk : k < calls.length) :
    a.acceptedAt (calls ++ more) k = a.acceptedAt calls k := by
  rw [acceptedAt, acceptedAt, List.getElem?_append_left hk, upTo_append more (Nat.le_of_lt hk)]

lemma handedOver_concat (calls : List Call) (c : Call) :
    a.handedOver (calls ++ [c]) = a.handedOver calls ++ ((a.after calls).step c).2 := by
  have hlast : a.handedAt (calls ++ [c]) calls.length = ((a.after calls).step c).2 := by
    rw [handedAt_eq (c := c) (by simp), upTo_append _ (Nat.le_refl _), upTo_length]
  have hbefore : (List.range calls.length).flatMap (a.handedAt (calls ++ [c])) =
      a.handedOver calls :=
    List.flatMap_congr fun k hk => handedAt_append [c] (List.mem_range.mp hk)
  rw [handedOver, List.length_append, List.length_singleton, List.range_succ, List.flatMap_append,
    hbefore, List.flatMap_singleton, hlast]

lemma accepted_concat (calls : List Call) (c : Call) :
    a.accepted (calls ++ [c]) = a.accepted calls ++ ((a.after calls).accepts c).toList := by
  have hlast : a.acceptedAt (calls ++ [c]) calls.length = (a.after calls).accepts c := by
    rw [acceptedAt_eq (c := c) (by simp), upTo_append _ (Nat.le_refl _), upTo_length]
  have hbefore : (List.range calls.length).filterMap (a.acceptedAt (calls ++ [c])) =
      a.accepted calls :=
    List.filterMap_congr fun k hk => acceptedAt_append [c] (List.mem_range.mp hk)
  rw [accepted, List.length_append, List.length_singleton, List.range_succ, List.filterMap_append,
    hbefore, ← hlast]
  cases h : a.acceptedAt (calls ++ [c]) calls.length <;> simp [h]

lemma WellFormed.upTo (h : a.WellFormed) (calls : List Call) (k : Nat) :
    (a.upTo calls k).WellFormed :=
  h.after _

lemma accepts_slot (h : a.WellFormed) (c : Call) (i : Identity) :
    (a.slot i).accepts i c = (a.accepts c).filter fun r => r.identity = i := by
  cases c with
  | record r =>
    rw [Slot.accepts, accepts]
    by_cases hi : r.identity = i
    · subst hi
      cases hclosed : a.closed.get? r.identity with
      | some time =>
        rw [(slot_eq_closed_iff h).mpr hclosed]
        simp [Slot.span?, Table.contains, hclosed]
      | none =>
        have hspan : ((a.slot r.identity).span? r.identity).isSome := by
          rw [slot, hclosed]
          cases a.opened.get? r.identity <;> rfl
        simp [hspan, Table.contains, hclosed, Option.filter]
    · rw [if_neg fun h => hi h.1]
      split
      · rfl
      · simp [Option.filter, hi]
  | flushOld now => rfl
  | flushAll => rfl
  | shutdown => rfl

lemma identity_of_move {ttl : UInt64} {i : Identity} {slot slot' : Slot} {accepted : Option Record}
    {s : Span} (hown : ∀ s, slot = .gathering s → s.identity = i)
    (hm : Slot.Move ttl i slot c slot' accepted (some s)) : s.identity = i := by
  rcases hm.of_handed.2 with ⟨hslot, -⟩ | ⟨t, r, ht, -, rfl⟩
  · exact hown s hslot
  · rw [Span.identity_completed, Span.identity_push]
    cases slot with
    | unknown =>
      cases ht
      rfl
    | gathering t =>
      cases ht
      exact hown t rfl
    | closed time => cases ht

/-- What a call did to an identity: one move of its slot, with the record of that identity that was
accepted and the span of that identity that was handed over. -/
theorem exists_move (h : a.WellFormed) (hc : calls[k]? = some c) (i : Identity) :
    ∃ out, Slot.Move a.ttl i ((a.upTo calls k).slot i) c ((a.upTo calls (k + 1)).slot i)
        ((a.acceptedAt calls k).filter fun r => r.identity = i) out ∧
      ∀ s, s ∈ a.handedAt calls k ∧ s.identity = i ↔ out = some s := by
  have hw := h.upTo calls k
  have httl : (a.upTo calls k).ttl = a.ttl := ttl_after a _
  have hslot := slot_step hw c i
  have hmove := Slot.step_move a.ttl (a.upTo calls k).isShutdown i ((a.upTo calls k).slot i) c
  rw [httl, ← upTo_succ hc] at hslot
  rw [← hslot, accepts_slot hw, ← acceptedAt_eq hc] at hmove
  refine ⟨_, hmove, fun s => ⟨?_, fun hs => ?_⟩⟩
  · rintro ⟨hs, rfl⟩
    rw [handedAt_eq hc, mem_step hw, httl] at hs
    exact hs
  · rw [hs] at hmove
    have hown : ∀ s, (a.upTo calls k).slot i = .gathering s → s.identity = i := fun s hs =>
      hw.own i s (slot_eq_gathering_iff.mp hs)
    have hi := identity_of_move hown hmove
    refine ⟨?_, hi⟩
    rw [handedAt_eq hc, mem_step hw, hi, httl]
    exact hs

end Assembler

end TracePipeline
