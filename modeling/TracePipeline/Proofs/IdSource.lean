import Mathlib.Data.List.Nodup
import TracePipeline.IdSource

/-!
# Drawing ids

What is drawn in turn is what one larger draw yields, and a search for another id draws the ids that
it looks at and no further one. Ids that follow each other at the end of a source differ, and
consecutive ones do not repeat before all have come.
-/

namespace TracePipeline

namespace IdSource

/-- How many ids a search for one that differs from `used` draws. -/
def searched (used : UInt64) : IdSource → Nat
  | listed (id :: ids) next => if id = used then searched used (listed ids next) + 1 else 1
  | source => if source.draw.1 = used then 2 else 1

/-- What a search draws: `used` itself some times, then another id, which is the one it finds. -/
structure Finds (used : UInt64) (source : IdSource) (skipped : Nat) : Prop where
  searched : source.searched used = skipped + 1
  drawn : source.drawMany (skipped + 1) =
    (List.replicate skipped used ++ [(source.drawOther used).1], (source.drawOther used).2)
  other : (source.drawOther used).1 ≠ used

variable {used id : UInt64} {ids : List UInt64} {next : UInt64} {source : IdSource}
  {k x y : UInt64} {m n : Nat}

lemma drawMany_succ (n : Nat) (source : IdSource) :
    source.drawMany (n + 1) =
      (source.draw.1 :: (source.draw.2.drawMany n).1, (source.draw.2.drawMany n).2) := rfl

lemma drawMany_add (m n : Nat) (source : IdSource) :
    source.drawMany (m + n) =
      ((source.drawMany m).1 ++ ((source.drawMany m).2.drawMany n).1,
        ((source.drawMany m).2.drawMany n).2) := by
  induction m generalizing source with
  | zero => rw [Nat.zero_add]; rfl
  | succ m ih => rw [Nat.add_right_comm, drawMany_succ, drawMany_succ, ih, List.cons_append]

/-- A shift to the right keeps no number but zero. -/
lemma eq_zero_of_shiftRight_eq (hk : 0 < k.toNat) (hk64 : k.toNat < 64) (h : x >>> k = x) :
    x = 0 := by
  have hdiv : x.toNat / 2 ^ k.toNat = x.toNat := by
    have hshift := congrArg UInt64.toNat h
    rwa [UInt64.toNat_shiftRight, Nat.mod_eq_of_lt hk64, Nat.shiftRight_eq_div_pow] at hshift
  have hzero : x.toNat = 0 := by
    by_contra hne
    have hlt := Nat.div_lt_self (Nat.pos_of_ne_zero hne) (Nat.one_lt_two_pow (Nat.ne_of_gt hk))
    omega
  exact UInt64.toNat_inj.mp hzero

lemma xor_shiftRight_inj (hk : 0 < k.toNat) (hk64 : k.toNat < 64)
    (h : x ^^^ (x >>> k) = y ^^^ (y >>> k)) : x = y := by
  have hshifted : (x ^^^ y) >>> k = x ^^^ y := calc
    (x ^^^ y) >>> k = x ^^^ (x ^^^ (x >>> k)) ^^^ (y >>> k) := by
      rw [UInt64.shiftRight_xor, ← UInt64.xor_assoc, UInt64.xor_self, UInt64.zero_xor]
    _ = x ^^^ (y ^^^ (y >>> k)) ^^^ (y >>> k) := by rw [h]
    _ = x ^^^ y := by rw [UInt64.xor_assoc, UInt64.xor_assoc, UInt64.xor_self, UInt64.xor_zero]
  exact UInt64.xor_eq_zero_iff.mp (eq_zero_of_shiftRight_eq hk hk64 hshifted)

lemma mul_right_inj {factor : UInt64} (inverse : UInt64) (hinverse : factor * inverse = 1)
    (h : x * factor = y * factor) : x = y := by
  have hback := congrArg (· * inverse) h
  simpa only [UInt64.mul_assoc, hinverse, UInt64.mul_one] using hback

lemma scramble_inj (h : scramble x = scramble y) : x = y := by
  unfold scramble at h
  have hlast := xor_shiftRight_inj (by decide) (by decide) h
  have hmiddle := mul_right_inj 0x319642B2D24D8EC3 (by decide) hlast
  have hfirst := xor_shiftRight_inj (by decide) (by decide) hmiddle
  have hstart := mul_right_inj 0x96DE1B173F119089 (by decide) hfirst
  exact xor_shiftRight_inj (by decide) (by decide) hstart

lemma ne_add_self {step : UInt64} (hstep : step ≠ 0) (x : UInt64) : x + step ≠ x := by
  intro h
  exact hstep (UInt64.add_right_inj x |>.mp (h.trans (UInt64.add_zero x).symm))

/-- A search at the end of a source, where each id differs from the one after it. -/
lemma finds_of_draw_ne (hdraw : source.draw.2.draw.1 ≠ source.draw.1)
    (hsearched : source.searched used = if source.draw.1 = used then 2 else 1)
    (hother : source.drawOther used =
      if source.draw.1 = used then source.draw.2.draw else source.draw) :
    ∃ skipped, Finds used source skipped := by
  by_cases hused : source.draw.1 = used
  · rw [if_pos hused] at hsearched hother
    refine ⟨1, hsearched, ?_, ?_⟩
    · rw [hother, drawMany_succ, drawMany_succ, hused]
      rfl
    · rwa [hother, ← hused]
  · rw [if_neg hused] at hsearched hother
    refine ⟨0, hsearched, ?_, ?_⟩
    · rw [hother]
      rfl
    · rwa [hother]

/-- A search finds another id, whatever the source. -/
theorem finds (used : UInt64) (source : IdSource) : ∃ skipped, Finds used source skipped := by
  cases source with
  | scattered state =>
    refine finds_of_draw_ne ?_ (by simp [searched]) (by simp [drawOther])
    intro h
    exact ne_add_self (by decide) _ (scramble_inj h)
  | listed ids next =>
    induction ids with
    | nil =>
      have hdraw : next + 1 ≠ next := ne_add_self (by decide) next
      exact finds_of_draw_ne hdraw (by simp [searched]) (by simp [drawOther])
    | cons id ids ih =>
      by_cases hused : id = used
      · obtain ⟨skipped, hfinds⟩ := ih
        have hother : drawOther used (listed (id :: ids) next) =
            drawOther used (listed ids next) := by
          rw [drawOther, if_pos hused]
        refine ⟨skipped + 1, ?_, ?_, ?_⟩
        · rw [searched, if_pos hused, hfinds.searched]
        · rw [hother, drawMany_succ, draw, hfinds.drawn, hused]
          rfl
        · rw [hother]
          exact hfinds.other
      · have hother : drawOther used (listed (id :: ids) next) = (id, listed ids next) := by
          rw [drawOther, if_neg hused]
        refine ⟨0, ?_, ?_, ?_⟩
        · rw [searched, if_neg hused]
        · rw [hother]
          rfl
        · rwa [hother]

/-- A search ends as soon as another id comes. -/
theorem drawOther_of_replicate (h : id ≠ used) (n : Nat) (ids : List UInt64) (next : UInt64) :
    drawOther used (listed (List.replicate n used ++ id :: ids) next) = (id, listed ids next) := by
  induction n with
  | zero => rw [List.replicate_zero, List.nil_append, drawOther, if_neg h]
  | succ n ih => rw [List.replicate_succ, List.cons_append, drawOther, if_pos rfl, ih]

lemma drawMany_listed_nil (n : Nat) (next : UInt64) :
    (listed [] next).drawMany n =
      ((List.range n).map fun k => next + .ofNat k, listed [] (next + .ofNat n)) := by
  induction n generalizing next with
  | zero => simp [drawMany]
  | succ n ih =>
    rw [drawMany_succ, draw, ih, List.range_succ_eq_map]
    simp [Function.comp_def, UInt64.add_assoc, UInt64.add_comm 1]

/-- Consecutive ids are different until all have come. -/
theorem nodup_drawMany (next : UInt64) (h : n ≤ UInt64.size) :
    ((listed [] next).drawMany n).1.Nodup := by
  rw [drawMany_listed_nil]
  refine List.Nodup.map_on ?_ List.nodup_range
  intro a ha b hb hab
  have hmod := congrArg UInt64.toNat ((UInt64.add_right_inj next).mp hab)
  rw [List.mem_range] at ha hb
  rwa [UInt64.toNat_ofNat_of_lt' (by omega), UInt64.toNat_ofNat_of_lt' (by omega)] at hmod

lemma searched_listed_nil_le (used next : UInt64) : (listed [] next).searched used ≤ 2 := by
  unfold searched
  split <;> decide

end IdSource

end TracePipeline
