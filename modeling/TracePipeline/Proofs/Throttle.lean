import Mathlib.Data.List.Induction
import Mathlib.Data.UInt
import TracePipeline.Throttle

/-!
# Spacing and counting of warnings

Whatever the times of warnings, the first one passes, and a later one is held back exactly if it comes
less than an interval after the last one that passed. What a throttle remembers is the time of that
warning, and how many were held back after it; the next one that passes reports these. So of all
warnings that were held back, each one was reported once or is still waiting to be.
-/

namespace TracePipeline

/-- The difference of times is that of numbers, which is zero if the second is the larger one. -/
lemma toNat_since (now earlier : UInt64) :
    (since now earlier).toNat = now.toNat - earlier.toNat := by
  unfold since
  split
  · rename_i hle
    exact UInt64.toNat_sub_of_le _ _ hle
  · rename_i hlate
    have hnat : ¬ earlier.toNat ≤ now.toNat := fun h => hlate (UInt64.le_iff_toNat_le.mpr h)
    have hzero : (0 : UInt64).toNat = 0 := rfl
    omega

namespace Throttle

/-- The throttle after warnings at the given times. -/
def after (t : Throttle) (times : List UInt64) : Throttle :=
  times.foldl (fun t now => (t.check now).2) t

/-- What each of the warnings at the given times is told. -/
def answers (t : Throttle) : List UInt64 → List (Option UInt64)
  | [] => []
  | now :: rest => (t.check now).1 :: answers (t.check now).2 rest

/-- Of the answers before number `k`, number `j` is the last one that lets its warning pass. -/
structure LastPassed (answers : List (Option UInt64)) (j k : Nat) : Prop where
  before : j < k
  passed : ∃ count, answers[j]? = some (some count)
  held : ∀ i, j < i → i < k → answers[i]? = some none

/-- What holds of a throttle with an interval in microseconds and of warnings at the given times. A
warning at time zero counts as one at time one, and one from before the last that passed as one that
comes at the same time as that. -/
structure SpacesAndCounts (interval : Nat) (t : Throttle) (times : List UInt64) : Prop where
  first : ∀ now, times[0]? = some now → (t.answers times)[0]? = some (some 0)
  exists_last : ∀ k, 0 < k → k ≤ times.length → ∃ j, LastPassed (t.answers times) j k
  held_iff : ∀ j k earlier now, LastPassed (t.answers times) j k →
    times[j]? = some earlier → times[k]? = some now →
    ((t.answers times)[k]? = some none ↔ now.toNat - max earlier.toNat 1 < interval)
  spaced : ∀ j k earlier now count, LastPassed (t.answers times) j k →
    times[j]? = some earlier → times[k]? = some now →
    (t.answers times)[k]? = some (some count) → 0 < interval →
    max earlier.toNat 1 + interval ≤ now.toNat
  reported : ∀ j k count, LastPassed (t.answers times) j k →
    (t.answers times)[k]? = some (some count) → count = .ofNat (k - j - 1)
  counted : ∀ n, UInt64.ofNat (((t.answers times).take n).count none) =
    (((t.answers times).take n).filterMap id).sum + (t.after (times.take n)).suppressed

variable {t : Throttle} {times : List UInt64} {now : UInt64} {told told' : List (Option UInt64)}
  {j j' k : Nat}

/-! ### One warning -/

lemma check_of_holdsBack (h : t.holdsBack now = true) :
    t.check now = (none, { t with suppressed := t.suppressed + 1 }) := if_pos h

lemma check_of_not_holdsBack (h : t.holdsBack now = false) :
    t.check now = (some t.suppressed, { t with last := max now 1, suppressed := 0 }) :=
  if_neg (Bool.eq_false_iff.mp h)

/-- Every warning that passes leaves a time behind that does not read as "never". -/
lemma toNat_max_one (time : UInt64) : (max time 1).toNat = max time.toNat 1 := by
  have hone : (1 : UInt64).toNat = 1 := rfl
  rw [UInt64.max_def]
  split
  · rename_i hle
    have hnat := UInt64.le_iff_toNat_le.mp hle
    omega
  · rename_i hlt
    have hnat : ¬ time.toNat ≤ (1 : UInt64).toNat := fun h => hlt (UInt64.le_iff_toNat_le.mpr h)
    omega

lemma max_one_ne_zero (time : UInt64) : max time 1 ≠ 0 := by
  intro h
  have hnat := congrArg UInt64.toNat h
  rw [toNat_max_one] at hnat
  have hzero : (0 : UInt64).toNat = 0 := rfl
  omega

lemma holdsBack_iff {time : UInt64} (hlast : t.last = max time 1) :
    t.holdsBack now = true ↔ now.toNat - max time.toNat 1 < t.interval.toNat := by
  unfold holdsBack
  rw [hlast, Bool.and_eq_true, bne_iff_ne, decide_eq_true_eq, UInt64.lt_iff_toNat_lt, toNat_since,
    toNat_max_one]
  exact and_iff_right (max_one_ne_zero time)

/-! ### All warnings -/

lemma after_concat (t : Throttle) (times : List UInt64) (now : UInt64) :
    t.after (times ++ [now]) = ((t.after times).check now).2 := by
  unfold after
  rw [List.foldl_append]
  rfl

lemma answers_concat (t : Throttle) (times : List UInt64) (now : UInt64) :
    t.answers (times ++ [now]) = t.answers times ++ [((t.after times).check now).1] := by
  induction times generalizing t with
  | nil => rfl
  | cons time times ih => exact congrArg (_ :: ·) (ih _)

lemma length_answers (t : Throttle) (times : List UInt64) :
    (t.answers times).length = times.length := by
  induction times generalizing t with
  | nil => rfl
  | cons time times ih => exact congrArg Nat.succ (ih _)

lemma answers_take (t : Throttle) (times : List UInt64) (n : Nat) :
    t.answers (times.take n) = (t.answers times).take n := by
  induction times generalizing t n with
  | nil => cases n <;> rfl
  | cons time times ih =>
    cases n with
    | zero => rfl
    | succ n => exact congrArg (_ :: ·) (ih _ n)

lemma answers_getElem? (t : Throttle) (hk : times[k]? = some now) :
    (t.answers times)[k]? = some ((t.after (times.take k)).check now).1 := by
  induction times generalizing t k with
  | nil => cases hk
  | cons time times ih =>
    cases k with
    | zero =>
      cases hk
      rfl
    | succ k => exact ih _ hk

/-- Which warning passed last depends on the answers so far only. -/
lemma LastPassed.congr (h : LastPassed told j k) (hsame : ∀ i < k, told'[i]? = told[i]?) :
    LastPassed told' j k := by
  refine ⟨h.before, ?_, fun i hji hik => ?_⟩
  · rw [hsame j h.before]
    exact h.passed
  · rw [hsame i hik]
    exact h.held i hji hik

lemma LastPassed.unique (h : LastPassed told j k) (h' : LastPassed told j' k) : j = j' := by
  by_contra hne
  rcases Nat.lt_or_gt_of_ne hne with hlt | hgt
  · obtain ⟨count, hpassed⟩ := h'.passed
    rw [h.held j' hlt h'.before] at hpassed
    cases hpassed
  · obtain ⟨count, hpassed⟩ := h.passed
    rw [h'.held j hgt h.before] at hpassed
    cases hpassed

/-- What a throttle remembers of the warnings so far: when number `j` came, which was the last one that
passed, and how many came after it. -/
structure Remembers (t : Throttle) (times : List UInt64) (j : Nat) (time : UInt64) : Prop where
  last : LastPassed (t.answers times) j times.length
  found : times[j]? = some time
  state : t.after times =
    { interval := t.interval, last := max time 1, suppressed := .ofNat (times.length - j - 1) }

/-- A warning that is held back is counted, and one that passes is remembered from then on. -/
lemma Remembers.concat {time : UInt64} (h : t.Remembers times j time) (now : UInt64) :
    ∃ j time, t.Remembers (times ++ [now]) j time := by
  have hj := h.last.before
  have hlength : (times ++ [now]).length = times.length + 1 := List.length_append
  have hanswer : (t.answers (times ++ [now]))[times.length]? =
      some ((t.after times).check now).1 := by
    rw [answers_concat, ← length_answers t times]
    exact List.getElem?_concat_length
  have hbefore : ∀ i < times.length, (t.answers (times ++ [now]))[i]? = (t.answers times)[i]? := by
    intro i hi
    rw [answers_concat]
    exact List.getElem?_append_left (by rwa [length_answers])
  cases hheld : (t.after times).holdsBack now with
  | true =>
    rw [check_of_holdsBack hheld] at hanswer
    have hlast := h.last.congr hbefore
    refine ⟨j, time, ⟨by omega, hlast.passed, fun i hji hi => ?_⟩, ?_, ?_⟩
    · rcases Nat.eq_or_lt_of_le (Nat.le_of_lt_succ (hlength ▸ hi)) with rfl | hlt
      · exact hanswer
      · exact hlast.held i hji hlt
    · rw [List.getElem?_append_left hj]
      exact h.found
    · have hcount : (times ++ [now]).length - j - 1 = times.length - j - 1 + 1 := by omega
      rw [after_concat, check_of_holdsBack hheld, h.state, hcount, UInt64.ofNat_add]
      rfl
  | false =>
    rw [check_of_not_holdsBack hheld] at hanswer
    refine ⟨times.length, now, ⟨by omega, ⟨_, hanswer⟩, fun i hi hi' => by omega⟩,
      List.getElem?_concat_length, ?_⟩
    have hcount : (times ++ [now]).length - times.length - 1 = 0 := by omega
    rw [after_concat, check_of_not_holdsBack hheld, h.state, hcount]
    rfl

/-- The first warning passes. -/
lemma check_new (interval : Duration) (now : UInt64) :
    (new interval).check now = (some 0, { new interval with last := max now 1 }) :=
  check_of_not_holdsBack rfl

lemma exists_remembers (interval : Duration) (hne : times ≠ []) :
    ∃ j time, (new interval).Remembers times j time := by
  induction times using List.reverseRecOn with
  | nil => exact absurd rfl hne
  | append_singleton times now ih =>
    cases times with
    | nil =>
      refine ⟨0, now, ⟨Nat.one_pos, ⟨0, ?_⟩, fun i hi hi' => ?_⟩, rfl, ?_⟩
      · exact congrArg some (congrArg Prod.fst (check_new interval now))
      · exact absurd hi' (Nat.not_lt.mpr hi)
      · exact congrArg Prod.snd (check_new interval now)
    | cons time times =>
      obtain ⟨j, time', h⟩ := ih (List.cons_ne_nil _ _)
      exact h.concat now

/-- What is remembered when a warning comes that is not the first one. -/
lemma exists_remembers_take (interval : Duration) (hpos : 0 < k) (hk : k ≤ times.length) :
    ∃ j time, LastPassed ((new interval).answers times) j k ∧ times[j]? = some time ∧
      (new interval).after (times.take k) =
        ⟨interval.micros, max time 1, .ofNat (k - j - 1)⟩ := by
  have hlength : (times.take k).length = k := List.length_take_of_le hk
  have hne : times.take k ≠ [] := List.ne_nil_of_length_pos (by omega)
  obtain ⟨j, time, hlast, hfound, hstate⟩ := exists_remembers interval hne
  rw [hlength] at hlast hstate
  refine ⟨j, time, hlast.congr fun i hi => ?_, ?_, hstate⟩
  · rw [answers_take, List.getElem?_take_of_lt hi]
  · rwa [List.getElem?_take_of_lt hlast.before] at hfound

/-- What a warning is told, by the last one before it that passed. -/
lemma answer_of_lastPassed {interval : Duration} {earlier : UInt64}
    (hlast : LastPassed ((new interval).answers times) j k) (hj : times[j]? = some earlier)
    (hk : times[k]? = some now) : ((new interval).answers times)[k]? =
      some (if now.toNat - max earlier.toNat 1 < interval.nanos / Duration.micro % UInt64.size
        then none else some (.ofNat (k - j - 1))) := by
  have hjk := hlast.before
  have hlt := (List.getElem?_eq_some_iff.mp hk).1
  obtain ⟨j', time, hlast', hfound, hstate⟩ :=
    exists_remembers_take interval (by omega : 0 < k) (Nat.le_of_lt hlt)
  obtain rfl := hlast'.unique hlast
  obtain rfl : earlier = time := Option.some.inj (hj.symm.trans hfound)
  have hmicros : interval.micros.toNat = interval.nanos / Duration.micro % UInt64.size :=
    UInt64.toNat_ofNat
  rw [answers_getElem? _ hk, hstate, ← hmicros]
  split
  · rename_i hearly
    rw [check_of_holdsBack ((holdsBack_iff rfl).mpr hearly)]
  · rename_i hlate
    rw [check_of_not_holdsBack (Bool.eq_false_iff.mpr (mt (holdsBack_iff rfl).mp hlate))]

/-- Held back, reported and still waiting, as the counter of 64 bits has it. -/
lemma counted_after (t : Throttle) (times : List UInt64) :
    UInt64.ofNat ((t.answers times).count none) + t.suppressed =
      ((t.answers times).filterMap id).sum + (t.after times).suppressed := by
  induction times generalizing t with
  | nil => rfl
  | cons now times ih =>
    have hrest := ih (t.check now).2
    unfold answers after
    rw [List.foldl_cons, ← after]
    cases hheld : t.holdsBack now with
    | true =>
      rw [check_of_holdsBack hheld] at hrest ⊢
      rw [List.count_cons_self, List.filterMap_cons_none (f := id) rfl, ← hrest, UInt64.ofNat_add,
        UInt64.add_assoc, UInt64.add_comm t.suppressed]
      rfl
    | false =>
      rw [check_of_not_holdsBack hheld] at hrest ⊢
      rw [UInt64.add_zero] at hrest
      rw [List.count_cons_of_ne (by simp), List.filterMap_cons_some (f := id) rfl, List.sum_cons,
        hrest, UInt64.add_comm, UInt64.add_assoc]

/-- However warnings come, they are spaced by the interval, whose microseconds are cut to 64 bits, and
those held back are counted. -/
theorem spaces_and_counts (interval : Duration) (times : List UInt64) :
    SpacesAndCounts (interval.nanos / Duration.micro % UInt64.size) (new interval) times where
  first now hnow := by
    rw [answers_getElem? _ hnow]
    exact congrArg some (congrArg Prod.fst (check_new interval now))
  exists_last k hpos hk := by
    obtain ⟨j, time, hlast, -, -⟩ := exists_remembers_take interval hpos hk
    exact ⟨j, hlast⟩
  held_iff j k earlier now hlast hj hk := by
    rw [answer_of_lastPassed hlast hj hk]
    split
    · rename_i hearly
      exact iff_of_true rfl hearly
    · rename_i hlate
      exact iff_of_false (by simp) hlate
  spaced j k earlier now count hlast hj hk hcount hpos := by
    rw [answer_of_lastPassed hlast hj hk] at hcount
    split at hcount
    · cases hcount
    · rename_i hlate
      omega
  reported j k count hlast hcount := by
    have hk : k < times.length := by
      rw [← length_answers (new interval) times]
      exact (List.getElem?_eq_some_iff.mp hcount).1
    have hj : j < times.length := Nat.lt_trans hlast.before hk
    rw [answer_of_lastPassed hlast (List.getElem?_eq_getElem hj) (List.getElem?_eq_getElem hk)]
      at hcount
    split at hcount
    · cases hcount
    · exact (Option.some.inj (Option.some.inj hcount)).symm
  counted n := by
    rw [← answers_take, ← counted_after, new, UInt64.add_zero]

example : (new (.ofSeconds 60)).answers [1000, 2000, 30000000, 61000001, 61000002] =
    [some 0, none, none, some 2, none] := by decide

end Throttle

end TracePipeline
