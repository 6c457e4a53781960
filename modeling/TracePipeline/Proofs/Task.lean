import Mathlib.Data.List.Basic
import TracePipeline.Ambient
import TracePipeline.Task

/-!
# What is current in a task

Wherever a poll has come to, on its way in or on its way out, the value that is current is the one that
the nearest layer carries at that place or outside of it. Where none does, it is the one from before the
poll, and that is current again after it. It does not matter which layers are left by then: a layer that
is finished is gone, and takes all layers inside of it along.
-/

namespace TracePipeline

namespace Layer

variable {α : Type}

/-- What is current at layer number `i`: the value of the nearest layer there or outside of it that
carries one, or what was current before. -/
def nearest (task : List (Layer α)) (current : Option α) (i : Nat) : Option α :=
  ((task.take (i + 1)).filterMap carried).getLast?.or current

/-- What the layers see one after another: all of them on the way in, from the outermost one on, and
all but the innermost one on the way out. -/
def passing (task : List (Layer α)) (current : Option α) : List (Option α) :=
  (List.range task.length).map (nearest task current) ++
    ((List.range (task.length - 1)).map (nearest task current)).reverse

/-- The layers that are left after `n` polls: those that still yield, up to the first that does not. -/
def left (task : List (Layer α)) (n : Nat) : List (Layer α) :=
  (task.takeWhile fun l => n ≤ l.yields).map fun l => { l with yields := l.yields - n }

/-- Polls a task until it is finished, each time with another value that is current before. -/
def pollEach : List (Layer α) → List (Option α) → List (Poll α)
  | _, [] => []
  | task, current :: more =>
    let p := poll task current
    p :: match p.rest with
      | none => []
      | some task => pollEach task more

/-- Attaches the value that a layer carries. -/
def enter (l : Layer α) (s : Ambient α) : Ambient α :=
  match l.carried with
  | none => s
  | some x => s.attach x

/-- Releases a guard if the layer took it. -/
def leave (l : Layer α) (guard : Nat) (s : Ambient α) : Ambient α :=
  if l.carried.isSome then s.release guard else s

/-- What the layers see in a poll in which each of them attaches what it carries before it polls the
one inside, and releases the guard after that; and the slot at the end. -/
def attaching : List (Layer α) → Ambient α → List (Option α) × Ambient α
  | [], s => ([], s)
  | l :: inner, s =>
    let entered := l.enter s
    let below := attaching inner entered
    let seen := if inner.isEmpty then [entered.current]
      else entered.current :: below.1 ++ [below.2.current]
    (seen, l.leave s.guards.length below.2)

/-- What holds of a task with an outermost layer that is polled several times, each time with some value
that is current before. -/
structure SeesNearest (outer : Layer α) (inner : List (Layer α)) (currents : List (Option α)) :
    Prop where
  polls : pollEach (outer :: inner) currents =
    (currents.take (outer.yields + 1)).mapIdx fun n current =>
      { seen := passing (left (outer :: inner) n) current
        rest := if n < outer.yields then some (left (outer :: inner) (n + 1)) else none
        current }
  runs : ∀ polls current, run polls (outer :: inner) current =
    (pollEach (outer :: inner) (List.replicate polls current)).map fun p => (p.seen, p.current)
  attaches : ∀ n s, attaching (left (outer :: inner) n) s =
    (passing (left (outer :: inner) n) s.current,
      { s with guards := s.guards ++ ((left (outer :: inner) n).filterMap carried).map fun _ => none })

variable {l : Layer α} {task inner : List (Layer α)} {current : Option α} {n : Nat}

/-! ### The way in and out -/

lemma nearest_zero (l : Layer α) (inner : List (Layer α)) (current : Option α) :
    nearest (l :: inner) current 0 = l.carried.or current := by
  unfold nearest
  cases h : l.carried with
  | none => simp [h]
  | some x => simp [h]

lemma nearest_succ (l : Layer α) (inner : List (Layer α)) (current : Option α) (i : Nat) :
    nearest (l :: inner) current (i + 1) = nearest inner (l.carried.or current) i := by
  unfold nearest
  rw [List.take_succ_cons]
  cases h : l.carried with
  | none => rw [List.filterMap_cons_none h, Option.none_or]
  | some x =>
    rw [List.filterMap_cons_some h, ← List.singleton_append, List.getLast?_append, Option.or_assoc]
    rfl

lemma passing_singleton (l : Layer α) (current : Option α) :
    passing [l] current = [l.carried.or current] := by
  rw [← nearest_zero l []]
  rfl

/-- A layer sees what it is entered with before and after the layers inside. -/
lemma passing_cons (l : Layer α) (hinner : inner ≠ []) (current : Option α) :
    passing (l :: inner) current =
      l.carried.or current :: passing inner (l.carried.or current) ++ [l.carried.or current] := by
  have hshift : nearest (l :: inner) current ∘ Nat.succ = nearest inner (l.carried.or current) :=
    funext (nearest_succ l inner current)
  have hrange : ∀ m, (List.range (m + 1)).map (nearest (l :: inner) current) =
      l.carried.or current :: (List.range m).map (nearest inner (l.carried.or current)) := by
    intro m
    rw [List.range_succ_eq_map, List.map_cons, List.map_map, hshift, nearest_zero]
  obtain ⟨m, hm⟩ : ∃ m, inner.length = m + 1 :=
    Nat.exists_eq_succ_of_ne_zero (mt List.length_eq_zero_iff.mp hinner)
  unfold passing
  rw [List.length_cons, Nat.add_sub_cancel, hrange, hm, Nat.add_sub_cancel, hrange m,
    List.reverse_cons, List.cons_append, List.cons_append, List.append_assoc]

/-! ### One poll -/

/-- Nothing leaks out of a poll. -/
lemma current_poll (task : List (Layer α)) (current : Option α) :
    (poll task current).current = current := by
  induction task generalizing current with
  | nil => rfl
  | cons l inner ih =>
    unfold poll
    cases h : l.carried with
    | none => exact ih _
    | some x => rfl

lemma seen_poll (task : List (Layer α)) (current : Option α) :
    (poll task current).seen = passing task current := by
  induction task generalizing current with
  | nil => rfl
  | cons l inner ih =>
    cases inner with
    | nil =>
      rw [passing_singleton]
      rfl
    | cons l' inner =>
      have hout := current_poll (l' :: inner) (l.carried.or current)
      rw [passing_cons l (List.cons_ne_nil l' inner), ← ih]
      nth_rewrite 3 [← hout]
      rfl

lemma left_cons (l : Layer α) (inner : List (Layer α)) (n : Nat) : left (l :: inner) n =
    if n ≤ l.yields then { l with yields := l.yields - n } :: left inner n else [] := by
  unfold left
  rw [List.takeWhile_cons]
  by_cases h : n ≤ l.yields
  · rw [if_pos h, decide_eq_true h]
    rfl
  · rw [if_neg h, decide_eq_false h]
    rfl

lemma left_zero (task : List (Layer α)) : left task 0 = task := by
  induction task with
  | nil => rfl
  | cons l inner ih => rw [left_cons, if_pos (Nat.zero_le _), ih, Nat.sub_zero]

lemma left_left (task : List (Layer α)) (m n : Nat) : left (left task m) n = left task (m + n) := by
  induction task with
  | nil => rfl
  | cons l inner ih =>
    rw [left_cons, left_cons]
    by_cases hm : m ≤ l.yields
    · rw [if_pos hm, left_cons, ih]
      by_cases hn : m + n ≤ l.yields
      · rw [if_pos hn, if_pos (by dsimp only; omega), Nat.sub_sub]
      · rw [if_neg hn, if_neg (by dsimp only; omega)]
    · rw [if_neg hm, if_neg (by omega)]
      rfl

/-- What is polled next does not depend on what is current. -/
lemma rest_poll (task : List (Layer α)) (current : Option α) :
    (poll task current).rest.getD [] = left task 1 := by
  induction task generalizing current with
  | nil => rfl
  | cons l inner ih =>
    rw [left_cons]
    unfold poll
    cases h : l.yields with
    | zero => rfl
    | succ n => exact congrArg (_ :: ·) (ih _)

/-- A task is finished when its outermost layer is. -/
lemma poll_cons (l : Layer α) (inner : List (Layer α)) (current : Option α) :
    poll (l :: inner) current =
      { seen := passing (l :: inner) current
        rest := if 0 < l.yields then some (left (l :: inner) 1) else none
        current } := by
  have hseen := seen_poll (l :: inner) current
  have hcurrent := current_poll (l :: inner) current
  have hrest : (poll (l :: inner) current).rest =
      if 0 < l.yields then some (left (l :: inner) 1) else none := by
    rw [← rest_poll (l :: inner) current]
    unfold poll
    cases h : l.yields with
    | zero => rfl
    | succ n => rfl
  cases hpoll : poll (l :: inner) current with
  | mk seen rest after =>
    rw [hpoll] at hseen hcurrent hrest
    rw [← hseen, ← hrest, ← hcurrent]

/-! ### All polls -/

lemma pollEach_eq (outer : Layer α) (inner : List (Layer α)) (currents : List (Option α)) :
    pollEach (outer :: inner) currents =
      (currents.take (outer.yields + 1)).mapIdx fun n current =>
        { seen := passing (left (outer :: inner) n) current
          rest := if n < outer.yields then some (left (outer :: inner) (n + 1)) else none
          current } := by
  induction currents generalizing outer inner with
  | nil => rfl
  | cons current currents ih =>
    unfold pollEach
    rw [List.take_succ_cons, List.mapIdx_cons, left_zero, poll_cons, Nat.zero_add]
    refine congrArg (_ :: ·) ?_
    by_cases hpos : 0 < outer.yields
    · -- the polls that follow are those of what the first one leaves
      have hleft : left (outer :: inner) 1 =
          { outer with yields := outer.yields - 1 } :: left inner 1 := by
        rw [left_cons, if_pos (Nat.succ_le_of_lt hpos)]
      rw [if_pos hpos]
      dsimp only
      rw [hleft, ih, ← hleft]
      dsimp only
      rw [Nat.sub_add_cancel hpos]
      congr 1
      funext n current
      have hlast : n < outer.yields - 1 ↔ n + 1 < outer.yields := by omega
      rw [left_left, left_left, Nat.add_comm 1 n, Nat.add_comm 1 (n + 1), if_congr hlast rfl rfl]
    · have hzero : outer.yields = 0 := by omega
      rw [if_neg hpos, hzero]
      rfl

lemma run_eq (polls : Nat) (task : List (Layer α)) (current : Option α) :
    run polls task current =
      (pollEach task (List.replicate polls current)).map fun p => (p.seen, p.current) := by
  induction polls generalizing task with
  | zero => rfl
  | succ polls ih =>
    unfold run
    dsimp only
    rw [current_poll, List.replicate_succ]
    unfold pollEach
    rw [List.map_cons, current_poll]
    refine congrArg (_ :: ·) ?_
    cases (poll task current).rest with
    | none => rfl
    | some task => exact ih task

/-! ### Guards -/

/-- A guard puts back what was current when it was taken, although later ones were released after it. -/
lemma release_attach (s : Ambient α) (x : α) (later : List (Option (Option α))) :
    Ambient.release { s.attach x with guards := (s.attach x).guards ++ later } s.guards.length =
      { s with guards := s.guards ++ none :: later } := by
  have hguards : (s.attach x).guards ++ later = s.guards ++ some s.current :: later :=
    (List.append_cons _ _ _).symm
  have hfound : (s.guards ++ some s.current :: later)[s.guards.length]? = some (some s.current) := by
    rw [List.getElem?_append_right (Nat.le_refl _), Nat.sub_self]
    rfl
  have hset : (s.guards ++ some s.current :: later).set s.guards.length none =
      s.guards ++ none :: later := by
    rw [List.set_append_right _ _ (Nat.le_refl _), Nat.sub_self]
    rfl
  unfold Ambient.release
  rw [hguards, hfound]
  exact congrArg (Ambient.mk s.current) hset

/-- The guards that layers take are all released in the end. -/
lemma attaching_eq (task : List (Layer α)) (s : Ambient α) :
    attaching task s = (passing task s.current,
      { s with guards := s.guards ++ (task.filterMap carried).map fun _ => none }) := by
  induction task generalizing s with
  | nil =>
    rw [List.filterMap_nil, List.map_nil, List.append_nil]
    rfl
  | cons l inner ih =>
    have hentered : (l.enter s).current = l.carried.or s.current := by
      unfold enter
      cases l.carried with
      | none => rfl
      | some x => rfl
    unfold attaching
    dsimp only
    rw [ih, hentered]
    refine Prod.ext ?_ ?_
    · cases inner with
      | nil => exact (passing_singleton l s.current).symm
      | cons l' inner => exact (passing_cons l (List.cons_ne_nil l' inner) s.current).symm
    · unfold leave enter
      cases h : l.carried with
      | none => rw [List.filterMap_cons_none h]; rfl
      | some x => rw [List.filterMap_cons_some h]; exact release_attach s x _

/-- Whatever is current before a poll, the layers see what the nearest of them carries, and the poll
leaves it as it was. -/
theorem sees_nearest (outer : Layer α) (inner : List (Layer α)) (currents : List (Option α)) :
    SeesNearest outer inner currents where
  polls := pollEach_eq outer inner currents
  runs polls current := run_eq polls (outer :: inner) current
  attaches n s := attaching_eq (left (outer :: inner) n) s

example : complete [⟨some 1, 1⟩, ⟨none, 0⟩, ⟨some 2, 3⟩] none =
    [([some 1, some 1, some 2, some 1, some 1], none), ([some 1], none)] := rfl

end Layer

end TracePipeline
