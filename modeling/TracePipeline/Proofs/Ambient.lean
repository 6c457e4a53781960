import Mathlib.Data.List.Basic
import Mathlib.Data.List.Induction
import TracePipeline.Ambient

/-!
# Guards as a stack

The values that are attached inside of each other are stored nowhere: each guard remembers only what was
current when it was taken. As long as the newest guard is always the first to be released, these memories
make up a stack. In any other order a guard still puts back what it remembers.
-/

namespace TracePipeline

namespace Ambient

/-- What may be done with the slot. Guards are numbered in the order in which they are taken. -/
inductive Step (α : Type) where
  | attach (x : α)
  | release (guard : Nat)
  | look

variable {α : Type}

def step (s : Ambient α) : Step α → Ambient α
  | .attach x => s.attach x
  | .release guard => s.release guard
  | .look => s

/-- The slot after some steps. -/
def after (s : Ambient α) (steps : List (Step α)) : Ambient α := steps.foldl step s

/-- Keeps the number of the next guard, and the guards that are held, newest first, each with the value
that was attached when it was taken. -/
def hold : Nat × List (Nat × α) → Step α → Nat × List (Nat × α)
  | (next, held), .attach x => (next + 1, (next, x) :: held)
  | (next, held), .release guard => (next, held.filter (·.1 != guard))
  | kept, .look => kept

/-- The number of the next guard and the guards that are held after some steps, the first of whose guards
has the given number. -/
def holding (first : Nat) (steps : List (Step α)) : Nat × List (Nat × α) :=
  steps.foldl hold (first, [])

/-- The guards that were taken in some steps and not released in them. -/
def held (first : Nat) (steps : List (Step α)) : List (Nat × α) := (holding first steps).2

/-- Guards are released in the reverse order in which they were taken: each one is the newest that is held
when its turn comes. -/
def NewestFirst (first : Nat) (steps : List (Step α)) : Prop :=
  ∀ n guard, steps[n]? = some (.release guard) →
    (held first (steps.take n)).head?.map Prod.fst = some guard

/-- The value that came with the newest guard that is held, or the one from before all guards. -/
def newest (before : Option α) (held : List (Nat × α)) : Option α :=
  (held.head?.map Prod.snd).or before

/-- What holds of a slot and steps on it. -/
structure Stacks (s : Ambient α) (steps : List (Step α)) : Prop where
  current : NewestFirst s.guards.length steps → ∀ n, (s.after (steps.take n)).current =
    newest s.current (held s.guards.length (steps.take n))
  nested : ∀ before piece rest, steps = before ++ piece ++ rest →
    NewestFirst (s.after before).guards.length piece →
    held (s.after before).guards.length piece = [] →
    (s.after (before ++ piece)).current = (s.after before).current
  restores : ∀ before x between guard rest,
    steps = before ++ .attach x :: between ++ .release guard :: rest →
    guard = (s.after before).guards.length → .release guard ∉ between →
    (s.after (before ++ .attach x :: between ++ [.release guard])).current =
      (s.after before).current

variable {s : Ambient α} {steps : List (Step α)} {base previous : Option α} {guard : Nat}
  {guards guards' : List (Option (Option α))} {inUse : List (Nat × α)}

/-! ### Guards -/

lemma after_append (s : Ambient α) (steps more : List (Step α)) :
    s.after (steps ++ more) = (s.after steps).after more := List.foldl_append

lemma after_concat (s : Ambient α) (steps : List (Step α)) (a : Step α) :
    s.after (steps ++ [a]) = (s.after steps).step a := by
  rw [after_append]
  rfl

lemma holding_concat (first : Nat) (steps : List (Step α)) (a : Step α) :
    holding first (steps ++ [a]) = hold (holding first steps) a := by
  unfold holding
  rw [List.foldl_append]
  rfl

lemma step_release (h : s.guards[guard]? = some (some previous)) :
    s.step (.release guard) = { current := previous, guards := s.guards.set guard none } := by
  unfold step release
  dsimp only
  rw [h]

/-- A guard remembers the same until it is released. -/
lemma remembers_step (h : s.guards[guard]? = some (some previous)) {a : Step α}
    (ha : a ≠ .release guard) : (s.step a).guards[guard]? = some (some previous) := by
  cases a with
  | attach x =>
    have hlt := (List.getElem?_eq_some_iff.mp h).1
    exact (List.getElem?_append_left hlt).trans h
  | look => exact h
  | release other =>
    have hne : other ≠ guard := by
      rintro rfl
      exact ha rfl
    unfold step release
    dsimp only
    split
    · exact (List.getElem?_set_ne hne).trans h
    · exact h

lemma remembers_after (h : s.guards[guard]? = some (some previous)) (hkept : .release guard ∉ steps) :
    (s.after steps).guards[guard]? = some (some previous) := by
  induction steps using List.reverseRecOn with
  | nil => exact h
  | append_singleton steps a ih =>
    rw [after_concat]
    apply remembers_step
    · exact ih fun hmem => hkept (List.mem_append_left _ hmem)
    · rintro rfl
      exact hkept List.mem_concat_self

lemma remembers_attach (s : Ambient α) (x : α) :
    (s.attach x).guards[s.guards.length]? = some (some s.current) := List.getElem?_concat_length

/-- A guard puts back what was current when it was taken, whatever was done with other guards. -/
lemma current_released (s : Ambient α) (x : α) {between : List (Step α)}
    (hkept : .release s.guards.length ∉ between) :
    (s.after (.attach x :: between ++ [.release s.guards.length])).current = s.current := by
  have hguard : (s.after (.attach x :: between)).guards[s.guards.length]? = some (some s.current) :=
    remembers_after (s := s.attach x) (remembers_attach s x) hkept
  rw [after_concat, step_release hguard]

/-! ### The stack -/

/-- What the guards in use remember, newest first: each the value that came with the guard before it, and
the oldest one what was there before all of them. -/
inductive Chained (base : Option α) (guards : List (Option (Option α))) : List (Nat × α) → Prop where
  | nil : Chained base guards []
  | cons (guard : Nat) (x : α) (inUse : List (Nat × α)) :
      guards[guard]? = some (some (newest base inUse)) → (∀ e ∈ inUse, e.1 < guard) →
      Chained base guards inUse → Chained base guards ((guard, x) :: inUse)

lemma Chained.congr (h : Chained base guards inUse)
    (hsame : ∀ e ∈ inUse, guards'[e.1]? = guards[e.1]?) : Chained base guards' inUse := by
  induction h with
  | nil => exact .nil
  | cons guard x inUse hguard holder hchain ih =>
    obtain ⟨hhead, htail⟩ := List.forall_mem_cons.mp hsame
    exact .cons guard x inUse (hhead.trans hguard) holder (ih htail)

lemma Chained.lt_length (h : Chained base guards inUse) : ∀ e ∈ inUse, e.1 < guards.length := by
  induction h with
  | nil => exact List.forall_mem_nil _
  | cons guard x inUse hguard holder hchain ih =>
    exact List.forall_mem_cons.mpr ⟨(List.getElem?_eq_some_iff.mp hguard).1, ih⟩

lemma Chained.attach (h : Chained base guards inUse) (x : α) :
    Chained base (guards ++ [some (newest base inUse)]) ((guards.length, x) :: inUse) := by
  refine .cons _ x inUse List.getElem?_concat_length h.lt_length ?_
  apply h.congr
  intro e he
  exact List.getElem?_append_left (h.lt_length e he)

/-- The newest guard can be told from the others by its number. -/
lemma Chained.release {x : α} (h : Chained base guards ((guard, x) :: inUse)) :
    guards[guard]? = some (some (newest base inUse)) ∧
      ((guard, x) :: inUse).filter (·.1 != guard) = inUse ∧
      Chained base (guards.set guard none) inUse := by
  cases h with
  | cons _ _ _ hguard holder hchain =>
    refine ⟨hguard, ?_, ?_⟩
    · rw [List.filter_cons_of_neg (by simp), List.filter_eq_self]
      intro e he
      exact bne_iff_ne.mpr (Nat.ne_of_lt (holder e he))
    · apply hchain.congr
      intro e he
      exact List.getElem?_set_ne (Nat.ne_of_gt (holder e he))

/-- The state of a slot whose guards were released newest first. -/
structure Stands (s : Ambient α) (steps : List (Step α)) : Prop where
  next : (holding s.guards.length steps).1 = (s.after steps).guards.length
  current : (s.after steps).current = newest s.current (held s.guards.length steps)
  chained : Chained s.current (s.after steps).guards (held s.guards.length steps)

lemma Stands.attach (h : Stands s steps) (x : α) : Stands s (steps ++ [.attach x]) where
  next := by
    have hlength : ((s.after steps).step (.attach x)).guards.length =
        (s.after steps).guards.length + 1 := List.length_append
    rw [holding_concat, after_concat, hlength, ← h.next]
    rfl
  current := by
    unfold held
    rw [holding_concat, after_concat]
    rfl
  chained := by
    have hchain := h.chained.attach x
    unfold held
    rw [holding_concat, after_concat]
    rw [← h.current, ← h.next] at hchain
    exact hchain

lemma Stands.look (h : Stands s steps) : Stands s (steps ++ [.look]) where
  next := by
    rw [holding_concat, after_concat]
    exact h.next
  current := by
    unfold held
    rw [holding_concat, after_concat]
    exact h.current
  chained := by
    unfold held
    rw [holding_concat, after_concat]
    exact h.chained

lemma Stands.release (h : Stands s steps)
    (hnewest : (held s.guards.length steps).head?.map Prod.fst = some guard) :
    Stands s (steps ++ [.release guard]) := by
  obtain ⟨e, hhead, rfl⟩ := Option.map_eq_some_iff.mp hnewest
  obtain ⟨inUse, hheld⟩ : ∃ inUse, held s.guards.length steps = e :: inUse :=
    ⟨_, List.eq_cons_of_mem_head? hhead⟩
  have hchained := h.chained
  rw [hheld] at hchained
  obtain ⟨hguard, hfilter, hchain⟩ := hchained.release
  have hheld' : held s.guards.length (steps ++ [.release e.1]) = inUse := by
    unfold held at hheld ⊢
    rw [holding_concat, ← hfilter, ← hheld]
    rfl
  constructor
  · rw [holding_concat, after_concat, step_release hguard, List.length_set]
    exact h.next
  · rw [hheld', after_concat, step_release hguard]
  · rw [hheld', after_concat, step_release hguard]
    exact hchain

lemma NewestFirst.take {first : Nat} (h : NewestFirst first steps) (n : Nat) :
    NewestFirst first (steps.take n) := by
  intro k guard hk
  have hlt : k < n := by
    have hlength := (List.getElem?_eq_some_iff.mp hk).1
    rw [List.length_take] at hlength
    omega
  rw [List.getElem?_take_of_lt hlt] at hk
  rw [List.take_take, Nat.min_eq_left (Nat.le_of_lt hlt)]
  exact h k guard hk

lemma stands (h : NewestFirst s.guards.length steps) : Stands s steps := by
  induction steps using List.reverseRecOn with
  | nil => exact ⟨rfl, rfl, .nil⟩
  | append_singleton steps a ih =>
    have hsteps := h.take steps.length
    rw [List.take_left] at hsteps
    have hstands := ih hsteps
    cases a with
    | attach x => exact hstands.attach x
    | look => exact hstands.look
    | release guard =>
      apply hstands.release
      have hnewest := h steps.length guard List.getElem?_concat_length
      rw [List.take_left] at hnewest
      exact hnewest

lemma makes_stack (s : Ambient α) (steps : List (Step α)) : Stacks s steps where
  current h n := (stands (h.take n)).current
  nested before piece rest _ hpiece hnone := by
    rw [after_append, (stands hpiece).current, hnone]
    rfl
  restores before x between guard rest _ hguard hkept := by
    subst hguard
    rw [List.append_assoc, after_append]
    exact current_released (s.after before) x hkept

/-- If the oldest guard goes first, what came with it is current again at the end. -/
example : ((⟨none, []⟩ : Ambient Nat).after
    [.attach 1, .attach 2, .release 0, .release 1]).current = some 1 := rfl

end Ambient

end TracePipeline
