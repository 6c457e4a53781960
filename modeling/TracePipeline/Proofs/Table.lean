import Mathlib.Tactic.Lemma
import TracePipeline.Table

/-!
# Looking things up in tables

What each operation on a table does to the entry of every identity. Tables in which no identity has
two entries stay so.
-/

namespace TracePipeline

namespace Table

variable {α : Type}

/-- No identity has two entries. -/
def Distinct (t : Table α) : Prop := (t.map Prod.fst).Nodup

lemma distinct_nil : Distinct ([] : Table α) := List.nodup_nil

lemma distinct_cons {j : Identity} {x : α} {t : Table α} :
    Distinct ((j, x) :: t) ↔ (∀ y, (j, y) ∉ t) ∧ Distinct t := by
  simp [Distinct]

lemma Distinct.filter {t : Table α} (h : t.Distinct) (p : Identity × α → Bool) :
    Distinct (t.filter p) :=
  h.sublist (List.filter_sublist.map Prod.fst)

lemma Distinct.map {β : Type} {t : Table α} (h : t.Distinct) (f : α → β) :
    Distinct (t.map fun e => (e.1, f e.2)) := by
  simpa [Distinct, Function.comp_def] using h

lemma mem_of_get? {t : Table α} {i : Identity} {x : α} (h : t.get? i = some x) : (i, x) ∈ t := by
  induction t with
  | nil => simp [get?] at h
  | cons e t ih =>
    obtain ⟨j, y⟩ := e
    rw [get?] at h
    split at h
    · rename_i hj
      cases h
      rw [hj]
      exact List.mem_cons_self
    · exact List.mem_cons_of_mem _ (ih h)

lemma get?_of_mem {t : Table α} (ht : t.Distinct) {i : Identity} {x : α} (h : (i, x) ∈ t) :
    t.get? i = some x := by
  induction t with
  | nil => simp at h
  | cons e t ih =>
    obtain ⟨j, y⟩ := e
    obtain ⟨hj, ht⟩ := distinct_cons.mp ht
    rcases List.mem_cons.mp h with he | hm
    · cases he
      simp [get?]
    · have hne : j ≠ i := by
        rintro rfl
        exact hj x hm
      rw [get?, if_neg hne]
      exact ih ht hm

lemma mem_iff_get? {t : Table α} (ht : t.Distinct) {i : Identity} {x : α} :
    (i, x) ∈ t ↔ t.get? i = some x :=
  ⟨get?_of_mem ht, mem_of_get?⟩

lemma get?_eq_none_iff {t : Table α} {i : Identity} : t.get? i = none ↔ ∀ x, (i, x) ∉ t := by
  induction t with
  | nil => simp [get?]
  | cons e t ih =>
    obtain ⟨j, y⟩ := e
    by_cases hj : j = i
    · subst hj
      simp only [get?, if_pos, reduceCtorEq, false_iff]
      exact fun h => h y List.mem_cons_self
    · have hij : ¬i = j := fun h => hj h.symm
      simp [get?, hj, hij, ih]

lemma get?_filter {t : Table α} (ht : t.Distinct) (p : Identity × α → Bool) (i : Identity) :
    get? (t.filter p) i = (t.get? i).filter fun x => p (i, x) := by
  cases h : t.get? i with
  | none =>
    rw [Option.filter_none, get?_eq_none_iff]
    intro x hx
    exact get?_eq_none_iff.mp h x (List.mem_filter.mp hx).1
  | some x =>
    have hm := mem_of_get? h
    by_cases hp : p (i, x) = true
    · rw [get?_of_mem (ht.filter p) (List.mem_filter.mpr ⟨hm, hp⟩)]
      simp [Option.filter, hp]
    · have hn : get? (t.filter p) i = none := by
        rw [get?_eq_none_iff]
        intro y hy
        have hxy := get?_of_mem ht (List.mem_filter.mp hy).1
        rw [h] at hxy
        cases hxy
        exact hp (List.mem_filter.mp hy).2
      rw [hn]
      simp [Option.filter, hp]

lemma get?_map {β : Type} (t : Table α) (f : α → β) (i : Identity) :
    get? (t.map fun e => (e.1, f e.2)) i = (t.get? i).map f := by
  induction t with
  | nil => rfl
  | cons e t ih =>
    obtain ⟨j, y⟩ := e
    by_cases hj : j = i <;> simp [get?, hj, ih]

lemma get?_without (t : Table α) (i j : Identity) :
    (t.without i).get? j = if j = i then none else t.get? j := by
  induction t with
  | nil => simp [without, get?]
  | cons e t ih =>
    obtain ⟨k, y⟩ := e
    simp only [without] at ih
    by_cases hk : k = i <;> by_cases hj : j = i <;> by_cases hkj : k = j <;>
      simp_all [without, get?]

@[simp] lemma get?_without_self (t : Table α) (i : Identity) : (t.without i).get? i = none := by
  simp [get?_without]

lemma get?_put (t : Table α) (i j : Identity) (x : α) :
    (t.put i x).get? j = if j = i then some x else t.get? j := by
  by_cases hj : j = i
  · simp [put, get?, hj]
  · have hij : ¬i = j := fun h => hj h.symm
    simp [put, get?, hj, hij, get?_without]

@[simp] lemma get?_put_self (t : Table α) (i : Identity) (x : α) :
    (t.put i x).get? i = some x := by
  simp [get?_put]

lemma Distinct.without {t : Table α} (h : t.Distinct) (i : Identity) : (t.without i).Distinct :=
  h.filter _

lemma Distinct.put {t : Table α} (h : t.Distinct) (i : Identity) (x : α) :
    (t.put i x).Distinct := by
  refine distinct_cons.mpr ⟨fun y => ?_, h.without i⟩
  exact get?_eq_none_iff.mp (get?_without_self t i) y

lemma Distinct.putAll {t : Table α} (h : t.Distinct) (entries : List (Identity × α)) :
    (t.putAll entries).Distinct := by
  induction entries generalizing t with
  | nil => exact h
  | cons e rest ih => exact ih (h.put e.1 e.2)

/-- Of the entries put in and those that were there before, the former count. -/
lemma get?_putAll (t : Table α) {entries : List (Identity × α)} (he : Distinct entries)
    (i : Identity) : (t.putAll entries).get? i = (get? entries i).or (t.get? i) := by
  induction entries generalizing t with
  | nil => rfl
  | cons e rest ih =>
    obtain ⟨j, x⟩ := e
    obtain ⟨hj, hr⟩ := distinct_cons.mp he
    change ((t.put j x).putAll rest).get? i = _
    rw [ih (t.put j x) hr, get?_put]
    by_cases hij : i = j
    · subst hij
      simp [get?, get?_eq_none_iff.mpr hj]
    · have hji : ¬j = i := fun h => hij h.symm
      simp [get?, hij, hji]

lemma without_of_get?_eq_none {t : Table α} {i : Identity} (h : t.get? i = none) :
    t.without i = t := by
  refine List.filter_eq_self.mpr fun e he => ?_
  have hne : e.1 ≠ i := fun hk => get?_eq_none_iff.mp h e.2 (by rw [← hk]; exact he)
  simpa using hne

lemma perm_cons_without {t : Table α} (ht : t.Distinct) {i : Identity} {x : α}
    (h : t.get? i = some x) : List.Perm t ((i, x) :: t.without i) := by
  induction t with
  | nil => simp [get?] at h
  | cons e t ih =>
    obtain ⟨j, y⟩ := e
    obtain ⟨hj, ht⟩ := distinct_cons.mp ht
    by_cases hij : j = i
    · subst hij
      have hw : without ((j, y) :: t) j = t := by
        have := without_of_get?_eq_none (get?_eq_none_iff.mpr hj)
        simpa [without] using this
      rw [get?, if_pos rfl] at h
      cases h
      rw [hw]
    · rw [get?, if_neg hij] at h
      have hw : without ((j, y) :: t) i = (j, y) :: without t i := by
        simp [without, hij]
      rw [hw]
      exact ((ih ht h).cons _).trans (List.Perm.swap _ _ _)

end Table

end TracePipeline
