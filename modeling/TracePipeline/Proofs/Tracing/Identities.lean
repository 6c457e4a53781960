import Mathlib.Logic.Relation
import TracePipeline.Proofs.IdSource
import TracePipeline.Proofs.Tracing.Steps

/-!
# Identities of derived traces

A trace has one identity for good. What is derived from it belongs to the same trace, and a child
has a span id that differs from its parent's. This holds whatever ids come, so it is stated for
turns that each have ids of their own: however a generator makes its ids, those that it yields while
a step lasts are some source of ids. If the ids are consecutive, every new span has one that no
other new span has.
-/

namespace TracePipeline

namespace Tracing

/-- A step, with the ids that it finds and the width of the trace ids that its tracer makes. -/
structure Turn where
  wide : Bool
  ids : IdSource
  looseIds : IdSource
  step : Step

/-- The program as a turn finds it. -/
def supplied (s : Tracing) (x : Turn) : Tracing :=
  { s with wide := x.wide, ids := x.ids, looseIds := x.looseIds }

def turn (s : Tracing) (x : Turn) : Tracing := (s.supplied x).next x.step

def afterTurns (s : Tracing) (turns : List Turn) : Tracing := turns.foldl turn s

/-- The identities of all traces, in the order in which the traces were made. -/
def identities (s : Tracing) : List Identity := s.traces.map Trace.identity

/-- At one of the turns, trace `b` is made as a child or a clone of trace `a`. -/
def Derives (s : Tracing) (turns : List Turn) (a b : Nat) : Prop :=
  ∃ earlier x later, turns = earlier ++ x :: later ∧ (x.step = .child a ∨ x.step = .clone a) ∧
    a < (s.afterTurns earlier).traces.length ∧ b = (s.afterTurns earlier).traces.length

/-- What holds of the identities in a program that has made any traces, whatever ids it finds. -/
structure KeepsIdentities (s : Tracing) : Prop where
  kept : ∀ turns (slot : Nat) i, s.identities[slot]? = some i →
    (s.afterTurns turns).identities[slot]? = some i
  shared : ∀ turns (a b : Nat) i, Relation.ReflTransGen (s.Derives turns) a b →
    (s.afterTurns turns).identities[a]? = some i →
      ∃ j, (s.afterTurns turns).identities[b]? = some j ∧ j.traceHigh = i.traceHigh ∧
        j.trace = i.trace
  child : ∀ (slot : Nat) t, s.traces[slot]? = some t → ∃ skipped id rest,
    (s.idsOf t.route).drawMany (skipped + 1) =
      (List.replicate skipped t.identity.span ++ [id], rest) ∧ id ≠ t.identity.span ∧
    s.next (.child slot) = (s.setIds t.route rest).add
      ⟨⟨t.identity.traceHigh, t.identity.trace, some t.identity.span, id⟩, t.flags, t.route⟩
  ends : ∀ (slot : Nat) t, s.traces[slot]? = some t → ∀ n id ids last, id ≠ t.identity.span →
    (s.setIds t.route (.listed (List.replicate n t.identity.span ++ id :: ids) last)).next
        (.child slot) =
      (s.setIds t.route (.listed ids last)).add
        ⟨⟨t.identity.traceHigh, t.identity.trace, some t.identity.span, id⟩, t.flags, t.route⟩

/-- The turn of a step that finds the ids which the steps before it left. -/
def resumed (s : Tracing) (x : Bool × Step) : Turn := ⟨x.1, s.ids, s.looseIds, x.2⟩

/-- The program after several steps, each by a tracer of a certain width of trace ids. -/
def afterWide (s : Tracing) (steps : List (Bool × Step)) : Tracing :=
  steps.foldl (fun s x => s.turn (s.resumed x)) s

/-- How many ids of the pipeline a step draws. -/
def draws (s : Tracing) : Step → Nat
  | .start .pipeline => if s.wide then 3 else 2
  | .child slot =>
    match s.traces[slot]? with
    | some ⟨i, _, .pipeline⟩ => s.ids.searched i.span
    | _ => 0
  | _ => 0

/-- A step makes a new root or a child in the pipeline. -/
def isFresh (s : Tracing) : Step → Bool
  | .start route => leads route
  | .child slot => s.traces[slot]?.any fun t => leads t.route
  | _ => false

/-- The span id that a step gives to a new root or a child in the pipeline. -/
def gives (s : Tracing) (x : Step) : Option UInt64 :=
  if s.isFresh x then (s.next x).identities.getLast?.map Identity.span else none

/-- How many ids of the pipeline several steps draw. -/
def drawn (s : Tracing) : List (Bool × Step) → Nat
  | [] => 0
  | x :: rest => (s.supplied (s.resumed x)).draws x.2 + (s.turn (s.resumed x)).drawn rest

/-- The span ids that several steps give. -/
def given (s : Tracing) : List (Bool × Step) → List UInt64
  | [] => []
  | x :: rest =>
    ((s.supplied (s.resumed x)).gives x.2).toList ++ (s.turn (s.resumed x)).given rest

/-- What holds of several steps of a program whose ids are consecutive, and of the program `s` after
them. -/
structure NumbersSpans (steps : List (Bool × Step)) (start s : Tracing) : Prop where
  counted : s.ids = (start.ids.drawMany (start.drawn steps)).2
  child : ∀ (slot : Nat) t, s.traces[slot]? = some t → t.route = .pipeline → ∃ skipped id,
    skipped ≤ 1 ∧ s.ids.drawMany (skipped + 1) =
      (List.replicate skipped t.identity.span ++ [id], (s.next (.child slot)).ids)
  distinct : start.drawn steps < UInt64.size → (start.given steps).Nodup

variable {s : Tracing} {t u : Trace} {x : Step} {slot : Nat} {i : Identity} {turns : List Turn}
  {a b : Nat}

@[simp] lemma identities_setIds (s : Tracing) (route : Route) (ids : IdSource) :
    (s.setIds route ids).identities = s.identities := by
  rw [identities, traces_setIds]
  rfl

lemma identities_add (s : Tracing) (t : Trace) :
    (s.add t).identities = s.identities ++ [t.identity] := by
  rw [identities, traces_add, List.map_append]
  rfl

lemma identity_decideSampling (t : Trace) (sampler : Option Oracle) :
    (t.decideSampling sampler).1.identity = t.identity := by
  unfold Trace.decideSampling
  split <;> rfl

lemma identities_wrap (s : Tracing) (route : Route) (i : Identity) (f : Flags) :
    (s.wrap route i f).2.identities = s.identities ++ [i] := by
  have hmade : (s.wrap route i f).1.identity = i := identity_decideSampling ⟨i, f, route⟩ _
  rw [identities, traces_wrap, List.map_append, List.map_singleton, hmade]
  rfl

lemma map_set (h : s.traces[slot]? = some t) (hu : u.identity = t.identity) :
    (s.traces.set slot u).map Trace.identity = s.identities := by
  rw [List.map_set, hu, ← List.map_set, set_self h]
  rfl

lemma identities_start (s : Tracing) (route : Route) :
    (s.next (.start route)).identities = s.identities ++ [(s.root route).1] := by
  rw [next_start, identities_wrap, identities_setIds]

lemma identities_child (h : s.traces[slot]? = some t) :
    (s.next (.child slot)).identities = s.identities ++ [(s.derive t).1.identity] := by
  rw [next_child h, derive, identities_add, identities_setIds]

lemma identities_clone (h : s.traces[slot]? = some t) :
    (s.next (.clone slot)).identities = s.identities ++ [t.identity] := by
  rw [next_clone h, identities_add]

lemma identities_force (h : s.traces[slot]? = some t) :
    (s.next (.force slot)).identities = s.identities := by
  rw [next_force h]
  exact map_set h rfl

lemma identities_decide (h : s.traces[slot]? = some t) :
    (s.next (.decide slot)).identities = s.identities := by
  have hnext : (s.next (.decide slot)).traces =
      s.traces.set slot (t.decideSampling (s.samplerOf t.route)).1 := by
    simp [next, step, h]
  rw [identities, hnext]
  exact map_set h (identity_decideSampling t _)

/-- A step on a trace adds an identity at most. -/
lemma identities_prefix_on (hx : x.on? = some slot) (h : s.traces[slot]? = some t) :
    s.identities <+: (s.next x).identities := by
  cases x with
  | start _ | wrap _ _ _ => cases hx
  | child _ =>
    cases hx
    exact ⟨_, (identities_child h).symm⟩
  | clone _ =>
    cases hx
    exact ⟨_, (identities_clone h).symm⟩
  | force _ =>
    cases hx
    exact ⟨[], by rw [identities_force h, List.append_nil]⟩
  | decide _ =>
    cases hx
    exact ⟨[], by rw [identities_decide h, List.append_nil]⟩
  | record _ mark timestamp => exact ⟨[], by rw [next_record, List.append_nil]⟩

theorem identities_prefix_next (s : Tracing) (x : Step) :
    s.identities <+: (s.next x).identities := by
  cases x with
  | start route => exact ⟨_, (identities_start s route).symm⟩
  | wrap route i f => exact ⟨_, (identities_wrap s route i f).symm⟩
  | child slot | clone slot | force slot | decide slot | record slot _ _ =>
    cases h : s.traces[slot]? with
    | none => exact ⟨[], by rw [next_missing rfl h, List.append_nil]⟩
    | some t => exact identities_prefix_on rfl h

theorem identities_prefix_afterTurns (s : Tracing) (turns : List Turn) :
    s.identities <+: (s.afterTurns turns).identities := by
  induction turns generalizing s with
  | nil => exact List.prefix_rfl
  | cons x turns ih => exact (identities_prefix_next (s.supplied x) x.step).trans (ih (s.turn x))

/-- The identity of a trace stays, whatever the program does. -/
theorem identity_kept (turns : List Turn) (h : s.identities[slot]? = some i) :
    (s.afterTurns turns).identities[slot]? = some i := by
  obtain ⟨hlt, rfl⟩ := List.getElem?_eq_some_iff.mp h
  exact List.prefix_iff_getElem?.mp (identities_prefix_afterTurns s turns) slot hlt

/-- What a child or a clone is made with. -/
lemma identity_of_derived (hx : x = .child slot ∨ x = .clone slot)
    (h : s.traces[slot]? = some t) :
    ∃ j, (s.next x).identities[s.traces.length]? = some j ∧
      j.traceHigh = t.identity.traceHigh ∧ j.trace = t.identity.trace := by
  have hlength : s.traces.length = s.identities.length := (List.length_map _).symm
  rcases hx with rfl | rfl
  · refine ⟨(s.derive t).1.identity, ?_, rfl, rfl⟩
    rw [identities_child h, hlength, List.getElem?_concat_length]
  · refine ⟨t.identity, ?_, rfl, rfl⟩
    rw [identities_clone h, hlength, List.getElem?_concat_length]

/-- What is derived at a turn has the trace id of its source, then and for good. -/
lemma shared_of_derives (hderives : s.Derives turns a b)
    (ha : (s.afterTurns turns).identities[a]? = some i) :
    ∃ j, (s.afterTurns turns).identities[b]? = some j ∧ j.traceHigh = i.traceHigh ∧
      j.trace = i.trace := by
  obtain ⟨earlier, x, later, rfl, hx, hlt, rfl⟩ := hderives
  have hrun : s.afterTurns (earlier ++ x :: later) =
      (s.afterTurns earlier).afterTurns (x :: later) := List.foldl_append
  rw [hrun] at ha ⊢
  generalize s.afterTurns earlier = before at ha hlt
  have hslot : (before.supplied x).traces[a]? = some before.traces[a] :=
    List.getElem?_eq_getElem hlt
  have hsource : before.identities[a]? = some before.traces[a].identity := by
    rw [identities, List.getElem?_map, List.getElem?_eq_getElem hlt]
    rfl
  obtain ⟨j, hmade, hshared⟩ := identity_of_derived hx hslot
  cases ha.symm.trans (identity_kept (x :: later) hsource)
  exact ⟨j, identity_kept later hmade, hshared⟩

/-- All that is derived in a chain has the trace id of where the chain starts. -/
theorem shared_of_chain (hchain : Relation.ReflTransGen (s.Derives turns) a b)
    (ha : (s.afterTurns turns).identities[a]? = some i) :
    ∃ j, (s.afterTurns turns).identities[b]? = some j ∧ j.traceHigh = i.traceHigh ∧
      j.trace = i.trace := by
  induction hchain with
  | refl => exact ⟨i, ha, rfl, rfl⟩
  | tail _ hderives ih =>
    obtain ⟨j, hj, hhigh, htrace⟩ := ih
    obtain ⟨k, hk, hhigh', htrace'⟩ := shared_of_derives hderives hj
    exact ⟨k, hk, hhigh'.trans hhigh, htrace'.trans htrace⟩

/-- So all traces of a chain are told by their correlation id to belong together. -/
theorem correlationId_of_chain (hchain : Relation.ReflTransGen (s.Derives turns) a b)
    (ha : (s.afterTurns turns).traces[a]? = some t) :
    ∃ u, (s.afterTurns turns).traces[b]? = some u ∧ u.correlationId = t.correlationId := by
  have hsource : (s.afterTurns turns).identities[a]? = some t.identity := by
    rw [identities, List.getElem?_map, ha]
    rfl
  obtain ⟨j, hj, -, htrace⟩ := shared_of_chain hchain hsource
  rw [identities, List.getElem?_map] at hj
  obtain ⟨u, hu, rfl⟩ := Option.map_eq_some_iff.mp hj
  exact ⟨u, hu, htrace⟩

lemma next_child_eq (h : s.traces[slot]? = some t) {id : UInt64} {rest : IdSource}
    (hfound : (s.idsOf t.route).drawOther t.identity.span = (id, rest)) :
    s.next (.child slot) = (s.setIds t.route rest).add
      ⟨⟨t.identity.traceHigh, t.identity.trace, some t.identity.span, id⟩, t.flags, t.route⟩ := by
  rw [next_child h, derive, Trace.child, hfound]
  rfl

@[simp] lemma idsOf_setIds (s : Tracing) (route : Route) (ids : IdSource) :
    (s.setIds route ids).idsOf route = ids := by
  cases route <;> rfl

lemma setIds_setIds (s : Tracing) (route : Route) (ids ids' : IdSource) :
    (s.setIds route ids).setIds route ids' = s.setIds route ids' := by
  cases route <;> rfl

theorem keepsIdentities (s : Tracing) : KeepsIdentities s where
  kept turns slot i h := identity_kept turns h
  shared turns a b i hchain ha := shared_of_chain hchain ha
  child slot t h := by
    obtain ⟨skipped, hfinds⟩ := IdSource.finds t.identity.span (s.idsOf t.route)
    exact ⟨skipped, _, _, hfinds.drawn, hfinds.other, next_child_eq h rfl⟩
  ends slot t h n id ids last hid := by
    have hslot : (s.setIds t.route (.listed (List.replicate n t.identity.span ++ id :: ids)
        last)).traces[slot]? = some t := by rw [traces_setIds, h]
    have hother := IdSource.drawOther_of_replicate hid n ids last
    rw [next_child_eq hslot (by rw [idsOf_setIds, hother]), setIds_setIds]

/-! ### Consecutive ids -/

lemma ids_wrap (s : Tracing) (route : Route) (i : Identity) (f : Flags) :
    (s.wrap route i f).2.ids = s.ids := by
  cases route <;> rfl

lemma drawRoot_eq (wide : Bool) (ids : IdSource) :
    (Identity.drawRoot wide ids).2 = (ids.drawMany (if wide then 3 else 2)).2 ∧
      [(Identity.drawRoot wide ids).1.span].Sublist (ids.drawMany (if wide then 3 else 2)).1 := by
  cases wide with
  | false => exact ⟨rfl, .cons _ (List.Sublist.refl _)⟩
  | true => exact ⟨rfl, .cons _ (.cons _ (List.Sublist.refl _))⟩

lemma gives_of_identities (hfresh : s.isFresh x = true)
    (h : (s.next x).identities = s.identities ++ [i]) : s.gives x = some i.span := by
  rw [gives, if_pos hfresh, h, List.getLast?_concat]
  rfl

@[simp] lemma ids_setSampler (s : Tracing) (route : Route) (sampler : Option Oracle) :
    (s.setSampler route sampler).ids = s.ids := by
  cases route <;> rfl

lemma ids_next_of_draws_none (hstart : ∀ route, x ≠ .start route)
    (hchild : ∀ slot, x ≠ .child slot) : (s.next x).ids = s.ids := by
  cases x with
  | start route => exact absurd rfl (hstart route)
  | child slot => exact absurd rfl (hchild slot)
  | wrap route i f => exact ids_wrap s route i f
  | clone slot | force slot | decide slot | record slot _ _ =>
    cases h : s.traces[slot]? <;> simp [next, step, h, add]

lemma ids_child (h : s.traces[slot]? = some t) (hroute : t.route = .pipeline) :
    (s.next (.child slot)).ids = (s.ids.drawOther t.identity.span).2 := by
  rw [next_child h, derive, Trace.child, hroute]
  rfl

lemma child_draws (h : s.traces[slot]? = some t) :
    (s.next (.child slot)).ids = (s.ids.drawMany (s.draws (.child slot))).2 ∧
      (s.gives (.child slot)).toList.Sublist (s.ids.drawMany (s.draws (.child slot))).1 := by
  have hfresh : s.isFresh (.child slot) = leads t.route := by simp [isFresh, h]
  obtain ⟨i, f, route⟩ := t
  cases route with
  | nowhere =>
    rw [next_child h, gives, draws, h, hfresh]
    exact ⟨rfl, List.nil_sublist _⟩
  | pipeline =>
    have hdraws : s.draws (.child slot) = s.ids.searched i.span := by rw [draws, h]
    obtain ⟨skipped, hfinds⟩ := IdSource.finds i.span s.ids
    rw [ids_child h rfl, gives_of_identities hfresh (identities_child h), hdraws,
      hfinds.searched, hfinds.drawn]
    exact ⟨rfl, List.sublist_append_right _ _⟩

/-- The span id that a step gives is one of those that it draws. -/
lemma step_draws (s : Tracing) (x : Step) :
    (s.next x).ids = (s.ids.drawMany (s.draws x)).2 ∧
      (s.gives x).toList.Sublist (s.ids.drawMany (s.draws x)).1 := by
  cases x with
  | start route =>
    cases route with
    | nowhere =>
      refine ⟨?_, List.nil_sublist _⟩
      rw [next_start, ids_wrap]
      rfl
    | pipeline =>
      rw [next_start, ids_wrap, gives_of_identities rfl (identities_start s .pipeline)]
      exact drawRoot_eq s.wide s.ids
  | child slot =>
    cases h : s.traces[slot]? with
    | none =>
      have hfresh : s.isFresh (.child slot) = false := by simp [isFresh, h]
      rw [next_missing rfl h, gives, draws, h, hfresh]
      exact ⟨rfl, List.nil_sublist _⟩
    | some t => exact child_draws h
  | wrap _ _ _ | clone _ | force _ | decide _ | record _ _ _ =>
    exact ⟨ids_next_of_draws_none nofun nofun, List.nil_sublist _⟩

/-- So every span id that is given was drawn for that span alone. -/
theorem given_sublist_drawMany (s : Tracing) (steps : List (Bool × Step)) :
    (s.afterWide steps).ids = (s.ids.drawMany (s.drawn steps)).2 ∧
      (s.given steps).Sublist (s.ids.drawMany (s.drawn steps)).1 := by
  induction steps generalizing s with
  | nil => exact ⟨rfl, List.Sublist.refl _⟩
  | cons x steps ih =>
    obtain ⟨hids, hgives⟩ := step_draws (s.supplied (s.resumed x)) x.2
    obtain ⟨hrest, hgiven⟩ := ih (s.turn (s.resumed x))
    have hturn : (s.turn (s.resumed x)).ids =
      (s.ids.drawMany ((s.supplied (s.resumed x)).draws x.2)).2 := hids
    rw [drawn, given, IdSource.drawMany_add, ← hturn]
    exact ⟨hrest, hgives.append hgiven⟩

/-- Of consecutive ids, a child skips one at most. -/
lemma child_of_consecutive {last : UInt64} (hids : s.ids = .listed [] last)
    (h : s.traces[slot]? = some t) (hroute : t.route = .pipeline) :
    ∃ skipped id, skipped ≤ 1 ∧ s.ids.drawMany (skipped + 1) =
      (List.replicate skipped t.identity.span ++ [id], (s.next (.child slot)).ids) := by
  obtain ⟨skipped, hfinds⟩ := IdSource.finds t.identity.span s.ids
  have hle := IdSource.searched_listed_nil_le t.identity.span last
  rw [← hids, hfinds.searched] at hle
  refine ⟨skipped, (s.ids.drawOther t.identity.span).1, by omega, ?_⟩
  rw [ids_child h hroute]
  exact hfinds.drawn

theorem numbersSpans (wide : Bool) (sampler : Option Oracle) (steps : List (Bool × Step)) :
    NumbersSpans steps (new wide .consecutive sampler)
      ((new wide .consecutive sampler).afterWide steps) := by
  obtain ⟨hids, hgiven⟩ := given_sublist_drawMany (new wide .consecutive sampler) steps
  refine ⟨hids, ?_, ?_⟩
  · have hleft := congrArg Prod.snd
      (IdSource.drawMany_listed_nil ((new wide .consecutive sampler).drawn steps) 1)
    exact fun slot t => child_of_consecutive (hids.trans hleft)
  · intro hcount
    exact (IdSource.nodup_drawMany 1 (Nat.le_of_lt hcount)).sublist hgiven

/-- What holds of the identities of any program, and what holds of new spans if all ids of the
pipeline are consecutive. -/
theorem keeps_identities_and_numbers_spans :
    (∀ s, KeepsIdentities s) ∧ ∀ wide sampler steps,
      NumbersSpans steps (new wide .consecutive sampler)
        ((new wide .consecutive sampler).afterWide steps) :=
  ⟨keepsIdentities, numbersSpans⟩

end Tracing

end TracePipeline
