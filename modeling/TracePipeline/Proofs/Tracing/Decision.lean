import Mathlib.Data.List.Basic
import TracePipeline.Proofs.Tracing.Steps

/-!
# Decisions are made once

Every trace that leads into the pipeline has a decision from the moment it exists, so the sampler is
asked when a trace is started, or wrapped without a decision, and never after that. Its answers need
not agree with each other. Derived traces have the decision of the trace they come from; only force
changes it.
-/

namespace TracePipeline

namespace Tracing

/-- A trace is started in the pipeline. -/
def Step.starts : Step → Bool
  | .start .pipeline => true
  | _ => false

/-- A trace whose flags leave the decision open is made in the pipeline. -/
def Step.wrapsUndecided : Step → Bool
  | .wrap .pipeline _ f => !f.isSamplingKnown
  | _ => false

/-- A certain trace is sampled by force. -/
def Step.forces (slot : Nat) : Step → Bool
  | .force slot' => slot' == slot
  | _ => false

/-- The sampler, asked once for each trace that steps started, and for each that they wrapped without
a decision. -/
def askedBy (o : Oracle) (steps : List Step) : Oracle :=
  { o with calls := o.calls + (steps.countP Step.starts + steps.countP Step.wrapsUndecided) }

/-- Flags with a decision that was not there before. -/
structure DecidedAs (f : Flags) (sample : Bool) (f' : Flags) : Prop where
  known : f'.isSamplingKnown = true
  sampled : f'.contains .sampled = sample
  rest : f'.rest = f.rest

/-- What holds after several steps of a program with a sampler, and whatever it does next. -/
structure DecidesOnce (o : Oracle) (steps : List Step) (s : Tracing) : Prop where
  known : ∀ t ∈ s.traces, t.route = .pipeline → t.flags.isSamplingKnown = true
  asked : s.sampler = some (askedBy o steps)
  started : ∃ i f, (s.next (.start .pipeline)).traces = s.traces ++ [⟨i, f, .pipeline⟩] ∧
    DecidedAs .empty (o.answer (askedBy o steps).calls i.trace) f
  wrapped : ∀ i f, f.isSamplingKnown = true →
    (s.next (.wrap .pipeline i f)).traces = s.traces ++ [⟨i, f, .pipeline⟩]
  decided : ∀ i f, f.isSamplingKnown = false → ∃ f',
    (s.next (.wrap .pipeline i f)).traces = s.traces ++ [⟨i, f', .pipeline⟩] ∧
      DecidedAs f (o.answer (askedBy o steps).calls i.trace) f'
  derived : ∀ (slot : Nat) t, s.traces[slot]? = some t → ∃ i,
    (s.next (.child slot)).traces = s.traces ++ [{ t with identity := i }]
  cloned : ∀ (slot : Nat) t, s.traces[slot]? = some t →
    (s.next (.clone slot)).traces = s.traces ++ [t]
  kept : ∀ more (slot : Nat) t, s.traces[slot]? = some t →
    more.any (Step.forces slot) = false → (s.after more).traces[slot]? = some t
  forced : ∀ more (slot : Nat) t, s.traces[slot]? = some t →
    more.any (Step.forces slot) = true → ∃ f,
      (s.after more).traces[slot]? = some { t with flags := f } ∧ f.status = .sampled ∧
        f.rest = t.flags.rest

/-- Every trace in the pipeline has its decision, and the sampler has got so far. -/
structure Decided (o : Oracle) (s : Tracing) : Prop where
  sampler : s.sampler = some o
  known : ∀ t ∈ s.traces, t.route = .pipeline → t.flags.isSamplingKnown = true

variable {s : Tracing} {o : Oracle} {steps : List Step} {slot : Nat} {t : Trace} {i : Identity}
  {f : Flags} {route : Route} {x : Step}

lemma decidedAs_decide (f : Flags) (sample : Bool) : DecidedAs f sample (f.decide sample) where
  known := by simp
  sampled := by simp
  rest := by simp

lemma Decided.settled (h : Decided o s) (hslot : s.traces[slot]? = some t) : s.Settled t := by
  cases hroute : t.route with
  | nowhere => exact settled_of_no_sampler (by rw [hroute]; rfl)
  | pipeline => exact settled_of_known s (h.known t (List.mem_of_getElem? hslot) hroute)

lemma Decided.setIds (h : Decided o s) (route : Route) (ids : IdSource) :
    Decided o (s.setIds route ids) where
  sampler := by rw [sampler_setIds, h.sampler]
  known := by
    rw [traces_setIds]
    exact h.known

lemma Decided.add (h : Decided o s) (ht : t.route = .pipeline → t.flags.isSamplingKnown = true) :
    Decided o (s.add t) where
  sampler := h.sampler
  known u hu hroute := by
    rcases List.mem_append.mp hu with hold | hnew
    · exact h.known u hold hroute
    · cases List.mem_singleton.mp hnew
      exact ht hroute

lemma Decided.set (h : Decided o s) (ht : t.route = .pipeline → t.flags.isSamplingKnown = true) :
    Decided o { s with traces := s.traces.set slot t } where
  sampler := h.sampler
  known u hu hroute := by
    rcases List.mem_or_eq_of_mem_set hu with hold | rfl
    · exact h.known u hold hroute
    · exact ht hroute

lemma Decided.wrap (h : Decided o s) (route : Route) (i : Identity) (f : Flags) :
    Decided { o with calls := o.calls + (Step.wrap route i f).wrapsUndecided.toNat }
      (s.wrap route i f).2 := by
  cases route with
  | nowhere =>
    rw [wrap_settled (settled_of_no_sampler rfl)]
    exact h.add nofun
  | pipeline =>
    cases hf : f.isSamplingKnown with
    | true =>
      rw [wrap_settled (settled_of_known s hf), Step.wrapsUndecided, hf]
      exact h.add fun _ => hf
    | false =>
      rw [wrap_undecided hf h.sampler, Step.wrapsUndecided, hf]
      have hasked : Decided { o with calls := o.calls + 1 }
          { s with sampler := some { o with calls := o.calls + 1 } } := ⟨rfl, h.known⟩
      exact hasked.add fun _ => Flags.isSamplingKnown_decide f _

lemma askedBy_singleton (o : Oracle) (x : Step) :
    askedBy o [x] = { o with calls := o.calls + (x.starts.toNat + x.wrapsUndecided.toNat) } := by
  cases hstarts : x.starts <;> cases hwraps : x.wrapsUndecided <;> simp [askedBy, hstarts, hwraps]

lemma askedBy_concat (o : Oracle) (steps : List Step) (x : Step) :
    askedBy o (steps ++ [x]) = askedBy (askedBy o steps) [x] := by
  simp only [askedBy, List.countP_append, Oracle.mk.injEq, true_and]
  omega

/-- Steps on a trace that exists ask nothing. -/
lemma Decided.on (h : Decided o s) (hx : x.on? = some slot) (hslot : s.traces[slot]? = some t) :
    Decided o (s.next x) := by
  cases x with
  | start _ | wrap _ _ _ => cases hx
  | child _ =>
    cases hx
    rw [next_child hslot]
    exact (h.setIds _ _).add (h.known t (List.mem_of_getElem? hslot))
  | clone _ =>
    cases hx
    rw [next_clone hslot]
    exact h.add (h.known t (List.mem_of_getElem? hslot))
  | force _ =>
    cases hx
    rw [next_force hslot]
    exact h.set fun _ => Flags.isSamplingKnown_decide t.flags true
  | decide _ =>
    cases hx
    rw [next_decide hslot (h.settled hslot)]
    exact h
  | record _ mark timestamp =>
    rw [next_record]
    exact h

/-- The sampler is asked by the steps that make an undecided trace, and by no other. -/
theorem Decided.next (h : Decided o s) (x : Step) : Decided (askedBy o [x]) (s.next x) := by
  rw [askedBy_singleton]
  cases x with
  | start route =>
    have hwrap := (h.setIds route (s.root route).2).wrap route (s.root route).1 .empty
    rw [next_start]
    cases route <;> exact hwrap
  | wrap route i f =>
    have hstarts : (Step.wrap route i f).starts = false := rfl
    rw [next_wrap, hstarts, Bool.toNat_false, Nat.zero_add]
    exact h.wrap route i f
  | child slot | clone slot | force slot | decide slot | record slot _ _ =>
    cases hslot : s.traces[slot]? with
    | none =>
      rw [next_missing rfl hslot]
      exact h
    | some t => exact h.on rfl hslot

/-- What leads into the pipeline and is not held back was decided for. -/
lemma Decided.sampled {r : Record} (h : Decided o s) (hr : s.handed x = some r) :
    r.flags.status = .sampled := by
  obtain ⟨t, ht, hroute, hforwards, hflags⟩ := trace_of_handed hr
  rw [hflags]
  exact Flags.status_of_forwards (h.known t ht hroute) hforwards

theorem Decided.recorded {r : Record} (h : Decided o s) (steps : List Step)
    (hr : r ∈ s.recorded steps) : r.flags.status = .sampled := by
  induction steps generalizing s o with
  | nil => cases hr
  | cons x steps ih =>
    rcases List.mem_append.mp hr with hnow | hlater
    · exact h.sampled (Option.mem_toList.mp hnow)
    · exact ih (h.next x) hlater

lemma decided_new (wide : Bool) (ids : IdSource) (o : Oracle) :
    Decided o (.new wide ids (some o)) :=
  ⟨rfl, nofun⟩

theorem decided_after (wide : Bool) (ids : IdSource) (o : Oracle) (steps : List Step) :
    Decided (askedBy o steps) ((Tracing.new wide ids (some o)).after steps) := by
  induction steps using List.reverseRecOn with
  | nil => exact decided_new wide ids o
  | append_singleton steps x ih =>
    rw [after_concat, askedBy_concat]
    exact ih.next x

lemma traces_force (s : Tracing) (slot : Nat) :
    (s.next (.force slot)).traces = s.traces.modify slot Trace.forceSampled := by
  cases hslot : s.traces[slot]? with
  | none =>
    have hlength : s.traces.length ≤ slot := List.getElem?_eq_none_iff.mp hslot
    rw [next_missing rfl hslot, List.modify_eq_self hlength]
  | some t => rw [next_force hslot, List.modify_eq_set_getElem?, hslot]; rfl

/-- Steps that force no trace make further traces at most. -/
lemma Decided.grows (h : Decided o s) (hx : ∀ slot, x ≠ .force slot) :
    ∃ new, (s.next x).traces = s.traces ++ new := by
  cases x with
  | force slot => exact absurd rfl (hx slot)
  | start route => exact ⟨[_], by rw [next_start, traces_wrap, traces_setIds]⟩
  | wrap route i f => exact ⟨[_], by rw [next_wrap, traces_wrap]⟩
  | child slot =>
    cases hslot : s.traces[slot]? with
    | none => exact ⟨[], by rw [next_missing rfl hslot, List.append_nil]⟩
    | some t => exact ⟨[_], by rw [next_child hslot, derive, traces_add, traces_setIds]⟩
  | clone slot =>
    cases hslot : s.traces[slot]? with
    | none => exact ⟨[], by rw [next_missing rfl hslot, List.append_nil]⟩
    | some t => exact ⟨[t], by rw [next_clone hslot, traces_add]⟩
  | decide slot =>
    cases hslot : s.traces[slot]? with
    | none => exact ⟨[], by rw [next_missing rfl hslot, List.append_nil]⟩
    | some t => exact ⟨[], by rw [next_decide hslot (h.settled hslot), List.append_nil]⟩
  | record slot mark timestamp => exact ⟨[], by rw [next_record, List.append_nil]⟩

/-- What a step leaves of a trace. -/
lemma Decided.keeps (h : Decided o s) (hslot : s.traces[slot]? = some t) (x : Step) :
    (s.next x).traces[slot]? = some (if x.forces slot then t.forceSampled else t) := by
  by_cases hx : ∃ slot', x = .force slot'
  · obtain ⟨slot', rfl⟩ := hx
    rw [traces_force, List.getElem?_modify, hslot]
    by_cases hsame : slot' = slot <;> simp [Step.forces, hsame]
  · have hnever : ∀ slot', x ≠ .force slot' := fun slot' heq => hx ⟨slot', heq⟩
    have hforces : x.forces slot = false := by
      cases x with
      | force slot' => exact absurd rfl (hnever slot')
      | _ => rfl
    have hlt : slot < s.traces.length := (List.getElem?_eq_some_iff.mp hslot).1
    obtain ⟨new, hnew⟩ := h.grows hnever
    rw [hnew, List.getElem?_append_left hlt, hslot, hforces]
    rfl

lemma forceSampled_idem (t : Trace) : t.forceSampled.forceSampled = t.forceSampled := by
  simp [Trace.forceSampled]

/-- What several steps leave of a trace. -/
theorem Decided.keeps_after (h : Decided o s) (hslot : s.traces[slot]? = some t)
    (more : List Step) :
    (s.after more).traces[slot]? =
      some (if more.any (Step.forces slot) then t.forceSampled else t) := by
  -- from the front: a trace that was forced before is none the different for being forced again
  induction more generalizing s o t with
  | nil => exact hslot
  | cons x more ih =>
    have hcons : s.after (x :: more) = (s.next x).after more := rfl
    rw [hcons, ih (h.next x) (h.keeps hslot x), List.any_cons]
    cases x.forces slot <;> simp [forceSampled_idem]

theorem decides_once (wide : Bool) (ids : IdSource) (o : Oracle) (steps : List Step) :
    DecidesOnce o steps ((Tracing.new wide ids (some o)).after steps) := by
  have h := decided_after wide ids o steps
  generalize (Tracing.new wide ids (some o)).after steps = s at h
  refine ⟨h.known, h.sampler, ?_, ?_, ?_, ?_, ?_, ?_, ?_⟩
  · have hids : (s.setIds .pipeline (s.root .pipeline).2).sampler = some (askedBy o steps) :=
      (h.setIds _ _).sampler
    refine ⟨(s.root .pipeline).1, _, ?_, decidedAs_decide .empty _⟩
    rw [next_start, wrap_undecided rfl hids, traces_add, traces_setIds]
    rfl
  · intro i f hf
    rw [next_wrap, wrap_settled (settled_of_known s hf), traces_add]
  · intro i f hf
    refine ⟨_, ?_, decidedAs_decide f _⟩
    rw [next_wrap, wrap_undecided hf h.sampler, traces_add]
    rfl
  · intro slot t hslot
    rw [next_child hslot, derive, traces_add, traces_setIds, Trace.child]
    exact ⟨_, rfl⟩
  · intro slot t hslot
    rw [next_clone hslot, traces_add]
  · intro more slot t hslot hmore
    rw [h.keeps_after hslot more, hmore]
    rfl
  · intro more slot t hslot hmore
    refine ⟨t.flags.decide true, ?_, Flags.status_decide t.flags true, Flags.rest_decide t.flags true⟩
    rw [h.keeps_after hslot more, hmore]
    rfl

end Tracing

end TracePipeline
