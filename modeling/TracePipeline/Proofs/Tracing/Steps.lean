import Mathlib.Data.List.Induction
import TracePipeline.Proofs.Flags
import TracePipeline.Tracing

/-!
# Programs step by step

A program that traces takes its steps one after the other; what is on the route of the pipeline is
taken there, and nothing is taken anywhere else. Steps on traces that do not exist are no steps.
-/

namespace TracePipeline

namespace Tracing

/-- Whether records on a route lead anywhere. -/
def leads : Route → Bool
  | .nowhere => false
  | .pipeline => true

/-- The program after a step. -/
def next (s : Tracing) (x : Step) : Tracing := (s.step leads x).elim s Prod.snd

/-- The program after several steps. -/
def after (s : Tracing) (steps : List Step) : Tracing := steps.foldl next s

/-- The record that a step hands over. -/
def handed (s : Tracing) (x : Step) : Option Record :=
  match s.step leads x with
  | some (.record r, _) => r
  | _ => none

/-- The records that several steps hand over, in their order. -/
def recorded (s : Tracing) : List Step → List Record
  | [] => []
  | x :: rest => (s.handed x).toList ++ (s.next x).recorded rest

/-- The identity of the next root span on a route, and the ids after it. -/
def root (s : Tracing) (route : Route) : Identity × IdSource :=
  Identity.drawRoot (leads route && s.wide) (s.idsOf route)

/-- Nothing is left to decide about a trace: it has a decision, or there is no sampler. -/
def Settled (s : Tracing) (t : Trace) : Prop :=
  t.decideSampling (s.samplerOf t.route) = (t, s.samplerOf t.route)

/-- The trace that a step is on. -/
def Step.on? : Step → Option Nat
  | .start _ | .wrap _ _ _ => none
  | .child slot | .clone slot | .force slot | .decide slot | .record slot _ _ => some slot

variable {s : Tracing} {slot : Nat} {t : Trace} {o : Oracle} {i : Identity} {f : Flags}
  {route : Route}

lemma after_concat (s : Tracing) (steps : List Step) (x : Step) :
    s.after (steps ++ [x]) = (s.after steps).next x := by
  rw [after, List.foldl_append]
  rfl

@[simp] lemma traces_setIds (s : Tracing) (route : Route) (ids : IdSource) :
    (s.setIds route ids).traces = s.traces := by
  cases route <;> rfl

@[simp] lemma sampler_setIds (s : Tracing) (route : Route) (ids : IdSource) :
    (s.setIds route ids).sampler = s.sampler := by
  cases route <;> rfl

@[simp] lemma traces_setSampler (s : Tracing) (route : Route) (sampler : Option Oracle) :
    (s.setSampler route sampler).traces = s.traces := by
  cases route <;> rfl

lemma traces_add (s : Tracing) (t : Trace) : (s.add t).traces = s.traces ++ [t] := rfl

lemma setSampler_self (s : Tracing) (route : Route) :
    s.setSampler route (s.samplerOf route) = s := by
  cases route <;> rfl

lemma set_self (h : s.traces[slot]? = some t) : s.traces.set slot t = s.traces := by
  obtain ⟨hlt, rfl⟩ := List.getElem?_eq_some_iff.mp h
  exact List.set_getElem_self hlt

lemma settled_of_known (s : Tracing) (h : t.flags.isSamplingKnown = true) : s.Settled t := by
  simp [Settled, Trace.decideSampling, h]

lemma settled_of_no_sampler (h : s.samplerOf t.route = none) : s.Settled t := by
  simp [Settled, Trace.decideSampling, h]

lemma traces_wrap (s : Tracing) (route : Route) (i : Identity) (f : Flags) :
    (s.wrap route i f).2.traces = s.traces ++ [(s.wrap route i f).1] := by
  simp [wrap, traces_add]

lemma wrap_settled (h : s.Settled ⟨i, f, route⟩) :
    s.wrap route i f = (⟨i, f, route⟩, s.add ⟨i, f, route⟩) := by
  have hdecided : (⟨i, f, route⟩ : Trace).decideSampling (s.samplerOf route) =
      (⟨i, f, route⟩, s.samplerOf route) := h
  rw [wrap, hdecided]
  simp only [setSampler_self]

lemma wrap_undecided (hf : f.isSamplingKnown = false) (ho : s.sampler = some o) :
    s.wrap .pipeline i f =
      (⟨i, f.decide (o.answer o.calls i.trace), .pipeline⟩,
        { s with sampler := some { o with calls := o.calls + 1 } }.add
          ⟨i, f.decide (o.answer o.calls i.trace), .pipeline⟩) := by
  simp [wrap, Trace.decideSampling, samplerOf, ho, hf, Oracle.ask, setSampler]

lemma next_start (s : Tracing) (route : Route) :
    s.next (.start route) =
      ((s.setIds route (s.root route).2).wrap route (s.root route).1 .empty).2 := by
  cases route <;> rfl

lemma next_wrap (s : Tracing) (route : Route) (i : Identity) (f : Flags) :
    s.next (.wrap route i f) = (s.wrap route i f).2 := rfl

lemma next_child (h : s.traces[slot]? = some t) : s.next (.child slot) = (s.derive t).2 := by
  simp [next, step, h]

lemma next_clone (h : s.traces[slot]? = some t) : s.next (.clone slot) = s.add t := by
  simp [next, step, h]

lemma next_force (h : s.traces[slot]? = some t) :
    s.next (.force slot) = { s with traces := s.traces.set slot t.forceSampled } := by
  simp [next, step, h]

lemma next_decide (h : s.traces[slot]? = some t) (hsettled : s.Settled t) :
    s.next (.decide slot) = s := by
  unfold Settled at hsettled
  simp [next, step, h, hsettled, setSampler_self, set_self h]

lemma next_record (s : Tracing) (slot : Nat) (mark : Annotation) (timestamp : UInt64) :
    s.next (.record slot mark timestamp) = s := by
  cases h : s.traces[slot]? <;> simp [next, step, h]

lemma handed_record (s : Tracing) (slot : Nat) (mark : Annotation) (timestamp : UInt64) :
    s.handed (.record slot mark timestamp) =
      s.traces[slot]?.bind fun t => t.record? (leads t.route) mark timestamp := by
  cases h : s.traces[slot]? <;> simp [handed, step, h]

/-- Only a record step hands a record over. -/
lemma handed_eq_none {x : Step} (hx : ¬ ∃ slot mark timestamp, x = .record slot mark timestamp) :
    s.handed x = none := by
  cases x with
  | start _ | wrap _ _ _ => rfl
  | child slot | clone slot | force slot | decide slot =>
    cases h : s.traces[slot]? <;> simp [handed, step, h]
  | record slot mark timestamp => exact absurd ⟨slot, mark, timestamp, rfl⟩ hx

/-- What is handed over was made by a trace of the pipeline, which forwards. -/
lemma trace_of_handed {x : Step} {r : Record} (h : s.handed x = some r) :
    ∃ t ∈ s.traces, t.route = .pipeline ∧ t.flags.forwards = true ∧ r.flags = t.flags := by
  by_cases hx : ∃ slot mark timestamp, x = .record slot mark timestamp
  · obtain ⟨slot, mark, timestamp, rfl⟩ := hx
    rw [handed_record] at h
    obtain ⟨t, hslot, hrecord⟩ := Option.bind_eq_some_iff.mp h
    unfold Trace.record? at hrecord
    split at hrecord
    · rename_i hforwards
      obtain ⟨hforwards, hleads⟩ := Bool.and_eq_true_iff.mp hforwards
      have hroute : t.route = .pipeline := by
        cases hroute : t.route with
        | nowhere => rw [hroute] at hleads; cases hleads
        | pipeline => rfl
      cases hrecord
      exact ⟨t, List.mem_of_getElem? hslot, hroute, hforwards, rfl⟩
    · cases hrecord
  · rw [handed_eq_none hx] at h
    cases h

lemma next_missing {x : Step} (hx : x.on? = some slot) (h : s.traces[slot]? = none) :
    s.next x = s := by
  cases x with
  | start _ | wrap _ _ _ => cases hx
  | child _ | clone _ | force _ | decide _ | record _ _ _ =>
    cases hx
    simp [next, step, h]

end Tracing

end TracePipeline
