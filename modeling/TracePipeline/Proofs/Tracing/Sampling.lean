import TracePipeline.Proofs.Tracing.Steps
import TracePipeline.Probe

/-!
# Early and late sampling

A program may decide which of its traces are sampled when it makes them, or leave that to a filter
behind it. If both ask one sampler, whose answers depend on the trace id alone, the same comes out.
The program with the sampler has the traces of the one without, but with the decisions made.
-/

namespace TracePipeline

/-- A trace once its decision is made. -/
def Trace.decidedBy (sample : UInt64 → Bool) (t : Trace) : Trace :=
  { t with
    flags := match t.route with
      | .nowhere => t.flags
      | .pipeline =>
        if t.flags.isSamplingKnown then t.flags else t.flags.decide (sample t.identity.trace) }

/-- What a record says, but for its flags. -/
def Record.unflagged (r : Record) : Identity × UInt64 × Annotation :=
  (r.identity, r.timestamp, r.annotation)

/-- A probe that took several records. -/
def Probe.after (p : Probe) (records : List Record) : Probe :=
  records.foldl (fun p r => (p.record r).1) p

namespace Tracing

/-- A program with the sampler, and one without, after the same steps. -/
structure Agrees (sample : UInt64 → Bool) (early late : Tracing) : Prop where
  wide : early.wide = late.wide
  ids : early.ids = late.ids
  looseIds : early.looseIds = late.looseIds
  sampler : ∃ calls, early.sampler = some ⟨fun _ => sample, calls⟩
  noSampler : late.sampler = none
  traces : early.traces = late.traces.map (.decidedBy sample)

variable {sample : UInt64 → Bool} {early late : Tracing} {t : Trace} {slot : Nat} {i : Identity}
  {f : Flags} {route : Route} {sampler : Sampler} {x : Step}

lemma decidedBy_of_nowhere (h : t.route = .nowhere) : t.decidedBy sample = t := by
  obtain ⟨i, f, route⟩ := t
  cases h
  rfl

lemma decidedBy_of_known (h : t.flags.isSamplingKnown = true) : t.decidedBy sample = t := by
  obtain ⟨i, f, route⟩ := t
  cases route with
  | nowhere => rfl
  | pipeline => rw [Trace.decidedBy, if_pos h]

lemma known_decidedBy (h : t.route = .pipeline) :
    (t.decidedBy sample).flags.isSamplingKnown = true := by
  cases hknown : t.flags.isSamplingKnown with
  | true => rw [decidedBy_of_known hknown, hknown]
  | false => simp [Trace.decidedBy, h, hknown]

/-- A child has the trace id of its parent, so it is decided alike. -/
lemma child_decidedBy (sample : UInt64 → Bool) (t : Trace) (ids : IdSource) :
    (t.decidedBy sample).child ids = ((t.child ids).1.decidedBy sample, (t.child ids).2) := rfl

lemma forceSampled_decidedBy (sample : UInt64 → Bool) (t : Trace) :
    (t.decidedBy sample).forceSampled = t.forceSampled.decidedBy sample := by
  have hforced : t.forceSampled.decidedBy sample = t.forceSampled :=
    decidedBy_of_known (Flags.isSamplingKnown_decide t.flags true)
  rw [hforced]
  cases hroute : t.route with
  | nowhere => rw [decidedBy_of_nowhere hroute]
  | pipeline =>
    cases hknown : t.flags.isSamplingKnown with
    | true => rw [decidedBy_of_known hknown]
    | false => simp [Trace.decidedBy, Trace.forceSampled, hroute, hknown]

lemma Agrees.lookup (h : Agrees sample early late) (slot : Nat) :
    early.traces[slot]? = late.traces[slot]?.map (.decidedBy sample) := by
  rw [h.traces, List.getElem?_map]

lemma Agrees.idsOf (h : Agrees sample early late) (route : Route) :
    early.idsOf route = late.idsOf route := by
  cases route with
  | nowhere => exact h.looseIds
  | pipeline => exact h.ids

lemma Agrees.root (h : Agrees sample early late) (route : Route) :
    early.root route = late.root route := by
  rw [Tracing.root, Tracing.root, h.wide, h.idsOf]

lemma Agrees.setIds (h : Agrees sample early late) (route : Route) (ids : IdSource) :
    Agrees sample (early.setIds route ids) (late.setIds route ids) := by
  cases route with
  | nowhere => exact { h with looseIds := rfl }
  | pipeline => exact { h with ids := rfl }

lemma Agrees.add (h : Agrees sample early late) (t : Trace) :
    Agrees sample (early.add (t.decidedBy sample)) (late.add t) :=
  { h with traces := by rw [traces_add, traces_add, h.traces, List.map_append]; rfl }

lemma settled_decidedBy (s : Tracing) (sample : UInt64 → Bool) (t : Trace) :
    s.Settled (t.decidedBy sample) := by
  cases hroute : t.route with
  | nowhere =>
    rw [decidedBy_of_nowhere hroute]
    exact settled_of_no_sampler (by rw [hroute]; rfl)
  | pipeline => exact settled_of_known s (known_decidedBy hroute)

lemma Agrees.settled_late (h : Agrees sample early late) (t : Trace) : late.Settled t := by
  cases hroute : t.route with
  | nowhere => exact settled_of_no_sampler (by rw [hroute]; rfl)
  | pipeline => exact settled_of_no_sampler (by rw [hroute]; exact h.noSampler)

/-- What is wrapped without a decision is decided by one program, and left to the filter by the
other. -/
lemma Agrees.wrap (h : Agrees sample early late) (route : Route) (i : Identity) (f : Flags) :
    Agrees sample (early.wrap route i f).2 (late.wrap route i f).2 := by
  rw [wrap_settled (h.settled_late ⟨i, f, route⟩)]
  by_cases hask : route = .pipeline ∧ f.isSamplingKnown = false
  · obtain ⟨rfl, hf⟩ := hask
    obtain ⟨calls, hsampler⟩ := h.sampler
    have hdecided : (⟨i, f, .pipeline⟩ : Trace).decidedBy sample =
        ⟨i, f.decide (sample i.trace), .pipeline⟩ := by simp [Trace.decidedBy, hf]
    have hasked : Agrees sample { early with sampler := some ⟨fun _ => sample, calls + 1⟩ } late :=
      { h with sampler := ⟨calls + 1, rfl⟩ }
    rw [wrap_undecided hf hsampler, ← hdecided]
    exact hasked.add ⟨i, f, .pipeline⟩
  · have hsame : (⟨i, f, route⟩ : Trace).decidedBy sample = ⟨i, f, route⟩ := by
      cases route with
      | nowhere => rfl
      | pipeline => exact decidedBy_of_known (by simpa using hask)
    have hsettled := settled_decidedBy early sample ⟨i, f, route⟩
    have hadd := h.add ⟨i, f, route⟩
    rw [hsame] at hsettled hadd
    rw [wrap_settled hsettled]
    exact hadd

lemma Agrees.on (h : Agrees sample early late) (hx : x.on? = some slot)
    (hslot : late.traces[slot]? = some t) : Agrees sample (early.next x) (late.next x) := by
  have hearly : early.traces[slot]? = some (t.decidedBy sample) := by
    rw [h.lookup slot, hslot]
    rfl
  cases x with
  | start _ | wrap _ _ _ => cases hx
  | child _ =>
    cases hx
    have hids : early.idsOf (t.decidedBy sample).route = late.idsOf t.route := h.idsOf t.route
    rw [next_child hearly, next_child hslot, derive, derive, hids, child_decidedBy]
    exact (h.setIds _ _).add _
  | clone _ =>
    cases hx
    rw [next_clone hearly, next_clone hslot]
    exact h.add t
  | force _ =>
    cases hx
    rw [next_force hearly, next_force hslot, forceSampled_decidedBy]
    exact { h with traces := by rw [h.traces, List.map_set] }
  | decide _ =>
    cases hx
    rw [next_decide hearly (settled_decidedBy early sample t),
      next_decide hslot (h.settled_late t)]
    exact h
  | record _ mark timestamp =>
    rw [next_record, next_record]
    exact h

theorem Agrees.next (h : Agrees sample early late) (x : Step) :
    Agrees sample (early.next x) (late.next x) := by
  cases x with
  | start route =>
    rw [next_start, next_start, h.root route]
    exact (h.setIds _ _).wrap _ _ _
  | wrap route i f => exact h.wrap route i f
  | child slot | clone slot | force slot | decide slot | record slot mark timestamp =>
    cases hslot : late.traces[slot]? with
    | none =>
      have hearly : early.traces[slot]? = none := by
        rw [h.lookup slot, hslot]
        rfl
      rw [next_missing rfl hslot, next_missing rfl hearly]
      exact h
    | some t => exact h.on rfl hslot

/-- A trace that was decided forwards if it would forward anyway, and the sampler admits it. -/
lemma forwards_decidedBy (sampler : Sampler) (h : t.route = .pipeline) :
    (t.decidedBy sampler.sample).flags.forwards =
      (t.flags.forwards && sampler.admits t.flags t.identity.trace) := by
  cases hknown : t.flags.isSamplingKnown with
  | true =>
    rw [decidedBy_of_known hknown]
    cases hsampled : t.flags.contains .sampled <;>
      simp [Flags.forwards, Sampler.admits, Flags.status, hknown, hsampled]
  | false =>
    simp [Trace.decidedBy, h, hknown, Flags.forwards, Sampler.admits, Flags.status]

/-- What a trace hands over is the same, decided early or filtered late. -/
lemma record?_decidedBy (sampler : Sampler) (t : Trace) (mark : Annotation) (timestamp : UInt64) :
    ((t.decidedBy sampler.sample).record? (leads t.route) mark timestamp).map Record.unflagged =
      ((t.record? (leads t.route) mark timestamp).filter fun r =>
        sampler.admits r.flags r.identity.trace).map Record.unflagged := by
  cases hroute : t.route with
  | nowhere => simp [Trace.record?, leads]
  | pipeline =>
    simp only [Trace.record?, leads, Bool.and_true, forwards_decidedBy sampler hroute]
    cases hforwards : t.flags.forwards <;>
      cases hadmits : sampler.admits t.flags t.identity.trace <;>
      simp [Option.filter, hadmits, Record.unflagged, Trace.decidedBy]

/-- Both programs hand over the same, once the records of one went through the filter. -/
lemma Agrees.handed (h : Agrees sampler.sample early late) (x : Step) :
    (early.handed x).map Record.unflagged =
      ((late.handed x).filter fun r => sampler.admits r.flags r.identity.trace).map
        Record.unflagged := by
  by_cases hx : ∃ slot mark timestamp, x = .record slot mark timestamp
  · obtain ⟨slot, mark, timestamp, rfl⟩ := hx
    rw [handed_record, handed_record, h.lookup slot]
    cases late.traces[slot]? with
    | none => rfl
    | some t => exact record?_decidedBy sampler t mark timestamp
  · rw [handed_eq_none hx, handed_eq_none hx]
    rfl

theorem Agrees.recorded (h : Agrees sampler.sample early late) (steps : List Step) :
    (early.recorded steps).map Record.unflagged =
      ((late.recorded steps).filter fun r => sampler.admits r.flags r.identity.trace).map
        Record.unflagged := by
  induction steps generalizing early late with
  | nil => rfl
  | cons x steps ih =>
    have hhanded := congrArg Option.toList (h.handed x)
    rw [Option.toList_map, Option.toList_map, Option.toList_filter] at hhanded
    rw [Tracing.recorded, Tracing.recorded, List.map_append, List.filter_append, List.map_append,
      ih (h.next x), hhanded]

lemma kept_after {kind : ProbeKind} {keeps : Record → Bool}
    (hrecord : ∀ (p : Probe) r, p.kind = kind →
      (p.record r).1.kind = kind ∧ (p.record r).1.kept = p.kept ++ [r].filter keeps)
    (p : Probe) (hp : p.kind = kind) (records : List Record) :
    (p.after records).kept = p.kept ++ records.filter keeps := by
  induction records generalizing p with
  | nil => exact (List.append_nil p.kept).symm
  | cons r records ih =>
    obtain ⟨hkind, hkept⟩ := hrecord p r hp
    have hrest : (p.after (r :: records)).kept = (p.record r).1.kept ++ records.filter keeps :=
      ih (p.record r).1 hkind
    rw [hrest, hkept, List.append_assoc, ← List.filter_append, List.singleton_append]

lemma kept_memory (records : List Record) :
    ((Probe.new .memory none).after records).kept = records := by
  have hrecord : ∀ (p : Probe) (r : Record), p.kind = .memory →
      (p.record r).1.kind = .memory ∧ (p.record r).1.kept = p.kept ++ [r].filter fun _ => true := by
    intro p r hp
    simp [Probe.record, Probe.keep, hp]
  rw [kept_after hrecord _ rfl, List.filter_eq_self.mpr fun _ _ => rfl]
  rfl

lemma kept_filter (sampler : Sampler) (records : List Record) :
    ((Probe.new (.filter sampler) none).after records).kept =
      records.filter fun r => sampler.admits r.flags r.identity.trace := by
  have hrecord : ∀ (p : Probe) (r : Record), p.kind = .filter sampler →
      (p.record r).1.kind = .filter sampler ∧ (p.record r).1.kept =
        p.kept ++ [r].filter fun r => sampler.admits r.flags r.identity.trace := by
    intro p r hp
    cases hadmits : sampler.admits r.flags r.identity.trace <;>
      simp [Probe.record, Probe.keep, hp, hadmits]
  exact kept_after hrecord _ rfl records

/-- What a sink is given by a program that decides early, and what is let pass to it by a filter
behind a program that does not, are the same but for the flags. -/
theorem kept_alike (sampler : Sampler) (wide : Bool) (ids : IdSource) (steps : List Step) :
    ((Probe.new .memory none).after
        ((Tracing.new wide ids (some (.ofFunction sampler.sample))).recorded steps)).kept.map
          Record.unflagged =
      ((Probe.new (.filter sampler) none).after
        ((Tracing.new wide ids none).recorded steps)).kept.map Record.unflagged := by
  have hstart : Agrees sampler.sample (.new wide ids (some (.ofFunction sampler.sample)))
      (.new wide ids none) := ⟨rfl, rfl, rfl, ⟨0, rfl⟩, rfl, rfl⟩
  rw [kept_memory, kept_filter]
  exact hstart.recorded steps

end Tracing

end TracePipeline
