import TracePipeline.Proofs.Provider.Refinement
import TracePipeline.Proofs.Tracing.Decision
import TracePipeline.Proofs.Tracing.Sampling
import TracePipeline.Proofs.Unfiltered

/-!
# The sampler of a provider

A provider samples when its traces are made, and has the same sampler in front of its assembler. That
one finds nothing left to decide: whatever happens to the provider happens to it without the filter,
too. A filter alone would come to the same decisions.
-/

namespace TracePipeline

namespace Provider

/-- The provider without the sampler in front of its assembler. -/
def bare (p : Provider) : Provider := { p with pipeline := p.pipeline.bare }

/-- No trace is undecided, and neither is any record that waits for delivery. -/
structure Settled (p : Provider) : Prop where
  tracing : ∃ o, Tracing.Decided o p.tracing
  pipeline : p.pipeline.Sampled

variable {p : Provider} {f : Pipeline → Pipeline}

lemma traced_eq (s : Tracing) (x : Tracing.Step) : traced s x = s.next x := by
  cases x with
  | start _ | wrap _ _ _ => rfl
  | child slot | clone slot | force slot | decide slot | record slot _ _ =>
    cases h : s.traces[slot]? <;> simp [traced, Tracing.next, Tracing.step, h]

lemma forwarded_eq (s : Tracing) (x : Tracing.Step) : forwarded s x = s.handed x := by
  by_cases hx : ∃ slot mark timestamp, x = .record slot mark timestamp
  · obtain ⟨slot, mark, timestamp, rfl⟩ := hx
    rw [Tracing.handed_record, forwarded]
    congr 1
    funext t
    cases hroute : t.route <;> simp [Trace.record?, Tracing.leads]
  · rw [Tracing.handed_eq_none hx]
    cases x with
    | record slot mark timestamp => exact absurd ⟨slot, mark, timestamp, rfl⟩ hx
    | _ => rfl

lemma Settled.setPipeline (h : p.Settled) (hf : Pipeline.Blind f) :
    Settled { p with pipeline := f p.pipeline } ∧
      ({ p.bare with pipeline := f p.pipeline.bare } : Provider) =
        bare { p with pipeline := f p.pipeline } := by
  obtain ⟨hsampled, hbare⟩ := hf p.pipeline h.pipeline
  refine ⟨⟨h.tracing, hsampled⟩, ?_⟩
  rw [hbare]
  rfl

lemma Settled.trace (h : p.Settled) (x : Tracing.Step) :
    (p.trace x).2.Settled ∧ (p.bare.trace x).2 = (p.trace x).2.bare := by
  obtain ⟨o, hdecided⟩ := h.tracing
  have htracing : ∃ o, Tracing.Decided o (traced p.tracing x) := by
    rw [traced_eq]
    exact ⟨_, hdecided.next x⟩
  have hactive : p.bare.isActive = p.isActive := rfl
  have hbare : p.bare.tracing = p.tracing := rfl
  rw [trace_eq, trace_eq, hactive, hbare, forwarded_eq]
  cases hrecord : if p.isActive = true then p.tracing.handed x else none with
  | none => exact ⟨⟨htracing, h.pipeline⟩, rfl⟩
  | some r =>
    have hhanded : p.tracing.handed x = some r := by
      split at hrecord
      · exact hrecord
      · cases hrecord
    exact ⟨⟨htracing, h.pipeline.dispatch (hdecided.sampled hhanded)⟩, rfl⟩

lemma Settled.start (h : p.Settled) : p.start.1.Settled ∧ p.bare.start.1 = p.start.1.bare := by
  have hstage : p.bare.stage = p.stage := rfl
  have hassembly : p.bare.pipeline.assembly.isSome = p.pipeline.assembly.isSome :=
    Option.isSome_map
  rw [Provider.start, Provider.start, hstage, hassembly]
  cases p.stage with
  | running => exact ⟨h, rfl⟩
  | shutdown => exact ⟨h, rfl⟩
  | built => exact ⟨⟨h.tracing, h.pipeline.queued, h.pipeline.inHand⟩, rfl⟩

lemma Settled.close (h : p.Settled) : p.close.1.Settled ∧ p.bare.close.1 = p.close.1.bare := by
  have hclose := (Pipeline.blindCall_halt p.wasStarted).andThen fun sinks =>
    Pipeline.blindCall_shutdownSinks [] (sinks ++ [.assembler])
  obtain ⟨hsampled, hbare⟩ := hclose p.pipeline h.pipeline
  rw [close_fst, close_fst]
  refine ⟨⟨h.tracing, hsampled⟩, ?_⟩
  exact congrArg (fun called => ({ p.bare with pipeline := called.1, stage := .shutdown } : Provider))
    hbare

theorem Settled.act (h : p.Settled) (a : Action) :
    (p.act a).Settled ∧ p.bare.act a = (p.act a).bare := by
  cases a with
  | trace x => exact h.trace x
  | start => exact h.start
  | shutdown =>
    have hstage : p.bare.stage = p.stage := rfl
    rw [Provider.act, Provider.act, shutdown, shutdown, hstage]
    split
    · exact ⟨h, rfl⟩
    · exact h.close
  | work => exact h.setPipeline Pipeline.blind_work?
  | pass nanos => exact h.setPipeline (Pipeline.blind_pass _)
  | setGate i isOpen =>
    cases isOpen with
    | false =>
      exact h.setPipeline (f := (·.closeGate i))
        (Pipeline.blind_of_dispatcher (fun _ => rfl) fun _ => rfl)
    | true =>
      exact h.setPipeline (f := (·.openGate i))
        (Pipeline.blind_of_dispatcher (fun _ => rfl) fun _ => rfl)

theorem Settled.run (h : p.Settled) (actions : List Action) :
    (p.run actions).Settled ∧ p.bare.run actions = (p.run actions).bare := by
  induction actions using List.reverseRecOn with
  | nil => exact ⟨h, rfl⟩
  | append_singleton actions a ih =>
    obtain ⟨hsettled, hbare⟩ := ih
    rw [run_concat, run_concat, hbare]
    exact hsettled.act a

lemma settled_new (config : DispatcherConfig) (probes : List Probe) (assembly : Option Assembly)
    (sampler : Sampler) (wide : Bool) (ids : IdSource) (sweepInterval : Duration) (clock : Nat) :
    (Provider.new config probes assembly (some sampler) wide ids sweepInterval clock).Settled where
  tracing := ⟨_, Tracing.decided_new wide ids _⟩
  pipeline := ⟨nofun, nofun⟩

/-- Whether a sampler is asked when traces are made, or a filter asks it about their records, the same
records come through. -/
structure SamplesAlike (sampler : Sampler) : Prop where
  alike : ∀ wide ids steps,
    ((Probe.new .memory none).after
        ((Tracing.new wide ids (some (.ofFunction sampler.sample))).recorded steps)).kept.map
          Record.unflagged =
      ((Probe.new (.filter sampler) none).after
        ((Tracing.new wide ids none).recorded steps)).kept.map Record.unflagged
  sampled : ∀ wide ids steps,
    ∀ r ∈ (Tracing.new wide ids (some (.ofFunction sampler.sample))).recorded steps,
      r.flags.status = .sampled
  unfiltered : ∀ config probes assembly wide ids sweepInterval clock actions,
    let p := Provider.new config probes assembly (some sampler) wide ids sweepInterval clock
    (∀ r, .record r ∈ (p.run actions).pipeline.dispatcher.queue.items →
      sampler.admits r.flags r.identity.trace = true) ∧
    p.bare.run actions = (p.run actions).bare

theorem samples_alike (sampler : Sampler) : SamplesAlike sampler where
  alike := Tracing.kept_alike sampler
  sampled wide ids steps r hr :=
    (Tracing.decided_new wide ids (.ofFunction sampler.sample)).recorded steps hr
  unfiltered config probes assembly wide ids sweepInterval clock actions := by
    intro p
    have hnew : p.Settled := settled_new config probes assembly sampler wide ids sweepInterval clock
    obtain ⟨hsettled, hbare⟩ := hnew.run actions
    refine ⟨fun r hr => ?_, hbare⟩
    rw [Sampler.admits, hsettled.pipeline.queued r hr]

/-- At a rate of one half one of two traces comes through, whoever decides that. -/
example :
    let half : Sampler := ⟨⟨0x3fe0000000000000⟩, 0, by decide +kernel⟩
    let steps : List Tracing.Step := [.start .pipeline, .start .pipeline, .record 0 .serverRecv 5,
      .record 1 .serverRecv 6, .record 0 .serverSend 7]
    let kept (sampler : Option Oracle) (p : Probe) : List (UInt64 × UInt64) :=
      (p.after ((Tracing.new false (.listed [1, 2, 600000, 3] 3) sampler).recorded steps)).kept.map
        fun r => (r.identity.trace, r.timestamp)
    kept (some (.ofFunction half.sample)) (.new .memory none) = [(1, 5), (1, 7)] ∧
      kept none (.new (.filter half) none) = [(1, 5), (1, 7)] := by
  decide +kernel

end Provider

end TracePipeline
