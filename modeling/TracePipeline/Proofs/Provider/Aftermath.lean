import TracePipeline.Proofs.Provider.Lifecycle

/-!
# A provider that was shut down in time

Once a provider is shut down nothing is accepted any more. If the worker had delivered everything by
then, it has nothing to do from then on, whoever comes later, and the assembler stays what it is.
-/

namespace TracePipeline

namespace Pipeline

/-- The worker is through and nobody sweeps the assembler. -/
structure Quiet (a : Option Assembler) (p : Pipeline) : Prop where
  idle : p.dispatcher.isDelivering = false
  empty : p.dispatcher.hasExited = true ∨ p.dispatcher.queue.items = []
  timer : p.timer = .stopped
  assembler : p.assembly.map Assembly.assembler = a

lemma call_timer (p : Pipeline) (r : Record) (target : Target) :
    (p.call r target).timer = p.timer := by
  cases target with
  | probe i => rw [call]; split <;> rfl
  | assembler => rw [call]; split <;> rfl

lemma pass_stopped {p : Pipeline} (htimer : p.timer = .stopped) (time : Nat) :
    (p.pass time).timer = .stopped ∧
      (p.pass time).assembly.map Assembly.assembler = p.assembly.map Assembly.assembler := by
  rw [pass]
  split
  · exact ⟨htimer, rfl⟩
  · rename_i a ha
    rw [htimer, ha]
    exact ⟨rfl, rfl⟩

/-- Nobody starts the timer again. -/
lemma steady_timer : Steady fun p : Pipeline => p.timer = .stopped where
  work? := by
    rintro p p' htimer hwork
    rcases work?_cases hwork with ⟨target, r, -, rfl⟩ | ⟨d, -, rfl⟩ | ⟨d, log, -, rfl⟩
    · exact (p.call_timer r target).trans htimer
    · exact htimer
    · exact htimer
  pass time htimer := (pass_stopped htimer time).1
  setGate _ _ h := h
  setOpenings _ h := h

theorem steady_quiet (a : Option Assembler) (D : Bool → Prop) :
    Steady fun p => Quiet a p ∧ D p.dispatcher.isStopped where
  work? := by
    rintro p p' ⟨h, -⟩ hwork
    rw [work?_of_idle h.idle h.empty] at hwork
    cases hwork
  pass := by
    rintro p time ⟨h, hstopped⟩
    obtain ⟨htimer, hassembler⟩ := pass_stopped h.timer time
    have hsame := p.pass_dispatcher time
    exact ⟨⟨hsame ▸ h.idle, hsame ▸ h.empty, htimer, hassembler.trans h.assembler⟩,
      hsame ▸ hstopped⟩
  setGate _ _ h := ⟨⟨h.1.idle, h.1.empty, h.1.timer, h.1.assembler⟩, h.2⟩
  setOpenings _ h := ⟨⟨h.1.idle, h.1.empty, h.1.timer, h.1.assembler⟩, h.2⟩

end Pipeline

namespace Provider

/-- A provider after its shutdown, if its worker is through. -/
structure Silent (a : Option Assembler) (p : Provider) : Prop where
  stage : p.stage = .shutdown
  quiet : p.pipeline.Quiet a
  inactive : p.wasStarted = true → p.pipeline.dispatcher.isStopped = true

variable {a : Option Assembler} {p : Provider} {q : Pipeline}

lemma Silent.steady (h : Silent a p) (hq : ∀ P, Pipeline.Steady P → P p.pipeline → P q) :
    Silent a { p with pipeline := q } := by
  obtain ⟨hquiet, hinactive⟩ := hq _
    (Pipeline.steady_quiet a fun stopped => p.wasStarted = true → stopped = true)
    ⟨h.quiet, h.inactive⟩
  exact ⟨h.stage, hquiet, hinactive⟩

lemma Silent.act (h : Silent a p) (action : Action) : Silent a (p.act action) := by
  cases action with
  | trace step =>
    have hinactive : p.isActive = false := by
      cases hstarted : p.wasStarted with
      | true => simp [isActive, h.inactive hstarted]
      | false => simp [isActive, hstarted]
    rw [Provider.act, trace_eq, hinactive]
    exact ⟨h.stage, h.quiet, h.inactive⟩
  | start =>
    rw [Provider.act, Provider.start, h.stage]
    exact h
  | shutdown =>
    rw [Provider.act, Provider.shutdown, if_pos h.stage]
    exact h
  | work => exact h.steady fun P hP hp => hP.workOnce hp
  | pass nanos => exact h.steady fun P hP hp => hP.pass _ hp
  | setGate i isOpen => exact h.steady fun P hP hp => hP.gate i isOpen hp

/-- Whoever changes the sinks waits before. -/
lemma Silent.changeSinks (h : Silent a p) (sinks : List Target) :
    Silent a { p with pipeline := { p.pipeline.betweenRecords with
      dispatcher := { p.pipeline.betweenRecords.dispatcher with sinks } } } := by
  have hwaited := h.steady fun P hP hp => hP.betweenRecords hp
  exact ⟨hwaited.stage, ⟨hwaited.quiet.idle, hwaited.quiet.empty, hwaited.quiet.timer,
    hwaited.quiet.assembler⟩, hwaited.inactive⟩

/-- Neither new probes nor whatever else happens wakes the worker up. -/
theorem Silent.move (h : Silent a p) (m : Move) : Silent a (p.move m) := by
  cases m with
  | act action => exact h.act action
  | addProbe probe =>
    have hadded : Silent a { p with pipeline :=
        { p.pipeline with probes := p.pipeline.probes ++ [probe] } } :=
      ⟨h.stage, ⟨h.quiet.idle, h.quiet.empty, h.quiet.timer, h.quiet.assembler⟩, h.inactive⟩
    obtain ⟨sinks, hregister⟩ := Pipeline.register_fst
      { p.pipeline with probes := p.pipeline.probes ++ [probe] } (.probe p.pipeline.probes.length)
    change Silent a { p with pipeline := (p.pipeline.addProbe probe).1 }
    rw [Pipeline.addProbe, hregister]
    exact hadded.changeSinks sinks
  | clearSinks =>
    obtain ⟨sinks, hclear⟩ := p.pipeline.clear_fst
    change Silent a { p with pipeline := p.pipeline.clear.1 }
    rw [hclear]
    exact h.changeSinks sinks
  | openLater i nanos => exact h.steady fun P hP hp => hP.setOpenings _ hp

lemma Silent.moves (h : Silent a p) (l : List Move) : Silent a (p.moves l) :=
  List.foldlRecOn l Provider.move h fun _ hq m _ => hq.move m

end Provider

end TracePipeline
