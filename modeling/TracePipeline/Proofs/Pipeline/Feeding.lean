import TracePipeline.Proofs.Pipeline

/-!
# Sinks that are only fed

The worker gives the sinks records, gates open and close, and while time passes the assembler is
swept. None of this shuts a sink down, nor the processor behind the assembler. What happens to a
pipeline is made of a few things only, so whatever these leave as it was is left by all that waits
for something.
-/

namespace TracePipeline

namespace Probe

/-- What happens to a probe that is in use. -/
inductive Input where
  | record (r : Record)
  | setOpen (isOpen : Bool)

def Input.record? : Input → Option Record
  | .record r => some r
  | .setOpen _ => none

def take (p : Probe) : Input → Probe
  | .record r => (p.record r).1
  | .setOpen isOpen => p.setOpen isOpen

def feed (p : Probe) (inputs : List Input) : Probe := inputs.foldl take p

lemma feed_append (p : Probe) (inputs more : List Input) :
    p.feed (inputs ++ more) = (p.feed inputs).feed more :=
  List.foldl_append

lemma map_feed_feed (o : Option Probe) (inputs more : List Input) :
    (o.map (·.feed inputs)).map (·.feed more) = o.map (·.feed (inputs ++ more)) := by
  rw [Option.map_map]
  congr 1
  exact funext fun p => (p.feed_append inputs more).symm

lemma take_keeps (p : Probe) (input : Input) :
    (p.take input).shutdowns = p.shutdowns ∧ (p.take input).failure = p.failure := by
  cases input with
  | record r =>
    rw [take, record]
    cases p.kind with
    | filter s => dsimp only; split <;> exact ⟨rfl, rfl⟩
    | memory | faulty | gate _ | assembler _ _ => exact ⟨rfl, rfl⟩
  | setOpen isOpen =>
    rw [take, setOpen]
    split <;> exact ⟨rfl, rfl⟩

lemma feed_keeps (p : Probe) (inputs : List Input) :
    (p.feed inputs).shutdowns = p.shutdowns ∧ (p.feed inputs).failure = p.failure := by
  induction inputs generalizing p with
  | nil => exact ⟨rfl, rfl⟩
  | cons input inputs ih =>
    obtain ⟨hshutdowns, hfailure⟩ := ih (p.take input)
    obtain ⟨hshutdowns', hfailure'⟩ := p.take_keeps input
    exact ⟨hshutdowns.trans hshutdowns', hfailure.trans hfailure'⟩

end Probe

namespace Assembly

/-- What happens to an assembly that is in use. -/
inductive Input where
  | record (r : Record)
  | wait (nanos : Nat)
  | sweep (now : UInt64)

def Input.record? : Input → Option Record
  | .record r => some r
  | .wait _ | .sweep _ => none

def take (a : Assembly) : Input → Assembly
  | .record r => (a.record r).1
  | .wait nanos => a.wait nanos
  | .sweep now => (a.sweep now).1

def feed (a : Assembly) (inputs : List Input) : Assembly := inputs.foldl take a

lemma feed_append (a : Assembly) (inputs more : List Input) :
    a.feed (inputs ++ more) = (a.feed inputs).feed more :=
  List.foldl_append

lemma map_feed_feed (o : Option Assembly) (inputs more : List Input) :
    (o.map (·.feed inputs)).map (·.feed more) = o.map (·.feed (inputs ++ more)) := by
  rw [Option.map_map]
  congr 1
  exact funext fun a => (a.feed_append inputs more).symm

/-- The assembler is not shut down, and the processor is handed spans and sees time pass. -/
structure Runs (a b : Assembly) : Prop where
  isShutdown : b.assembler.isShutdown = a.assembler.isShutdown
  processor : ∃ inputs, .shutdown ∉ inputs ∧ b.processor = a.processor.feed inputs

variable {a b c : Assembly}

lemma Runs.refl (a : Assembly) : Runs a a := ⟨rfl, [], List.not_mem_nil, rfl⟩

lemma Runs.trans (h : Runs a b) (h' : Runs b c) : Runs a c := by
  obtain ⟨inputs, hinputs, hprocessor⟩ := h.processor
  obtain ⟨more, hmore, hprocessor'⟩ := h'.processor
  refine ⟨h'.isShutdown.trans h.isShutdown, inputs ++ more, ?_, ?_⟩
  · simp [hinputs, hmore]
  · rw [hprocessor', hprocessor, Processor.feed, Processor.feed, Processor.feed, List.foldl_append]

lemma runs_handOver (a : Assembly) {assembler : Assembler}
    (h : assembler.isShutdown = a.assembler.isShutdown) (out : Handover) :
    Runs a (a.handOver assembler out).1 :=
  ⟨h, [.spans out.spans], by simp, rfl⟩

lemma isShutdown_record (a : Assembler) (r : Record) :
    (a.record r).1.isShutdown = a.isShutdown := by
  rw [Assembler.record]
  split
  · rfl
  · dsimp only
    split <;> rfl

lemma runs_take (a : Assembly) (input : Input) : Runs a (a.take input) := by
  cases input with
  | record r =>
    rw [take, record]
    split
    · exact a.runs_handOver (isShutdown_record a.assembler r) _
    · exact .refl a
  | wait nanos => exact ⟨rfl, [.wait nanos], by simp, rfl⟩
  | sweep now =>
    obtain ⟨statistics, hleft⟩ :=
      a.handOverEach_fst (a.assembler.flushOld now).1 (a.assembler.flushOld now).2
    rw [take, sweep]
    dsimp only
    rw [hleft]
    exact ⟨rfl, [.spans _], by simp, rfl⟩

theorem runs_feed (a : Assembly) (inputs : List Input) : Runs a (a.feed inputs) := by
  induction inputs generalizing a with
  | nil => exact .refl a
  | cons input inputs ih => exact (a.runs_take input).trans (ih (a.take input))

end Assembly

namespace SweepTimer

lemma sweep_snd (interval : Duration) (a : Assembly) (time : Nat) :
    (sweep interval a time).2 = a.take (.sweep (UInt64.ofNat (time / Duration.micro))) := rfl

/-- While time passes there is nothing but sweeps. -/
lemma advance_snd (t : SweepTimer) (a : Assembly) (now time : Nat) :
    ∃ inputs, (t.advance a now time).2 = a.feed inputs ∧
      inputs.filterMap Assembly.Input.record? = [] := by
  cases t with
  | stopped | brokeDown => exact ⟨[.wait (time - now)], rfl, rfl⟩
  | running interval due =>
    rw [advance]
    split
    · exact ⟨[.wait (time - now)], rfl, rfl⟩
    · have hswept := sweep_snd interval (a.wait (due - now)) due
      generalize sweep interval (a.wait (due - now)) due = swept at hswept
      obtain ⟨t, a'⟩ := swept
      subst hswept
      cases t with
      | stopped | brokeDown => exact ⟨[.wait _, .sweep _, .wait (time - due)], rfl, rfl⟩
      | running interval' next =>
        dsimp only
        split
        · exact ⟨[.wait _, .sweep _, .wait (time - due)], rfl, rfl⟩
        · exact ⟨[.wait _, .sweep _, .wait _, .sweep _, .wait _], rfl, rfl⟩

end SweepTimer

namespace Pipeline

/-- What is made of the few things that happen to a pipeline does not change this. -/
structure Steady (P : Pipeline → Prop) : Prop where
  work? : ∀ {p p'}, P p → p.work? = some p' → P p'
  pass : ∀ {p} time, P p → P (p.pass time)
  setGate : ∀ {p} i isOpen, P p → P (p.modifyProbe i (·.setOpen isOpen))
  setOpenings : ∀ {p} openings, P p → P { p with openings }

variable {P : Pipeline → Prop} {p q r : Pipeline}

lemma Steady.work (h : Steady P) (hp : P p) (holds : Pipeline → Bool) (n : Nat) :
    P (p.work holds n) := by
  induction n generalizing p with
  | zero => exact hp
  | succ n ih =>
    rw [Pipeline.work]
    split
    · exact hp
    · split
      · exact hp
      · rename_i p' hwork
        exact ih (h.work? hp hwork)

lemma Steady.settle (h : Steady P) (hp : P p) : P p.settle := h.work hp _ _

lemma Steady.waitFor (h : Steady P) {goOn : Pipeline → Pipeline} (hgoOn : ∀ p, P p → P (goOn p))
    (holds : Pipeline → Bool) (deadline : Option Nat) (openings : List (Nat × Nat)) (hp : P p) :
    P (Pipeline.waitFor goOn holds deadline openings p) := by
  have hpass : ∀ {p : Pipeline}, P p → P (deadline.elim p p.pass) := by
    intro p hp
    cases deadline with
    | none => exact hp
    | some time => exact h.pass time hp
  induction openings generalizing p with
  | nil =>
    rw [Pipeline.waitFor]
    split
    · exact h.setOpenings [] hp
    · exact hpass (h.setOpenings [] hp)
  | cons opening rest ih =>
    have hset := h.setOpenings (opening :: rest) hp
    rw [Pipeline.waitFor]
    split
    · exact hset
    · split
      · exact hpass hset
      · exact ih (hgoOn _ (h.setGate _ true (h.pass _ hset)))

lemma Steady.workOnce (h : Steady P) (hp : P p) : P (p.work?.getD p) := by
  cases hwork : p.work? with
  | none => exact hp
  | some q => exact h.work? hp hwork

lemma Steady.gate (h : Steady P) (i : Nat) (isOpen : Bool) (hp : P p) :
    P (if isOpen then p.openGate i else p.closeGate i) := by
  cases isOpen with
  | true => exact h.setGate i true hp
  | false => exact h.setGate i false hp

lemma Steady.betweenRecords (h : Steady P) (hp : P p) : P p.betweenRecords :=
  h.waitFor (fun _ hp => h.work hp _ _) _ none p.openings (h.work hp _ _)

/-- From one pipeline to the other, sinks were only fed. -/
structure Feeds (p q : Pipeline) : Prop where
  probes : ∀ (i : Nat) (probe : Probe), p.probes[i]? = some probe →
    ∃ inputs, q.probes[i]? = some (probe.feed inputs)
  assembly : ∃ inputs, q.assembly = p.assembly.map (·.feed inputs)

lemma Feeds.of_eq (hprobes : q.probes = p.probes) (hassembly : q.assembly = p.assembly) :
    Feeds p q := by
  refine ⟨fun i probe hi => ⟨[], ?_⟩, [], ?_⟩
  · rw [hprobes, hi]
    rfl
  · rw [hassembly]
    exact Option.map_id'.symm

lemma Feeds.refl (p : Pipeline) : Feeds p p := .of_eq rfl rfl

lemma Feeds.trans (h : Feeds p q) (h' : Feeds q r) : Feeds p r := by
  refine ⟨fun i probe hi => ?_, ?_⟩
  · obtain ⟨inputs, hq⟩ := h.probes i probe hi
    obtain ⟨more, hr⟩ := h'.probes i _ hq
    exact ⟨inputs ++ more, by rw [hr, Probe.feed_append]⟩
  · obtain ⟨inputs, hq⟩ := h.assembly
    obtain ⟨more, hr⟩ := h'.assembly
    exact ⟨inputs ++ more, by rw [hr, hq, Assembly.map_feed_feed]⟩

lemma feeds_setGate (p : Pipeline) (i : Nat) (isOpen : Bool) :
    Feeds p (p.modifyProbe i (·.setOpen isOpen)) := by
  refine ⟨fun j probe hj => ?_, [], Option.map_id'.symm⟩
  rw [modifyProbe, List.getElem?_modify, hj]
  by_cases hij : i = j
  · exact ⟨[.setOpen isOpen], by simp [hij, Probe.feed, Probe.take]⟩
  · exact ⟨[], by simp [hij, Probe.feed]⟩

/-- What a call feeds the sinks. -/
lemma call_feeds (p : Pipeline) (r : Record) (target : Target) :
    (∀ i : Nat, (p.call r target).probes[i]? =
      p.probes[i]?.map (·.feed (if target = .probe i then [.record r] else []))) ∧
    (p.call r target).assembly =
      p.assembly.map (·.feed (if target = .assembler then [.record r] else [])) := by
  cases target with
  | probe j =>
    refine ⟨fun i => ?_, ?_⟩
    · rw [call]
      cases hj : p.probes[j]? with
      | none =>
        by_cases hij : j = i
        · subst hij
          simp [hj]
        · simp [hij, Probe.feed]
      | some probe =>
        by_cases hij : j = i
        · subst hij
          obtain ⟨hlt, hget⟩ := List.getElem?_eq_some_iff.mp hj
          simp [hlt, hget, Probe.feed, Probe.take]
        · simp [hij, Probe.feed]
    · rw [(call_probe p r j).1]
      exact Option.map_id'.symm
  | assembler =>
    refine ⟨fun i => ?_, ?_⟩
    · have hprobes : (p.call r .assembler).probes = p.probes := by
        rw [call]
        split <;> rfl
      rw [hprobes]
      exact Option.map_id'.symm
    · rw [call]
      split <;> simp_all [Assembly.feed, Assembly.take]

/-- What the assembler is fed while time passes. -/
lemma pass_feeds (p : Pipeline) (time : Nat) :
    (p.pass time).probes = p.probes ∧
    ∃ inputs, (p.pass time).assembly = p.assembly.map (·.feed inputs) ∧
      inputs.filterMap Assembly.Input.record? = [] := by
  rw [pass]
  split
  · rename_i hnone
    exact ⟨rfl, [], by simp [hnone], rfl⟩
  · rename_i a ha
    obtain ⟨inputs, hinputs, hrecords⟩ := p.timer.advance_snd a p.clock (max p.clock time)
    exact ⟨rfl, inputs, by rw [ha, Option.map_some, ← hinputs], hrecords⟩

lemma feeds_call (p : Pipeline) (r : Record) (target : Target) : Feeds p (p.call r target) := by
  obtain ⟨hprobes, hassembly⟩ := p.call_feeds r target
  refine ⟨fun i probe hi => ?_, _, hassembly⟩
  have hcalled := hprobes i
  rw [hi] at hcalled
  exact ⟨_, hcalled⟩

lemma feeds_work? (h : p.work? = some q) : Feeds p q := by
  rcases work?_cases h with ⟨target, r, -, rfl⟩ | ⟨d, -, rfl⟩ | ⟨d, log, -, rfl⟩
  · exact (p.feeds_call r target).trans (.of_eq rfl rfl)
  · exact .of_eq rfl rfl
  · exact .of_eq rfl rfl

lemma feeds_pass (p : Pipeline) (time : Nat) : Feeds p (p.pass time) := by
  obtain ⟨hprobes, inputs, hassembly, -⟩ := p.pass_feeds time
  refine ⟨fun i probe hi => ⟨[], ?_⟩, inputs, hassembly⟩
  rw [hprobes, hi]
  rfl

theorem steady_feeds (p : Pipeline) : Steady (Feeds p) where
  work? h hwork := h.trans (feeds_work? hwork)
  pass time h := h.trans (feeds_pass _ time)
  setGate i isOpen h := h.trans (feeds_setGate _ i isOpen)
  setOpenings _ h := h.trans (.of_eq rfl rfl)

lemma feeds_betweenRecords (p : Pipeline) : Feeds p p.betweenRecords :=
  (steady_feeds p).betweenRecords (.refl p)

lemma feeds_clear (p : Pipeline) : Feeds p p.clear.1 := by
  obtain ⟨sinks, hclear⟩ := p.clear_fst
  rw [hclear]
  exact p.feeds_betweenRecords.trans (.of_eq rfl rfl)

lemma feeds_addProbe (p : Pipeline) (probe : Probe) : Feeds p (p.addProbe probe).1 := by
  have hadded : Feeds p { p with probes := p.probes ++ [probe] } := by
    refine ⟨fun i probe' hi => ⟨[], ?_⟩, [], Option.map_id'.symm⟩
    obtain ⟨hlt, -⟩ := List.getElem?_eq_some_iff.mp hi
    exact (List.getElem?_append_left hlt).trans hi
  obtain ⟨sinks, hregister⟩ :=
    register_fst { p with probes := p.probes ++ [probe] } (.probe p.probes.length)
  rw [addProbe, hregister]
  exact hadded.trans ((feeds_betweenRecords _).trans (.of_eq rfl rfl))

end Pipeline

end TracePipeline
