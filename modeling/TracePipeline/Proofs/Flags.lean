import Mathlib.Tactic.Lemma
import TracePipeline.Flags

/-!
# Sampling decisions in flags

A decision sets one bit, sets or clears another, and leaves the rest. It replaces any decision that
was there before, and no flags with a decision are in doubt.
-/

namespace TracePipeline

namespace Flags

/-- All bits but those of the sampling decision. -/
def rest (f : Flags) : Flags := f.and (samplingKnown.or sampled).not

/-- There are 256 flags. -/
instance decidableForall (p : Flags → Prop) [DecidablePred p] : Decidable (∀ f, p f) :=
  decidable_of_iff (∀ n : Fin 256, p ⟨UInt8.ofFin n⟩)
    ⟨fun h f => h f.bits.toFin, fun h n => h ⟨UInt8.ofFin n⟩⟩

@[simp] lemma isSamplingKnown_decide : ∀ (f : Flags) (b : Bool),
    (f.decide b).isSamplingKnown = true := by
  decide +kernel

@[simp] lemma contains_sampled_decide : ∀ (f : Flags) (b : Bool),
    (f.decide b).contains sampled = b := by
  decide +kernel

@[simp] lemma decide_decide : ∀ (f : Flags) (b c : Bool), (f.decide b).decide c = f.decide c := by
  decide +kernel

@[simp] lemma rest_decide : ∀ (f : Flags) (b : Bool), (f.decide b).rest = f.rest := by
  decide +kernel

lemma status_decide (f : Flags) (b : Bool) :
    (f.decide b).status = if b then .sampled else .notSampled := by
  rw [status, isSamplingKnown_decide, contains_sampled_decide, if_pos rfl]

lemma status_of_forwards {f : Flags} (hknown : f.isSamplingKnown = true)
    (hforwards : f.forwards = true) : f.status = .sampled := by
  have hsampled : f.contains sampled = true := by simpa [forwards, hknown] using hforwards
  rw [status, if_pos hknown, if_pos hsampled]

end Flags

end TracePipeline
