import TracePipeline.Environment

/-!
# Configuration of the batch processor

Each setting has a default, which a variable overrides, which a setter overrides. The queue holds at
least one span, and a bundle at least one and at most as many as the queue.
-/

namespace TracePipeline

structure BatchConfig where
  maxQueueSize : Nat
  batchSize : Nat
  timeWindow : Duration
  shutdownTimeout : Duration
  batch_pos : 1 ≤ batchSize
  batch_le_queue : batchSize ≤ maxQueueSize

namespace BatchConfig

/-- Settings on their way to a configuration. -/
structure Builder where
  maxQueueSize : Nat
  batchSize : Nat
  timeWindow : Duration
  shutdownTimeout : Duration

inductive Setter where
  | maxQueueSize (n : Nat)
  | batchSize (n : Nat)
  | timeWindow (d : Duration)
  | shutdownTimeout (d : Duration)

namespace Builder

def standard : Builder := ⟨1000, 10, .ofMillis 5000, .ofMillis 10000⟩

/-- The defaults, overridden by the variables that are set. -/
def ofEnvironment (env : Environment) : Builder × List Event :=
  let (queue, log₁) := env.number "ZTRACE_BSP_MAX_QUEUE_SIZE"
  let (batch, log₂) := env.number "ZTRACE_BSP_BATCH_SIZE"
  let (window, log₃) := env.number "ZTRACE_BSP_TIME_WINDOW"
  let (timeout, log₄) := env.number "ZTRACE_BSP_SHUTDOWN_TIMEOUT"
  (⟨(queue.map UInt64.toNat).getD standard.maxQueueSize,
    (batch.map UInt64.toNat).getD standard.batchSize,
    (window.map Duration.ofMillis).getD standard.timeWindow,
    (timeout.map Duration.ofMillis).getD standard.shutdownTimeout⟩,
    log₁ ++ log₂ ++ log₃ ++ log₄)

def set (b : Builder) : Setter → Builder
  | .maxQueueSize n => { b with maxQueueSize := n }
  | .batchSize n => { b with batchSize := n }
  | .timeWindow d => { b with timeWindow := d }
  | .shutdownTimeout d => { b with shutdownTimeout := d }

def build (b : Builder) : BatchConfig where
  maxQueueSize := max b.maxQueueSize 1
  batchSize := max (min b.batchSize (max b.maxQueueSize 1)) 1
  timeWindow := b.timeWindow
  shutdownTimeout := b.shutdownTimeout
  batch_pos := by omega
  batch_le_queue := by omega

end Builder

/-- The configuration that an environment and setters lead to, and what was reported. -/
def configure (env : Environment) (setters : List Setter) : BatchConfig × List Event :=
  let (b, log) := Builder.ofEnvironment env
  ((setters.foldl Builder.set b).build, log)

def literal (c : BatchConfig) : String :=
  Text.fields "BatchConfig" [
    ("max_queue_size", Text.showNat c.maxQueueSize),
    ("batch_size", Text.showNat c.batchSize),
    ("time_window", c.timeWindow.text),
    ("shutdown_timeout", c.shutdownTimeout.text)]

end BatchConfig

end TracePipeline
