import TracePipeline.Environment

/-!
# Configuration of the dispatcher

Each setting has a default, which a variable overrides, which a setter overrides. The queue holds at
least one record.
-/

namespace TracePipeline

structure DispatcherConfig where
  maxQueueSize : Nat
  shutdownTimeout : Duration
  queue_pos : 1 ≤ maxQueueSize

namespace DispatcherConfig

/-- Settings on their way to a configuration. -/
structure Builder where
  maxQueueSize : Nat
  shutdownTimeout : Duration

inductive Setter where
  | maxQueueSize (n : Nat)
  | shutdownTimeout (d : Duration)

namespace Builder

def standard : Builder := ⟨5000, .ofMillis 10000⟩

/-- The defaults, overridden by the variables that are set. -/
def ofEnvironment (env : Environment) : Builder × List Event :=
  let (size, log) := env.number "ZTRACE_DISPATCHER_MAX_QUEUE_SIZE"
  let (timeout, log') := env.number "ZTRACE_DISPATCHER_SHUTDOWN_TIMEOUT"
  (⟨(size.map UInt64.toNat).getD standard.maxQueueSize,
    (timeout.map Duration.ofMillis).getD standard.shutdownTimeout⟩, log ++ log')

def set (b : Builder) : Setter → Builder
  | .maxQueueSize n => { b with maxQueueSize := n }
  | .shutdownTimeout d => { b with shutdownTimeout := d }

def build (b : Builder) : DispatcherConfig where
  maxQueueSize := max b.maxQueueSize 1
  shutdownTimeout := b.shutdownTimeout
  queue_pos := by omega

end Builder

/-- The configuration that an environment and setters lead to, and what was reported. -/
def configure (env : Environment) (setters : List Setter) : DispatcherConfig × List Event :=
  let (b, log) := Builder.ofEnvironment env
  ((setters.foldl Builder.set b).build, log)

def literal (c : DispatcherConfig) : String :=
  Text.fields "DispatcherConfig" [
    ("max_queue_size", Text.showNat c.maxQueueSize),
    ("shutdown_timeout", c.shutdownTimeout.text)]

end DispatcherConfig

end TracePipeline
