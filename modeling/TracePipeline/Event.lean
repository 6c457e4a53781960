import TracePipeline.Duration
import TracePipeline.Error
import TracePipeline.Identity

/-!
# Log events

What the pipeline reports about its own work: each event has a level, a name and fields.
-/

namespace TracePipeline

inductive Level where
  | debug
  | info
  | warn
  | error
  deriving DecidableEq

def Level.text : Level → String
  | .debug => "DEBUG"
  | .info => "INFO"
  | .warn => "WARN"
  | .error => "ERROR"

inductive Event where
  | settingIgnored (name value : String)
  | lateRecordDropped (span : Identity) (mark : String)
  | spanExpired (span : Identity) (records : Nat)
  | assemblerShutdown (flushed : Nat)
  | spanNotSent (reason : TraceError)
  | batchStarted (batchSize : Nat) (window : Duration)
  | bundleNotSent (reason : TraceError)
  | batchExiting
  | spanDropped (suppressed dropped : UInt64)
  | batchShutdown (dropped : UInt64)
  | dispatcherStarted
  | sinkPanicked (sink : String) (span : Identity)
  | dispatcherExiting (delivered : UInt64)
  | dispatcherStopped (dropped : UInt64)
  | drainTimedOut (timeout : Duration) (dropped : UInt64)
  | sweepsBrokeDown
  | providerStarted (sinks : Nat) (sweepInterval : Duration)
  | providerShutdown
  | shutdownFailed (reason : TraceError)
  | droppedAfterShutdown
  deriving DecidableEq

namespace Event

def level : Event → Level
  | settingIgnored _ _ | spanDropped _ _ | batchShutdown _ | sweepsBrokeDown => .warn
  | bundleNotSent _ | sinkPanicked _ _ => .error
  | providerStarted _ _ => .info
  | _ => .debug

def name : Event → String
  | settingIgnored _ _ => "Config.InvalidEnvValue"
  | lateRecordDropped _ _ => "SpanAssembler.LateRecordDropped"
  | spanExpired _ _ => "SpanAssembler.SpanExpired"
  | assemblerShutdown _ => "SpanAssembler.Shutdown"
  | spanNotSent _ => "SimpleSpanProcessor.LogSpan.Error"
  | batchStarted _ _ => "BatchSpanProcessor.ThreadStarted"
  | bundleNotSent _ => "BatchSpanProcessor.SendFailed"
  | batchExiting => "BatchSpanProcessor.ThreadExiting"
  | spanDropped _ _ => "BatchSpanProcessor.SpanDropped"
  | batchShutdown _ => "BatchSpanProcessor.Shutdown"
  | dispatcherStarted => "RecordDispatcher.ThreadStarted"
  | sinkPanicked _ _ => "RecordDispatcher.SinkPanicked"
  | dispatcherExiting _ => "RecordDispatcher.ThreadExiting"
  | dispatcherStopped _ => "RecordDispatcher.Stopped"
  | drainTimedOut _ _ => "RecordDispatcher.DrainTimedOut"
  | sweepsBrokeDown => "SweepTimer.ThreadPanicked"
  | providerStarted _ _ => "TracerProvider.Started"
  | providerShutdown => "TracerProvider.Shutdown"
  | shutdownFailed _ => "TracerProvider.ShutdownError"
  | droppedAfterShutdown => "TracerProvider.Drop.AlreadyShutdown"

/-- A count as a field. -/
def count (n : UInt64) : String := Text.showNat n.toNat

def fields : Event → List (String × String)
  | settingIgnored name value => [("variable", name), ("value", value)]
  | lateRecordDropped span mark => [("span", span.text), ("annotation", mark)]
  | spanExpired span records => [("span", span.text), ("records", Text.showNat records)]
  | assemblerShutdown flushed => [("flushed_incomplete", Text.showNat flushed)]
  | spanNotSent reason | bundleNotSent reason => [("reason", reason.message)]
  | batchStarted batchSize window =>
    [("batch_size", Text.showNat batchSize), ("time_window_ms", count window.millis)]
  | spanDropped suppressed dropped =>
    [("suppressed", count suppressed), ("dropped_total", count dropped)]
  | batchShutdown dropped => [("dropped_spans", count dropped)]
  | sinkPanicked sink span => [("sink", sink), ("span", span.text)]
  | dispatcherExiting delivered => [("delivered", count delivered)]
  | dispatcherStopped dropped => [("dropped_records", count dropped)]
  | drainTimedOut timeout dropped =>
    [("timeout_ms", count timeout.millis), ("dropped_records", count dropped)]
  | providerStarted sinks sweepInterval =>
    [("sinks", Text.showNat sinks), ("sweep_interval_ms", count sweepInterval.millis)]
  | shutdownFailed reason => [("error", reason.message)]
  | batchExiting | dispatcherStarted | sweepsBrokeDown | providerShutdown
  | droppedAfterShutdown => []

end Event

end TracePipeline
