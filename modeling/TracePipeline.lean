import TracePipeline.Text.Blank
import TracePipeline.Text.Quoted
import TracePipeline.Binary64.Text
import TracePipeline.Binary64.Read
import TracePipeline.Duration
import TracePipeline.Endpoint.Read
import TracePipeline.Record
import TracePipeline.Json.Read
import TracePipeline.Record.Encode
import TracePipeline.Record.Decode
import TracePipeline.Throttle
import TracePipeline.Config.Dispatcher
import TracePipeline.Config.Batch
import TracePipeline.Console
import TracePipeline.Channel
import TracePipeline.Tracing
import TracePipeline.Ambient
import TracePipeline.Task
import TracePipeline.Assembler
import TracePipeline.Export
import TracePipeline.Processor.Simple
import TracePipeline.Processor.Collector
import TracePipeline.Processor.Batch
import TracePipeline.Assembly
import TracePipeline.SweepTimer
import TracePipeline.Probe
import TracePipeline.Dispatcher
import TracePipeline.Pipeline
import TracePipeline.Provider
import TracePipeline.Program
import TracePipeline.Proofs.Table
import TracePipeline.Proofs.Assembler.Calls
import TracePipeline.Proofs.Assembler.Slot
import TracePipeline.Proofs.Assembler.History
import TracePipeline.Proofs.Assembler.Conservation
import TracePipeline.Proofs.Assembler.AtMostOnce
import TracePipeline.Proofs.Assembler.Isolation
import TracePipeline.Proofs.Assembler.Shape
import TracePipeline.Proofs.Throttle
import TracePipeline.Proofs.Assembler.Memory
import TracePipeline.Proofs.Flags
import TracePipeline.Proofs.Tracing.Steps
import TracePipeline.Proofs.Tracing.Decision
import TracePipeline.Proofs.Dispatcher.Session
import TracePipeline.Proofs.Dispatcher.Turn
import TracePipeline.Proofs.Dispatcher.Delivery
import TracePipeline.Proofs.Assembly
import TracePipeline.Proofs.Pipeline
import TracePipeline.Proofs.Provider.Actions
import TracePipeline.Proofs.Provider.Refinement
import TracePipeline.Proofs.Pipeline.Feeding
import TracePipeline.Proofs.Pipeline.Draining
import TracePipeline.Proofs.Pipeline.Cascade
import TracePipeline.Proofs.Provider.Lifecycle
import TracePipeline.Proofs.Provider.Aftermath
import TracePipeline.Proofs.Provider.Shutdown
import TracePipeline.Proofs.Tracing.Sampling
import TracePipeline.Proofs.Unfiltered
import TracePipeline.Proofs.Provider.Sampling
import TracePipeline.Proofs.Batch.Worker
import TracePipeline.Proofs.Batch.Session
import TracePipeline.Proofs.Batch.Invariant
import TracePipeline.Proofs.Batch.Shutdown
import TracePipeline.Proofs.Batch.Conservation
import TracePipeline.Proofs.Batch.Settle
import TracePipeline.Proofs.Text.Numeral
import TracePipeline.Proofs.Text.Lines
import TracePipeline.Proofs.Json.Reading
import TracePipeline.Proofs.Endpoint
import TracePipeline.Proofs.Printing
import TracePipeline.Proofs.Export
import TracePipeline.Proofs.Console
import TracePipeline.Proofs.Batch.Agreement
import TracePipeline.Proofs.Assembly.Calls
import TracePipeline.Proofs.Assembly.Filtering
import TracePipeline.Proofs.Assembly.Sweep
import TracePipeline.Proofs.Assembly.TimeToLive
import TracePipeline.Proofs.Record
import TracePipeline.Proofs.Span
import TracePipeline.Proofs.Batch.Bundling
import TracePipeline.Proofs.IdSource
import TracePipeline.Proofs.Tracing.Identities
import TracePipeline.Proofs.Binary64.Rounding
import TracePipeline.Proofs.Binary64.Value
import TracePipeline.Proofs.Sampler
import TracePipeline.Proofs.Task
import TracePipeline.Proofs.Identity
import TracePipeline.Proofs.Ambient
import TracePipeline.Proofs.Program
import TracePipeline.Proofs.Text.Unsigned
import TracePipeline.Proofs.Config
import TracePipeline.Proofs.Channel.Sending
