import TracePipeline.Binary64.Text
import TracePipeline.Duration
import TracePipeline.Text.Literal

/-!
# Errors

What can go wrong when something is configured, and when a part of the pipeline is flushed or shut
down, with the message for each cause.
-/

namespace TracePipeline

/-- A value that cannot be used. -/
inductive ConfigError where
  | samplingRate (rate : Binary64)
  | environment (name value : String)
  deriving DecidableEq

/-- Why a part of the pipeline did not do what it was asked for. -/
inductive TraceError where
  | alreadyShutdown
  | timedOut (after : Duration)
  | channelClosed (component : String)
  | serialization (cause : String)
  | other (text : String)
  deriving DecidableEq

namespace ConfigError

def message : ConfigError → String
  | samplingRate rate => "sampling rate must be between 0.0 and 1.0, got " ++ rate.plain
  | environment name value =>
    "invalid value " ++ Text.quoted value ++ " for environment variable " ++ name

def literal : ConfigError → String
  | samplingRate rate => Text.applied "InvalidSamplingRate" rate.literal
  | environment name value =>
    Text.fields "InvalidEnvValue" [("name", Text.quoted name), ("value", Text.quoted value)]

end ConfigError

namespace TraceError

def message : TraceError → String
  | alreadyShutdown => "already shut down"
  | timedOut after => "timed out after " ++ after.text
  | channelClosed component => component ++ " channel closed"
  | serialization cause => "serialization failed: " ++ cause
  | other text => text

def literal : TraceError → String
  | alreadyShutdown => "AlreadyShutdown"
  | timedOut after => Text.applied "ShutdownTimedOut" after.text
  | channelClosed component => Text.applied "ChannelClosed" (Text.quoted component)
  | serialization cause =>
    Text.applied "Serialization"
      (Text.fields "Custom" [("kind", "Other"), ("error", Text.quoted cause)])
  | other text => Text.applied "Other" (Text.quoted text)

/-- The error behind an error. -/
def source : TraceError → Option String
  | serialization cause => some cause
  | _ => none

/-- What is reported where a lock was held by something that broke down. -/
def poisoned : TraceError := other "poisoned lock: another task failed inside"

/-- Several failures of one shutdown. -/
def combined (errors : List TraceError) : TraceError :=
  other ("shutdown errors: " ++ Text.commas (errors.map message))

end TraceError

end TracePipeline
