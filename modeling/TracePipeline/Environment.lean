import TracePipeline.Binary64.Read
import TracePipeline.Event
import TracePipeline.Sampler
import TracePipeline.Text.Blank

/-!
# Environment variables

Variables hold bytes. One whose bytes are no text counts as unset. Numbers may stand between white
space; a value that is no number is reported and passed over.
-/

namespace TracePipeline

/-- The variables that are set. -/
abbrev Environment := List (String × ByteArray)

namespace Environment

/-- The text of a variable. -/
def text? (env : Environment) (name : String) : Option String :=
  (env.lookup name).bind String.fromUTF8?

/-- The unsigned number of 64 bits that a variable holds. -/
def number (env : Environment) (name : String) : Option UInt64 × List Event :=
  match env.text? name with
  | none => (none, [])
  | some value =>
    match Text.readUnsigned? UInt64.size (Text.trimmed value.toList) with
    | some n => (some (UInt64.ofNat n), [])
    | none => (none, [.settingIgnored name value])

def samplingRate : String := "ZTRACE_SAMPLING_RATE"

/-- The sampler for the rate that the environment asks for; without one everything is sampled. -/
def sampler (env : Environment) (salt : UInt64) : Except ConfigError Sampler :=
  match env.text? samplingRate with
  | none => Sampler.new (.ofNat 1) salt
  | some value =>
    match Binary64.read? (Text.trimmed value.toList) with
    | some rate => Sampler.new rate salt
    | none => .error (.environment samplingRate value)

end Environment

end TracePipeline
