import TracePipeline.Record

/-!
# Console sink

Prints a line for every record until it is shut down.
-/

namespace TracePipeline

structure Console where
  isShutdown : Bool := false

namespace Console

/-- The time, the identity, the flags and the annotation of a record, and a line feed. -/
def line (r : Record) : String :=
  Text.showNat r.timestamp.toNat ++ " " ++ r.identity.text ++ " flags=0x" ++ r.flags.hexByte ++
    " " ++ r.annotation.text ++ "\n"

/-- What is printed for a record. -/
def record (c : Console) (r : Record) : String := if c.isShutdown then "" else line r

def shutdown (_ : Console) : Console := ⟨true⟩

inductive Step where
  | record (r : Record)
  | shutdown

/-- What one call prints, and the sink after it. -/
def step (c : Console) : Step → String × Console
  | .record r => (c.record r, c)
  | .shutdown => ("", c.shutdown)

/-- What each of a sequence of calls prints. -/
def run (c : Console) : List Step → List String
  | [] => []
  | s :: rest => let (printed, c) := c.step s; printed :: run c rest

end Console

end TracePipeline
