import TracePipeline.Span

/-!
# Export formats

How spans become one payload, which is a number of bytes. A format may fail on a bundle, or break
down altogether.
-/

namespace TracePipeline

/-- What a format makes of a bundle. -/
inductive Serialized where
  | payload (bytes : ByteArray)
  | failed (cause : String)
  | brokeDown

/-- A format for bundles of spans. -/
abbrev Format := List Span → Serialized

namespace Format

/-- A line for every span. -/
def lines (spans : List Span) : String := String.join (spans.map fun s => s.literal ++ "\n")

/-- The lines of a payload. What follows the last line feed is a line only if it is not empty. -/
def linesOf (payload : String) : List String :=
  match ((payload.toList.splitOn '\n').map String.ofList).reverse with
  | "" :: rest => rest.reverse
  | rest => rest.reverse

/-- The literals of the spans, a line each. -/
def debug : Format := fun spans => .payload (lines spans).toUTF8

/-- A JSON array of the spans. -/
def json : Format := fun spans => .payload (Json.array (spans.map Span.toJson)).compact.toUTF8

/-- The number of the spans. -/
def count : Format := fun spans => .payload (Text.showNat spans.length).toUTF8

/-- Nothing. -/
def empty : Format := fun _ => .payload .empty

/-- Fails on every bundle. -/
def failing (cause : String) : Format := fun _ => .failed cause

/-- The literals of at most `most` spans; fails on larger bundles. -/
def limited (most : Nat) : Format := fun spans =>
  if most < spans.length then .failed (Text.showNat spans.length ++ " spans")
  else .payload (lines spans).toUTF8

/-- Breaks down on every bundle. -/
def breaking : Format := fun _ => .brokeDown

end Format

end TracePipeline
