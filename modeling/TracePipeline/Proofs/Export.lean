import TracePipeline.Export
import TracePipeline.Proofs.Printing

/-!
# Lines of a payload

The debug format takes every bundle and writes the literal of each of its spans on a line of its own. No
literal has a line feed inside, so a payload has as many as the bundle has spans, and the literals are
what it is split into.
-/

namespace TracePipeline.Format

open Text

/-- A payload that has the literals of the spans on a line each. A bundle that has these spans first is
written as this payload and the one of the rest. -/
structure WritesLines (spans : List Span) (payload : String) : Prop where
  written : debug spans = .payload payload.toUTF8
  lineFeeds : lineFeeds payload = spans.length
  last : spans ≠ [] → payload.toList.getLast? = some '\n'
  split : payload.toList.splitOn '\n' = spans.map (·.literal.toList) ++ [[]]
  lines : linesOf payload = spans.map Span.literal
  appended : ∀ more rest, debug more = .payload rest →
    debug (spans ++ more) = .payload (payload.toUTF8 ++ rest)

variable {texts : List String} {spans : List Span}

lemma lines_eq_lined (spans : List Span) : lines spans = lined (spans.map Span.literal) := by
  unfold lines lined
  rw [List.map_map]
  rfl

lemma lines_append (spans more : List Span) : lines (spans ++ more) = lines spans ++ lines more := by
  rw [lines_eq_lined, lines_eq_lined, lines_eq_lined, List.map_append, lined_append]

lemma toUTF8_lines_append (spans more : List Span) :
    (lines (spans ++ more)).toUTF8 = (lines spans).toUTF8 ++ (lines more).toUTF8 := by
  rw [lines_append]
  exact String.toByteArray_append

lemma oneLine_of_mem_literals : ∀ s ∈ spans.map Span.literal, OneLine s := by
  intro text htext
  obtain ⟨s, -, rfl⟩ := List.mem_map.mp htext
  exact s.oneLine_literal

/-- What follows the last line feed of a payload of whole lines is empty, and not a line. -/
lemma linesOf_lined (h : ∀ s ∈ texts, OneLine s) : linesOf (lined texts) = texts := by
  have hall : ((lined texts).toList.splitOn '\n').map String.ofList = texts ++ [""] := by
    have hback : String.ofList ∘ String.toList = id := funext fun _ => String.ofList_toList
    rw [splitOn_lined h, List.map_append, List.map_map, hback, List.map_id]
    rfl
  unfold linesOf
  rw [hall, List.reverse_concat]
  exact List.reverse_reverse texts

theorem debug_writes_lines (spans : List Span) : ∃ payload, WritesLines spans payload := by
  refine ⟨lines spans, rfl, ?_, ?_, ?_, ?_, ?_⟩
  · rw [lines_eq_lined, lineFeeds_lined_eq_length_iff.mpr oneLine_of_mem_literals, List.length_map]
  · intro hne
    rw [lines_eq_lined]
    exact getLast?_lined fun hnil => hne (List.map_eq_nil_iff.mp hnil)
  · rw [lines_eq_lined, splitOn_lined oneLine_of_mem_literals, List.map_map]
    rfl
  · rw [lines_eq_lined, linesOf_lined oneLine_of_mem_literals]
  · intro more rest hmore
    obtain rfl : (lines more).toUTF8 = rest := Serialized.payload.inj hmore
    exact congrArg Serialized.payload (toUTF8_lines_append spans more)

end TracePipeline.Format
