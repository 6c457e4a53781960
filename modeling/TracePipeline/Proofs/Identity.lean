import TracePipeline.Identity
import TracePipeline.Proofs.Text.Numeral

/-!
# Texts of identities

Every id is written with as many digits as its bits need, and a point and an arrow, which are no digits,
stand between the ids. So each id can be read back from where it stands, and two identities with the same
text are the same.
-/

namespace TracePipeline

open Text

namespace Identity

def beforePoint (text : List Char) : List Char := text.takeWhile (· != '.')

def afterPoint (text : List Char) : List Char := (text.dropWhile (· != '.')).tail

/-- The form of an identity's text: the whole trace id before the point, the span id after it, and then
nothing for a root, and an arrow and the parent's id for a child. -/
structure Written (i : Identity) (text : List Char) : Prop where
  trace : Hexadecimal (if i.traceHigh = 0 then 16 else 32) i.traceId (beforePoint text)
  span : Hexadecimal 16 i.span.toNat ((afterPoint text).take 16)
  root : i.parent = none → (afterPoint text).drop 16 = []
  child : ∀ parent, i.parent = some parent → ∃ digits,
    (afterPoint text).drop 16 = '<' :: ':' :: digits ∧ Hexadecimal 16 parent.toNat digits

variable {i j : Identity} {chars digits : List Char} {width n : Nat}

/-! ### Writing -/

lemma ofDigits_id (id : UInt64) : ofDigits 16 (paddedDigits 16 id.toNat) = id.toNat := by
  rw [ofDigits_paddedDigits]
  exact Nat.mod_eq_of_lt id.toNat_lt

lemma hexadecimal_idChars (id : UInt64) : Hexadecimal 16 id.toNat (idChars id) := by
  have hds : ∀ d ∈ paddedDigits 16 id.toNat, d < 16 := fun d => lt_of_mem_paddedDigits
  have h := hexadecimal_map_digit hds
  rw [length_paddedDigits, ofDigits_id, ← hexPadded_eq] at h
  exact h

/-- The digits of the two halves, one after the other, are those of the whole trace id. -/
lemma hexadecimal_halves (i : Identity) :
    Hexadecimal 32 i.traceId (idChars i.traceHigh ++ idChars i.trace) := by
  have hds : ∀ d ∈ paddedDigits 16 i.traceHigh.toNat ++ paddedDigits 16 i.trace.toNat, d < 16 := by
    intro d hd
    rcases List.mem_append.mp hd with hd | hd
    · exact lt_of_mem_paddedDigits hd
    · exact lt_of_mem_paddedDigits hd
  have h := hexadecimal_map_digit hds
  rw [List.length_append, length_paddedDigits, length_paddedDigits, ofDigits_append, ofDigits_id,
    ofDigits_id, length_paddedDigits, List.map_append, ← hexPadded_eq, ← hexPadded_eq] at h
  exact h

lemma hexadecimal_trace (i : Identity) :
    Hexadecimal (if i.traceHigh = 0 then 16 else 32) i.traceId
      ((if i.traceHigh = 0 then [] else idChars i.traceHigh) ++ idChars i.trace) := by
  by_cases hhigh : i.traceHigh = 0
  · have hid : i.traceId = i.trace.toNat := by
      unfold traceId
      rw [hhigh]
      exact Nat.zero_add _
    rw [if_pos hhigh, if_pos hhigh, List.nil_append, hid]
    exact hexadecimal_idChars i.trace
  · rw [if_neg hhigh, if_neg hhigh]
    exact hexadecimal_halves i

lemma ne_point (h : Hexadecimal width n digits) : ∀ c ∈ digits, (c != '.') = true := by
  intro c hc
  rw [bne_iff_ne]
  rintro rfl
  exact absurd (h.lower '.' hc) (by decide)

lemma beforePoint_append (h : Hexadecimal width n digits) (rest : List Char) :
    beforePoint (digits ++ '.' :: rest) = digits := by
  unfold beforePoint
  rw [List.takeWhile_append_of_pos (ne_point h), List.takeWhile_cons_of_neg (by decide),
    List.append_nil]

lemma afterPoint_append (h : Hexadecimal width n digits) (rest : List Char) :
    afterPoint (digits ++ '.' :: rest) = rest := by
  unfold afterPoint
  rw [List.dropWhile_append_of_pos (ne_point h), List.dropWhile_cons_of_neg (by decide),
    List.tail_cons]

lemma written_text (i : Identity) : Written i i.text.toList := by
  have htrace := hexadecimal_trace i
  have hspan := hexadecimal_idChars i.span
  unfold text chars
  rw [String.toList_ofList, List.append_assoc, List.cons_append]
  constructor
  · rw [beforePoint_append htrace]
    exact htrace
  · rw [afterPoint_append htrace, List.take_left' hspan.length]
    exact hspan
  · intro hroot
    rw [afterPoint_append htrace, List.drop_left' hspan.length, hroot]
  · intro parent hparent
    rw [afterPoint_append htrace, List.drop_left' hspan.length, hparent]
    exact ⟨idChars parent, rfl, hexadecimal_idChars parent⟩

/-! ### Reading back -/

/-- The lower half of a trace id is less than the number that the upper one is multiplied by. -/
lemma halves_of_traceId (h : i.traceId = j.traceId) : i.traceHigh = j.traceHigh ∧ i.trace = j.trace := by
  have hi := i.trace.toNat_lt
  have hj := j.trace.toNat_lt
  unfold traceId UInt64.size at h
  constructor
  · apply UInt64.toNat_inj.mp
    omega
  · apply UInt64.toNat_inj.mp
    omega

lemma parent_of_written (hi : Written i chars) (hj : Written j chars) (parent : UInt64)
    (h : i.parent = some parent) : j.parent = some parent := by
  obtain ⟨digits, hrest, hdigits⟩ := hi.child parent h
  cases hparent : j.parent with
  | none =>
    rw [hj.root hparent] at hrest
    cases hrest
  | some parent' =>
    obtain ⟨digits', hrest', hdigits'⟩ := hj.child parent' hparent
    rw [hrest] at hrest'
    cases hrest'
    rw [UInt64.toNat_inj.mp (hdigits.unique hdigits')]

lemma eq_of_written (hi : Written i chars) (hj : Written j chars) : i = j := by
  obtain ⟨hhigh, htrace⟩ := halves_of_traceId (hi.trace.unique hj.trace)
  have hspan : i.span = j.span := UInt64.toNat_inj.mp (hi.span.unique hj.span)
  have hparent : i.parent = j.parent := by
    apply Option.ext
    intro parent
    exact ⟨parent_of_written hi hj parent, parent_of_written hj hi parent⟩
  cases i
  cases j
  rw [mk.injEq]
  exact ⟨hhigh, htrace, hparent, hspan⟩

/-- The halves of a trace id do not overlap, so they are put together bit by bit as well. -/
lemma traceId_eq_or (i : Identity) :
    i.traceId = i.traceHigh.toNat <<< 64 ||| i.trace.toNat := by
  rw [← Nat.shiftLeft_add_eq_or_of_lt i.trace.toNat_lt, Nat.shiftLeft_eq]
  rfl

/-- Every id stands in the text of an identity where it can be read back, so no other identity has the
same text. -/
theorem text_determines : Function.Injective text ∧ (∀ i : Identity, Written i i.text.toList) ∧
    ∀ i : Identity, i.traceId = i.traceHigh.toNat <<< 64 ||| i.trace.toNat := by
  refine ⟨?_, written_text, traceId_eq_or⟩
  intro i j htext
  have hi := written_text i
  rw [htext] at hi
  exact eq_of_written hi (written_text j)

example : (⟨1, 0xab, some 0xff, 0x1⟩ : Identity).text =
    "000000000000000100000000000000ab.0000000000000001<:00000000000000ff" := by decide

end Identity

end TracePipeline
