import TracePipeline.Proofs.Json.Scalar

/-!
# Reading JSON back

The compact text of a value is read back as that value, if its numbers are whole and its strings are
texts. Inside a text a value is followed by a sign that ends it, so the reader stops where the
writer did.
-/

namespace TracePipeline.Json

variable {rest : List Char} {fuel : Nat} {c : Char} {j : Json}

lemma not_isSpace_of_numeric (hc : isNumeric c = true) : isSpace c = false := by
  simp [isSpace, ne_of_numeric hc (d := ' ') (by decide), ne_of_numeric hc (d := '\n') (by decide),
    ne_of_numeric hc (d := '\t') (by decide), ne_of_numeric hc (d := '\r') (by decide)]

/-- Values whose numbers are whole and whose strings are texts. -/
inductive Plain : Json → Prop where
  | null : Plain .null
  | bool (b : Bool) : Plain (.bool b)
  | int (n : Int) : Plain (.int n)
  | text (s : String) : Plain (.text s)
  | array (items : List Json) (h : ∀ j ∈ items, Plain j) : Plain (.array items)
  | fields (entries : List (String × Json)) (h : ∀ e ∈ entries, Plain e.2) : Plain (.fields entries)

lemma Plain.head_chars (h : Plain j) :
    ∃ c text, j.chars = c :: text ∧ isSpace c = false ∧ c ≠ ']' := by
  cases h with
  | null => exact ⟨_, _, rfl, by decide, by decide⟩
  | bool b => cases b <;> exact ⟨_, _, rfl, by decide, by decide⟩
  | int n =>
    obtain ⟨c, text, htext, hc⟩ := exists_numeric_cons n
    exact ⟨c, text, htext, not_isSpace_of_numeric hc, ne_of_numeric hc (by decide)⟩
  | text s => exact ⟨_, _, rfl, by decide, by decide⟩
  | array items h =>
    rw [chars]
    exact ⟨_, _, rfl, by decide, by decide⟩
  | fields entries h =>
    rw [Json.fields, chars]
    exact ⟨_, _, rfl, by decide, by decide⟩

lemma afterSpace_cons (h : isSpace c = false) (text : List Char) :
    afterSpace (c :: text) = c :: text :=
  List.dropWhile_cons_of_neg (by simp [h])

/-- A value is read back in front of whatever may follow it, given fuel for its length. -/
def Reads (j : Json) : Prop :=
  ∀ fuel rest, 2 * j.chars.length ≤ fuel + 1 → Ends rest →
    value? fuel (j.chars ++ rest) = some (j, rest)

lemma Plain.reads_of_succ (h : Plain j)
    (hread : ∀ fuel rest, 2 * j.chars.length ≤ fuel + 2 → Ends rest →
      value? (fuel + 1) (j.chars ++ rest) = some (j, rest)) : Reads j := by
  intro fuel rest hfuel hrest
  obtain ⟨c, text, htext, -⟩ := h.head_chars
  have hpos : 0 < j.chars.length := by
    rw [htext]
    exact Nat.succ_pos _
  obtain ⟨fuel, rfl⟩ : ∃ m, fuel = m + 1 := ⟨fuel - 1, by omega⟩
  exact hread fuel rest hfuel hrest

lemma value?_of_numeric (hc : isNumeric c = true) (text : List Char) :
    value? (fuel + 1) (c :: text) =
      (number? (c :: text)).map fun (d, tail) => (.number d, tail) := by
  rw [value?, afterSpace_cons (not_isSpace_of_numeric hc)]
  split
  case h_1 h => cases h
  case h_8 => rfl
  all_goals
    rename_i h
    exact absurd (List.cons.inj h).1 (ne_of_numeric hc (by decide))

lemma reads_int (n : Int) : Reads (.int n) := by
  refine (Plain.int n).reads_of_succ fun fuel rest _ hrest => ?_
  obtain ⟨c, text, htext, hc⟩ := exists_numeric_cons n
  have hchars : (Json.int n).chars = c :: text := htext
  have hnumber := number?_ofInt n hrest
  rw [htext] at hnumber
  rw [hchars, List.cons_append, value?_of_numeric hc, ← List.cons_append, hnumber]
  rfl

lemma stringChars_append (s : String) (rest : List Char) :
    stringChars (some s) ++ rest = '"' :: (s.toList.flatMap escaped ++ '"' :: rest) := by
  simp [stringChars]

lemma reads_text (s : String) : Reads (.text s) := by
  refine (Plain.text s).reads_of_succ fun fuel rest _ hrest => ?_
  have hchars : (Json.text s).chars = stringChars (some s) := rfl
  rw [hchars, stringChars_append, value?, afterSpace_cons (by decide)]
  simp only [string?_written, Option.map_some]
  rfl

lemma Reads.length_pos (h : Reads j) : 0 < j.chars.length := by
  rcases Nat.eq_zero_or_pos j.chars.length with hzero | hpos
  · have hnone := h 0 [] (by omega) (by intro c hc; cases hc)
    cases hnone
  · exact hpos

lemma itemChars_cons_cons (j k : Json) (items : List Json) :
    itemChars (j :: k :: items) = j.chars ++ ',' :: itemChars (k :: items) := by
  rw [itemChars]
  simp

/-- Values with commas between them are read back up to the bracket that closes them. -/
lemma items?_written {items : List Json} (hne : items ≠ []) (h : ∀ j ∈ items, Reads j)
    (hfuel : 2 * (itemChars items).length ≤ fuel) (rest : List Char) :
    items? fuel (itemChars items ++ ']' :: rest) = some (items, rest) := by
  induction items generalizing fuel with
  | nil => exact absurd rfl hne
  | cons j items ih =>
    have hj := h j List.mem_cons_self
    have hpos := hj.length_pos
    cases items with
    | nil =>
      rw [itemChars] at hfuel ⊢
      obtain ⟨fuel, rfl⟩ : ∃ m, fuel = m + 1 := ⟨fuel - 1, by omega⟩
      rw [items?, hj fuel _ hfuel (ends_cons (by decide) rest)]
      rfl
    | cons k items =>
      rw [itemChars_cons_cons] at hfuel ⊢
      simp only [List.length_append, List.length_cons] at hfuel
      obtain ⟨fuel, rfl⟩ : ∃ m, fuel = m + 1 := ⟨fuel - 1, by omega⟩
      have hrest : items? fuel (itemChars (k :: items) ++ ']' :: rest) = some (k :: items, rest) :=
        ih (List.cons_ne_nil k items) (fun j hj => h j (List.mem_cons_of_mem _ hj)) (by omega)
      rw [List.append_assoc, List.cons_append, items?,
        hj fuel _ (by omega) (ends_cons (by decide) _)]
      simp only [Option.bind_eq_bind, Option.bind_some, afterSpace_cons (c := ',') (by decide),
        hrest]
      rfl

/-- Entries whose keys are texts. -/
def keyed (entries : List (String × Json)) : List (Option String × Json) :=
  entries.map fun (k, v) => (some k, v)

lemma entryChars_single (key : String) (value : Json) :
    entryChars (keyed [(key, value)]) = stringChars (some key) ++ ':' :: value.chars := by
  rw [keyed, List.map_singleton, entryChars]

lemma entryChars_cons_cons (key : String) (value : Json) (e : String × Json)
    (entries : List (String × Json)) :
    entryChars (keyed ((key, value) :: e :: entries)) =
      stringChars (some key) ++
        ':' :: (value.chars ++ ',' :: entryChars (keyed (e :: entries))) := by
  rw [keyed, List.map_cons, List.map_cons, entryChars]
  · simp [keyed]
  · exact List.cons_ne_nil _ _

/-- Entries with commas between them are read back up to the brace that closes them. -/
lemma entries?_written {entries : List (String × Json)} (hne : entries ≠ [])
    (h : ∀ e ∈ entries, Reads e.2) (hfuel : 2 * (entryChars (keyed entries)).length ≤ fuel)
    (rest : List Char) :
    entries? fuel (entryChars (keyed entries) ++ '}' :: rest) = some (keyed entries, rest) := by
  induction entries generalizing fuel with
  | nil => exact absurd rfl hne
  | cons e entries ih =>
    obtain ⟨key, value⟩ := e
    have hvalue : Reads value := h (key, value) List.mem_cons_self
    have hpos := hvalue.length_pos
    cases entries with
    | nil =>
      rw [entryChars_single] at hfuel ⊢
      simp only [List.length_append, List.length_cons] at hfuel
      obtain ⟨fuel, rfl⟩ : ∃ m, fuel = m + 1 := ⟨fuel - 1, by omega⟩
      have hread := hvalue fuel ('}' :: rest) (by omega) (ends_cons (by decide) rest)
      rw [List.append_assoc, stringChars_append, entries?, afterSpace_cons (by decide)]
      simp only [Option.bind_eq_bind, string?_written, Option.bind_some, List.cons_append,
        afterSpace_cons (c := ':') (by decide), hread, afterSpace_cons (c := '}') (by decide)]
      rfl
    | cons e entries =>
      rw [entryChars_cons_cons] at hfuel ⊢
      simp only [List.length_append, List.length_cons] at hfuel
      obtain ⟨fuel, rfl⟩ : ∃ m, fuel = m + 1 := ⟨fuel - 1, by omega⟩
      have hrest : entries? fuel (entryChars (keyed (e :: entries)) ++ '}' :: rest) =
          some (keyed (e :: entries), rest) :=
        ih (List.cons_ne_nil e entries) (fun j hj => h j (List.mem_cons_of_mem _ hj)) (by omega)
      have hread := hvalue fuel (',' :: (entryChars (keyed (e :: entries)) ++ '}' :: rest))
        (by omega) (ends_cons (by decide) _)
      rw [List.append_assoc, stringChars_append, entries?, afterSpace_cons (by decide)]
      simp only [Option.bind_eq_bind, string?_written, Option.bind_some, List.cons_append,
        List.append_assoc, afterSpace_cons (c := ':') (by decide), hread,
        afterSpace_cons (c := ',') (by decide), hrest]
      rfl

lemma head_itemChars {j : Json} (h : Plain j) (items : List Json) :
    ∃ c text, itemChars (j :: items) = c :: text ∧ isSpace c = false ∧ c ≠ ']' := by
  obtain ⟨c, text, htext, hc⟩ := h.head_chars
  cases items with
  | nil => exact ⟨c, text, by rw [itemChars, htext], hc⟩
  | cons k items => exact ⟨c, _, by rw [itemChars_cons_cons, htext, List.cons_append], hc⟩

lemma reads_array {items : List Json} (hplain : ∀ j ∈ items, Plain j) (h : ∀ j ∈ items, Reads j) :
    Reads (.array items) := by
  refine (Plain.array items hplain).reads_of_succ fun fuel rest hfuel _ => ?_
  have hchars : (Json.array items).chars ++ rest = '[' :: (itemChars items ++ ']' :: rest) := by
    rw [chars]
    simp
  rw [chars] at hfuel
  simp only [List.length_append, List.length_cons] at hfuel
  rw [hchars, value?, afterSpace_cons (by decide)]
  cases items with
  | nil =>
    rw [itemChars, List.nil_append]
    simp only [afterSpace_cons (c := ']') (by decide)]
  | cons j items =>
    have hread : items? fuel (itemChars (j :: items) ++ ']' :: rest) = some (j :: items, rest) :=
      items?_written (List.cons_ne_nil j items) h (by omega) rest
    obtain ⟨c, text, htext, hspace, hc⟩ := head_itemChars (hplain j List.mem_cons_self) items
    rw [htext, List.cons_append] at hread ⊢
    simp only [afterSpace_cons hspace]
    split
    · rename_i hclose
      exact absurd (List.cons.inj hclose).1 hc
    · rw [hread]
      rfl

lemma head_entryChars (e : String × Json) (entries : List (String × Json)) :
    ∃ text, entryChars (keyed (e :: entries)) = '"' :: text := by
  obtain ⟨key, value⟩ := e
  cases entries with
  | nil => exact ⟨_, by rw [entryChars_single, stringChars_append]⟩
  | cons e entries => exact ⟨_, by rw [entryChars_cons_cons, stringChars_append]⟩

lemma reads_fields {entries : List (String × Json)} (hplain : ∀ e ∈ entries, Plain e.2)
    (h : ∀ e ∈ entries, Reads e.2) : Reads (.fields entries) := by
  refine (Plain.fields entries hplain).reads_of_succ fun fuel rest hfuel _ => ?_
  have hchars : (Json.fields entries).chars ++ rest =
      '{' :: (entryChars (keyed entries) ++ '}' :: rest) := by
    rw [fields, chars]
    simp [keyed]
  have hlength := congrArg List.length hchars
  simp only [List.length_append, List.length_cons] at hlength
  rw [hchars, value?, afterSpace_cons (by decide)]
  cases entries with
  | nil =>
    rw [keyed, List.map_nil, entryChars, List.nil_append]
    simp only [afterSpace_cons (c := '}') (by decide)]
    rfl
  | cons e entries =>
    have hread : entries? fuel (entryChars (keyed (e :: entries)) ++ '}' :: rest) =
        some (keyed (e :: entries), rest) :=
      entries?_written (List.cons_ne_nil e entries) h (by omega) rest
    obtain ⟨text, htext⟩ := head_entryChars e entries
    rw [htext, List.cons_append] at hread ⊢
    simp only [afterSpace_cons (c := '"') (by decide), hread]
    rfl

/-- Plain values are read back. -/
lemma Plain.reads (h : Plain j) : Reads j := by
  induction h with
  | null => exact Plain.null.reads_of_succ fun fuel rest _ _ => rfl
  | bool b =>
    refine (Plain.bool b).reads_of_succ fun fuel rest _ _ => ?_
    cases b <;> rfl
  | int n => exact reads_int n
  | text s => exact reads_text s
  | array items h ih => exact reads_array h ih
  | fields entries h ih => exact reads_fields h ih

/-- The compact text of a plain value denotes it. -/
theorem read?_compact (h : Plain j) : read? j.compact = some j := by
  have hread := h.reads (2 * j.chars.length + 2) [] (by omega) (by intro c hc; cases hc)
  rw [List.append_nil] at hread
  rw [read?, compact, String.toList_ofList, String.length_ofList, hread]
  rfl

end TracePipeline.Json
