import TracePipeline.Proofs.Text.Numeral
import TracePipeline.Text.Literal

/-!
# Texts on one line

A text is on one line if it has no line feed. Numerals have none and neither has a quoted text, whatever
it quotes, so a literal is on one line if its parts are. Lines that are written one after the other, each
with a line feed at its end, are told apart again if none of them has one inside.
-/

namespace TracePipeline.Text

/-- How many line feeds a text has. -/
def lineFeeds (text : String) : Nat := text.toList.count '\n'

/-- A text without a line feed. -/
def OneLine (text : String) : Prop := '\n' ∉ text.toList

instance (text : String) : Decidable (OneLine text) :=
  inferInstanceAs (Decidable ('\n' ∉ text.toList))

/-- Texts one after the other, each with a line feed at its end. -/
def lined (texts : List String) : String := String.join (texts.map (· ++ "\n"))

variable {s t name argument : String} {texts items : List String} {entries : List (String × String)}
  {chars more : List Char}

lemma lineFeeds_eq_zero_iff : lineFeeds s = 0 ↔ OneLine s := List.count_eq_zero

lemma lineFeeds_append (s t : String) : lineFeeds (s ++ t) = lineFeeds s + lineFeeds t := by
  unfold lineFeeds
  rw [String.toList_append, List.count_append]

lemma OneLine.lineFeeds_append (hs : OneLine s) (t : String) : lineFeeds (s ++ t) = lineFeeds t := by
  rw [Text.lineFeeds_append, lineFeeds_eq_zero_iff.mpr hs, Nat.zero_add]

lemma sum_lineFeeds_eq_zero_iff : (texts.map lineFeeds).sum = 0 ↔ ∀ s ∈ texts, OneLine s := by
  rw [List.sum_eq_zero_iff_forall_eq_nat, List.forall_mem_map]
  exact forall₂_congr fun _ _ => lineFeeds_eq_zero_iff

lemma oneLine_ofList (h : '\n' ∉ chars) : OneLine (String.ofList chars) := by
  unfold OneLine
  rwa [String.toList_ofList]

lemma OneLine.append (hs : OneLine s) (ht : OneLine t) : OneLine (s ++ t) := by
  unfold OneLine
  rw [String.toList_append]
  exact List.not_mem_append hs ht

lemma lineFeed_notMem_ite {p : Prop} [Decidable p] (h : '\n' ∉ chars) (hmore : '\n' ∉ more) :
    '\n' ∉ if p then chars else more := by
  split
  · exact h
  · exact hmore

lemma lineFeed_notMem_flatMap {α : Type} {f : α → List Char} (h : ∀ x, '\n' ∉ f x) (xs : List α) :
    '\n' ∉ xs.flatMap f := by
  intro hmem
  obtain ⟨x, -, hx⟩ := List.mem_flatMap.mp hmem
  exact h x hx

/-! ### Numerals -/

lemma ofNat_ne_lineFeed {n : Nat} (h : n ≠ 10) : Char.ofNat n ≠ '\n' := by
  intro heq
  unfold Char.ofNat at heq
  by_cases hvalid : n.isValidChar
  · rw [dif_pos hvalid] at heq
    exact h (congrArg Char.toNat heq)
  · rw [dif_neg hvalid] at heq
    revert heq
    decide

lemma digit_ne_lineFeed (n : Nat) : digit n ≠ '\n' := by
  unfold digit
  split
  · exact ofNat_ne_lineFeed (by omega)
  · exact ofNat_ne_lineFeed (by omega)

lemma lineFeed_notMem_digits (ds : List Nat) : '\n' ∉ ds.map digit := by
  rw [List.mem_map]
  rintro ⟨d, -, hd⟩
  exact digit_ne_lineFeed d hd

lemma lineFeed_notMem_numeralFrom (b n : Nat) : '\n' ∉ numeralFrom b n := by
  rw [numeralFrom_eq]
  exact lineFeed_notMem_digits _

lemma lineFeed_notMem_marked {mark : Char} (hmark : '\n' ≠ mark) (n : Nat) :
    '\n' ∉ mark :: decimal n :=
  List.not_mem_cons_of_ne_of_not_mem hmark (lineFeed_notMem_numeralFrom 8 n)

lemma lineFeed_notMem_integer (n : Int) : '\n' ∉ integer n := by
  cases n with
  | ofNat n => exact lineFeed_notMem_numeralFrom 8 n
  | negSucc n => exact lineFeed_notMem_marked (by decide) (n + 1)

lemma lineFeed_notMem_hexPadded (width n : Nat) : '\n' ∉ hexPadded width n := by
  induction width generalizing n with
  | zero => exact List.not_mem_nil
  | succ width ih =>
    apply List.not_mem_append (ih _)
    rw [List.mem_singleton]
    exact (digit_ne_lineFeed _).symm

lemma lineFeed_notMem_hexBytes (bytes : List UInt8) : '\n' ∉ hexBytes bytes := by
  apply lineFeed_notMem_flatMap
  intro b
  exact lineFeed_notMem_hexPadded 2 b.toNat

lemma oneLine_showNat (n : Nat) : OneLine (showNat n) :=
  oneLine_ofList (lineFeed_notMem_numeralFrom 8 n)

lemma oneLine_showInt (n : Int) : OneLine (showInt n) := oneLine_ofList (lineFeed_notMem_integer n)

/-! ### Literals -/

/-- A line feed is written as an escape, and no escape has one in it. -/
lemma lineFeed_notMem_escaped (c : Char) : '\n' ∉ escaped c := by
  unfold escaped
  split
  case h_7 hfeed _ _ _ =>
    apply lineFeed_notMem_ite
    · unfold numbered
      apply List.not_mem_append
      · apply List.not_mem_append
        · decide
        · exact lineFeed_notMem_numeralFrom 14 _
      · decide
    · rw [List.mem_singleton]
      exact fun h => hfeed h.symm
  all_goals decide

lemma oneLine_quoted (text : String) : OneLine (quoted text) := by
  apply oneLine_ofList
  apply List.not_mem_append
  · apply List.not_mem_cons_of_ne_of_not_mem
    · decide
    · exact lineFeed_notMem_flatMap lineFeed_notMem_escaped _
  · decide

lemma oneLine_truth (b : Bool) : OneLine (truth b) := by
  cases b with
  | false => decide
  | true => decide

lemma oneLine_commas (h : ∀ item ∈ items, OneLine item) : OneLine (commas items) := by
  unfold commas
  induction items with
  | nil => decide
  | cons item items ih =>
    obtain ⟨hitem, hitems⟩ := List.forall_mem_cons.mp h
    cases items with
    | nil =>
      rw [String.intercalate_singleton]
      exact hitem
    | cons next items =>
      rw [String.intercalate_cons_cons]
      exact (hitem.append (by decide)).append (ih hitems)

lemma OneLine.applied (hname : OneLine name) (h : OneLine argument) : OneLine (applied name argument) :=
  ((hname.append (by decide)).append h).append (by decide)

lemma oneLine_bracketed (h : ∀ item ∈ items, OneLine item) : OneLine (bracketed items) := by
  have hopen : OneLine "[" := by decide
  exact (hopen.append (oneLine_commas h)).append (by decide)

lemma oneLine_optional_map {α : Type} {f : α → String} (h : ∀ x, OneLine (f x)) (value : Option α) :
    OneLine (optional (value.map f)) := by
  cases value with
  | none =>
    have hnone : OneLine "None" := by decide
    exact hnone
  | some x => exact OneLine.applied (by decide) (h x)

lemma OneLine.fields (hname : OneLine name) (h : ∀ e ∈ entries, OneLine e.1 ∧ OneLine e.2) :
    OneLine (fields name entries) := by
  refine ((hname.append (by decide)).append (oneLine_commas ?_)).append (by decide)
  intro item hitem
  obtain ⟨e, he, rfl⟩ := List.mem_map.mp hitem
  exact ((h e he).1.append (by decide)).append (h e he).2

/-! ### Lines -/

lemma lined_append (texts more : List String) : lined (texts ++ more) = lined texts ++ lined more := by
  unfold lined
  rw [List.map_append, String.join_append]

/-- Each text adds a line feed to those it has. -/
lemma lineFeeds_lined (texts : List String) :
    lineFeeds (lined texts) = texts.length + (texts.map lineFeeds).sum := by
  induction texts with
  | nil => rfl
  | cons s texts ih =>
    have hfeed : lineFeeds "\n" = 1 := by decide
    unfold lined at ih ⊢
    rw [List.map_cons, String.join_cons, lineFeeds_append, lineFeeds_append, ih, hfeed, List.map_cons,
      List.sum_cons, List.length_cons]
    omega

/-- There are as many line feeds as texts if and only if each text is on one line. -/
lemma lineFeeds_lined_eq_length_iff :
    lineFeeds (lined texts) = texts.length ↔ ∀ s ∈ texts, OneLine s := by
  rw [lineFeeds_lined, Nat.add_eq_left]
  exact sum_lineFeeds_eq_zero_iff

lemma toList_lined_cons (s : String) (texts : List String) :
    (lined (s :: texts)).toList = s.toList ++ '\n' :: (lined texts).toList := by
  unfold lined
  rw [List.map_cons, String.join_cons, String.toList_append, String.toList_append, List.append_assoc]
  rfl

lemma getLast?_lined (h : texts ≠ []) : (lined texts).toList.getLast? = some '\n' := by
  induction texts with
  | nil => exact absurd rfl h
  | cons s texts ih =>
    rw [toList_lined_cons, List.getLast?_append_cons]
    cases texts with
    | nil => rfl
    | cons next texts => rw [List.getLast?_cons, ih (List.cons_ne_nil next texts), Option.getD_some]

/-- Texts on one line each are told apart by the line feeds between them. -/
lemma splitOn_lined (h : ∀ s ∈ texts, OneLine s) :
    (lined texts).toList.splitOn '\n' = texts.map String.toList ++ [[]] := by
  induction texts with
  | nil => rfl
  | cons s texts ih =>
    obtain ⟨hs, htexts⟩ := List.forall_mem_cons.mp h
    rw [toList_lined_cons, List.splitOn_append_cons_self_of_not_mem hs, ih htexts]
    rfl

end TracePipeline.Text
