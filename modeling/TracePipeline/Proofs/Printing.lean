import TracePipeline.Proofs.Endpoint
import TracePipeline.Proofs.Text.Lines
import TracePipeline.Span

/-!
# Values on one line

Numbers, addresses and identities are written without a line feed. Texts are quoted in a literal, so the
literal of a value is on one line whatever texts the value has.
-/

namespace TracePipeline

open Text

/-! ### Numbers -/

lemma Text.Decimal.lineFeed_notMem_chars {plus : List Char} (hplus : '\n' ∉ plus) (d : Decimal) :
    '\n' ∉ d.chars plus := by
  have hsign : '\n' ∉ (if d.negative then ['-'] else []) :=
    lineFeed_notMem_ite (by decide) List.not_mem_nil
  have hfraction : '\n' ∉ (if d.fraction.isEmpty then [] else '.' :: digitChars d.fraction) := by
    apply lineFeed_notMem_ite List.not_mem_nil
    apply List.not_mem_cons_of_ne_of_not_mem
    · decide
    · exact lineFeed_notMem_digits d.fraction
  unfold chars
  apply List.not_mem_append
  · exact List.not_mem_append (List.not_mem_append hsign (lineFeed_notMem_digits d.whole)) hfraction
  · cases d.exponent with
    | none => exact List.not_mem_nil
    | some e =>
      apply List.not_mem_append
      · apply List.not_mem_cons_of_ne_of_not_mem
        · decide
        · exact lineFeed_notMem_ite List.not_mem_nil hplus
      · exact lineFeed_notMem_integer e

lemma Binary64.oneLine_textWith (l : Layout) (x : Binary64) : OneLine (x.textWith l) := by
  unfold textWith
  split
  · decide
  · split
    · split
      · decide
      · decide
    · exact oneLine_ofList (Decimal.lineFeed_notMem_chars List.not_mem_nil _)

/-! ### Addresses -/

lemma Address4.lineFeed_notMem_chars (x : Address4) : '\n' ∉ x.chars := by
  have hpoint (n : Nat) : '\n' ∉ '.' :: decimal n := lineFeed_notMem_marked (by decide) n
  unfold chars
  apply List.not_mem_append
  · apply List.not_mem_append
    · exact List.not_mem_append (lineFeed_notMem_numeralFrom 8 _) (hpoint _)
    · exact hpoint _
  · exact hpoint _

namespace Endpoint

lemma lineFeed_notMem_groupsText (gs : List UInt16) : '\n' ∉ groupsText gs := by
  cases gs with
  | nil => exact List.not_mem_nil
  | cons g gs =>
    rw [groupsText_cons]
    apply List.not_mem_append (lineFeed_notMem_numeralFrom 14 _)
    apply lineFeed_notMem_flatMap
    intro g
    exact List.not_mem_cons_of_ne_of_not_mem (by decide) (lineFeed_notMem_numeralFrom 14 _)

lemma lineFeed_notMem_address6Chars (gs : List UInt16) : '\n' ∉ address6Chars gs := by
  unfold address6Chars
  split
  · apply List.not_mem_append
    · decide
    · exact Address4.lineFeed_notMem_chars _
  · apply lineFeed_notMem_ite
    · apply List.not_mem_append (lineFeed_notMem_groupsText _)
      apply List.not_mem_cons_of_ne_of_not_mem (by decide)
      exact List.not_mem_cons_of_ne_of_not_mem (by decide) (lineFeed_notMem_groupsText _)
    · exact lineFeed_notMem_groupsText gs

lemma oneLine_text (e : Endpoint) : OneLine e.text := by
  have hport (port : UInt16) : '\n' ∉ ':' :: decimal port.toNat := lineFeed_notMem_marked (by decide) _
  apply oneLine_ofList
  cases e with
  | v4 address port => exact List.not_mem_append address.lineFeed_notMem_chars (hport port)
  | v6 groups zone port =>
    have hzone : '\n' ∉ (if zone = 0 then [] else '%' :: decimal zone.toNat) :=
      lineFeed_notMem_ite List.not_mem_nil (lineFeed_notMem_marked (by decide) _)
    unfold chars
    apply List.not_mem_append
    · apply List.not_mem_append
      · exact List.not_mem_cons_of_ne_of_not_mem (by decide) (lineFeed_notMem_address6Chars _)
      · exact hzone
    · exact List.not_mem_cons_of_ne_of_not_mem (by decide) (hport port)

end Endpoint

/-! ### Identities and flags -/

namespace Identity

lemma oneLine_text (i : Identity) : OneLine i.text := by
  have hid (id : UInt64) : '\n' ∉ idChars id := lineFeed_notMem_hexPadded 16 _
  have hhigh : '\n' ∉ (if i.traceHigh = 0 then [] else idChars i.traceHigh) :=
    lineFeed_notMem_ite List.not_mem_nil (hid _)
  apply oneLine_ofList
  unfold chars
  apply List.not_mem_append
  · apply List.not_mem_append
    · exact List.not_mem_append hhigh (hid _)
    · exact List.not_mem_cons_of_ne_of_not_mem (by decide) (hid _)
  · cases i.parent with
    | none => exact List.not_mem_nil
    | some parent =>
      apply List.not_mem_cons_of_ne_of_not_mem (by decide)
      exact List.not_mem_cons_of_ne_of_not_mem (by decide) (hid parent)

lemma oneLine_literal (i : Identity) : OneLine i.literal := by
  have hparent : OneLine (optional (i.parent.map fun p => showNat p.toNat)) := by
    apply oneLine_optional_map
    intro p
    exact oneLine_showNat p.toNat
  apply OneLine.fields
  · decide
  · simp only [List.forall_mem_cons]
    exact ⟨⟨by decide, oneLine_showNat _⟩, ⟨by decide, oneLine_showNat _⟩, ⟨by decide, hparent⟩,
      ⟨by decide, oneLine_showNat _⟩, List.forall_mem_nil _⟩

end Identity

namespace Flags

lemma oneLine_literal (f : Flags) : OneLine f.literal := OneLine.applied (by decide) (oneLine_showNat _)

lemma oneLine_hexByte (f : Flags) : OneLine f.hexByte := oneLine_ofList (lineFeed_notMem_hexPadded 2 _)

end Flags

/-! ### Records and spans -/

lemma BinaryValue.oneLine_literal (v : BinaryValue) : OneLine v.literal := by
  cases v with
  | bool b => exact OneLine.applied (by decide) (oneLine_truth b)
  | bytes bytes =>
    apply OneLine.applied (by decide)
    apply oneLine_bracketed
    intro item hitem
    obtain ⟨b, -, rfl⟩ := List.mem_map.mp hitem
    exact oneLine_showNat _
  | i16 n => exact OneLine.applied (by decide) (oneLine_showInt _)
  | i32 n => exact OneLine.applied (by decide) (oneLine_showInt _)
  | i64 n => exact OneLine.applied (by decide) (oneLine_showInt _)
  | double x => exact OneLine.applied (by decide) (x.oneLine_textWith _)
  | string s => exact OneLine.applied (by decide) (oneLine_quoted s)

namespace Annotation

lemma oneLine_pairLiteral {name first second k v : String} (hname : OneLine name)
    (hfirst : OneLine first) (hsecond : OneLine second) (hk : OneLine k) (hv : OneLine v) :
    OneLine (pairLiteral name first second k v) := by
  apply OneLine.fields hname
  simp only [List.forall_mem_cons]
  exact ⟨⟨hfirst, hk⟩, ⟨hsecond, hv⟩, List.forall_mem_nil _⟩

/-- Every text that an annotation has is quoted in its literal. -/
lemma oneLine_literal (a : Annotation) : OneLine a.literal := by
  cases a with
  | clientSend | clientRecv | serverRecv | serverSend | wireSend | wireRecv | localOperationStop => decide
  | rpc name => exact OneLine.applied (by decide) (oneLine_quoted name)
  | serviceName name => exact OneLine.applied (by decide) (oneLine_quoted name)
  | event name => exact OneLine.applied (by decide) (oneLine_quoted name)
  | localOperationStart name => exact OneLine.applied (by decide) (oneLine_quoted name)
  | localAddr address => exact OneLine.applied (by decide) address.oneLine_text
  | clientAddr address => exact OneLine.applied (by decide) address.oneLine_text
  | serverAddr service address =>
    exact oneLine_pairLiteral (by decide) (by decide) (by decide) (oneLine_quoted service)
      address.oneLine_text
  | messageAddr service address =>
    exact oneLine_pairLiteral (by decide) (by decide) (by decide) (oneLine_quoted service)
      address.oneLine_text
  | binary key value =>
    exact oneLine_pairLiteral (by decide) (by decide) (by decide) (oneLine_quoted key)
      value.oneLine_literal
  | tag key value =>
    exact oneLine_pairLiteral (by decide) (by decide) (by decide) (oneLine_quoted key)
      (oneLine_quoted value)

end Annotation

lemma Record.oneLine_literal (r : Record) : OneLine r.literal := by
  apply OneLine.fields
  · decide
  · simp only [List.forall_mem_cons]
    exact ⟨⟨by decide, r.identity.oneLine_literal⟩, ⟨by decide, r.flags.oneLine_literal⟩,
      ⟨by decide, oneLine_showNat _⟩, ⟨by decide, r.annotation.oneLine_literal⟩, List.forall_mem_nil _⟩

lemma Span.oneLine_literal (s : Span) : OneLine s.literal := by
  have hrecords : OneLine (bracketed (s.records.map Record.literal)) := by
    apply oneLine_bracketed
    intro item hitem
    obtain ⟨r, -, rfl⟩ := List.mem_map.mp hitem
    exact r.oneLine_literal
  have htime (time : Option UInt64) : OneLine (timeLiteral time) := by
    apply oneLine_optional_map
    intro n
    exact oneLine_showNat n.toNat
  have hname (name : Option String) : OneLine (optional (name.map quoted)) :=
    oneLine_optional_map oneLine_quoted name
  have haddress : OneLine (optional (s.localEndpoint.map Endpoint.text)) :=
    oneLine_optional_map Endpoint.oneLine_text s.localEndpoint
  apply OneLine.fields
  · decide
  · simp only [List.forall_mem_cons]
    exact ⟨⟨by decide, s.identity.oneLine_literal⟩, ⟨by decide, s.flags.oneLine_literal⟩,
      ⟨by decide, hrecords⟩, ⟨by decide, oneLine_showNat _⟩, ⟨by decide, oneLine_truth _⟩,
      ⟨by decide, hname _⟩, ⟨by decide, hname _⟩, ⟨by decide, haddress⟩, ⟨by decide, htime _⟩,
      ⟨by decide, htime _⟩, List.forall_mem_nil _⟩

end TracePipeline
