import Mathlib.Data.List.Basic
import TracePipeline.Endpoint.Read
import TracePipeline.Proofs.Text.Numeral

/-!
# Reading endpoints back

The written form of an endpoint is read back as that endpoint. An address of version 6 may leave out
a run of zeros or end in the form of version 4, and its reader takes as many groups as come, so each
part is read back in front of any text that no digit, point or further group can start.
-/

namespace TracePipeline

lemma Address4.halves_ofHalves (high low : UInt16) : (ofHalves high low).halves = (high, low) := by
  have hhigh := high.toNat_lt
  have hlow := low.toNat_lt
  rw [ofHalves, halves, Prod.mk.injEq]
  constructor
  · apply UInt16.toNat_inj.mp
    simp
    omega
  · apply UInt16.toNat_inj.mp
    simp
    omega

namespace Endpoint

/-- A text that starts with a sign that ends a number in an endpoint, or is empty. -/
def Delimited (rest : List Char) : Prop := ∀ c ∈ rest.head?, c = '.' ∨ c = ':' ∨ c = '%' ∨ c = ']'

variable {rest text : List Char} {b n : Nat} {g : UInt16}

lemma delimited_nil : Delimited [] := by
  intro c hc
  cases hc

lemma delimited_cons {c : Char} (h : c = '.' ∨ c = ':' ∨ c = '%' ∨ c = ']') (tail : List Char) :
    Delimited (c :: tail) := by
  intro d hd
  cases hd
  exact h

lemma Delimited.noDigit (h : Delimited rest) (base : Nat) :
    Text.spanDigits base rest = ([], rest) := by
  cases rest with
  | nil => rfl
  | cons c tail =>
    apply Text.spanDigits_cons_of_none
    rcases h c rfl with rfl | rfl | rfl | rfl <;> rfl

lemma number?_numeral {most limit : Nat} (hb : b + 2 ≤ 16)
    (hmost : (Text.digitsFrom b n).length ≤ most) (hlimit : n < limit) (hrest : Delimited rest) :
    number? (b + 2) most limit (Text.numeralFrom b n ++ rest) = some (n, rest) := by
  rw [number?, Text.spanDigits_numeralFrom hb n (hrest.noDigit _)]
  split
  · rename_i hnil
    exact absurd (Prod.mk.inj hnil).1 (Text.digitsFrom_ne_nil b n)
  · rename_i ds tail hds
    obtain ⟨rfl, rfl⟩ := Prod.mk.inj hds
    simp [Text.ofDigits_digitsFrom, hmost, hlimit]

lemma octet?_decimal (x : UInt8) (hrest : Delimited rest) :
    octet? (Text.decimal x.toNat ++ rest) = some (x, rest) := by
  have hx := x.toNat_lt
  have hread : number? 10 3 256 (Text.decimal x.toNat ++ rest) = some (x.toNat, rest) :=
    number?_numeral (by decide) (Text.length_digitsFrom_le (by decide) (by omega)) hx hrest
  rw [octet?, hread]
  dsimp only
  split
  · rename_i tail htail
    have hzero : x.toNat = 0 := by
      refine Text.eq_zero_of_head?_numeralFrom (b := 8) (by decide) ?_
      obtain ⟨d, ds, -, hds⟩ := Text.exists_digit_cons 8 x.toNat
      rw [Text.decimal, hds, List.cons_append] at htail
      rw [hds, (List.cons.inj htail).1]
      rfl
    have hx : x = 0 := UInt8.toNat_inj.mp hzero
    have hlength : (Text.decimal 0).length = 1 := by
      rw [Text.decimal, Text.numeralFrom]
      rfl
    rw [hzero, if_pos ⟨rfl, by rw [List.length_append, hlength]; omega⟩, hx]
  · rw [UInt8.ofNat_toNat]

/-- An address of version 4 is read back. -/
lemma address4?_chars (x : Address4) (hrest : Delimited rest) :
    address4? (x.chars ++ rest) = some (x, rest) := by
  have hpoint : ∀ text, Delimited ('.' :: text) := delimited_cons (by decide)
  simp only [Address4.chars, List.append_assoc, List.cons_append, address4?,
    octet?_decimal _ (hpoint _), octet?_decimal _ hrest, after?, Option.bind_eq_bind,
    Option.bind_some, if_pos]
  rfl

lemma octet?_tail {x : UInt8} {tail : List Char} (h : octet? text = some (x, tail)) :
    tail = (Text.spanDigits 10 text).2 := by
  rw [octet?, number?] at h
  split at h
  · cases h
  · rename_i n rest hnumber
    have hrest : rest = (Text.spanDigits 10 text).2 := by
      split at hnumber
      · cases hnumber
      · rename_i ds rest' hspan
        dsimp only at hnumber
        split at hnumber
        · cases hnumber
          rw [hspan]
        · cases hnumber
    split at h
    · split at h
      · cases h
        exact hrest
      · cases h
    · cases h
      exact hrest

/-- A text that starts with a sign that ends a group in hexadecimal, or is empty. -/
def EndsGroup (rest : List Char) : Prop := ∀ c ∈ rest.head?, c = ':' ∨ c = '%' ∨ c = ']'

lemma endsGroup_cons {c : Char} (h : c = ':' ∨ c = '%' ∨ c = ']') (tail : List Char) :
    EndsGroup (c :: tail) := by
  intro d hd
  cases hd
  exact h

lemma EndsGroup.delimited (h : EndsGroup rest) : Delimited rest := fun c hc => .inr (h c hc)

lemma EndsGroup.noPoint (h : EndsGroup rest) : rest.head? ≠ some '.' := by
  intro hpoint
  rcases h '.' hpoint with h | h | h <;> cases h

/-- Behind the decimal digits at the start of hexadecimal ones there is no point. -/
lemma head?_spanDigits_ne_point {ds : List Nat} (hds : ∀ d ∈ ds, d < 16) (hrest : EndsGroup rest) :
    (Text.spanDigits 10 (ds.map Text.digit ++ rest)).2.head? ≠ some '.' := by
  induction ds with
  | nil =>
    rw [List.map_nil, List.nil_append, hrest.delimited.noDigit]
    exact hrest.noPoint
  | cons d ds ih =>
    have hdigit : ∀ d, d < 16 → Text.digit d ≠ '.' := by decide
    rw [List.map_cons, List.cons_append, Text.spanDigits]
    split
    · intro h
      exact hdigit d (hds d List.mem_cons_self) (Option.some.inj h)
    · exact ih fun e he => hds e (List.mem_cons_of_mem d he)

/-- A group in hexadecimal does not start an address of version 4. -/
lemma address4?_hexadecimal (n : Nat) (hrest : EndsGroup rest) :
    address4? (Text.hexadecimal n ++ rest) = none := by
  rw [address4?]
  cases hoctet : octet? (Text.hexadecimal n ++ rest) with
  | none => rfl
  | some found =>
    obtain ⟨x, tail⟩ := found
    have htail := octet?_tail hoctet
    have hhead : tail.head? ≠ some '.' := by
      rw [htail, Text.hexadecimal, Text.numeralFrom_eq]
      exact head?_spanDigits_ne_point (fun d => Text.lt_of_mem_digitsFrom) hrest
    have hafter : after? '.' tail = none := by
      cases tail with
      | nil => rfl
      | cons c tail => exact if_neg fun hc => hhead (congrArg some hc)
    simp [hafter]

lemma number?_of_noDigit {base : Nat} (h : Text.spanDigits base text = ([], text))
    (most limit : Nat) : number? base most limit text = none := by
  rw [number?, h]

lemma address4?_of_noDigit (h : Text.spanDigits 10 text = ([], text)) : address4? text = none := by
  rw [address4?, octet?, number?_of_noDigit h]
  rfl

/-- Where the groups of an address of version 6 end, or a run of zeros is left out. -/
structure EndsGroups (rest : List Char) : Prop where
  endsGroup : EndsGroup rest
  noGroup : ∀ body, after? ':' rest = some body → EndsGroup body

/-- Groups with a colon in front of each. -/
def followingText (gs : List UInt16) : List Char :=
  gs.flatMap fun g => ':' :: Text.hexadecimal g.toNat

lemma groupsText_cons (g : UInt16) (gs : List UInt16) :
    groupsText (g :: gs) = Text.hexadecimal g.toNat ++ followingText gs := by
  induction gs generalizing g with
  | nil => simp [groupsText, followingText]
  | cons h gs ih =>
    have hrest := ih h
    rw [groupsText, List.map_cons] at hrest
    rw [groupsText, List.map_cons, List.map_cons, List.intercalate_cons_cons, hrest,
      List.append_assoc]
    rfl

lemma endsGroup_following (gs : List UInt16) (hrest : EndsGroup rest) :
    EndsGroup (followingText gs ++ rest) := by
  cases gs with
  | nil => exact hrest
  | cons g gs => exact endsGroup_cons (by decide) _

/-- One group is read, and then those that follow it. -/
lemma groups_group {limit : Nat} (first : Bool) (g : UInt16)
    (hbody : (if first then some text else after? ':' text) =
      some (Text.hexadecimal g.toNat ++ rest)) (hrest : EndsGroup rest) :
    groups (limit + 1) first text =
      (g :: (groups limit false rest).1, (groups limit false rest).2) := by
  have hnumber : number? 16 4 65536 (Text.hexadecimal g.toNat ++ rest) = some (g.toNat, rest) :=
    number?_numeral (by decide) (Text.length_digitsFrom_le (by decide) g.toNat_lt) g.toNat_lt
      hrest.delimited
  have haddress : (if limit = 0 then none
      else address4? (Text.hexadecimal g.toNat ++ rest)) = none := by
    rw [address4?_hexadecimal _ hrest, ite_self]
  rw [groups, hbody]
  simp only [haddress, hnumber, UInt16.ofNat_toNat]

/-- An address of version 4 is read as the last two groups. -/
lemma groups_address4 (limit : Nat) {first : Bool} {body : List Char} {x : Address4}
    (hbody : (if first then some text else after? ':' text) = some body)
    (hx : address4? body = some (x, rest)) :
    groups (limit + 2) first text = ([x.halves.1, x.halves.2], true, rest) := by
  rw [groups, hbody]
  dsimp only
  rw [if_neg (Nat.succ_ne_zero limit), hx]

/-- No group is read where none starts. -/
lemma groups_none (limit : Nat) {first : Bool}
    (hbody : ∀ body, (if first then some text else after? ':' text) = some body → EndsGroup body) :
    groups limit first text = ([], false, text) := by
  cases limit with
  | zero => rfl
  | succ limit =>
    rw [groups]
    split
    · rfl
    · rename_i body hsome
      have hdelimited := (hbody body hsome).delimited
      have haddress : (if limit = 0 then none else address4? body) = none := by
        rw [address4?_of_noDigit (hdelimited.noDigit 10), ite_self]
      simp only [haddress, number?_of_noDigit (hdelimited.noDigit 16)]

lemma groups_following {limit : Nat} {gs : List UInt16} (hlimit : gs.length ≤ limit)
    (hrest : EndsGroups rest) :
    groups limit false (followingText gs ++ rest) = (gs, false, rest) := by
  induction gs generalizing limit with
  | nil => exact groups_none limit hrest.noGroup
  | cons g gs ih =>
    rw [List.length_cons] at hlimit
    obtain ⟨limit, rfl⟩ : ∃ m, limit = m + 1 := ⟨limit - 1, by omega⟩
    have hgs : groups limit false (followingText gs ++ rest) = (gs, false, rest) :=
      ih (by omega)
    have hbody : after? ':' (followingText (g :: gs) ++ rest) =
        some (Text.hexadecimal g.toNat ++ (followingText gs ++ rest)) := by
      rw [followingText, List.flatMap_cons, List.append_assoc]
      rfl
    have hgroup : groups (limit + 1) false (followingText (g :: gs) ++ rest) =
        (g :: (groups limit false (followingText gs ++ rest)).1,
          (groups limit false (followingText gs ++ rest)).2) :=
      groups_group false g hbody (endsGroup_following gs hrest.endsGroup)
    rw [hgroup, hgs]

/-- Groups are read up to where they end, if the reader takes as many. -/
lemma groups_text {limit : Nat} {gs : List UInt16} (hlimit : gs.length ≤ limit)
    (hrest : EndsGroups rest) :
    groups limit true (groupsText gs ++ rest) = (gs, false, rest) := by
  cases gs with
  | nil =>
    refine groups_none limit fun body hbody => ?_
    cases hbody
    exact hrest.endsGroup
  | cons g gs =>
    rw [List.length_cons] at hlimit
    obtain ⟨limit, rfl⟩ : ∃ m, limit = m + 1 := ⟨limit - 1, by omega⟩
    have hgs : groups limit false (followingText gs ++ rest) = (gs, false, rest) :=
      groups_following (by omega) hrest
    rw [groupsText_cons, List.append_assoc,
      groups_group true g rfl (endsGroup_following gs hrest.endsGroup), hgs]

/-- What follows an address of version 6 in an endpoint. -/
def FollowsAddress (rest : List Char) : Prop := ∃ c tail, rest = c :: tail ∧ (c = '%' ∨ c = ']')

lemma FollowsAddress.endsGroups (h : FollowsAddress rest) : EndsGroups rest := by
  obtain ⟨c, tail, rfl, hc⟩ := h
  refine ⟨endsGroup_cons (.inr hc) tail, fun body hbody => ?_⟩
  rcases hc with rfl | rfl <;> cases hbody

lemma endsGroups_leftOut (body : List Char) : EndsGroups (':' :: ':' :: body) := by
  refine ⟨endsGroup_cons (by decide) _, fun rest hrest => ?_⟩
  cases hrest
  exact endsGroup_cons (by decide) body

lemma zeroRun_le_length (gs : List UInt16) : zeroRun gs ≤ gs.length :=
  (List.takeWhile_sublist _).length_le

lemma take_zeroRun (gs : List UInt16) : gs.take (zeroRun gs) = List.replicate (zeroRun gs) 0 := by
  rw [List.eq_replicate_iff]
  refine ⟨List.length_take_of_le (zeroRun_le_length gs), fun g hg => ?_⟩
  rw [zeroRun, ← List.prefix_iff_eq_take.mp (List.takeWhile_prefix _)] at hg
  exact eq_of_beq (List.all_eq_true.mp List.all_takeWhile g hg)

lemma longestZeros_bound (gs : List UInt16) :
    (longestZeros gs).1 + (longestZeros gs).2 ≤ gs.length := by
  induction gs with
  | nil => exact Nat.le_refl 0
  | cons g gs ih =>
    rw [longestZeros]
    dsimp only
    split
    · rw [Nat.zero_add]
      exact zeroRun_le_length (g :: gs)
    · rw [List.length_cons]
      omega

/-- The groups that may be left out are zeros. -/
lemma take_drop_longestZeros (gs : List UInt16) :
    (gs.drop (longestZeros gs).1).take (longestZeros gs).2 =
      List.replicate (longestZeros gs).2 0 := by
  induction gs with
  | nil => rfl
  | cons g gs ih =>
    rw [longestZeros]
    dsimp only
    split
    · exact take_zeroRun (g :: gs)
    · exact ih

/-- Groups with a run of zeros left out between them are read back. -/
lemma address6?_leftOut {gs : Vector UInt16 8} {head tail : List UInt16} {mapped : Bool}
    {body : List Char} (hhead : groups 8 true text = (head, false, ':' :: ':' :: body))
    (htail : groups (7 - head.length) true body = (tail, mapped, rest))
    (hgs : gs.toList = head ++ List.replicate (8 - head.length - tail.length) 0 ++ tail)
    (hlength : head.length ≠ 8) : address6? text = some (gs, rest) := by
  have hall : (head ++ List.replicate (8 - head.length - tail.length) 0 ++ tail).length = 8 := by
    rw [← hgs, Vector.length_toList]
  rw [address6?, hhead]
  dsimp only
  rw [dif_neg hlength]
  rw [if_neg Bool.false_ne_true]
  simp only [after?, if_pos, Option.bind_eq_bind, Option.bind_some, htail, ← hgs]
  rw [dif_pos gs.length_toList]
  rfl

/-- An address of version 6 that stands for one of version 4 is read back. -/
lemma address6?_mapped {gs : Vector UInt16 8} {high low : UInt16}
    (hgs : gs.toList = [0, 0, 0, 0, 0, 0xFFFF, high, low]) (hrest : FollowsAddress rest) :
    address6? ([':', ':', 'f', 'f', 'f', 'f', ':'] ++ (Address4.ofHalves high low).chars ++ rest) =
      some (gs, rest) := by
  have haddress := address4?_chars (Address4.ofHalves high low) hrest.endsGroups.endsGroup.delimited
  have hlast : groups 6 false (':' :: ((Address4.ofHalves high low).chars ++ rest)) =
      ([high, low], true, rest) := by
    rw [groups_address4 4 rfl haddress, Address4.halves_ofHalves]
  have hffff : Text.hexadecimal (0xFFFF : UInt16).toNat = ['f', 'f', 'f', 'f'] := by
    simp [Text.hexadecimal, Text.numeralFrom]
    decide
  have hmapped : groups 7 true
      (['f', 'f', 'f', 'f'] ++ ':' :: ((Address4.ofHalves high low).chars ++ rest)) =
      ([0xFFFF, high, low], true, rest) := by
    rw [← hffff, groups_group true 0xFFFF rfl (endsGroup_cons (by decide) _), hlast]
  have hnone : ∀ body, groups 8 true (':' :: ':' :: body) = ([], false, ':' :: ':' :: body) := by
    intro body
    refine groups_none 8 fun text htext => ?_
    cases htext
    exact endsGroup_cons (by decide) _
  exact address6?_leftOut (hnone _) hmapped hgs (by decide)

/-- An address of version 6 is read back in front of what may follow it. -/
lemma address6?_chars (gs : Vector UInt16 8) (hrest : FollowsAddress rest) :
    address6? (address6Chars gs.toList ++ rest) = some (gs, rest) := by
  have hlength : gs.toList.length = 8 := gs.length_toList
  unfold address6Chars
  split
  · rename_i high low hgs
    exact address6?_mapped hgs hrest
  · dsimp only
    have hbound := longestZeros_bound gs.toList
    have hzeros := take_drop_longestZeros gs.toList
    generalize (longestZeros gs.toList).1 = start at hbound hzeros ⊢
    generalize (longestZeros gs.toList).2 = length at hbound hzeros ⊢
    split
    · have hhead : (gs.toList.take start).length = start := List.length_take_of_le (by omega)
      have htail : (gs.toList.drop (start + length)).length = 8 - (start + length) := by
        rw [List.length_drop, hlength]
      rw [List.append_assoc]
      refine address6?_leftOut (groups_text (by omega) (endsGroups_leftOut _))
        (groups_text (by omega) hrest.endsGroups) ?_ (by omega)
      have hrun : 8 - start - (8 - (start + length)) = length := by omega
      rw [hhead, htail, hrun, ← hzeros, List.append_assoc, ← List.drop_drop, List.take_append_drop,
        List.take_append_drop]
    · have hread := groups_text (Nat.le_of_eq hlength) hrest.endsGroups
      rw [address6?, hread]
      dsimp only
      rw [dif_pos hlength]
      rfl

/-- A port is read back at the end of an endpoint. -/
lemma port?_decimal (port : UInt16) : port? (':' :: Text.decimal port.toNat) = some (port, []) := by
  have hlength :
      (Text.digitsFrom 8 port.toNat).length ≤ (':' :: Text.decimal port.toNat).length := by
    rw [Text.decimal, Text.numeralFrom_eq, List.length_cons, List.length_map]
    exact Nat.le_succ _
  have hport := number?_numeral (by decide) hlength port.toNat_lt delimited_nil
  rw [List.append_nil] at hport
  rw [port?, after?, if_pos rfl]
  simp only [Option.bind_eq_bind, Option.bind_some]
  rw [Text.decimal] at hport ⊢
  rw [hport]
  simp

lemma zone?_decimal (zone : UInt32) (tail : List Char) :
    zone? ('%' :: Text.decimal zone.toNat ++ ']' :: tail) = some (zone, ']' :: tail) := by
  have hlength : (Text.digitsFrom 8 zone.toNat).length ≤
      (Text.decimal zone.toNat ++ ']' :: tail).length := by
    rw [Text.decimal, Text.numeralFrom_eq, List.length_append, List.length_map]
    exact Nat.le_add_right _ _
  have hzone : number? 10 (Text.decimal zone.toNat ++ ']' :: tail).length UInt32.size
      (Text.decimal zone.toNat ++ ']' :: tail) = some (zone.toNat, ']' :: tail) :=
    number?_numeral (by decide) hlength zone.toNat_lt (delimited_cons (by decide) tail)
  rw [List.cons_append, zone?, after?, if_pos rfl]
  simp only [hzone, Option.map_some, UInt32.ofNat_toNat]

/-- The mark of a zone, which only a zone other than zero has. -/
def zoneMark (zone : UInt32) : List Char :=
  if zone = 0 then [] else '%' :: Text.decimal zone.toNat

lemma followsAddress_zoneMark (zone : UInt32) (tail : List Char) :
    FollowsAddress (zoneMark zone ++ ']' :: tail) := by
  rw [zoneMark]
  split
  · exact ⟨_, _, rfl, .inr rfl⟩
  · exact ⟨_, _, rfl, .inl rfl⟩

lemma zone?_zoneMark (zone : UInt32) (tail : List Char) :
    zone? (zoneMark zone ++ ']' :: tail) = some (zone, ']' :: tail) := by
  rw [zoneMark]
  split
  · rename_i hzero
    rw [hzero]
    rfl
  · exact zone?_decimal zone tail

/-- The written form of an endpoint denotes it. -/
theorem read?_chars (e : Endpoint) : read? e.chars = some e := by
  cases e with
  | v4 address port =>
    have haddress := address4?_chars address (delimited_cons (c := ':') (by decide)
      (Text.decimal port.toNat))
    rw [read?, chars, haddress]
    simp only [port?_decimal, Option.map_some]
  | v6 groups zone port =>
    have hbracket : ∀ text, address4? ('[' :: text) = none := fun text =>
      address4?_of_noDigit (Text.spanDigits_cons_of_none (by decide) text)
    have hchars : (v6 groups zone port).chars = '[' :: (address6Chars groups.toList ++
        (zoneMark zone ++ ']' :: ':' :: Text.decimal port.toNat)) := by
      simp [chars, zoneMark]
    have haddress := address6?_chars groups
      (followsAddress_zoneMark zone (':' :: Text.decimal port.toNat))
    rw [read?, hchars, hbracket]
    simp only [after?, if_pos, Option.bind_eq_bind, Option.bind_some, haddress, zone?_zoneMark,
      port?_decimal]
    rfl

end Endpoint

end TracePipeline
