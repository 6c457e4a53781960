import TracePipeline.Text.Numeral

/-!
# Network endpoints

An endpoint is an address of version 4 or 6 with a port, and is written in its canonical form: the
first of the longest runs of two or more zero groups is left out, and an address that stands for one
of version 4 ends in that one's form.
-/

namespace TracePipeline

/-- An address of version 4. -/
structure Address4 where
  a : UInt8
  b : UInt8
  c : UInt8
  d : UInt8
  deriving DecidableEq

/-- Where a peer can be reached. The zone of an address of version 6 is zero if it has none. -/
inductive Endpoint where
  | v4 (address : Address4) (port : UInt16)
  | v6 (groups : Vector UInt16 8) (zone : UInt32) (port : UInt16)
  deriving DecidableEq

namespace Address4

/-- The upper and the lower half. -/
def halves (x : Address4) : UInt16 × UInt16 :=
  (UInt16.ofNat (x.a.toNat * 256 + x.b.toNat), UInt16.ofNat (x.c.toNat * 256 + x.d.toNat))

/-- The address with the given halves. -/
def ofHalves (high low : UInt16) : Address4 :=
  ⟨UInt8.ofNat (high.toNat / 256), UInt8.ofNat (high.toNat % 256),
    UInt8.ofNat (low.toNat / 256), UInt8.ofNat (low.toNat % 256)⟩

/-- Four decimal numbers with points between them. -/
def chars (x : Address4) : List Char :=
  Text.decimal x.a.toNat ++ '.' :: Text.decimal x.b.toNat ++ '.' :: Text.decimal x.c.toNat ++
    '.' :: Text.decimal x.d.toNat

end Address4

namespace Endpoint

/-- The length of the run of zero groups at the start. -/
def zeroRun (groups : List UInt16) : Nat := (groups.takeWhile (· == 0)).length

/-- Where the first of the longest runs of zero groups starts, and how long it is. -/
def longestZeros : List UInt16 → Nat × Nat
  | [] => (0, 0)
  | g :: rest =>
    let here := zeroRun (g :: rest)
    let (start, length) := longestZeros rest
    if length ≤ here then (0, here) else (start + 1, length)

/-- Groups in hexadecimal with colons between them. -/
def groupsText (groups : List UInt16) : List Char :=
  [':'].intercalate (groups.map fun g => Text.hexadecimal g.toNat)

/-- An address of version 6. -/
def address6Chars (groups : List UInt16) : List Char :=
  match groups with
  | [0, 0, 0, 0, 0, 0xFFFF, high, low] =>
    [':', ':', 'f', 'f', 'f', 'f', ':'] ++ (Address4.ofHalves high low).chars
  | _ =>
    let (start, length) := longestZeros groups
    if 1 < length then
      groupsText (groups.take start) ++ ':' :: ':' :: groupsText (groups.drop (start + length))
    else groupsText groups

/-- The written form of an endpoint. -/
def chars : Endpoint → List Char
  | v4 address port => address.chars ++ ':' :: Text.decimal port.toNat
  | v6 groups zone port =>
    let mark := if zone = 0 then [] else '%' :: Text.decimal zone.toNat
    '[' :: address6Chars groups.toList ++ mark ++ ']' :: ':' :: Text.decimal port.toNat

def text (e : Endpoint) : String := String.ofList e.chars

end Endpoint

end TracePipeline
