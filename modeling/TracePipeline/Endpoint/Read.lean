import TracePipeline.Endpoint.Basic

/-!
# Reading endpoints

The written form and its variants: groups with leading zeros and capital letters, a run of zeros
left out anywhere, and the last two groups in the form of version 4. Numbers in that form have no
leading zeros.
-/

namespace TracePipeline.Endpoint

/-- The text after the given character. -/
def after? (c : Char) : List Char → Option (List Char)
  | [] => none
  | d :: rest => if d = c then some rest else none

/-- A number below `limit` in a base: all digits that come, of which there is one at least and
`most` at most. -/
def number? (base most limit : Nat) (text : List Char) : Option (Nat × List Char) :=
  match Text.spanDigits base text with
  | ([], _) => none
  | (ds, rest) =>
    let n := Text.ofDigits base ds
    if ds.length ≤ most ∧ n < limit then some (n, rest) else none

/-- A decimal number below 256 without leading zeros. -/
def octet? (text : List Char) : Option (UInt8 × List Char) :=
  match number? 10 3 256 text with
  | none => none
  | some (n, rest) =>
    match text with
    | '0' :: _ => if n = 0 ∧ rest.length + 1 = text.length then some (0, rest) else none
    | _ => some (UInt8.ofNat n, rest)

/-- Four octets with points between them. -/
def address4? (text : List Char) : Option (Address4 × List Char) := do
  let (a, t) ← octet? text
  let (b, t) ← octet? (← after? '.' t)
  let (c, t) ← octet? (← after? '.' t)
  let (d, t) ← octet? (← after? '.' t)
  return (⟨a, b, c, d⟩, t)

/-- As many groups as come, `limit` at most, with colons between them; whether they ended in the
form of version 4; and the text from where no further group follows. -/
def groups : (limit : Nat) → (first : Bool) → List Char → List UInt16 × Bool × List Char
  | 0, _, text => ([], false, text)
  | limit + 1, first, text =>
    match if first then some text else after? ':' text with
    | none => ([], false, text)
    | some body =>
      match if limit = 0 then none else address4? body with
      | some (address, rest) => ([address.halves.1, address.halves.2], true, rest)
      | none =>
        match number? 16 4 65536 body with
        | none => ([], false, text)
        | some (g, rest) =>
          let (gs, mapped, tail) := groups limit false rest
          (UInt16.ofNat g :: gs, mapped, tail)

/-- The groups of an address of version 6. -/
def address6? (text : List Char) : Option (Vector UInt16 8 × List Char) :=
  let (head, mapped, rest) := groups 8 true text
  if h : head.length = 8 then some (⟨head.toArray, by simpa using h⟩, rest)
  else if mapped then none
  else do
    let rest ← after? ':' rest
    let rest ← after? ':' rest
    let (tail, _, rest) := groups (7 - head.length) true rest
    let all := head ++ List.replicate (8 - head.length - tail.length) 0 ++ tail
    if h : all.length = 8 then some (⟨all.toArray, by simpa using h⟩, rest) else none

/-- A colon and a port. -/
def port? (text : List Char) : Option (UInt16 × List Char) := do
  let (n, rest) ← number? 10 text.length 65536 (← after? ':' text)
  return (UInt16.ofNat n, rest)

/-- A percent sign and a zone, or nothing. -/
def zone? (text : List Char) : Option (UInt32 × List Char) :=
  match after? '%' text with
  | none => some (0, text)
  | some body =>
    (number? 10 body.length UInt32.size body).map fun (n, rest) => (UInt32.ofNat n, rest)

/-- The endpoint that a whole text denotes. -/
def read? (text : List Char) : Option Endpoint :=
  let found : Option (Endpoint × List Char) :=
    match address4? text with
    | some (address, rest) => (port? rest).map fun (p, tail) => (v4 address p, tail)
    | none => do
      let (gs, rest) ← address6? (← after? '[' text)
      let (zone, rest) ← zone? rest
      let (p, rest) ← port? (← after? ']' rest)
      return (v6 gs zone p, rest)
  match found with
  | some (e, []) => some e
  | _ => none

end TracePipeline.Endpoint
