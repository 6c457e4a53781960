import TracePipeline.Json.Basic

/-!
# Reading JSON

The grammar of the format, with white space between the parts of a value. Control characters are
not allowed in strings, nor leading zeros in numbers.
-/

namespace TracePipeline.Json

/-- White space between the parts of a value. -/
def isSpace (c : Char) : Bool := c == ' ' || c == '\n' || c == '\t' || c == '\r'

/-- The text from its first character that is not white space. -/
def afterSpace (text : List Char) : List Char := text.dropWhile isSpace

/-- What follows a word at the start of the text. -/
def afterWord? : (word text : List Char) → Option (List Char)
  | [], text => some text
  | _ :: _, [] => none
  | w :: word, c :: text => if w = c then afterWord? word text else none

/-- The value of four hexadecimal digits. -/
def hex4? : List Char → Option (Nat × List Char)
  | a :: b :: c :: d :: rest => do
    let a ← Text.digitValue? 16 a
    let b ← Text.digitValue? 16 b
    let c ← Text.digitValue? 16 c
    let d ← Text.digitValue? 16 d
    return (((a * 16 + b) * 16 + c) * 16 + d, rest)
  | _ => none

/-- A part of a string: a character, or a code unit of a pair of surrogates. -/
inductive Piece where
  | char (c : Char)
  | surrogate (n : Nat)

/-- What stands after a backslash. -/
def escape? : List Char → Option (Piece × List Char)
  | [] => none
  | c :: rest =>
    match c with
    | '"' => some (.char '"', rest)
    | '\\' => some (.char '\\', rest)
    | '/' => some (.char '/', rest)
    | 'b' => some (.char '\x08', rest)
    | 'f' => some (.char '\x0c', rest)
    | 'n' => some (.char '\n', rest)
    | 'r' => some (.char '\r', rest)
    | 't' => some (.char '\t', rest)
    | 'u' => (hex4? rest).map fun (n, tail) =>
      (if 0xD800 ≤ n ∧ n < 0xE000 then .surrogate n else .char (Char.ofNat n), tail)
    | _ => none

/-- The parts of a string up to its closing quote. -/
def units? : (fuel : Nat) → List Char → Option (List Piece × List Char)
  | 0, _ => none
  | _ + 1, [] => none
  | fuel + 1, c :: rest =>
    if c = '"' then some ([], rest)
    else if c = '\\' then do
      let (u, tail) ← escape? rest
      let (us, tail) ← units? fuel tail
      return (u :: us, tail)
    else if c.toNat < 0x20 then none
    else do
      let (us, tail) ← units? fuel rest
      return (.char c :: us, tail)

/-- The text of a string, if its surrogates come in pairs. -/
def joined? : List Piece → Option (List Char)
  | [] => some []
  | .char c :: rest => (joined? rest).map (c :: ·)
  | .surrogate high :: .surrogate low :: rest =>
    if high < 0xDC00 ∧ 0xDC00 ≤ low then
      (joined? rest).map (Char.ofNat (0x10000 + (high - 0xD800) * 1024 + (low - 0xDC00)) :: ·)
    else none
  | .surrogate _ :: _ => none

/-- A string after its opening quote. -/
def string? (text : List Char) : Option (Option String × List Char) :=
  (units? (text.length + 1) text).map fun (us, rest) => ((joined? us).map String.ofList, rest)

/-- The digits before the point: zero alone, or none that start with zero. -/
def whole? (text : List Char) : Option (List Nat × List Char) :=
  match Text.spanDigits 10 text with
  | ([], _) => none
  | (0 :: _ :: _, _) => none
  | found => some found

/-- A number. -/
def number? (text : List Char) : Option (Text.Decimal × List Char) := do
  let (negative, body) := match text with
    | '-' :: rest => (true, rest)
    | other => (false, other)
  let (whole, rest) ← whole? body
  let (fraction, rest) ← match rest with
    | '.' :: more =>
      match Text.spanDigits 10 more with
      | ([], _) => none
      | found => some found
    | other => some ([], other)
  match rest with
  | c :: more =>
    if c = 'e' ∨ c = 'E' then
      let (e, tail) ← Text.Decimal.readExponent? more
      return (⟨negative, whole, fraction, some e⟩, tail)
    else return (⟨negative, whole, fraction, none⟩, c :: more)
  | [] => return (⟨negative, whole, fraction, none⟩, [])

mutual

/-- A value at the start of the text, after white space. -/
def value? : (fuel : Nat) → List Char → Option (Json × List Char)
  | 0, _ => none
  | fuel + 1, text =>
    match afterSpace text with
    | [] => none
    | '"' :: rest => (string? rest).map fun (s, tail) => (.string s, tail)
    | '[' :: rest =>
      match afterSpace rest with
      | ']' :: tail => some (.array [], tail)
      | _ => (items? fuel rest).map fun (items, tail) => (.array items, tail)
    | '{' :: rest =>
      match afterSpace rest with
      | '}' :: tail => some (.object [], tail)
      | _ => (entries? fuel rest).map fun (entries, tail) => (.object entries, tail)
    | 'n' :: rest => (afterWord? ['u', 'l', 'l'] rest).map fun tail => (.null, tail)
    | 't' :: rest => (afterWord? ['r', 'u', 'e'] rest).map fun tail => (.bool true, tail)
    | 'f' :: rest => (afterWord? ['a', 'l', 's', 'e'] rest).map fun tail => (.bool false, tail)
    | other => (number? other).map fun (d, tail) => (.number d, tail)

/-- Values with commas between them, up to the closing bracket. -/
def items? : (fuel : Nat) → List Char → Option (List Json × List Char)
  | 0, _ => none
  | fuel + 1, text => do
    let (item, rest) ← value? fuel text
    match afterSpace rest with
    | ',' :: tail =>
      let (items, tail) ← items? fuel tail
      return (item :: items, tail)
    | ']' :: tail => return ([item], tail)
    | _ => none

/-- Entries with commas between them, up to the closing brace. -/
def entries? : (fuel : Nat) → List Char → Option (List (Option String × Json) × List Char)
  | 0, _ => none
  | fuel + 1, text =>
    match afterSpace text with
    | '"' :: rest => do
      let (key, rest) ← string? rest
      match afterSpace rest with
      | ':' :: rest =>
        let (value, rest) ← value? fuel rest
        match afterSpace rest with
        | ',' :: tail =>
          let (entries, tail) ← entries? fuel tail
          return ((key, value) :: entries, tail)
        | '}' :: tail => return ([(key, value)], tail)
        | _ => none
      | _ => none
    | _ => none

end

/-- The value that a whole text denotes. -/
def read? (text : String) : Option Json :=
  match value? (2 * text.length + 2) text.toList with
  | some (j, rest) => if (afterSpace rest).isEmpty then some j else none
  | none => none

end TracePipeline.Json
