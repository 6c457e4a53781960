/-!
# Numerals

The digits of a natural number in a base, as few as possible or padded to a width, and the
reading of a digit. Letters are lower case when written and of either case when read.
-/

namespace TracePipeline.Text

/-- The digit of a value below thirty-six. -/
def digit (n : Nat) : Char :=
  if n < 10 then Char.ofNat (48 + n) else Char.ofNat (87 + n)

/-- The value of a digit in the given base. -/
def digitValue? (base : Nat) (c : Char) : Option Nat :=
  let value :=
    if '0' ≤ c ∧ c ≤ '9' then some (c.toNat - 48)
    else if 'a' ≤ c ∧ c ≤ 'z' then some (c.toNat - 87)
    else if 'A' ≤ c ∧ c ≤ 'Z' then some (c.toNat - 55)
    else none
  value.filter (· < base)

/-- The numeral of `n` in base `b + 2`, without leading zeros. -/
def numeralFrom (b n : Nat) : List Char :=
  if _h : n < b + 2 then [digit n]
  else numeralFrom b (n / (b + 2)) ++ [digit (n % (b + 2))]
termination_by n
decreasing_by exact Nat.div_lt_self (by omega) (by omega)

/-- The decimal numeral of a number. -/
def decimal (n : Nat) : List Char := numeralFrom 8 n

/-- The hexadecimal numeral of a number. -/
def hexadecimal (n : Nat) : List Char := numeralFrom 14 n

/-- The last `width` digits of a number in base sixteen, leading zeros included. -/
def hexPadded : (width : Nat) → (n : Nat) → List Char
  | 0, _ => []
  | width + 1, n => hexPadded width (n / 16) ++ [digit (n % 16)]

/-- A text filled up with zeros on the left. -/
def zeroFilled (width : Nat) (text : List Char) : List Char :=
  List.replicate (width - text.length) '0' ++ text

/-- The number that a sequence of digit values denotes. -/
def ofDigits (base : Nat) (digits : List Nat) : Nat :=
  digits.foldl (fun n d => n * base + d) 0

/-- The longest run of digits at the start of a text, as values, and what follows it. -/
def spanDigits (base : Nat) : List Char → List Nat × List Char
  | [] => ([], [])
  | c :: rest =>
    match digitValue? base c with
    | none => ([], c :: rest)
    | some d => let (ds, tail) := spanDigits base rest; (d :: ds, tail)

/-- A signed decimal numeral; only negative numbers carry a sign. -/
def integer : Int → List Char
  | .ofNat n => decimal n
  | .negSucc n => '-' :: decimal (n + 1)

/-- The decimal text of a number. -/
def showNat (n : Nat) : String := String.ofList (decimal n)

/-- The decimal text of an integer. -/
def showInt (n : Int) : String := String.ofList (integer n)

/-- An unsigned decimal number below `limit`: digits after an optional plus sign. -/
def readUnsigned? (limit : Nat) (text : List Char) : Option Nat :=
  let body := match text with
    | '+' :: rest => rest
    | other => other
  match spanDigits 10 body with
  | (d :: ds, []) => some (ofDigits 10 (d :: ds)) |>.filter (· < limit)
  | _ => none

/-- Two lower-case hexadecimal digits a byte. -/
def hexBytes (bytes : List UInt8) : List Char :=
  bytes.flatMap fun b => hexPadded 2 b.toNat

/-- The bytes of digit values in base sixteen, two a byte; a last odd digit is dropped. -/
def bytesOfDigits : List Nat → List UInt8
  | high :: low :: rest => UInt8.ofNat (16 * high + low) :: bytesOfDigits rest
  | _ => []

/-- The bytes written at the start of a text. -/
def readBytes (text : List Char) : List UInt8 := bytesOfDigits (spanDigits 16 text).1

end TracePipeline.Text
