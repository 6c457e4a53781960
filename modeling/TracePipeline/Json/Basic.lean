import TracePipeline.Text.Decimal

/-!
# JSON values

A value as a text denotes it, with its numbers digit by digit, and its compact text. A string that
holds one half of a surrogate pair alone is not a text; it may stand where a value is passed over.
-/

namespace TracePipeline

inductive Json where
  | null
  | bool (value : Bool)
  | number (value : Text.Decimal)
  | string (value : Option String)
  | array (items : List Json)
  | object (entries : List (Option String × Json))

namespace Json

/-- A whole number. -/
def int (n : Int) : Json := number (.ofInt n)

/-- A natural number. -/
def nat (n : Nat) : Json := int n

/-- A text. -/
def text (s : String) : Json := string (some s)

/-- A value or `null`. -/
def optional (f : α → Json) : Option α → Json
  | none => null
  | some x => f x

/-- An object with the given entries. -/
def fields (entries : List (String × Json)) : Json :=
  object (entries.map fun (k, v) => (some k, v))

/-- An object with one entry. -/
def tagged (tag : String) (value : Json) : Json := fields [(tag, value)]

/-- How a character is written in a string. -/
def escaped (c : Char) : List Char :=
  match c with
  | '"' => ['\\', '"']
  | '\\' => ['\\', '\\']
  | '\x08' => ['\\', 'b']
  | '\t' => ['\\', 't']
  | '\n' => ['\\', 'n']
  | '\x0c' => ['\\', 'f']
  | '\r' => ['\\', 'r']
  | _ => if c.toNat < 0x20 then ['\\', 'u'] ++ Text.hexPadded 4 c.toNat else [c]

/-- A string between quotes; one that is no text has half of a pair as its only character. -/
def stringChars : Option String → List Char
  | some s => '"' :: s.toList.flatMap escaped ++ ['"']
  | none => ['"', '\\', 'u', 'd', '8', '0', '0', '"']

mutual

/-- The compact text of a value. -/
def chars : Json → List Char
  | null => ['n', 'u', 'l', 'l']
  | bool true => ['t', 'r', 'u', 'e']
  | bool false => ['f', 'a', 'l', 's', 'e']
  | number d => d.chars ['+']
  | string s => stringChars s
  | array items => '[' :: itemChars items ++ [']']
  | object entries => '{' :: entryChars entries ++ ['}']

/-- Values with commas between them. -/
def itemChars : List Json → List Char
  | [] => []
  | [item] => item.chars
  | item :: rest => item.chars ++ ',' :: itemChars rest

/-- Entries with commas between them. -/
def entryChars : List (Option String × Json) → List Char
  | [] => []
  | [(key, value)] => stringChars key ++ ':' :: value.chars
  | (key, value) :: rest => stringChars key ++ ':' :: value.chars ++ ',' :: entryChars rest

end

/-- The compact text of a value. -/
def compact (j : Json) : String := String.ofList j.chars

end Json

end TracePipeline
