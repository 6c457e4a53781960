import TracePipeline.Text.Hidden
import TracePipeline.Text.Numeral

/-!
# Quoted text

A text between double quotes, on one line: the quote and the backslash are escaped, the usual
control characters have their short forms, and every other hidden character is written by its
number.
-/

namespace TracePipeline.Text

/-- A character by its number, as in `\u{7f}`. -/
def numbered (c : Char) : List Char :=
  ['\\', 'u', '\x7b'] ++ hexadecimal c.toNat ++ ['\x7d']

/-- How a character is written between quotes. -/
def escaped (c : Char) : List Char :=
  match c with
  | '\x00' => ['\\', '0']
  | '\t' => ['\\', 't']
  | '\n' => ['\\', 'n']
  | '\r' => ['\\', 'r']
  | '"' => ['\\', '"']
  | '\\' => ['\\', '\\']
  | _ => if isHidden c then numbered c else [c]

/-- The quoted form of a text. -/
def quoted (text : String) : String :=
  String.ofList ('"' :: text.toList.flatMap escaped ++ ['"'])

end TracePipeline.Text
