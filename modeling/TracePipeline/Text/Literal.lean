import TracePipeline.Text.Quoted

/-!
# Literals

The one-line form of a structured value, for logs and debugging: a name with its fields in braces,
or with its arguments in parentheses, lists in brackets, and optional values as `Some` or `None`.
-/

namespace TracePipeline.Text

/-- Texts with a comma between them. -/
def commas (items : List String) : String := ", ".intercalate items

/-- A value with named fields. -/
def fields (name : String) (entries : List (String × String)) : String :=
  name ++ " \x7b " ++ commas (entries.map fun (k, v) => k ++ ": " ++ v) ++ " \x7d"

/-- A value with one argument. -/
def applied (name argument : String) : String := name ++ "(" ++ argument ++ ")"

/-- A list. -/
def bracketed (items : List String) : String := "[" ++ commas items ++ "]"

/-- An optional value. -/
def optional : Option String → String
  | none => "None"
  | some text => applied "Some" text

/-- One of the two truth values. -/
def truth (b : Bool) : String := if b then "true" else "false"

end TracePipeline.Text
