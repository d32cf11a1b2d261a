import StoryScript.Text.Quoted

/-!
# Texts of structured data

One line of text for data that is made of named parts: lists in square brackets, records
in braces with their fields by name, and constructors with one argument in parentheses.
-/

namespace StoryScript.Text

/-- The items of a list, with a comma and a blank between them. -/
def commas (items : List String) : String := String.intercalate ", " items

/-- A list in square brackets. -/
def bracketed (items : List String) : String := "[" ++ commas items ++ "]"

/-- Items in braces that stand directly inside them. -/
def braced (items : List String) : String := "\x7b" ++ commas items ++ "\x7d"

/-- A constructor applied to one argument. -/
def applied (name argument : String) : String := name ++ "(" ++ argument ++ ")"

/-- A record with its named fields. -/
def record (name : String) (fields : List (String × String)) : String :=
  name ++ " \x7b " ++ commas (fields.map fun (field, value) => field ++ ": " ++ value)
    ++ " \x7d"

/-- A part that may be missing. -/
def optional : Option String → String
  | none => "None"
  | some value => applied "Some" value

/-- A text between grave accents. -/
def ticked (s : String) : String := "`" ++ s ++ "`"

end StoryScript.Text
