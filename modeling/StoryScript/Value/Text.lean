import StoryScript.Tree.Outline
import StoryScript.Value.Basic

/-!
# Texts of values

The text of a value is what a script prints.  Strings stand for themselves, but inside lists
and maps they are quoted, so that the text of a list shows where its elements end.  The
outline of a value also names the kinds.
-/

namespace StoryScript.Value

open Text

/-- The text of a function. -/
def functionText (name : String) : String := "<fn " ++ name ++ ">"

mutual

/-- The text of a value, in which a string is quoted or not. -/
def render (quoted : Bool) : Value → String
  | null => "null"
  | bool b => boolText b
  | int n => n.text
  | float x => Number.render .plain x
  | str s => if quoted then quote s else s
  | list ⟨items⟩ => bracketed (renderItems items)
  | map entries => braced (renderEntries entries)
  | builtin name => functionText name
  | closure f => functionText f.name

/-- The texts of the elements of a list. -/
def renderItems : List Value → List String
  | [] => []
  | v :: rest => render true v :: renderItems rest

/-- The texts of the entries of a map. -/
def renderEntries : List (String × Value) → List String
  | [] => []
  | (key, v) :: rest => (key ++ ": " ++ render true v) :: renderEntries rest

end

/-- The text of a value. -/
def text (v : Value) : String := render false v

mutual

/-- The outline of a value. -/
def outline : Value → String
  | null => "Null"
  | bool b => applied "Bool" (boolText b)
  | int n => applied "Int" n.text
  | float x => applied "Float" (Number.render .compact x)
  | str s => applied "Str" (quote s)
  | list ⟨items⟩ => bracketed (outlines items)
  | map entries => braced (entryOutlines entries)
  | builtin name => functionText name
  | closure f => functionText f.name

/-- The outlines of the elements of a list. -/
def outlines : List Value → List String
  | [] => []
  | v :: rest => outline v :: outlines rest

/-- The outlines of the entries of a map. -/
def entryOutlines : List (String × Value) → List String
  | [] => []
  | (key, v) :: rest => (quote key ++ ": " ++ outline v) :: entryOutlines rest

end

end StoryScript.Value
