import StoryScript.Entries
import StoryScript.Number.Units
import StoryScript.Tree.Stmt

/-!
# Values

The values that expressions have.  Lists and maps are plain data: a changed list is a new
list.  Only functions refer to something that can change, the scope in which they were
declared.
-/

namespace StoryScript

/-- The name of a scope in the heap of scopes. -/
abbrev ScopeId := Nat

/-- A function together with the scope that it was declared in. -/
structure Closure where
  /-- The declaration. -/
  decl : Function
  /-- The innermost scope around the declaration. -/
  scope : ScopeId
  /-- The outermost scope around the declaration. -/
  global : ScopeId

namespace Closure

/-- The name of the function. -/
def name (f : Closure) : String := f.decl.name

/-- The names of the parameters. -/
def params (f : Closure) : List String := f.decl.params

/-- Whether two closures come from the same declaration in the same scope. -/
def same (f g : Closure) : Bool := f.decl.id == g.decl.id && f.scope == g.scope

end Closure

/-- A value. -/
inductive Value where
  | null
  | bool (b : Bool)
  | int (n : Whole)
  | float (x : Float)
  | str (s : String)
  | list (items : Array Value)
  | map (entries : List (String × Value))
  /-- A built-in function by its name. -/
  | builtin (name : String)
  /-- A function of a script. -/
  | closure (f : Closure)

instance : Inhabited Value := ⟨.null⟩

/-- The kinds of values. -/
inductive Kind where
  | null
  | bool
  | int
  | float
  | string
  | list
  | map
  | function
  deriving DecidableEq, Repr

/-- The name that scripts use for a kind. -/
def Kind.name : Kind → String
  | null => "null"
  | bool => "bool"
  | int => "int"
  | float => "float"
  | string => "string"
  | list => "list"
  | map => "map"
  | function => "function"

/-- The value of a constant. -/
def Literal.value : Literal → Value
  | null => .null
  | bool b => .bool b
  | int n => .int n
  | float x => .float x
  | str s => .str s

namespace Value

/-- The kind of a value. -/
def kind : Value → Kind
  | null => .null
  | bool _ => .bool
  | int _ => .int
  | float _ => .float
  | str _ => .string
  | list _ => .list
  | map _ => .map
  | builtin _ | closure _ => .function

/-- Whether the value is null. -/
def isNull : Value → Bool
  | null => true
  | _ => false

/-- Whether the value is an integer or a float. -/
def isNumeric : Value → Bool
  | int _ | float _ => true
  | _ => false

/-- The value of a number as a float. -/
def number? : Value → Option Float
  | int n => some (Number.ofWhole n)
  | float x => some x
  | _ => none

/-- The text of a string. -/
def string? : Value → Option String
  | str s => some s
  | _ => none

/-- Whether a condition with this value holds: null, false, the zeros and everything empty
do not. -/
def truthy : Value → Bool
  | null => false
  | bool b => b
  | int n => n != 0
  | float x => !Number.isZero x
  | str s => s != ""
  | list items => !items.isEmpty
  | map entries => !entries.isEmpty
  | builtin _ | closure _ => true

end Value

end StoryScript
