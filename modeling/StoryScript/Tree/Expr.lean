import StoryScript.Number.Whole
import StoryScript.Span
import StoryScript.Tree.Operator

/-!
# Expressions

The trees of expressions.  Every node carries the span that it was read from.
-/

namespace StoryScript

/-- A constant of a script. -/
inductive Literal where
  | null
  | bool (b : Bool)
  | int (n : Whole)
  | float (x : Float)
  | str (s : String)

/-- An expression. -/
inductive Expr where
  /-- An operator between two operands. -/
  | binary (span : Span) (op : BinaryOp) (left right : Expr)
  /-- An operator before one operand. -/
  | unary (span : Span) (op : UnaryOp) (operand : Expr)
  /-- The call of a function by name. -/
  | call (span : Span) (callee : String) (args : List Expr)
  /-- The entry of a map under a fixed key. -/
  | member (span : Span) (target : Expr) (name : String)
  /-- The element of a list at a computed place. -/
  | index (span : Span) (target place : Expr)
  /-- A new value for an existing variable. -/
  | assign (span : Span) (name : String) (value : Expr)
  /-- A variable, or the name of a built-in. -/
  | identifier (span : Span) (name : String)
  /-- A constant. -/
  | literal (span : Span) (value : Literal)
  /-- A list of computed elements. -/
  | list (span : Span) (items : List Expr)
  /-- A map of computed entries; a key may occur more than once. -/
  | map (span : Span) (entries : List (String × Expr))

namespace Expr

/-- The span of an expression. -/
def span : Expr → Span
  | binary s _ _ _ | unary s _ _ | call s _ _ | member s _ _ | index s _ _ | assign s _ _
  | identifier s _ | literal s _ | list s _ | map s _ => s

/-- The expression with another span; its parts keep theirs. -/
def withSpan (s : Span) : Expr → Expr
  | binary _ op left right => binary s op left right
  | unary _ op operand => unary s op operand
  | call _ callee args => call s callee args
  | member _ target name => member s target name
  | index _ target place => index s target place
  | assign _ name value => assign s name value
  | identifier _ name => identifier s name
  | literal _ value => literal s value
  | list _ items => list s items
  | map _ entries => map s entries

end Expr

end StoryScript
