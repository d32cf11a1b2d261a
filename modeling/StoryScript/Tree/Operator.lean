/-!
# Operators

The operators of expressions, with the symbols that a script writes for them and the words
that outlines use.
-/

namespace StoryScript

/-- An operator with two operands. -/
inductive BinaryOp where
  | add
  | sub
  | mul
  | div
  | mod
  | eq
  | notEq
  | lt
  | ltEq
  | gt
  | gtEq
  | and
  | or
  deriving DecidableEq, Repr

namespace BinaryOp

/-- All operators with two operands. -/
def all : List BinaryOp := [add, sub, mul, div, mod, eq, notEq, lt, ltEq, gt, gtEq, and, or]

/-- The symbol of the operator. -/
def symbol : BinaryOp → String
  | add => "+"
  | sub => "-"
  | mul => "*"
  | div => "/"
  | mod => "%"
  | eq => "=="
  | notEq => "!="
  | lt => "<"
  | ltEq => "<="
  | gt => ">"
  | gtEq => ">="
  | and => "&&"
  | or => "||"

/-- The word for the operator. -/
def word : BinaryOp → String
  | add => "Add"
  | sub => "Sub"
  | mul => "Mul"
  | div => "Div"
  | mod => "Mod"
  | eq => "Eq"
  | notEq => "NotEq"
  | lt => "Lt"
  | ltEq => "LtEq"
  | gt => "Gt"
  | gtEq => "GtEq"
  | and => "And"
  | or => "Or"

/-- The operator with the given symbol. -/
def ofSymbol? (s : String) : Option BinaryOp := all.find? fun op => op.symbol == s

/-- Whether the operator asks for the order of its operands. -/
def isComparison : BinaryOp → Bool
  | lt | ltEq | gt | gtEq => true
  | _ => false

end BinaryOp

/-- An operator with one operand. -/
inductive UnaryOp where
  | not
  | neg
  deriving DecidableEq, Repr

namespace UnaryOp

/-- All operators with one operand. -/
def all : List UnaryOp := [not, neg]

/-- The symbol of the operator. -/
def symbol : UnaryOp → String
  | not => "!"
  | neg => "-"

/-- The word for the operator. -/
def word : UnaryOp → String
  | not => "Not"
  | neg => "Neg"

/-- The operator with the given symbol. -/
def ofSymbol? (s : String) : Option UnaryOp := all.find? fun op => op.symbol == s

end UnaryOp

end StoryScript
