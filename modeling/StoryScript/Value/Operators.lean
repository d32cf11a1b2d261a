import StoryScript.Error
import StoryScript.Value.Equality
import StoryScript.Value.Text

/-!
# Operators on values

The meaning of the operators once their operands have values.  The operators `&&` and `||`
see both values as well.
-/

namespace StoryScript

/-- A number as an operand. -/
inductive Operand where
  | int (n : Whole)
  | float (x : Float)

namespace Operand

/-- The number that a value is. -/
def ofValue? : Value → Option Operand
  | .int n => some (int n)
  | .float x => some (float x)
  | _ => none

/-- The number as a float. -/
def toFloat : Operand → Float
  | int n => Number.ofWhole n
  | float x => x

/-- Whether the number is zero. -/
def isZero : Operand → Bool
  | int n => n == 0
  | float x => Number.isZero x

end Operand

namespace BinaryOp

/-- The cause when values do not fit the operator. -/
def mismatch (op : BinaryOp) (l r : Value) : Cause :=
  .typeMismatch (.operands op.symbol l.kind r.kind)

/-- Both operands as numbers. -/
def operands (op : BinaryOp) (l r : Value) : Except Cause (Operand × Operand) :=
  match Operand.ofValue? l, Operand.ofValue? r with
  | some a, some b => .ok (a, b)
  | _, _ => .error (op.mismatch l r)

/-- An integer result, or an overflow in the named operation. -/
def inRange (operation : String) : Option Whole → Except Cause Value
  | some n => .ok (.int n)
  | none => .error (.integerOverflow operation)

/-- The operators `+`, `-`, `*` and `%` on numbers.  The result is an integer exactly when
both operands are. -/
def arithmetic (op : BinaryOp) (l r : Value) : Except Cause Value := do
  match ← op.operands l r with
  | (.int a, .int b) =>
    match op with
    | .add => inRange "addition" (Whole.add? a b)
    | .sub => inRange "subtraction" (Whole.sub? a b)
    | .mul => inRange "multiplication" (Whole.mul? a b)
    | _ => if b == 0 then .error .divisionByZero else inRange "remainder" (Whole.rem? a b)
  | (a, b) =>
    match op with
    | .add => .ok (.float (a.toFloat + b.toFloat))
    | .sub => .ok (.float (a.toFloat - b.toFloat))
    | .mul => .ok (.float (a.toFloat * b.toFloat))
    | _ =>
      if Number.isZero b.toFloat then .error .divisionByZero
      else .ok (.float (Number.rem a.toFloat b.toFloat))

/-- The sum of numbers, or the joined texts if one of the values is a string. -/
def plus (l r : Value) : Except Cause Value :=
  match l, r with
  | .str s, r => .ok (.str (s ++ r.text))
  | l, .str t => .ok (.str (l.text ++ t))
  | l, r => arithmetic .add l r

/-- The quotient of numbers, which is always a float. -/
def divide (l r : Value) : Except Cause Value := do
  let (a, b) ← operands .div l r
  if b.isZero then .error .divisionByZero
  else .ok (.float (a.toFloat / b.toFloat))

/-- The comparisons.  Two integers are compared exactly, other numbers as floats. -/
def compare (op : BinaryOp) (l r : Value) : Except Cause Value := do
  match ← op.operands l r with
  | (.int a, .int b) =>
    .ok (.bool (match op with
      | .lt => a.toInt < b.toInt
      | .ltEq => a.toInt ≤ b.toInt
      | .gt => b.toInt < a.toInt
      | _ => b.toInt ≤ a.toInt))
  | (a, b) =>
    .ok (.bool (match op with
      | .lt => Number.lt a.toFloat b.toFloat
      | .ltEq => Number.le a.toFloat b.toFloat
      | .gt => Number.lt b.toFloat a.toFloat
      | _ => Number.le b.toFloat a.toFloat))

/-- The value of the operator applied to two values. -/
def apply (op : BinaryOp) (l r : Value) : Except Cause Value :=
  match op with
  | .add => plus l r
  | .sub | .mul | .mod => arithmetic op l r
  | .div => divide l r
  | .eq => .ok (.bool (l.looseEq r))
  | .notEq => .ok (.bool (!l.looseEq r))
  | .lt | .ltEq | .gt | .gtEq => compare op l r
  | .and => .ok (.bool (l.truthy && r.truthy))
  | .or => .ok (.bool (l.truthy || r.truthy))

end BinaryOp

/-- The value of the operator applied to a value. -/
def UnaryOp.apply (op : UnaryOp) (v : Value) : Except Cause Value :=
  match op with
  | .not => .ok (.bool (!v.truthy))
  | .neg =>
    match v with
    | .int n => BinaryOp.inRange "negation" (Whole.neg? n)
    | .float x => .ok (.float (-x))
    | v => .error (.typeMismatch (.operand op.symbol v.kind))

namespace Value

/-- The place that an index value denotes: a float is rounded down. -/
def place? : Value → Option Whole
  | int n => some n
  | float x => if Number.isFinite x then some (Whole.clamp (Number.floor x)) else none
  | _ => none

/-- The element of a list at a place. -/
def element (target index : Value) : Except Cause Value :=
  match target with
  | list items =>
    match index.place? with
    | none => .error (.invalidIndexType index.kind)
    | some n =>
      match if 0 ≤ n.toInt then items[n.toInt.toNat]? else none with
      | some v => .ok v
      | none => .error (.indexOutOfRange n items.size)
  | null => .error (.nullAccess "index")
  | v => .error (.typeMismatch (.notIndexable v.kind))

/-- The entry of a map under a key, null if there is none. -/
def member (target : Value) (name : String) : Except Cause Value :=
  match target with
  | map entries => .ok ((Entries.get? name entries).getD .null)
  | null => .error (.nullAccess ("access member " ++ Text.ticked name))
  | v => .error (.typeMismatch (.noMembers name v.kind))

end Value

end StoryScript
