import StoryScript.Builtin.Basic
import StoryScript.Number.Numeral
import StoryScript.Text.Blank
import StoryScript.Value.Equality

/-!
# The standard built-ins

The built-ins that every script has.  Only `print` touches the scene; all others compute
their value from their arguments.
-/

namespace StoryScript.Standard

/-- Print the texts of all arguments on one line. -/
def print : Builtin := fun args => do
  Action.modify fun s => s.print (String.intercalate " " (args.map Value.text))
  return .null

/-- A count as a value. -/
def count (n : Nat) : Value := .int (Whole.clamp n)

/-- The number of characters, elements or entries. -/
def len (args : List Value) : Except BuiltinError Value := do
  Args.arity args 1
  match ← Args.get args 0 with
  | .str s => .ok (count s.length)
  | .list items => .ok (count items.size)
  | .map entries => .ok (count entries.length)
  | v => .error (.wrongArgument 0 "a string, list or map" v)

/-- The text of a value. -/
def str (args : List Value) : Except BuiltinError Value := do
  Args.arity args 1
  return .str (← Args.get args 0).text

/-! ### Conversion to numbers -/

/-- The number that a text denotes, with white space around it: an integer if it can be read
as one, else a float. -/
def readNumber (s : String) : Except BuiltinError Value :=
  let cs := Text.trim s.toList
  match Number.readWhole? cs with
  | some n => .ok (.int n)
  | none =>
    match Number.readFloat? cs with
    | some x => .ok (.float x)
    | none =>
      .error (.invalid ("cannot parse " ++ Text.quote (String.ofList cs) ++ " as a number"))

/-- The integer part of a float, as near as an integer can be. -/
def truncate (x : Float) : Except BuiltinError Value :=
  if Number.isFinite x then .ok (.int (Whole.clamp (Number.trunc x)))
  else .error (.invalid ("cannot convert " ++ Number.render .plain x ++ " to int"))

/-- The complaint about a value that is no number and cannot become one. -/
def noNumber (v : Value) : BuiltinError := .wrongArgument 0 "a number, bool or string" v

/-- A number, a truth value or a text as an integer. -/
def toInt (v : Value) : Except BuiltinError Value :=
  match v with
  | .int n => .ok (.int n)
  | .bool b => .ok (.int (if b then 1 else 0))
  | .float x => truncate x
  | .str s => do
    match ← readNumber s with
    | .float x => truncate x
    | n => .ok n
  | v => .error (noNumber v)

/-- A number, a truth value or a text as a float. -/
def toFloat (v : Value) : Except BuiltinError Value :=
  match v with
  | .bool b => .ok (.float (Number.ofWhole (if b then 1 else 0)))
  | .str s => do
    match ← readNumber s with
    | .int n => .ok (.float (Number.ofWhole n))
    | x => .ok x
  | .int n => .ok (.float (Number.ofWhole n))
  | .float x => .ok (.float x)
  | v => .error (noNumber v)

/-- Conversion to an integer. -/
def int (args : List Value) : Except BuiltinError Value := do
  Args.arity args 1
  toInt (← Args.get args 0)

/-- Conversion to a float. -/
def float (args : List Value) : Except BuiltinError Value := do
  Args.arity args 1
  toFloat (← Args.get args 0)

/-! ### Lists and maps -/

/-- The name of the kind of a value. -/
def typeOf (args : List Value) : Except BuiltinError Value := do
  Args.arity args 1
  return .str (← Args.get args 0).kind.name

/-- A list with one more element. -/
def push (args : List Value) : Except BuiltinError Value := do
  Args.arity args 2
  let items ← Args.list args 0
  return .list (items.push (← Args.get args 1))

/-- The keys of a map, in order. -/
def keys (args : List Value) : Except BuiltinError Value := do
  Args.arity args 1
  match ← Args.get args 0 with
  | .map entries => .ok (.list ((Entries.keys entries).map .str).toArray)
  | v => .error (.wrongArgument 0 "a map" v)

/-- Whether a list has an equal element, a map a key, or a string a part. -/
def contains (args : List Value) : Except BuiltinError Value := do
  Args.arity args 2
  let sought ← Args.get args 1
  match ← Args.get args 0 with
  | .list items => .ok (.bool (items.any fun item => item.looseEq sought))
  | .map entries =>
    match sought with
    | .str key => .ok (.bool (Entries.contains key entries))
    | v => .error (.wrongArgument 1 "a string key" v)
  | .str s =>
    match sought with
    | .str part => .ok (.bool (s.contains part))
    | v => .error (.wrongArgument 1 "a string" v)
  | v => .error (.wrongArgument 0 "a list, map or string" v)

/-- The greatest length of a range. -/
def longestRange : Whole := 1000000

/-- The integers from `next` up to, and without, `stop`, counted up one after the other and put
behind those that are there. -/
def countUp (next stop : Whole) (counted : Array Value) : Array Value :=
  if next < stop then countUp (next + 1) stop (counted.push (.int next)) else counted
termination_by (stop.toInt - next.toInt).toNat
decreasing_by
  rename_i h
  rw [Whole.toInt_add_one h]
  have hlt := Int64.lt_iff_toInt_lt.mp h
  omega

/-- The integers from a first one up to, and without, a second one.  The bounds may be so far
apart that their difference is out of range. -/
def between (start stop : Whole) : Except BuiltinError Value :=
  if longestRange < Whole.subNearest stop start then
    .error (.invalid "range of more than 1000000 elements")
  else .ok (.list (countUp start stop #[]))

/-- The integers below a bound, from zero or from a first one. -/
def range (args : List Value) : Except BuiltinError Value := do
  Args.arityRange args 1 (some 2)
  if args.length = 1 then
    between 0 (← Args.int args 0)
  else
    let start ← Args.int args 0
    between start (← Args.int args 1)

/-! ### Numbers -/

/-- The absolute value of a number. -/
def abs (args : List Value) : Except BuiltinError Value := do
  Args.arity args 1
  match ← Args.get args 0 with
  | .int n =>
    match Whole.abs? n with
    | some m => .ok (.int m)
    | none => .error (.invalid "integer overflow")
  | .float x => .ok (.float x.abs)
  | v => .error (.wrongArgument 0 "a number" v)

/-- The best of `best`, of value `x`, and the arguments from an index on: one that is better
than all before it. -/
def bestOf (better : Float → Float → Bool) (best : Value) (x : Float) (index : Nat) :
    List Value → Except BuiltinError Value
  | [] => .ok best
  | v :: rest =>
    match v.number? with
    | none => .error (.wrongArgument index "a number" v)
    | some y =>
      if better y x then bestOf better v y (index + 1) rest
      else bestOf better best x (index + 1) rest

/-- The first of the best numbers among the arguments, compared as floats. -/
def extremum (better : Float → Float → Bool) (args : List Value) :
    Except BuiltinError Value := do
  Args.arityRange args 1 none
  let first ← Args.get args 0
  bestOf better first (← Args.number args 0) 1 args.tail

/-- The least number. -/
def min : List Value → Except BuiltinError Value := extremum Number.lt

/-- The greatest number. -/
def max : List Value → Except BuiltinError Value := extremum fun x y => Number.lt y x

/-- The table of standard built-ins. -/
def builtins : Builtins :=
  [("print", print), ("len", .ofFunction len), ("str", .ofFunction str),
   ("int", .ofFunction int), ("float", .ofFunction float), ("type_of", .ofFunction typeOf),
   ("push", .ofFunction push), ("keys", .ofFunction keys),
   ("contains", .ofFunction contains), ("range", .ofFunction range),
   ("abs", .ofFunction abs), ("min", .ofFunction min), ("max", .ofFunction max)]

end StoryScript.Standard
