import StoryScript.Host.Scene

/-!
# Built-in functions

A built-in is a function of the host that scripts call by name.  It sees the values of its
arguments and the scene.  The table of built-ins is the only way from a script to its host.
-/

namespace StoryScript

/-- A built-in function. -/
abbrev Builtin := List Value → Action Scene BuiltinError Value

/-- The built-ins by name. -/
abbrev Builtins := Entries Builtin

namespace Builtins

/-- The names of all built-ins, sorted. -/
def names (table : Builtins) : List String :=
  (Entries.keys table).mergeSort fun a b => decide (a ≤ b)

/-- The outline of a table. -/
def outline (table : Builtins) : String :=
  Text.record "BuiltinRegistry" [("names", Text.bracketed (names table |>.map Text.quote))]

/-- The call of a built-in by name. -/
def dispatch (table : Builtins) (name : String) (args : List Value) :
    Action Scene Error Value :=
  match Entries.get? name table with
  | some f => (f args).mapError fun _ e => Error.ofBuiltin name e
  | none => Action.fail (Error.ofCause (.undefinedFunction name))

end Builtins

namespace Builtin

/-- The built-in that ignores its arguments and has a fixed value. -/
def constant (v : Value) : Builtin := fun _ => pure v

/-- The built-in that computes its value from its arguments alone. -/
def ofFunction (f : List Value → Except BuiltinError Value) : Builtin := fun args =>
  Action.ofExcept (f args)

end Builtin

theorem Builtins.dispatch_ofFunction {table : Builtins} {name : String}
    {f : List Value → Except BuiltinError Value}
    (h : Entries.get? name table = some (.ofFunction f)) (args : List Value) (scene : Scene) :
  table.dispatch name args scene = match f args with
    | .ok v => .done v scene
    | .error e => .failed (Error.ofBuiltin name e) scene
  := by
  unfold dispatch
  rw [h]
  show (Action.ofExcept (f args)).mapError (fun _ e => Error.ofBuiltin name e) scene = _
  cases f args <;> rfl

/-! ### Arguments -/

namespace Args

/-- Exactly so many arguments. -/
def arity (args : List Value) (expected : Nat) : Except BuiltinError Unit :=
  if args.length = expected then .ok ()
  else .error (.arity (.exactly expected) args.length)

/-- At least so many arguments, and no more than so many if there is a bound. -/
def arityRange (args : List Value) (least : Nat) (most : Option Nat) :
    Except BuiltinError Unit :=
  if least ≤ args.length && most.all (fun m => args.length ≤ m) then .ok ()
  else
    .error (.arity (match most with
      | some m => .between least m
      | none => .atLeast least) args.length)

/-- The argument at an index. -/
def get (args : List Value) (index : Nat) : Except BuiltinError Value :=
  match args[index]? with
  | some v => .ok v
  | none => .error (.arity (.atLeast (index + 1)) args.length)

/-- The integer at an index. -/
def int (args : List Value) (index : Nat) : Except BuiltinError Whole := do
  match ← get args index with
  | .int n => .ok n
  | v => .error (.wrongArgument index "an int" v)

/-- The number at an index, as a float. -/
def number (args : List Value) (index : Nat) : Except BuiltinError Float := do
  let v ← get args index
  match v.number? with
  | some x => .ok x
  | none => .error (.wrongArgument index "a number" v)

/-- The string at an index. -/
def string (args : List Value) (index : Nat) : Except BuiltinError String := do
  match ← get args index with
  | .str s => .ok s
  | v => .error (.wrongArgument index "a string" v)

/-- The list at an index. -/
def list (args : List Value) (index : Nat) : Except BuiltinError (Array Value) := do
  match ← get args index with
  | .list items => .ok items
  | v => .error (.wrongArgument index "a list" v)

end Args

end StoryScript
