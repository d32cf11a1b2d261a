import StoryScript.Error
import StoryScript.Value.Text

/-!
# Callbacks

A callback is a function that the host keeps for later: a function of its own, a built-in by
name, or a function of a script.  With its arguments it is a deferred call.
-/

namespace StoryScript

/-- A function kept for later. -/
inductive Callback where
  /-- A function of the host, which sees nothing but its arguments. -/
  | native (name : String) (run : List Value → Except BuiltinError Value)
  /-- A built-in, looked up when it is called. -/
  | builtin (name : String)
  /-- A function of a script. -/
  | closure (f : Closure)

namespace Callback

/-- The callback that a value names: a function, or a string with the name of a built-in. -/
def ofValue? : Value → Option Callback
  | .builtin name | .str name => some (builtin name)
  | .closure f => some (closure f)
  | _ => none

/-- The name of the function. -/
def name : Callback → String
  | native name _ | builtin name => name
  | closure f => f.name

/-- The outline of a callback. -/
def outline : Callback → String
  | native name _ => Text.applied "Native" name
  | builtin name => Text.applied "Builtin" name
  | closure f => Text.applied "Closure" (Value.functionText f.name)

end Callback

/-- A callback with its arguments. -/
structure DeferredCall where
  /-- The function. -/
  callback : Callback
  /-- The arguments. -/
  args : List Value

/-- The outline of a deferred call. -/
def DeferredCall.outline (c : DeferredCall) : String :=
  Text.record "DeferredCall" [("callback", c.callback.outline),
    ("args", Text.bracketed (Value.outlines c.args))]

end StoryScript
