import StoryScript.Builtin.Basic

/-!
# Built-ins that look at the scene

Built-ins with which a script looks at its own context and changes it, fails on purpose,
schedules calls and asks about runs.
-/

namespace StoryScript.Hosted

/-- An action that has no value of its own. -/
def quietly (a : Action Scene BuiltinError Unit) : Action Scene BuiltinError Value := do
  a
  return .null

/-- A name, and a value for it. -/
def nameAndValue (args : List Value) : Except BuiltinError (String × Value) := do
  Args.arity args 2
  return (← Args.string args 0, ← Args.get args 1)

/-- One string. -/
def oneString (args : List Value) : Except BuiltinError String := do
  Args.arity args 1
  Args.string args 0

/-! ### The context -/

/-- The name of the script. -/
def whoami : Builtin := fun _ => Action.gets fun s => .str s.context.script

/-- Bind a global variable. -/
def setGlobal : Builtin := fun args => do
  let (name, v) ← Action.ofExcept (nameAndValue args)
  quietly (Action.modify fun s => s.defineGlobal name v)

/-- Bind a variable in the innermost scope. -/
def defineHere : Builtin := fun args => do
  let (name, v) ← Action.ofExcept (nameAndValue args)
  quietly (Action.modify fun s => s.define name v)

/-- Give a variable a new value. -/
def assignHere : Builtin := fun args => do
  let (name, v) ← Action.ofExcept (nameAndValue args)
  let found ← Action.gets fun s => s.has name
  Action.modify fun s => (s.assign name v).1
  if found then return .null
  else Action.fail (.invalid (Cause.undefinedVariable name).message)

/-- The value of a variable, null if there is none. -/
def lookupHere : Builtin := fun args => do
  let name ← Action.ofExcept (oneString args)
  Action.gets fun s => (s.get? name).getD .null

/-- The number of scopes. -/
def scopeDepth : Builtin := fun _ => Action.gets fun s => .int (Whole.clamp s.depth)

/-- Enter a scope and stay in it. -/
def scopePush : Builtin := fun _ => quietly (Action.modify Scene.pushScope)

/-- Leave a scope. -/
def scopePop : Builtin := fun _ => quietly (Action.modify Scene.popScope)

/-- The text of an active call. -/
def frameText (f : Frame) : String :=
  match f.span with
  | some span => f.name ++ "@" ++ span.text
  | none => f.name

/-- The active calls, the outermost one first. -/
def frames : Builtin := fun _ =>
  Action.gets fun s =>
    .list (s.context.calls.outermostFirst.map fun f => .str (frameText f)).toArray

/-- Fail as the host would. -/
def failHost : Builtin := fun args => do
  let message ← Action.ofExcept (oneString args)
  Action.fail (.host message)

/-- Fail over the arguments. -/
def failInvalid : Builtin := fun args => do
  let message ← Action.ofExcept (oneString args)
  Action.fail (.invalid message)

/-- The built-ins on the context. -/
def contextBuiltins : Builtins :=
  [("whoami", whoami), ("set_global", setGlobal), ("define_here", defineHere),
   ("assign_here", assignHere), ("lookup_here", lookupHere), ("scope_depth", scopeDepth),
   ("scope_push", scopePush), ("scope_pop", scopePop), ("frames", frames),
   ("fail_host", failHost), ("fail_invalid", failInvalid)]

/-! ### Timers -/

/-- A delay, a function and its arguments. -/
def delayedCall (args : List Value) : Except BuiltinError (Nat × DeferredCall) := do
  Args.arityRange args 2 none
  let delay ← Args.int args 0
  if delay.toInt < 0 then
    .error (.invalid "delay must not be negative")
  else
    let target ← Args.get args 1
    match Callback.ofValue? target with
    | some callback => .ok (delay.toInt.toNat, ⟨callback, args.drop 2⟩)
    | none => .error (.wrongArgument 1 "a function" target)

/-- Schedule a call; the value is the number of the timer. -/
def after : Builtin := fun args => do
  let (delay, call) ← Action.ofExcept (delayedCall args)
  Action.modify fun s =>
    { s with host.timers := s.host.timers.schedule delay s.context.script call }
  let id ← Action.gets fun s => s.host.timers.issued
  match Whole.ofInt? id with
  | some n => return .int n
  | none => Action.fail (.invalid "timer ids exhausted")

/-- One integer. -/
def oneInt (args : List Value) : Except BuiltinError Whole := do
  Args.arity args 1
  Args.int args 0

/-- Cancel a timer; the value tells whether it was still waiting. -/
def cancelTimer : Builtin := fun args => do
  let id ← Action.ofExcept (oneInt args)
  if id.toInt < 0 then
    return .bool false
  else
    let cancelled ← Action.gets fun s => s.host.timers.cancels id.toInt.toNat
    Action.modify fun s => { s with host.timers := s.host.timers.cancel id.toInt.toNat }
    return .bool cancelled

/-- The built-ins on timers. -/
def timerBuiltins : Builtins := [("after", after), ("cancel_timer", cancelTimer)]

/-! ### Runs -/

/-- Ask a script to stop; the value tells whether it was running. -/
def stopScript (script : ScriptId) : Action Scene BuiltinError Value := do
  let running ← Action.gets fun s => s.host.runs.isRunning script
  Action.modify fun s => { s with host.runs := s.host.runs.stop script }
  return .bool running

/-- Ask the script itself to stop. -/
def stopMe : Builtin := fun _ => do
  stopScript (← Action.gets fun s => s.context.script)

/-- Ask a script to stop. -/
def stop : Builtin := fun args => do
  stopScript (← Action.ofExcept (oneString args))

/-- Whether a script is running. -/
def isRunning : Builtin := fun args => do
  let script ← Action.ofExcept (oneString args)
  Action.gets fun s => .bool (s.host.runs.isRunning script)

/-- The names of the running scripts. -/
def running : Builtin := fun _ =>
  Action.gets fun s => .list (s.host.runs.scripts.map .str).toArray

/-- The built-ins on runs. -/
def runBuiltins : Builtins :=
  [("stop_me", stopMe), ("stop", stop), ("is_running", isRunning), ("running", running)]

end StoryScript.Hosted
