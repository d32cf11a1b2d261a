import StoryScript.Builtin.Hosted
import StoryScript.Builtin.Standard
import StoryScript.Run

/-!
# The rules of a session

What is fixed while the scripts of a session run: the built-ins, the named programs, the
limits, and what happens to declarations.  One built-in starts a named program under another
script, on the same host and under the same rules, so the table of built-ins refers to
itself.  The fuel bounds how deep such runs can be nested.
-/

namespace StoryScript

/-- An entry of the table of a session. -/
inductive TableEntry where
  /-- A built-in that starts no runs. -/
  | plain (f : Builtin)
  /-- The built-in that runs a named program. -/
  | nestedRun

/-- What is fixed for the runs of a session. -/
structure Rules where
  /-- The built-ins by name. -/
  table : Entries TableEntry
  /-- The programs that can be run by name. -/
  programs : Entries Program
  /-- What happens to declarations. -/
  sink : Sink
  /-- The limits of every run. -/
  limits : Limits
  /-- The time since the start of a run at its `n`-th check, in microseconds. -/
  clock : Nat → Nat

/-! ### Nested runs -/

/-- The failure of a run as a value: a map with the kind of the error and its text. -/
def failureValue (e : Error) : Value :=
  .map [("error", .str e.cause.label), ("message", .str e.text)]

/-- An action on a new context of a script, on the same host.  Its failure is a value, and
the context of the caller stays as it is. -/
def elsewhere (script : ScriptId) (a : Action Scene Error Value) :
    Action Scene BuiltinError Value := fun
  | ⟨context, host⟩ =>
    match a (Scene.enter host script) with
    | .done v t => .done v ⟨context, t.host⟩
    | .failed e t => .done (failureValue e) ⟨context, t.host⟩
    | .outOfFuel => .outOfFuel

/-- A script, and a program for it. -/
def scriptAndProgram (programs : Entries Program) (args : List Value) :
    Except BuiltinError (ScriptId × Program) := do
  Args.arity args 2
  let name ← Args.string args 1
  match Entries.get? name programs with
  | some p => return (← Args.string args 0, p)
  | none => .error (.invalid "no such program")

/-- The built-in that runs a named program on a new context. -/
def runNested (programs : Entries Program) (run : Program → Action Scene Error Value) :
    Builtin := fun args => do
  let (script, p) ← Action.ofExcept (scriptAndProgram programs args)
  elsewhere script (run p)

namespace TableEntry

/-- The built-in of an entry, given how programs are run. -/
def builtin (programs : Entries Program) (run : Program → Action Scene Error Value) :
    TableEntry → Builtin
  | plain f => f
  | nestedRun => runNested programs run

end TableEntry

namespace Rules

/-- The table of every session before the host changes it. -/
def standardTable : Entries TableEntry :=
  (Standard.builtins ++ Hosted.contextBuiltins ++ Hosted.timerBuiltins ++ Hosted.runBuiltins).map
      (fun (name, f) => (name, .plain f))
    ++ [("run_nested", .nestedRun)]

/-- The built-ins, given how programs are run. -/
def builtinsWith (R : Rules) (run : Program → Action Scene Error Value) : Builtins :=
  R.table.map fun (name, entry) => (name, entry.builtin R.programs run)

/-- The setting of a run with given built-ins. -/
def settingWith (R : Rules) (builtins : Builtins) : Setting :=
  ⟨builtins, R.sink, R.limits, R.clock⟩

/-- The built-ins with enough fuel for nested runs. -/
def builtins (R : Rules) : (fuel : Nat) → Builtins
  | 0 => R.builtinsWith fun _ => Action.exhausted
  | fuel + 1 =>
    R.builtinsWith fun p scene => execute (R.settingWith (R.builtins fuel)) fuel p scene

/-- The setting of a run. -/
def setting (R : Rules) (fuel : Nat) : Setting := R.settingWith (R.builtins fuel)

/-- The names of the built-ins, sorted. -/
def names (R : Rules) : List String :=
  (Entries.keys R.table).mergeSort fun a b => decide (a ≤ b)

/-- Whether there is a built-in with a name. -/
def hasBuiltin (R : Rules) (name : String) : Bool := Entries.contains name R.table

/-- The rules with a built-in that has a fixed value. -/
def register (R : Rules) (name : String) (v : Value) : Rules :=
  { R with table := R.table.insert name (.plain (.constant v)) }

/-- The rules without a built-in. -/
def unregister (R : Rules) (name : String) : Rules := { R with table := R.table.erase name }

end Rules

end StoryScript
