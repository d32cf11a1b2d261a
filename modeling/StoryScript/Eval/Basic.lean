import StoryScript.Builtin.Basic
import StoryScript.Value.Operators

/-!
# The machine of a run

A run evaluates trees in a scene, under limits and with a table of built-ins.  The parts of
its machinery that do not depend on the trees are here: the budget, variables, scopes, calls
and loops.
-/

namespace StoryScript

/-- What is fixed during a run. -/
structure Setting where
  /-- The built-ins. -/
  builtins : Builtins
  /-- What happens to declarations. -/
  sink : Sink
  /-- The limits. -/
  limits : Limits
  /-- The time since the start of the run at its `n`-th check, in microseconds. -/
  clock : Nat → Nat

/-- What a run has used. -/
structure Budget where
  /-- The loop rounds begun. -/
  iterations : Nat
  /-- The checks made. -/
  checks : Nat
  /-- The greatest number of calls that were active at once. -/
  deepest : Nat
  /-- The number under which the run can be asked to stop. -/
  run : Option RunId
  deriving DecidableEq, Repr

namespace Budget

/-- The budget at the start of a run. -/
def fresh (run : Option RunId) : Budget := ⟨0, 0, 0, run⟩

/-- The budget after one more check. -/
def checked (b : Budget) : Budget := { b with checks := b.checks + 1 }

/-- The budget after one more loop round. -/
def counted (b : Budget) : Budget :=
  { b with iterations := min (b.iterations + 1) greatestCount }

/-- The budget after so many calls were active. -/
def nested (b : Budget) (depth : Nat) : Budget := { b with deepest := max b.deepest depth }

/-- Whether the run is asked to stop. -/
def isStopped (b : Budget) (runs : Runs) : Bool := b.run.any runs.isStopped

/-- Why the run has to stop now, if it has to: a request goes before the deadline. -/
def callVerdict (b : Budget) (limits : Limits) (clock : Nat → Nat) (runs : Runs) :
    Option Interruption :=
  if b.isStopped runs then some .stopRequested
  else
    match limits.deadline with
    | some ms => if ms * 1000 < clock b.checks then some (.deadline ms) else none
    | none => none

/-- Why the run has to stop at the start of a loop round, if it has to: the number of rounds
goes before everything else. -/
def roundVerdict (b : Budget) (limits : Limits) (clock : Nat → Nat) (runs : Runs) :
    Option Interruption :=
  match limits.iterations with
  | some limit =>
    if limit < b.iterations then some (.iterations limit)
    else b.callVerdict limits clock runs
  | none => b.callVerdict limits clock runs

end Budget

/-- The state of a run. -/
structure State where
  /-- The scene. -/
  scene : Scene
  /-- What the run has used. -/
  budget : Budget

/-- An evaluation. -/
abbrev Eval (α : Type) := Action State Error α

/-- How statements end. -/
inductive Flow where
  /-- The next statement follows; the value is that of the last expression statement. -/
  | normal (v : Value)
  /-- The enclosing call ends with a value. -/
  | returned (v : Value)

namespace Flow

/-- The flow of a statement that has no value. -/
def quiet : Flow := normal .null

/-- Whether the enclosing call ends. -/
def isReturn : Flow → Bool
  | normal _ => false
  | returned _ => true

/-- The value, either way. -/
def value : Flow → Value
  | normal v | returned v => v

/-- The value of a call with this flow: null unless it returned one. -/
def callResult : Flow → Value
  | normal _ => .null
  | returned v => v

/-- The flow without the value of the last statement. -/
def settle : Flow → Flow
  | normal _ => quiet
  | returned v => returned v

end Flow

namespace Eval

variable {α : Type}

/-- Fail with a cause. -/
def throw (cause : Cause) : Eval α := Action.fail (Error.ofCause cause)

/-- The value of a computation that may fail with a cause. -/
def ofExcept : Except Cause α → Eval α
  | .ok a => pure a
  | .error cause => throw cause

/-- An action on the scene as an evaluation. -/
def onScene (a : Action Scene Error α) : Eval α := fun
  | ⟨scene, budget⟩ =>
    match a scene with
    | .done value t => .done value ⟨t, budget⟩
    | .failed e t => .failed e ⟨t, budget⟩
    | .outOfFuel => .outOfFuel

/-- A change of the scene. -/
def change (f : Scene → Scene) : Eval Unit := Action.modify fun
  | ⟨scene, budget⟩ => ⟨f scene, budget⟩

/-- Errors of the evaluation get the place, unless they have one. -/
def located (span : Span) (a : Eval α) : Eval α := a.mapError fun _ e => e.orSpan span

/-! ### The budget -/

/-- Stop for a reason, or go on. -/
def obey : Option Interruption → Eval Unit
  | some why => throw (.interrupted why)
  | none => pure ()

/-- The check before every call. -/
def checkCall (S : Setting) : Eval Unit := do
  let s ← Action.state
  Action.modify fun s => { s with budget := s.budget.checked }
  obey (s.budget.callVerdict S.limits S.clock s.scene.host.runs)

/-- The check before every loop round. -/
def tick (S : Setting) : Eval Unit := do
  Action.modify fun s => { s with budget := s.budget.counted }
  let s ← Action.state
  Action.modify fun s => { s with budget := s.budget.checked }
  obey (s.budget.roundVerdict S.limits S.clock s.scene.host.runs)

/-! ### Variables and scopes -/

/-- Bind a variable in the innermost scope. -/
def define (name : String) (v : Value) : Eval Unit := change fun s => s.define name v

/-- Give a variable a new value. -/
def assign (name : String) (v : Value) : Eval Unit := fun
  | ⟨scene, budget⟩ =>
    match scene.assign name v with
    | (t, true) => .done () ⟨t, budget⟩
    | (t, false) => .failed (Error.ofCause (.undefinedVariable name)) ⟨t, budget⟩

/-- The value of a name: that of the variable, else the built-in with this name. -/
def resolve (S : Setting) (name : String) : Eval Value := do
  match ← Action.gets fun s => s.scene.get? name with
  | some v => pure v
  | none =>
    if Entries.contains name S.builtins then pure (.builtin name)
    else throw (.undefinedVariable name)

/-- An evaluation in a scope of its own. -/
def inScope (a : Eval α) : Eval α := do
  change Scene.pushScope
  a.ensuring fun s => { s with scene := s.scene.popScope }

/-- An evaluation in a scope of its own that starts with some variables. -/
def inScopeWith (pairs : List (String × Value)) (a : Eval α) : Eval α :=
  inScope do
    change fun s => s.defineAll pairs
    a

/-! ### Calls -/

/-- Make a call stack with one more call the current one. -/
def enterFrame (calls : CallStack) : Eval Unit := Action.modify fun
  | ⟨scene, budget⟩ => ⟨{ scene with context.calls := calls }, budget.nested calls.depth⟩

/-- An evaluation under a frame of its own.  The frame is refused when the budget is used up
or there are too many; an error that leaves it takes the active calls along. -/
def inFrame (S : Setting) (frame : Frame) (a : Eval α) : Eval α := do
  checkCall S
  match (← Action.gets fun s => s.scene.context.calls).push frame with
  | .error cause => throw cause
  | .ok calls =>
    enterFrame calls
    (a.mapError fun s e => s.scene.context.calls.attach e).ensuring fun s =>
      { s with scene.context.calls := s.scene.context.calls.pop }

/-- Make an environment the current one; the value is the one before. -/
def swapEnv (env : Environment) : Eval Environment := fun
  | ⟨⟨⟨script, before, calls⟩, host⟩, budget⟩ =>
    .done before ⟨⟨⟨script, env, calls⟩, host⟩, budget⟩

/-- An evaluation in the environment of a call of a closure: a new scope on top of the scope
that the closure was declared in.  Afterwards the environment is that of the caller. -/
def inClosure (f : Closure) (a : Eval α) : Eval α := do
  let caller ← swapEnv (Environment.onScope f.scope f.global)
  change Scene.pushScope
  a.ensuring fun s => { s with scene.context.env := caller }

/-- The parameters with the arguments: missing ones are null, and further ones are left
out. -/
def bindParams : List String → List Value → List (String × Value)
  | [], _ => []
  | p :: ps, [] => (p, .null) :: bindParams ps []
  | p :: ps, v :: vs => (p, v) :: bindParams ps vs

/-- The parameters next to the arguments, after which there are nulls for all parameters. -/
def zipParams (params : List String) (args : List Value) : List (String × Value) :=
  params.zip (args ++ List.replicate params.length .null)

theorem zip_replicate_null (params : List String) (args : List Value) {k : Nat}
    (hk : params.length ≤ k) :
  params.zip (args ++ List.replicate k .null) = bindParams params args
  := by
  induction params generalizing args k with
  | nil => rfl
  | cons p ps ih =>
    obtain ⟨k, rfl⟩ := Nat.exists_eq_add_one_of_ne_zero (Nat.ne_zero_of_lt hk)
    have hrest : ps.length ≤ k := Nat.le_of_succ_le_succ hk
    cases args with
    | nil =>
      rw [List.replicate_succ, List.nil_append, List.zip_cons_cons, bindParams, ← ih [] hrest,
        List.nil_append]
    | cons v vs =>
      rw [List.cons_append, List.zip_cons_cons, bindParams, ih vs (Nat.le_succ_of_le hrest)]

/-- The nulls after the arguments stand in for those that are missing. -/
theorem zipParams_eq (params : List String) (args : List Value) :
  zipParams params args = bindParams params args
  := by
  apply zip_replicate_null params args (Nat.le_refl _)

/-- The call of a built-in. -/
def callBuiltin (S : Setting) (name : String) (args : List Value) (span : Option Span) :
    Eval Value :=
  inFrame S ⟨name, span⟩ (onScene (S.builtins.dispatch name args))

/-! ### Sequences and loops -/

/-- Statements one after the other, up to one that returns. -/
def sequence (exec : Stmt → Eval Flow) (last : Value) : List Stmt → Eval Flow
  | [] => pure (.normal last)
  | s :: rest => do
    match ← exec s with
    | .normal v => sequence exec v rest
    | .returned v => pure (.returned v)

/-- Rounds of a body while a condition holds, with an update after each.  Every round is
checked against the budget, and takes one of the fuel. -/
def rounds (S : Setting) (condition : Eval Bool) (body : Eval Flow) (update : Eval Unit) :
    (fuel : Nat) → Eval Flow
  | 0 => Action.exhausted
  | fuel + 1 => do
    if ← condition then
      tick S
      match ← body with
      | .returned v => pure (.returned v)
      | .normal _ =>
        update
        rounds S condition body update fuel
    else
      pure .quiet

/-- A round of a body for each item. -/
def forEach (S : Setting) (body : Value → Eval Flow) : List Value → Eval Flow
  | [] => pure .quiet
  | v :: rest => do
    tick S
    match ← body v with
    | .returned w => pure (.returned w)
    | .normal _ => forEach S body rest

end Eval

end StoryScript
