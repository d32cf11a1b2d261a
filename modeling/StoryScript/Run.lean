import StoryScript.Eval.Evaluator

/-!
# Guarded runs

Whatever the host starts on a context, a program, an event handler or a deferred call, passes
one gate.  A script without a name is refused, and so is one that is running already; a
refused run changes nothing.  A run that passes is listed under the name of its script until
it ends, however it ends, with a number and a budget of its own.
-/

namespace StoryScript

/-- The state in which an evaluation starts: nothing is used, and the limit on nested calls
holds for the call stack of the context. -/
def State.start (scene : Scene) (limits : Limits) (run : Option RunId) : State :=
  ⟨{ scene with context.calls.limit := limits.callDepth }, Budget.fresh run⟩

namespace Scene

/-- The scene with its script listed as running; the number of the run is the next one. -/
def startRun (s : Scene) : Scene :=
  { s with host.runs := s.host.runs.start s.context.script }

/-- The scene after the run of a script. -/
def endRun (s : Scene) (script : ScriptId) : Scene :=
  { s with host.runs := s.host.runs.finish script }

/-- The state in which a guarded run starts. -/
def runState (s : Scene) (limits : Limits) : State :=
  State.start s.startRun limits (some s.host.runs.next)

end Scene

/-- The outcome of a run, with the script no longer listed. -/
def Outcome.endRun {α : Type} (script : ScriptId) :
    Outcome State Error α → Outcome Scene Error α
  | .done value t => .done value (t.scene.endRun script)
  | .failed e t => .failed e (t.scene.endRun script)
  | .outOfFuel => .outOfFuel

/-- A guarded run of an evaluation. -/
def guarded {α : Type} (S : Setting) (a : Eval α) : Action Scene Error α := fun scene =>
  match scene.host.runs.mayStart scene.context.script with
  | .error cause => .failed (Error.ofCause cause) scene
  | .ok () =>
    let script := scene.context.script
    (a (scene.runState S.limits)).endRun script

/-- The run of a program. -/
def execute (S : Setting) (fuel : Nat) (p : Program) : Action Scene Error Value :=
  guarded S (evalProgram S fuel p)

/-- The run of an event handler. -/
def fire (S : Setting) (fuel : Nat) (h : Handler) (args : List Value) :
    Action Scene Error Value :=
  guarded S (runHandler S fuel h args)

/-- The run of a deferred call. -/
def runDeferred (S : Setting) (fuel : Nat) (call : DeferredCall) : Action Scene Error Value :=
  guarded S (invoke S fuel call [])

/-! ### The gate -/

/-- A run that is refused does nothing, and its error has the cause of the refusal. -/
theorem guarded_refused {α : Type} (S : Setting) (a : Eval α) (scene : Scene) (cause : Cause)
    (h : scene.host.runs.mayStart scene.context.script = .error cause) :
  guarded S a scene = .failed (Error.ofCause cause) scene
  := by
  simp [guarded, h]

/-- A run that may start is evaluated in the state made for it, and is ended in any case. -/
theorem guarded_passed {α : Type} (S : Setting) (a : Eval α) (scene : Scene)
    (h : scene.host.runs.mayStart scene.context.script = .ok ()) :
  guarded S a scene = (a (scene.runState S.limits)).endRun scene.context.script
  := by
  simp [guarded, h]

end StoryScript
