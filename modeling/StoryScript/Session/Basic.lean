import StoryScript.Session.Rules

/-!
# Sessions

A session is a host with the contexts of its scripts.  The host starts runs on them, one
after the other, and what a run leaves behind in the context of its script is there in the
next one.
-/

namespace StoryScript

/-- A host with the contexts of its scripts. -/
structure Session where
  /-- What is fixed for all runs. -/
  rules : Rules
  /-- What all scripts share. -/
  host : Host
  /-- The contexts by the names of their scripts. -/
  contexts : Entries Context

namespace Session

variable {ε α : Type}

/-- The session before anything happened. -/
def initial (rules : Rules) (mode : ConsoleMode) : Session := ⟨rules, .initial mode, []⟩

/-- The scene of a script; a script that has no context yet gets an empty one. -/
def scene (s : Session) (script : ScriptId) : Scene :=
  match s.contexts.get? script with
  | some context => ⟨context, s.host⟩
  | none => Scene.enter s.host script

/-- The session after the scene of a script changed. -/
def put (s : Session) (script : ScriptId) (t : Scene) : Session :=
  { s with host := t.host, contexts := s.contexts.insert script t.context }

/-- A change of the scene of a script. -/
def change (s : Session) (script : ScriptId) (f : Scene → Scene) : Session :=
  s.put script (f (s.scene script))

/-- The session in which a script has a context. -/
def opened (s : Session) (script : ScriptId) : Session := s.change script id

/-- The session with a new context for a script, in which some globals are bound. -/
def prepared (s : Session) (script : ScriptId) (globals : List (String × Value)) : Session :=
  s.put script ((Scene.enter s.host script).defineGlobals globals)

/-- A change of the host. -/
def onHost (s : Session) (f : Host → Host) : Session := { s with host := f s.host }

/-- An action on the scene of a script. -/
def onScript (script : ScriptId) (a : Action Scene ε α) : Action Session ε α := fun s =>
  match a (s.scene script) with
  | .done value t => .done value (s.put script t)
  | .failed e t => .failed e (s.put script t)
  | .outOfFuel => .outOfFuel

/-! ### What the host does between runs -/

/-- The value of a variable of a script. -/
def get? (s : Session) (script : ScriptId) (name : String) : Option Value :=
  (s.scene script).get? name

/-- The session with a variable of a script bound in its innermost scope. -/
def define (s : Session) (script : ScriptId) (name : String) (v : Value) : Session :=
  s.change script fun scene => scene.define name v

/-- The session with a new value for a variable of a script, and whether there is one. -/
def assign (s : Session) (script : ScriptId) (name : String) (v : Value) : Session × Bool :=
  let (scene, found) := (s.scene script).assign name v
  (s.put script scene, found)

/-- A change of the timers. -/
def onTimers (s : Session) (f : TimerQueue → TimerQueue) : Session :=
  s.onHost fun host => { host with timers := f host.timers }

/-- The session without what a script declared. -/
def clearDeclarations (s : Session) (script : ScriptId) : Session :=
  s.onHost fun host => { host with log := host.log.clear script }

/-- The session with its console cleared. -/
def clearConsole (s : Session) : Session :=
  s.onHost fun host => { host with console := host.console.clear }

/-- The session in which a script is asked to stop, if it is running. -/
def stop (s : Session) (script : ScriptId) : Session :=
  s.onHost fun host => { host with runs := host.runs.stop script }

/-- The session with a built-in that has a fixed value. -/
def register (s : Session) (name : String) (v : Value) : Session :=
  { s with rules := s.rules.register name v }

/-- The session without a built-in. -/
def unregister (s : Session) (name : String) : Session :=
  { s with rules := s.rules.unregister name }

/-! ### Runs -/

/-- The run of a program on the context of a script. -/
def runProgram (fuel : Nat) (script : ScriptId) (p : Program) : Action Session Error Value :=
  fun s => onScript script (execute (s.rules.setting fuel) fuel p) s

/-- The run of a deferred call on the context of a script. -/
def runCall (fuel : Nat) (script : ScriptId) (call : DeferredCall) :
    Action Session Error Value :=
  fun s => onScript script (runDeferred (s.rules.setting fuel) fuel call) s

/-- The run of a handler on the context of a script. -/
def runHandler (fuel : Nat) (script : ScriptId) (args : List Value) (h : Handler) :
    Action Session Error Value :=
  fun s => onScript script (fire (s.rules.setting fuel) fuel h args) s

/-- The runs of all handlers that a script declared for an event, in order, on the context of
a script.  Handlers that are declared meanwhile wait for the next event. -/
def fireAll (fuel : Nat) (script declaredBy : ScriptId) (event : String) (args : List Value) :
    Action Session Error (List (Except Error Value)) := do
  let handlers ← Action.gets fun s => s.host.log.handlersFor declaredBy event
  Action.each (fun h => (runHandler fuel script args h).attempt) handlers

/-- The runs of all calls that are due once the clock is moved on, in order, each on the
context of the script that scheduled it.  Calls that are scheduled meanwhile wait for the
next move. -/
def advance (fuel : Nat) (now : Nat) :
    Action Session Error (List ((TimerId × Timer) × Except Error Value)) := do
  let due ← Action.gets fun s => (s.host.timers.takeDue now).1
  Action.modify fun s => s.onTimers fun q => (q.takeDue now).2
  Action.each (fun (id, t) => do
    return ((id, t), ← (runCall fuel t.script t.call).attempt)) due

end Session

end StoryScript
