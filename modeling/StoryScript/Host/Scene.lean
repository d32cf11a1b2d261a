import StoryScript.Action
import StoryScript.Host.Console
import StoryScript.Host.Declarations
import StoryScript.Host.Runs
import StoryScript.Host.Timers

/-!
# Scenes

The host holds what all scripts share.  A scene is the host together with the context of one
script: all that a built-in sees and may change.
-/

namespace StoryScript

/-- What all scripts share. -/
structure Host where
  /-- The scopes of all scripts. -/
  heap : Heap
  /-- Where printed lines go. -/
  console : Console
  /-- What scripts handed off. -/
  log : DeclarationLog
  /-- The calls that wait for their time. -/
  timers : TimerQueue
  /-- The scripts that are running. -/
  runs : Runs

namespace Host

/-- The host before anything happened. -/
def initial (mode : ConsoleMode) : Host :=
  ⟨.empty, .empty mode, .empty, .empty, .empty⟩

instance : Inhabited Host := ⟨initial .buffer⟩

end Host

/-- The host and the context of one script. -/
structure Scene where
  /-- The context of the script. -/
  context : Context
  /-- The host. -/
  host : Host

namespace Scene

/-- The scene of a new context, on a global scope of its own. -/
def enter (host : Host) (script : ScriptId) : Scene where
  context := Context.fresh script host.heap
  host := { host with heap := host.heap.alloc none }

/-- The number of scopes. -/
def depth (s : Scene) : Nat := s.context.env.depth

/-- The value of a variable. -/
def get? (s : Scene) (name : String) : Option Value :=
  s.host.heap.lookup s.context.env.current name

/-- Whether a variable is bound. -/
def has (s : Scene) (name : String) : Bool :=
  s.host.heap.contains s.context.env.current name

/-- The scene with a variable bound in the innermost scope. -/
def define (s : Scene) (name : String) (v : Value) : Scene :=
  { s with host.heap := s.host.heap.define s.context.env.current name v }

/-- The scene with a variable bound in the global scope. -/
def defineGlobal (s : Scene) (name : String) (v : Value) : Scene :=
  { s with host.heap := s.host.heap.define s.context.env.global name v }

/-- The scene with variables bound in the global scope, one after the other. -/
def defineGlobals (s : Scene) (pairs : List (String × Value)) : Scene :=
  pairs.foldl (fun acc p => acc.defineGlobal p.1 p.2) s

/-- The scene with variables bound in the innermost scope, one after the other. -/
def defineAll (s : Scene) (pairs : List (String × Value)) : Scene :=
  pairs.foldl (fun acc p => acc.define p.1 p.2) s

/-- The scene with a new value for the nearest binding of a variable, and whether there is
one. -/
def assign (s : Scene) (name : String) (v : Value) : Scene × Bool :=
  let (heap, found) := s.host.heap.assign s.context.env.current name v
  ({ s with host.heap := heap }, found)

/-- The scene with one more scope. -/
def pushScope (s : Scene) : Scene :=
  { s with
    context.env := s.context.env.push s.host.heap.next
    host.heap := s.host.heap.alloc (some s.context.env.current) }

/-- The scene without its innermost scope, unless that is the base. -/
def popScope (s : Scene) : Scene := { s with context.env := s.context.env.pop }

/-- The scene with a line printed. -/
def print (s : Scene) (line : String) : Scene :=
  { s with host.console := s.host.console.print line }

end Scene

end StoryScript
