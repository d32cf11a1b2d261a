import StoryScript.CallStack
import StoryScript.Scope.Environment

/-!
# Contexts

The context of a script is what outlives its runs: its name, its stack of scopes and its
call stack.
-/

namespace StoryScript

/-- The name of a script. -/
abbrev ScriptId := String

/-- The outline of a script's name. -/
def scriptOutline (id : ScriptId) : String := Text.applied "ScriptId" (Text.quote id)

/-- The context of a script. -/
structure Context where
  /-- The script. -/
  script : ScriptId
  /-- Its scopes. -/
  env : Environment
  /-- Its active calls. -/
  calls : CallStack

namespace Context

/-- The context of a script on a new global scope, which is to be allocated next. -/
def fresh (script : ScriptId) (h : Heap) : Context :=
  ⟨script, Environment.fresh h, CallStack.empty none⟩

/-- The outline of a context. -/
def outline (c : Context) : String :=
  Text.record "ExecutionContext" [("script_id", scriptOutline c.script),
    ("env", c.env.outline), ("call_stack", c.calls.outline)]

end Context

end StoryScript
