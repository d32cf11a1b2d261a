import StoryScript.Scope.Heap
import StoryScript.Text.Record

/-!
# Environments

An environment is the stack of scopes that a piece of code runs in.  Its base is either the
global scope or the scope that a function was declared in; the base is never taken off, so
there is always an innermost scope.
-/

namespace StoryScript

/-- A stack of scopes. -/
structure Environment where
  /-- The scopes above the base, the innermost one first. -/
  inner : List ScopeId
  /-- The lowest scope. -/
  base : ScopeId
  /-- The global scope. -/
  global : ScopeId
  deriving DecidableEq, Repr

namespace Environment

/-- The environment on a captured scope. -/
def onScope (base global : ScopeId) : Environment := ⟨[], base, global⟩

/-- The environment on a new global scope, which is to be allocated next. -/
def fresh (h : Heap) : Environment := onScope h.next h.next

/-- All scopes, the innermost one first. -/
def scopes (env : Environment) : List ScopeId := env.inner ++ [env.base]

/-- The number of scopes. -/
def depth (env : Environment) : Nat := env.inner.length + 1

/-- The innermost scope. -/
def current (env : Environment) : ScopeId := env.inner.headD env.base

/-- The environment with one more scope. -/
def push (env : Environment) (s : ScopeId) : Environment := { env with inner := s :: env.inner }

/-- The environment without its innermost scope; the base stays. -/
def pop (env : Environment) : Environment := { env with inner := env.inner.tail }

/-- The outline of an environment, which shows no more than its depth. -/
def outline (env : Environment) : String :=
  Text.record "Environment" [("depth", toString env.depth ++ ", ..")]

/-! ### The stack -/

/-- Leaving a scope that was just entered leads back. -/
theorem pop_push (env : Environment) (s : ScopeId) :
  (env.push s).pop = env
  := rfl

/-- There is always a current scope. -/
theorem scopes_ne_nil (env : Environment) :
  env.scopes ≠ []
  := by
  simp [scopes]

end Environment

end StoryScript
