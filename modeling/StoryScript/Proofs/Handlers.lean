import StoryScript.Proofs.Keeping
import StoryScript.Proofs.Stacks

/-!
# Handlers as functions

An event handler runs in a new scope on top of the current environment, a function in an
environment of its own.  If only the global scope is active, and the built-ins leave the stacks
as they found them, no difference is left.  Main statement: the run of a handler and the call of
a function with the same parameters and body, declared in the global scope and named after the
event, have the same outcome.
-/

namespace StoryScript

open Eval

variable {S : Setting} {α β : Type}

/-- The function that does as a handler: it is declared in the global scope, and its name is that
of the frame of the handler. -/
def Handler.closure (h : Handler) (id : DeclId) (span : Span) (global : ScopeId) : Closure where
  decl := ⟨id, "on " ++ h.event, h.params, h.body, span⟩
  scope := global
  global := global

theorem Outcome.treated_congr {σ ε δ : Type} {o : Outcome σ ε α} (learn : σ → ε → δ)
    {cleanup cleanup' : σ → σ} (h : ∀ t, o.state? = some t → cleanup t = cleanup' t) :
  o.treated learn cleanup = o.treated learn cleanup'
  := by
  cases o with
  | done v t => rw [treated, treated, h t rfl]
  | failed e t => rw [treated, treated, h t rfl]
  | outOfFuel => rfl

namespace State

variable {s t : State}

/-- On the current scope a closure has the same environment as a block. -/
theorem inside_eq_pushed {f : Closure} (hs : s.env = .onScope f.scope f.global) :
  s.inside f = s.pushed
  := by
  rw [inside, ← hs]
  rfl

/-- After an evaluation that keeps the stack of scopes, to leave the innermost scope is to go back
to the environment from before. -/
theorem SameStacks.popped_eq (h : s.pushed.SameStacks t) :
  t.popped = t.within s.env
  := by
  obtain ⟨henv, -⟩ := h
  rw [popped, within, Scene.popScope, henv]
  rfl

end State

namespace Eval

theorem inScope_eq_inClosure {a : Eval α} (ha : a.Keeps State.SameStacks) {f : Closure} {s : State}
    (hs : s.env = .onScope f.scope f.global) :
  inScope a s = inClosure f a s
  := by
  rw [inScope_apply, inClosure_apply, State.inside_eq_pushed hs]
  apply Outcome.treated_congr
  intro t ht
  apply (ha s.pushed t ht).popped_eq

theorem inScope_bind_pure (a : Eval α) (g : α → β) :
  (inScope a >>= fun v => pure (g v)) = inScope (a >>= fun v => pure (g v))
  := by
  funext s
  rw [Action.bind_apply, inScope_apply, inScope_apply, Action.bind_apply]
  cases a s.pushed <;> rfl

theorem inFrame_congr {frame : Frame} {a b : Eval α} {s : State}
    (h : ∀ t, t.env = s.env → a t = b t) :
  inFrame S frame a s = inFrame S frame b s
  := by
  rw [inFrame_apply, inFrame_apply]
  cases s.budget.callVerdict S.limits S.clock s.scene.host.runs with
  | some why => rfl
  | none =>
    cases s.calls.push frame with
    | error cause => rfl
    | ok calls =>
      dsimp only
      rw [h]
      rfl

end Eval

/-- Where only the global scope is active, a handler runs as a function declared there is called:
with the same value or error, and with the same state afterwards.  The call takes one more unit of
fuel, which it spends on itself. -/
theorem handlers_are_calls (hS : S.builtins.Balanced) (n : Nat) (h : Handler) (args : List Value)
    (id : DeclId) (span : Span) {s : State} {global : ScopeId}
    (hs : s.env = .onScope global global) :
  runHandler S n h args s = callClosure S (n + 1) (h.closure id span global) args none s
  := by
  have U := upkeep_sameStacks hS
  rw [runHandler_eq, callClosure]
  apply inFrame_congr
  intro t ht
  rw [execWith, inScopeWith, inScope_bind_pure]
  -- both bodies begin in the same state, so it is left to see that both clean up alike
  apply inScope_eq_inClosure
  · apply U.callBody n (bindParams h.params args) h.body
  · rw [ht, hs]
    rfl

/-- A handler with two parameters of one name, which it returns. -/
def summoned : Handler :=
  ⟨"summoned", ["a", "b", "a"], [.ret .dummy (some (.identifier .dummy "a"))], .dummy⟩

/-- With two arguments the last parameter is null, and it is the one that is read. -/
theorem summoned_with_two_arguments :
  (Standard.setting .unlimited).builtins.Balanced
    ∧ (Standard.start .unlimited).env = .onScope 0 0
    ∧ ∃ t, runHandler (Standard.setting .unlimited) 5 summoned [.int 1, .int 2]
          (Standard.start .unlimited) = .done .null t
        ∧ callClosure (Standard.setting .unlimited) 6 (summoned.closure 7 .dummy 0)
          [.int 1, .int 2] none (Standard.start .unlimited) = .done .null t
  := by
  have hS : (Standard.setting .unlimited).builtins.Balanced := Standard.detached.balanced
  have hstart : (Standard.start .unlimited).env = .onScope 0 0 := rfl
  use hS, hstart
  rw [← handlers_are_calls hS 5 summoned [.int 1, .int 2] 7 .dummy hstart]
  exact ⟨_, rfl, rfl⟩

end StoryScript
