import StoryScript.Builtin.Hosted
import StoryScript.Proofs.Detached
import StoryScript.Proofs.Upkeep

/-!
# Stack discipline

An evaluation leaves the stack of scopes and the active calls as it found them, however it
ends: normally, with a `return`, or with an error in the middle of a loop, a block or a call.
All it needs is that the built-ins do so, as the standard ones and those on timers do.
-/

namespace StoryScript

open Eval

/-- The stack of scopes and the active calls are the same. -/
def Scene.SameStacks (s t : Scene) : Prop :=
  t.context.env = s.context.env ∧ t.context.calls.frames = s.context.calls.frames

/-- The stack of scopes and the active calls are the same. -/
def State.SameStacks (s t : State) : Prop := s.scene.SameStacks t.scene

/-- All built-ins leave the stack of scopes and the active calls as they found them. -/
def Builtins.Balanced (table : Builtins) : Prop :=
  ∀ entry ∈ table, ∀ args, (entry.2 args).Keeps Scene.SameStacks

namespace Scene.SameStacks

theorem refl (s : Scene) :
  s.SameStacks s
  := by
  exact ⟨rfl, rfl⟩

theorem trans {s t u : Scene} (h : s.SameStacks t) (h' : t.SameStacks u) :
  s.SameStacks u
  := by
  obtain ⟨henv, hframes⟩ := h
  obtain ⟨henv', hframes'⟩ := h'
  exact ⟨henv'.trans henv, hframes'.trans hframes⟩

/-- The same context has the same stacks. -/
theorem of_context {s t : Scene} (h : t.context = s.context) :
  s.SameStacks t
  := by
  rw [SameStacks, h]
  exact ⟨rfl, rfl⟩

end Scene.SameStacks

/-! ### Balanced built-ins -/

/-- Detached built-ins are balanced, as they leave the whole context alone. -/
theorem Builtins.Detached.balanced {table : Builtins} (h : table.Detached) :
  table.Balanced
  := by
  intro entry hentry args s t ht
  obtain ⟨x, lines, hanswer, -⟩ := h entry hentry args
  rw [hanswer] at ht
  cases x <;> cases ht <;> exact .of_context rfl

namespace Hosted

/-- Scheduling a call leaves the stacks alone. -/
theorem keeps_after (args : List Value) :
  (after args).Keeps Scene.SameStacks
  := by
  refine (Action.keeps_ofExcept Scene.SameStacks.refl _).bind .trans ?_
  rintro ⟨delay, call⟩
  refine (Action.keeps_modify fun s => ?_).bind .trans ?_
  · exact .of_context rfl
  · intro _
    refine (Action.keeps_gets Scene.SameStacks.refl _).bind .trans ?_
    intro id
    split
    · exact Action.keeps_pure Scene.SameStacks.refl _
    · exact Action.keeps_ofExcept Scene.SameStacks.refl (.error _)

/-- Cancelling a timer leaves the stacks alone. -/
theorem keeps_cancelTimer (args : List Value) :
  (cancelTimer args).Keeps Scene.SameStacks
  := by
  refine (Action.keeps_ofExcept Scene.SameStacks.refl _).bind .trans ?_
  intro id
  dsimp only
  split
  · exact Action.keeps_pure Scene.SameStacks.refl _
  · intro s t ht
    cases ht
    exact .of_context rfl

/-- The standard built-ins and those on timers are balanced. -/
theorem balanced_standard_and_timers :
  Builtins.Balanced (Standard.builtins ++ timerBuiltins)
  := by
  intro entry hentry
  obtain hentry | hentry := List.mem_append.mp hentry
  · exact Standard.detached.balanced entry hentry
  · obtain rfl | hentry := List.mem_cons.mp hentry
    · exact keeps_after
    · obtain rfl := List.mem_singleton.mp hentry
      exact keeps_cancelTimer

/-- The standard setting with the built-ins on timers. -/
def setting (limits : Limits) : Setting :=
  { Standard.setting limits with builtins := Standard.builtins ++ timerBuiltins }

end Hosted

/-! ### Evaluations -/

/-- A frame that fits is put on top of the others. -/
theorem CallStack.frames_of_push {c d : CallStack} {f : Frame} (h : c.push f = .ok d) :
  d.frames = f :: c.frames
  := by
  unfold push at h
  split at h
  · split at h
    · cases h
    · cases h
      rfl
  · cases h
    rfl

/-- After a call is left the frames are those before it was entered. -/
theorem State.frames_left {s t : State} {frame : Frame} {calls : CallStack}
    (hpush : s.calls.push frame = .ok calls) (h : t.calls.frames = calls.frames) :
  t.left.calls.frames = s.calls.frames
  := by
  show t.calls.frames.tail = s.calls.frames
  rw [h, CallStack.frames_of_push hpush, List.tail_cons]

/-- With balanced built-ins the machine keeps both stacks. -/
theorem upkeep_sameStacks {S : Setting} (hS : S.builtins.Balanced) :
  Upkeep S State.SameStacks
  where
  refl s := .refl s.scene
  trans := Scene.SameStacks.trans
  checked s := .refl s.scene
  ticked s := .refl s.scene
  defined s name v := .of_context rfl
  assigned s name v := .of_context rfl
  logged s d := .of_context rfl
  dispatch name args := by
    have hdispatch := Builtins.keeps_dispatch Scene.SameStacks.refl hS name args
    exact keeps_onScene hdispatch fun _ _ h => h
  scope {s t} h := by
    obtain ⟨henv, hframes⟩ := h
    constructor
    · show t.scene.context.env.pop = s.scene.context.env
      rw [henv]
      apply Environment.pop_push
    · exact hframes
  frame {s t frame calls} hpush h := by
    obtain ⟨henv, hframes⟩ := h
    exact ⟨henv, State.frames_left hpush hframes⟩
  closure f h := ⟨rfl, h.2⟩

/-- Whatever is evaluated, and however it ends, the stack of scopes and the active calls are the
same as before. -/
theorem evaluations_keep_stacks {S : Setting} (hS : S.builtins.Balanced) (n : Nat) :
  (∀ p, (evalProgram S n p).Keeps State.SameStacks)
    ∧ (∀ body, (execBlock S n body).Keeps State.SameStacks)
    ∧ (∀ body, (execAll S n body).Keeps State.SameStacks)
    ∧ (∀ s, (execStmt S n s).Keeps State.SameStacks)
    ∧ (∀ e, (evalExpr S n e).Keeps State.SameStacks)
    ∧ (∀ callee args, (callValue S n callee args).Keeps State.SameStacks)
    ∧ (∀ name args span, (callBuiltin S name args span).Keeps State.SameStacks)
    ∧ (∀ f args span, (callClosure S n f args span).Keeps State.SameStacks)
    ∧ (∀ h args, (runHandler S n h args).Keeps State.SameStacks)
    ∧ (∀ call extra, (invoke S n call extra).Keeps State.SameStacks)
  := by
  have U := upkeep_sameStacks hS
  exact ⟨U.program n, U.block n, U.statements n, U.stmt n, U.expr n, U.callee n, U.builtin,
    U.call n, U.handler n, U.deferred n⟩

/-- A function that calls itself from a block in a loop, and its call. -/
def runaway : Program :=
  ⟨[.function .dummy 0 "f" [] [.whileLoop .dummy (.literal .dummy (.bool true))
      [.block .dummy [.expression .dummy (.call .dummy "f" [])]]],
    .expression .dummy (.call .dummy "f" [])]⟩

/-- The overflow of the call stack in the middle of loops, blocks and calls leaves both stacks
as they were. -/
theorem stacks_after_overflow :
  (Hosted.setting ⟨some 2, none, none⟩).builtins.Balanced
    ∧ ∃ e t, evalProgram (Hosted.setting ⟨some 2, none, none⟩) 20 runaway
          (Standard.start ⟨some 2, none, none⟩) = .failed e t
        ∧ e.cause = .stackOverflow 2
        ∧ (Standard.start ⟨some 2, none, none⟩).SameStacks t
  := by
  have hS : (Hosted.setting ⟨some 2, none, none⟩).builtins.Balanced :=
    Hosted.balanced_standard_and_timers
  use hS
  refine ⟨_, _, rfl, rfl, ?_⟩
  exact (evaluations_keep_stacks hS 20).1 runaway _ _ rfl

end StoryScript
