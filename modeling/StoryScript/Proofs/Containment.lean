import StoryScript.Proofs.Keeping
import StoryScript.Proofs.Stacks
import StoryScript.Proofs.Tame

/-!
# Calls contain what built-ins do to the stack of scopes

Built-ins may enter and leave scopes in any order, so a block or a loop does not always find the
scope that it leaves.  But no environment loses its lowest scope, and every call has an
environment of its own, which is given up when the call ends.  Main statement: however the body
of a function disarranges its environment, and however the call ends, the caller gets back its own
environment and call stack; and the lowest scope of every environment, at every moment, is the one
of the environment at the start, or the one of a function of which a call is under way.
-/

namespace StoryScript

open Eval

/-! ### Built-ins that enter and leave scopes -/

/-- What built-ins may do to the stack of scopes: they enter and leave scopes in any order.  All
else may change in between, but not the active calls. -/
inductive Scene.Restacked (s : Scene) : Scene → Prop where
  | aside {t : Scene} (h : s.SameStacks t) : Restacked s t
  | pushScope {t u : Scene} (h : Restacked s t) (hu : t.pushScope.SameStacks u) : Restacked s u
  | popScope {t u : Scene} (h : Restacked s t) (hu : t.popScope.SameStacks u) : Restacked s u

/-- All built-ins do no more than that to the stack of scopes. -/
def Builtins.Restack (table : Builtins) : Prop :=
  ∀ entry ∈ table, ∀ args, (entry.2 args).Keeps Scene.Restacked

theorem Scene.Restacked.trans_sameStacks {s t u : Scene} (h : s.Restacked t) (hu : t.SameStacks u) :
  s.Restacked u
  := by
  cases h with
  | aside h => exact .aside (h.trans hu)
  | pushScope h ht => exact .pushScope h (ht.trans hu)
  | popScope h ht => exact .popScope h (ht.trans hu)

/-- Whoever uses a context only enters and leaves its scopes. -/
theorem Scene.Uses.restacked {nested : Setting → Prop} {s t : Scene} {held held' : List Value}
    (h : s.Uses nested held held' t) :
  s.Restacked t
  := by
  induction h with
  | nothing => exact .aside (.refl s)
  | pushScope _ ih => exact .pushScope ih (.refl _)
  | popScope _ ih => exact .popScope ih (.refl _)
  | define _ _ ih | defineGlobal _ _ ih | assign _ _ ih => exact ih.trans_sameStacks (.of_context rfl)
  | get _ _ ih | timer _ _ ih => exact ih
  | aside _ hcontext _ _ ih => exact ih.trans_sameStacks (.of_context hcontext)
  | run _ _ _ _ ih | failedRun _ _ _ _ ih => exact ih.trans_sameStacks (.of_context rfl)

theorem Builtins.Tame.restack {held : List Value} {depth : Nat} {table : Builtins}
    (h : table.Tame held depth) :
  table.Restack
  := by
  obtain ⟨nested, htame⟩ : ∃ nested, ∀ entry ∈ table, Builtin.Tame nested held entry.2 := by
    cases depth with
    | zero => exact ⟨_, h⟩
    | succ depth => exact ⟨_, h⟩
  intro entry hentry args s t ht
  have huses := htame entry hentry args s
  generalize entry.2 args s = o at ht huses
  cases o with
  | done v u =>
    obtain ⟨held', huses, -⟩ := huses
    cases ht
    exact huses.restacked
  | failed e u =>
    obtain ⟨held', huses⟩ := huses
    cases ht
    exact huses.restacked
  | outOfFuel => cases ht

/-! ### The lowest scopes -/

/-- The lowest scope of an environment, and its global scope. -/
def Environment.ground (env : Environment) : ScopeId × ScopeId := (env.base, env.global)

/-- The scopes at the bottom of the environments in which a function runs. -/
def Closure.ground (f : Closure) : ScopeId × ScopeId := (f.scope, f.global)

/-- The lowest scopes and the active calls are the same. -/
def Scene.SameGround (s t : Scene) : Prop :=
  t.context.env.ground = s.context.env.ground ∧ t.context.calls.frames = s.context.calls.frames

/-- The lowest scopes and the active calls are the same. -/
def State.SameGround (s t : State) : Prop := s.scene.SameGround t.scene

namespace Scene.SameGround

theorem refl (s : Scene) :
  s.SameGround s
  := by
  exact ⟨rfl, rfl⟩

theorem trans {s t u : Scene} (h : s.SameGround t) (h' : t.SameGround u) :
  s.SameGround u
  := by
  obtain ⟨hground, hframes⟩ := h
  obtain ⟨hground', hframes'⟩ := h'
  exact ⟨hground'.trans hground, hframes'.trans hframes⟩

theorem of_context {s t : Scene} (h : t.context = s.context) :
  s.SameGround t
  := by
  rw [SameGround, h]
  exact ⟨rfl, rfl⟩

theorem of_sameStacks {s t : Scene} (h : s.SameStacks t) :
  s.SameGround t
  := by
  obtain ⟨henv, hframes⟩ := h
  exact ⟨congrArg Environment.ground henv, hframes⟩

/-- Entering and leaving scopes does not reach the lowest one. -/
theorem of_restacked {s t : Scene} (h : s.Restacked t) :
  s.SameGround t
  := by
  induction h with
  | aside h => exact of_sameStacks h
  | pushScope _ hu ih => exact ih.trans (of_sameStacks (s := pushScope _) hu)
  | popScope _ hu ih => exact ih.trans (of_sameStacks (s := popScope _) hu)

end Scene.SameGround

/-- With built-ins that only enter and leave scopes the machine keeps the lowest scopes and the
active calls. -/
theorem upkeep_sameGround {S : Setting} (hS : S.builtins.Restack) :
  Upkeep S State.SameGround
  where
  refl s := .refl s.scene
  trans := Scene.SameGround.trans
  checked s := .refl s.scene
  ticked s := .refl s.scene
  defined s name v := .of_context rfl
  assigned s name v := .of_context rfl
  logged s d := .of_context rfl
  dispatch name args := by
    have hdispatch := Builtins.keeps_dispatch (fun s => .aside (.refl s)) hS name args
    exact keeps_onScene hdispatch fun _ _ h => .of_restacked h
  scope h := h
  frame {s t frame calls} hpush h := by
    obtain ⟨hground, hframes⟩ := h
    exact ⟨hground, State.frames_left hpush hframes⟩
  closure f h := ⟨rfl, h.2⟩

/-! ### Environments under way -/

/-- The environment lies on the ground of another one, or on that of a function of which a call
is under way. -/
def Environment.LiesOn (env start : Environment) (outer : List (Task × State)) : Prop :=
  env.ground = start.ground
    ∨ ∃ n f args span t, (Task.call n f args span, t) ∈ outer ∧ env.ground = f.ground

namespace Environment.LiesOn

variable {env env' start : Environment} {outer outer' : List (Task × State)}

theorem refl (env : Environment) (outer : List (Task × State)) :
  env.LiesOn env outer
  := by
  exact .inl rfl

theorem mono (h : env.LiesOn start outer) (houter : outer ⊆ outer') :
  env.LiesOn start outer'
  := by
  obtain h | ⟨n, f, args, span, t, hf, h⟩ := h
  · exact .inl h
  · exact .inr ⟨n, f, args, span, t, houter hf, h⟩

theorem trans (h : env.LiesOn env' outer) (h' : env'.LiesOn start outer) :
  env.LiesOn start outer
  := by
  obtain h | h := h
  · rw [LiesOn, h]
    exact h'
  · exact .inr h

/-- What lies on the ground of the innermost task lies on the ground of all tasks under way. -/
theorem after {p : Task × State} (h : env.LiesOn p.2.env [p]) (h' : p.2.env.LiesOn start outer) :
  env.LiesOn start (p :: outer)
  := by
  apply trans
  · apply h.mono
    simp
  · apply h'.mono
    simp

end Environment.LiesOn

section

variable {S : Setting} {whole task part : Task} {s t u : State} {outer : List (Task × State)}

theorem State.SameGround.liesOn (h : s.SameGround t) (outer : List (Task × State)) :
  t.env.LiesOn s.env outer
  := by
  exact .inl h.1

theorem Setting.Admits.env_eq {frame : Frame} (h : S.Admits frame s t) :
  t.env = s.env
  := by
  obtain ⟨-, calls, -, rfl⟩ := h
  rfl

/-- The body of a function begins on the ground of the function. -/
theorem ground_called (U : Upkeep S State.SameGround) (f : Closure)
    (pairs : List (String × Value)) (t : State) :
  ((t.inside f).bound pairs).env.ground = f.ground
  := (U.bound pairs (t.inside f)).1

/-- The body of a handler begins on the ground of the current environment. -/
theorem ground_handled (U : Upkeep S State.SameGround) {frame : Frame} (h : S.Admits frame s t)
    (pairs : List (String × Value)) :
  (t.pushed.bound pairs).env.ground = s.env.ground
  := by
  rw [← h.env_eq]
  exact (U.bound pairs t.pushed).1

/-- A scope that is entered lies on the same ground. -/
theorem State.Leads.sameGround (h : s.Leads State.SameGround t) :
  t.env.ground = s.env.ground
  := by
  obtain h | ⟨u, hu, h⟩ := h
  · exact h.1
  · exact h.1.trans hu.1

/-- The environment when a part of a task begins. -/
theorem Enters.liesOn (U : Upkeep S State.SameGround) (h : Enters S task s part t) :
  t.env.LiesOn s.env [(task, s)]
  := by
  obtain ⟨-, hlead⟩ | ⟨frame, u, -, hu, hlead | ⟨n, f, args, span, rfl, hbody⟩⟩ := h.leads U
  · exact .inl hlead.sameGround
  · rw [← hu.env_eq]
    exact .inl hlead.sameGround
  · exact .inr ⟨n, f, args, span, s, List.mem_cons_self, hbody.1⟩

/-- The environments that a task passes. -/
theorem Passes.liesOn (U : Upkeep S State.SameGround) (h : Passes S task s t) :
  t.env.LiesOn s.env [(task, s)]
  := by
  cases h with
  | checked => exact .inl rfl
  | framed _ hframe => exact .inl (congrArg Environment.ground hframe.env_eq)
  | swapped => exact .inr ⟨_, _, _, _, _, List.mem_cons_self, rfl⟩
  | called => exact .inr ⟨_, _, _, _, _, List.mem_cons_self, ground_called U _ _ _⟩
  | restored => exact .inl rfl
  | handled hframe => exact .inl (ground_handled U hframe _)
  | popped hframe hbody =>
    have hended := (U.task _ hbody).1
    exact .inl (hended.trans (ground_handled U hframe _))
  | roundTicked hround htest =>
    have htested := U.loopTest _ _ _ _ (congrArg Outcome.state? htest)
    exact State.SameGround.liesOn (U.trans (U.round hround) htested) _
  | elementTicked hlist hbefore =>
    exact State.SameGround.liesOn (U.elementsBefore hlist hbefore) _
  | elementPushed hlist hbefore _ htick =>
    have htick := U.tick _ _ (congrArg Outcome.state? htick)
    exact State.SameGround.liesOn (U.trans (U.elementsBefore hlist hbefore) htick) _

theorem Underway.liesOn (U : Upkeep S State.SameGround)
    (h : Underway S whole s ((task, t) :: outer)) :
  t.env.LiesOn s.env outer
  := by
  generalize hall : (task, t) :: outer = chain at h
  induction h generalizing task t outer with
  | whole =>
    cases hall
    exact .refl _ _
  | part _ hpart ih =>
    cases hall
    exact (hpart.liesOn U).after (ih rfl)

/-- The tasks under way began in environments that lie on the ground of those around them. -/
theorem Underway.liesOn_of_mem (U : Upkeep S State.SameGround) {chain : List (Task × State)}
    (h : Underway S whole s chain) {p : Task × State} (hp : p ∈ chain) :
  p.2.env.LiesOn s.env chain
  := by
  induction h with
  | whole =>
    cases List.mem_singleton.mp hp
    exact .refl _ _
  | part hchain hpart ih =>
    obtain rfl | hp := List.mem_cons.mp hp
    · apply ((hchain.part hpart).liesOn U).mono
      simp
    · apply (ih hp).mono
      simp

theorem Underway.liesOn_of_saved (U : Upkeep S State.SameGround)
    (h : Underway S whole s ((task, t) :: outer)) {env : Environment}
    (henv : env ∈ savedEnvironments outer) :
  env.LiesOn s.env outer
  := by
  obtain ⟨p, hp, rfl⟩ := exists_of_mem_savedEnvironments henv
  cases h with
  | whole => cases hp
  | part hchain _ => exact hchain.liesOn_of_mem U hp

/-- At every moment the current environment and those put aside lie on the ground of the first
environment, or on that of a function of which a call is under way. -/
theorem Moment.liesOn (U : Upkeep S State.SameGround) (h : Moment S whole s u outer) :
  ∀ env ∈ u.env :: savedEnvironments outer, env.LiesOn s.env outer
  := by
  rw [List.forall_mem_cons]
  cases h with
  | begins h =>
    constructor
    · exact h.liesOn U
    · exact fun env henv => h.liesOn_of_saved U henv
  | ends h hend =>
    constructor
    · exact (State.SameGround.liesOn (U.task _ hend) outer).trans (h.liesOn U)
    · exact fun env henv => h.liesOn_of_saved U henv
  | between h hpass =>
    constructor
    · exact (hpass.liesOn U).after (h.liesOn U)
    · intro env henv
      obtain ⟨p, hp, rfl⟩ := exists_of_mem_savedEnvironments henv
      exact h.liesOn_of_mem U hp

end

/-! ### Calls -/

/-- A call gives up the environment of the function, whatever has become of it. -/
theorem callClosure_keeps_stacks {S : Setting} (hS : S.builtins.Restack) (n : Nat) (f : Closure)
    (args : List Value) (span : Option Span) :
  (callClosure S n f args span).Keeps State.SameStacks
  := by
  have U := upkeep_sameGround hS
  cases n with
  | zero => exact Action.keeps_exhausted
  | succ n =>
    apply keeps_inFrame
    · intro s
      exact .refl s.scene
    · rintro s t calls hpush ⟨henv, hframes⟩
      exact ⟨henv, State.frames_left hpush hframes⟩
    · -- the body may leave any scopes behind in its environment, which is given up here
      refine keeps_inClosure (R := State.SameGround) f ?_ (U.callBody n _ f.decl.body)
      rintro s t ⟨-, hframes⟩
      exact ⟨rfl, hframes⟩

/-- With built-ins that enter and leave scopes as they like, every call of a function, however it
ends, leaves the stack of scopes and the active calls as they were.  And at every moment no
environment is empty: each lies on the ground of the first one, or on that of a function of which
a call is under way. -/
theorem calls_contain_scopes {S : Setting} (hS : S.builtins.Restack) :
  (∀ n f args span, (callClosure S n f args span).Keeps State.SameStacks)
    ∧ ∀ whole s u outer, Moment S whole s u outer → ∀ env ∈ u.env :: savedEnvironments outer,
        env.scopes ≠ [] ∧ env.LiesOn s.env outer
  := by
  constructor
  · exact callClosure_keeps_stacks hS
  · intro whole s u outer h env henv
    constructor
    · exact env.scopes_ne_nil
    · exact h.liesOn (upkeep_sameGround hS) env henv

/-- A function that disarranges its environment in a block, and then fails. -/
def unruly : Closure :=
  ⟨⟨0, "unruly", [], [.expression .dummy (.call .dummy "scope_pop" []),
      .block .dummy [.expression .dummy (.call .dummy "scope_push" []),
        .expression .dummy (.call .dummy "scope_push" [])],
      .expression .dummy (.call .dummy "unheard" [])], .dummy⟩, 0, 0⟩

/-- A setting with the built-ins on contexts. -/
def Hosted.contextSetting : Setting := ⟨Hosted.contextBuiltins, .log, .standard, fun _ => 0⟩

theorem Hosted.restack_contextBuiltins :
  Hosted.contextBuiltins.Restack
  := by
  have htame : Hosted.contextBuiltins.Tame [] 0 := Hosted.tame_contextBuiltins
  exact htame.restack

theorem call_unruly :
  ∃ e t, callClosure Hosted.contextSetting 9 unruly [] none (Standard.start .standard)
    = .failed e t
  := ⟨_, _, rfl⟩

/-- When the block begins, the scope of the call is gone. -/
theorem moment_unruly :
  ∃ u outer, Moment Hosted.contextSetting (.call 9 unruly [] none) (Standard.start .standard) u outer
    ∧ u.env = .onScope 0 0
  := by
  have hcall := @Underway.whole Hosted.contextSetting (.call 9 unruly [] none)
    (Standard.start .standard)
  have hbody := hcall.part (.called ⟨rfl, _, rfl, rfl⟩)
  have hblock := hbody.part (@Enters.statement _ 8 (unruly.decl.body.take 1) _ _ _ _ _ rfl)
  exact ⟨_, _, .begins hblock, rfl⟩

/-- The function ends with an error in the middle of its disarranged environment, and the caller
finds its own. -/
theorem unruly_is_contained :
  Hosted.contextSetting.builtins.Restack
    ∧ (∃ e t, callClosure Hosted.contextSetting 9 unruly [] none (Standard.start .standard)
          = .failed e t
        ∧ (Standard.start .standard).SameStacks t)
    ∧ ∃ u outer, Moment Hosted.contextSetting (.call 9 unruly [] none) (Standard.start .standard)
          u outer
        ∧ u.env = .onScope 0 0 ∧ u.env.scopes ≠ []
  := by
  use Hosted.restack_contextBuiltins
  obtain ⟨e, t, ht⟩ := call_unruly
  obtain ⟨hcalls, hmoments⟩ := calls_contain_scopes (S := Hosted.contextSetting)
    Hosted.restack_contextBuiltins
  obtain ⟨u, outer, hmoment, henv⟩ := moment_unruly
  constructor
  · exact ⟨e, t, ht, hcalls 9 unruly [] none _ t (congrArg Outcome.state? ht)⟩
  · exact ⟨u, outer, hmoment, henv, (hmoments _ _ _ _ hmoment u.env List.mem_cons_self).1⟩

end StoryScript
