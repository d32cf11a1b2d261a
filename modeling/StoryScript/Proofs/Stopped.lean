import StoryScript.Proofs.Cutoff
import StoryScript.Proofs.Detached
import StoryScript.Proofs.Failures
import StoryScript.Proofs.Halting

/-!
# Stopped runs

Once a run is asked to stop, every call and every loop round is refused.  So a stopped evaluation
goes on with expressions and declarations only, until it ends or comes to the next check, where it
fails.  It is compared with its own evaluation in a sealed setting, where no calls and no rounds
are left and which therefore ends.  Main statement: a stopped evaluation ends, it runs no built-in
and no body of a function, a handler or a loop, and the first check that it reaches is its end.
-/

namespace StoryScript

open Eval

/-- The run is asked to stop. -/
def State.Stopped (s : State) : Prop := s.budget.isStopped s.scene.host.runs = true

/-- Nothing of the budget is used, and no run was asked to stop or freed from that. -/
def State.Idle (s t : State) : Prop :=
  t.budget = s.budget ∧ t.scene.host.runs = s.scene.host.runs

namespace State.Idle

variable {s t u : State}

/-- Doing nothing is idle. -/
theorem refl (s : State) :
  s.Idle s
  := ⟨rfl, rfl⟩

/-- Idle steps may be chained. -/
theorem trans (h : s.Idle t) (h' : t.Idle u) :
  s.Idle u
  := ⟨h'.1.trans h.1, h'.2.trans h.2⟩

/-- A state stays stopped as long as nothing but idle steps are taken. -/
theorem stopped (h : s.Idle t) (hs : s.Stopped) :
  t.Stopped
  := by
  unfold Stopped
  rw [h.1, h.2]
  exact hs

end State.Idle

/-! ### The checks -/

namespace Eval

variable {S : Setting} {s : State} {α : Type}

/-- A call is refused because of the request, which goes before the deadline. -/
theorem callVerdict_stopped (hs : s.Stopped) (limits : Limits) (clock : Nat → Nat) :
  s.budget.callVerdict limits clock s.scene.host.runs = some .stopRequested
  := by
  unfold State.Stopped at hs
  rw [Budget.callVerdict, if_pos hs]

/-- No call is made. -/
theorem inFrame_stopped (hs : s.Stopped) (frame : Frame) (a : Eval α) :
  inFrame S frame a s = .failed (Error.ofCause (.interrupted .stopRequested)) s.checked
  := by
  rw [inFrame_apply, callVerdict_stopped hs]

end Eval

/-- Why a task has to stop at a check: before a call because of the request, before a loop round
for the number of rounds if there were too many, else because of the request. -/
def Setting.stopReason (S : Setting) (task : Task) (s : State) : Interruption :=
  match task.frame?, S.limits.iterations with
  | none, some limit =>
    if limit < s.budget.counted.iterations then .iterations limit else .stopRequested
  | _, _ => .stopRequested

/-- No loop round begins. -/
theorem Eval.tick_stopped {S : Setting} {s : State} (hs : s.Stopped) (task : Task)
    (hframe : task.frame? = none) :
  tick S s = .failed (Error.ofCause (.interrupted (S.stopReason task s))) s.ticked
  := by
  have hverdict : s.budget.counted.roundVerdict S.limits S.clock s.scene.host.runs
      = some (S.stopReason task s) := by
    have hcall : s.budget.counted.callVerdict S.limits S.clock s.scene.host.runs
        = some .stopRequested := callVerdict_stopped (s := { s with budget := _ }) hs _ _
    unfold Budget.roundVerdict Setting.stopReason
    rw [hframe, hcall]
    cases S.limits.iterations with
    | none => rfl
    | some limit =>
      dsimp only
      split <;> rfl
  rw [tick_apply, hverdict]

/-! ### The sealed setting -/

/-- The setting in which no calls and no loop rounds are left. -/
def Setting.sealed (S : Setting) : Setting where
  builtins := S.builtins.map fun entry => (entry.1, .constant .null)
  sink := S.sink
  limits := ⟨some 0, some 0, none⟩
  clock := S.clock

/-- The sealed setting has built-ins of the same names. -/
theorem Setting.sameNames_sealed (S : Setting) :
  S.SameNames S.sealed
  := by
  intro name
  show _ = Entries.contains name (S.builtins.map _)
  induction S.builtins with
  | nil => rfl
  | cons entry rest ih => rw [List.map_cons, Entries.contains, Entries.contains, ih]

/-- The quota of the sealed setting. -/
def Quota.sealed : Quota := ⟨0, 0, by decide⟩

/-- The quota of the sealed setting is that of no calls and no rounds. -/
theorem Quota.governs_sealed (S : Setting) :
  sealed.Governs S.sealed
  := by
  constructor
  · rfl
  · intro entry hentry args s
    obtain ⟨original, -, rfl⟩ := List.mem_map.mp hentry
    exact ⟨s, rfl, .refl _⟩

/-- In the sealed setting nothing is left to use up. -/
theorem Quota.leaves_sealed (s : State) :
  sealed.Leaves 0 0 (s.capped 0)
  := ⟨⟨0, Nat.le_refl _, rfl⟩, Nat.zero_le _, Nat.zero_le _⟩

/-- Two evaluations from a stopped state, the second one in the sealed setting: both are done and
nothing was used, or both fail, or both need more fuel. -/
inductive Outcome.Mirrors {α β : Type} (s : State) (P : α → β → Prop) :
    Outcome State Error α → Outcome State Error β → Prop where
  | done {v : α} {w : β} {t : State} (h : s.Idle t) (hv : P v w) :
    Mirrors s P (.done v t) (.done w (t.capped 0))
  | failed {e e' : Error} {t t' : State} : Mirrors s P (.failed e t) (.failed e' t')
  | outOfFuel : Mirrors s P .outOfFuel .outOfFuel

/-- From every stopped state the evaluations mirror each other. -/
def Mirrored {α β : Type} (P : α → β → Prop) (a : Eval α) (b : Eval β) : Prop :=
  ∀ s, s.Stopped → (a s).Mirrors s P (b (s.capped 0))

namespace Mirrored

variable {S : Setting} {α β γ δ : Type} {P : α → β → Prop} {Q : γ → δ → Prop}

/-- Sequences mirror each other if the first actions do, and the second ones on related values. -/
theorem bind {a : Eval α} {b : Eval β} {f : α → Eval γ} {g : β → Eval δ} (hab : Mirrored P a b)
    (hfg : ∀ v w, P v w → Mirrored Q (f v) (g w)) :
  Mirrored Q (a >>= f) (b >>= g)
  := by
  intro s hs
  have hfirst := hab s hs
  rw [Action.bind_apply, Action.bind_apply]
  generalize a s = o, b (s.capped 0) = o' at hfirst
  cases hfirst with
  | failed => exact .failed
  | outOfFuel => exact .outOfFuel
  | @done v w t hidle hv =>
    have hrest := hfg v w hv t (hidle.stopped hs)
    dsimp only
    generalize f v t = o, g w (t.capped 0) = o' at hrest
    cases hrest with
    | done hidle' hv' => exact .done (hidle.trans hidle') hv'
    | failed => exact .failed
    | outOfFuel => exact .outOfFuel

/-- Between a preparation and a cleanup that do not touch the limit on nested calls. -/
theorem treated {a : Eval α} {b : Eval β} (hab : Mirrored P a b) {learn : State → Error → Error}
    {cleanup : State → State} {s t : State} (hs : s.Stopped) (hst : s.Idle t)
    (hcapped : ∀ u : State, cleanup (u.capped 0) = (cleanup u).capped 0)
    (hclean : ∀ u : State, u.Idle (cleanup u)) :
  ((a t).treated learn cleanup).Mirrors s P ((b (t.capped 0)).treated learn cleanup)
  := by
  have hpart := hab t (hst.stopped hs)
  generalize a t = o, b (t.capped 0) = o' at hpart
  cases hpart with
  | failed => exact .failed
  | outOfFuel => exact .outOfFuel
  | @done v w u hidle hv =>
    rw [Outcome.treated, Outcome.treated, hcapped]
    exact .done (hst.trans (hidle.trans (hclean u))) hv

/-- Calls mirror each other: neither of them is made. -/
theorem inFrame {T : Setting} (frame : Frame) (a : Eval α) (b : Eval β) :
  Mirrored P (Eval.inFrame S frame a) (Eval.inFrame T frame b)
  := by
  intro s hs
  have hcapped : (s.capped 0).Stopped := hs
  rw [inFrame_stopped hs, inFrame_stopped hcapped]
  exact .failed

/-- Everything is mirrored in the sealed setting. -/
def simulation (S : Setting) : Simulation S S.sealed where
  World := Unit
  order := Simulation.oneWorld
  closures _ := Eq
  rel _ P a b := Mirrored (P ()) a b
  closures_mono _ h := h
  closures_decl h := congrArg Closure.decl h
  closures_same h h' := congrArg₂ Closure.same h h'
  builtins := S.sameNames_sealed
  pure h s _ := .done (.refl s) h
  bind hab hfg := hab.bind fun v w hv => hfg () trivial v w hv
  throw _ _ _ := .failed
  exhausted _ _ := .outOfFuel
  located span h s hs := by
    rw [located_apply, located_apply]
    exact h.treated hs (.refl s) (fun _ => rfl) .refl
  tick _ s hs := by
    have hcapped : (s.capped 0).Stopped := hs
    rw [tick_stopped hs (.dispatch "" []) rfl, tick_stopped hcapped (.dispatch "" []) rfl]
    exact .failed
  get _ name s _ := by
    refine .done (.refl s) ?_
    show Option.Rel _ (s.scene.get? name) (s.scene.get? name)
    cases s.scene.get? name with
    | none => exact .none
    | some v => exact .some (.refl (fun _ => rfl) v)
  define name v v' hv s _ := by
    obtain rfl : v = v' := hv.eq fun _ _ h => h
    exact .done ⟨rfl, rfl⟩ trivial
  assign name v v' hv s _ := by
    obtain rfl : v = v' := hv.eq fun _ _ h => h
    rw [assign_apply, assign_apply]
    show Outcome.Mirrors s _ (if (s.scene.assign name v).2 then _ else _)
      (if (s.scene.assign name v).2 then _ else _)
    split
    · exact .done ⟨rfl, rfl⟩ trivial
    · exact .failed
  inScope h s hs := by
    rw [inScope_apply, inScope_apply]
    exact (h () trivial).treated (t := s.pushed) hs ⟨rfl, rfl⟩ (fun _ => rfl) fun _ => ⟨rfl, rfl⟩
  inFrame frame _ := .inFrame frame _ _
  inClosure := by
    rintro _ _ _ _ _ _ f _ rfl h s hs
    rw [inClosure_apply, inClosure_apply]
    exact (h () trivial).treated (t := s.inside f) hs ⟨rfl, rfl⟩ (fun _ => rfl)
      fun _ => ⟨rfl, rfl⟩
  closeOver _ decl s _ := .done (.refl s) rfl
  callBuiltin _ _ _ _ _ := .inFrame _ _ _
  handOff _ d s _ := by
    rw [handOff_apply, handOff_apply]
    show Outcome.Mirrors s _
      (match (S.sink.receive s.scene.context.script d s.scene.host.log).2 with
        | .ok () => _
        | .error e => _)
      (match (S.sink.receive s.scene.context.script d s.scene.host.log).2 with
        | .ok () => _
        | .error e => _)
    split
    · exact .done ⟨rfl, rfl⟩ trivial
    · exact .failed

/-- An evaluation that is mirrored ends. -/
theorem answers {a : Nat → Eval α} {b : Nat → Eval β} {s : State} (ha : Rising a)
    (hab : ∀ n, Mirrored P (a n) (b n)) (hb : Quota.sealed.Halts 0 0 b) (hs : s.Stopped) :
  Answers fun n => a n s
  := by
  obtain ⟨n, hanswer, -⟩ := hb.answers (Quota.leaves_sealed s)
  have hmirrors := hab n s hs
  have hsome : a n s ≠ .outOfFuel := by
    intro hnone
    rw [hnone] at hmirrors
    generalize hout : b n (s.capped 0) = o at hmirrors
    cases hmirrors
    exact hanswer hout
  use n, hsome
  intro k hk
  obtain hnone | hsame := ha n k hk s
  · exact absurd hnone hsome
  · exact hsame.symm

/-- When it is done, nothing was used. -/
theorem idle {a : Eval α} {b : Eval β} {s t : State} {v : α} (hab : Mirrored P a b)
    (hs : s.Stopped) (h : a s = .done v t) :
  s.Idle t
  := by
  have hmirrors := hab s hs
  rw [h] at hmirrors
  generalize b (s.capped 0) = o at hmirrors
  cases hmirrors with
  | done hidle => exact hidle

end Mirrored

/-! ### Stopped evaluations end -/

namespace State.Stopped

variable {S : Setting} {s t u : State}

/-- Statements in a stopped state have an answer with enough fuel. -/
theorem execAll_answers (hs : s.Stopped) (body : List Stmt) :
  Answers fun n => execAll S n body s
  := by
  have hK := Quota.governs_sealed S
  have hmirrored := fun n => (Mirrored.simulation S).execAll n () body
  have hhalts := (hK.callsHalt 0).body hK 0 body
  exact Mirrored.answers (Quota.rising_execAll S body) hmirrored hhalts hs

/-- Expressions in a stopped state have an answer with enough fuel. -/
theorem evalExpr_answers (hs : s.Stopped) (e : Expr) :
  Answers fun n => evalExpr S n e s
  := by
  have hK := Quota.governs_sealed S
  have hmirrored := fun n => ((Mirrored.simulation S).covers n).expr () e
  exact Mirrored.answers (fun n k h => evalExpr_below S h e) hmirrored
    ((hK.callsHalt 0).expr hK.builtins 0 e) hs

/-- A call is refused, with any fuel at all. -/
theorem callClosure_answers (hs : s.Stopped) (f : Closure) (args : List Value)
    (span : Option Span) :
  Answers fun n => callClosure S n f args span s
  := by
  have hrefused : ∀ n, callClosure S (n + 1) f args span s
      = .failed (Error.ofCause (.interrupted .stopRequested)) s.checked :=
    fun n => inFrame_stopped hs _ _
  refine ⟨1, ?_, ?_⟩
  · dsimp only
    rw [hrefused 0]
    exact nofun
  · intro k hk
    obtain ⟨k, rfl⟩ := Nat.exists_eq_add_of_le' hk
    exact (hrefused k).trans (hrefused 0).symm

/-- A failure without regard to fuel is an answer. -/
theorem answers_of_failed {α : Type} {a : Nat → Eval α} {e : Error}
    (h : ∀ n, a n s = .failed e t) :
  Answers fun n => a n s
  := by
  refine ⟨0, ?_, fun k _ => (h k).trans (h 0).symm⟩
  dsimp only
  rw [h 0]
  exact nofun

/-- A call of a value in a stopped state has an answer with enough fuel. -/
theorem callValue_answers (hs : s.Stopped) (callee : Value) (args : List Value) :
  Answers fun n => callValue S n callee args s
  := by
  cases callee with
  | builtin name => exact answers_of_failed fun _ => inFrame_stopped hs _ _
  | closure f => exact hs.callClosure_answers f args none
  | _ => exact answers_of_failed fun _ => rfl

/-- A handler in a stopped state has an answer with enough fuel. -/
theorem runHandler_answers (hs : s.Stopped) (h : Handler) (args : List Value) :
  Answers fun n => runHandler S n h args s
  := answers_of_failed fun _ => inFrame_stopped hs _ _

/-- A deferred call in a stopped state has an answer with enough fuel. -/
theorem invoke_answers (hs : s.Stopped) (call : DeferredCall) (extra : List Value) :
  Answers fun n => invoke S n call extra s
  := by
  obtain ⟨callback, args⟩ := call
  cases callback with
  | native name run =>
    refine ⟨0, ?_, fun k _ => rfl⟩
    show Action.ofExcept ((run (args ++ extra)).mapError (Error.ofBuiltin name)) s ≠ _
    cases run (args ++ extra) with
    | ok v => exact nofun
    | error e => exact nofun
  | builtin name => exact answers_of_failed fun _ => inFrame_stopped hs _ _
  | closure f => exact hs.callClosure_answers f (args ++ extra) none

/-! ### Stopped evaluations run nothing -/

/-- An expression that is done in a stopped state was idle. -/
theorem idle_of_expr (hs : s.Stopped) {n : Nat} {e : Expr} {v : Value}
    (h : evalExpr S n e s = .done v t) :
  s.Idle t
  := (((Mirrored.simulation S).covers n).expr () e).idle hs h

/-- Expressions that are done in a stopped state were idle. -/
theorem idle_of_each (hs : s.Stopped) {n : Nat} {es : List Expr} {vs : List Value}
    (h : Action.each (evalExpr S n) es s = .done vs t) :
  s.Idle t
  := by
  have hexpr := ((Mirrored.simulation S).covers n).expr
  exact Mirrored.idle (Correspondence.allValues hexpr () es) hs h

/-- The entries of a map literal that are done in a stopped state were idle. -/
theorem idle_of_entries (hs : s.Stopped) {n : Nat} {es : List (String × Expr)}
    {vs : List (String × Value)} (h : entries (evalExpr S n) es s = .done vs t) :
  s.Idle t
  := by
  have hexpr := ((Mirrored.simulation S).covers n).expr
  exact Mirrored.idle (Correspondence.entries hexpr () es) hs h

/-- Statements that are done in a stopped state were idle. -/
theorem idle_of_execAll (hs : s.Stopped) {n : Nat} {body : List Stmt} {flow : Flow}
    (h : execAll S n body s = .done flow t) :
  s.Idle t
  := Mirrored.idle ((Mirrored.simulation S).execAll n () body) hs h

/-- The first part of a loop header that is done in a stopped state was idle. -/
theorem idle_of_loopStart (hs : s.Stopped) {n : Nat} {start : Option LoopStart}
    (h : loopStart (evalExpr S n) start s = .done () t) :
  s.Idle t
  := by
  have hexpr := ((Mirrored.simulation S).covers n).expr
  exact Mirrored.idle (Simulation.loopStart hexpr () start) hs h

/-- The condition of a loop that is done in a stopped state was idle. -/
theorem idle_of_test (hs : s.Stopped) {n : Nat} {l : Loop} {goesOn : Bool}
    (h : l.test S n s = .done goesOn t) :
  s.Idle t
  := by
  have hexpr := ((Mirrored.simulation S).covers n).expr
  exact Mirrored.idle (Correspondence.loopCondition hexpr () l.condition) hs h

/-- No checkpoint in a loop is passed in a stopped state. -/
theorem not_ticked (hs : s.Stopped) :
  ¬ tick S s = .done () t
  := by
  rw [tick_stopped hs (.dispatch "" []) rfl]
  exact nofun

/-- Only the first round of a loop begins. -/
theorem eq_of_round (hs : s.Stopped) {n k : Nat} {l : Loop} (h : l.Round S n s k t) :
  t = s
  := by
  induction h with
  | first => rfl
  | next _ htest htick _ _ ih =>
    subst ih
    exact absurd htick ((hs.idle_of_test htest).stopped hs).not_ticked

/-- No element of a list comes after another one. -/
theorem eq_of_forEach (hs : s.Stopped) {body : Value → Eval Flow} {vs : List Value} {flow : Flow}
    (h : forEach S body vs s = .done flow t) :
  t = s
  := by
  cases vs with
  | nil =>
    cases h
    rfl
  | cons v rest =>
    obtain ⟨_, u, htick, -⟩ := Action.exists_of_bind_done h
    exact absurd htick hs.not_ticked

/-- No call is admitted in a stopped state. -/
theorem not_admits (hs : s.Stopped) (frame : Frame) :
  ¬ S.Admits frame s t
  := by
  rintro ⟨hverdict, -⟩
  rw [callVerdict_stopped hs] at hverdict
  cases hverdict

end State.Stopped

/-- The task makes a check before it begins the part: the part is a built-in, or the body of a
function, of a handler or of a loop. -/
def Task.Guards : Task → Task → Prop
  | builtin _ _ _, dispatch _ _ => True
  | call _ _ _ _, body _ _ => True
  | job _ (.handler _ _), body _ _ => True
  | loop _ _, body _ _ => True
  | stmt _ (.forIn _ _ _ _), body _ _ => True
  | _, _ => False

/-- A part of a stopped task begins with the same budget, and not behind a check. -/
theorem Enters.idle {S : Setting} {task part : Task} {s t : State} (h : Enters S task s part t)
    (hs : s.Stopped) :
  s.Idle t ∧ ¬ task.Guards part
  := by
  cases h with
  | left | operand | member | target | assigned | declared | condition | whileLoop | iterable
  | returned | expression | property | program | deferredBuiltin | deferredClosure =>
    exact ⟨.refl s, id⟩
  | block | start => exact ⟨⟨rfl, rfl⟩, id⟩
  | right hv | place hv => exact ⟨hs.idle_of_expr hv, id⟩
  | yes hv | no hv =>
    have hidle := hs.idle_of_expr hv
    exact ⟨⟨hidle.1, hidle.2⟩, id⟩
  | argument hvs | item hvs | builtin hvs | heldBuiltin hvs | heldClosure hvs =>
    exact ⟨hs.idle_of_each hvs, id⟩
  | entry hvs => exact ⟨hs.idle_of_entries hvs, id⟩
  | element hlist hbefore _ htick =>
    have hlist := (hs.idle_of_expr hlist).stopped hs
    obtain rfl := hlist.eq_of_forEach hbefore
    exact absurd htick hlist.not_ticked
  | forLoop hstart =>
    have hpushed : s.pushed.Stopped := hs
    exact ⟨hpushed.idle_of_loopStart hstart, id⟩
  | statement hbefore => exact ⟨hs.idle_of_execAll hbefore, id⟩
  | test hround =>
    obtain rfl := hs.eq_of_round hround
    exact ⟨.refl _, id⟩
  | round hround htest htick | update hround htest htick =>
    obtain rfl := hs.eq_of_round hround
    exact absurd htick ((hs.idle_of_test htest).stopped hs).not_ticked
  | called hframe | dispatched hframe | handler hframe =>
    exact absurd hframe (hs.not_admits _)

/-- A task comes to a check: at its beginning if it has a frame, and before each round of a loop. -/
inductive Task.Reaches (S : Setting) : Task → State → State → Prop where
  | frame {task : Task} {frame : Frame} {s : State} (h : task.frame? = some frame) :
    Reaches S task s s
  | round {n k : Nat} {l : Loop} {s t t₁ : State} (h : l.Round S n s (k + 1) t)
    (htest : l.test S n t = .done true t₁) : Reaches S (.loop n l) s t₁
  | element {n : Nat} {span : Span} {name : String} {e : Expr} {b : List Stmt} {s t t₁ : State}
    {before : List Value} {v : Value} {after : List Value} {flow : Flow}
    (h : evalExpr S n e s = .done (.list ⟨before ++ v :: after⟩) t)
    (hbefore : forEach S (fun v => execWith S n [(name, v)] b) before t = .done flow t₁)
    (hflow : flow.isReturn = false) : Reaches S (.stmt (n + 1) (.forIn span name e b)) s t₁

/-- A stopped task fails at the check that it comes to. -/
theorem Task.Reaches.fails {S : Setting} {task : Task} {s t : State} (h : task.Reaches S s t)
    (hs : s.Stopped) :
  s.Idle t ∧ ∃ e u, task.Fails S s e u ∧ e.cause = .interrupted (S.stopReason task t)
    ∧ u.budget.checks = t.budget.checks + 1 ∧ u.scene.host = t.scene.host
  := by
  cases h with
  | @frame _ frame _ hframe =>
    use .refl s, Error.ofCause (.interrupted .stopRequested), s.checked
    have hreason : S.stopReason task s = .stopRequested := by
      rw [Setting.stopReason, hframe]
    rw [hreason]
    refine ⟨?_, rfl, rfl, rfl⟩
    cases task with
    | call n f args span =>
      cases n with
      | zero => cases hframe
      | succ n => exact inFrame_stopped hs _ _
    | builtin name args span => exact inFrame_stopped hs _ _
    | job n j =>
      cases j with
      | handler h args => exact inFrame_stopped hs _ _
      | _ => cases hframe
    | _ => cases hframe
  | @round n k l _ _ _ hround htest =>
    obtain rfl := hs.eq_of_round hround
    have hidle := hs.idle_of_test htest
    have htick := tick_stopped (S := S) (hidle.stopped hs) (.loop n l) rfl
    exact ⟨hidle, _, _, Loop.fails_iff.mp (.tick hround htest htick), rfl, rfl, rfl⟩
  | @element n span name e b _ _ _ _ v after _ hlist hbefore hflow =>
    have hidle := hs.idle_of_expr hlist
    obtain rfl := (hidle.stopped hs).eq_of_forEach hbefore
    have htick := tick_stopped (S := S) (hidle.stopped hs)
      (.stmt (n + 1) (.forIn span name e b)) rfl
    have hloop := (forEach_append hbefore hflow (v :: after)).trans (Action.bind_of_failed htick)
    refine ⟨hidle, _, State.ticked _, located_failed ((Action.bind_of_done hlist).trans
      ((Action.bind_of_done rfl).trans hloop)), (Error.cause_orSpan _ _).trans rfl, rfl, rfl⟩

/-- Every task under way in a stopped evaluation began with the same budget, and not behind a
check. -/
theorem Underway.idle {S : Setting} {whole task : Task} {s t : State}
    {outer : List (Task × State)} (h : Underway S whole s ((task, t) :: outer))
    (hs : s.Stopped) :
  s.Idle t ∧ ∀ p ∈ outer.head?, ¬ p.1.Guards task
  := by
  generalize hall : (task, t) :: outer = chain at h
  induction h generalizing task t outer with
  | whole =>
    cases hall
    use .refl s
    intro p hp
    cases hp
  | part _ hpart ih =>
    cases hall
    obtain ⟨hidle, -⟩ := ih rfl
    obtain ⟨hpart, hguards⟩ := hpart.idle (hidle.stopped hs)
    use hidle.trans hpart
    rintro p hp
    cases Option.mem_some_iff.mp hp
    exact hguards

/-! ### Stop requests -/

/-- A stop request is final.  Whatever is evaluated after it ends.  No built-in is called, and no
body of a function, a handler or a loop begins.  When a check is reached, it is the only one: all
tasks that began, began before it, and it makes the whole fail at once, because of the request or
because there were too many loop rounds; nothing is done to the host any more. -/
theorem stop_is_final {S : Setting} {s : State} (hs : s.Stopped) :
  (∀ body, Answers fun n => execAll S n body s)
    ∧ (∀ e, Answers fun n => evalExpr S n e s)
    ∧ (∀ callee args, Answers fun n => callValue S n callee args s)
    ∧ (∀ h args, Answers fun n => runHandler S n h args s)
    ∧ (∀ call extra, Answers fun n => invoke S n call extra s)
    ∧ ∀ whole task t outer, Underway S whole s ((task, t) :: outer) →
        t.budget = s.budget ∧ t.Stopped
          ∧ (∀ p ∈ outer.head?, ¬ p.1.Guards task)
          ∧ ∀ u, task.Reaches S t u →
              u.budget = s.budget ∧ u.Stopped
                ∧ ∃ e v, whole.Fails S s e v
                  ∧ e.cause = .interrupted (S.stopReason task u)
                  ∧ v.budget.checks = s.budget.checks + 1
                  ∧ v.scene.host = u.scene.host
  := by
  refine ⟨hs.execAll_answers, hs.evalExpr_answers, hs.callValue_answers, hs.runHandler_answers,
    hs.invoke_answers, ?_⟩
  intro whole task t outer h
  obtain ⟨hidle, hguards⟩ := h.idle hs
  have ht := hidle.stopped hs
  refine ⟨hidle.1, ht, hguards, ?_⟩
  intro u hreaches
  obtain ⟨hidle', e, v, hfails, hcause, hchecks, hhost⟩ := hreaches.fails ht
  obtain ⟨e', v', hwhole, hcause', hbudget', hhost'⟩ := h.failed hfails
  have hall := hidle.trans hidle'
  refine ⟨hall.1, hall.stopped hs, e', v', hwhole, hcause'.trans hcause, ?_, hhost'.trans hhost⟩
  rw [hbudget', hchecks, hall.1]

/-- The start of a run that was asked to stop right away. -/
def stoppedStart : State :=
  let s := (Scene.enter (Host.initial .buffer) "main").runState .standard
  { s with scene.host.runs := s.scene.host.runs.stop "main" }

/-- A variable, and a loop that prints it for ever. -/
def ticker : List Stmt :=
  [.declare .dummy "x" (some (.literal .dummy (.int 1))),
    .whileLoop .dummy (.literal .dummy (.bool true))
      [.expression .dummy (.call .dummy "print" [.identifier .dummy "x"])]]

/-- The variable is declared, and the first round of the loop is refused. -/
theorem ticker_is_stopped :
  stoppedStart.Stopped
    ∧ ∃ t e v, stoppedStart.Idle t
        ∧ t.scene.get? "x" = some (.int 1)
        ∧ execAll (Standard.setting .standard) 8 ticker stoppedStart = .failed e v
        ∧ e.cause = .interrupted .stopRequested
        ∧ v.budget.checks = 1
        ∧ v.scene.host = t.scene.host
  := by
  have hs : stoppedStart.Stopped := by
    show Runs.isStopped (Runs.request _ 0) 0 = true
    rw [Runs.isStopped_request]
    rfl
  let S := Standard.setting .standard
  let t := stoppedStart.defined "x" (.int 1)
  have hloop : Underway S (.body 8 ticker) stoppedStart
      [(.loop 7 ⟨some (.literal .dummy (.bool true)), none,
          [.expression .dummy (.call .dummy "print" [.identifier .dummy "x"])]⟩, t),
        (.stmt 8 (.whileLoop .dummy (.literal .dummy (.bool true))
          [.expression .dummy (.call .dummy "print" [.identifier .dummy "x"])]), t),
        (.body 8 ticker, stoppedStart)] := by
    refine .part (.part .whole ?_) .whileLoop
    exact @Enters.statement S 8 [.declare .dummy "x" _] _ [] stoppedStart .null t rfl
  obtain ⟨-, -, -, -, -, hunderway⟩ := stop_is_final (S := S) hs
  obtain ⟨hbudget, -, -, hchecks⟩ := hunderway _ _ _ _ hloop
  obtain ⟨-, -, e, v, hfails, hcause, hcount, hhost⟩ := hchecks t (.round .first rfl)
  exact ⟨hs, t, e, v, ⟨hbudget, rfl⟩, rfl, hfails, hcause, hcount, hhost⟩

end StoryScript
