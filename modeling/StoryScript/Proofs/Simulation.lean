import Mathlib.Order.Basic
import StoryScript.Eval.Evaluator
import StoryScript.Proofs.Related

/-!
# Simulations

A simulation relates evaluations under two settings.  It says what is known of two runs at some
moment, which closures correspond then, and which evaluations go together from there on.  All
that it has to establish is that the parts of the machine go together: the budget, variables,
scopes, calls, built-ins and declarations.  Main statement: then the evaluations of every tree
and every call go together, and their values correspond.

Expressions and the rounds of loops need less: they neither declare variables nor open scopes.
A relation that is known to be respected by the rest of the machine is a correspondence; there
expressions go together if calls do.
-/

namespace StoryScript

open Eval

/-- The flows go the same way, and their values are related. -/
inductive Flow.Related (P : Value → Value → Prop) : Flow → Flow → Prop where
  | normal {v w : Value} (h : P v w) : Related P (.normal v) (.normal w)
  | returned {v w : Value} (h : P v w) : Related P (.returned v) (.returned w)

namespace Flow.Related

variable {P Q : Value → Value → Prop} {r : Closure → Closure → Prop} {flow flow' : Flow}

/-- Related flows stay so under a weaker relation of values. -/
theorem mono (h : Related P flow flow') (hPQ : ∀ v w, P v w → Q v w) :
  Related Q flow flow'
  := by
  cases h with
  | normal hv => exact .normal (hPQ _ _ hv)
  | returned hv => exact .returned (hPQ _ _ hv)

/-- Related flows have related values. -/
theorem value (h : Related P flow flow') :
  P flow.value flow'.value
  := by
  cases h with
  | normal hv => exact hv
  | returned hv => exact hv

/-- Flows that leave a block are related if those in the block are. -/
theorem settle (h : Related (Value.Related r) flow flow') :
  Related (Value.Related r) flow.settle flow'.settle
  := by
  cases h with
  | normal => exact .normal (.atom rfl)
  | returned hv => exact .returned hv

/-- What a call makes of related flows are related values. -/
theorem callResult (h : Related (Value.Related r) flow flow') :
  flow.callResult.Related r flow'.callResult
  := by
  cases h with
  | normal => exact .atom rfl
  | returned hv => exact hv

end Flow.Related

/-- Related arguments are bound to the parameters as related values. -/
theorem Eval.pointwise_bindParams {r : Closure → Closure → Prop} (params : List String)
    {args args' : List Value} (h : List.Forall₂ (Value.Related r) args args') :
  Entries.Pointwise (Value.Related r) (bindParams params args) (bindParams params args')
  := by
  induction params generalizing args args' with
  | nil => exact .nil
  | cons p rest ih =>
    cases h with
    | nil => exact .cons ⟨rfl, .atom rfl⟩ (ih .nil)
    | cons hv hrest => exact .cons ⟨rfl, hv⟩ (ih hrest)

/-- There are built-ins with the same names. -/
def Setting.SameNames (S T : Setting) : Prop :=
  ∀ name, Entries.contains name S.builtins = Entries.contains name T.builtins

theorem Setting.SameNames.refl (S : Setting) :
  S.SameNames S
  := by
  intro name
  rfl

/-- A relation of evaluations under two settings that the machine respects as long as no variable
is declared and no scope is opened. -/
structure Correspondence (S T : Setting) where
  /-- What can be known of the two runs at some moment. -/
  World : Type
  /-- Knowledge grows. -/
  order : Preorder World
  /-- The closures that correspond. -/
  closures : World → Closure → Closure → Prop
  /-- The evaluations that go together, with values that satisfy a relation. -/
  rel {α β : Type} : World → (World → α → β → Prop) → Eval α → Eval β → Prop
  closures_mono {w w' : World} {f g : Closure} : w ≤ w' → closures w f g → closures w' f g
  closures_decl {w : World} {f g : Closure} : closures w f g → f.decl = g.decl
  closures_same {w : World} {f g f' g' : Closure} :
    closures w f g → closures w f' g' → f.same f' = g.same g'
  builtins : S.SameNames T
  pure {α β : Type} {w : World} {P : World → α → β → Prop} {a : α} {b : β} :
    P w a b → rel w P (pure a) (pure b)
  bind {α β γ δ : Type} {w : World} {P : World → α → β → Prop} {Q : World → γ → δ → Prop}
    {a : Eval α} {b : Eval β} {f : α → Eval γ} {g : β → Eval δ} :
    rel w P a b → (∀ w', w ≤ w' → ∀ x y, P w' x y → rel w' Q (f x) (g y)) →
      rel w Q (a >>= f) (b >>= g)
  throw {α β : Type} {w : World} {P : World → α → β → Prop} (cause : Cause) :
    rel w P (throw cause) (throw cause)
  exhausted {α β : Type} {w : World} {P : World → α → β → Prop} :
    rel w P Action.exhausted Action.exhausted
  located {α β : Type} {w : World} {P : World → α → β → Prop} {a : Eval α} {b : Eval β}
    (span : Span) : rel w P a b → rel w P (located span a) (located span b)
  tick (w : World) : rel w (fun _ _ _ => True) (tick S) (tick T)
  get (w : World) (name : String) :
    rel w (fun w' => Option.Rel (Value.Related (closures w')))
      (Action.gets fun s => s.scene.get? name) (Action.gets fun s => s.scene.get? name)
  assign {w : World} (name : String) {v v' : Value} : v.Related (closures w) v' →
    rel w (fun _ _ _ => True) (assign name v) (assign name v')
  callBuiltin {w : World} (name : String) {args args' : List Value} (span : Option Span) :
    List.Forall₂ (Value.Related (closures w)) args args' →
      rel w (fun w' => Value.Related (closures w'))
        (callBuiltin S name args span) (callBuiltin T name args' span)

attribute [instance] Correspondence.order

/-- A relation of evaluations under two settings that the machine respects. -/
structure Simulation (S T : Setting) extends Correspondence S T where
  define {w : World} (name : String) {v v' : Value} : v.Related (closures w) v' →
    rel w (fun _ _ _ => True) (define name v) (define name v')
  inScope {α β : Type} {w : World} {P : World → α → β → Prop} {a : Eval α} {b : Eval β} :
    (∀ w', w ≤ w' → rel w' P a b) → rel w P (inScope a) (inScope b)
  inFrame {α β : Type} {w : World} {P : World → α → β → Prop} {a : Eval α} {b : Eval β}
    (frame : Frame) : (∀ w', w ≤ w' → rel w' P a b) →
      rel w P (inFrame S frame a) (inFrame T frame b)
  inClosure {α β : Type} {w : World} {P : World → α → β → Prop} {a : Eval α} {b : Eval β}
    {f g : Closure} : closures w f g → (∀ w', w ≤ w' → rel w' P a b) →
      rel w P (inClosure f a) (inClosure g b)
  closeOver (w : World) (decl : Function) : rel w closures (closeOver decl) (closeOver decl)
  handOff (w : World) (d : HandedOff) : rel w (fun _ _ _ => True) (handOff S d) (handOff T d)

namespace Simulation

/-- The order of the only world of a simulation that has to know nothing. -/
@[reducible]
def oneWorld : Preorder Unit where
  le _ _ := True
  lt _ _ := False
  le_refl _ := trivial
  le_trans _ _ _ _ _ := trivial
  lt_iff_le_not_ge _ _ := by
    constructor
    · exact False.elim
    · rintro ⟨-, hnot⟩
      exact hnot trivial

end Simulation

namespace Correspondence

variable {S T : Setting} (L : Correspondence S T) {α β γ δ : Type} {w w' : L.World}

/-- The values that correspond. -/
def Values (w : L.World) : Value → Value → Prop := Value.Related (L.closures w)

/-- The lists of values that correspond. -/
def Lists (w : L.World) : List Value → List Value → Prop := List.Forall₂ (L.Values w)

/-- The variables with values that correspond. -/
def Pairs (w : L.World) : List (String × Value) → List (String × Value) → Prop :=
  Entries.Pointwise (L.Values w)

/-- The flows that correspond. -/
def Flows (w : L.World) : Flow → Flow → Prop := Flow.Related (L.Values w)

/-- The results without content. -/
def Nothing (_ : L.World) (_ _ : Unit) : Prop := True

/-- Scripts cannot tell closures apart that correspond. -/
theorem matching (w : L.World) :
  Closure.Matching (L.closures w)
  := by
  constructor
  · intro f g h
    rw [Closure.name, Closure.name, L.closures_decl h]
  · intro f g f' g' h h'
    exact L.closures_same h h'

variable {L}

/-- Values that correspond still do when more is known. -/
theorem values_mono (h : w ≤ w') {v v' : Value} (hv : L.Values w v v') :
  L.Values w' v v'
  := by
  apply hv.mono
  intro f g
  apply L.closures_mono h

/-- Lists of values that correspond still do when more is known. -/
theorem lists_mono (h : w ≤ w') {vs vs' : List Value} (hvs : L.Lists w vs vs') :
  L.Lists w' vs vs'
  := by
  apply hvs.imp
  intro v v'
  apply values_mono h

/-- Pairs that correspond still do when more is known. -/
theorem pairs_mono (h : w ≤ w') {ps ps' : List (String × Value)} (hps : L.Pairs w ps ps') :
  L.Pairs w' ps ps'
  := by
  apply hps.imp
  intro p p' hp
  exact ⟨hp.1, values_mono h hp.2⟩

/-! ### Combinations -/

/-- Answers that agree go together. -/
theorem ofExcept {P : L.World → α → β → Prop} {x : Except Cause α} {y : Except Cause β}
    (h : Agree (P w) x y) :
  L.rel w P (Eval.ofExcept x) (Eval.ofExcept y)
  := by
  cases h with
  | ok h => exact L.pure h
  | error cause => exact L.throw cause

/-- An action for each item of a list goes together with another one if they do for every item. -/
theorem each {P : L.World → β → γ → Prop} {f : α → Eval β} {g : α → Eval γ}
    (hmono : ∀ w w' b c, w ≤ w' → P w b c → P w' b c)
    (h : ∀ w a, L.rel w P (f a) (g a)) (w : L.World) (as : List α) :
  L.rel w (fun w' => List.Forall₂ (P w')) (Action.each f as) (Action.each g as)
  := by
  induction as generalizing w with
  | nil => exact L.pure .nil
  | cons a rest ih =>
    apply L.bind (h w a)
    intro w₁ _ b c hbc
    apply L.bind (ih w₁)
    intro w₂ h₂ bs cs hrest
    exact L.pure (.cons (hmono w₁ w₂ b c h₂ hbc) hrest)

/-- Expressions one after the other go together if expressions do. -/
theorem allValues {eval eval' : Expr → Eval Value}
    (h : ∀ w e, L.rel w L.Values (eval e) (eval' e)) (w : L.World) (es : List Expr) :
  L.rel w L.Lists (Action.each eval es) (Action.each eval' es)
  := by
  apply each
  · intro w w' v v' hw hv
    exact values_mono hw hv
  · exact h

/-- The entries of map literals go together if expressions do. -/
theorem entries {eval eval' : Expr → Eval Value}
    (h : ∀ w e, L.rel w L.Values (eval e) (eval' e)) (w : L.World) (es : List (String × Expr)) :
  L.rel w L.Pairs (Eval.entries eval es) (Eval.entries eval' es)
  := by
  apply each
  · intro w w' p p' hw hp
    exact ⟨hp.1, values_mono hw hp.2⟩
  · intro w entry
    apply L.bind (h w entry.2)
    intro w₁ _ v v' hv
    exact L.pure ⟨rfl, hv⟩

/-- Statements one after the other go together if statements do. -/
theorem sequence {exec exec' : Stmt → Eval Flow} (h : ∀ w s, L.rel w L.Flows (exec s) (exec' s))
    {last last' : Value} (hlast : L.Values w last last') (body : List Stmt) :
  L.rel w L.Flows (Eval.sequence exec last body) (Eval.sequence exec' last' body)
  := by
  induction body generalizing w last last' with
  | nil => exact L.pure (.normal hlast)
  | cons s rest ih =>
    apply L.bind (h w s)
    intro w₁ _ flow flow' hflow
    cases hflow with
    | normal hv => exact ih hv
    | returned hv => exact L.pure (.returned hv)

/-- Loops go together if their parts do, whatever is known in each round. -/
theorem rounds {condition condition' : Eval Bool} {body body' : Eval Flow}
    {update update' : Eval Unit} (hc : ∀ w, L.rel w (fun _ => Eq) condition condition')
    (hb : ∀ w, L.rel w L.Flows body body') (hu : ∀ w, L.rel w L.Nothing update update')
    (w : L.World) (n : Nat) :
  L.rel w L.Flows (Eval.rounds S condition body update n)
    (Eval.rounds T condition' body' update' n)
  := by
  induction n generalizing w with
  | zero => exact L.exhausted
  | succ n ih =>
    apply L.bind (hc w)
    rintro w₁ _ goesOn _ rfl
    cases goesOn with
    | false => exact L.pure (.normal (.atom rfl))
    | true =>
      apply L.bind (L.tick w₁)
      intro w₂ _ _ _ _
      apply L.bind (hb w₂)
      intro w₃ _ flow flow' hflow
      cases hflow with
      | returned hv => exact L.pure (.returned hv)
      | normal hv =>
        apply L.bind (hu w₃)
        intro w₄ _ _ _ _
        exact ih w₄

/-- Loops over values that correspond go together if their bodies do. -/
theorem forEach {body body' : Value → Eval Flow}
    (hb : ∀ w v v', L.Values w v v' → L.rel w L.Flows (body v) (body' v'))
    {vs vs' : List Value} (hvs : L.Lists w vs vs') :
  L.rel w L.Flows (Eval.forEach S body vs) (Eval.forEach T body' vs')
  := by
  induction vs generalizing w vs' with
  | nil =>
    cases hvs
    exact L.pure (.normal (.atom rfl))
  | cons v rest ih =>
    cases hvs with
    | cons hv hrest =>
      apply L.bind (L.tick w)
      intro w₁ h₁ _ _ _
      apply L.bind (hb w₁ _ _ (values_mono h₁ hv))
      intro w₂ h₂ flow flow' hflow
      cases hflow with
      | returned hv => exact L.pure (.returned hv)
      | normal hv => exact ih (lists_mono (le_trans h₁ h₂) hrest)

/-- The items of values that correspond do, or there are none for the same reason. -/
theorem items (span : Span) {v v' : Value} (hv : L.Values w v v') :
  L.rel w L.Lists (Eval.items span v) (Eval.items span v')
  := by
  have hkind := hv.kind_eq
  cases hv with
  | @atom v hatom =>
    cases v <;> first | exact L.located span (L.throw _) | cases hatom
  | list hitems => exact L.pure hitems
  | map => exact L.located span (L.throw _)
  | closure => exact L.located span (L.throw _)

/-- A name is resolved to values that correspond. -/
theorem resolve (w : L.World) (name : String) :
  L.rel w L.Values (Eval.resolve S name) (Eval.resolve T name)
  := by
  apply L.bind (L.get w name)
  intro w₁ _ found found' hfound
  cases hfound with
  | some hv => exact L.pure hv
  | none =>
    simp only [L.builtins name]
    split
    · exact L.pure (.atom rfl)
    · exact L.throw _

/-- Calls by name go together if calls of closures that correspond do. -/
theorem callNamed {call call' : Closure → List Value → Option Span → Eval Value}
    (h : ∀ w f f' args args' span, L.closures w f f' → L.Lists w args args' →
      L.rel w L.Values (call f args span) (call' f' args' span))
    (name : String) {args args' : List Value} (hargs : L.Lists w args args') (span : Span) :
  L.rel w L.Values (Eval.callNamed S call name args span) (Eval.callNamed T call' name args' span)
  := by
  unfold Eval.callNamed
  rw [L.builtins name]
  split
  · exact L.callBuiltin name (some span) hargs
  · apply L.bind (L.get w name)
    intro w₁ h₁ found found' hfound
    cases hfound with
    | none => exact L.throw _
    | @some v v' hv =>
      cases hv with
      | atom hatom =>
        cases v with
        | builtin b => exact L.callBuiltin b (some span) (lists_mono h₁ hargs)
        | _ => first | exact L.throw _ | cases hatom
      | list => exact L.throw _
      | map => exact L.throw _
      | closure hf => exact h w₁ _ _ _ _ _ hf (lists_mono h₁ hargs)

/-- Values that may be missing go together if expressions do. -/
theorem optionalValue {eval eval' : Expr → Eval Value}
    (h : ∀ w e, L.rel w L.Values (eval e) (eval' e)) (w : L.World) (value : Option Expr) :
  L.rel w L.Values (Eval.optionalValue eval value) (Eval.optionalValue eval' value)
  := by
  cases value with
  | none => exact L.pure (.atom rfl)
  | some e => exact h w e

/-- Conditions of loops go together if expressions do. -/
theorem loopCondition {eval eval' : Expr → Eval Value}
    (h : ∀ w e, L.rel w L.Values (eval e) (eval' e)) (w : L.World) (condition : Option Expr) :
  L.rel w (fun _ => Eq) (Eval.loopCondition eval condition) (Eval.loopCondition eval' condition)
  := by
  cases condition with
  | none => exact L.pure rfl
  | some e =>
    apply L.bind (h w e)
    intro w₁ _ v v' hv
    exact L.pure hv.truthy_eq

/-- The last parts of loop headers go together if expressions do. -/
theorem loopUpdate {eval eval' : Expr → Eval Value}
    (h : ∀ w e, L.rel w L.Values (eval e) (eval' e)) (w : L.World) (update : Option LoopUpdate) :
  L.rel w L.Nothing (Eval.loopUpdate eval update) (Eval.loopUpdate eval' update)
  := by
  cases update with
  | none => exact L.pure trivial
  | some update =>
    apply L.bind (h w update.value)
    intro w₁ _ v v' hv
    exact L.assign update.name hv

/-- Expressions go together as long as calls do. -/
theorem succ_expr {n : Nat} (hexpr : ∀ w e, L.rel w L.Values (evalExpr S n e) (evalExpr T n e))
    (hcall : ∀ w f f' args args' span, L.closures w f f' → L.Lists w args args' →
      L.rel w L.Values (callClosure S n f args span) (callClosure T n f' args' span))
    (w : L.World) (e : Expr) :
  L.rel w L.Values (evalExpr S (n + 1) e) (evalExpr T (n + 1) e)
  := by
  cases e with
  | literal span value =>
    apply L.located
    apply L.pure
    cases value <;> exact .atom rfl
  | identifier span name =>
    apply L.located
    exact resolve w name
  | binary span op left right =>
    apply L.located
    apply L.bind (hexpr w left)
    intro w₁ _ l l' hl
    apply L.bind (hexpr w₁ right)
    intro w₂ h₂ r r' hr
    apply ofExcept
    exact op.agree_apply (L.matching w₂) (values_mono h₂ hl) hr
  | unary span op operand =>
    apply L.located
    apply L.bind (hexpr w operand)
    intro w₁ _ v v' hv
    apply ofExcept
    exact op.agree_apply hv
  | call span callee args =>
    apply L.located
    apply L.bind (allValues hexpr w args)
    intro w₁ _ vs vs' hvs
    exact callNamed hcall callee hvs span
  | member span target name =>
    apply L.located
    apply L.bind (hexpr w target)
    intro w₁ _ v v' hv
    apply ofExcept
    exact hv.agree_member name
  | index span target place =>
    apply L.located
    apply L.bind (hexpr w target)
    intro w₁ _ v v' hv
    apply L.bind (hexpr w₁ place)
    intro w₂ h₂ i i' hi
    apply ofExcept
    exact (values_mono h₂ hv).agree_element hi
  | assign span name value =>
    apply L.located
    apply L.bind (hexpr w value)
    intro w₁ _ v v' hv
    apply L.bind (L.assign name hv)
    intro w₂ h₂ _ _ _
    exact L.pure (values_mono h₂ hv)
  | list span items =>
    apply L.located
    apply L.bind (allValues hexpr w items)
    intro w₁ _ vs vs' hvs
    exact L.pure (.list hvs)
  | map span pairs =>
    apply L.located
    apply L.bind (entries hexpr w pairs)
    intro w₁ _ es es' hes
    exact L.pure (.ofEntries hes.ofPairs)

end Correspondence

namespace Simulation

open Correspondence

variable {S T : Setting} {L : Simulation S T} {α β : Type} {w : L.World}

/-! ### Scopes -/

/-- Several variables may be declared with values that correspond. -/
theorem defineAll {ps ps' : List (String × Value)} (h : L.Pairs w ps ps') :
  L.rel w L.Nothing (change fun s => s.defineAll ps) (change fun s => s.defineAll ps')
  := by
  induction ps generalizing w ps' with
  | nil =>
    cases h
    exact L.pure trivial
  | cons p rest ih =>
    cases h with
    | @cons _ p' _ rest' hp hrest =>
      obtain ⟨name, v⟩ := p
      obtain ⟨name', v'⟩ := p'
      obtain ⟨rfl, hv⟩ : name = name' ∧ L.Values w v v' := hp
      -- binding all variables is binding the first one and then the others
      show L.rel w L.Nothing
        (Eval.define name v >>= fun _ => change fun s => s.defineAll rest)
        (Eval.define name v' >>= fun _ => change fun s => s.defineAll rest')
      apply L.bind (L.define name hv)
      intro w₁ h₁ _ _ _
      exact ih (pairs_mono h₁ hrest)

/-- What runs in scopes with values that correspond goes together if the evaluations do, with what
is known there. -/
theorem inScopeWith {P : L.World → α → β → Prop} {a : Eval α} {b : Eval β}
    {ps ps' : List (String × Value)} (hps : L.Pairs w ps ps')
    (h : ∀ w', w ≤ w' → L.rel w' P a b) :
  L.rel w P (Eval.inScopeWith ps a) (Eval.inScopeWith ps' b)
  := by
  apply L.inScope
  intro w₁ h₁
  apply L.bind (defineAll (pairs_mono h₁ hps))
  intro w₂ h₂ _ _ _
  exact h w₂ (le_trans h₁ h₂)

/-- The first parts of loop headers go together if expressions do. -/
theorem loopStart {eval eval' : Expr → Eval Value}
    (h : ∀ w e, L.rel w L.Values (eval e) (eval' e)) (w : L.World) (start : Option LoopStart) :
  L.rel w L.Nothing (Eval.loopStart eval start) (Eval.loopStart eval' start)
  := by
  cases start with
  | none => exact L.pure trivial
  | some start =>
    apply L.bind (h w start.value)
    intro w₁ _ v v' hv
    split
    · exact L.define start.name hv
    · exact L.assign start.name hv

/-! ### Trees -/

/-- With so much fuel, the evaluations of all trees and all calls go together. -/
structure Covers (L : Simulation S T) (n : Nat) : Prop where
  /-- For expressions. -/
  expr : ∀ w e, L.rel w L.Values (evalExpr S n e) (evalExpr T n e)
  /-- For statements. -/
  stmt : ∀ w s, L.rel w L.Flows (execStmt S n s) (execStmt T n s)
  /-- For calls. -/
  call : ∀ w f f' args args' span, L.closures w f f' → L.Lists w args args' →
    L.rel w L.Values (callClosure S n f args span) (callClosure T n f' args' span)

namespace Covers

variable {n : Nat}

/-- Without fuel there is nothing to relate. -/
theorem zero (L : Simulation S T) :
  L.Covers 0
  := by
  constructor
  · intro w e
    exact L.exhausted
  · intro w s
    exact L.exhausted
  · intro w f f' args args' span _ _
    exact L.exhausted

/-- With the same fuel, bodies go together. -/
theorem body (h : L.Covers n) (w : L.World) (b : List Stmt) :
  L.rel w L.Flows (Eval.sequence (execStmt S n) .null b) (Eval.sequence (execStmt T n) .null b)
  := by
  exact sequence h.stmt (.atom rfl) b

/-- With the same fuel, blocks go together. -/
theorem block (h : L.Covers n) (w : L.World) (b : List Stmt) :
  L.rel w L.Flows (Eval.inScope (Eval.sequence (execStmt S n) .null b))
    (Eval.inScope (Eval.sequence (execStmt T n) .null b))
  := by
  apply L.inScope
  intro w₁ _
  exact h.body w₁ b

/-- With the same fuel, blocks that are statements go together. -/
theorem settled (h : L.Covers n) (w : L.World) (b : List Stmt) :
  L.rel w L.Flows
    (Eval.inScope (Eval.sequence (execStmt S n) .null b) >>= fun flow => Pure.pure flow.settle)
    (Eval.inScope (Eval.sequence (execStmt T n) .null b) >>= fun flow => Pure.pure flow.settle)
  := by
  apply L.bind (h.block w b)
  intro w₁ _ flow flow' hflow
  exact L.pure hflow.settle

/-- One more of the fuel lets statements go together, if it does their parts. -/
theorem succ_stmt (h : L.Covers n) (w : L.World) (s : Stmt) :
  L.rel w L.Flows (execStmt S (n + 1) s) (execStmt T (n + 1) s)
  := by
  cases s with
  | block span b =>
    apply L.located
    exact h.settled w b
  | declare span name value =>
    apply L.located
    apply L.bind (optionalValue h.expr w value)
    intro w₁ _ v v' hv
    apply L.bind (L.define name hv)
    intro w₂ _ _ _ _
    exact L.pure (.normal (.atom rfl))
  | function span id name params b =>
    apply L.located
    apply L.bind (L.closeOver w ⟨id, name, params, b, span⟩)
    intro w₁ _ f f' hf
    apply L.bind (L.define name (.closure hf))
    intro w₂ _ _ _ _
    exact L.pure (.normal (.atom rfl))
  | branch span condition yes no =>
    apply L.located
    apply L.bind (h.expr w condition)
    intro w₁ _ v v' hv
    rw [hv.truthy_eq]
    cases v'.truthy with
    | true => exact h.settled w₁ yes
    | false =>
      cases no with
      | none => exact L.pure (.normal (.atom rfl))
      | some b => exact h.settled w₁ b
  | whileLoop span condition b =>
    apply L.located
    apply Correspondence.rounds
    · intro w₁
      exact loopCondition h.expr w₁ (some condition)
    · intro w₁
      exact h.block w₁ b
    · intro w₁
      exact L.pure trivial
  | forIn span name iterable b =>
    apply L.located
    apply L.bind (h.expr w iterable)
    intro w₁ _ v v' hv
    apply L.bind (items iterable.span hv)
    intro w₂ _ vs vs' hvs
    apply forEach _ hvs
    intro w₃ item item' hitem
    have hpair : L.Pairs w₃ [(name, item)] [(name, item')] := .cons ⟨rfl, hitem⟩ .nil
    apply inScopeWith hpair
    intro w₄ _
    exact h.body w₄ b
  | forLoop span start condition update b =>
    apply L.located
    apply L.inScope
    intro w₁ _
    apply L.bind (loopStart h.expr w₁ start)
    intro w₂ _ _ _ _
    apply Correspondence.rounds
    · intro w₃
      exact loopCondition h.expr w₃ condition
    · intro w₃
      exact h.block w₃ b
    · intro w₃
      exact loopUpdate h.expr w₃ update
  | ret span value =>
    apply L.located
    apply L.bind (optionalValue h.expr w value)
    intro w₁ _ v v' hv
    exact L.pure (.returned hv)
  | expression span value =>
    apply L.located
    apply L.bind (h.expr w value)
    intro w₁ _ v v' hv
    exact L.pure (.normal hv)
  | property span name value =>
    apply L.located
    apply L.bind (h.expr w value)
    intro w₁ _ v v' hv
    apply L.bind (L.define name hv)
    intro w₂ _ _ _ _
    exact L.pure (.normal (.atom rfl))
  | handOff span what =>
    apply L.located
    apply L.bind (L.handOff w ⟨span, what⟩)
    intro w₁ _ _ _ _
    exact L.pure (.normal (.atom rfl))

/-- The bodies of closures go together once the environment is that of the call. -/
theorem callBody (h : L.Covers n) {w : L.World} (decl : Function) {args args' : List Value}
    (hargs : L.Lists w args args') :
  L.rel w L.Values
    (do
      change fun s => s.defineAll (Eval.bindParams decl.params args)
      let flow ← Eval.sequence (execStmt S n) .null decl.body
      Pure.pure flow.callResult)
    (do
      change fun s => s.defineAll (Eval.bindParams decl.params args')
      let flow ← Eval.sequence (execStmt T n) .null decl.body
      Pure.pure flow.callResult)
  := by
  apply L.bind (defineAll (pointwise_bindParams decl.params hargs))
  intro w₁ _ _ _ _
  apply L.bind (h.body w₁ decl.body)
  intro w₂ _ flow flow' hflow
  exact L.pure hflow.callResult

/-- One more of the fuel lets calls go together, if it does bodies. -/
theorem succ_call (h : L.Covers n) (w : L.World) (f f' : Closure) (args args' : List Value)
    (span : Option Span) (hf : L.closures w f f') (hargs : L.Lists w args args') :
  L.rel w L.Values (callClosure S (n + 1) f args span) (callClosure T (n + 1) f' args' span)
  := by
  have hdecl := L.closures_decl hf
  rw [callClosure, callClosure, Closure.name, Closure.params, Closure.name, Closure.params, hdecl]
  apply L.inFrame
  intro w₁ h₁
  apply L.inClosure (L.closures_mono h₁ hf)
  intro w₂ h₂
  exact h.callBody f'.decl (lists_mono (le_trans h₁ h₂) hargs)

end Covers

/-- The evaluations of all trees and all calls go together. -/
theorem covers (L : Simulation S T) (n : Nat) :
  L.Covers n
  := by
  induction n with
  | zero => apply Covers.zero
  | succ n ih =>
    constructor
    · apply succ_expr ih.expr ih.call
    · apply ih.succ_stmt
    · apply ih.succ_call

/-! ### What the host starts -/

/-- Every body goes together with itself under the other setting. -/
theorem execAll (L : Simulation S T) (n : Nat) (w : L.World) (body : List Stmt) :
  L.rel w L.Flows (StoryScript.execAll S n body) (StoryScript.execAll T n body)
  := by
  exact (L.covers n).body w body

/-- Every block goes together with itself under the other setting. -/
theorem execBlock (L : Simulation S T) (n : Nat) (w : L.World) (body : List Stmt) :
  L.rel w L.Flows (StoryScript.execBlock S n body) (StoryScript.execBlock T n body)
  := by
  exact (L.covers n).block w body

/-- Every program goes together with itself under the other setting. -/
theorem evalProgram (L : Simulation S T) (n : Nat) (w : L.World) (p : Program) :
  L.rel w L.Values (StoryScript.evalProgram S n p) (StoryScript.evalProgram T n p)
  := by
  apply L.bind (L.execAll n w p.statements)
  intro w₁ _ flow flow' hflow
  exact L.pure hflow.value

/-- Calls of values that correspond go together; what cannot be called fails in both runs. -/
theorem callValue (L : Simulation S T) (n : Nat) {w : L.World} {callee callee' : Value}
    (hcallee : L.Values w callee callee') {args args' : List Value}
    (hargs : L.Lists w args args') :
  L.rel w L.Values (StoryScript.callValue S n callee args)
    (StoryScript.callValue T n callee' args')
  := by
  cases hcallee with
  | atom hatom =>
    cases callee with
    | builtin name => exact L.callBuiltin name none hargs
    | _ => first | exact L.throw _ | cases hatom
  | list => exact L.throw _
  | map => exact L.throw _
  | closure hf => exact (L.covers n).call w _ _ _ _ none hf hargs

/-- Runs of a handler on arguments that correspond go together. -/
theorem runHandler (L : Simulation S T) (n : Nat) {w : L.World} (h : Handler)
    {args args' : List Value} (hargs : L.Lists w args args') :
  L.rel w L.Values (StoryScript.runHandler S n h args) (StoryScript.runHandler T n h args')
  := by
  rw [runHandler_eq, runHandler_eq]
  apply L.inFrame
  intro w₁ h₁
  have hpairs : L.Pairs w₁ (bindParams h.params args) (bindParams h.params args') :=
    pointwise_bindParams h.params (lists_mono h₁ hargs)
  have hbody : L.rel w₁ L.Flows (execWith S n (bindParams h.params args) h.body)
      (execWith T n (bindParams h.params args') h.body) := by
    apply inScopeWith hpairs
    intro w₂ _
    exact L.execAll n w₂ h.body
  apply L.bind hbody
  intro w₂ _ flow flow' hflow
  exact L.pure hflow.callResult

end Simulation

end StoryScript
