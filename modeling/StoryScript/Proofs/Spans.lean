import StoryScript.Proofs.Simulation
import StoryScript.Proofs.SpanBlind
import StoryScript.Run

/-!
# Spans do not matter

Two evaluations go together when they end the same way from respanned states, with values, errors
and states that correspond.  The parts of the machine go together, because they look at no span but
to put it into an error or a frame.  From them it follows, by induction on the fuel, that respanned
trees and the calls of respanned closures go together; a simulation does not show this, since it
runs one tree on both sides.  Main statement: the runs of respanned programs correspond, and only
the places in their errors and the spans in their frames may differ.
-/

namespace StoryScript

open Eval

/-! ### Evaluations that go together -/

namespace Outcome.Paired

variable {σ ε α β : Type} {Q Q' : σ → σ → Prop} {E E' : ε → ε → Prop} {P : α → β → Prop}
  {o : Outcome σ ε α} {o' : Outcome σ ε β}

/-- Outcomes that are paired stay so after errors are learned and states are cleaned up alike. -/
theorem treated {learn learn' : σ → ε → ε} {cleanup cleanup' : σ → σ} (h : Paired Q E P o o')
    (hlearn : ∀ t t' e e', Q t t' → E e e' → E' (learn t e) (learn' t' e'))
    (hclean : ∀ t t', Q t t' → Q' (cleanup t) (cleanup' t')) :
  Paired Q' E' P (o.treated learn cleanup) (o'.treated learn' cleanup')
  := by
  cases h with
  | done ht hv => exact .done (hclean _ _ ht) hv
  | failed ht he => exact .failed (hclean _ _ ht) (hlearn _ _ _ _ ht he)
  | outOfFuel => exact .outOfFuel

end Outcome.Paired

/-- From respanned states the evaluations end the same way, in respanned states. -/
def Together {α β : Type} (P : α → β → Prop) (a : Eval α) (b : Eval β) : Prop :=
  ∀ s t, s.Respanned t → (a s).Paired State.Respanned Error.Respanned P (b t)

/-- The flows of statements that go together. -/
abbrev Flow.Respanned : Flow → Flow → Prop := Flow.Related Value.Respanned

namespace Together

variable {S T : Setting} {α β γ δ : Type} {P : α → β → Prop} {Q : γ → δ → Prop}

/-- Related values by themselves go together. -/
theorem pure {a : α} {b : β} (h : P a b) :
  Together P (pure a) (pure b)
  := by
  intro s t hst
  exact .done hst h

/-- The same error goes together with itself. -/
theorem throw (cause : Cause) :
  Together P (throw cause) (throw cause)
  := by
  intro s t hst
  exact .failed hst (.refl _)

theorem exhausted :
  Together P Action.exhausted Action.exhausted
  := by
  intro s t hst
  exact .outOfFuel

/-- Sequences go together if the first actions do, and the second ones on related values. -/
theorem bind {a : Eval α} {b : Eval β} {f : α → Eval γ} {g : β → Eval δ} (h : Together P a b)
    (hfg : ∀ x y, P x y → Together Q (f x) (g y)) :
  Together Q (a >>= f) (b >>= g)
  := by
  intro s t hst
  have hab := h s t hst
  rw [Action.bind_apply, Action.bind_apply]
  generalize a s = o, b t = o' at hab
  cases hab with
  | done ht hv => exact hfg _ _ hv _ _ ht
  | failed ht he => exact .failed ht he
  | outOfFuel => exact .outOfFuel

/-- Answers that agree go together. -/
theorem ofExcept {x : Except Cause α} {y : Except Cause β} (h : Agree P x y) :
  Together P (Eval.ofExcept x) (Eval.ofExcept y)
  := by
  cases h with
  | ok h => exact pure h
  | error cause => exact throw cause

/-- The places may differ. -/
theorem located {a : Eval α} {b : Eval β} (span span' : Span) (h : Together P a b) :
  Together P (located span a) (located span' b)
  := by
  intro s t hst
  rw [located_apply, located_apply]
  apply (h s t hst).treated
  · intro t t' e e' _ he
    exact he.orSpan span span'
  · intro t t' ht
    exact ht

/-- A checkpoint in a loop is passed or fails in both runs, as there is no deadline. -/
theorem tick (hST : S.Untimed T) :
  Together (fun _ _ => True) (tick S) (tick T)
  := by
  intro s t hst
  rw [tick_apply, tick_apply, hST.roundVerdict_eq, hst.budget, hst.runs_eq]
  cases t.budget.counted.roundVerdict T.limits T.clock t.scene.host.runs with
  | none => exact .done hst.ticked trivial
  | some why => exact .failed hst.ticked (.refl _)

/-- A variable has related values in states that correspond. -/
theorem get (name : String) :
  Together (Option.Rel Value.Respanned) (Action.gets fun s => s.scene.get? name)
    (Action.gets fun s => s.scene.get? name)
  := by
  intro s t hst
  exact .done hst (hst.get? name)

/-- A variable may be declared with related values. -/
theorem define (name : String) {v v' : Value} (hv : v.Respanned v') :
  Together (fun _ _ => True) (define name v) (define name v')
  := by
  intro s t hst
  exact .done (hst.defined name hv) trivial

/-- A variable may be assigned related values: it is there in both states or in neither. -/
theorem assign (name : String) {v v' : Value} (hv : v.Respanned v') :
  Together (fun _ _ => True) (assign name v) (assign name v')
  := by
  intro s t hst
  obtain ⟨hassigned, hfound⟩ := hst.assigned name hv
  rw [assign_apply, assign_apply, hfound]
  split
  · exact .done hassigned trivial
  · exact .failed hassigned (.refl _)

/-- What runs in new scopes goes together if the evaluations do. -/
theorem inScope {a : Eval α} {b : Eval β} (h : Together P a b) :
  Together P (inScope a) (inScope b)
  := by
  intro s t hst
  rw [inScope_apply, inScope_apply]
  apply (h _ _ hst.pushed).treated
  · intro t t' e e' _ he
    exact he
  · intro t t' ht
    exact ht.popped

/-- The spans of the frames may differ. -/
theorem inFrame (hST : S.Untimed T) {frame frame' : Frame} (hname : frame.name = frame'.name)
    {a : Eval α} {b : Eval β} (h : Together P a b) :
  Together P (inFrame S frame a) (inFrame T frame' b)
  := by
  intro s t hst
  rw [inFrame_apply, inFrame_apply, hST.callVerdict_eq, hst.budget, hst.runs_eq]
  cases t.budget.callVerdict T.limits T.clock t.scene.host.runs with
  | some why => exact .failed hst.checked (.refl _)
  | none =>
    have hpush := hst.calls.push hname
    dsimp only
    generalize s.calls.push frame = x, t.calls.push frame' = y at hpush
    cases hpush with
    | error cause => exact .failed hst.checked (.refl _)
    | ok hcalls =>
      apply (h _ _ (hst.checked.entered hcalls)).treated
      · intro t t' e e' ht he
        exact ht.calls.attach he
      · intro t t' ht
        exact ht.left

/-- What runs in related closures goes together if the evaluations do: the closures have the same
scopes. -/
theorem inClosure {f g : Closure} (hf : f.Respanned g) {a : Eval α} {b : Eval β}
    (h : Together P a b) :
  Together P (inClosure f a) (inClosure g b)
  := by
  intro s t hst
  rw [inClosure_apply, inClosure_apply, hst.env_eq]
  apply (h _ _ (hst.inside hf)).treated
  · intro t t' e e' _ he
    exact he
  · intro t' t'' ht
    exact ht.within t.env

/-- Closures over related declarations are related, as the current scopes are the same. -/
theorem closeOver {decl decl' : Function} (h : decl.Respanned decl') :
  Together Closure.Respanned (closeOver decl) (closeOver decl')
  := by
  intro s t hst
  refine .done hst ⟨h, ?_, ?_⟩
  · exact congrArg Environment.current hst.env_eq
  · exact congrArg Environment.global hst.env_eq

/-- The sink does the same with declarations that correspond. -/
theorem handOff (hST : S.Untimed T) {d d' : HandedOff} (h : d.Respanned d') :
  Together (fun _ _ => True) (handOff S d) (handOff T d')
  := by
  intro s t hst
  obtain ⟨hlog, hreply⟩ := S.sink.respanned_receive s.scene.context.script h hst.scene.host.log
  rw [handOff_apply, handOff_apply, ← hST.sink, ← hst.script_eq, hreply]
  split
  · exact .done (hst.logged hlog) trivial
  · exact .failed (hst.logged hlog) (.refl _)

/-- A built-in that is blind to spans does the same with related arguments. -/
theorem dispatch (hS : S.builtins.SpanBlind) (name : String) {args args' : List Value}
    (hargs : List.Forall₂ Value.Respanned args args') :
  Together Value.Respanned (onScene (S.builtins.dispatch name args))
    (onScene (S.builtins.dispatch name args'))
  := by
  intro s t hst
  rw [onScene_apply, onScene_apply]
  unfold Builtins.dispatch
  cases hf : Entries.get? name S.builtins with
  | none => exact .failed hst (.refl _)
  | some f =>
    have hblind : Builtin.SpanBlind f := hS _ (Entries.mem_of_get? hf)
    have hends := hblind args args' _ _ hargs hst.scene
    dsimp only
    rw [Action.mapError_apply, Action.mapError_apply]
    generalize f args s.scene = o, f args' t.scene = o' at hends
    cases hends with
    | done hscene hv => exact .done ⟨hscene, hst.budget⟩ hv
    | failed hscene he =>
      subst he
      exact .failed ⟨hscene, hst.budget⟩ (.refl _)
    | outOfFuel => exact .outOfFuel

/-- A call of such a built-in goes together with itself, whatever the spans of its frames. -/
theorem callBuiltin (hST : S.Untimed T) (hS : S.builtins.SpanBlind) (name : String)
    {args args' : List Value} (hargs : List.Forall₂ Value.Respanned args args')
    (span span' : Option Span) :
  Together Value.Respanned (callBuiltin S name args span) (callBuiltin T name args' span')
  := by
  unfold Eval.callBuiltin
  rw [← hST.builtins]
  apply inFrame hST
  · rfl
  · exact dispatch hS name hargs

/-! ### Combinations -/

/-- Values that correspond, one by one. -/
abbrev Lists : List Value → List Value → Prop := List.Forall₂ Value.Respanned

/-- Variables with values that correspond. -/
abbrev Pairs : List (String × Value) → List (String × Value) → Prop :=
  Entries.Pointwise Value.Respanned

/-- Actions for the items of two lists go together if they do for related items. -/
theorem each {ι κ : Type} {R : ι → κ → Prop} {f : ι → Eval α} {g : κ → Eval β}
    (h : ∀ i k, R i k → Together P (f i) (g k)) {is : List ι} {ks : List κ}
    (his : List.Forall₂ R is ks) :
  Together (List.Forall₂ P) (Action.each f is) (Action.each g ks)
  := by
  induction his with
  | nil => exact pure .nil
  | cons hik _ ih =>
    apply bind (h _ _ hik)
    intro x y hxy
    apply bind ih
    intro xs ys hrest
    exact pure (.cons hxy hrest)

/-- Several names may be declared with related values. -/
theorem defineAll {ps ps' : List (String × Value)} (h : Pairs ps ps') :
  Together (fun _ _ => True) (change fun s => s.defineAll ps) (change fun s => s.defineAll ps')
  := by
  induction h with
  | nil => exact pure trivial
  | @cons p p' rest rest' hp _ ih =>
    obtain ⟨name, v⟩ := p
    obtain ⟨name', v'⟩ := p'
    obtain ⟨rfl, hv⟩ : name = name' ∧ v.Respanned v' := hp
    -- binding all variables is binding the first one and then the others
    show Together _ (Eval.define name v >>= fun _ => change fun s => s.defineAll rest)
      (Eval.define name v' >>= fun _ => change fun s => s.defineAll rest')
    apply bind (define name hv)
    intro _ _ _
    exact ih

/-- What runs in scopes with related values goes together if the evaluations do. -/
theorem inScopeWith {ps ps' : List (String × Value)} (hps : Pairs ps ps') {a : Eval α}
    {b : Eval β} (h : Together P a b) :
  Together P (inScopeWith ps a) (inScopeWith ps' b)
  := by
  apply inScope
  apply bind (defineAll hps)
  intro _ _ _
  exact h

/-- Bodies that differ in spans go together if their statements do. -/
theorem sequence {exec exec' : Stmt → Eval Flow}
    (h : ∀ s s', s.Respanned s' → Together Flow.Respanned (exec s) (exec' s'))
    {body body' : List Stmt} (hbody : Stmt.AllRespanned body body') {last last' : Value}
    (hlast : last.Respanned last') :
  Together Flow.Respanned (sequence exec last body) (sequence exec' last' body')
  := by
  induction hbody generalizing last last' with
  | nil => exact pure (.normal hlast)
  | cons hs _ ih =>
    apply bind (h _ _ hs)
    intro flow flow' hflow
    cases hflow with
    | normal hv => exact ih hv
    | returned hv => exact pure (.returned hv)

/-- Loops go together if their parts do; the rounds are counted alike. -/
theorem rounds (hST : S.Untimed T) {condition condition' : Eval Bool} {body body' : Eval Flow}
    {update update' : Eval Unit} (hc : Together Eq condition condition')
    (hb : Together Flow.Respanned body body') (hu : Together (fun _ _ => True) update update')
    (n : Nat) :
  Together Flow.Respanned (rounds S condition body update n) (rounds T condition' body' update' n)
  := by
  induction n with
  | zero => exact exhausted
  | succ n ih =>
    apply bind hc
    rintro goesOn _ rfl
    cases goesOn with
    | false => exact pure (.normal (.atom rfl))
    | true =>
      apply bind (tick hST)
      intro _ _ _
      apply bind hb
      intro flow flow' hflow
      cases hflow with
      | returned hv => exact pure (.returned hv)
      | normal hv =>
        apply bind hu
        intro _ _ _
        exact ih

/-- Loops over related values go together if their bodies do. -/
theorem forEach (hST : S.Untimed T) {body body' : Value → Eval Flow}
    (hb : ∀ v v', v.Respanned v' → Together Flow.Respanned (body v) (body' v'))
    {vs vs' : List Value} (hvs : Lists vs vs') :
  Together Flow.Respanned (forEach S body vs) (forEach T body' vs')
  := by
  induction hvs with
  | nil => exact pure (.normal (.atom rfl))
  | cons hv _ ih =>
    apply bind (tick hST)
    intro _ _ _
    apply bind (hb _ _ hv)
    intro flow flow' hflow
    cases hflow with
    | returned hv => exact pure (.returned hv)
    | normal hv => exact ih

/-- Related values have related items, or fail for the same reason at their own places. -/
theorem items (span span' : Span) {v v' : Value} (hv : v.Respanned v') :
  Together Lists (items span v) (items span' v')
  := by
  cases hv with
  | @atom v hatom =>
    cases v <;> first | exact located span span' (throw _) | cases hatom
  | list hitems => exact pure hitems
  | map => exact located span span' (throw _)
  | closure => exact located span span' (throw _)

/-- A name is resolved to related values: a variable, or the built-in of that name. -/
theorem resolve (hST : S.Untimed T) (name : String) :
  Together Value.Respanned (resolve S name) (resolve T name)
  := by
  apply bind (get name)
  intro found found' hfound
  cases hfound with
  | some hv => exact pure hv
  | none =>
    rw [← hST.builtins]
    dsimp only
    split
    · exact pure (.atom rfl)
    · exact throw _

/-- Calls by the same name go together if calls of related closures do. -/
theorem callNamed (hST : S.Untimed T) (hS : S.builtins.SpanBlind)
    {call call' : Closure → List Value → Option Span → Eval Value}
    (h : ∀ f f' args args' span span', f.Respanned f' → Lists args args' →
      Together Value.Respanned (call f args span) (call' f' args' span'))
    (name : String) {args args' : List Value} (hargs : Lists args args') (span span' : Span) :
  Together Value.Respanned (callNamed S call name args span) (callNamed T call' name args' span')
  := by
  unfold Eval.callNamed
  rw [← hST.builtins]
  split
  · exact callBuiltin hST hS name hargs _ _
  · apply bind (get name)
    intro found found' hfound
    cases hfound with
    | none => exact throw _
    | @some v v' hv =>
      cases hv with
      | atom hatom =>
        cases v with
        | builtin b => exact callBuiltin hST hS b hargs _ _
        | _ => first | exact throw _ | cases hatom
      | list => exact throw _
      | map => exact throw _
      | closure hf => exact h _ _ _ _ _ _ hf hargs

/-! ### Trees -/

/-- With so much fuel, the evaluations of respanned trees and the calls of respanned closures go
together. -/
structure Upto (S T : Setting) (n : Nat) : Prop where
  /-- For expressions. -/
  expr : ∀ e e', e.Respanned e' → Together Value.Respanned (evalExpr S n e) (evalExpr T n e')
  /-- For statements. -/
  stmt : ∀ s s', s.Respanned s' → Together Flow.Respanned (execStmt S n s) (execStmt T n s')
  /-- For calls. -/
  call : ∀ f f' args args' span span', f.Respanned f' → Lists args args' →
    Together Value.Respanned (callClosure S n f args span) (callClosure T n f' args' span')

namespace Upto

variable {n : Nat}

/-- Without fuel nothing is answered by either run. -/
theorem zero (S T : Setting) :
  Upto S T 0
  := by
  constructor
  · intro e e' _
    exact exhausted
  · intro s s' _
    exact exhausted
  · intro f f' args args' span span' _ _
    exact exhausted

/-- With the same fuel, bodies that differ in spans go together. -/
theorem body (h : Upto S T n) {b b' : List Stmt} (hb : Stmt.AllRespanned b b') :
  Together Flow.Respanned (execAll S n b) (execAll T n b')
  := by
  exact sequence h.stmt hb (.atom rfl)

/-- With the same fuel, blocks that differ in spans go together. -/
theorem settled (h : Upto S T n) {b b' : List Stmt} (hb : Stmt.AllRespanned b b') :
  Together Flow.Respanned
    (Eval.inScope (execAll S n b) >>= fun flow => Pure.pure flow.settle)
    (Eval.inScope (execAll T n b') >>= fun flow => Pure.pure flow.settle)
  := by
  apply bind (inScope (h.body hb))
  intro flow flow' hflow
  exact pure hflow.settle

/-- With the same fuel, expressions that may be missing go together. -/
theorem optionalValue (h : Upto S T n) {e e' : Option Expr}
    (he : Option.Rel Expr.Respanned e e') :
  Together Value.Respanned (Eval.optionalValue (evalExpr S n) e)
    (Eval.optionalValue (evalExpr T n) e')
  := by
  cases he with
  | none => exact pure (.atom rfl)
  | some he => exact h.expr _ _ he

/-- With the same fuel, conditions of loops go together, and they are true or false alike. -/
theorem loopCondition (h : Upto S T n) {c c' : Option Expr}
    (hc : Option.Rel Expr.Respanned c c') :
  Together Eq (Eval.loopCondition (evalExpr S n) c) (Eval.loopCondition (evalExpr T n) c')
  := by
  cases hc with
  | none => exact pure rfl
  | some hc =>
    apply bind (h.expr _ _ hc)
    intro v v' hv
    exact pure hv.truthy_eq

/-- With the same fuel, the first parts of loop headers go together. -/
theorem loopStart (h : Upto S T n) {start start' : Option LoopStart}
    (hstart : Option.Rel LoopStart.Respanned start start') :
  Together (fun _ _ => True) (Eval.loopStart (evalExpr S n) start)
    (Eval.loopStart (evalExpr T n) start')
  := by
  cases hstart with
  | none => exact pure trivial
  | @some start start' hstart =>
    apply bind (h.expr _ _ hstart.value)
    intro v v' hv
    rw [hstart.declares, hstart.name]
    split
    · exact define start'.name hv
    · exact assign start'.name hv

/-- With the same fuel, the last parts of loop headers go together. -/
theorem loopUpdate (h : Upto S T n) {update update' : Option LoopUpdate}
    (hupdate : Option.Rel LoopUpdate.Respanned update update') :
  Together (fun _ _ => True) (Eval.loopUpdate (evalExpr S n) update)
    (Eval.loopUpdate (evalExpr T n) update')
  := by
  cases hupdate with
  | none => exact pure trivial
  | @some update update' hupdate =>
    apply bind (h.expr _ _ hupdate.value)
    intro v v' hv
    rw [hupdate.name]
    exact assign update'.name hv

/-- With the same fuel, the entries of map literals go together. -/
theorem entries (h : Upto S T n) {es es' : List (String × Expr)}
    (hes : Entries.Pointwise Expr.Respanned es es') :
  Together Pairs (Eval.entries (evalExpr S n) es) (Eval.entries (evalExpr T n) es')
  := by
  apply each _ hes
  intro entry entry' hentry
  apply bind (h.expr _ _ hentry.2)
  intro v v' hv
  exact pure ⟨hentry.1, hv⟩

/-- One more of the fuel lets expressions go together, if it does their parts. -/
theorem succ_expr (hST : S.Untimed T) (hS : S.builtins.SpanBlind) (h : Upto S T n)
    {e e' : Expr} (he : e.Respanned e') :
  Together Value.Respanned (evalExpr S (n + 1) e) (evalExpr T (n + 1) e')
  := by
  cases he with
  | literal => exact located _ _ (pure (.refl _))
  | identifier => exact located _ _ (resolve hST _)
  | binary hl hr =>
    apply located
    apply bind (h.expr _ _ hl)
    intro l l' hl
    apply bind (h.expr _ _ hr)
    intro r r' hr
    apply ofExcept
    exact BinaryOp.agree_apply _ Closure.Respanned.matching hl hr
  | unary he =>
    apply located
    apply bind (h.expr _ _ he)
    intro v v' hv
    apply ofExcept
    exact UnaryOp.agree_apply _ hv
  | call hargs =>
    apply located
    apply bind (each h.expr hargs)
    intro vs vs' hvs
    exact callNamed hST hS h.call _ hvs _ _
  | member he =>
    apply located
    apply bind (h.expr _ _ he)
    intro v v' hv
    apply ofExcept
    exact hv.agree_member _
  | index he hi =>
    apply located
    apply bind (h.expr _ _ he)
    intro v v' hv
    apply bind (h.expr _ _ hi)
    intro i i' hi
    apply ofExcept
    exact hv.agree_element hi
  | assign he =>
    apply located
    apply bind (h.expr _ _ he)
    intro v v' hv
    apply bind (assign _ hv)
    intro _ _ _
    exact pure hv
  | list hitems =>
    apply located
    apply bind (each h.expr hitems)
    intro vs vs' hvs
    exact pure (.list hvs)
  | map hkeys hvalues =>
    apply located
    apply bind (h.entries ((Entries.Pointwise.iff_keys_and_values _ _).mpr ⟨hkeys, hvalues⟩))
    intro es es' hes
    exact pure (.ofEntries hes.ofPairs)

/-- One more of the fuel lets statements go together, if it does their parts. -/
theorem succ_stmt (hST : S.Untimed T) (h : Upto S T n) {s s' : Stmt} (hs : s.Respanned s') :
  Together Flow.Respanned (execStmt S (n + 1) s) (execStmt T (n + 1) s')
  := by
  cases hs with
  | block hb =>
    apply located
    exact h.settled hb
  | declare he =>
    apply located
    apply bind (h.optionalValue he)
    intro v v' hv
    apply bind (define _ hv)
    intro _ _ _
    exact pure (.normal (.atom rfl))
  | @function span span' id name params b b' hb =>
    have hdecl : Function.Respanned ⟨id, name, params, b, span⟩ ⟨id, name, params, b', span'⟩ :=
      ⟨rfl, rfl, rfl, hb⟩
    apply located
    apply bind (closeOver hdecl)
    intro f f' hf
    apply bind (define _ (.closure hf))
    intro _ _ _
    exact pure (.normal (.atom rfl))
  | branch hc hyes hno =>
    apply located
    apply bind (h.expr _ _ hc)
    intro v v' hv
    rw [hv.truthy_eq]
    cases v'.truthy with
    | true => exact h.settled hyes
    | false =>
      cases hno with
      | none => exact pure (.normal (.atom rfl))
      | some hb => exact h.settled hb
  | whileLoop hc hb =>
    apply located
    apply rounds hST
    · exact h.loopCondition (.some hc)
    · exact inScope (h.body hb)
    · exact pure trivial
  | @forIn _ _ name _ _ _ _ he hb =>
    apply located
    apply bind (h.expr _ _ he)
    intro v v' hv
    apply bind (items _ _ hv)
    intro vs vs' hvs
    apply forEach hST _ hvs
    intro item item' hitem
    have hpair : Pairs [(name, item)] [(name, item')] := .cons ⟨rfl, hitem⟩ .nil
    apply inScopeWith hpair
    exact h.body hb
  | forLoop hstart hc hupdate hb =>
    apply located
    apply inScope
    apply bind (h.loopStart hstart)
    intro _ _ _
    apply rounds hST
    · exact h.loopCondition hc
    · exact inScope (h.body hb)
    · exact h.loopUpdate hupdate
  | ret he =>
    apply located
    apply bind (h.optionalValue he)
    intro v v' hv
    exact pure (.returned hv)
  | expression he =>
    apply located
    apply bind (h.expr _ _ he)
    intro v v' hv
    exact pure (.normal hv)
  | property he =>
    apply located
    apply bind (h.expr _ _ he)
    intro v v' hv
    apply bind (define _ hv)
    intro _ _ _
    exact pure (.normal (.atom rfl))
  | @handOff span span' what what' hwhat =>
    have hd : HandedOff.Respanned ⟨span, what⟩ ⟨span', what'⟩ := hwhat
    apply located
    apply bind (handOff hST hd)
    intro _ _ _
    exact pure (.normal (.atom rfl))

/-- One more of the fuel lets calls go together, if it does the bodies of the functions. -/
theorem succ_call (hST : S.Untimed T) (h : Upto S T n) {f f' : Closure} (hf : f.Respanned f')
    {args args' : List Value} (hargs : Lists args args') (span span' : Option Span) :
  Together Value.Respanned (callClosure S (n + 1) f args span)
    (callClosure T (n + 1) f' args' span')
  := by
  rw [callClosure, callClosure, Closure.params, Closure.params, hf.decl.params]
  apply inFrame hST hf.decl.name
  apply inClosure hf
  apply bind (defineAll (pointwise_bindParams _ hargs))
  intro _ _ _
  apply bind (h.body hf.decl.body)
  intro flow flow' hflow
  exact pure hflow.callResult

end Upto

/-- Respanned trees and the calls of respanned closures go together. -/
theorem upto (hST : S.Untimed T) (hS : S.builtins.SpanBlind) (n : Nat) :
  Upto S T n
  := by
  -- corresponding nodes take the same fuel on both sides
  induction n with
  | zero => apply Upto.zero
  | succ n ih =>
    constructor
    · intro e e' he
      exact ih.succ_expr hST hS he
    · intro s s' hs
      exact ih.succ_stmt hST hs
    · intro f f' args args' span span' hf hargs
      exact ih.succ_call hST hf hargs span span'

/-- Programs that differ in spans go together. -/
theorem evalProgram (hST : S.Untimed T) (hS : S.builtins.SpanBlind) (n : Nat) {p q : Program}
    (hpq : p.Respanned q) :
  Together Value.Respanned (evalProgram S n p) (evalProgram T n q)
  := by
  apply bind ((upto hST hS n).body hpq)
  intro flow flow' hflow
  exact pure hflow.value

end Together

/-! ### Runs -/

namespace Scene.Respanned

variable {s t : Scene}

/-- Runs that start from scenes that correspond start in states that do. -/
theorem runState (h : s.Respanned t) (limits : Limits) :
  (s.runState limits).Respanned (t.runState limits)
  := by
  constructor
  · constructor
    · exact { h.context with calls := ⟨h.context.calls.names, rfl⟩ }
    · refine { h.host with runs := ?_ }
      show s.host.runs.start s.context.script = t.host.runs.start t.context.script
      rw [h.host.runs, h.context.script]
  · show Budget.fresh (some s.host.runs.next) = Budget.fresh (some t.host.runs.next)
    rw [h.host.runs]

/-- The ends of such runs correspond. -/
theorem endRun (h : s.Respanned t) (script : ScriptId) :
  (s.endRun script).Respanned (t.endRun script)
  := by
  constructor
  · exact h.context
  · exact { h.host with runs := congrArg (Runs.finish · script) h.host.runs }

end Scene.Respanned

/-- Guarded runs of evaluations that go together end the same way, in scenes that correspond. -/
theorem Together.guarded {S T : Setting} (hST : S.Untimed T) {α β : Type} {P : α → β → Prop}
    {a : Eval α} {b : Eval β} (hab : Together P a b) {scene scene' : Scene}
    (h : scene.Respanned scene') :
  (guarded S a scene).Paired Scene.Respanned Error.Respanned P (guarded T b scene')
  := by
  unfold StoryScript.guarded
  rw [h.host.runs, h.context.script, ← hST.limits]
  cases scene'.host.runs.mayStart scene'.context.script with
  | error cause => exact .failed h (.refl _)
  | ok =>
    have hrun := hab _ _ (h.runState S.limits)
    dsimp only
    generalize a (scene.runState S.limits) = o, b (scene'.runState S.limits) = o' at hrun
    cases hrun with
    | done ht hv => exact .done (ht.scene.endRun _) hv
    | failed ht he => exact .failed (ht.scene.endRun _) he
    | outOfFuel => exact .outOfFuel

/-- Spans do not matter.  Programs that differ at most in their spans, run on the same context
without a deadline and with built-ins that are blind to spans, both succeed, both fail, or both
need more fuel.  Their values correspond, they print the same, and the scopes after them
correspond.  Their errors have the same cause and come from calls with the same names. -/
theorem spans_do_not_matter {S T : Setting} (hST : S.Untimed T) (hS : S.builtins.SpanBlind)
    {p q : Program} (hpq : p.Respanned q) (scene : Scene) (n : Nat) :
  (execute S n p scene).Paired Scene.Respanned Error.Respanned Value.Respanned
    (execute T n q scene)
  := by
  apply Together.guarded hST
  · exact Together.evalProgram hST hS n hpq
  · apply Scene.Respanned.refl

/-- A program that prints a list with a function in it and then fails in that function, with
spans that are given. -/
def failing (outer inner : Span) : Program :=
  ⟨[.function outer 0 "f" [] [.expression inner (.binary inner .add (.literal inner .null)
      (.literal outer (.int 1)))],
    .expression outer (.call outer "print" [.list inner [.identifier inner "f"]]),
    .expression inner (.call outer "f" [])]⟩

/-- The standard setting with a clock that goes on. -/
def clocked : Setting := { Standard.setting .standard with clock := id }

/-- With or without places, the same is printed, and the failure is the same but for the places. -/
theorem failing_anywhere :
  (Standard.setting .standard).Untimed clocked
    ∧ (Standard.setting .standard).builtins.SpanBlind
    ∧ (failing .dummy .dummy).Respanned (failing ⟨3, 5⟩ ⟨7, 9⟩)
    ∧ ∃ e t e' t',
        execute (Standard.setting .standard) 8 (failing .dummy .dummy)
            (Scene.enter (Host.initial .buffer) "main") = .failed e t
          ∧ execute clocked 8 (failing ⟨3, 5⟩ ⟨7, 9⟩)
            (Scene.enter (Host.initial .buffer) "main") = .failed e' t'
          ∧ e.span = none ∧ e'.span = some ⟨7, 9⟩
          ∧ e.cause = e'.cause
          ∧ e'.backtrace.map Backtrace.names = some ["f"]
          ∧ t.Respanned t'
          ∧ t'.host.console.lines = #["[<fn f>]"]
  := by
  have hclock : (Standard.setting .standard).Untimed clocked := ⟨rfl, rfl, rfl, rfl⟩
  have hS : (Standard.setting .standard).builtins.SpanBlind := Standard.spanBlind
  have hpq : (failing .dummy .dummy).Respanned (failing ⟨3, 5⟩ ⟨7, 9⟩) :=
    .cons (.function (.cons (.expression (.binary .literal .literal)) .nil))
      (.cons (.expression (.call (.cons (.list (.cons .identifier .nil)) .nil)))
        (.cons (.expression (.call .nil)) .nil))
  have hruns := spans_do_not_matter hclock hS hpq (Scene.enter (Host.initial .buffer) "main") 8
  refine ⟨hclock, hS, hpq, ?_⟩
  have hrun : ∃ e t, execute (Standard.setting .standard) 8 (failing .dummy .dummy)
      (Scene.enter (Host.initial .buffer) "main") = .failed e t
      ∧ e.span = none ∧ e.backtrace.map Backtrace.names = some ["f"]
      ∧ t.host.console.lines = #["[<fn f>]"] := ⟨_, _, rfl, rfl, rfl, rfl⟩
  have hrun' : ∃ e t, execute clocked 8 (failing ⟨3, 5⟩ ⟨7, 9⟩)
      (Scene.enter (Host.initial .buffer) "main") = .failed e t
      ∧ e.span = some ⟨7, 9⟩ := ⟨_, _, rfl, rfl⟩
  obtain ⟨e, t, hrun, hspan, hnames, hlines⟩ := hrun
  obtain ⟨e', t', hrun', hspan'⟩ := hrun'
  rw [hrun, hrun'] at hruns
  cases hruns with
  | failed ht he =>
    refine ⟨e, t, e', t', hrun, hrun', hspan, hspan', he.cause, ?_, ht, ?_⟩
    · rw [← he.names, hnames]
    · rw [← ht.host.console, hlines]

end StoryScript
