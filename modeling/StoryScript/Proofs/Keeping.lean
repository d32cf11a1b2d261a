import StoryScript.Proofs.Moments
import StoryScript.Proofs.Upkeep

/-!
# Keeping a relation part by part

What the parts of the machine keep.  Unlike an upkeep, which every step of the machine respects,
a relation may be kept by some evaluations only: a part keeps it when the evaluations that it runs
do.  Main statements: what assignments, built-ins and calls keep, all expressions keep, whatever
declarations do; an upkeep is kept by all parts of a task, and up to where any part begins.
-/

namespace StoryScript

open Eval

namespace Eval

variable {S : Setting} {R R' : State → State → Prop} {α : Type}

/-- A place changes no state. -/
theorem keeps_located (span : Span) {a : Eval α} (h : a.Keeps R) :
  (located span a).Keeps R
  := by
  intro s t ht
  rw [located_apply, Outcome.state?_treated, Option.map_id] at ht
  exact h s t ht

/-- What runs in a new scope is kept if the relation holds from the scope pushed to the scope
popped. -/
theorem keeps_inScope (hR : ∀ {s t}, R s.pushed t → R' s t.popped) {a : Eval α} (h : a.Keeps R) :
  (inScope a).Keeps R'
  := by
  intro s t ht
  rw [inScope_apply, Outcome.state?_treated, Option.map_eq_some_iff] at ht
  obtain ⟨u, hu, rfl⟩ := ht
  exact hR (h _ u hu)

/-- What runs in a closure is kept if the relation holds from the inside of the closure to the
environment put back. -/
theorem keeps_inClosure (f : Closure) (hR : ∀ {s t}, R (s.inside f) t → R' s (t.within s.env))
    {a : Eval α} (h : a.Keeps R) :
  (inClosure f a).Keeps R'
  := by
  intro s t ht
  rw [inClosure_apply, Outcome.state?_treated, Option.map_eq_some_iff] at ht
  obtain ⟨u, hu, rfl⟩ := ht
  exact hR (h _ u hu)

/-- A call is kept if the check before it is, and the way into the frame and out of it. -/
theorem keeps_inFrame (frame : Frame) (hchecked : ∀ s, R s s.checked)
    (hR : ∀ {s t calls}, s.calls.push frame = .ok calls → R (s.checked.entered calls) t →
      R s t.left) {a : Eval α} (h : a.Keeps R) :
  (inFrame S frame a).Keeps R
  := by
  intro s t ht
  rw [inFrame_apply] at ht
  split at ht
  · cases ht
    exact hchecked s
  · split at ht
    · cases ht
      exact hchecked s
    · rename_i hpush
      rw [Outcome.state?_treated, Option.map_eq_some_iff] at ht
      obtain ⟨u, hu, rfl⟩ := ht
      exact hR hpush (h _ u hu)

/-- A checkpoint in a loop is kept if counting the round is. -/
theorem keeps_tick (hticked : ∀ s, R s s.ticked) :
  (tick S).Keeps R
  := by
  intro s t ht
  rw [tick_apply] at ht
  split at ht
  · cases ht
    exact hticked s
  · cases ht
    exact hticked s

/-- An assignment is kept, whether it succeeds or not. -/
theorem keeps_assign (hassigned : ∀ s name v, R s (s.assigned name v)) (name : String)
    (v : Value) :
  (assign name v).Keeps R
  := by
  intro s t ht
  rw [assign_apply] at ht
  split at ht
  · cases ht
    exact hassigned s name v
  · cases ht
    exact hassigned s name v

section

variable (hrefl : ∀ s, R s s) (htrans : ∀ {s t u}, R s t → R t u → R s u)

include hrefl in
theorem keeps_ofExcept (x : Except Cause α) :
  (ofExcept x).Keeps R
  := by
  intro s t ht
  cases x with
  | ok v =>
    cases ht
    exact hrefl s
  | error cause =>
    cases ht
    exact hrefl s

include hrefl in
theorem keeps_items (span : Span) (v : Value) :
  (items span v).Keeps R
  := by
  have hthrow : ∀ cause, (throw cause : Eval (List Value)).Keeps R := by
    intro cause
    exact keeps_ofExcept hrefl (.error cause)
  cases v with
  | list vs => exact Action.keeps_pure hrefl _
  | _ => exact keeps_located span (hthrow _)

include hrefl in
/-- A value that may be missing is kept if expressions are. -/
theorem keeps_optionalValue {eval : Expr → Eval Value} (h : ∀ e, (eval e).Keeps R)
    (value : Option Expr) :
  (optionalValue eval value).Keeps R
  := by
  cases value with
  | none => exact Action.keeps_pure hrefl _
  | some e => exact h e

include hrefl htrans

/-- An action for each item of a list is kept if every one of them is. -/
theorem keeps_each {γ δ : Type} {f : γ → Eval δ} (hf : ∀ x, (f x).Keeps R) (xs : List γ) :
  (Action.each f xs).Keeps R
  := by
  induction xs with
  | nil => exact Action.keeps_pure hrefl _
  | cons x rest ih =>
    apply (hf x).bind htrans
    intro y
    apply ih.bind htrans
    intro ys
    exact Action.keeps_pure hrefl _

/-- The condition of a loop is kept if expressions are. -/
theorem keeps_loopCondition {eval : Expr → Eval Value} (h : ∀ e, (eval e).Keeps R)
    (condition : Option Expr) :
  (loopCondition eval condition).Keeps R
  := by
  cases condition with
  | none => exact Action.keeps_pure hrefl _
  | some e =>
    apply (h e).bind htrans
    intro v
    exact Action.keeps_pure hrefl _

/-- Statements one after the other are kept if each of them is. -/
theorem keeps_sequence {exec : Stmt → Eval Flow} {body : List Stmt}
    (h : ∀ st ∈ body, (exec st).Keeps R) (last : Value) :
  (sequence exec last body).Keeps R
  := by
  induction body generalizing last with
  | nil => exact Action.keeps_pure hrefl _
  | cons st rest ih =>
    obtain ⟨hst, hrest⟩ := List.forall_mem_cons.mp h
    apply hst.bind htrans
    intro flow
    cases flow with
    | normal v => exact ih hrest v
    | returned v => exact Action.keeps_pure hrefl _

/-- A loop is kept if its parts and the checkpoints are, by induction on the rounds. -/
theorem keeps_rounds (hticked : ∀ s, R s s.ticked) {condition : Eval Bool} {body : Eval Flow}
    {update : Eval Unit} (hc : condition.Keeps R) (hb : body.Keeps R) (hu : update.Keeps R)
    (n : Nat) :
  (rounds S condition body update n).Keeps R
  := by
  induction n with
  | zero => exact Action.keeps_exhausted
  | succ n ih =>
    apply hc.bind htrans
    intro goesOn
    cases goesOn with
    | false => exact Action.keeps_pure hrefl _
    | true =>
      apply (keeps_tick hticked).bind htrans
      intro _
      apply hb.bind htrans
      intro flow
      cases flow with
      | returned v => exact Action.keeps_pure hrefl _
      | normal v => exact hu.bind htrans fun _ => ih

/-- A loop over values is kept if its body and the checkpoints are. -/
theorem keeps_forEach (hticked : ∀ s, R s s.ticked) {body : Value → Eval Flow}
    (hb : ∀ v, (body v).Keeps R) (vs : List Value) :
  (forEach S body vs).Keeps R
  := by
  induction vs with
  | nil => exact Action.keeps_pure hrefl _
  | cons v rest ih =>
    apply (keeps_tick hticked).bind htrans
    intro _
    apply (hb v).bind htrans
    intro flow
    cases flow with
    | returned w => exact Action.keeps_pure hrefl _
    | normal w => exact ih

/-- A call by name is kept if calls of built-ins and of closures are. -/
theorem keeps_callNamed (hbuiltin : ∀ name args span, (callBuiltin S name args span).Keeps R)
    {call : Closure → List Value → Option Span → Eval Value}
    (hcall : ∀ f args span, (call f args span).Keeps R) (name : String) (args : List Value)
    (span : Span) :
  (callNamed S call name args span).Keeps R
  := by
  unfold callNamed
  split
  · exact hbuiltin name args _
  · apply (Action.keeps_gets hrefl _).bind htrans
    intro found
    split
    · exact hbuiltin _ args _
    · exact hcall _ args _
    · exact keeps_ofExcept hrefl (.error _)

/-- The resolution of a name changes no state. -/
theorem keeps_resolve (name : String) :
  (resolve S name).Keeps R
  := by
  apply (Action.keeps_gets hrefl _).bind htrans
  intro found
  cases found with
  | some v => exact Action.keeps_pure hrefl _
  | none =>
    dsimp only
    split
    · exact Action.keeps_pure hrefl _
    · exact keeps_ofExcept hrefl (.error _)

/-- What assignments, built-ins and calls keep, all expressions keep. -/
theorem keeps_expr (hassigned : ∀ s name v, R s (s.assigned name v))
    (hbuiltin : ∀ name args span, (callBuiltin S name args span).Keeps R)
    (hcall : ∀ n f args span, (callClosure S n f args span).Keeps R) (n : Nat) (e : Expr) :
  (evalExpr S n e).Keeps R
  := by
  induction n generalizing e with
  | zero => exact Action.keeps_exhausted
  | succ n ih =>
    cases e with
    | literal span value =>
      apply keeps_located
      exact Action.keeps_pure hrefl _
    | identifier span name =>
      apply keeps_located
      exact keeps_resolve hrefl htrans name
    | binary span op left right =>
      apply keeps_located
      apply (ih left).bind htrans
      intro l
      apply (ih right).bind htrans
      intro r
      exact keeps_ofExcept hrefl _
    | unary span op operand =>
      apply keeps_located
      apply (ih operand).bind htrans
      intro v
      exact keeps_ofExcept hrefl _
    | call span callee args =>
      apply keeps_located
      apply (keeps_each hrefl htrans ih args).bind htrans
      intro vs
      exact keeps_callNamed hrefl htrans hbuiltin (hcall n) callee vs span
    | member span target name =>
      apply keeps_located
      apply (ih target).bind htrans
      intro v
      exact keeps_ofExcept hrefl _
    | index span target place =>
      apply keeps_located
      apply (ih target).bind htrans
      intro v
      apply (ih place).bind htrans
      intro i
      exact keeps_ofExcept hrefl _
    | assign span name value =>
      apply keeps_located
      apply (ih value).bind htrans
      intro v
      apply (keeps_assign hassigned name v).bind htrans
      intro _
      exact Action.keeps_pure hrefl _
    | list span items =>
      apply keeps_located
      apply (keeps_each hrefl htrans ih items).bind htrans
      intro vs
      exact Action.keeps_pure hrefl _
    | map span pairs =>
      apply keeps_located
      have hentries : (entries (evalExpr S n) pairs).Keeps R := by
        apply keeps_each hrefl htrans
        intro entry
        apply (ih entry.2).bind htrans
        intro v
        exact Action.keeps_pure hrefl _
      apply hentries.bind htrans
      intro vs
      exact Action.keeps_pure hrefl _

end

end Eval

/-! ### Parts of tasks -/

namespace Upkeep

variable {S : Setting} {R : State → State → Prop} (U : Upkeep S R) {s t : State}

include U

theorem each (n : Nat) (es : List Expr) :
  (Action.each (evalExpr S n) es).Keeps R
  := keeps_each U.refl U.trans (U.expr n) es

theorem pairs (n : Nat) (es : List (String × Expr)) :
  (entries (evalExpr S n) es).Keeps R
  := by
  apply keeps_each U.refl U.trans
  intro entry
  apply (U.expr n entry.2).bind U.trans
  intro v
  exact Action.keeps_pure U.refl _

theorem tick :
  (Eval.tick S).Keeps R
  := keeps_tick U.ticked

/-- Several names may be bound, one after the other. -/
theorem bound (pairs : List (String × Value)) (s : State) :
  R s (s.bound pairs)
  := by
  induction pairs generalizing s with
  | nil => exact U.refl s
  | cons pair rest ih => exact U.trans (U.defined s pair.1 pair.2) (ih _)

/-- A block with names in it is kept. -/
theorem blockWith (n : Nat) (pairs : List (String × Value)) (body : List Stmt) :
  (execWith S n pairs body).Keeps R
  := by
  apply keeps_inScope U.scope
  apply (Action.keeps_modify (U.bound pairs)).bind U.trans
  intro _
  exact U.statements n body

/-- The body of a call, in the scope of the call. -/
theorem callBody (n : Nat) (pairs : List (String × Value)) (body : List Stmt) :
  Action.Keeps R (do
    change fun s => s.defineAll pairs
    let flow ← execAll S n body
    pure flow.callResult : Eval Value)
  := by
  apply (Action.keeps_modify (U.bound pairs)).bind U.trans
  intro _
  apply (U.statements n body).bind U.trans
  intro flow
  exact Action.keeps_pure U.refl _

theorem elements (n : Nat) (name : String) (body : List Stmt) (vs : List Value) :
  (forEach S (fun v => execWith S n [(name, v)] body) vs).Keeps R
  := keeps_forEach U.refl U.trans U.ticked (fun v => U.blockWith n [(name, v)] body) vs

theorem loopStart (n : Nat) (start : Option LoopStart) :
  (Eval.loopStart (evalExpr S n) start).Keeps R
  := by
  cases start with
  | none => exact Action.keeps_pure U.refl _
  | some start =>
    apply (U.expr n start.value).bind U.trans
    intro v
    split
    · exact Action.keeps_modify fun s => U.defined s start.name v
    · exact keeps_assign U.assigned start.name v

/-- The condition of a loop is kept. -/
theorem loopTest (n : Nat) (l : Loop) :
  (l.test S n).Keeps R
  := keeps_loopCondition U.refl U.trans (U.expr n) l.condition

theorem loopStep (n : Nat) (l : Loop) :
  (l.step S n).Keeps R
  := by
  obtain ⟨condition, update, body⟩ := l
  cases update with
  | none => exact Action.keeps_pure U.refl _
  | some update =>
    apply (U.expr n update.value).bind U.trans
    intro v
    exact keeps_assign U.assigned update.name v

/-- A loop is kept, whatever its header. -/
theorem loop (n : Nat) (l : Loop) :
  (l.eval S n).Keeps R
  := keeps_rounds U.refl U.trans U.ticked (U.loopTest n l) (U.block n l.body) (U.loopStep n l) n

/-- A round begins in a state that stands in the relation to the one before the condition. -/
theorem roundTicked {n : Nat} {l : Loop} {u : State} (htest : l.test S n s = .done true t)
    (htick : Eval.tick S t = .done () u) :
  R s u
  := U.trans (U.loopTest n l s t (congrArg Outcome.state? htest))
    (U.tick t u (congrArg Outcome.state? htick))

/-- A round of a loop begins in a related state. -/
theorem round {n k : Nat} {l : Loop} (h : l.Round S n s k t) :
  R s t
  := by
  induction h with
  | first => exact U.refl s
  | next _ htest htick hbody hstep ih =>
    have hround := U.roundTicked htest htick
    have hbody := U.block n l.body _ _ (congrArg Outcome.state? hbody)
    have hstep := U.loopStep n l _ _ (congrArg Outcome.state? hstep)
    exact U.trans ih (U.trans hround (U.trans hbody hstep))

/-- The elements of a loop over a list before some element leave a related state. -/
theorem elementsBefore {n : Nat} {name : String} {e : Expr} {body : List Stmt} {v : Value}
    {before : List Value} {flow : Flow} {u : State} (hlist : evalExpr S n e s = .done v t)
    (hbefore : forEach S (fun v => execWith S n [(name, v)] body) before t = .done flow u) :
  R s u
  := U.trans (U.expr n e s t (congrArg Outcome.state? hlist))
    (U.elements n name body before t u (congrArg Outcome.state? hbefore))

/-- A task that ends leaves a related state. -/
theorem task (task : Task) (ht : task.after? S s = some t) :
  R s t
  := by
  cases task with
  | expr n e => exact U.expr n e s t ht
  | stmt n st => exact U.stmt n st s t ht
  | body n stmts => exact U.statements n stmts s t ht
  | loop n l => exact U.loop n l s t ht
  | call n f args span => exact U.call n f args span s t ht
  | builtin name args span => exact U.builtin name args span s t ht
  | dispatch name args => exact U.dispatch name args s t ht
  | job n j =>
    cases j with
    | program p => exact U.program n p s t ht
    | handler h args => exact U.handler n h args s t ht
    | deferred call => exact U.deferred n call [] s t ht

end Upkeep

/-! ### Where the parts of a task begin -/

/-- From the one state to the other only steps that keep the relation are made, but for a scope
that may be entered on the way. -/
def State.Leads (R : State → State → Prop) (s t : State) : Prop :=
  R s t ∨ ∃ u, R s u ∧ R u.pushed t

section

variable {S : Setting} {R : State → State → Prop} {task part : Task} {s t : State}

/-- A part of a task begins after steps that keep an upkeep, behind the frame of the task if it
has one; the body of a function begins in the environment of the function. -/
theorem Enters.leads (U : Upkeep S R) (h : Enters S task s part t) :
  task.frame? = none ∧ s.Leads R t
    ∨ ∃ frame u, task.frame? = some frame ∧ S.Admits frame s u
      ∧ (u.Leads R t ∨ ∃ n f args span, task = .call n f args span ∧ R (u.inside f) t)
  := by
  cases h with
  -- tasks without a frame
  | left | operand | member | target | assigned | declared | condition | whileLoop | iterable
  | returned | expression | property | program | deferredBuiltin | deferredClosure =>
    exact .inl ⟨rfl, .inl (U.refl s)⟩
  | block | start => exact .inl ⟨rfl, .inr ⟨s, U.refl s, U.refl s.pushed⟩⟩
  | right hv | place hv => exact .inl ⟨rfl, .inl (U.expr _ _ _ _ (congrArg Outcome.state? hv))⟩
  | @yes _ _ _ _ _ _ _ t hv | @no _ _ _ _ _ _ _ t hv =>
    exact .inl ⟨rfl, .inr ⟨t, U.expr _ _ _ t (congrArg Outcome.state? hv), U.refl _⟩⟩
  | argument hvs | item hvs | builtin hvs | heldBuiltin hvs | heldClosure hvs =>
    exact .inl ⟨rfl, .inl (U.each _ _ _ _ (congrArg Outcome.state? hvs))⟩
  | entry hvs => exact .inl ⟨rfl, .inl (U.pairs _ _ _ _ (congrArg Outcome.state? hvs))⟩
  | element hlist hbefore _ htick =>
    have hbefore := U.elementsBefore hlist hbefore
    have htick := U.tick _ _ (congrArg Outcome.state? htick)
    exact .inl ⟨rfl, .inr ⟨_, U.trans hbefore htick, U.bound _ _⟩⟩
  | forLoop hstart =>
    exact .inl ⟨rfl, .inr ⟨s, U.refl s, U.loopStart _ _ _ _ (congrArg Outcome.state? hstart)⟩⟩
  | statement hbefore =>
    exact .inl ⟨rfl, .inl (U.statements _ _ _ _ (congrArg Outcome.state? hbefore))⟩
  | test hround => exact .inl ⟨rfl, .inl (U.round hround)⟩
  | round hround htest htick =>
    have hround := U.trans (U.round hround) (U.roundTicked htest htick)
    exact .inl ⟨rfl, .inr ⟨_, hround, U.refl _⟩⟩
  | update hround htest htick hbody =>
    have hround := U.trans (U.round hround) (U.roundTicked htest htick)
    exact .inl ⟨rfl, .inl (U.trans hround (U.block _ _ _ _ (congrArg Outcome.state? hbody)))⟩
  -- tasks with a frame
  | called hframe => exact .inr ⟨_, _, rfl, hframe, .inr ⟨_, _, _, _, rfl, U.bound _ _⟩⟩
  | dispatched hframe => exact .inr ⟨_, t, rfl, hframe, .inl (.inl (U.refl t))⟩
  | handler hframe => exact .inr ⟨_, _, rfl, hframe, .inl (.inr ⟨_, U.refl _, U.bound _ _⟩)⟩

end

end StoryScript
