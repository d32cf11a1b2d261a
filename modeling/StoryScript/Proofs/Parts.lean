import StoryScript.Proofs.Failures

/-!
# The parts of a task in order

A task begins its parts one after the other, and goes on to the next one only if the one before is
done.  They are listed here in the order in which they begin, one entry for each time that a part
is begun, with the state in which it begins.  Main statement: the parts that are listed are those
that the task enters.
-/

namespace StoryScript

open Eval

/-- What is listed after an outcome: nothing, unless there is a value to go on with. -/
def Outcome.andThen {σ ε α β : Type} (o : Outcome σ ε α) (f : α → σ → List β) : List β :=
  match o with
  | .done v t => f v t
  | .failed _ _ | .outOfFuel => []

/-- What follows on an outcome follows on its value, if it has one. -/
theorem Outcome.mem_andThen_iff {σ ε α β : Type} {o : Outcome σ ε α} {f : α → σ → List β} {b : β} :
  b ∈ o.andThen f ↔ ∃ v t, o = .done v t ∧ b ∈ f v t
  := by
  cases o with
  | done v t =>
    constructor
    · intro h
      exact ⟨v, t, rfl, h⟩
    · rintro ⟨_, _, ⟨⟩, h⟩
      exact h
  | failed | outOfFuel =>
    constructor
    · intro h
      cases h
    · rintro ⟨_, _, ⟨⟩, -⟩

/-- A task with the state in which it begins. -/
abbrev Part := Task × State

/-- The state under a frame, unless the frame is refused. -/
def Setting.admit? (S : Setting) (frame : Frame) (s : State) : Option State :=
  match s.budget.callVerdict S.limits S.clock s.scene.host.runs, s.calls.push frame with
  | none, .ok calls => some (s.checked.entered calls)
  | _, _ => none

/-- A frame leads to a state exactly if the call is admitted there. -/
theorem Setting.admit?_eq_some_iff {S : Setting} {frame : Frame} {s t : State} :
  S.admit? frame s = some t ↔ S.Admits frame s t
  := by
  unfold admit? Admits
  cases s.budget.callVerdict S.limits S.clock s.scene.host.runs with
  | some why => simp
  | none => cases s.calls.push frame <;> simp [eq_comm]

namespace Task

/-! ### Lists of parts -/

/-- The parts of an evaluation of each item of a list. -/
def eachParts {α β : Type} (f : α → Eval β) (part : α → Task) : List α → State → List Part
  | [], _ => []
  | x :: rest, s => (part x, s) :: (f x s).andThen fun _ t => eachParts f part rest t

variable (S : Setting) (n : Nat)

/-- The parts of expressions one after the other. -/
def exprParts : List Expr → State → List Part := eachParts (evalExpr S n) (expr n)

/-- The part of an expression that may be missing. -/
def optionParts (e : Option Expr) (s : State) : List Part := e.toList.map fun e => (expr n e, s)

/-- The parts of statements one after the other, up to one that returns. -/
def bodyParts : List Stmt → State → List Part
  | [], _ => []
  | st :: rest, s => (stmt n st, s) :: (execStmt S n st s).andThen fun
    | .normal _, t => bodyParts rest t
    | .returned _, _ => []

/-- The parts of the rounds of a loop over a list. -/
def elementParts (name : String) (stmts : List Stmt) : List Value → State → List Part
  | [], _ => []
  | v :: rest, s => (tick S s).andThen fun _ t =>
    (body n stmts, t.pushed.bound [(name, v)]) :: (execWith S n [(name, v)] stmts t).andThen fun
      | .normal _, u => elementParts name stmts rest u
      | .returned _, _ => []

/-- The parts of the rounds of any other loop. -/
def roundParts (l : Loop) : (fuel : Nat) → State → List Part
  | 0, _ => []
  | fuel + 1, s => optionParts n l.condition s ++ (l.test S n s).andThen fun
    | false, _ => []
    | true, t => (tick S t).andThen fun _ u =>
      (body n l.body, u.pushed) :: (execBlock S n l.body u).andThen fun
        | .normal _, w => optionParts n (l.update.map LoopUpdate.value) w
          ++ (l.step S n w).andThen fun _ x => roundParts l fuel x
        | .returned _, _ => []

/-- The part of a call by name. -/
def calleeParts (name : String) (span : Span) (args : List Value) (s : State) : List Part :=
  if Entries.contains name S.builtins then [(builtin name args (some span), s)]
  else
    match s.scene.get? name with
    | some (.builtin b) => [(builtin b args (some span), s)]
    | some (.closure f) => [(call n f args (some span), s)]
    | _ => []

/-- The parts of a task, in the order in which they begin. -/
def parts : Task → State → List Part
  | expr 0 _, _ | stmt 0 _, _ | call 0 _ _ _, _ | dispatch _ _, _ => []
  | expr (n + 1) e, s =>
    match e with
    | .literal _ _ | .identifier _ _ => []
    | .unary _ _ e | .member _ e _ | .assign _ _ e => [(expr n e, s)]
    | .binary _ _ l r | .index _ l r => exprParts S n [l, r] s
    | .list _ items => exprParts S n items s
    | .map _ pairs =>
      eachParts (fun (key, e) => do return (key, ← evalExpr S n e)) (fun p => expr n p.2) pairs s
    | .call span name args =>
      exprParts S n args s
        ++ (Action.each (evalExpr S n) args s).andThen fun vs t => calleeParts S n name span vs t
  | stmt (n + 1) st, s =>
    match st with
    | .function _ _ _ _ _ | .handOff _ _ => []
    | .block _ stmts => [(body n stmts, s.pushed)]
    | .declare _ _ value | .ret _ value => optionParts n value s
    | .expression _ e | .property _ _ e => [(expr n e, s)]
    | .branch _ c yes no => (expr n c, s) :: (evalExpr S n c s).andThen fun v t =>
      if v.truthy then [(body n yes, t.pushed)]
      else no.toList.map fun stmts => (body n stmts, t.pushed)
    | .whileLoop _ c stmts => [(loop n ⟨some c, none, stmts⟩, s)]
    | .forIn _ name e stmts => (expr n e, s) :: (evalExpr S n e s).andThen fun
      | .list vs, t => elementParts S n name stmts vs.toList t
      | _, _ => []
    | .forLoop _ start c update stmts => optionParts n (start.map LoopStart.value) s.pushed
      ++ (loopStart (evalExpr S n) start s.pushed).andThen fun _ t =>
        [(loop n ⟨c, update, stmts⟩, t)]
  | body n stmts, s => bodyParts S n stmts s
  | loop n l, s => roundParts S n l n s
  | call (n + 1) f args span, s => (S.admit? ⟨f.name, span⟩ s).toList.map fun t =>
    (body n f.decl.body, (t.inside f).bound (bindParams f.params args))
  | builtin name args span, s =>
    (S.admit? ⟨name, span⟩ s).toList.map fun t => (dispatch name args, t)
  | job n (.program p), s => [(body n p.statements, s)]
  | job n (.handler h args), s => (S.admit? ⟨"on " ++ h.event, none⟩ s).toList.map fun t =>
    (body n h.body, t.pushed.bound (bindParams h.params args))
  | job n (.deferred c), s =>
    match c.callback with
    | .native _ _ => []
    | .builtin name => [(builtin name c.args none, s)]
    | .closure f => [(call n f c.args none, s)]

/-! ### Parts that are listed -/

variable {S n} {s t : State} {p : Part}

/-- The parts of expressions one after the other are those that are reached. -/
theorem mem_eachParts_iff {α β : Type} {f : α → Eval β} {part : α → Task} {xs : List α} :
  p ∈ eachParts f part xs s
    ↔ ∃ before x after vs t, xs = before ++ x :: after ∧ Action.each f before s = .done vs t
      ∧ p = (part x, t)
  := by
  induction xs generalizing s with
  | nil => simp [eachParts]
  | cons y rest ih =>
    rw [eachParts, List.mem_cons, Outcome.mem_andThen_iff]
    constructor
    · rintro (rfl | ⟨w, u, hy, hp⟩)
      · exact ⟨[], y, rest, [], s, rfl, rfl, rfl⟩
      · obtain ⟨before, x, after, vs, t, rfl, hbefore, rfl⟩ := ih.mp hp
        refine ⟨y :: before, x, after, w :: vs, t, rfl, ?_, rfl⟩
        exact (Action.bind_of_done hy).trans (Action.bind_of_done hbefore)
    · rintro ⟨before, x, after, vs, t, hsplit, hbefore, rfl⟩
      cases before with
      | nil =>
        cases hsplit
        cases hbefore
        exact .inl rfl
      | cons y' before =>
        cases hsplit
        obtain ⟨w, u, hy, hrest⟩ := Action.exists_of_bind_done hbefore
        obtain ⟨ws, u', hrest, hend⟩ := Action.exists_of_bind_done hrest
        cases hend
        exact .inr ⟨w, u, hy, ih.mpr ⟨before, x, after, ws, t, rfl, hrest, rfl⟩⟩

/-- An expression that may be missing is a part if it is there. -/
theorem mem_optionParts_iff {e : Option Expr} :
  p ∈ optionParts n e s ↔ ∃ e', e = some e' ∧ p = (expr n e', s)
  := by
  cases e <;> simp [optionParts]

/-- The parts of a body are the statements that are reached. -/
theorem mem_bodyParts_iff {stmts : List Stmt} (last : Value) :
  p ∈ bodyParts S n stmts s
    ↔ ∃ before st after v t, stmts = before ++ st :: after
      ∧ sequence (execStmt S n) last before s = .done (.normal v) t ∧ p = (stmt n st, t)
  := by
  induction stmts generalizing s last with
  | nil => simp [bodyParts]
  | cons first rest ih =>
    rw [bodyParts, List.mem_cons, Outcome.mem_andThen_iff]
    constructor
    · rintro (rfl | ⟨flow, u, hfirst, hp⟩)
      · exact ⟨[], first, rest, last, s, rfl, rfl, rfl⟩
      · cases flow with
        | normal w =>
          obtain ⟨before, st, after, v, t, rfl, hbefore, rfl⟩ := (ih w).mp hp
          exact ⟨first :: before, st, after, v, t, rfl,
            (Action.bind_of_done hfirst).trans hbefore, rfl⟩
        | returned w => cases hp
    · rintro ⟨before, st, after, v, t, hsplit, hbefore, rfl⟩
      cases before with
      | nil =>
        cases hsplit
        cases hbefore
        exact .inl rfl
      | cons first' before =>
        cases hsplit
        obtain ⟨flow, u, hfirst, hrest⟩ := Action.exists_of_bind_done hbefore
        cases flow with
        | normal w =>
          exact .inr ⟨_, u, hfirst, (ih w).mpr ⟨before, st, after, v, t, rfl, hrest, rfl⟩⟩
        | returned w => cases hrest

/-- The parts of a loop over values are the bodies that are reached. -/
theorem mem_elementParts_iff {name : String} {stmts : List Stmt} {vs : List Value} :
  p ∈ elementParts S n name stmts vs s
    ↔ ∃ before v after flow t u, vs = before ++ v :: after
      ∧ forEach S (fun v => execWith S n [(name, v)] stmts) before s = .done flow t
      ∧ flow.isReturn = false ∧ tick S t = .done () u
      ∧ p = (body n stmts, u.pushed.bound [(name, v)])
  := by
  induction vs generalizing s with
  | nil => simp [elementParts]
  | cons first rest ih =>
    simp only [elementParts, Outcome.mem_andThen_iff, List.mem_cons]
    constructor
    · rintro ⟨_, u, htick, rfl | ⟨flow, w, hfirst, hp⟩⟩
      · exact ⟨[], first, rest, .quiet, s, u, rfl, rfl, rfl, htick, rfl⟩
      · cases flow with
        | normal x =>
          obtain ⟨before, v, after, flow, t, u', rfl, hbefore, hflow, htick', rfl⟩ := ih.mp hp
          refine ⟨first :: before, v, after, flow, t, u', rfl, ?_, hflow, htick', rfl⟩
          exact (Action.bind_of_done htick).trans ((Action.bind_of_done hfirst).trans hbefore)
        | returned x => cases hp
    · rintro ⟨before, v, after, flow, t, u, hsplit, hbefore, hflow, htick, rfl⟩
      cases before with
      | nil =>
        cases hsplit
        cases hbefore
        exact ⟨(), u, htick, .inl rfl⟩
      | cons first' before =>
        cases hsplit
        obtain ⟨_, u', htick', hround⟩ := Action.exists_of_bind_done hbefore
        obtain ⟨flow', w, hfirst, hrest⟩ := Action.exists_of_bind_done hround
        cases flow' with
        | normal x =>
          refine ⟨(), u', htick', .inr ⟨_, w, hfirst, ih.mpr ?_⟩⟩
          exact ⟨before, v, after, flow, t, u, rfl, hrest, hflow, htick, rfl⟩
        | returned x =>
          cases hrest
          cases hflow

/-- The parts of a loop from some round on are parts of the loop. -/
theorem roundParts_subset {l : Loop} {k : Nat} (h : l.Round S n s k t) :
  roundParts S n l k t ⊆ roundParts S n l n s
  := by
  induction h with
  | first => exact List.Subset.refl _
  | @next k t t₁ t₂ t₃ t₄ v _ htest htick hbody hstep ih =>
    apply List.Subset.trans _ ih
    intro q hq
    rw [roundParts, htest]
    simp only [Outcome.andThen, htick, hbody, hstep]
    apply List.mem_append_right
    apply List.mem_cons_of_mem
    apply List.mem_append_right
    exact hq

/-- The parts of a round are entered by the loop. -/
theorem enters_of_mem_roundParts {l : Loop} {k : Nat} (h : l.Round S n s k t)
    (hp : p ∈ roundParts S n l k t) :
  Enters S (loop n l) s p.1 p.2
  := by
  induction k generalizing t with
  | zero => cases hp
  | succ k ih =>
    obtain ⟨c, update, stmts⟩ := l
    rw [roundParts, List.mem_append, mem_optionParts_iff, Outcome.mem_andThen_iff] at hp
    obtain ⟨e, rfl, rfl⟩ | ⟨goesOn, t₁, htest, hp⟩ := hp
    · exact .test h
    cases goesOn with
    | false => cases hp
    | true =>
      simp only [Outcome.mem_andThen_iff, List.mem_cons] at hp
      obtain ⟨_, t₂, htick, rfl | ⟨flow, t₃, hbody, hp⟩⟩ := hp
      · exact .round h htest htick
      cases flow with
      | returned v => cases hp
      | normal v =>
        simp only [List.mem_append, mem_optionParts_iff, Outcome.mem_andThen_iff] at hp
        obtain ⟨e, hupdate, rfl⟩ | ⟨_, t₄, hstep, hp⟩ := hp
        · obtain ⟨u, rfl, rfl⟩ := Option.map_eq_some_iff.mp hupdate
          exact .update h htest htick hbody
        · exact ih (h.next htest htick hbody hstep) hp

/-- A call has its part exactly where it is admitted. -/
theorem mem_admitted_iff {frame : Frame} {f : State → Part} :
  p ∈ (S.admit? frame s).toList.map f ↔ ∃ t, S.Admits frame s t ∧ p = f t
  := by
  simp [← Setting.admit?_eq_some_iff, eq_comm]

/-- The parts of expressions one after the other are entered if every expression that is reached is.
-/
theorem enters_of_mem_exprParts {task : Task} {es : List Expr}
    (henters : ∀ before e after vs t, es = before ++ e :: after →
      Action.each (evalExpr S n) before s = .done vs t → Enters S task s (expr n e) t)
    (hp : p ∈ exprParts S n es s) :
  Enters S task s p.1 p.2
  := by
  obtain ⟨before, e, after, vs, t, hsplit, hbefore, rfl⟩ := mem_eachParts_iff.mp hp
  exact henters before e after vs t hsplit hbefore

/-- The listed parts of an expression are entered by it. -/
theorem enters_of_mem_expr {e : Expr} (hp : p ∈ parts S (expr (n + 1) e) s) :
  Enters S (expr (n + 1) e) s p.1 p.2
  := by
  cases e with
  | literal | identifier => cases hp
  | unary | member | assign =>
    obtain rfl := List.mem_singleton.mp hp
    constructor
  | binary span op l r =>
    obtain rfl | hp := List.mem_cons.mp hp
    · exact .left
    · obtain ⟨v, t, hl, hp⟩ := Outcome.mem_andThen_iff.mp hp
      obtain rfl | hp := List.mem_cons.mp hp
      · exact .right hl
      · obtain ⟨_, _, -, hp⟩ := Outcome.mem_andThen_iff.mp hp
        cases hp
  | index span target place =>
    obtain rfl | hp := List.mem_cons.mp hp
    · exact .target
    · obtain ⟨v, t, htarget, hp⟩ := Outcome.mem_andThen_iff.mp hp
      obtain rfl | hp := List.mem_cons.mp hp
      · exact .place htarget
      · obtain ⟨_, _, -, hp⟩ := Outcome.mem_andThen_iff.mp hp
        cases hp
  | list span items =>
    apply enters_of_mem_exprParts _ hp
    rintro before e after vs t rfl hbefore
    exact .item hbefore
  | map span pairs =>
    obtain ⟨before, ⟨key, e⟩, after, vs, t, rfl, hbefore, rfl⟩ := mem_eachParts_iff.mp hp
    exact .entry hbefore
  | call span name args =>
    obtain hp | hp := List.mem_append.mp hp
    · apply enters_of_mem_exprParts _ hp
      rintro before e after vs t rfl hbefore
      exact .argument hbefore
    · obtain ⟨vs, t, hargs, hp⟩ := Outcome.mem_andThen_iff.mp hp
      unfold calleeParts at hp
      split at hp
      · obtain rfl := List.mem_singleton.mp hp
        exact .builtin hargs ‹_›
      · have hname := Bool.eq_false_iff.mpr ‹¬ Entries.contains name S.builtins = true›
        split at hp
        · obtain rfl := List.mem_singleton.mp hp
          exact .heldBuiltin hargs hname ‹_›
        · obtain rfl := List.mem_singleton.mp hp
          exact .heldClosure hargs hname ‹_›
        · cases hp

/-- The listed parts of a statement are entered by it. -/
theorem enters_of_mem_stmt {st : Stmt} (hp : p ∈ parts S (stmt (n + 1) st) s) :
  Enters S (stmt (n + 1) st) s p.1 p.2
  := by
  cases st with
  | function | handOff => cases hp
  | block | expression | property | whileLoop =>
    obtain rfl := List.mem_singleton.mp hp
    constructor
  | declare span name value =>
    obtain ⟨e, rfl, rfl⟩ := mem_optionParts_iff.mp hp
    exact .declared
  | ret span value =>
    obtain ⟨e, rfl, rfl⟩ := mem_optionParts_iff.mp hp
    exact .returned
  | branch span c yes no =>
    obtain rfl | hp := List.mem_cons.mp hp
    · exact .condition
    · obtain ⟨v, t, hc, hp⟩ := Outcome.mem_andThen_iff.mp hp
      split at hp
      · obtain rfl := List.mem_singleton.mp hp
        exact .yes hc ‹_›
      · obtain ⟨stmts, hno, rfl⟩ := List.mem_map.mp hp
        obtain rfl := Option.mem_toList.mp hno
        exact .no hc (Bool.eq_false_iff.mpr ‹_›)
  | forIn span name e stmts =>
    obtain rfl | hp := List.mem_cons.mp hp
    · exact .iterable
    · obtain ⟨v, t, he, hp⟩ := Outcome.mem_andThen_iff.mp hp
      cases v with
      | list vs =>
        obtain ⟨vs⟩ := vs
        obtain ⟨before, v, after, flow, u, w, rfl, hbefore, hflow, htick, rfl⟩ :=
          mem_elementParts_iff.mp hp
        exact .element he hbefore hflow htick
      | _ => cases hp
  | forLoop span start c update stmts =>
    obtain hp | hp := List.mem_append.mp hp
    · obtain ⟨e, hstart, rfl⟩ := mem_optionParts_iff.mp hp
      obtain ⟨start, rfl, rfl⟩ := Option.map_eq_some_iff.mp hstart
      exact .start
    · obtain ⟨_, t, hstart, hp⟩ := Outcome.mem_andThen_iff.mp hp
      obtain rfl := List.mem_singleton.mp hp
      exact .forLoop hstart

/-- What is listed is entered. -/
theorem enters_of_mem_parts {task : Task} (hp : p ∈ task.parts S s) :
  Enters S task s p.1 p.2
  := by
  cases task with
  | expr n e =>
    cases n with
    | zero => cases hp
    | succ n => exact enters_of_mem_expr hp
  | stmt n st =>
    cases n with
    | zero => cases hp
    | succ n => exact enters_of_mem_stmt hp
  | body n stmts =>
    obtain ⟨before, st, after, v, t, rfl, hbefore, rfl⟩ := (mem_bodyParts_iff .null).mp hp
    exact .statement hbefore
  | loop n l => exact enters_of_mem_roundParts .first hp
  | call n f args span =>
    cases n with
    | zero => cases hp
    | succ n =>
      obtain ⟨t, hframe, rfl⟩ := mem_admitted_iff.mp hp
      exact .called hframe
  | builtin name args span =>
    obtain ⟨t, hframe, rfl⟩ := mem_admitted_iff.mp hp
    exact .dispatched hframe
  | dispatch => cases hp
  | job n job =>
    cases job with
    | program p =>
      obtain rfl := List.mem_singleton.mp hp
      exact .program
    | handler h args =>
      obtain ⟨t, hframe, rfl⟩ := mem_admitted_iff.mp hp
      exact .handler hframe
    | deferred c =>
      obtain ⟨callback, args⟩ := c
      cases callback with
      | native => cases hp
      | builtin name =>
        obtain rfl := List.mem_singleton.mp hp
        exact .deferredBuiltin
      | closure f =>
        obtain rfl := List.mem_singleton.mp hp
        exact .deferredClosure

/-- An expression that is reached is one of the listed parts. -/
theorem mem_exprParts {before after : List Expr} {e : Expr} {vs : List Value}
    (h : Action.each (evalExpr S n) before s = .done vs t) :
  (expr n e, t) ∈ exprParts S n (before ++ e :: after) s
  := mem_eachParts_iff.mpr ⟨before, e, after, vs, t, rfl, h, rfl⟩

/-- Whatever a task enters is one of its listed parts. -/
theorem mem_parts_of_enters {task task' : Task} (h : Enters S task s task' t) :
  (task', t) ∈ task.parts S s
  := by
  cases h with
  | left | target | condition | iterable => exact List.mem_cons_self
  | operand | member | assigned | block | declared | whileLoop | returned | expression | property
  | program | deferredBuiltin | deferredClosure => exact List.mem_singleton_self _
  | right h | place h =>
    apply List.mem_cons_of_mem
    exact Outcome.mem_andThen_iff.mpr ⟨_, _, h, List.mem_cons_self⟩
  | argument h => exact List.mem_append_left _ (mem_exprParts h)
  | item h => exact mem_exprParts h
  | entry h => exact mem_eachParts_iff.mpr ⟨_, _, _, _, _, rfl, h, rfl⟩
  | builtin h hname =>
    apply List.mem_append_right
    refine Outcome.mem_andThen_iff.mpr ⟨_, _, h, ?_⟩
    simp [calleeParts, hname]
  | heldBuiltin h hname hvalue | heldClosure h hname hvalue =>
    apply List.mem_append_right
    refine Outcome.mem_andThen_iff.mpr ⟨_, _, h, ?_⟩
    simp [calleeParts, hname, hvalue]
  | yes h hv | no h hv =>
    apply List.mem_cons_of_mem
    refine Outcome.mem_andThen_iff.mpr ⟨_, _, h, ?_⟩
    simp [hv]
  | element h hbefore hflow htick =>
    apply List.mem_cons_of_mem
    refine Outcome.mem_andThen_iff.mpr ⟨_, _, h, ?_⟩
    exact mem_elementParts_iff.mpr ⟨_, _, _, _, _, _, rfl, hbefore, hflow, htick, rfl⟩
  | start => exact List.mem_append_left _ (List.mem_singleton_self _)
  | forLoop h =>
    apply List.mem_append_right
    exact Outcome.mem_andThen_iff.mpr ⟨_, _, h, List.mem_singleton_self _⟩
  | statement h => exact (mem_bodyParts_iff .null).mpr ⟨_, _, _, _, _, rfl, h, rfl⟩
  | test h =>
    apply roundParts_subset h
    exact List.mem_append_left _ (List.mem_singleton_self _)
  | round h htest htick =>
    apply roundParts_subset h
    apply List.mem_append_right
    simp only [htest, Outcome.andThen, htick]
    exact List.mem_cons_self
  | update h htest htick hbody =>
    apply roundParts_subset h
    apply List.mem_append_right
    simp only [htest, Outcome.andThen, htick, hbody]
    apply List.mem_cons_of_mem
    exact List.mem_append_left _ (List.mem_singleton_self _)
  | called h | dispatched h | handler h => exact mem_admitted_iff.mpr ⟨_, h, rfl⟩

/-- The parts that are listed are those that the task enters. -/
theorem mem_parts_iff {task task' : Task} :
  (task', t) ∈ task.parts S s ↔ Enters S task s task' t
  := ⟨enters_of_mem_parts, mem_parts_of_enters⟩

end Task

end StoryScript
