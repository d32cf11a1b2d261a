import StoryScript.Proofs.Machine
import StoryScript.Run

/-!
# Moments of an evaluation

While a tree is evaluated, its parts are evaluated one after the other, and each of them inside
the part that it belongs to.  A task is a piece of work of the evaluator: an expression, a
statement, a loop, a call, a built-in, or what the host started.  `Enters` tells in which state
a task begins another one; for everything that came before, within the first task, it refers to
the evaluator.  The tasks under way at some moment form a chain from the innermost one to the
one that the host started.  The moments of a task are those at which a task under way begins or
ends, and those that it passes between its parts.
-/

namespace StoryScript

open Eval

/-! ### Tasks -/

/-- The values that a deferred call brings along: its arguments, and the function or, of one of
the host, the answer. -/
def DeferredCall.values : DeferredCall → List Value
  | ⟨.closure f, args⟩ => .closure f :: args
  | ⟨.builtin _, args⟩ => args
  | ⟨.native _ run, args⟩ => (run args).toOption.toList ++ args

/-- What a host starts on a context. -/
inductive Job where
  | program (p : Program)
  | handler (h : Handler) (args : List Value)
  | deferred (call : DeferredCall)

namespace Job

/-- The evaluation of a job. -/
def eval (S : Setting) (n : Nat) : Job → Eval Value
  | program p => evalProgram S n p
  | handler h args => runHandler S n h args
  | deferred call => invoke S n call []

/-- The run of a job. -/
def run (S : Setting) (n : Nat) : Job → Action Scene Error Value
  | program p => execute S n p
  | handler h args => fire S n h args
  | deferred call => runDeferred S n call

/-- The run of a job is its evaluation behind the gate. -/
theorem run_eq (S : Setting) (n : Nat) (job : Job) :
  job.run S n = guarded S (job.eval S n)
  := by
  cases job <;> rfl

end Job

/-- A loop once its first part is done. -/
structure Loop where
  /-- The condition; a missing one always holds. -/
  condition : Option Expr
  /-- What follows each round. -/
  update : Option LoopUpdate
  /-- The statements of a round. -/
  body : List Stmt

namespace Loop

variable (S : Setting) (n : Nat) (l : Loop)

/-- The evaluation of the condition. -/
def test : Eval Bool := loopCondition (evalExpr S n) l.condition

/-- The evaluation of what follows a round. -/
def step : Eval Unit := loopUpdate (evalExpr S n) l.update

/-- The evaluation of the loop. -/
def eval : Eval Flow := rounds S (l.test S n) (execBlock S n l.body) (l.step S n) n

/-- A state in which a round begins, with the fuel for the rounds that is left then. -/
inductive Round (s : State) : Nat → State → Prop where
  | first : Round s n s
  | next {k : Nat} {t t₁ t₂ t₃ t₄ : State} {v : Value} (h : Round s (k + 1) t)
    (htest : l.test S n t = .done true t₁) (htick : tick S t₁ = .done () t₂)
    (hbody : execBlock S n l.body t₂ = .done (.normal v) t₃)
    (hstep : l.step S n t₃ = .done () t₄) : Round s k t₄

end Loop

/-- A piece of work of the evaluator. -/
inductive Task where
  | expr (n : Nat) (e : Expr)
  | stmt (n : Nat) (s : Stmt)
  /-- Statements one after the other, in the current scope. -/
  | body (n : Nat) (stmts : List Stmt)
  | loop (n : Nat) (l : Loop)
  | call (n : Nat) (f : Closure) (args : List Value) (span : Option Span)
  | builtin (name : String) (args : List Value) (span : Option Span)
  /-- The built-in itself, under its frame. -/
  | dispatch (name : String) (args : List Value)
  | job (n : Nat) (job : Job)

namespace Task

/-- The state that a task leaves behind, if it ends. -/
def after? (S : Setting) (task : Task) (s : State) : Option State :=
  match task with
  | expr n e => (evalExpr S n e s).state?
  | stmt n st => (execStmt S n st s).state?
  | body n stmts => (execAll S n stmts s).state?
  | loop n l => (l.eval S n s).state?
  | call n f args span => (callClosure S n f args span s).state?
  | builtin name args span => (callBuiltin S name args span s).state?
  | dispatch name args => (onScene (S.builtins.dispatch name args) s).state?
  | job n j => (j.eval S n s).state?

/-- The frame that a task takes, unless it is refused. -/
def frame? : Task → Option Frame
  | call (_ + 1) f _ span => some ⟨f.name, span⟩
  | builtin name _ span => some ⟨name, span⟩
  | job _ (.handler h _) => some ⟨"on " ++ h.event, none⟩
  | _ => none

/-- The values that a task is given. -/
def values : Task → List Value
  | call _ f args _ => .closure f :: args
  | builtin _ args _ | dispatch _ args | job _ (.handler _ args) => args
  | job _ (.deferred deferred) => deferred.values
  | _ => []

end Task

/-! ### From a task into its parts -/

/-- The state with some variables bound in the innermost scope. -/
def State.bound (s : State) (pairs : List (String × Value)) : State :=
  { s with scene := s.scene.defineAll pairs }

/-- The state under a frame that is not refused. -/
def Setting.Admits (S : Setting) (frame : Frame) (s t : State) : Prop :=
  s.budget.callVerdict S.limits S.clock s.scene.host.runs = none
    ∧ ∃ calls, s.calls.push frame = .ok calls ∧ t = s.checked.entered calls

/-- A task that begins in one state begins another task in another state. -/
inductive Enters (S : Setting) : Task → State → Task → State → Prop where
  -- parts of expressions
  | left {n span op l r s} : Enters S (.expr (n + 1) (.binary span op l r)) s (.expr n l) s
  | right {n span op l r s v t} (h : evalExpr S n l s = .done v t) :
    Enters S (.expr (n + 1) (.binary span op l r)) s (.expr n r) t
  | operand {n span op e s} : Enters S (.expr (n + 1) (.unary span op e)) s (.expr n e) s
  | argument {n span name before e after s vs t}
    (h : Action.each (evalExpr S n) before s = .done vs t) :
    Enters S (.expr (n + 1) (.call span name (before ++ e :: after))) s (.expr n e) t
  | builtin {n span name args s vs t} (h : Action.each (evalExpr S n) args s = .done vs t)
    (hname : Entries.contains name S.builtins = true) :
    Enters S (.expr (n + 1) (.call span name args)) s (.builtin name vs (some span)) t
  | heldBuiltin {n span name args s vs t b}
    (h : Action.each (evalExpr S n) args s = .done vs t)
    (hname : Entries.contains name S.builtins = false)
    (hvalue : t.scene.get? name = some (.builtin b)) :
    Enters S (.expr (n + 1) (.call span name args)) s (.builtin b vs (some span)) t
  | heldClosure {n span name args s vs t f}
    (h : Action.each (evalExpr S n) args s = .done vs t)
    (hname : Entries.contains name S.builtins = false)
    (hvalue : t.scene.get? name = some (.closure f)) :
    Enters S (.expr (n + 1) (.call span name args)) s (.call n f vs (some span)) t
  | member {n span e name s} : Enters S (.expr (n + 1) (.member span e name)) s (.expr n e) s
  | target {n span e i s} : Enters S (.expr (n + 1) (.index span e i)) s (.expr n e) s
  | place {n span e i s v t} (h : evalExpr S n e s = .done v t) :
    Enters S (.expr (n + 1) (.index span e i)) s (.expr n i) t
  | assigned {n span name e s} : Enters S (.expr (n + 1) (.assign span name e)) s (.expr n e) s
  | item {n span before e after s vs t}
    (h : Action.each (evalExpr S n) before s = .done vs t) :
    Enters S (.expr (n + 1) (.list span (before ++ e :: after))) s (.expr n e) t
  | entry {n span before key e after s vs t}
    (h : entries (evalExpr S n) before s = .done vs t) :
    Enters S (.expr (n + 1) (.map span (before ++ (key, e) :: after))) s (.expr n e) t
  -- parts of statements
  | block {n span b s} : Enters S (.stmt (n + 1) (.block span b)) s (.body n b) s.pushed
  | declared {n span name e s} :
    Enters S (.stmt (n + 1) (.declare span name (some e))) s (.expr n e) s
  | condition {n span c yes no s} :
    Enters S (.stmt (n + 1) (.branch span c yes no)) s (.expr n c) s
  | yes {n span c b no s v t} (h : evalExpr S n c s = .done v t) (hv : v.truthy = true) :
    Enters S (.stmt (n + 1) (.branch span c b no)) s (.body n b) t.pushed
  | no {n span c yes b s v t} (h : evalExpr S n c s = .done v t) (hv : v.truthy = false) :
    Enters S (.stmt (n + 1) (.branch span c yes (some b))) s (.body n b) t.pushed
  | whileLoop {n span c b s} :
    Enters S (.stmt (n + 1) (.whileLoop span c b)) s (.loop n ⟨some c, none, b⟩) s
  | iterable {n span name e b s} :
    Enters S (.stmt (n + 1) (.forIn span name e b)) s (.expr n e) s
  | element {n span name e b s before v after t flow t₁ t₂}
    (h : evalExpr S n e s = .done (.list ⟨before ++ v :: after⟩) t)
    (hbefore : forEach S (fun v => execWith S n [(name, v)] b) before t = .done flow t₁)
    (hflow : flow.isReturn = false) (htick : tick S t₁ = .done () t₂) :
    Enters S (.stmt (n + 1) (.forIn span name e b)) s (.body n b) (t₂.pushed.bound [(name, v)])
  | start {n span start c u b s} :
    Enters S (.stmt (n + 1) (.forLoop span (some start) c u b)) s (.expr n start.value) s.pushed
  | forLoop {n span start c u b s t}
    (h : loopStart (evalExpr S n) start s.pushed = .done () t) :
    Enters S (.stmt (n + 1) (.forLoop span start c u b)) s (.loop n ⟨c, u, b⟩) t
  | returned {n span e s} : Enters S (.stmt (n + 1) (.ret span (some e))) s (.expr n e) s
  | expression {n span e s} : Enters S (.stmt (n + 1) (.expression span e)) s (.expr n e) s
  | property {n span name e s} :
    Enters S (.stmt (n + 1) (.property span name e)) s (.expr n e) s
  -- statements of a body
  | statement {n before st after s v t} (h : execAll S n before s = .done (.normal v) t) :
    Enters S (.body n (before ++ st :: after)) s (.stmt n st) t
  -- parts of loops
  | test {n e u b s k t} (h : Loop.Round S n ⟨some e, u, b⟩ s (k + 1) t) :
    Enters S (.loop n ⟨some e, u, b⟩) s (.expr n e) t
  | round {n l s k t t₁ t₂} (h : Loop.Round S n l s (k + 1) t)
    (htest : l.test S n t = .done true t₁) (htick : tick S t₁ = .done () t₂) :
    Enters S (.loop n l) s (.body n l.body) t₂.pushed
  | update {n c u b s k t t₁ t₂ v t₃} (h : Loop.Round S n ⟨c, some u, b⟩ s (k + 1) t)
    (htest : Loop.test S n ⟨c, some u, b⟩ t = .done true t₁) (htick : tick S t₁ = .done () t₂)
    (hbody : execBlock S n b t₂ = .done (.normal v) t₃) :
    Enters S (.loop n ⟨c, some u, b⟩) s (.expr n u.value) t₃
  -- bodies of calls
  | called {n f args span s t} (h : S.Admits ⟨f.name, span⟩ s t) :
    Enters S (.call (n + 1) f args span) s (.body n f.decl.body)
      ((t.inside f).bound (bindParams f.params args))
  | dispatched {name args span s t} (h : S.Admits ⟨name, span⟩ s t) :
    Enters S (.builtin name args span) s (.dispatch name args) t
  -- what the host starts
  | program {n p s} : Enters S (.job n (.program p)) s (.body n p.statements) s
  | handler {n h args s t} (hframe : S.Admits ⟨"on " ++ h.event, none⟩ s t) :
    Enters S (.job n (.handler h args)) s (.body n h.body)
      (t.pushed.bound (bindParams h.params args))
  | deferredBuiltin {n name args s} :
    Enters S (.job n (.deferred ⟨.builtin name, args⟩)) s (.builtin name args none) s
  | deferredClosure {n f args s} :
    Enters S (.job n (.deferred ⟨.closure f, args⟩)) s (.call n f args none) s

/-- The tasks under way at some moment of a task, the innermost one first, each with the state
in which it began. -/
inductive Underway (S : Setting) (whole : Task) (s : State) : List (Task × State) → Prop where
  | whole : Underway S whole s [(whole, s)]
  | part {task task' : Task} {t t' : State} {outer : List (Task × State)}
    (h : Underway S whole s ((task, t) :: outer)) (hpart : Enters S task t task' t') :
    Underway S whole s ((task', t') :: (task, t) :: outer)

/-- The whole is always one of the tasks under way. -/
theorem Underway.whole_mem {S : Setting} {whole : Task} {s : State} {chain : List (Task × State)}
    (h : Underway S whole s chain) :
  (whole, s) ∈ chain
  := by
  induction h with
  | whole => exact List.mem_cons_self
  | part _ _ ih => exact List.mem_cons_of_mem _ ih

/-- The states that a task passes between its parts: it is checked, takes its frame, goes to
another environment and back, and binds variables. -/
inductive Passes (S : Setting) : Task → State → State → Prop where
  -- frames
  | checked {task frame s} (hframe : task.frame? = some frame) : Passes S task s s.checked
  | framed {task frame s t} (hframe : task.frame? = some frame) (h : S.Admits frame s t) :
    Passes S task s t
  -- calls
  | swapped {n f args span s t} (h : S.Admits ⟨f.name, span⟩ s t) :
    Passes S (.call (n + 1) f args span) s (t.within (.onScope f.scope f.global))
  | called {n f args span s t pairs} (h : S.Admits ⟨f.name, span⟩ s t)
    (hpairs : pairs <+: bindParams f.params args) :
    Passes S (.call (n + 1) f args span) s ((t.inside f).bound pairs)
  | restored {n f args span s t u} (h : S.Admits ⟨f.name, span⟩ s t)
    (hbody : Task.after? S (.body n f.decl.body)
      ((t.inside f).bound (bindParams f.params args)) = some u) :
    Passes S (.call (n + 1) f args span) s (u.within s.env)
  -- handlers
  | handled {n h args s t pairs} (hframe : S.Admits ⟨"on " ++ h.event, none⟩ s t)
    (hpairs : pairs <+: bindParams h.params args) :
    Passes S (.job n (.handler h args)) s (t.pushed.bound pairs)
  | popped {n h args s t u} (hframe : S.Admits ⟨"on " ++ h.event, none⟩ s t)
    (hbody : Task.after? S (.body n h.body)
      (t.pushed.bound (bindParams h.params args)) = some u) :
    Passes S (.job n (.handler h args)) s u.popped
  -- rounds of loops
  | roundTicked {n l s k t t₁} (h : Loop.Round S n l s (k + 1) t)
    (htest : l.test S n t = .done true t₁) : Passes S (.loop n l) s t₁.ticked
  | elementTicked {n span name e b s before v after t flow t₁}
    (h : evalExpr S n e s = .done (.list ⟨before ++ v :: after⟩) t)
    (hbefore : forEach S (fun v => execWith S n [(name, v)] b) before t = .done flow t₁)
    (hflow : flow.isReturn = false) :
    Passes S (.stmt (n + 1) (.forIn span name e b)) s t₁.ticked
  | elementPushed {n span name e b s before v after t flow t₁ t₂}
    (h : evalExpr S n e s = .done (.list ⟨before ++ v :: after⟩) t)
    (hbefore : forEach S (fun v => execWith S n [(name, v)] b) before t = .done flow t₁)
    (hflow : flow.isReturn = false) (htick : tick S t₁ = .done () t₂) :
    Passes S (.stmt (n + 1) (.forIn span name e b)) s t₂.pushed

/-- The states at the moments of a task, with the tasks that are under way around each. -/
inductive Moment (S : Setting) (whole : Task) (s : State) : State → List (Task × State) → Prop where
  | begins {task : Task} {t : State} {outer : List (Task × State)}
    (h : Underway S whole s ((task, t) :: outer)) : Moment S whole s t outer
  | ends {task : Task} {t u : State} {outer : List (Task × State)}
    (h : Underway S whole s ((task, t) :: outer)) (hend : task.after? S t = some u) :
    Moment S whole s u outer
  | between {task : Task} {t u : State} {outer : List (Task × State)}
    (h : Underway S whole s ((task, t) :: outer)) (hpass : Passes S task t u) :
    Moment S whole s u ((task, t) :: outer)

/-- The environments that the calls under way have put aside, to return to them. -/
def savedEnvironments : List (Task × State) → List Environment
  | [] => []
  | (.call _ _ _ _, s) :: outer => s.env :: savedEnvironments outer
  | _ :: outer => savedEnvironments outer

/-- The saved environments are those of the tasks under way. -/
theorem exists_of_mem_savedEnvironments {outer : List (Task × State)} {env : Environment}
    (h : env ∈ savedEnvironments outer) :
  ∃ p ∈ outer, p.2.env = env
  := by
  induction outer with
  | nil => cases h
  | cons p rest ih =>
    obtain ⟨task, s⟩ := p
    have hcases : env = s.env ∨ env ∈ savedEnvironments rest := by
      cases task with
      | call => exact List.mem_cons.mp h
      | _ => exact .inr h
    obtain rfl | h := hcases
    · exact ⟨(task, s), List.mem_cons_self, rfl⟩
    · obtain ⟨q, hq, henv⟩ := ih h
      exact ⟨q, List.mem_cons_of_mem _ hq, henv⟩

end StoryScript
