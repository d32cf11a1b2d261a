import StoryScript.Proofs.Machine
import StoryScript.Proofs.Region
import StoryScript.Proofs.Related
import StoryScript.Proofs.Trees

/-!
# Other spans

Two trees are respanned when they differ at most in their spans: corresponding nodes have the same
form, the same names and constants, and corresponding function declarations are the same
declaration.  The relation is carried from trees to closures and values, and on to everything that
holds values or spans: scopes, call stacks, logs, timers, and the states of runs.  Scripts cannot
tell respanned closures apart.
-/

namespace StoryScript

/-! ### Trees -/

/-- Expressions that differ at most in their spans. -/
inductive Expr.Respanned : Expr → Expr → Prop where
  | binary {s s' : Span} {op : BinaryOp} {l l' r r' : Expr} (hl : Respanned l l')
    (hr : Respanned r r') : Respanned (.binary s op l r) (.binary s' op l' r')
  | unary {s s' : Span} {op : UnaryOp} {e e' : Expr} (h : Respanned e e') :
    Respanned (.unary s op e) (.unary s' op e')
  | call {s s' : Span} {callee : String} {args args' : List Expr}
    (h : List.Forall₂ Respanned args args') :
    Respanned (.call s callee args) (.call s' callee args')
  | member {s s' : Span} {e e' : Expr} {name : String} (h : Respanned e e') :
    Respanned (.member s e name) (.member s' e' name)
  | index {s s' : Span} {e e' i i' : Expr} (h : Respanned e e') (hi : Respanned i i') :
    Respanned (.index s e i) (.index s' e' i')
  | assign {s s' : Span} {name : String} {e e' : Expr} (h : Respanned e e') :
    Respanned (.assign s name e) (.assign s' name e')
  | identifier {s s' : Span} {name : String} :
    Respanned (.identifier s name) (.identifier s' name)
  | literal {s s' : Span} {value : Literal} : Respanned (.literal s value) (.literal s' value)
  | list {s s' : Span} {items items' : List Expr} (h : List.Forall₂ Respanned items items') :
    Respanned (.list s items) (.list s' items')
  | map {s s' : Span} {entries entries' : List (String × Expr)}
    (hkeys : Entries.keys entries = Entries.keys entries')
    (hvalues : List.Forall₂ Respanned (entries.map Prod.snd) (entries'.map Prod.snd)) :
    Respanned (.map s entries) (.map s' entries')

/-- First parts of loop headers that differ at most in their spans. -/
structure LoopStart.Respanned (s s' : LoopStart) : Prop where
  name : s.name = s'.name
  value : s.value.Respanned s'.value
  declares : s.declares = s'.declares

/-- Last parts of loop headers that differ at most in their spans. -/
structure LoopUpdate.Respanned (u u' : LoopUpdate) : Prop where
  name : u.name = u'.name
  value : u.value.Respanned u'.value

/-- Declarations for the host with related statements. -/
inductive Declaration.Related {σ : Type} (r : σ → σ → Prop) :
    Declaration σ → Declaration σ → Prop where
  | dialogue {name : String} {b b' : List σ} (h : List.Forall₂ r b b') :
    Related r (.dialogue name b) (.dialogue name b')
  | quest {name : String} {b b' : List σ} (h : List.Forall₂ r b b') :
    Related r (.quest name b) (.quest name b')
  | node {kind name : String} {b b' : List σ} (h : List.Forall₂ r b b') :
    Related r (.node kind name b) (.node kind name b')
  | handler {event : String} {params : List String} {b b' : List σ} (h : List.Forall₂ r b b') :
    Related r (.handler event params b) (.handler event params b')
  | hostCode {code : String} : Related r (.hostCode code) (.hostCode code)

/-- Declarations that are related have the same heading, whatever the relation of their bodies. -/
theorem Declaration.Related.heading_eq {σ : Type} {r : σ → σ → Prop} {d d' : Declaration σ}
    (h : Related r d d') :
  d.heading = d'.heading
  := by
  have hbody : ∀ {b b' : List σ}, List.Forall₂ r b b' →
      b.map (fun _ => ()) = b'.map fun _ => () := by
    intro b b' hb
    rw [List.map_const', List.map_const', hb.length_eq]
  cases h with
  | dialogue hb => rw [heading, heading, hbody hb]
  | quest hb => rw [heading, heading, hbody hb]
  | node hb => rw [heading, heading, hbody hb]
  | handler hb => rw [heading, heading, hbody hb]
  | hostCode => rfl

/-- Statements that differ at most in their spans. -/
inductive Stmt.Respanned : Stmt → Stmt → Prop where
  | block {s s' : Span} {b b' : List Stmt} (h : List.Forall₂ Respanned b b') :
    Respanned (.block s b) (.block s' b')
  | declare {s s' : Span} {name : String} {e e' : Option Expr}
    (h : Option.Rel Expr.Respanned e e') : Respanned (.declare s name e) (.declare s' name e')
  | function {s s' : Span} {id : DeclId} {name : String} {params : List String}
    {b b' : List Stmt} (h : List.Forall₂ Respanned b b') :
    Respanned (.function s id name params b) (.function s' id name params b')
  | branch {s s' : Span} {c c' : Expr} {yes yes' : List Stmt} {no no' : Option (List Stmt)}
    (hc : c.Respanned c') (hyes : List.Forall₂ Respanned yes yes')
    (hno : Option.Rel (List.Forall₂ Respanned) no no') :
    Respanned (.branch s c yes no) (.branch s' c' yes' no')
  | whileLoop {s s' : Span} {c c' : Expr} {b b' : List Stmt} (hc : c.Respanned c')
    (h : List.Forall₂ Respanned b b') : Respanned (.whileLoop s c b) (.whileLoop s' c' b')
  | forIn {s s' : Span} {name : String} {e e' : Expr} {b b' : List Stmt} (he : e.Respanned e')
    (h : List.Forall₂ Respanned b b') : Respanned (.forIn s name e b) (.forIn s' name e' b')
  | forLoop {s s' : Span} {start start' : Option LoopStart} {c c' : Option Expr}
    {update update' : Option LoopUpdate} {b b' : List Stmt}
    (hstart : Option.Rel LoopStart.Respanned start start')
    (hc : Option.Rel Expr.Respanned c c')
    (hupdate : Option.Rel LoopUpdate.Respanned update update')
    (h : List.Forall₂ Respanned b b') :
    Respanned (.forLoop s start c update b) (.forLoop s' start' c' update' b')
  | ret {s s' : Span} {e e' : Option Expr} (h : Option.Rel Expr.Respanned e e') :
    Respanned (.ret s e) (.ret s' e')
  | expression {s s' : Span} {e e' : Expr} (h : e.Respanned e') :
    Respanned (.expression s e) (.expression s' e')
  | property {s s' : Span} {name : String} {e e' : Expr} (h : e.Respanned e') :
    Respanned (.property s name e) (.property s' name e')
  | handOff {s s' : Span} {what what' : Declaration Stmt}
    (h : Declaration.Related Respanned what what') :
    Respanned (.handOff s what) (.handOff s' what')

/-- Bodies that differ at most in their spans. -/
def Stmt.AllRespanned : List Stmt → List Stmt → Prop := List.Forall₂ Respanned

/-- Programs that differ at most in their spans. -/
def Program.Respanned (p q : Program) : Prop := Stmt.AllRespanned p.statements q.statements

/-- Function declarations that differ at most in their spans. -/
structure Function.Respanned (f g : Function) : Prop where
  id : f.id = g.id
  name : f.name = g.name
  params : f.params = g.params
  body : Stmt.AllRespanned f.body g.body

namespace Expr.Respanned

/-- Every expression differs from itself at most in its spans. -/
theorem refl (e : Expr) :
  e.Respanned e
  := by
  induction e using Expr.induct with
  | binary span op left right hl hr => exact .binary hl hr
  | unary span op operand h => exact .unary h
  | call span callee args ih => exact .call (List.forall₂_same.mpr ih)
  | member span target name h => exact .member h
  | index span target place h hi => exact .index h hi
  | assign span name value h => exact .assign h
  | identifier span name => exact .identifier
  | literal span value => exact .literal
  | list span items ih => exact .list (List.forall₂_same.mpr ih)
  | map span entries ih =>
    apply Respanned.map rfl
    apply List.forall₂_same.mpr
    intro e he
    obtain ⟨entry, hentry, rfl⟩ := List.mem_map.mp he
    exact ih entry hentry

/-- An expression that may be missing corresponds to itself. -/
theorem optional (e : Option Expr) :
  Option.Rel Respanned e e
  := by
  apply Option.rel_same
  intro e _
  apply refl

end Expr.Respanned

namespace Stmt.Respanned

-- induction on statements leaves out the bodies of declarations for the host, which count here
mutual

/-- Every statement differs from itself at most in its spans.  The four theorems are by recursion
over the tree, one for each way in which statements occur in it. -/
theorem refl : ∀ s : Stmt, s.Respanned s
  | .block _ b => .block (all b)
  | .declare _ _ e => .declare (Expr.Respanned.optional e)
  | .function _ _ _ _ b => .function (all b)
  | .branch _ c yes no => .branch (Expr.Respanned.refl c) (all yes) (optional no)
  | .whileLoop _ c b => .whileLoop (Expr.Respanned.refl c) (all b)
  | .forIn _ _ e b => .forIn (Expr.Respanned.refl e) (all b)
  | .forLoop _ _ c _ b =>
    .forLoop (Option.rel_same fun s _ => ⟨rfl, Expr.Respanned.refl s.value, rfl⟩)
      (Expr.Respanned.optional c)
      (Option.rel_same fun u _ => ⟨rfl, Expr.Respanned.refl u.value⟩) (all b)
  | .ret _ e => .ret (Expr.Respanned.optional e)
  | .expression _ e => .expression (Expr.Respanned.refl e)
  | .property _ _ e => .property (Expr.Respanned.refl e)
  | .handOff _ what => .handOff (declaration what)

/-- Every body corresponds to itself. -/
theorem all : ∀ b : List Stmt, List.Forall₂ Respanned b b
  | [] => .nil
  | s :: rest => .cons (refl s) (all rest)

/-- A body that may be missing corresponds to itself. -/
theorem optional : ∀ no : Option (List Stmt), Option.Rel (List.Forall₂ Respanned) no no
  | none => .none
  | some b => .some (all b)

/-- Every declaration is related to itself. -/
theorem declaration : ∀ what : Declaration Stmt, Declaration.Related Respanned what what
  | .dialogue _ b => .dialogue (all b)
  | .quest _ b => .quest (all b)
  | .node _ _ b => .node (all b)
  | .handler _ _ b => .handler (all b)
  | .hostCode _ => .hostCode

end

end Stmt.Respanned

/-! ### Values -/

/-- Closures in the same scope whose declarations differ at most in their spans. -/
structure Closure.Respanned (f g : Closure) : Prop where
  decl : f.decl.Respanned g.decl
  scope : f.scope = g.scope
  global : f.global = g.global

/-- Values that differ at most in the spans of the declarations in their closures. -/
abbrev Value.Respanned : Value → Value → Prop := Value.Related Closure.Respanned

/-- Every closure corresponds to itself. -/
theorem Closure.Respanned.refl (f : Closure) :
  f.Respanned f
  := ⟨⟨rfl, rfl, rfl, Stmt.Respanned.all f.decl.body⟩, rfl, rfl⟩

/-- Every value corresponds to itself: the closures in it do. -/
theorem Value.Respanned.refl (v : Value) :
  v.Respanned v
  := Value.Related.refl Closure.Respanned.refl v

/-- Scripts cannot tell respanned closures apart. -/
theorem Closure.Respanned.matching :
  Closure.Matching Closure.Respanned
  := by
  constructor
  · intro f g h
    exact h.decl.name
  · intro f g f' g' h h'
    rw [Closure.same, Closure.same, h.decl.id, h.scope, h'.decl.id, h'.scope]

/-! ### Scopes -/

/-- Scopes that bind the same names, to values that correspond.  The bindings are compared name by
name, since how they are stored depends on their history. -/
structure Scope.Respanned (s t : Scope) : Prop where
  parent : s.parent = t.parent
  bindings : ∀ name : String, Option.Rel Value.Respanned s.bindings[name]? t.bindings[name]?

/-- Every scope corresponds to itself. -/
theorem Scope.Respanned.refl (s : Scope) :
  s.Respanned s
  := ⟨rfl, fun _ => Option.rel_same fun v _ => Value.Respanned.refl v⟩

/-- Heaps with the same scopes, which bind the same names to values that correspond. -/
structure Heap.Respanned (h h' : Heap) : Prop where
  next : h.next = h'.next
  scopes : ∀ x, Option.Rel Scope.Respanned (h.scope? x) (h'.scope? x)

namespace Heap.Respanned

variable {h h' : Heap}

/-- Every heap corresponds to itself. -/
theorem refl (h : Heap) :
  h.Respanned h
  := ⟨rfl, fun _ => Option.rel_same fun s _ => Scope.Respanned.refl s⟩

/-- A new scope on either heap leaves heaps that correspond. -/
theorem alloc (H : h.Respanned h') (parent : Option ScopeId) :
  (h.alloc parent).Respanned (h'.alloc parent)
  := by
  constructor
  · rw [next_alloc, next_alloc, H.next]
  · intro x
    rw [scope?_alloc, scope?_alloc, H.next]
    split
    · exact .some (.refl _)
    · apply H.scopes

/-- Heaps still correspond after a name is bound to values that correspond. -/
theorem define (H : h.Respanned h') (x : ScopeId) (name : String) {v v' : Value}
    (hv : v.Respanned v') :
  (h.define x name v).Respanned (h'.define x name v')
  := by
  constructor
  · rw [next_define, next_define, H.next]
  · intro y
    have hscope := H.scopes y
    rw [scope?_define, scope?_define]
    split
    · generalize h.scope? y = s, h'.scope? y = t at hscope
      cases hscope with
      | none => exact .none
      | some hst =>
        refine .some ⟨hst.parent, ?_⟩
        intro other
        rw [Std.TreeMap.getElem?_insert, Std.TreeMap.getElem?_insert]
        split
        · exact .some hv
        · apply hst.bindings
    · exact hscope

/-- The nearest binding of a name is in the same scope of either heap, with values that correspond.
-/
theorem nearestWithin (H : h.Respanned h') (name : String) (fuel : Nat) (x : ScopeId) :
  Option.Rel (fun p q => p.1 = q.1 ∧ p.2.Respanned q.2) (h.nearestWithin name fuel x)
    (h'.nearestWithin name fuel x)
  := by
  induction fuel generalizing x with
  | zero => exact .none
  | succ fuel ih =>
    have hscope := H.scopes x
    rw [Heap.nearestWithin, Heap.nearestWithin]
    generalize h.scope? x = s, h'.scope? x = t at hscope
    cases hscope with
    | none => exact .none
    | @some s t hst =>
      have hbinding := hst.bindings name
      dsimp only
      rw [hst.parent]
      generalize s.bindings[name]? = v, t.bindings[name]? = v' at hbinding
      cases hbinding with
      | some hv => exact .some ⟨rfl, hv⟩
      | none =>
        cases t.parent with
        | none => exact .none
        | some parent => exact ih parent

/-- A name has values that correspond, or a value in neither heap. -/
theorem lookup (H : h.Respanned h') (x : ScopeId) (name : String) :
  Option.Rel Value.Respanned (h.lookup x name) (h'.lookup x name)
  := by
  have hnearest := H.nearestWithin name (x + 1) x
  rw [Heap.lookup_eq_nearest, Heap.lookup_eq_nearest, Heap.nearest, Heap.nearest]
  generalize h.nearestWithin name (x + 1) x = p, h'.nearestWithin name (x + 1) x = q at hnearest
  cases hnearest with
  | none => exact .none
  | some hpq => exact .some hpq.2

/-- An assignment of values that correspond succeeds on both heaps or on neither, and leaves heaps
that correspond. -/
theorem assign (H : h.Respanned h') (x : ScopeId) (name : String) {v v' : Value}
    (hv : v.Respanned v') :
  (h.assign x name v).1.Respanned (h'.assign x name v').1
    ∧ (h.assign x name v).2 = (h'.assign x name v').2
  := by
  have hnearest := H.nearestWithin name (x + 1) x
  rw [Heap.assign_eq_nearest, Heap.assign_eq_nearest, Heap.nearest, Heap.nearest]
  generalize h.nearestWithin name (x + 1) x = p, h'.nearestWithin name (x + 1) x = q at hnearest
  cases hnearest with
  | none => exact ⟨H, rfl⟩
  | @some p q hpq =>
    obtain ⟨y, w⟩ := p
    obtain ⟨y', w'⟩ := q
    obtain ⟨rfl, -⟩ : y = y' ∧ w.Respanned w' := hpq
    exact ⟨H.define y name hv, rfl⟩

end Heap.Respanned

/-! ### Calls and errors -/

/-- The names of the frames. -/
def Backtrace.names (b : Backtrace) : List String := b.map Frame.name

/-- Call stacks whose frames have the same names, under the same limit. -/
structure CallStack.Respanned (c d : CallStack) : Prop where
  names : Backtrace.names c.frames = Backtrace.names d.frames
  limit : c.limit = d.limit

/-- Errors with the same cause, in calls with the same names. -/
structure Error.Respanned (e e' : Error) : Prop where
  cause : e.cause = e'.cause
  names : e.backtrace.map Backtrace.names = e'.backtrace.map Backtrace.names

namespace CallStack.Respanned

variable {c d : CallStack}

/-- Stacks that correspond have the same depth. -/
theorem depth_eq (h : c.Respanned d) :
  c.depth = d.depth
  := by
  have hlength := congrArg List.length h.names
  rw [Backtrace.names, Backtrace.names, List.length_map, List.length_map] at hlength
  exact hlength

/-- Stacks still correspond under frames of the same name. -/
theorem cons (h : c.Respanned d) {f g : Frame} (hname : f.name = g.name) (limit : Option Nat) :
  CallStack.Respanned ⟨f :: c.frames, limit⟩ ⟨g :: d.frames, limit⟩
  := by
  constructor
  · show f.name :: Backtrace.names c.frames = g.name :: Backtrace.names d.frames
    rw [hname, h.names]
  · rfl

/-- A frame of the same name is refused by both stacks for the same cause or fits on both. -/
theorem push (h : c.Respanned d) {f g : Frame} (hname : f.name = g.name) :
  Agree Respanned (c.push f) (d.push g)
  := by
  unfold CallStack.push
  rw [h.limit, h.depth_eq]
  split
  · split
    · exact .error _
    · exact .ok (h.cons hname _)
  · exact .ok (h.cons hname _)

/-- Stacks that correspond still do without their topmost frames. -/
theorem pop (h : c.Respanned d) :
  c.pop.Respanned d.pop
  := by
  constructor
  · show c.frames.tail.map Frame.name = d.frames.tail.map Frame.name
    rw [List.map_tail, List.map_tail]
    exact congrArg List.tail h.names
  · exact h.limit

/-- Errors that get their backtraces from stacks that correspond still correspond. -/
theorem attach (h : c.Respanned d) {e e' : Error} (he : e.Respanned e') :
  (c.attach e).Respanned (d.attach e')
  := by
  have hnames : ∀ b : Backtrace, List.isEmpty b = b.names.isEmpty := by
    intro b
    cases b <;> rfl
  have hactive : c.frames.isEmpty = d.frames.isEmpty := by
    rw [hnames, hnames, h.names]
  have hknown : e.backtrace.isSome = e'.backtrace.isSome := by
    rw [← Option.isSome_map, he.names, Option.isSome_map]
  unfold CallStack.attach
  rw [hactive, hknown]
  split
  · exact he
  · exact ⟨he.cause, congrArg some h.names⟩

end CallStack.Respanned

namespace Error.Respanned

/-- Every error corresponds to itself. -/
theorem refl (e : Error) :
  e.Respanned e
  := ⟨rfl, rfl⟩

/-- A place, or a dummy one, changes neither the cause nor the calls. -/
theorem orSpan {e e' : Error} (h : e.Respanned e') (span span' : Span) :
  (e.orSpan span).Respanned (e'.orSpan span')
  := by
  have hbacktrace : ∀ (e : Error) (span : Span), (e.orSpan span).backtrace = e.backtrace := by
    intro e span
    unfold Error.orSpan
    split <;> rfl
  constructor
  · rw [cause_orSpan, cause_orSpan, h.cause]
  · rw [hbacktrace, hbacktrace, h.names]

end Error.Respanned

/-! ### What the host keeps -/

/-- Declarations that differ at most in their spans. -/
def HandedOff.Respanned (d d' : HandedOff) : Prop :=
  Declaration.Related Stmt.Respanned d.what d'.what

/-- Logs with declarations that correspond. -/
def DeclarationLog.Respanned (log log' : DeclarationLog) : Prop :=
  List.Forall₂ (fun a b => a.1 = b.1 ∧ a.2.Respanned b.2) log.entries log'.entries

/-- Callbacks that correspond. -/
inductive Callback.Respanned : Callback → Callback → Prop where
  | native {name : String} {run : List Value → Except BuiltinError Value} :
    Respanned (.native name run) (.native name run)
  | builtin {name : String} : Respanned (.builtin name) (.builtin name)
  | closure {f g : Closure} (h : f.Respanned g) : Respanned (.closure f) (.closure g)

/-- Timers of a script that are due at the same time, with calls that correspond. -/
structure Timer.Respanned (t u : Timer) : Prop where
  due : t.due = u.due
  script : t.script = u.script
  callback : t.call.callback.Respanned u.call.callback
  args : List.Forall₂ Value.Respanned t.call.args u.call.args

/-- Queues of the same timers, with calls that correspond. -/
structure TimerQueue.Respanned (q r : TimerQueue) : Prop where
  now : q.now = r.now
  issued : q.issued = r.issued
  pending : ∀ id : TimerId, Option.Rel Timer.Respanned q.pending[id]? r.pending[id]?

/-- Every log corresponds to itself. -/
theorem DeclarationLog.Respanned.refl (log : DeclarationLog) :
  log.Respanned log
  := List.forall₂_same.mpr fun e _ => ⟨rfl, Stmt.Respanned.declaration e.2.what⟩

/-- Every callback corresponds to itself. -/
theorem Callback.Respanned.refl (callback : Callback) :
  callback.Respanned callback
  := by
  cases callback with
  | native => exact .native
  | builtin => exact .builtin
  | closure f => exact .closure (.refl f)

/-- Every queue of timers corresponds to itself. -/
theorem TimerQueue.Respanned.refl (q : TimerQueue) :
  q.Respanned q
  := by
  constructor
  · rfl
  · rfl
  · intro id
    apply Option.rel_same
    intro t _
    exact ⟨rfl, rfl, .refl _, List.forall₂_same.mpr fun v _ => Value.Respanned.refl v⟩

/-- A sink sees the same of logs that correspond. -/
theorem DeclarationLog.Respanned.headings_eq {log log' : DeclarationLog} (h : log.Respanned log') :
  log.headings = log'.headings
  := by
  have hsame : List.Forall₂ (· = ·) log.headings log'.headings := by
    rw [headings, headings, List.forall₂_map_left_iff, List.forall₂_map_right_iff]
    apply List.Forall₂.imp _ h
    intro a b ⟨hscript, hd⟩
    exact Prod.ext hscript (Declaration.Related.heading_eq hd)
  rwa [List.forall₂_eq_eq_eq] at hsame

/-- A sink does the same with declarations that correspond. -/
theorem Sink.respanned_receive (sink : Sink) (script : ScriptId) {d d' : HandedOff}
    {log log' : DeclarationLog} (hd : d.Respanned d') (hlog : log.Respanned log') :
  (sink.receive script d log).1.Respanned (sink.receive script d' log').1
    ∧ (sink.receive script d log).2 = (sink.receive script d' log').2
  := by
  have hheadings := hlog.headings_eq
  have hwhat : Declaration.Related Stmt.Respanned d.what d'.what := hd
  constructor
  · rw [receive, receive, sink.records_eq script hheadings hwhat.heading_eq]
    split
    · exact .cons ⟨rfl, hd⟩ hlog
    · exact hlog
  · show sink.answer log script d.what = sink.answer log' script d'.what
    generalize d.what = what, d'.what = what' at hwhat
    cases hwhat with
    | hostCode => exact sink.runs_eq script _ hheadings
    | _ => rfl

/-! ### States -/

/-- Contexts of a script with the same scopes, in calls with the same names. -/
structure Context.Respanned (c d : Context) : Prop where
  script : c.script = d.script
  env : c.env = d.env
  calls : c.calls.Respanned d.calls

/-- Hosts that printed the same and have the same runs, with scopes, declarations and timers that
correspond. -/
structure Host.Respanned (h h' : Host) : Prop where
  heap : h.heap.Respanned h'.heap
  console : h.console = h'.console
  log : h.log.Respanned h'.log
  timers : h.timers.Respanned h'.timers
  runs : h.runs = h'.runs

/-- Scenes that differ at most in spans. -/
structure Scene.Respanned (s t : Scene) : Prop where
  context : s.context.Respanned t.context
  host : s.host.Respanned t.host

/-- States that differ at most in spans. -/
structure State.Respanned (s t : State) : Prop where
  scene : s.scene.Respanned t.scene
  budget : s.budget = t.budget

/-- Every scene corresponds to itself. -/
theorem Scene.Respanned.refl (s : Scene) :
  s.Respanned s
  := ⟨⟨rfl, rfl, rfl, rfl⟩, .refl _, rfl, .refl _, .refl _, rfl⟩

namespace State.Respanned

variable {s t : State}

/-- States that correspond have the same environment, scope by scope. -/
theorem env_eq (h : s.Respanned t) :
  s.env = t.env
  := h.scene.context.env

/-- States that correspond have heaps that do. -/
theorem heap (h : s.Respanned t) :
  s.heap.Respanned t.heap
  := h.scene.host.heap

/-- States that correspond have call stacks that do. -/
theorem calls (h : s.Respanned t) :
  s.calls.Respanned t.calls
  := h.scene.context.calls

/-- States that correspond belong to the same script. -/
theorem script_eq (h : s.Respanned t) :
  s.scene.context.script = t.scene.context.script
  := h.scene.context.script

/-- States that correspond have the same runs and stop requests. -/
theorem runs_eq (h : s.Respanned t) :
  s.scene.host.runs = t.scene.host.runs
  := h.scene.host.runs

/-- States still correspond with other heaps that do. -/
theorem withHeap (h : s.Respanned t) {k k' : Heap} (hk : k.Respanned k') :
  State.Respanned { s with scene.host.heap := k } { t with scene.host.heap := k' }
  := ⟨⟨h.scene.context, { h.scene.host with heap := hk }⟩, h.budget⟩

/-- States still correspond in another environment, the same for both. -/
theorem within (h : s.Respanned t) (env : Environment) :
  (s.within env).Respanned (t.within env)
  := ⟨⟨{ h.scene.context with env := rfl }, h.scene.host⟩, h.budget⟩

/-- A checkpoint at a call changes both states alike: it only uses up budget. -/
theorem checked (h : s.Respanned t) :
  s.checked.Respanned t.checked
  := ⟨h.scene, congrArg Budget.checked h.budget⟩

/-- A checkpoint at a round of a loop changes both states alike. -/
theorem ticked (h : s.Respanned t) :
  s.ticked.Respanned t.ticked
  := ⟨h.scene, congrArg (fun b => b.counted.checked) h.budget⟩

/-- A variable has values that correspond, or a value in neither state. -/
theorem get? (h : s.Respanned t) (name : String) :
  Option.Rel Value.Respanned (s.scene.get? name) (t.scene.get? name)
  := by
  show Option.Rel _ (s.heap.lookup s.env.current name) (t.heap.lookup t.env.current name)
  rw [h.env_eq]
  apply h.heap.lookup

/-- States still correspond after a variable is declared with values that correspond. -/
theorem defined (h : s.Respanned t) (name : String) {v v' : Value} (hv : v.Respanned v') :
  (s.defined name v).Respanned (t.defined name v')
  := by
  have hheap := h.heap.define s.env.current name hv
  rw [h.env_eq] at hheap
  show State.Respanned { s with scene.host.heap := s.heap.define s.env.current name v } _
  rw [h.env_eq]
  exact h.withHeap hheap

/-- An assignment of values that correspond succeeds in both states or in neither, and leaves states
that correspond. -/
theorem assigned (h : s.Respanned t) (name : String) {v v' : Value} (hv : v.Respanned v') :
  (s.assigned name v).Respanned (t.assigned name v')
    ∧ (s.scene.assign name v).2 = (t.scene.assign name v').2
  := by
  have hheap := h.heap.assign s.env.current name hv
  constructor
  · show State.Respanned
      { s with scene.host.heap := (s.heap.assign s.env.current name v).1 }
      { t with scene.host.heap := (t.heap.assign t.env.current name v').1 }
    rw [← h.env_eq]
    exact h.withHeap hheap.1
  · show (s.heap.assign s.env.current name v).2 = (t.heap.assign t.env.current name v').2
    rw [← h.env_eq]
    exact hheap.2

/-- States still correspond with other logs that do. -/
theorem logged (h : s.Respanned t) {log log' : DeclarationLog} (hlog : log.Respanned log') :
  (s.logged log).Respanned (t.logged log')
  := ⟨⟨h.scene.context, { h.scene.host with log := hlog }⟩, h.budget⟩

/-- Both states enter a scope of the same number. -/
theorem pushed (h : s.Respanned t) :
  s.pushed.Respanned t.pushed
  := by
  have hheap := h.heap.alloc (some s.env.current)
  constructor
  · constructor
    · refine { h.scene.context with env := ?_ }
      show s.env.push s.heap.next = t.env.push t.heap.next
      rw [h.env_eq, h.heap.next]
    · refine { h.scene.host with heap := ?_ }
      show (s.heap.alloc (some s.env.current)).Respanned (t.heap.alloc (some t.env.current))
      rw [← h.env_eq]
      exact hheap
  · exact h.budget

/-- Both states leave the same scope. -/
theorem popped (h : s.Respanned t) :
  s.popped.Respanned t.popped
  := ⟨⟨{ h.scene.context with env := congrArg Environment.pop h.env_eq }, h.scene.host⟩, h.budget⟩

/-- States still correspond when calls of the same names are entered. -/
theorem entered (h : s.Respanned t) {c d : CallStack} (hcalls : c.Respanned d) :
  (s.entered c).Respanned (t.entered d)
  := by
  constructor
  · exact ⟨{ h.scene.context with calls := hcalls }, h.scene.host⟩
  · show s.budget.nested c.depth = t.budget.nested d.depth
    rw [h.budget, hcalls.depth_eq]

/-- States still correspond when a call is left. -/
theorem left (h : s.Respanned t) :
  s.left.Respanned t.left
  := ⟨⟨{ h.scene.context with calls := h.calls.pop }, h.scene.host⟩, h.budget⟩

/-- States inside of closures that correspond do, too: the closures have the same scopes. -/
theorem inside (h : s.Respanned t) {f g : Closure} (hf : f.Respanned g) :
  (s.inside f).Respanned (t.inside g)
  := by
  unfold State.inside
  rw [hf.scope, hf.global]
  exact (h.within _).pushed

end State.Respanned

end StoryScript
