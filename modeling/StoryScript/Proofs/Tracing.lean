import Mathlib.Data.List.Basic
import StoryScript.Proofs.Keeping
import StoryScript.Proofs.Parts

/-!
# What a task does to the log of declarations

A declaration that is handed off is an event for the log, and so is a request to forget what a
script declared.  The evaluator itself touches the log at one place only, where it hands a
declaration off: between its parts a task leaves the log as it is.  So the events of a task are
its own ones and those of its parts, in order.  Main statement: when a task ends, and at every
moment of it, the log is that of its beginning after the events up to then.
-/

namespace StoryScript

open Eval

/-! ### Events -/

/-- What happens to the log of declarations. -/
inductive LogEvent where
  /-- A script hands a declaration off. -/
  | handedOff (script : ScriptId) (d : HandedOff)
  /-- The declarations of a script are forgotten. -/
  | cleared (script : ScriptId)

namespace DeclarationLog

/-- The log after one event. -/
def after (log : DeclarationLog) : LogEvent → DeclarationLog
  | .handedOff script d => log.record script d
  | .cleared script => log.clear script

/-- The log after some events, the first one first. -/
def replay (log : DeclarationLog) (events : List LogEvent) : DeclarationLog :=
  events.foldl after log

/-- Events happen to a log one after the other. -/
theorem replay_append (log : DeclarationLog) (before events : List LogEvent) :
  log.replay (before ++ events) = (log.replay before).replay events
  := List.foldl_append

end DeclarationLog

/-- The log of declarations. -/
def State.log (s : State) : DeclarationLog := s.scene.host.log

/-- What the built-ins with these names do to the log, given the arguments and the scene. -/
abbrev Telling := String → List Value → Scene → List LogEvent

/-- The answers of an action leave the log after the events that are told. -/
def Action.Replays {ε α : Type} (a : Action Scene ε α) (told : Scene → List LogEvent) : Prop :=
  ∀ s t, (a s).state? = some t → t.host.log = s.host.log.replay (told s)

/-- Declarations are logged, and it is told what the built-ins do to the log. -/
structure Setting.Logging (S : Setting) (B : Telling) : Prop where
  sink : S.sink = .log
  dispatch : ∀ name args, (S.builtins.dispatch name args).Replays (B name args)

namespace Task

/-- The events of a task itself: it hands a declaration off, or it is a built-in, of which it is
told what it does. -/
def ownEvents (B : Telling) : Task → State → List LogEvent
  | stmt (_ + 1) (.handOff span what), s => [.handedOff s.scene.context.script ⟨span, what⟩]
  | dispatch name args, s => B name args s.scene
  | _, _ => []

/-- A bound for the number of tasks inside of each other. -/
def height : Task → Nat
  | dispatch _ _ => 0
  | builtin _ _ _ => 1
  | expr n _ | stmt n _ | call n _ _ _ => 3 * n + 2
  | body n _ => 3 * n + 3
  | loop n _ => 3 * n + 4
  | job n _ => 3 * n + 5

/-- A part of a task has less left to go down than the task. -/
theorem height_lt_of_enters {S : Setting} {task task' : Task} {s t : State}
    (h : Enters S task s task' t) :
  task'.height < task.height
  := by
  cases h <;> simp only [height] <;> omega

/-- The events of a task whose height is less than the bound. -/
def eventsWithin (S : Setting) (B : Telling) : (bound : Nat) → Task → State → List LogEvent
  | 0, _, _ => []
  | bound + 1, task, s =>
    task.ownEvents B s ++ (task.parts S s).flatMap fun p => eventsWithin S B bound p.1 p.2

/-- The events of a task: its own ones, and then those of its parts. -/
def events (S : Setting) (B : Telling) (task : Task) (s : State) : List LogEvent :=
  task.eventsWithin S B (task.height + 1) s

variable {S : Setting} {B : Telling} {task task' : Task} {s t : State}

/-- The events of a task do not depend on the bound for its depth, as long as there is room. -/
theorem eventsWithin_eq {k l : Nat} (hk : task.height < k) (hl : task.height < l) :
  task.eventsWithin S B k s = task.eventsWithin S B l s
  := by
  induction k generalizing l task s with
  | zero => cases hk
  | succ k ih =>
    obtain ⟨l, rfl⟩ := Nat.exists_eq_add_one_of_ne_zero (Nat.ne_zero_of_lt hl)
    have hparts : ∀ p ∈ task.parts S s,
        p.1.eventsWithin S B k p.2 = p.1.eventsWithin S B l p.2 := by
      intro p hp
      have hlower := height_lt_of_enters (mem_parts_iff.mp hp)
      apply ih
      · omega
      · omega
    rw [eventsWithin, eventsWithin, List.flatMap_congr hparts]

/-- The events of a task are its own ones and then those of its parts, in the order of the parts. -/
theorem events_eq (S : Setting) (B : Telling) (task : Task) (s : State) :
  task.events S B s
    = task.ownEvents B s ++ (task.parts S s).flatMap fun p => p.1.events S B p.2
  := by
  rw [events, eventsWithin]
  congr 1
  apply List.flatMap_congr
  intro p hp
  apply eventsWithin_eq
  · exact height_lt_of_enters (mem_parts_iff.mp hp)
  · exact Nat.lt_succ_self _

/-- What holds of a task if it holds of its parts, holds of every task. -/
theorem induction_on_parts {P : Task → State → Prop}
    (h : ∀ task s, (∀ p ∈ task.parts S s, P p.1 p.2) → P task s) (task : Task) (s : State) :
  P task s
  := by
  induction hheight : task.height using Nat.strongRecOn generalizing task s with
  | _ k ih =>
    apply h
    intro p hp
    have hlower := height_lt_of_enters (mem_parts_iff.mp hp)
    rw [hheight] at hlower
    exact ih _ hlower p.1 p.2 rfl

end Task

/-! ### The log between the parts -/

/-- From one part to the next one the log stays as it is.  The log at the end is given, unless the
fuel is used up before. -/
inductive LogPath (S : Setting) : DeclarationLog → List Part → Option DeclarationLog → Prop where
  | ended {log : DeclarationLog} : LogPath S log [] (some log)
  | exhausted {log : DeclarationLog} : LogPath S log [] none
  | inside {task : Task} {s : State} (h : task.after? S s = none) : LogPath S s.log [(task, s)] none
  | part {task : Task} {s t : State} {rest : List Part} {final : Option DeclarationLog}
    (h : task.after? S s = some t) (hrest : LogPath S t.log rest final) :
    LogPath S s.log ((task, s) :: rest) final

namespace LogPath

variable {S : Setting} {B : Telling} {log : DeclarationLog} {first rest : List Part}
  {final : Option DeclarationLog}

/-- A path of the log through some parts goes on through those that follow. -/
theorem append {log' : DeclarationLog} (h : LogPath S log first (some log'))
    (hrest : LogPath S log' rest final) :
  LogPath S log (first ++ rest) final
  := by
  generalize hend : some log' = o at h
  induction h with
  | ended =>
    cases hend
    exact hrest
  | exhausted | inside => cases hend
  | part h _ ih => exact .part h (ih hend)

/-- Where a part begins the log is the one that the parts before it left. -/
theorem before {p : Part} (h : LogPath S log (first ++ p :: rest) final) :
  LogPath S log first (some p.2.log)
  := by
  induction first generalizing log with
  | nil =>
    rw [List.nil_append] at h
    cases h <;> exact .ended
  | cons q first ih =>
    rw [List.cons_append] at h
    generalize hall : first ++ p :: rest = parts at h
    cases h with
    | inside => simp at hall
    | part hq hrest =>
      subst hall
      exact .part hq (ih hrest)

/-- Along a path the log changes by the events of the parts, one part after the other. -/
theorem replay {log' : DeclarationLog} {events : Part → List LogEvent}
    (h : LogPath S log first (some log'))
    (hparts : ∀ p ∈ first, ∀ t, p.1.after? S p.2 = some t → t.log = p.2.log.replay (events p)) :
  log' = log.replay (first.flatMap events)
  := by
  generalize hend : some log' = o at h
  induction h with
  | ended =>
    cases hend
    rfl
  | exhausted | inside => cases hend
  | part h _ ih =>
    obtain ⟨hfirst, hothers⟩ := List.forall_mem_cons.mp hparts
    rw [List.flatMap_cons, DeclarationLog.replay_append, ← hfirst _ h]
    exact ih hothers hend

end LogPath

/-- Names that are bound leave the log alone. -/
theorem State.log_bound (s : State) (pairs : List (String × Value)) :
  (s.bound pairs).log = s.log
  := by
  induction pairs generalizing s with
  | nil => rfl
  | cons p rest ih => exact ih (s.defined p.1 p.2)

/-- The evaluation changes the log in these parts only. -/
def Eval.Delegates {α : Type} (S : Setting) (a : Eval α) (parts : State → List Part) : Prop :=
  ∀ s, LogPath S s.log (parts s) ((a s).state?.map State.log)

/-- The second state has the log of the first one. -/
def State.SameLog (s t : State) : Prop := t.log = s.log

/-- The evaluation leaves the log as it is. -/
def Eval.Quiet {α : Type} (a : Eval α) : Prop := Action.Keeps State.SameLog a

namespace State.SameLog

theorem refl (s : State) :
  s.SameLog s
  := rfl

theorem trans {s t u : State} (h : s.SameLog t) (h' : t.SameLog u) :
  s.SameLog u
  := Eq.trans h' h

end State.SameLog

namespace Eval

variable {S : Setting} {α β : Type} {parts : State → List Part}

namespace Quiet

/-- What leaves the log alone has no parts. -/
theorem delegates {a : Eval α} (h : a.Quiet) :
  a.Delegates S fun _ => []
  := by
  intro s
  cases ht : (a s).state? with
  | none => exact .exhausted
  | some t =>
    rw [Option.map_some, h s t ht]
    exact .ended

/-- A value by itself leaves the log alone. -/
theorem pure (v : α) :
  (Pure.pure v : Eval α).Quiet
  := Action.keeps_pure State.SameLog.refl v

/-- Reading the state leaves the log alone. -/
theorem gets (f : State → α) :
  Eval.Quiet (Action.gets f)
  := Action.keeps_gets State.SameLog.refl f

/-- An answer leaves the log alone. -/
theorem ofExcept (x : Except Cause α) :
  (Eval.ofExcept x).Quiet
  := keeps_ofExcept State.SameLog.refl x

/-- A sequence leaves the log alone if both actions do. -/
theorem bind {a : Eval α} {f : α → Eval β} (ha : a.Quiet) (hf : ∀ v, (f v).Quiet) :
  (a >>= f).Quiet
  := Action.Keeps.bind ha .trans hf

/-- The declaration of a variable leaves the log alone. -/
theorem define (name : String) (v : Value) :
  (Eval.define name v).Quiet
  := Action.keeps_modify fun _ => rfl

/-- An assignment leaves the log alone, whether it succeeds or not. -/
theorem assign (name : String) (v : Value) :
  (Eval.assign name v).Quiet
  := keeps_assign (fun _ _ _ => rfl) name v

/-- A checkpoint in a loop leaves the log alone. -/
theorem tick :
  (Eval.tick S).Quiet
  := keeps_tick fun _ => rfl

/-- The resolution of a name leaves the log alone. -/
theorem resolve (name : String) :
  (Eval.resolve S name).Quiet
  := keeps_resolve State.SameLog.refl .trans name

end Quiet

namespace Delegates

/-- A task has itself as its only part. -/
theorem task {a : Eval α} {task : Task} (h : ∀ s, task.after? S s = (a s).state?) :
  a.Delegates S fun s => [(task, s)]
  := by
  intro s
  rw [← h s]
  cases ht : task.after? S s with
  | none => exact .inside ht
  | some t => exact .part ht .ended

/-- A sequence has the parts of the first action and then those of the second one. -/
theorem bind {a : Eval α} {f : α → Eval β} {next : α → State → List Part}
    (ha : a.Delegates S parts) (hf : ∀ v, (f v).Delegates S (next v)) :
  (a >>= f).Delegates S fun s => parts s ++ (a s).andThen next
  := by
  intro s
  have hs := ha s
  show LogPath S s.log (parts s ++ (a s).andThen next) _
  rw [Action.bind_apply]
  generalize a s = o at hs ⊢
  cases o with
  | done v t => exact hs.append (hf v t)
  | failed e t => exact hs.append .ended
  | outOfFuel =>
    show LogPath S s.log (parts s ++ []) none
    rw [List.append_nil]
    exact hs

/-- What does nothing to the log afterwards adds no parts. -/
theorem followed {a : Eval α} {f : α → Eval β} (ha : a.Delegates S parts)
    (hf : ∀ v, (f v).Quiet) :
  (a >>= f).Delegates S parts
  := by
  have hbind := ha.bind fun v => (hf v).delegates
  intro s
  have hs := hbind s
  have hnone : (a s).andThen (fun _ _ => []) = ([] : List Part) := by
    cases a s <;> rfl
  dsimp only at hs
  rw [hnone, List.append_nil] at hs
  exact hs

/-- A place does not change the parts. -/
theorem located {a : Eval α} {span : Span} (ha : a.Delegates S parts) :
  (Eval.located span a).Delegates S parts
  := by
  intro s
  rw [located_apply, Outcome.state?_treated, Option.map_id]
  exact ha s

/-- What runs in a new scope has its parts there. -/
theorem inScope {a : Eval α} (ha : a.Delegates S parts) :
  (Eval.inScope a).Delegates S fun s => parts s.pushed
  := by
  intro s
  rw [inScope_apply, Outcome.state?_treated, Option.map_map]
  exact ha s.pushed

/-- What runs in a closure has its parts in the scopes of the closure. -/
theorem inClosure {a : Eval α} {f : Closure} (ha : a.Delegates S parts) :
  (Eval.inClosure f a).Delegates S fun s => parts (s.inside f)
  := by
  intro s
  rw [inClosure_apply, Outcome.state?_treated, Option.map_map]
  exact ha (s.inside f)

/-- What runs in a call has its part under the frame, if the call is admitted. -/
theorem inFrame {a : Eval α} {frame : Frame} {part : State → Part}
    (ha : a.Delegates S fun s => [part s]) :
  (Eval.inFrame S frame a).Delegates S fun s => (S.admit? frame s).toList.map part
  := by
  intro s
  show LogPath S s.log ((S.admit? frame s).toList.map part) _
  rw [inFrame_apply, Setting.admit?]
  cases s.budget.callVerdict S.limits S.clock s.scene.host.runs with
  | some why => exact .ended
  | none =>
    cases s.calls.push frame with
    | error cause => exact .ended
    | ok calls =>
      dsimp only
      rw [Outcome.state?_treated, Option.map_map]
      exact ha (s.checked.entered calls)

/-- Some variables are bound first. -/
theorem bound {a : Eval α} (pairs : List (String × Value)) (ha : a.Delegates S parts) :
  (change (fun s => s.defineAll pairs) >>= fun _ => a).Delegates S fun s => parts (s.bound pairs)
  := by
  intro s
  rw [bound_apply, ← s.log_bound pairs]
  exact ha (s.bound pairs)

/-- Evaluations of the items of a list, each in one part. -/
theorem each {γ : Type} {f : γ → Eval β} {part : γ → Task}
    (hf : ∀ x, (f x).Delegates S fun s => [(part x, s)]) (xs : List γ) :
  Delegates S (Action.each f xs) (Task.eachParts f part xs)
  := by
  induction xs with
  | nil => exact (Quiet.pure _).delegates
  | cons x rest ih =>
    apply (hf x).bind
    intro v
    apply ih.followed
    intro vs
    exact .pure _

/-- The evaluation of an expression is a part. -/
theorem expr (n : Nat) (e : Expr) :
  (evalExpr S n e).Delegates S fun s => [(.expr n e, s)]
  := task fun _ => rfl

/-- The execution of a statement is a part. -/
theorem stmt (n : Nat) (st : Stmt) :
  (execStmt S n st).Delegates S fun s => [(.stmt n st, s)]
  := task fun _ => rfl

/-- The execution of a body is a part. -/
theorem body (n : Nat) (stmts : List Stmt) :
  (sequence (execStmt S n) .null stmts).Delegates S fun s => [(.body n stmts, s)]
  := task fun _ => rfl

/-- A block has its body as a part, in the new scope. -/
theorem block (n : Nat) (stmts : List Stmt) :
  (execBlock S n stmts).Delegates S fun s => [(.body n stmts, s.pushed)]
  := (body n stmts).inScope

/-- An expression that may be missing is a part if it is there. -/
theorem optional (n : Nat) (e : Option Expr) :
  (optionalValue (evalExpr S n) e).Delegates S (Task.optionParts n e)
  := by
  cases e with
  | none => exact (Quiet.pure _).delegates
  | some e => exact expr n e

/-- A body has as parts the statements that are reached. -/
theorem sequence (n : Nat) (last : Value) (stmts : List Stmt) :
  (Eval.sequence (execStmt S n) last stmts).Delegates S (Task.bodyParts S n stmts)
  := by
  induction stmts generalizing last with
  | nil => exact (Quiet.pure _).delegates
  | cons st rest ih =>
    apply (stmt n st).bind
    intro flow
    cases flow with
    | normal v => exact ih v
    | returned v => exact (Quiet.pure _).delegates

/-- A loop over values has as parts the bodies for the values that are reached. -/
theorem forEach (n : Nat) (name : String) (stmts : List Stmt) (vs : List Value) :
  (Eval.forEach S (fun v => execWith S n [(name, v)] stmts) vs).Delegates S
    (Task.elementParts S n name stmts vs)
  := by
  induction vs with
  | nil => exact (Quiet.pure _).delegates
  | cons v rest ih =>
    apply Quiet.tick.delegates.bind
    intro _
    apply ((body n stmts).bound [(name, v)]).inScope.bind
    intro flow
    cases flow with
    | normal w => exact ih
    | returned w => exact (Quiet.pure _).delegates

/-- A loop has as parts the conditions, bodies and steps that are reached. -/
theorem rounds (n : Nat) (l : Loop) (k : Nat) :
  (Eval.rounds S (l.test S n) (execBlock S n l.body) (l.step S n) k).Delegates S
    (Task.roundParts S n l k)
  := by
  induction k with
  | zero =>
    intro s
    exact .exhausted
  | succ k ih =>
    have htest : (l.test S n).Delegates S (Task.optionParts n l.condition) := by
      obtain ⟨c, update, stmts⟩ := l
      cases c with
      | none => exact (Quiet.pure _).delegates
      | some e => exact (expr n e).followed fun _ => .pure _
    have hstep : (l.step S n).Delegates S
        (Task.optionParts n (l.update.map LoopUpdate.value)) := by
      obtain ⟨c, update, stmts⟩ := l
      cases update with
      | none => exact (Quiet.pure _).delegates
      | some u => exact (expr n u.value).followed fun _ => .assign _ _
    apply htest.bind
    intro goesOn
    cases goesOn with
    | false => exact (Quiet.pure _).delegates
    | true =>
      apply Quiet.tick.delegates.bind
      intro _
      apply (block n l.body).bind
      intro flow
      cases flow with
      | returned v => exact (Quiet.pure _).delegates
      | normal v => exact hstep.bind fun _ => ih

/-- The call of a closure is a part. -/
theorem closure (n : Nat) (f : Closure) (args : List Value) (span : Option Span) :
  (callClosure S n f args span).Delegates S fun s => [(.call n f args span, s)]
  := task fun _ => rfl

/-- The call of a built-in is a part. -/
theorem callBuiltin (name : String) (args : List Value) (span : Option Span) :
  (Eval.callBuiltin S name args span).Delegates S fun s => [(.builtin name args span, s)]
  := task fun _ => rfl

/-- A call by name has as a part the call of what the name is resolved to. -/
theorem callNamed (n : Nat) (name : String) (args : List Value) (span : Span) :
  (Eval.callNamed S (callClosure S n) name args span).Delegates S
    (Task.calleeParts S n name span args)
  := by
  intro s
  unfold Task.calleeParts
  cases hname : Entries.contains name S.builtins with
  | true =>
    rw [callNamed_builtin hname]
    exact callBuiltin name args (some span) s
  | false =>
    rw [callNamed_held hname]
    cases s.scene.get? name with
    | none => exact .ended
    | some v =>
      cases v with
      | builtin b => exact callBuiltin b args (some span) s
      | closure f => exact closure n f args (some span) s
      | _ => exact .ended

/-- An expression has its parts as they are listed, one constructor after the other. -/
theorem expression (n : Nat) (e : Expr) :
  (evalExpr S (n + 1) e).Delegates S (Task.parts S (.expr (n + 1) e))
  := by
  unfold evalExpr
  apply located
  cases e with
  | literal span value => exact (Quiet.pure _).delegates
  | identifier span name => exact (Quiet.resolve name).delegates
  | unary span op operand => exact (expr n operand).followed fun _ => .ofExcept _
  | member span target name => exact (expr n target).followed fun _ => .ofExcept _
  | assign span name value =>
    exact (expr n value).followed fun v => (Quiet.assign name v).bind fun _ => .pure v
  | binary span op left right =>
    exact (expr n left).bind fun _ => (expr n right).bind fun _ => (Quiet.ofExcept _).delegates
  | index span target place =>
    exact (expr n target).bind fun _ => (expr n place).bind fun _ => (Quiet.ofExcept _).delegates
  | list span items => exact (each (expr n) items).followed fun _ => .pure _
  | map span pairs =>
    refine (each (fun p => ?_) pairs).followed fun _ => .pure _
    exact (expr n p.2).followed fun _ => .pure _
  | call span name args => exact (each (expr n) args).bind fun vs => callNamed n name vs span

/-- A statement other than a hand-off has its parts as they are listed. -/
theorem statement (n : Nat) {st : Stmt} (h : ∀ span what, st ≠ .handOff span what) :
  (execStmt S (n + 1) st).Delegates S (Task.parts S (.stmt (n + 1) st))
  := by
  unfold execStmt
  apply located
  cases st with
  | handOff span what => cases h span what rfl
  | block span stmts => exact (block n stmts).followed fun _ => .pure _
  | declare span name value =>
    exact (optional n value).followed fun _ => (Quiet.define name _).bind fun _ => .pure _
  | function span id name params stmts =>
    exact ((Quiet.gets _).bind fun f => (Quiet.define name _).bind fun _ => .pure _).delegates
  | branch span c yes no =>
    apply (expr n c).bind
    intro v
    split
    · exact (block n yes).followed fun _ => .pure _
    · cases no with
      | some stmts => exact (block n stmts).followed fun _ => .pure _
      | none => exact (Quiet.pure _).delegates
  | whileLoop span c stmts => exact task fun _ => rfl
  | forIn span name iterable stmts =>
    apply (expr n iterable).bind
    intro v
    cases v with
    | list vs => exact forEach n name stmts vs.toList
    | _ => exact fun _ => .ended
  | forLoop span start c update stmts =>
    have hstart : (loopStart (evalExpr S n) start).Delegates S
        (Task.optionParts n (start.map LoopStart.value)) := by
      cases start with
      | none => exact (Quiet.pure _).delegates
      | some start =>
        apply (expr n start.value).followed
        intro v
        split
        · exact .define _ _
        · exact .assign _ _
    apply (hstart.bind fun _ => ?_).inScope
    exact task fun _ => rfl
  | ret span value => exact (optional n value).followed fun _ => .pure _
  | expression span value => exact (expr n value).followed fun _ => .pure _
  | property span name value =>
    exact (expr n value).followed fun _ => (Quiet.define name _).bind fun _ => .pure _

end Delegates

end Eval

/-! ### Every task -/

section Tasks

variable {S : Setting} {B : Telling} {task task' : Task} {s t : State}

/-- A hand-off that is logged adds one declaration to the log and does nothing else. -/
theorem handOff_log (hsink : S.sink = .log) (d : HandedOff) (s : State) :
  handOff S d s = .done () (s.logged (s.log.record s.scene.context.script d))
  := by
  rw [handOff_apply, hsink, Sink.receive_log]
  rfl

/-- A statement that hands a declaration off does nothing else, and does not fail. -/
theorem execStmt_handOff (hsink : S.sink = .log) (n : Nat) (span : Span)
    (what : Declaration Stmt) (s : State) :
  execStmt S (n + 1) (.handOff span what) s
    = .done .quiet (s.logged (s.log.record s.scene.context.script ⟨span, what⟩))
  := by
  rw [execStmt, located_apply, Action.bind_apply, handOff_log hsink]
  rfl

/-- The log changes in the own events of a task and in its parts. -/
theorem Setting.Logging.path (hS : S.Logging B) (task : Task) (s : State) :
  LogPath S (s.log.replay (task.ownEvents B s)) (task.parts S s)
    ((task.after? S s).map State.log)
  := by
  cases task with
  | expr n e =>
    cases n with
    | zero => exact .exhausted
    | succ n => exact Delegates.expression n e s
  | stmt n st =>
    cases n with
    | zero => exact .exhausted
    | succ n =>
      by_cases h : ∃ span what, st = .handOff span what
      · obtain ⟨span, what, rfl⟩ := h
        show LogPath S _ [] (Option.map State.log (execStmt S (n + 1) _ s).state?)
        rw [execStmt_handOff hS.sink]
        exact .ended
      · have hother : ∀ span what, st ≠ .handOff span what := fun span what heq => h ⟨_, _, heq⟩
        have hown : Task.ownEvents B (.stmt (n + 1) st) s = [] := by
          cases st with
          | handOff span what => cases hother span what rfl
          | _ => rfl
        rw [hown]
        exact Delegates.statement n hother s
  | body n stmts => exact Delegates.sequence n .null stmts s
  | loop n l => exact Delegates.rounds n l n s
  | call n f args span =>
    cases n with
    | zero => exact .exhausted
    | succ n =>
      have hbody := (Delegates.body (S := S) n f.decl.body).followed fun flow =>
        Quiet.pure flow.callResult
      exact (hbody.bound (bindParams f.params args)).inClosure.inFrame s
  | builtin name args span => exact Delegates.inFrame (.task fun _ => rfl) s
  | dispatch name args =>
    show LogPath S _ [] (Option.map State.log (onScene (S.builtins.dispatch name args) s).state?)
    rw [state?_onScene]
    cases ht : (S.builtins.dispatch name args s.scene).state? with
    | none => exact .exhausted
    | some t =>
      show LogPath S (s.scene.host.log.replay (B name args s.scene)) [] (some t.host.log)
      rw [hS.dispatch name args s.scene t ht]
      exact .ended
  | job n job =>
    cases job with
    | program p => exact Delegates.followed (Delegates.body n p.statements) (fun _ => .pure _) s
    | handler h args =>
      show LogPath S s.log _ (Option.map State.log (runHandler S n h args s).state?)
      rw [runHandler_eq]
      have hbody := ((Delegates.body (S := S) n h.body).bound (bindParams h.params args)).inScope
      exact (hbody.followed fun flow => .pure flow.callResult).inFrame s
    | deferred c =>
      obtain ⟨callback, args⟩ := c
      show LogPath S s.log _ (Option.map State.log (invoke S n ⟨callback, args⟩ [] s).state?)
      unfold invoke
      rw [List.append_nil]
      cases callback with
      | native name run =>
        dsimp only
        cases run args <;> exact .ended
      | builtin name => exact Delegates.callBuiltin name args none s
      | closure f => exact Delegates.closure n f args none s

/-- A task that ends leaves the log after its events. -/
theorem Setting.Logging.after (hS : S.Logging B) (ht : task.after? S s = some t) :
  t.log = s.log.replay (task.events S B s)
  := by
  induction task, s using Task.induction_on_parts (S := S) generalizing t with
  | h task s ih =>
    have hpath := hS.path task s
    rw [ht, Option.map_some] at hpath
    rw [Task.events_eq, DeclarationLog.replay_append]
    apply hpath.replay
    intro p hp u hu
    exact ih p hp hu

/-- The events of a part are among those of the task, and when the part begins, the log is the one
after the events before them. -/
theorem Setting.Logging.enters (hS : S.Logging B) (h : Enters S task s task' t) :
  ∃ before later, task.events S B s = before ++ task'.events S B t ++ later
    ∧ t.log = s.log.replay before
  := by
  obtain ⟨first, rest, hsplit⟩ := List.append_of_mem (Task.mem_parts_iff.mpr h)
  have hpath := hS.path task s
  rw [hsplit] at hpath
  have hlog := hpath.before.replay fun p _ u hu => hS.after hu
  use task.ownEvents B s ++ first.flatMap fun p => p.1.events S B p.2
  use rest.flatMap fun p => p.1.events S B p.2
  constructor
  · rw [Task.events_eq, hsplit, List.flatMap_append, List.flatMap_cons]
    simp only [List.append_assoc]
  · rw [DeclarationLog.replay_append]
    exact hlog

/-- The same for a task that is under way. -/
theorem Setting.Logging.underway (hS : S.Logging B) {outer : List (Task × State)}
    (h : Underway S task s ((task', t) :: outer)) :
  ∃ before later, task.events S B s = before ++ task'.events S B t ++ later
    ∧ t.log = s.log.replay before
  := by
  generalize hall : (task', t) :: outer = chain at h
  induction h generalizing task' t outer with
  | whole =>
    cases hall
    exact ⟨[], [], (List.append_nil _).symm, rfl⟩
  | part _ hpart ih =>
    cases hall
    obtain ⟨before, later, hevents, hlog⟩ := ih rfl
    obtain ⟨before', later', hevents', hlog'⟩ := hS.enters hpart
    refine ⟨before ++ before', later' ++ later, ?_, ?_⟩
    · rw [hevents, hevents']
      simp only [List.append_assoc]
    · rw [DeclarationLog.replay_append, ← hlog]
      exact hlog'

/-- The task under way inside of a part is under way inside of the whole. -/
theorem Enters.underway {whole : Task} {u : State} (h : Enters S task s task' t)
    {chain : List (Task × State)} (hchain : Underway S task' t ((whole, u) :: chain)) :
  Underway S task s ((whole, u) :: chain ++ [(task, s)])
  := by
  generalize hall : (whole, u) :: chain = all at hchain
  induction hchain generalizing whole u chain with
  | whole =>
    cases hall
    exact .part .whole h
  | part _ hpart ih =>
    cases hall
    exact .part (ih rfl) hpart

/-- The events of a task are the own events of the tasks under way in it. -/
theorem Task.mem_events_iff {e : LogEvent} :
  e ∈ task.events S B s
    ↔ ∃ task' t outer, Underway S task s ((task', t) :: outer) ∧ e ∈ task'.ownEvents B t
  := by
  constructor
  · intro he
    induction task, s using Task.induction_on_parts (S := S) with
    | h task s ih =>
      rw [events_eq, List.mem_append, List.mem_flatMap] at he
      obtain he | ⟨p, hp, he⟩ := he
      · exact ⟨task, s, [], .whole, he⟩
      · obtain ⟨task', t, outer, hchain, hown⟩ := ih p hp he
        exact ⟨task', t, _, (mem_parts_iff.mp hp).underway hchain, hown⟩
  · rintro ⟨task', t, outer, hchain, hown⟩
    have he : e ∈ task'.events S B t := by
      rw [events_eq]
      exact List.mem_append_left _ hown
    clear hown
    generalize hall : (task', t) :: outer = chain at hchain
    induction hchain generalizing task' t outer with
    | whole =>
      cases hall
      exact he
    | part _ hpart ih =>
      cases hall
      refine ih _ _ _ ?_ rfl
      rw [events_eq]
      apply List.mem_append_right
      exact List.mem_flatMap.mpr ⟨_, mem_parts_iff.mpr hpart, he⟩

end Tasks

end StoryScript
