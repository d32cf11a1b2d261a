import StoryScript.Proofs.Failures

/-!
# Where errors are raised

Operations, variables, the checks of the budget, declarations and built-ins fail with an error of
which only the cause is known.  Main statements: a task that fails has a part that fails, or raised
the error itself; so every failure has an origin, the innermost task under way that failed.
-/

namespace StoryScript

open Eval

/-! ### Causes -/

/-- The cause is neither a full call stack nor reported by a built-in or the host. -/
def Cause.isPlain : Cause → Bool
  | .stackOverflow _ | .argumentError _ _ | .hostFailure _ _ => false
  | _ => true

/-- The computation fails with plain causes only. -/
def Except.Harmless {α : Type} (x : Except Cause α) : Prop :=
  ∀ cause, x = .error cause → cause.isPlain = true

/-- A computation in two parts is harmless if both of them are. -/
theorem Except.Harmless.bind {α β : Type} {x : Except Cause α} {f : α → Except Cause β}
    (hx : Harmless x) (hf : ∀ v, Harmless (f v)) :
  Harmless (x >>= f)
  := by
  intro cause h
  cases x with
  | ok v => exact hf v cause h
  | error c =>
    cases h
    exact hx cause rfl

/-- A value is harmless. -/
theorem Except.harmless_ok {α : Type} (v : α) :
  Harmless (.ok v)
  := nofun

/-- A plain cause is harmless. -/
theorem Except.harmless_error {α : Type} {cause : Cause} (h : cause.isPlain = true) :
  Harmless (.error cause : Except Cause α)
  := by
  rintro _ ⟨⟩
  exact h

namespace BinaryOp

/-- The operands are there or an error about their kinds is. -/
theorem harmless_operands (op : BinaryOp) (l r : Value) :
  Except.Harmless (op.operands l r)
  := by
  unfold operands
  split
  · exact Except.harmless_ok _
  · exact Except.harmless_error rfl

/-- The only error about the range is the overflow. -/
theorem harmless_inRange (operation : String) (n : Option Whole) :
  Except.Harmless (inRange operation n)
  := by
  cases n with
  | some n => exact Except.harmless_ok _
  | none => exact Except.harmless_error rfl

/-- Arithmetic fails only over the kinds, by an overflow or by a division by zero. -/
theorem harmless_arithmetic (op : BinaryOp) (l r : Value) :
  Except.Harmless (op.arithmetic l r)
  := by
  apply (op.harmless_operands l r).bind
  rintro ⟨a, b⟩
  split
  · split
    · exact harmless_inRange _ _
    · exact harmless_inRange _ _
    · exact harmless_inRange _ _
    · split
      · exact Except.harmless_error rfl
      · exact harmless_inRange _ _
  · split
    · exact Except.harmless_ok _
    · exact Except.harmless_ok _
    · exact Except.harmless_ok _
    · split
      · exact Except.harmless_error rfl
      · exact Except.harmless_ok _

/-- Every operator on two values fails for a plain cause only. -/
theorem harmless_apply (op : BinaryOp) (l r : Value) :
  Except.Harmless (op.apply l r)
  := by
  cases op with
  | add =>
    show Except.Harmless (plus l r)
    unfold plus
    split
    · exact Except.harmless_ok _
    · exact Except.harmless_ok _
    · exact harmless_arithmetic _ _ _
  | sub | mul | mod => exact harmless_arithmetic _ _ _
  | div =>
    apply (harmless_operands .div l r).bind
    rintro ⟨a, b⟩
    dsimp only
    split
    · exact Except.harmless_error rfl
    · exact Except.harmless_ok _
  | lt | ltEq | gt | gtEq =>
    apply (harmless_operands _ l r).bind
    rintro ⟨a, b⟩
    dsimp only
    split <;> exact Except.harmless_ok _
  | eq | notEq | and | or => exact Except.harmless_ok _

end BinaryOp

/-- Every operator on one value fails for a plain cause only. -/
theorem UnaryOp.harmless_apply (op : UnaryOp) (v : Value) :
  Except.Harmless (op.apply v)
  := by
  cases op with
  | not => exact Except.harmless_ok _
  | neg =>
    cases v with
    | int n => exact BinaryOp.harmless_inRange _ _
    | float x => exact Except.harmless_ok _
    | _ => exact Except.harmless_error rfl

/-- Taking an item out of a value fails for a plain cause only. -/
theorem Value.harmless_element (v i : Value) :
  Except.Harmless (v.element i)
  := by
  unfold element
  split
  · split
    · exact Except.harmless_error rfl
    · split
      · exact Except.harmless_ok _
      · exact Except.harmless_error rfl
  · exact Except.harmless_error rfl
  · exact Except.harmless_error rfl

/-- Taking a member out of a value fails for a plain cause only. -/
theorem Value.harmless_member (v : Value) (name : String) :
  Except.Harmless (v.member name)
  := by
  unfold member
  split
  · exact Except.harmless_ok _
  · exact Except.harmless_error rfl
  · exact Except.harmless_error rfl

/-! ### Errors without a place -/

/-- An error of which only the cause is known, which is a plain one. -/
def Error.Plain (e : Error) : Prop := ∃ cause : Cause, cause.isPlain = true ∧ e = ofCause cause

/-- An error of a plain cause is plain: it has no place and no backtrace yet. -/
theorem Error.plain_ofCause {cause : Cause} (h : cause.isPlain = true) :
  (ofCause cause).Plain
  := ⟨cause, h, rfl⟩

namespace Eval

variable {S : Setting} {s t : State} {e : Error} {α : Type}

/-- The error of a harmless computation is plain. -/
theorem plain_of_ofExcept {x : Except Cause α} (hx : Except.Harmless x)
    (h : ofExcept x s = .failed e t) :
  e.Plain
  := by
  cases x with
  | ok v => cases h
  | error cause =>
    cases h
    exact Error.plain_ofCause (hx cause rfl)

/-- The error of a checkpoint is plain. -/
theorem plain_of_tick (h : tick S s = .failed e t) :
  e.Plain
  := by
  rw [tick_apply] at h
  split at h
  · cases h
    exact Error.plain_ofCause rfl
  · cases h

/-- The error of an assignment is plain. -/
theorem plain_of_assign {name : String} {v : Value} (h : assign name v s = .failed e t) :
  e.Plain
  := by
  rw [assign_apply] at h
  split at h
  · cases h
  · cases h
    exact Error.plain_ofCause rfl

/-- The error of a hand-off is one about host code. -/
theorem exists_of_handOff_failed {d : HandedOff} (h : handOff S d s = .failed e t) :
  ∃ e', e = Error.ofBuiltin "host_code" e'
  := by
  rw [handOff_apply] at h
  split at h
  · cases h
  · cases h
    exact ⟨_, rfl⟩

/-- The error of a name without a value is plain. -/
theorem plain_of_resolve {name : String} (h : resolve S name s = .failed e t) :
  e.Plain
  := by
  obtain h | ⟨found, u, -, h⟩ := Action.failed_of_bind h
  · cases h
  cases found with
  | some v => cases h
  | none =>
    dsimp only at h
    split at h
    · cases h
    · cases h
      exact Error.plain_ofCause rfl

/-- The error of a built-in is plain, if the built-in is missing, or made of what the built-in
reports. -/
theorem plain_or_of_dispatch {name : String} {args : List Value}
    (h : onScene (S.builtins.dispatch name args) s = .failed e t) :
  e.Plain ∨ ∃ e', e = Error.ofBuiltin name e'
  := by
  rw [onScene_apply, Builtins.dispatch] at h
  cases hf : Entries.get? name S.builtins with
  | none =>
    rw [hf] at h
    cases h
    exact .inl (Error.plain_ofCause rfl)
  | some f =>
    rw [hf] at h
    dsimp only at h
    rw [Action.mapError_apply] at h
    cases ha : f args s.scene with
    | done v u =>
      rw [ha] at h
      cases h
    | failed e' u =>
      rw [ha] at h
      cases h
      exact .inr ⟨e', rfl⟩
    | outOfFuel =>
      rw [ha] at h
      cases h

end Eval

/-! ### Origins -/

/-- The errors that a task raises itself. -/
inductive Task.Raises : Task → State → Error → Prop where
  /-- A computation of the task fails, or the task has to stop. -/
  | own {task : Task} {s : State} {e : Error} (h : e.Plain) : Raises task s (task.placed e)
  /-- The value to loop over is not a list. -/
  | iterable {n : Nat} {span : Span} {name : String} {e : Expr} {body : List Stmt} {s : State}
    (kind : Kind) : Raises (.stmt (n + 1) (.forIn span name e body)) s
      (((Error.ofCause (.typeMismatch (.notIterable kind))).orSpan e.span).orSpan span)
  /-- The frame of the task is refused. -/
  | refused {task : Task} {frame : Frame} {s : State} {cause : Cause}
    (hframe : task.frame? = some frame) (h : s.calls.push frame = .error cause) :
    Raises task s (Error.ofCause cause)
  /-- A built-in reports an error. -/
  | reported {name : String} {args : List Value} {s : State} (e : BuiltinError) :
    Raises (.dispatch name args) s (Error.ofBuiltin name e)
  /-- The host does not take a declaration. -/
  | declined {n : Nat} {span : Span} {what : Declaration Stmt} {s : State} (e : BuiltinError) :
    Raises (.stmt (n + 1) (.handOff span what)) s ((Error.ofBuiltin "host_code" e).orSpan span)
  /-- A function of the host answers with an error. -/
  | answered {n : Nat} {name : String} {run : List Value → Except BuiltinError Value}
    {args : List Value} {s : State} (e : BuiltinError) :
    Raises (.job n (.deferred ⟨.native name run, args⟩)) s (Error.ofBuiltin name e)

/-- A part of the task fails, or the task raised the error itself. -/
def Task.Blames (S : Setting) (task : Task) (s : State) (e : Error) : Prop :=
  (∃ part s' e' t, Enters S task s part s' ∧ part.Fails S s' e' t) ∨ task.Raises s e

namespace Task.Blames

variable {S : Setting} {s s' t u : State} {e e' : Error} {task task' : Task}

/-- A task blames one of its parts for the error of the part. -/
theorem part (h : Enters S task s task' s') (hfails : task'.Fails S s' e' t) :
  task.Blames S s e
  := .inl ⟨task', s', e', t, h, hfails⟩

/-- A task blames itself for a plain error of its own, which gets the place of the task. -/
theorem own (h : e.Plain) :
  task.Blames S s (task.placed e)
  := .inr (.own h)

/-- The error of an expression is that of a part, or its own. -/
theorem expr {n : Nat} {x : Expr} (hfails : evalExpr S n x s = .failed e t) :
  (Task.expr n x).Blames S s e
  := by
  cases n with
  | zero => cases hfails
  | succ n =>
    cases x with
    | literal span value =>
      obtain ⟨e', h, rfl⟩ := failed_of_located hfails
      cases h
    | identifier span name =>
      obtain ⟨e', h, rfl⟩ := failed_of_located hfails
      exact own (plain_of_resolve h)
    | binary span op left right =>
      obtain ⟨e', h, rfl⟩ := failed_of_located hfails
      obtain hl | ⟨l, u, hl, h⟩ := Action.failed_of_bind h
      · exact part .left hl
      obtain hr | ⟨r, u', hr, h⟩ := Action.failed_of_bind h
      · exact part (.right hl) hr
      exact own (plain_of_ofExcept (op.harmless_apply l r) h)
    | unary span op operand =>
      obtain ⟨e', h, rfl⟩ := failed_of_located hfails
      obtain hv | ⟨v, u, hv, h⟩ := Action.failed_of_bind h
      · exact part .operand hv
      exact own (plain_of_ofExcept (op.harmless_apply v) h)
    | call span callee args =>
      obtain ⟨e', h, rfl⟩ := failed_of_located hfails
      obtain hargs | ⟨vs, u, hargs, h⟩ := Action.failed_of_bind h
      · obtain ⟨before, x, after, vs, u, rfl, hbefore, hx⟩ := Action.split_of_each_failed hargs
        exact part (.argument hbefore) hx
      cases hname : Entries.contains callee S.builtins with
      | true =>
        rw [callNamed_builtin hname] at h
        exact part (.builtin hargs hname) h
      | false =>
        rw [callNamed_held hname] at h
        split at h
        · rename_i b hvalue
          exact part (.heldBuiltin hargs hname hvalue) h
        · rename_i f hvalue
          exact part (.heldClosure hargs hname hvalue) h
        · cases h
          exact own (Error.plain_ofCause rfl)
    | member span target name =>
      obtain ⟨e', h, rfl⟩ := failed_of_located hfails
      obtain hv | ⟨v, u, hv, h⟩ := Action.failed_of_bind h
      · exact part .member hv
      exact own (plain_of_ofExcept (v.harmless_member name) h)
    | index span target place =>
      obtain ⟨e', h, rfl⟩ := failed_of_located hfails
      obtain hv | ⟨v, u, hv, h⟩ := Action.failed_of_bind h
      · exact part .target hv
      obtain hi | ⟨i, u', hi, h⟩ := Action.failed_of_bind h
      · exact part (.place hv) hi
      exact own (plain_of_ofExcept (v.harmless_element i) h)
    | assign span name value =>
      obtain ⟨e', h, rfl⟩ := failed_of_located hfails
      obtain hv | ⟨v, u, hv, h⟩ := Action.failed_of_bind h
      · exact part .assigned hv
      obtain h | ⟨_, u', -, h⟩ := Action.failed_of_bind h
      · exact own (plain_of_assign h)
      · cases h
    | list span items =>
      obtain ⟨e', h, rfl⟩ := failed_of_located hfails
      obtain hitems | ⟨vs, u, -, h⟩ := Action.failed_of_bind h
      · obtain ⟨before, x, after, vs, u, rfl, hbefore, hx⟩ := Action.split_of_each_failed hitems
        exact part (.item hbefore) hx
      · cases h
    | map span pairs =>
      obtain ⟨e', h, rfl⟩ := failed_of_located hfails
      obtain hpairs | ⟨vs, u, -, h⟩ := Action.failed_of_bind h
      · obtain ⟨before, ⟨key, x⟩, after, vs, u, rfl, hbefore, hx⟩ :=
          Action.split_of_each_failed hpairs
        obtain hx | ⟨v, u', -, hend⟩ := Action.failed_of_bind hx
        · exact part (.entry hbefore) hx
        · cases hend
      · cases h

/-- The error of a statement is that of a part, or its own. -/
theorem stmt {n : Nat} {st : Stmt} (hfails : execStmt S n st s = .failed e t) :
  (Task.stmt n st).Blames S s e
  := by
  cases n with
  | zero => cases hfails
  | succ n =>
    cases st with
    | block span body =>
      obtain ⟨e', h, rfl⟩ := failed_of_located hfails
      obtain h | ⟨flow, u, -, h⟩ := Action.failed_of_bind h
      · obtain ⟨u, h⟩ := failed_of_inScope h
        exact part .block h
      · cases h
    | declare span name value =>
      obtain ⟨e', h, rfl⟩ := failed_of_located hfails
      obtain hv | ⟨v, u, -, h⟩ := Action.failed_of_bind h
      · cases value with
        | none => cases hv
        | some x => exact part .declared hv
      · cases h
    | function span id name params body =>
      obtain ⟨e', h, rfl⟩ := failed_of_located hfails
      cases h
    | branch span condition yes no =>
      obtain ⟨e', h, rfl⟩ := failed_of_located hfails
      obtain hv | ⟨v, u, hv, h⟩ := Action.failed_of_bind h
      · exact part .condition hv
      split at h
      · rename_i htruthy
        obtain h | ⟨flow, u', -, h⟩ := Action.failed_of_bind h
        · obtain ⟨u', h⟩ := failed_of_inScope h
          exact part (.yes hv htruthy) h
        · cases h
      · rename_i htruthy
        cases no with
        | none => cases h
        | some body =>
          obtain h | ⟨flow, u', -, h⟩ := Action.failed_of_bind h
          · obtain ⟨u', h⟩ := failed_of_inScope h
            exact part (.no hv (Bool.eq_false_iff.mpr htruthy)) h
          · cases h
    | whileLoop span condition body =>
      obtain ⟨e', h, rfl⟩ := failed_of_located hfails
      exact part .whileLoop h
    | forIn span name iterable body =>
      obtain ⟨e', h, rfl⟩ := failed_of_located hfails
      obtain hv | ⟨v, u, hv, h⟩ := Action.failed_of_bind h
      · exact part .iterable hv
      cases v with
      | list vs =>
        obtain ⟨before, v, after, flow, u', hvs, hbefore, hflow, h⟩ := split_of_forEach_failed h
        obtain h | ⟨u'', htick, h⟩ := h
        · exact own (plain_of_tick h)
        · obtain ⟨w, h⟩ := failed_of_inScope h
          have hlist : evalExpr S n iterable s = .done (.list ⟨before ++ v :: after⟩) u := by
            rw [hv, ← hvs]
          exact part (.element hlist hbefore hflow htick) h
      | _ =>
        cases h
        exact .inr (.iterable _)
    | forLoop span start condition update body =>
      obtain ⟨e', h, rfl⟩ := failed_of_located hfails
      obtain ⟨u, h⟩ := failed_of_inScope h
      obtain hstart | ⟨_, u', hstart, h⟩ := Action.failed_of_bind h
      · cases start with
        | none => cases hstart
        | some start =>
          obtain hv | ⟨v, u', -, hstart⟩ := Action.failed_of_bind hstart
          · exact part .start hv
          · split at hstart
            · cases hstart
            · exact own (plain_of_assign hstart)
      · exact part (.forLoop hstart) h
    | ret span value =>
      obtain ⟨e', h, rfl⟩ := failed_of_located hfails
      obtain hv | ⟨v, u, -, h⟩ := Action.failed_of_bind h
      · cases value with
        | none => cases hv
        | some x => exact part .returned hv
      · cases h
    | expression span value =>
      obtain ⟨e', h, rfl⟩ := failed_of_located hfails
      obtain hv | ⟨v, u, -, h⟩ := Action.failed_of_bind h
      · exact part .expression hv
      · cases h
    | property span name value =>
      obtain ⟨e', h, rfl⟩ := failed_of_located hfails
      obtain hv | ⟨v, u, -, h⟩ := Action.failed_of_bind h
      · exact part .property hv
      · cases h
    | handOff span what =>
      obtain ⟨e', h, rfl⟩ := failed_of_located hfails
      obtain h | ⟨_, u, -, h⟩ := Action.failed_of_bind h
      · obtain ⟨e'', rfl⟩ := exists_of_handOff_failed h
        exact .inr (.declined e'')
      · cases h

/-- The error of a body is that of the statement that fails. -/
theorem body {n : Nat} {stmts : List Stmt} (hfails : execAll S n stmts s = .failed e t) :
  (Task.body n stmts).Blames S s e
  := by
  obtain ⟨before, st, after, v, u, rfl, hbefore, hst⟩ := split_of_sequence_failed hfails
  exact part (.statement hbefore) hst

/-- The error of a loop is that of a part or of a checkpoint. -/
theorem loop {n : Nat} {l : Loop} (hfails : l.eval S n s = .failed e t) :
  (Task.loop n l).Blames S s e
  := by
  obtain ⟨condition, update, stmts⟩ := l
  cases Loop.fails_iff.mpr hfails with
  | test h htest =>
    cases condition with
    | none => cases htest
    | some x =>
      obtain hv | ⟨v, u, -, hend⟩ := Action.failed_of_bind htest
      · exact part (.test h) hv
      · cases hend
  | tick h htest htick => exact own (plain_of_tick htick)
  | body h htest htick hbody =>
    obtain ⟨u, hbody⟩ := failed_of_inScope hbody
    exact part (.round h htest htick) hbody
  | step h htest htick hbody hstep =>
    cases update with
    | none => cases hstep
    | some update =>
      obtain hv | ⟨v, u, -, hassign⟩ := Action.failed_of_bind hstep
      · exact part (.update h htest htick hbody) hv
      · exact own (plain_of_assign hassign)

/-- The error of a call is that of its body, or it was not admitted. -/
theorem call {n : Nat} {f : Closure} {args : List Value} {span : Option Span}
    (hfails : callClosure S n f args span s = .failed e t) :
  (Task.call n f args span).Blames S s e
  := by
  cases n with
  | zero => cases hfails
  | succ n =>
    obtain ⟨why, rfl⟩ | ⟨cause, hpush, rfl⟩ | ⟨s', e', u, hframe, h⟩ := failed_of_inFrame hfails
    · exact own (Error.plain_ofCause rfl)
    · exact .inr (.refused rfl hpush)
    · obtain ⟨u, h⟩ := failed_of_inClosure h
      rw [bound_apply] at h
      obtain h | ⟨flow, u', -, h⟩ := Action.failed_of_bind h
      · exact part (.called hframe) h
      · cases h

/-- The error of a call of a built-in is its own. -/
theorem builtin {name : String} {args : List Value} {span : Option Span}
    (hfails : callBuiltin S name args span s = .failed e t) :
  (Task.builtin name args span).Blames S s e
  := by
  obtain ⟨why, rfl⟩ | ⟨cause, hpush, rfl⟩ | ⟨s', e', u, hframe, h⟩ := failed_of_inFrame hfails
  · exact own (Error.plain_ofCause rfl)
  · exact .inr (.refused rfl hpush)
  · exact part (.dispatched hframe) h

/-- The error of a job is that of its part, or its own. -/
theorem job {n : Nat} {j : Job} (hfails : j.eval S n s = .failed e t) :
  (Task.job n j).Blames S s e
  := by
  cases j with
  | program p =>
    obtain h | ⟨flow, u, -, h⟩ := Action.failed_of_bind hfails
    · exact part .program h
    · cases h
  | handler h args =>
    rw [Job.eval, runHandler_eq] at hfails
    obtain ⟨why, rfl⟩ | ⟨cause, hpush, rfl⟩ | ⟨s', e', u, hframe, h⟩ := failed_of_inFrame hfails
    · exact own (Error.plain_ofCause rfl)
    · exact .inr (.refused rfl hpush)
    · obtain h | ⟨flow, u', -, h⟩ := Action.failed_of_bind h
      · obtain ⟨u', h⟩ := failed_of_inScope h
        exact part (.handler hframe) h
      · cases h
  | deferred call =>
    obtain ⟨callback, args⟩ := call
    rw [Job.eval, invoke, List.append_nil] at hfails
    cases callback with
    | native name run =>
      dsimp only at hfails
      cases hrun : run args with
      | ok v =>
        rw [hrun] at hfails
        cases hfails
      | error e' =>
        rw [hrun] at hfails
        cases hfails
        exact .inr (.answered e')
    | builtin name => exact part .deferredBuiltin hfails
    | closure f => exact part .deferredClosure hfails

end Task.Blames

/-- A task that fails has a part that fails, or raised the error itself. -/
theorem Task.Fails.blames {S : Setting} {task : Task} {s t : State} {e : Error}
    (h : task.Fails S s e t) :
  task.Blames S s e
  := by
  cases task with
  | expr => exact .expr h
  | stmt => exact .stmt h
  | body => exact .body h
  | loop => exact .loop h
  | call => exact .call h
  | builtin => exact .builtin h
  | dispatch name args =>
    obtain hplain | ⟨e', rfl⟩ := plain_or_of_dispatch h
    · exact .own hplain
    · exact .inr (.reported e')
  | job => exact .job h

/-- A task ranks above its parts: either they have less fuel, or they come later in the order of
calls, built-ins, bodies and loops. -/
def Task.rank : Task → Nat
  | expr n _ | stmt n _ | call n _ _ _ => 4 * n
  | body n _ => 4 * n + 1
  | loop n _ => 4 * n + 2
  | job n _ => 4 * n + 3
  | builtin _ _ _ => 1
  | dispatch _ _ => 0

/-- The parts of a task are of lower rank, so that the blame ends somewhere. -/
theorem Enters.rank_lt {S : Setting} {task part : Task} {s t : State}
    (h : Enters S task s part t) :
  part.rank < task.rank
  := by
  cases h <;> simp only [Task.rank] <;> omega

/-- The innermost task under way that fails, with the tasks under way around it and its error. -/
structure Origin (S : Setting) (whole : Task) (s : State) (task : Task) (t : State)
    (outer : List (Task × State)) (e : Error) : Prop where
  underway : Underway S whole s ((task, t) :: outer)
  fails : ∃ u, task.Fails S t e u
  innermost : ∀ part t' e' u, Enters S task t part t' → ¬ part.Fails S t' e' u

namespace Origin

variable {S : Setting} {whole task : Task} {s t : State} {outer : List (Task × State)} {e : Error}

/-- The innermost task raised the error itself. -/
theorem raises (h : Origin S whole s task t outer e) :
  task.Raises t e
  := by
  obtain ⟨u, hfails⟩ := h.fails
  obtain ⟨part, t', e', u', hpart, hfails'⟩ | hraises := hfails.blames
  · exact absurd hfails' (h.innermost part t' e' u' hpart)
  · exact hraises

/-- Every failure has an origin. -/
theorem of_underway {task : Task} {t u : State} {outer : List (Task × State)} {e : Error}
    (h : Underway S whole s ((task, t) :: outer)) (hfails : task.Fails S t e u) :
  ∃ task' t' outer' e', Origin S whole s task' t' outer' e'
  := by
  by_cases hinnermost : ∃ part t' e' u', Enters S task t part t' ∧ part.Fails S t' e' u'
  · obtain ⟨part, t', e', u', hpart, hfails'⟩ := hinnermost
    exact of_underway (h.part hpart) hfails'
  · refine ⟨task, t, outer, e, h, ⟨u, hfails⟩, ?_⟩
    intro part t' e' u' hpart hfails'
    exact hinnermost ⟨part, t', e', u', hpart, hfails'⟩
termination_by task.rank
decreasing_by exact hpart.rank_lt

end Origin

end StoryScript
