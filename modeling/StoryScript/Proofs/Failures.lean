import StoryScript.Proofs.Moments

/-!
# How failures travel

An error goes from the task that raised it through all tasks around it: each of them fails as
soon as one of its parts does, and nothing that would come next is evaluated any more.  On the
way the error may learn a place or the active calls.  Main statement: if a task under way fails,
the whole fails at once, for the same cause, and nothing but cleaning up is done any more.
-/

namespace StoryScript

open Eval

/-! ### Failures of compositions -/

namespace Action

variable {σ ε α β : Type} {a : Action σ ε α} {f : α → Action σ ε β} {s t u : σ} {e : ε} {v : α}

/-- After an action is done, a sequence is what follows on its value. -/
theorem bind_of_done (h : a s = .done v t) :
  (a >>= f) s = f v t
  := by
  rw [bind_apply, h]

/-- A sequence fails if its first action does. -/
theorem bind_of_failed (h : a s = .failed e t) :
  (a >>= f) s = .failed e t
  := by
  rw [bind_apply, h]

/-- A sequence that fails does so in its first action, or in the second one after the first one is
done. -/
theorem failed_of_bind (h : (a >>= f) s = .failed e t) :
  a s = .failed e t ∨ ∃ v u, a s = .done v u ∧ f v u = .failed e t
  := by
  rw [bind_apply] at h
  cases ha : a s with
  | done v u =>
    rw [ha] at h
    exact .inr ⟨v, u, rfl, h⟩
  | failed e' u =>
    rw [ha] at h
    cases h
    exact .inl rfl
  | outOfFuel =>
    rw [ha] at h
    cases h

/-- The item after those that are done fails. -/
theorem each_failed {f : α → Action σ ε β} {before : List α} {x : α} {vs : List β}
    (hbefore : each f before s = .done vs t) (hx : f x t = .failed e u) (after : List α) :
  each f (before ++ x :: after) s = .failed e u
  := by
  induction before generalizing s vs with
  | nil =>
    cases hbefore
    exact bind_of_failed hx
  | cons y rest ih =>
    obtain ⟨w, s', hy, hrest⟩ := exists_of_bind_done hbefore
    obtain ⟨ws, t', hrest, hend⟩ := exists_of_bind_done hrest
    cases hend
    exact (bind_of_done hy).trans (bind_of_failed (ih hrest))

/-- If an action fails for an item of a list, it is done for all items before. -/
theorem split_of_each_failed {f : α → Action σ ε β} {xs : List α}
    (h : each f xs s = .failed e t) :
  ∃ before x after vs u, xs = before ++ x :: after ∧ each f before s = .done vs u
    ∧ f x u = .failed e t
  := by
  induction xs generalizing s with
  | nil => cases h
  | cons y rest ih =>
    obtain hy | ⟨w, s', hy, hrest⟩ := failed_of_bind h
    · exact ⟨[], y, rest, [], s, rfl, rfl, hy⟩
    · obtain hrest | ⟨ws, t', -, hend⟩ := failed_of_bind hrest
      · obtain ⟨before, x, after, vs, u, rfl, hbefore, hx⟩ := ih hrest
        refine ⟨y :: before, x, after, w :: vs, u, rfl, ?_, hx⟩
        exact (bind_of_done hy).trans (bind_of_done hbefore)
      · cases hend

end Action

namespace Eval

variable {S : Setting} {s t u : State} {e : Error} {α : Type}

/-- A failure at a place gets the place. -/
theorem located_failed {span : Span} {a : Eval α} (h : a s = .failed e t) :
  located span a s = .failed (e.orSpan span) t
  := by
  rw [located_apply, h]
  rfl

/-- A failure at a place is a failure of the evaluation, which got the place. -/
theorem failed_of_located {span : Span} {a : Eval α} (h : located span a s = .failed e t) :
  ∃ e', a s = .failed e' t ∧ e = e'.orSpan span
  := by
  rw [located_apply] at h
  cases ha : a s with
  | done v u =>
    rw [ha] at h
    cases h
  | failed e' u =>
    rw [ha] at h
    cases h
    exact ⟨e', rfl, rfl⟩
  | outOfFuel =>
    rw [ha] at h
    cases h

theorem inScope_failed {a : Eval α} (h : a s.pushed = .failed e t) :
  inScope a s = .failed e t.popped
  := by
  rw [inScope_apply, h]
  rfl

/-- A failure in a new scope is a failure of the evaluation there. -/
theorem failed_of_inScope {a : Eval α} (h : inScope a s = .failed e t) :
  ∃ u, a s.pushed = .failed e u
  := by
  rw [inScope_apply] at h
  cases ha : a s.pushed with
  | done v u =>
    rw [ha] at h
    cases h
  | failed e' u =>
    rw [ha] at h
    cases h
    exact ⟨u, rfl⟩
  | outOfFuel =>
    rw [ha] at h
    cases h

/-- After statements that are done come the others. -/
theorem sequence_append {exec : Stmt → Eval Flow} {before : List Stmt} {last v : Value}
    (hbefore : sequence exec last before s = .done (.normal v) t) (after : List Stmt) :
  sequence exec last (before ++ after) s = sequence exec v after t
  := by
  induction before generalizing s last with
  | nil =>
    cases hbefore
    rfl
  | cons first rest ih =>
    obtain ⟨flow, s', hfirst, hrest⟩ := Action.exists_of_bind_done hbefore
    cases flow with
    | normal w => exact (Action.bind_of_done hfirst).trans (ih hrest)
    | returned w => cases hrest

/-- The statement after those that are done fails. -/
theorem sequence_failed {exec : Stmt → Eval Flow} {before : List Stmt} {st : Stmt} {last v : Value}
    (hbefore : sequence exec last before s = .done (.normal v) t) (hst : exec st t = .failed e u)
    (after : List Stmt) :
  sequence exec last (before ++ st :: after) s = .failed e u
  := (sequence_append hbefore (st :: after)).trans (Action.bind_of_failed hst)

/-- If statements fail, one of them does, and those before are done. -/
theorem split_of_sequence_failed {exec : Stmt → Eval Flow} {body : List Stmt} {last : Value}
    (h : sequence exec last body s = .failed e t) :
  ∃ before st after v u, body = before ++ st :: after
    ∧ sequence exec last before s = .done (.normal v) u ∧ exec st u = .failed e t
  := by
  induction body generalizing s last with
  | nil => cases h
  | cons first rest ih =>
    obtain hfirst | ⟨flow, s', hfirst, hrest⟩ := Action.failed_of_bind h
    · exact ⟨[], first, rest, last, s, rfl, rfl, hfirst⟩
    · cases flow with
      | normal w =>
        obtain ⟨before, st, after, v, u, rfl, hbefore, hst⟩ := ih hrest
        exact ⟨first :: before, st, after, v, u, rfl, (Action.bind_of_done hfirst).trans hbefore,
          hst⟩
      | returned w => cases hrest

/-- The elements after those whose rounds are done come next. -/
theorem forEach_append {body : Value → Eval Flow} {before : List Value} {flow : Flow}
    (hbefore : forEach S body before s = .done flow t) (hflow : flow.isReturn = false)
    (after : List Value) :
  forEach S body (before ++ after) s = forEach S body after t
  := by
  induction before generalizing s with
  | nil =>
    cases hbefore
    rfl
  | cons v rest ih =>
    obtain ⟨_, s', htick, hround⟩ := Action.exists_of_bind_done hbefore
    obtain ⟨flow', s'', hv, hrest⟩ := Action.exists_of_bind_done hround
    cases flow' with
    | normal w =>
      exact (Action.bind_of_done htick).trans ((Action.bind_of_done hv).trans (ih hrest))
    | returned w =>
      cases hrest
      cases hflow

/-- If a loop over values fails, it does so for one of them, at the checkpoint or in the body, and
it has gone through those before. -/
theorem split_of_forEach_failed {body : Value → Eval Flow} {vs : List Value}
    (h : forEach S body vs s = .failed e t) :
  ∃ before v after flow u, vs = before ++ v :: after ∧ forEach S body before s = .done flow u
    ∧ flow.isReturn = false
    ∧ (tick S u = .failed e t ∨ ∃ u', tick S u = .done () u' ∧ body v u' = .failed e t)
  := by
  induction vs generalizing s with
  | nil => cases h
  | cons v rest ih =>
    obtain htick | ⟨_, s', htick, hround⟩ := Action.failed_of_bind h
    · exact ⟨[], v, rest, .quiet, s, rfl, rfl, rfl, .inl htick⟩
    · obtain hv | ⟨flow, s'', hv, hrest⟩ := Action.failed_of_bind hround
      · exact ⟨[], v, rest, .quiet, s, rfl, rfl, rfl, .inr ⟨s', htick, hv⟩⟩
      · cases flow with
        | normal w =>
          obtain ⟨before, v', after, flow', u, rfl, hbefore, hflow, hfails⟩ := ih hrest
          refine ⟨v :: before, v', after, flow', u, rfl, ?_, hflow, hfails⟩
          exact (Action.bind_of_done htick).trans ((Action.bind_of_done hv).trans hbefore)
        | returned w => cases hrest

end Eval

namespace Loop

variable {S : Setting} {n k : Nat} {l : Loop} {s t u : State} {e : Error}

/-- From a round that has begun the loop goes on with the fuel for rounds that is left. -/
theorem Round.eval_eq (h : l.Round S n s k t) :
  l.eval S n s = rounds S (l.test S n) (execBlock S n l.body) (l.step S n) k t
  := by
  induction h with
  | first => rfl
  | next _ htest htick hbody hstep ih =>
    rw [ih, rounds, Action.bind_of_done htest, if_pos rfl, Action.bind_of_done htick,
      Action.bind_of_done hbody]
    exact Action.bind_of_done hstep

/-- A loop fails: at its condition, at the check of a round, in the body, or at what follows a
round. -/
inductive Fails (S : Setting) (n : Nat) (l : Loop) (s : State) (e : Error) (u : State) : Prop where
  | test {k : Nat} {t : State} (h : l.Round S n s (k + 1) t) (htest : l.test S n t = .failed e u)
  | tick {k : Nat} {t t₁ : State} (h : l.Round S n s (k + 1) t)
    (htest : l.test S n t = .done true t₁) (htick : tick S t₁ = .failed e u)
  | body {k : Nat} {t t₁ t₂ : State} (h : l.Round S n s (k + 1) t)
    (htest : l.test S n t = .done true t₁) (htick : tick S t₁ = .done () t₂)
    (hbody : execBlock S n l.body t₂ = .failed e u)
  | step {k : Nat} {t t₁ t₂ t₃ : State} {v : Value} (h : l.Round S n s (k + 1) t)
    (htest : l.test S n t = .done true t₁) (htick : Eval.tick S t₁ = .done () t₂)
    (hbody : execBlock S n l.body t₂ = .done (.normal v) t₃)
    (hstep : l.step S n t₃ = .failed e u)

/-- A loop that fails from a round on fails. -/
theorem Round.fails_of_rounds (h : l.Round S n s k t)
    (hfails : rounds S (l.test S n) (execBlock S n l.body) (l.step S n) k t = .failed e u) :
  l.Fails S n s e u
  := by
  induction k generalizing t with
  | zero => cases hfails
  | succ k ih =>
    obtain htest | ⟨goesOn, t₁, htest, hrest⟩ := Action.failed_of_bind hfails
    · exact .test h htest
    cases goesOn with
    | false => cases hrest
    | true =>
      obtain htick | ⟨_, t₂, htick, hrest⟩ := Action.failed_of_bind hrest
      · exact .tick h htest htick
      obtain hbody | ⟨flow, t₃, hbody, hrest⟩ := Action.failed_of_bind hrest
      · exact .body h htest htick hbody
      cases flow with
      | returned v => cases hrest
      | normal v =>
        obtain hstep | ⟨_, t₄, hstep, hrest⟩ := Action.failed_of_bind hrest
        · exact .step h htest htick hbody hstep
        · exact ih (h.next htest htick hbody hstep) hrest

/-- The ways in which a loop can fail are all the ways in which it does. -/
theorem fails_iff :
  l.Fails S n s e u ↔ l.eval S n s = .failed e u
  := by
  constructor
  · intro h
    cases h with
    | test h htest =>
      rw [h.eval_eq, rounds, Action.bind_of_failed htest]
    | tick h htest htick =>
      rw [h.eval_eq, rounds, Action.bind_of_done htest, if_pos rfl, Action.bind_of_failed htick]
    | body h htest htick hbody =>
      rw [h.eval_eq, rounds, Action.bind_of_done htest, if_pos rfl, Action.bind_of_done htick,
        Action.bind_of_failed hbody]
    | step h htest htick hbody hstep =>
      rw [h.eval_eq, rounds, Action.bind_of_done htest, if_pos rfl, Action.bind_of_done htick,
        Action.bind_of_done hbody]
      exact Action.bind_of_failed hstep
  · exact Round.fails_of_rounds .first

end Loop

/-! ### Failures of frames and calls -/

namespace Eval

variable {S : Setting} {s t u : State} {e : Error} {α : Type}

/-- If what runs under a frame fails, the error gets the backtrace with the frame still there. -/
theorem inFrame_failed {frame : Frame} {a : Eval α} (hframe : S.Admits frame s t)
    (ha : a t = .failed e u) :
  inFrame S frame a s = .failed (u.calls.attach e) u.left
  := by
  obtain ⟨hverdict, calls, hpush, rfl⟩ := hframe
  rw [inFrame_apply, hverdict, hpush]
  dsimp only
  rw [ha]
  rfl

theorem inClosure_failed {f : Closure} {a : Eval α} (ha : a (s.inside f) = .failed e t) :
  inClosure f a s = .failed e (t.within s.env)
  := by
  rw [inClosure_apply, ha]
  rfl

/-- A failure in a closure is a failure of the evaluation there. -/
theorem failed_of_inClosure {f : Closure} {a : Eval α} (h : inClosure f a s = .failed e t) :
  ∃ u, a (s.inside f) = .failed e u
  := by
  rw [inClosure_apply] at h
  cases ha : a (s.inside f) with
  | done v u =>
    rw [ha] at h
    cases h
  | failed e' u =>
    rw [ha] at h
    cases h
    exact ⟨u, rfl⟩
  | outOfFuel =>
    rw [ha] at h
    cases h

/-- An evaluation under a frame fails because the run has to stop, because the frame is refused, or
under the frame. -/
theorem failed_of_inFrame {frame : Frame} {a : Eval α} (h : inFrame S frame a s = .failed e t) :
  (∃ why, e = Error.ofCause (.interrupted why))
    ∨ (∃ cause, s.calls.push frame = .error cause ∧ e = Error.ofCause cause)
    ∨ ∃ s' e' u, S.Admits frame s s' ∧ a s' = .failed e' u
  := by
  rw [inFrame_apply] at h
  cases hverdict : s.budget.callVerdict S.limits S.clock s.scene.host.runs with
  | some why =>
    rw [hverdict] at h
    cases h
    exact .inl ⟨why, rfl⟩
  | none =>
    rw [hverdict] at h
    cases hpush : s.calls.push frame with
    | error cause =>
      rw [hpush] at h
      cases h
      exact .inr (.inl ⟨cause, rfl, rfl⟩)
    | ok calls =>
      rw [hpush] at h
      dsimp only at h
      cases ha : a (s.checked.entered calls) with
      | done v u =>
        rw [ha] at h
        cases h
      | failed e' u => exact .inr (.inr ⟨_, e', u, ⟨hverdict, calls, hpush, rfl⟩, ha⟩)
      | outOfFuel =>
        rw [ha] at h
        cases h

variable {call : Closure → List Value → Option Span → Eval Value} {name : String}
  {args : List Value} {span : Span}

/-- The name of a built-in is a call of it, whatever variables there are. -/
theorem callNamed_builtin (hname : Entries.contains name S.builtins = true) :
  callNamed S call name args span = callBuiltin S name args (some span)
  := by
  rw [callNamed, if_pos hname]

/-- Any other name is a call of what the variable holds, or of nothing. -/
theorem callNamed_held (hname : Entries.contains name S.builtins = false) (s : State) :
  callNamed S call name args span s = match s.scene.get? name with
    | some (.builtin b) => callBuiltin S b args (some span) s
    | some (.closure f) => call f args (some span) s
    | _ => .failed (Error.ofCause (.undefinedFunction name)) s
  := by
  rw [callNamed, if_neg (by simp [hname])]
  show (match s.scene.get? name with
    | some (.builtin b) => callBuiltin S b args (some span)
    | some (.closure f) => call f args (some span)
    | _ => throw (.undefinedFunction name) : Eval Value) s = _
  cases s.scene.get? name with
  | none => rfl
  | some v => cases v <;> rfl

/-- What runs after names are bound runs in the state with these names. -/
theorem bound_apply (pairs : List (String × Value)) (a : Eval α) (s : State) :
  (do
    change fun scene => scene.defineAll pairs
    a) s = a (s.bound pairs)
  := rfl

end Eval

/-! ### Tasks that fail -/

namespace Task

/-- A task that begins in a state fails, and leaves another state behind. -/
def Fails (S : Setting) (task : Task) (s : State) (e : Error) (t : State) : Prop :=
  match task with
  | expr n x => evalExpr S n x s = .failed e t
  | stmt n st => execStmt S n st s = .failed e t
  | body n stmts => execAll S n stmts s = .failed e t
  | loop n l => l.eval S n s = .failed e t
  | call n f args span => callClosure S n f args span s = .failed e t
  | builtin name args span => callBuiltin S name args span s = .failed e t
  | dispatch name args => onScene (S.builtins.dispatch name args) s = .failed e t
  | job n j => j.eval S n s = .failed e t

/-- The error with the place of the task, if the task has one and the error has none. -/
def placed (task : Task) (e : Error) : Error :=
  match task with
  | expr _ x => e.orSpan x.span
  | stmt _ st => e.orSpan st.span
  | _ => e

/-- What the error of a part learns when it leaves the task: the active calls if the task has a
frame, else its place. -/
def learn (task : Task) (t : State) (e : Error) : Error :=
  match task.frame? with
  | some _ => t.calls.attach e
  | none => task.placed e

/-- A task that gives its place to an error leaves the cause. -/
theorem cause_placed (task : Task) (e : Error) :
  (task.placed e).cause = e.cause
  := by
  cases task <;> first | rfl | exact Error.cause_orSpan _ _

/-- A task that learns from the state in which it fails leaves the cause. -/
theorem cause_learn (task : Task) (t : State) (e : Error) :
  (task.learn t e).cause = e.cause
  := by
  unfold learn
  split
  · exact CallStack.cause_attach _ _
  · exact task.cause_placed e

end Task

/-- A task has one failure at most. -/
theorem Task.Fails.unique {S : Setting} {task : Task} {s t t' : State} {e e' : Error}
    (h : task.Fails S s e t) (h' : task.Fails S s e' t') :
  e = e' ∧ t = t'
  := by
  cases task <;>
  · cases h.symm.trans h'
    exact ⟨rfl, rfl⟩

theorem Task.Fails.after? {S : Setting} {task : Task} {s t : State} {e : Error}
    (h : task.Fails S s e t) :
  task.after? S s = some t
  := by
  cases task <;> exact congrArg Outcome.state? h

/-- Nothing is done but to clean up: scopes, frames and environments are left, and the budget and
the host stay as they are. -/
def State.Untouched (s t : State) : Prop := t.budget = s.budget ∧ t.scene.host = s.scene.host

/-- A task fails as soon as one of its parts does, and does nothing more but clean up. -/
theorem Enters.failed {S : Setting} {task part : Task} {s s' u : State} {e : Error}
    (h : Enters S task s part s') (hfails : part.Fails S s' e u) :
  ∃ t, task.Fails S s (task.learn u e) t ∧ u.Untouched t
  := by
  cases h with
  | left | operand | member | target | assigned | condition | iterable | expression | property =>
    exact ⟨u, located_failed (Action.bind_of_failed hfails), rfl, rfl⟩
  | declared | returned => exact ⟨u, located_failed (Action.bind_of_failed hfails), rfl, rfl⟩
  | right h | place h =>
    exact ⟨u, located_failed ((Action.bind_of_done h).trans (Action.bind_of_failed hfails)),
      rfl, rfl⟩
  | argument h | item h =>
    exact ⟨u, located_failed (Action.bind_of_failed (Action.each_failed h hfails _)), rfl, rfl⟩
  | @entry n _ _ key x _ _ _ _ h =>
    have hentry : (do return (key, ← evalExpr S n x) : Eval (String × Value)) s' = .failed e u :=
      Action.bind_of_failed hfails
    exact ⟨u, located_failed (Action.bind_of_failed (Action.each_failed h hentry _)), rfl, rfl⟩
  | builtin h hname =>
    refine ⟨u, located_failed ((Action.bind_of_done h).trans ?_), rfl, rfl⟩
    rw [callNamed_builtin hname]
    exact hfails
  | heldBuiltin h hname hvalue | heldClosure h hname hvalue =>
    refine ⟨u, located_failed ((Action.bind_of_done h).trans ?_), rfl, rfl⟩
    rw [callNamed_held hname, hvalue]
    exact hfails
  | block =>
    exact ⟨u.popped, located_failed (Action.bind_of_failed (inScope_failed hfails)), rfl, rfl⟩
  | yes h hv =>
    refine ⟨u.popped, located_failed ((Action.bind_of_done h).trans ?_), rfl, rfl⟩
    rw [if_pos hv]
    exact Action.bind_of_failed (inScope_failed hfails)
  | no h hv =>
    refine ⟨u.popped, located_failed ((Action.bind_of_done h).trans ?_), rfl, rfl⟩
    rw [if_neg (by simp [hv])]
    exact Action.bind_of_failed (inScope_failed hfails)
  | whileLoop => exact ⟨u, located_failed hfails, rfl, rfl⟩
  | element h hbefore hflow htick =>
    refine ⟨u.popped, located_failed ((Action.bind_of_done h).trans ?_), rfl, rfl⟩
    refine (Action.bind_of_done rfl).trans ?_
    refine (forEach_append hbefore hflow _).trans ?_
    exact (Action.bind_of_done htick).trans (Action.bind_of_failed (inScope_failed hfails))
  | start =>
    exact ⟨u.popped, located_failed (inScope_failed
      (Action.bind_of_failed (Action.bind_of_failed hfails))), rfl, rfl⟩
  | forLoop h =>
    exact ⟨u.popped, located_failed (inScope_failed ((Action.bind_of_done h).trans hfails)),
      rfl, rfl⟩
  | statement h => exact ⟨u, sequence_failed h hfails _, rfl, rfl⟩
  | test h => exact ⟨u, Loop.fails_iff.mp (.test h (Action.bind_of_failed hfails)), rfl, rfl⟩
  | round h htest htick =>
    exact ⟨u.popped, Loop.fails_iff.mp (.body h htest htick (inScope_failed hfails)), rfl, rfl⟩
  | update h htest htick hbody =>
    exact ⟨u, Loop.fails_iff.mp (.step h htest htick hbody (Action.bind_of_failed hfails)),
      rfl, rfl⟩
  | @called _ _ _ _ _ t hframe =>
    refine ⟨_, inFrame_failed (u := u.within t.env) hframe (inClosure_failed ?_), rfl, rfl⟩
    exact (bound_apply _ _ _).trans (Action.bind_of_failed hfails)
  | dispatched hframe => exact ⟨u.left, inFrame_failed hframe hfails, rfl, rfl⟩
  | program => exact ⟨u, Action.bind_of_failed hfails, rfl, rfl⟩
  | handler hframe =>
    refine ⟨u.popped.left, ?_, rfl, rfl⟩
    rw [Task.Fails, Job.eval, runHandler_eq]
    refine inFrame_failed (u := u.popped) hframe ?_
    exact Action.bind_of_failed (inScope_failed ((bound_apply _ _ _).trans hfails))
  | deferredBuiltin | deferredClosure =>
    refine ⟨u, ?_, rfl, rfl⟩
    rw [Task.Fails, Job.eval, invoke, List.append_nil]
    exact hfails

/-- If a task under way fails, the whole fails at once, for the same cause. -/
theorem Underway.failed {S : Setting} {whole task : Task} {s t u : State}
    {outer : List (Task × State)} {e : Error} (h : Underway S whole s ((task, t) :: outer))
    (hfails : task.Fails S t e u) :
  ∃ e' u', whole.Fails S s e' u' ∧ e'.cause = e.cause ∧ u.Untouched u'
  := by
  generalize hall : (task, t) :: outer = chain at h
  induction h generalizing task t outer e u with
  | whole =>
    cases hall
    exact ⟨e, u, hfails, rfl, rfl, rfl⟩
  | @part caller _ _ _ _ _ hpart ih =>
    cases hall
    obtain ⟨u₁, hfails', hbudget, hhost⟩ := hpart.failed hfails
    obtain ⟨e', u', hwhole, hcause, hbudget', hhost'⟩ := ih hfails' rfl
    exact ⟨e', u', hwhole, hcause.trans (caller.cause_learn u e), hbudget'.trans hbudget,
      hhost'.trans hhost⟩

end StoryScript
