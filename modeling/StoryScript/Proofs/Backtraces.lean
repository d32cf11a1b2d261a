import StoryScript.Proofs.Keeping
import StoryScript.Proofs.Origins
import StoryScript.Proofs.Quota
import StoryScript.Proofs.Stacks

/-!
# Backtraces

An error takes the active calls along when it leaves the innermost call, and keeps them through
all calls around it.  Main statement: with built-ins that leave the call stack alone the backtrace
of an error is the chain of the calls that were active where the error was raised; an error that
was raised outside of every call that the evaluation made has none.
-/

namespace StoryScript

open Eval

/-- The call stack is the same. -/
def Scene.SameCalls (s t : Scene) : Prop := t.context.calls = s.context.calls

/-- The call stack is the same. -/
def State.SameCalls (s t : State) : Prop := s.scene.SameCalls t.scene

/-- All built-ins leave the call stack as they found it. -/
def Builtins.LeaveCalls (table : Builtins) : Prop :=
  ∀ entry ∈ table, ∀ args, (entry.2 args).Keeps Scene.SameCalls

theorem Builtins.Detached.leaveCalls {table : Builtins} (h : table.Detached) :
  table.LeaveCalls
  := by
  intro entry hentry args s t ht
  obtain ⟨x, lines, hanswer, -⟩ := h entry hentry args
  rw [hanswer] at ht
  cases x <;> cases ht <;> rfl

/-- With built-ins that leave the call stack alone every evaluation leaves it as it was. -/
theorem upkeep_sameCalls {S : Setting} (hS : S.builtins.LeaveCalls) :
  Upkeep S State.SameCalls
  where
  refl _ := rfl
  trans h h' := h'.trans h
  checked _ := rfl
  ticked _ := rfl
  defined _ _ _ := rfl
  assigned _ _ _ := rfl
  logged _ _ := rfl
  dispatch name args := by
    have hdispatch := Builtins.keeps_dispatch (Q := Scene.SameCalls) (fun _ => rfl) hS name args
    exact keeps_onScene hdispatch fun _ _ h => h
  scope h := h
  frame {s t frame calls} hpush h := by
    have hcalls : t.calls = calls := h
    show t.calls.pop = s.calls
    rw [hcalls]
    exact CallStack.pop_of_push hpush
  closure _ h := h

/-! ### The frames of the calls under way -/

/-- The frames of the tasks under way around some task, the most recent one first. -/
def framesOf (outer : List (Task × State)) : List Frame := outer.filterMap fun p => p.1.frame?

theorem framesOf_cons (p : Task × State) (outer : List (Task × State)) :
  framesOf (p :: outer) = p.1.frame?.toList ++ framesOf outer
  := by
  unfold framesOf
  rw [List.filterMap_cons]
  cases p.1.frame? <;> rfl

/-- What the calls are when a part of a task begins: one more than before if the task has a
frame. -/
def Task.Opens (task : Task) (before after : CallStack) : Prop :=
  match task.frame? with
  | some frame => before.push frame = .ok after
  | none => after = before

theorem Setting.Admits.push {S : Setting} {frame : Frame} {s t : State}
    (h : S.Admits frame s t) :
  s.calls.push frame = .ok t.calls
  := by
  obtain ⟨-, calls, hpush, rfl⟩ := h
  exact hpush

theorem State.Leads.sameCalls {s t : State} (h : s.Leads State.SameCalls t) :
  t.calls = s.calls
  := by
  obtain h | ⟨u, hu, h⟩ := h
  · exact h
  · exact h.trans hu

/-- The calls when a part of a task begins. -/
theorem Enters.opens {S : Setting} (U : Upkeep S State.SameCalls) {task part : Task} {s t : State}
    (h : Enters S task s part t) :
  task.Opens s.calls t.calls
  := by
  unfold Task.Opens
  obtain ⟨hframe, h⟩ | ⟨frame, u, hframe, hu, h⟩ := h.leads U
  · rw [hframe]
    exact h.sameCalls
  · have hcalls : t.calls = u.calls := by
      obtain h | ⟨_, _, _, _, _, h⟩ := h
      · exact h.sameCalls
      · exact h
    rw [hframe, hcalls]
    exact hu.push

namespace Task.Opens

variable {task : Task} {c d : CallStack}

theorem frames (h : task.Opens c d) :
  d.frames = task.frame?.toList ++ c.frames
  := by
  unfold Opens at h
  cases hframe : task.frame? with
  | none =>
    rw [hframe] at h
    rw [h]
    rfl
  | some frame =>
    rw [hframe] at h
    exact CallStack.frames_of_push h

theorem limit (h : task.Opens c d) :
  d.limit = c.limit
  := by
  unfold Opens at h
  split at h
  · exact CallStack.limit_of_push h
  · rw [h]

/-- The limit on nested calls is not passed. -/
theorem depth_le (h : task.Opens c d) {limit : Nat} (hlimit : c.limit = some limit)
    (hdepth : c.depth ≤ limit) :
  d.depth ≤ limit
  := by
  unfold Opens at h
  cases hframe : task.frame? with
  | none =>
    rw [hframe] at h
    rw [h]
    exact hdepth
  | some frame =>
    rw [hframe] at h
    rw [CallStack.depth_of_push h]
    apply Nat.lt_of_not_le
    intro hfull
    have hrefused := (c.push_eq_error_iff frame (.stackOverflow limit)).mpr
      ⟨limit, hlimit, hfull, rfl⟩
    cases h.symm.trans hrefused

end Task.Opens

/-! ### What an error learns -/

theorem Error.backtrace_orSpan (e : Error) (span : Span) :
  (e.orSpan span).backtrace = e.backtrace
  := by
  unfold orSpan
  split <;> rfl

theorem CallStack.backtrace_attach (c : CallStack) (e : Error) (hc : c.frames ≠ []) :
  (c.attach e).backtrace = some (e.backtrace.getD c.frames)
  := by
  unfold attach
  cases hb : e.backtrace with
  | some b => simp [hb]
  | none => simp [hc, Error.withBacktrace, capture]

theorem Error.backtrace_ofBuiltin (name : String) (e : BuiltinError) :
  (ofBuiltin name e).backtrace = none
  := by
  cases e <;> rfl

theorem Error.cause_ofBuiltin (name : String) (e : BuiltinError) :
  ∃ m, (ofBuiltin name e).cause = .argumentError name m
    ∨ (ofBuiltin name e).cause = .hostFailure name m
  := by
  cases e with
  | host m => exact ⟨m, .inr rfl⟩
  | _ => exact ⟨_, .inl rfl⟩

namespace Task

theorem backtrace_placed (task : Task) (e : Error) :
  (task.placed e).backtrace = e.backtrace
  := by
  cases task <;> first | rfl | exact e.backtrace_orSpan _

namespace Raises

variable {task : Task} {s : State} {e : Error}

/-- An error that arises has no backtrace yet. -/
theorem backtrace (h : task.Raises s e) :
  e.backtrace = none
  := by
  cases h with
  | own h =>
    obtain ⟨cause, -, rfl⟩ := h
    exact task.backtrace_placed _
  | iterable kind =>
    rw [Error.backtrace_orSpan, Error.backtrace_orSpan]
    rfl
  | refused => rfl
  | reported e => exact Error.backtrace_ofBuiltin _ e
  | declined e => rw [Error.backtrace_orSpan, Error.backtrace_ofBuiltin]
  | answered e => exact Error.backtrace_ofBuiltin _ e

/-- An error over the call stack arises where as many calls are active as there may be. -/
theorem limit_of_overflow (h : task.Raises s e) {d : Nat} (hcause : e.cause = .stackOverflow d) :
  s.calls.limit = some d ∧ d ≤ s.calls.depth
  := by
  have hreported : ∀ name e, (Error.ofBuiltin name e).cause ≠ .stackOverflow d := by
    rintro name e hcause
    obtain ⟨m, h | h⟩ := Error.cause_ofBuiltin name e
    · cases hcause.symm.trans h
    · cases hcause.symm.trans h
  cases h with
  | own h =>
    obtain ⟨cause, hplain, rfl⟩ := h
    rw [task.cause_placed] at hcause
    cases (show cause = _ from hcause)
    cases hplain
  | iterable kind =>
    rw [Error.cause_orSpan, Error.cause_orSpan] at hcause
    cases hcause
  | refused hframe hpush =>
    obtain ⟨limit, hlimit, hfull, rfl⟩ := (CallStack.push_eq_error_iff _ _ _).mp hpush
    cases hcause
    exact ⟨hlimit, hfull⟩
  | reported e => exact absurd hcause (hreported _ e)
  | declined e =>
    rw [Error.cause_orSpan] at hcause
    exact absurd hcause (hreported _ e)
  | answered e => exact absurd hcause (hreported _ e)

/-- Errors over arguments and of the host are reported by the built-in that they name, or by the
host itself: when it is handed a declaration, or calls a function of its own. -/
theorem reporter (h : task.Raises s e) {name m : String}
    (hcause : e.cause = .argumentError name m ∨ e.cause = .hostFailure name m) :
  (∃ args, task = .dispatch name args)
    ∨ (∃ n span what, task = .stmt n (.handOff span what))
    ∨ ∃ n run args, task = .job n (.deferred ⟨.native name run, args⟩)
  := by
  have hname : ∀ {b e}, ((Error.ofBuiltin b e).cause = .argumentError name m
      ∨ (Error.ofBuiltin b e).cause = .hostFailure name m) → b = name := by
    intro b e h
    obtain ⟨m', h' | h'⟩ := Error.cause_ofBuiltin b e
    · rw [h'] at h
      obtain ⟨⟨⟩⟩ | ⟨⟨⟩⟩ := h
      rfl
    · rw [h'] at h
      obtain ⟨⟨⟩⟩ | ⟨⟨⟩⟩ := h
      rfl
  cases h with
  | own h =>
    obtain ⟨cause, hplain, rfl⟩ := h
    rw [task.cause_placed] at hcause
    obtain h | h := (show cause = _ ∨ cause = _ from hcause)
    · cases h
      cases hplain
    · cases h
      cases hplain
  | iterable kind =>
    rw [Error.cause_orSpan, Error.cause_orSpan] at hcause
    obtain ⟨⟨⟩⟩ | ⟨⟨⟩⟩ := hcause
  | refused hframe hpush =>
    obtain ⟨limit, -, -, rfl⟩ := (CallStack.push_eq_error_iff _ _ _).mp hpush
    obtain ⟨⟨⟩⟩ | ⟨⟨⟩⟩ := hcause
  | reported e =>
    obtain rfl := hname hcause
    exact .inl ⟨_, rfl⟩
  | declined e => exact .inr (.inl ⟨_, _, _, rfl⟩)
  | answered e =>
    obtain rfl := hname hcause
    exact .inr (.inr ⟨_, _, _, rfl⟩)

end Raises

end Task

/-! ### Chains of calls -/

/-- The backtrace of an error that arises where the given calls are under way. -/
def traceOf (outer : List (Task × State)) (calls : CallStack) : Option Backtrace :=
  if framesOf outer = [] then none else some calls.frames

namespace Underway

variable {S : Setting} {whole task : Task} {s t u : State} {outer : List (Task × State)} {e : Error}

/-- The active calls are those of the tasks under way, on top of those that were active before. -/
theorem calls (U : Upkeep S State.SameCalls) (h : Underway S whole s ((task, t) :: outer)) :
  t.calls.frames = framesOf outer ++ s.calls.frames ∧ t.calls.limit = s.calls.limit
  := by
  generalize hall : (task, t) :: outer = chain at h
  induction h generalizing task t outer with
  | whole =>
    cases hall
    exact ⟨rfl, rfl⟩
  | part _ hpart ih =>
    cases hall
    obtain ⟨hframes, hlimit⟩ := ih rfl
    have hopens := hpart.opens U
    constructor
    · rw [hopens.frames, hframes, framesOf_cons, List.append_assoc]
    · rw [hopens.limit, hlimit]

/-- There are never more calls than the limit. -/
theorem depth_le (U : Upkeep S State.SameCalls) {limit : Nat} (hlimit : s.calls.limit = some limit)
    (hdepth : s.calls.depth ≤ limit) (h : Underway S whole s ((task, t) :: outer)) :
  t.calls.depth ≤ limit
  := by
  generalize hall : (task, t) :: outer = chain at h
  induction h generalizing task t outer with
  | whole =>
    cases hall
    exact hdepth
  | part hchain hpart ih =>
    cases hall
    exact (hpart.opens U).depth_le ((hchain.calls U).2.trans hlimit) (ih rfl)

/-- If a task under way fails, the whole fails with its error.  The error gets the active calls,
unless it has a backtrace already or there are no calls under way. -/
theorem backtrace (U : Upkeep S State.SameCalls) (h : Underway S whole s ((task, t) :: outer))
    (hfails : task.Fails S t e u) :
  ∃ e' u', whole.Fails S s e' u' ∧ e'.cause = e.cause
    ∧ e'.backtrace = e.backtrace.or (traceOf outer t.calls)
  := by
  generalize hall : (task, t) :: outer = chain at h
  induction h generalizing task t outer e u with
  | whole =>
    cases hall
    exact ⟨e, u, hfails, rfl, (Option.or_none).symm⟩
  | @part caller part before after outer' _ hpart ih =>
    cases hall
    obtain ⟨u₁, hfails', -⟩ := hpart.failed hfails
    obtain ⟨e', u', hwhole, hcause, htrace⟩ := ih hfails' rfl
    refine ⟨e', u', hwhole, hcause.trans (caller.cause_learn u e), htrace.trans ?_⟩
    have hopens := hpart.opens U
    have hsame : u.calls = after.calls := U.task part hfails.after?
    rw [traceOf, traceOf, framesOf_cons]
    cases hframe : caller.frame? with
    | none =>
      rw [Task.Opens, hframe] at hopens
      rw [Task.learn, hframe, caller.backtrace_placed, hopens]
      rfl
    | some frame =>
      have hframes := hopens.frames
      rw [hframe] at hframes
      have hactive : u.calls.frames ≠ [] := by
        rw [hsame, hframes]
        exact List.cons_ne_nil _ _
      have hinside : (some frame).toList ++ framesOf outer' ≠ [] := List.cons_ne_nil _ _
      rw [Task.learn, hframe, if_neg hinside]
      dsimp only
      rw [CallStack.backtrace_attach _ _ hactive, hsame]
      cases e.backtrace <;> rfl

end Underway

/-! ### Backtraces -/

namespace Origin

variable {S : Setting} {whole task : Task} {s t u : State} {outer : List (Task × State)}
  {e e₀ : Error}

/-- The error of the whole is that of its origin, with the calls that were active there. -/
theorem backtrace (U : Upkeep S State.SameCalls) (h : Origin S whole s task t outer e₀)
    (hfails : whole.Fails S s e u) :
  e.cause = e₀.cause ∧ e.backtrace = traceOf outer t.calls
  := by
  obtain ⟨u₀, hfails₀⟩ := h.fails
  obtain ⟨e', u', hwhole, hcause, htrace⟩ := h.underway.backtrace U hfails₀
  obtain ⟨rfl, -⟩ := hfails.unique hwhole
  rw [h.raises.backtrace, Option.none_or] at htrace
  exact ⟨hcause, htrace⟩

/-- What a built-in reports is raised under the frame of the built-in. -/
theorem framesOf_dispatch {name : String} {args : List Value} (houter : outer ≠ [])
    (h : Origin S whole s (.dispatch name args) t outer e₀) :
  ∃ span rest, framesOf outer = ⟨name, span⟩ :: rest
  := by
  cases h.underway with
  | whole => exact absurd rfl houter
  | part _ hpart =>
    cases hpart with
    | @dispatched _ _ span => exact ⟨span, _, framesOf_cons _ _⟩

/-- On an empty call stack the backtrace of an overflow has as many frames as there may be. -/
theorem length_of_overflow (U : Upkeep S State.SameCalls) (hempty : s.calls.frames = [])
    (h : Origin S whole s task t outer e₀) {d : Nat} (hcause : e₀.cause = .stackOverflow d) :
  (framesOf outer).length = d
  := by
  obtain ⟨hlimit, hfull⟩ := h.raises.limit_of_overflow hcause
  obtain ⟨hframes, hsame⟩ := h.underway.calls U
  rw [hempty, List.append_nil] at hframes
  have hdepth : s.calls.depth ≤ d := by
    rw [CallStack.depth, hempty]
    exact Nat.zero_le d
  have hwithin := h.underway.depth_le U (hsame.symm.trans hlimit) hdepth
  rw [CallStack.depth, hframes] at hfull hwithin
  exact Nat.le_antisymm hwithin hfull

end Origin

/-- A run that fails was refused at the gate, or fails with the error of its job. -/
theorem Job.fails_of_run {S : Setting} {n : Nat} {job : Job} {scene t : Scene} {e : Error}
    (h : job.run S n scene = .failed e t) :
  (∃ cause, scene.host.runs.mayStart scene.context.script = .error cause ∧ e = .ofCause cause)
    ∨ ∃ u, (Task.job n job).Fails S (scene.runState S.limits) e u
  := by
  rw [Job.run_eq] at h
  cases hgate : scene.host.runs.mayStart scene.context.script with
  | error cause =>
    rw [guarded_refused S _ scene cause hgate] at h
    cases h
    exact .inl ⟨cause, rfl, rfl⟩
  | ok _ =>
    rw [guarded_passed S _ scene hgate] at h
    cases ha : job.eval S n (scene.runState S.limits) with
    | done v u =>
      rw [ha] at h
      cases h
    | failed e' u =>
      rw [ha] at h
      cases h
      exact .inr ⟨u, ha⟩
    | outOfFuel =>
      rw [ha] at h
      cases h

/-- The backtrace of an error is the chain of the calls that were entered since the evaluation
began and were active when the error was raised, the most recent one first, on top of the calls
that were active before; an error that was raised outside of all those calls has no backtrace.
So it is for runs that begin without active calls. -/
theorem backtraces_are_call_chains {S : Setting} (hS : S.builtins.LeaveCalls) :
  (∀ whole s e u, whole.Fails S s e u →
      (∃ task t outer e₀, Origin S whole s task t outer e₀)
        ∧ ∀ task t outer e₀, Origin S whole s task t outer e₀ →
            e.cause = e₀.cause
              ∧ t.calls.frames = framesOf outer ++ s.calls.frames
              ∧ e.backtrace
                = if framesOf outer = [] then none else some (framesOf outer ++ s.calls.frames))
    ∧ ∀ n job scene e u, scene.context.calls.frames = [] → job.run S n scene = .failed e u →
        (e.backtrace = none
            ∧ scene.host.runs.mayStart scene.context.script = .error e.cause)
          ∨ ∃ task t outer e₀, Origin S (.job n job) (scene.runState S.limits) task t outer e₀
            ∧ (e.backtrace.isSome = true ↔ framesOf outer ≠ [])
            ∧ (∀ b, e.backtrace = some b → b = framesOf outer
                ∧ ∀ limit, S.limits.callDepth = some limit → b.length ≤ limit)
            ∧ (∀ d, 0 < d → e.cause = .stackOverflow d →
                ∃ b, e.backtrace = some b ∧ b.length = d)
            ∧ (∀ name args, task = .dispatch name args →
                ∃ span rest, e.backtrace = some (⟨name, span⟩ :: rest))
            -- other errors over arguments and of the host are reported by the host itself
            ∧ (∀ name m, e.cause = .argumentError name m ∨ e.cause = .hostFailure name m →
                (∃ args, task = .dispatch name args)
                  ∨ (∃ k span what, task = .stmt k (.handOff span what))
                  ∨ ∃ k run args, task = .job k (.deferred ⟨.native name run, args⟩))
  := by
  have U := upkeep_sameCalls hS
  constructor
  · intro whole s e u hfails
    use Origin.of_underway .whole hfails
    intro task t outer e₀ h
    obtain ⟨hcause, htrace⟩ := h.backtrace U hfails
    obtain ⟨hframes, -⟩ := h.underway.calls U
    rw [traceOf, hframes] at htrace
    exact ⟨hcause, hframes, htrace⟩
  · intro n job scene e u hempty hrun
    obtain ⟨cause, hgate, rfl⟩ | ⟨u', hfails⟩ := Job.fails_of_run hrun
    · exact .inl ⟨rfl, hgate⟩
    obtain ⟨task, t, outer, e₀, h⟩ := Origin.of_underway .whole hfails
    obtain ⟨hcause, htrace⟩ := h.backtrace U hfails
    obtain ⟨hframes, hlimit⟩ := h.underway.calls U
    have hbegin : (scene.runState S.limits).calls.frames = [] := hempty
    rw [hbegin, List.append_nil] at hframes
    rw [traceOf, hframes] at htrace
    refine .inr ⟨task, t, outer, e₀, h, ?_, ?_, ?_, ?_, ?_⟩
    · rw [htrace]
      split
      · rename_i hnone
        simp [hnone]
      · rename_i hsome
        simp [hsome]
    · intro b hb
      rw [htrace] at hb
      split at hb
      · cases hb
      · cases hb
        use rfl
        intro limit hdepth
        have hcap : (scene.runState S.limits).calls.limit = some limit := hdepth
        have hwithin := h.underway.depth_le U hcap (by simp [CallStack.depth, hbegin])
        rw [CallStack.depth, hframes] at hwithin
        exact hwithin
    · intro d hd hoverflow
      have hlength := h.length_of_overflow U hbegin (hcause.symm.trans hoverflow)
      have hactive : framesOf outer ≠ [] := List.ne_nil_of_length_pos (hlength ▸ hd)
      rw [htrace, if_neg hactive]
      exact ⟨_, rfl, hlength⟩
    · rintro name args rfl
      have houter : outer ≠ [] := by
        rintro rfl
        cases h.underway
      obtain ⟨span, rest, hhead⟩ := h.framesOf_dispatch houter
      have hactive : framesOf outer ≠ [] := by
        rw [hhead]
        exact List.cons_ne_nil _ _
      rw [htrace, if_neg hactive, hhead]
      exact ⟨span, rest, rfl⟩
    · intro name m hreported
      rw [hcause] at hreported
      exact h.raises.reporter hreported

/-- A function that calls a built-in without its argument, and its call. -/
def mistake : Program :=
  ⟨[.function .dummy 0 "f" [] [.expression .dummy (.call .dummy "len" [])],
    .expression .dummy (.call .dummy "f" [])]⟩

/-- The backtrace shows the built-in and the function. -/
theorem backtrace_of_mistake :
  (Standard.setting .standard).builtins.LeaveCalls
    ∧ ∃ e u task t outer e₀, execute (Standard.setting .standard) 8 mistake
          (Scene.enter (Host.initial .buffer) "main") = .failed e u
        ∧ Origin (Standard.setting .standard) (.job 8 (.program mistake))
          ((Scene.enter (Host.initial .buffer) "main").runState .standard) task t outer e₀
        ∧ framesOf outer = [⟨"len", some .dummy⟩, ⟨"f", some .dummy⟩]
        ∧ e.backtrace = some (framesOf outer)
  := by
  have hS : (Standard.setting .standard).builtins.LeaveCalls := Standard.detached.leaveCalls
  have hrun : ∃ e u, (Job.program mistake).run (Standard.setting .standard) 8
      (Scene.enter (Host.initial .buffer) "main") = .failed e u
      ∧ e.backtrace = some [⟨"len", some .dummy⟩, ⟨"f", some .dummy⟩] := ⟨_, _, rfl, rfl⟩
  obtain ⟨e, u, hrun, htrace⟩ := hrun
  obtain ⟨hnone, -⟩ | ⟨task, t, outer, e₀, h, -, hframes, -⟩ :=
    (backtraces_are_call_chains hS).2 8 (.program mistake) _ e u rfl hrun
  · cases htrace.symm.trans hnone
  · obtain ⟨hsame, -⟩ := hframes _ htrace
    exact ⟨hS, e, u, task, t, outer, e₀, hrun, h, hsame.symm, by rw [htrace, hsame]⟩

end StoryScript
