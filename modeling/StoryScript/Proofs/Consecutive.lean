import StoryScript.Proofs.Failures
import StoryScript.Proofs.Isolation
import StoryScript.Proofs.Upkeep

/-!
# Consecutive runs

A program in two halves can be run as a whole, or one half after the other.  The second run has a
number and a budget of its own, but without limits on rounds and time, and without requests to
stop, no evaluation can tell: whatever else it sees is in the context and in the host, and the
first run left all of that as it was in the middle of the whole.  Main statement: both ways have
the same results, and leave the same context and the same host but for the numbers of the runs.
-/

namespace StoryScript

open Eval

/-- Nothing is limited but the number of nested calls. -/
structure Limits.CallsOnly (limits : Limits) : Prop where
  iterations : limits.iterations = none
  deadline : limits.deadline = none

namespace Budget

variable {limits : Limits} {b : Budget} {runs : Runs}

/-- Without a limit on time only a request can stop a run before a call. -/
theorem callVerdict_eq_none (h : limits.CallsOnly) (hgoing : b.isStopped runs = false)
    (clock : Nat → Nat) :
  b.callVerdict limits clock runs = none
  := by
  rw [callVerdict, h.deadline, hgoing]
  rfl

/-- A loop goes on as long as the run is not stopped, if only calls are limited. -/
theorem roundVerdict_counted_eq_none (h : limits.CallsOnly) (hgoing : b.isStopped runs = false)
    (clock : Nat → Nat) :
  b.counted.roundVerdict limits clock runs = none
  := by
  have hcounted : b.counted.isStopped runs = false := hgoing
  rw [roundVerdict, h.iterations]
  apply callVerdict_eq_none h hcounted

end Budget

/-! ### One evaluation in two runs -/

/-- The state in another run. -/
def State.inRun (s : State) (runs : Runs) (budget : Budget) : State :=
  ⟨{ s.scene with host.runs := runs }, budget⟩

/-- Two runs, each with the list of all runs at its time. -/
structure TwoRuns where
  /-- The runs during the first one. -/
  first : Runs
  /-- The runs during the second one. -/
  second : Runs

namespace TwoRuns

variable {T : TwoRuns} {S : Setting} {α β γ δ : Type} {P : α → β → Prop} {Q : γ → δ → Prop}

/-- The states differ only in the run, and neither run is asked to stop. -/
def Linked (T : TwoRuns) (s s' : State) : Prop :=
  s.scene.host.runs = T.first ∧ s.budget.isStopped T.first = false
    ∧ ∃ budget, s' = s.inRun T.second budget ∧ budget.isStopped T.second = false

/-- From states that differ only in the run the evaluations end alike. -/
def Joint (T : TwoRuns) (P : α → β → Prop) (a : Eval α) (b : Eval β) : Prop :=
  ∀ s s', T.Linked s s' → (a s).Twin T.Linked P (b s')

/-- A place does not tell the two runs apart. -/
theorem joint_located (span : Span) {a : Eval α} {b : Eval β} (h : T.Joint P a b) :
  T.Joint P (located span a) (located span b)
  := by
  intro s s' hs
  exact twin_located span (h s s' hs)

/-- A checkpoint in a loop is passed in both runs, whatever was counted before. -/
theorem joint_tick (hlimits : S.limits.CallsOnly) :
  T.Joint (fun _ _ => True) (tick S) (tick S)
  := by
  rintro s _ ⟨hruns, hgoing, budget, rfl, hgoing'⟩
  have hverdict := Budget.roundVerdict_counted_eq_none hlimits hgoing S.clock
  have hverdict' := Budget.roundVerdict_counted_eq_none hlimits hgoing' S.clock
  rw [tick_apply, tick_apply, hruns, hverdict, State.inRun, hverdict']
  exact .done ⟨hruns, hgoing, budget.counted.checked, rfl, hgoing'⟩ trivial

/-- Calls do the same in both runs, since the stacks are equally deep. -/
theorem joint_inFrame (hlimits : S.limits.CallsOnly) (frame : Frame) {a : Eval α} {b : Eval β}
    (h : T.Joint P a b) :
  T.Joint P (inFrame S frame a) (inFrame S frame b)
  := by
  rintro s _ ⟨hruns, hgoing, budget, rfl, hgoing'⟩
  have hverdict := Budget.callVerdict_eq_none hlimits hgoing S.clock
  have hverdict' := Budget.callVerdict_eq_none hlimits hgoing' S.clock
  have hcalls : (s.inRun T.second budget).calls = s.calls := rfl
  rw [inFrame_apply, inFrame_apply, hruns, hverdict, hcalls, State.inRun, hverdict']
  cases s.calls.push frame with
  | error cause => exact .failed _ ⟨hruns, hgoing, budget.checked, rfl, hgoing'⟩
  | ok calls =>
    have hentered : T.Linked (s.checked.entered calls)
        ((s.inRun T.second budget).checked.entered calls) :=
      ⟨hruns, hgoing, budget.checked.nested calls.depth, rfl, hgoing'⟩
    apply (h _ _ hentered).treated
    · rintro t _ e ⟨-, -, budget, rfl, -⟩
      rfl
    · rintro t _ ⟨hruns, hgoing, budget, rfl, hgoing'⟩
      exact ⟨hruns, hgoing, budget, rfl, hgoing'⟩

theorem joint_inClosure (f : Closure) {a : Eval α} {b : Eval β} (h : T.Joint P a b) :
  T.Joint P (inClosure f a) (inClosure f b)
  := by
  rintro s _ ⟨hruns, hgoing, budget, rfl, hgoing'⟩
  rw [inClosure_apply, inClosure_apply]
  have hinside : T.Linked (s.inside f) ((s.inRun T.second budget).inside f) :=
    ⟨hruns, hgoing, budget, rfl, hgoing'⟩
  apply (h _ _ hinside).treated
  · intro t t' e _
    rfl
  · rintro t _ ⟨hruns, hgoing, budget, rfl, hgoing'⟩
    exact ⟨hruns, hgoing, budget, rfl, hgoing'⟩

theorem joint_inScope {a : Eval α} {b : Eval β} (h : T.Joint P a b) :
  T.Joint P (inScope a) (inScope b)
  := by
  rintro s _ ⟨hruns, hgoing, budget, rfl, hgoing'⟩
  rw [inScope_apply, inScope_apply]
  have hpushed : T.Linked s.pushed (s.inRun T.second budget).pushed :=
    ⟨hruns, hgoing, budget, rfl, hgoing'⟩
  apply (h _ _ hpushed).treated
  · intro t t' e _
    rfl
  · rintro t _ ⟨hruns, hgoing, budget, rfl, hgoing'⟩
    exact ⟨hruns, hgoing, budget, rfl, hgoing'⟩

/-- An assignment does the same in both runs. -/
theorem joint_assign (name : String) (v : Value) :
  T.Joint (fun _ _ => True) (assign name v) (assign name v)
  := by
  rintro s _ ⟨hruns, hgoing, budget, rfl, hgoing'⟩
  have hassigned : T.Linked (s.assigned name v) ((s.inRun T.second budget).assigned name v) :=
    ⟨hruns, hgoing, budget, rfl, hgoing'⟩
  have hfound : ((s.inRun T.second budget).scene.assign name v).2 = (s.scene.assign name v).2 :=
    rfl
  rw [assign_apply, assign_apply, hfound]
  split
  · exact .done hassigned trivial
  · exact .failed _ hassigned

/-- A hand-off does the same in both runs. -/
theorem joint_handOff (d : HandedOff) :
  T.Joint (fun _ _ => True) (handOff S d) (handOff S d)
  := by
  rintro s _ ⟨hruns, hgoing, budget, rfl, hgoing'⟩
  have hlogged : ∀ log, T.Linked (s.logged log) ((s.inRun T.second budget).logged log) :=
    fun log => ⟨hruns, hgoing, budget, rfl, hgoing'⟩
  rw [handOff_apply, handOff_apply, State.inRun]
  cases (S.sink.receive s.scene.context.script d s.scene.host.log).2 with
  | ok => exact .done (hlogged _) trivial
  | error e => exact .failed _ (hlogged _)

/-- A detached built-in does the same in both runs. -/
theorem joint_dispatch (hS : S.builtins.Detached) (name : String) (args : List Value) :
  T.Joint (Value.Related Eq) (onScene (S.builtins.dispatch name args))
    (onScene (S.builtins.dispatch name args))
  := by
  obtain ⟨x, lines, hanswer, -⟩ := hS.exists_answer name args
  rintro s _ ⟨hruns, hgoing, budget, rfl, hgoing'⟩
  rw [onScene_apply, onScene_apply, hanswer]
  cases x with
  | error e => exact .failed e ⟨hruns, hgoing, budget, rfl, hgoing'⟩
  | ok v => exact .done ⟨hruns, hgoing, budget, rfl, hgoing'⟩ (.refl (fun _ => rfl) v)

/-- A variable has the same value in both runs. -/
theorem joint_get (name : String) :
  T.Joint (Option.Rel (Value.Related Eq)) (Action.gets fun s => s.scene.get? name)
    (Action.gets fun s => s.scene.get? name)
  := by
  rintro s _ ⟨hruns, hgoing, budget, rfl, hgoing'⟩
  apply Outcome.Twin.done ⟨hruns, hgoing, budget, rfl, hgoing'⟩
  exact Option.rel_same fun v _ => .refl (fun _ => rfl) v

/-- The simulation of an evaluation in one run by the same evaluation in another run. -/
def simulation (T : TwoRuns) (hS : S.builtins.Detached) (hlimits : S.limits.CallsOnly) :
    Simulation S S where
  World := Unit
  order := Simulation.oneWorld
  closures _ := Eq
  rel _ P a b := T.Joint (P ()) a b
  closures_mono _ h := h
  closures_decl h := congrArg Closure.decl h
  closures_same h h' := congrArg₂ Closure.same h h'
  builtins := .refl S
  pure h _ _ hs := .done hs h
  bind ha hf s s' hs := (ha s s' hs).bind fun x y t t' hxy => hf () trivial x y hxy t t'
  throw _ _ _ hs := .failed _ hs
  exhausted _ _ _ := .outOfFuel
  located span h := joint_located span h
  tick _ := joint_tick hlimits
  get _ name := joint_get name
  define {_} name {v _} hv := by
    obtain rfl := hv.eq fun _ _ h => h
    rintro s _ ⟨hruns, hgoing, budget, rfl, hgoing'⟩
    exact .done ⟨hruns, hgoing, budget, rfl, hgoing'⟩ trivial
  assign {_} name {v _} hv := by
    obtain rfl := hv.eq fun _ _ h => h
    exact joint_assign name v
  inScope h := joint_inScope (h () trivial)
  inFrame frame h := joint_inFrame hlimits frame (h () trivial)
  inClosure {_ _ _ _ _ _ f _} hf h := by
    cases hf
    exact joint_inClosure f (h () trivial)
  closeOver _ decl := by
    rintro s _ ⟨hruns, hgoing, budget, rfl, hgoing'⟩
    exact .done ⟨hruns, hgoing, budget, rfl, hgoing'⟩ rfl
  callBuiltin {_} name {args _} span hargs := by
    obtain rfl := Value.Related.lists_eq (fun _ _ h => h) hargs
    exact joint_inFrame hlimits _ (joint_dispatch hS name args)
  handOff _ d := joint_handOff d

/-- A program has the same value in both runs. -/
theorem joint_evalProgram (T : TwoRuns) (hS : S.builtins.Detached) (hlimits : S.limits.CallsOnly)
    (n : Nat) (p : Program) :
  T.Joint Eq (evalProgram S n p) (evalProgram S n p)
  := by
  intro s s' hs
  have hp := (T.simulation hS hlimits).evalProgram n () p s s' hs
  apply hp.mono
  · intro t t' ht
    exact ht
  · intro v v' hv
    exact hv.eq fun _ _ h => h

end TwoRuns

/-! ### What a run leaves as it was -/

/-- The context and the runs are the same, and so is the number of the run. -/
structure State.SameRun (s t : State) : Prop where
  context : t.scene.context = s.scene.context
  runs : t.scene.host.runs = s.scene.host.runs
  number : t.budget.run = s.budget.run

/-- Built-ins that only print leave the context and the runs as they were, and so does the
machine. -/
theorem upkeep_sameRun {S : Setting} (hS : S.builtins.Detached) :
  Upkeep S State.SameRun
  where
  refl _ := ⟨rfl, rfl, rfl⟩
  trans h h' := ⟨h'.context.trans h.context, h'.runs.trans h.runs, h'.number.trans h.number⟩
  checked _ := ⟨rfl, rfl, rfl⟩
  ticked _ := ⟨rfl, rfl, rfl⟩
  defined _ _ _ := ⟨rfl, rfl, rfl⟩
  assigned _ _ _ := ⟨rfl, rfl, rfl⟩
  logged _ _ := ⟨rfl, rfl, rfl⟩
  dispatch name args := by
    obtain ⟨x, lines, hanswer, -⟩ := hS.exists_answer name args
    intro s t ht
    rw [onScene_apply, hanswer] at ht
    cases x <;> cases ht <;> exact ⟨rfl, rfl, rfl⟩
  scope {s t} h := by
    obtain ⟨hcontext, hruns, hnumber⟩ := h
    refine ⟨?_, hruns, hnumber⟩
    rw [State.popped, Scene.popScope, hcontext]
    rfl
  frame {s t frame calls} hpush h := by
    obtain ⟨hcontext, hruns, hnumber⟩ := h
    refine ⟨?_, hruns, hnumber⟩
    have hcalls : t.calls.pop = s.calls := by
      rw [State.calls, hcontext]
      exact CallStack.pop_of_push hpush
    show { t.scene.context with calls := t.calls.pop } = s.scene.context
    rw [hcalls, hcontext]
    rfl
  closure {s t} f h := by
    obtain ⟨hcontext, hruns, hnumber⟩ := h
    refine ⟨?_, hruns, hnumber⟩
    show { t.scene.context with env := s.env } = s.scene.context
    rw [hcontext]
    rfl

/-! ### Statements one after the other -/

/-- After statements that do not come to their end no others come. -/
theorem sequence_append_of_stops {exec : Stmt → Eval Flow} {before : List Stmt} {last : Value}
    {s : State} (hbefore : ∀ v t, sequence exec last before s ≠ .done (.normal v) t)
    (after : List Stmt) :
  sequence exec last (before ++ after) s = sequence exec last before s
  := by
  induction before generalizing s last with
  | nil => exact absurd rfl (hbefore last s)
  | cons first rest ih =>
    rw [List.cons_append, Eval.sequence, Eval.sequence, Action.bind_apply, Action.bind_apply]
    cases hfirst : exec first s with
    | done flow t =>
      cases flow with
      | normal w =>
        apply ih
        intro v u hrest
        exact hbefore v u ((Action.bind_of_done hfirst).trans hrest)
      | returned w => rfl
    | failed e t => rfl
    | outOfFuel => rfl

/-! ### Runs one after the other -/

/-- A value under a key makes no difference once the key is taken out. -/
theorem Entries.erase_insert_self {α : Type} (key : String) (a : α) (es : Entries α) :
  (es.insert key a).erase key = es.erase key
  := by
  induction es with
  | nil => simp [insert, erase]
  | cons e rest ih =>
    rw [insert]
    unfold erase at ih ⊢
    by_cases hkey : e.1 = key
    · simp [hkey]
    · rw [if_neg hkey, List.filter_cons, List.filter_cons, ih]

/-- A run that starts and ends leaves nothing behind but its number. -/
theorem Runs.finish_start (r : Runs) (script : ScriptId) :
  (r.start script).finish script = (r.finish script).issue
  := by
  rw [start, finish, Entries.erase_insert_self]
  rfl

/-- A run ends only once. -/
theorem Runs.finish_finish (r : Runs) (script : ScriptId) :
  (r.finish script).finish script = r.finish script
  := by
  rw [finish, finish, Entries.erase, Entries.erase, List.filter_filter]
  simp

section

variable {S : Setting} {n : Nat} {p q : List Stmt} {s u : Scene} {v : Value}

/-- The value of a program does not depend on what came before it. -/
theorem evalProgram_append {s t : State} (hp : execAll S n p s = .done (.normal v) t)
    (hq : q ≠ []) :
  evalProgram S n ⟨p ++ q⟩ s = evalProgram S n ⟨q⟩ t
  := by
  rw [evalProgram, evalProgram, Action.bind_apply, Action.bind_apply, execAll,
    sequence_append hp q]
  cases q with
  | nil => exact absurd rfl hq
  | cons st rest => rfl

/-- After a program that returns or fails nothing more runs. -/
theorem evalProgram_append_of_stops {s : State}
    (hp : ∀ v t, execAll S n p s ≠ .done (.normal v) t) :
  evalProgram S n ⟨p ++ q⟩ s = evalProgram S n ⟨p⟩ s
  := by
  rw [evalProgram, evalProgram, Action.bind_apply, Action.bind_apply, execAll, execAll,
    sequence_append_of_stops hp q]

/-- A run of a program that returns or fails is the run of it with more statements after it. -/
theorem execute_append_of_stops
    (hp : ∀ v t, execAll S n p (s.runState S.limits) ≠ .done (.normal v) t) :
  execute S n ⟨p ++ q⟩ s = execute S n ⟨p⟩ s
  := by
  rw [execute, execute, guarded, guarded, evalProgram_append_of_stops hp]

/-- A run that succeeds was let start, and its statements are done. -/
theorem of_execute_done (h : execute S n ⟨p⟩ s = .done v u) :
  s.host.runs.mayStart s.context.script = .ok ()
    ∧ ∃ flow t, execAll S n p (s.runState S.limits) = .done flow t
      ∧ flow.value = v ∧ t.scene.endRun s.context.script = u
  := by
  cases hstart : s.host.runs.mayStart s.context.script with
  | error cause =>
    rw [execute, guarded_refused _ _ _ _ hstart] at h
    cases h
  | ok =>
    rw [execute, guarded_passed _ _ _ hstart, evalProgram, Action.bind_apply] at h
    cases hrun : execAll S n p (s.runState S.limits) with
    | done flow t =>
      rw [hrun] at h
      cases h
      exact ⟨rfl, flow, t, rfl, rfl, rfl⟩
    | failed e t =>
      rw [hrun] at h
      cases h
    | outOfFuel =>
      rw [hrun] at h
      cases h

/-- The script of a run that ended may start again. -/
theorem mayStart_endRun {t : State} (hstart : s.host.runs.mayStart s.context.script = .ok ()) :
  (t.scene.endRun s.context.script).host.runs.mayStart s.context.script = .ok ()
  := by
  obtain ⟨hnamed, -⟩ := (Runs.mayStart_eq_ok_iff _ _).mp hstart
  apply (Runs.mayStart_eq_ok_iff _ _).mpr
  use hnamed
  show (t.scene.host.runs.finish s.context.script).isRunning s.context.script = false
  rw [Runs.isRunning_finish, bne_self_eq_false, Bool.false_and]

/-- The runs during a run of the script, and during another one right after it. -/
def Scene.twoRuns (s : Scene) : TwoRuns where
  first := s.host.runs.start s.context.script
  second := ((s.host.runs.start s.context.script).finish s.context.script).start s.context.script

/-- Another run begins in the state in which the first one ended, but for the run. -/
theorem linked_runState {t : State} (hrun : (s.runState S.limits).SameRun t)
    (hstop : ∀ id, s.host.runs.next ≤ id → s.host.runs.isStopped id = false) :
  s.twoRuns.Linked t ((t.scene.endRun s.context.script).runState S.limits)
  := by
  obtain ⟨hcontext, hruns, hnumber⟩ := hrun
  refine ⟨hruns, ?_, Budget.fresh (some (s.host.runs.next + 1)), ?_, ?_⟩
  · rw [Budget.isStopped, hnumber]
    exact hstop _ (Nat.le_refl _)
  · obtain ⟨⟨context, host⟩, budget⟩ := t
    obtain rfl : context = (s.runState S.limits).scene.context := hcontext
    have hruns : host.runs = s.twoRuns.first := hruns
    show (⟨⟨(s.runState S.limits).scene.context, { host with
        runs := (host.runs.finish s.context.script).start s.context.script }⟩,
      Budget.fresh (some (host.runs.finish s.context.script).next)⟩ : State) = _
    rw [hruns]
    rfl
  · exact hstop _ (Nat.le_succ _)

/-- The scene with one more number given out to a run. -/
def Scene.issued (s : Scene) : Scene := { s with host.runs := s.host.runs.issue }

/-- The ends of the two runs differ in the number of runs issued. -/
theorem TwoRuns.Linked.endRun {t t' : State} (h : s.twoRuns.Linked t t') :
  t'.scene.endRun s.context.script = (t.scene.endRun s.context.script).issued
  := by
  obtain ⟨hruns, -, budget, rfl, -⟩ := h
  have hfinish : s.twoRuns.second.finish s.context.script
      = (t.scene.host.runs.finish s.context.script).issue := by
    rw [hruns, Scene.twoRuns, Runs.finish_start, Runs.finish_finish]
  rw [State.inRun, Scene.endRun, Scene.endRun, Scene.issued, hfinish]

/-- Two outcomes that go together still do at the end of the run. -/
theorem Outcome.Twin.endRun {α β : Type} {Q : State → State → Prop} {P : α → β → Prop}
    {o : Outcome State Error α} {o' : Outcome State Error β} (h : o.Twin Q P o')
    (script : ScriptId) :
  (o.endRun script).Twin (fun t t' => ∃ u u', Q u u' ∧ t = u.scene.endRun script
    ∧ t' = u'.scene.endRun script) P (o'.endRun script)
  := by
  cases h with
  | done ht hv => exact .done ⟨_, _, ht, rfl, rfl⟩ hv
  | failed e ht => exact .failed e ⟨_, _, ht, rfl, rfl⟩
  | outOfFuel => exact .outOfFuel

/-- The statements after the first ones go on in the first run as they do in the second one. -/
theorem TwoRuns.Linked.append {T : TwoRuns} (hS : S.builtins.Detached)
    (hlimits : S.limits.CallsOnly) {start t t' : State} (h : T.Linked t t')
    (hp : execAll S n p start = .done (.normal v) t) (q : List Stmt) :
  (evalProgram S n ⟨p ++ q⟩ start).Twin T.Linked (fun w w' => w = if q = [] then v else w')
    (evalProgram S n ⟨q⟩ t')
  := by
  by_cases hq : q = []
  · rw [hq, List.append_nil, evalProgram, Action.bind_apply, hp]
    exact .done h rfl
  · rw [evalProgram_append hp hq]
    apply (T.joint_evalProgram hS hlimits n ⟨q⟩ t t' h).mono
    · exact fun _ _ ht => ht
    · intro w w' hw
      rw [if_neg hq, hw]

/-- A `return` reaches the top level of the statements. -/
def Setting.Returns (S : Setting) (n : Nat) (p : List Stmt) (s : Scene) : Prop :=
  ∃ v t, execAll S n p (s.runState S.limits) = .done (.returned v) t

/-- Suppose that only nested calls are limited, and no run that is still to come is asked to stop.
If the first half of a program succeeds, without a `return` at its top level, then the run of the
whole and the run of the second half on the context that the first run left behind end alike: with
the same value or error, and with the same context and the same host, but for one more number that
was given out to a run.  If there is no second half, the value is that of the first one.  If the
first half fails, or returns, then the whole ends as the first half does. -/
theorem runs_are_consecutive (hS : S.builtins.Detached) (hlimits : S.limits.CallsOnly) (n : Nat)
    (p q : List Stmt) (hstop : ∀ id, s.host.runs.next ≤ id → s.host.runs.isStopped id = false) :
  (∀ v u, execute S n ⟨p⟩ s = .done v u → ¬ S.Returns n p s →
      (execute S n ⟨p ++ q⟩ s).Twin (fun t t' => t' = t.issued)
        (fun w w' => w = if q = [] then v else w') (execute S n ⟨q⟩ u))
    ∧ (S.Returns n p s → execute S n ⟨p ++ q⟩ s = execute S n ⟨p⟩ s)
    ∧ ∀ e u, execute S n ⟨p⟩ s = .failed e u → execute S n ⟨p ++ q⟩ s = .failed e u
  := by
  refine ⟨?succeeds, ?returns, ?fails⟩
  case succeeds =>
    intro v u hp hreturn
    obtain ⟨hstart, flow, t, hrun, rfl, rfl⟩ := of_execute_done hp
    cases flow with
    | returned v => exact absurd ⟨v, t, hrun⟩ hreturn
    | normal v =>
      have hsame := (upkeep_sameRun hS).statements n p _ t (congrArg Outcome.state? hrun)
      have hlinked := linked_runState hsame hstop
      have hscript : (t.scene.endRun s.context.script).context.script = s.context.script := by
        show t.scene.context.script = s.context.script
        rw [hsame.context]
        rfl
      have hboth := hlinked.append hS hlimits hrun q
      rw [execute, guarded_passed _ _ _ hstart, execute, guarded_passed, hscript]
      · apply (hboth.endRun s.context.script).mono
        · rintro _ _ ⟨t, t', ht, rfl, rfl⟩
          exact ht.endRun
        · exact fun _ _ h => h
      · rw [hscript]
        exact mayStart_endRun hstart
  case returns =>
    rintro ⟨v, t, hrun⟩
    apply execute_append_of_stops
    intro w u hnormal
    cases hrun.symm.trans hnormal
  case fails =>
    intro e u hp
    rw [← hp]
    cases hstart : s.host.runs.mayStart s.context.script with
    | error cause =>
      rw [execute, execute, guarded_refused _ _ _ _ hstart, guarded_refused _ _ _ _ hstart]
    | ok =>
      apply execute_append_of_stops
      intro v t hrun
      rw [execute, guarded_passed _ _ _ hstart, evalProgram, Action.bind_apply, hrun] at hp
      cases hp

end

/-- A counter, and a function that counts. -/
def counter : List Stmt :=
  [.declare .dummy "x" (some (.literal .dummy (.int 1))),
    .function .dummy 0 "count" [] [.ret .dummy (some (.assign .dummy "x"
      (.binary .dummy .add (.identifier .dummy "x") (.literal .dummy (.int 1)))))]]

/-- The function is called in a loop, and then once more. -/
def counting : List Stmt :=
  [.forIn .dummy "i" (.list .dummy [.literal .dummy (.int 1)])
      [.expression .dummy (.call .dummy "count" [])],
    .expression .dummy (.call .dummy "count" [])]

/-- The limit of one call that the counter runs under. -/
def counterLimits : Limits := ⟨some 1, none, none⟩

theorem run_counter :
  (∃ t, execAll (Standard.setting counterLimits) 9 counter
      ((Scene.enter (Host.initial .buffer) "main").runState counterLimits)
        = .done (.normal .null) t)
    ∧ (∃ u, execute (Standard.setting counterLimits) 9 ⟨counter⟩
      (Scene.enter (Host.initial .buffer) "main") = .done .null u)
    ∧ ∃ t, execute (Standard.setting counterLimits) 9 ⟨counter ++ counting⟩
      (Scene.enter (Host.initial .buffer) "main") = .done (.int 3) t
  := ⟨⟨_, rfl⟩, ⟨_, rfl⟩, ⟨_, rfl⟩⟩

/-- The calls in the second run count on. -/
theorem counting_goes_on :
  ∃ u t, execute (Standard.setting counterLimits) 9 ⟨counter⟩
        (Scene.enter (Host.initial .buffer) "main") = .done .null u
      ∧ execute (Standard.setting counterLimits) 9 ⟨counter ++ counting⟩
        (Scene.enter (Host.initial .buffer) "main") = .done (.int 3) t
      ∧ execute (Standard.setting counterLimits) 9 ⟨counting⟩ u = .done (.int 3) t.issued
  := by
  obtain ⟨⟨t', hrun⟩, ⟨u, hu⟩, ⟨t, ht⟩⟩ := run_counter
  have hreturn : ¬ (Standard.setting counterLimits).Returns 9 counter
      (Scene.enter (Host.initial .buffer) "main") := by
    rintro ⟨v, _, h⟩
    cases hrun.symm.trans h
  have hstop : ∀ id, (Scene.enter (Host.initial .buffer) "main").host.runs.next ≤ id →
      (Scene.enter (Host.initial .buffer) "main").host.runs.isStopped id = false := by
    intro id _
    rfl
  have hboth := (runs_are_consecutive (S := Standard.setting counterLimits) Standard.detached
    ⟨rfl, rfl⟩ 9 counter counting hstop).1 .null u hu hreturn
  use u, t, hu, ht
  rw [ht] at hboth
  generalize execute _ 9 ⟨counting⟩ u = o at hboth ⊢
  cases hboth with
  | done ht hv =>
    rw [if_neg nofun] at hv
    rw [ht, ← hv]

end StoryScript
