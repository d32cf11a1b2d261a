import StoryScript.Proofs.Scopes
import StoryScript.Proofs.Tame

/-!
# Scopes in every reachable state

Hosts and built-ins enter and leave scopes in any order, bind and assign variables, keep the
values that they get to see, and start runs on other contexts.  Main statement: however they do
so, in every state of every run the scopes are well formed, those of the active environment,
those of the callers and those that closures have captured.
-/

namespace StoryScript

open Eval

/-! ### Sound scenes -/

/-- All values are sound. -/
def Heap.Holds (h : Heap) (held : List Value) : Prop := ∀ v ∈ held, v.Sound h

/-- The heap is sound, and so are the values that timers keep. -/
structure Host.Sound (host : Host) : Prop where
  heap : host.heap.Sound
  timers : ∀ {id : TimerId} {timer : Timer}, host.timers.pending[id]? = some timer →
    host.heap.Holds timer.call.values

/-- The host is sound, and so is the environment. -/
structure Scene.Sound (s : Scene) : Prop where
  host : s.host.Sound
  env : s.context.env.Sound s.host.heap

/-- The second scene is sound and has the scopes of the first one. -/
def Scene.Follows (s t : Scene) : Prop := t.Sound ∧ s.host.heap.Extends t.host.heap

theorem Heap.Extends.holds {h h' : Heap} (hh : h.Extends h') {held : List Value}
    (hheld : h.Holds held) :
  h'.Holds held
  := by
  intro v hv
  exact hh.value (hheld v hv)

theorem Host.sound_initial (mode : ConsoleMode) :
  (Host.initial mode).Sound
  := by
  constructor
  · exact .empty
  · intro id timer htimer
    have hnone : (∅ : Std.TreeMap TimerId Timer)[id]? = none := Std.TreeMap.getElem?_emptyc
    rw [show (Host.initial mode).timers.pending = ∅ from rfl, hnone] at htimer
    cases htimer

/-- A new context on a sound host is sound. -/
theorem Host.Sound.enter {host : Host} (hhost : host.Sound) (script : ScriptId) :
  (Scene.enter host script).Sound ∧ host.heap.Extends (Scene.enter host script).host.heap
  := by
  have hext := Heap.Extends.alloc host.heap none
  refine ⟨⟨⟨?_, ?_⟩, ?_⟩, hext⟩
  · exact hhost.heap.alloc nofun
  · intro id timer htimer
    exact hext.holds (hhost.timers htimer)
  · apply Environment.Sound.onScope
    apply Heap.Root.here
    · show host.heap.next < (host.heap.alloc none).next
      rw [Heap.next_alloc]
      exact Nat.lt_succ_self _
    · exact host.heap.parent?_alloc_next none

namespace Scene.Sound

variable {s : Scene} {v : Value}

theorem refl (hs : s.Sound) :
  s.Follows s
  := ⟨hs, .refl _⟩

/-- With the same scopes, and timers that keep sound values, the scene stays sound. -/
theorem same (hs : s.Sound) {t : Scene} (henv : t.context.env = s.context.env)
    (hheap : t.host.heap = s.host.heap)
    (htimers : ∀ {id : TimerId} {timer : Timer}, t.host.timers.pending[id]? = some timer →
      s.host.heap.Holds timer.call.values) :
  s.Follows t
  := by
  obtain ⟨⟨hsound, -⟩, hscopes⟩ := hs
  rw [← hheap] at hsound htimers hscopes
  rw [← henv] at hscopes
  exact ⟨⟨⟨hsound, htimers⟩, hscopes⟩, hheap ▸ .refl _⟩

theorem endRun (hs : s.Sound) (script : ScriptId) :
  (s.endRun script).Sound
  := (hs.same (t := s.endRun script) rfl rfl hs.host.timers).1

/-- With a heap that has grown the scene stays sound. -/
theorem withHeap (hs : s.Sound) {h : Heap} (hh : h.Sound) (hext : s.host.heap.Extends h) :
  s.Follows { s with host.heap := h }
  := by
  refine ⟨⟨⟨hh, ?_⟩, hext.environment hs.env⟩, hext⟩
  intro id timer htimer
  exact hext.holds (hs.host.timers htimer)

theorem define (hs : s.Sound) (name : String) (hv : v.Sound s.host.heap) :
  s.Follows (s.define name v)
  := hs.withHeap (hs.host.heap.define _ name hv) (.define _ _ _ _)

theorem defineGlobal (hs : s.Sound) (name : String) (hv : v.Sound s.host.heap) :
  s.Follows (s.defineGlobal name v)
  := hs.withHeap (hs.host.heap.define _ name hv) (.define _ _ _ _)

theorem assign (hs : s.Sound) (name : String) (hv : v.Sound s.host.heap) :
  s.Follows (s.assign name v).1
  := by
  obtain ⟨hheap, hext⟩ := hs.host.heap.assign s.context.env.current name hv
  exact hs.withHeap hheap hext

theorem pushScope (hs : s.Sound) :
  s.Follows s.pushScope
  := by
  have hext := Heap.Extends.alloc s.host.heap (some s.context.env.current)
  have hroot := hs.env.root_current
  refine ⟨⟨⟨?_, ?_⟩, ?_⟩, hext⟩
  · apply hs.host.heap.alloc
    rintro y ⟨⟩
    exact hroot.lt_next
  · intro id timer htimer
    exact hext.holds (hs.host.timers htimer)
  · apply (hext.environment hs.env).push
    exact s.host.heap.parent?_alloc_next _

theorem popScope (hs : s.Sound) :
  s.Follows s.popScope
  := ⟨⟨hs.host, hs.env.pop⟩, .refl _⟩

/-- What happens on another context of the host leaves the scene sound. -/
theorem visited (hs : s.Sound) {script : ScriptId} {u : Scene}
    (hu : (Scene.enter s.host script).Follows u) :
  s.Follows ⟨s.context, u.host⟩
  := by
  have hext := (hs.host.enter script).2.trans hu.2
  exact ⟨⟨hu.1.host, hext.environment hs.env⟩, hext⟩

theorem get (hs : s.Sound) {name : String} (hv : s.get? name = some v) :
  v.Sound s.host.heap
  := hs.host.heap.lookup hv

end Scene.Sound

/-! ### During a run -/

/-- In all states of a run the scene is sound, and so are the held values. -/
def scopeWatch (held : List Value) : Watch where
  Holds s := s.scene.Sound ∧ s.heap.Holds held
  Fine s f := f.Sound s.heap
  Later s t := s.heap.Extends t.heap

namespace scopeWatch

variable {held : List Value} {S : Setting} {s t : State}

theorem next (hs : (scopeWatch held).Holds s) (h : s.scene.Follows t.scene) :
  (scopeWatch held).Next s t
  := ⟨⟨h.1, h.2.holds hs.2⟩, h.2⟩

/-- With built-ins that keep scenes sound, all evaluations do. -/
theorem kept (hdispatch : ∀ {s args} name, (scopeWatch held).Holds s → s.heap.Holds args →
      (scopeWatch held).Ends (scopeWatch held).FineValue s
        (onScene (S.builtins.dispatch name args) s)) :
  (scopeWatch held).Kept S
  where
  refl s := .refl s.heap
  trans := .trans
  fine hst hf := Heap.Extends.closure hst hf
  checked hs := next hs hs.1.refl
  ticked hs := next hs hs.1.refl
  defined name hs hv := next hs (hs.1.define name hv)
  assigned name hs hv := next hs (hs.1.assign name hv)
  logged _ hs := next hs (hs.1.same rfl rfl hs.1.host.timers)
  pushed hs := next hs hs.1.pushScope
  popped hs := next hs hs.1.popScope
  entered _ hs := next hs (hs.1.same rfl rfl hs.1.host.timers)
  left hs := next hs (hs.1.same rfl rfl hs.1.host.timers)
  swapped hs hf := next hs ⟨⟨hs.1.host, .onScope hf⟩, .refl _⟩
  within hs hst := next hst.1 ⟨⟨hst.1.1.host, hst.2.environment hs.1.env⟩, .refl _⟩
  get hs hv := hs.1.get hv
  closure _ hs := hs.1.env.root_current
  dispatch := hdispatch

theorem good_runState {scene : Scene} (hscene : scene.Sound)
    (hheld : scene.host.heap.Holds held) (limits : Limits) {task : Task}
    (htask : scene.host.heap.Holds task.values) :
  (scopeWatch held).Good task (scene.runState limits)
  := by
  have hfollows : scene.Follows (scene.runState limits).scene :=
    hscene.same rfl rfl hscene.host.timers
  exact ⟨⟨hfollows.1, hheld⟩, htask⟩

/-- A run that starts in a sound scene, with sound values, ends in a sound scene, with a sound
value. -/
theorem run (h : (scopeWatch held).Kept S) {scene : Scene} (hscene : scene.Sound)
    (hheld : scene.host.heap.Holds held) {n : Nat} {job : Job}
    (hjob : scene.host.heap.Holds (Task.job n job).values) :
  (∀ v t, job.run S n scene = .done v t → scene.Follows t ∧ v.Sound t.host.heap)
    ∧ ∀ e t, job.run S n scene = .failed e t → scene.Follows t
  := by
  rw [Job.run_eq]
  cases hstart : scene.host.runs.mayStart scene.context.script with
  | error cause =>
    rw [guarded_refused S _ scene cause hstart]
    constructor
    · intro v t ht
      cases ht
    · intro e t ht
      cases ht
      exact hscene.refl
  | ok =>
    rw [guarded_passed S _ scene hstart]
    have hended := h.job (good_runState hscene hheld S.limits hjob)
    generalize job.eval S n (scene.runState S.limits) = o at hended
    constructor
    · intro v t ht
      cases o <;> cases ht
      obtain ⟨⟨⟨hsound, -⟩, hext⟩, hv⟩ := hended
      exact ⟨⟨hsound.endRun _, hext⟩, hv⟩
    · intro e t ht
      cases o <;> cases ht
      obtain ⟨⟨hsound, -⟩, hext⟩ := hended
      exact ⟨hsound.endRun _, hext⟩

/-- A run on a new context leaves the scene of its starter sound. -/
theorem runOnNew (h : (scopeWatch held).Kept S) {scene : Scene}
    (hscene : scene.Sound) (hheld : scene.host.heap.Holds held) {n : Nat} {job : Job}
    (hjob : scene.host.heap.Holds (Task.job n job).values) (script : ScriptId) :
  (∀ v u, job.run S n (Scene.enter scene.host script) = .done v u →
      scene.Follows ⟨scene.context, u.host⟩ ∧ v.Sound u.host.heap)
    ∧ ∀ e u, job.run S n (Scene.enter scene.host script) = .failed e u →
      scene.Follows ⟨scene.context, u.host⟩
  := by
  obtain ⟨hentered, hext⟩ := hscene.host.enter script
  obtain ⟨hdone, hfailed⟩ := run h hentered (hext.holds hheld) (hext.holds hjob)
  constructor
  · intro v u hu
    exact ⟨hscene.visited (hdone v u hu).1, (hdone v u hu).2⟩
  · intro e u hu
    exact hscene.visited (hfailed e u hu)

end scopeWatch

theorem Value.MadeOf.sound {h : Heap} {held : List Value} (hheld : h.Holds held) {v : Value}
    (hv : v.MadeOf held) :
  v.Sound h
  := by
  intro f hf
  obtain ⟨w, hw, hwf⟩ := hv f hf
  exact hheld w hw f hwf

/-- Whatever a host makes of a sound scene and sound values is sound, if the runs that it starts
are. -/
theorem Scene.Uses.follows {nested : Setting → Prop} {kept : List Value}
    (hnested : ∀ S, nested S → (scopeWatch kept).Kept S) {s t : Scene} {held held' : List Value}
    (h : s.Uses nested held held' t) (hs : s.Sound) (hkept : s.host.heap.Holds kept)
    (hheld : s.host.heap.Holds held) :
  s.Follows t ∧ t.host.heap.Holds held'
  := by
  have step : ∀ {held' : List Value} {t u : Scene}, s.Follows t ∧ t.host.heap.Holds held' →
      t.Follows u → s.Follows u ∧ u.host.heap.Holds held' := by
    rintro held' t u ⟨hst, hheld'⟩ htu
    exact ⟨⟨htu.1, hst.2.trans htu.2⟩, htu.2.holds hheld'⟩
  induction h with
  | nothing => exact ⟨hs.refl, hheld⟩
  | pushScope _ ih => exact step ih ih.1.1.pushScope
  | popScope _ ih => exact step ih ih.1.1.popScope
  | define _ hv ih => exact step ih (ih.1.1.define _ (hv.sound ih.2))
  | defineGlobal _ hv ih => exact step ih (ih.1.1.defineGlobal _ (hv.sound ih.2))
  | assign _ hv ih => exact step ih (ih.1.1.assign _ (hv.sound ih.2))
  | get _ hv ih => exact ⟨ih.1, List.forall_mem_cons.mpr ⟨ih.1.1.get hv, ih.2⟩⟩
  | timer _ htimer ih =>
    exact ⟨ih.1, List.forall_mem_append.mpr ⟨ih.1.1.host.timers htimer, ih.2⟩⟩
  | aside _ hcontext hheap htimers ih =>
    apply step ih
    apply ih.1.1.same (congrArg Context.env hcontext) hheap
    intro id timer htimer
    obtain hbefore | hnew := htimers id timer htimer
    · exact ih.1.1.host.timers hbefore
    · exact fun v hv => (hnew v hv).sound ih.2
  | run _ hS hjob hrun ih =>
    obtain ⟨⟨ht, hext⟩, hheld'⟩ := ih
    have hended := scopeWatch.runOnNew (hnested _ hS) ht (hext.holds hkept)
      fun v hv => (hjob v hv).sound hheld'
    obtain ⟨hvisited, hv⟩ := (hended _).1 _ _ hrun
    obtain ⟨hfollows, hheld''⟩ := step ⟨⟨ht, hext⟩, hheld'⟩ hvisited
    exact ⟨hfollows, List.forall_mem_cons.mpr ⟨hv, hheld''⟩⟩
  | failedRun _ hS hjob hrun ih =>
    obtain ⟨⟨ht, hext⟩, hheld'⟩ := ih
    have hended := scopeWatch.runOnNew (hnested _ hS) ht (hext.holds hkept)
      fun v hv => (hjob v hv).sound hheld'
    exact step ⟨⟨ht, hext⟩, hheld'⟩ ((hended _).2 _ _ hrun)

/-- With tame built-ins all evaluations keep scenes sound. -/
theorem scopeWatch.kept_of_tame {nested : Setting → Prop} {held : List Value} {S : Setting}
    (hnested : ∀ T, nested T → (scopeWatch held).Kept T)
    (hS : ∀ entry ∈ S.builtins, Builtin.Tame nested held entry.2) :
  (scopeWatch held).Kept S
  := by
  apply scopeWatch.kept
  intro s args name hs hargs
  rw [onScene_apply, Builtins.dispatch]
  cases hf : Entries.get? name S.builtins with
  | none => exact next hs hs.1.refl
  | some f =>
    have htame : (f args s.scene).Tame nested s.scene (args ++ held) :=
      hS _ (Entries.mem_of_get? hf) args s.scene
    have hvalues := List.forall_mem_append.mpr ⟨hargs, hs.2⟩
    dsimp only
    rw [Action.mapError_apply]
    generalize f args s.scene = o at htame
    cases o with
    | done v t =>
      obtain ⟨held', huses, hv⟩ := htame
      obtain ⟨hfollows, hheld'⟩ := huses.follows hnested hs.1 hs.2 hvalues
      exact ⟨next hs hfollows, hv.sound hheld'⟩
    | failed e t =>
      obtain ⟨held', huses⟩ := htame
      exact next hs (huses.follows hnested hs.1 hs.2 hvalues).1
    | outOfFuel => trivial

theorem Builtins.Tame.kept {held : List Value} {depth : Nat} {S : Setting}
    (hS : S.builtins.Tame held depth) :
  (scopeWatch held).Kept S
  := by
  induction depth generalizing S with
  | zero => exact scopeWatch.kept_of_tame (fun _ h => h.elim) hS
  | succ depth ih => exact scopeWatch.kept_of_tame (fun _ h => ih h) hS

/-! ### Every reachable state -/

/-- The scenes that occur, with the values that the host holds then and the environments that
are put aside, by calls and for other contexts. -/
inductive Scene.Occurs : List Value → List Environment → Scene → Prop where
  -- a new context
  | fresh (mode : ConsoleMode) (script : ScriptId) :
    Occurs [] [] (Scene.enter (Host.initial mode) script)
  -- what the host does with it, or a built-in in the middle of a run
  | uses {depth held held' saved s t} (h : Occurs held saved s)
    (huses : s.Uses (fun S => S.builtins.Tame held depth) held held' t) : Occurs held' saved t
  -- other contexts
  | enters {held saved s} (h : Occurs held saved s) (script : ScriptId) :
    Occurs held (s.context.env :: saved) (Scene.enter s.host script)
  | switches {held saved s context} (h : Occurs held saved s) (hcontext : context.env ∈ saved) :
    Occurs held (s.context.env :: saved) ⟨context, s.host⟩
  -- a run, its moments, the calls of built-ins in it, and its end
  | during {depth held saved s S n job t outer} (h : Occurs held saved s)
    (hS : S.builtins.Tame held depth) (hjob : ∀ v ∈ (Task.job n job).values, v.MadeOf held)
    (hstart : s.host.runs.mayStart s.context.script = .ok ())
    (hmoment : Moment S (.job n job) (s.runState S.limits) t outer) :
    Occurs held (savedEnvironments outer ++ saved) t.scene
  | calls {depth held saved s S n job name args t outer} (h : Occurs held saved s)
    (hS : S.builtins.Tame held depth) (hjob : ∀ v ∈ (Task.job n job).values, v.MadeOf held)
    (hstart : s.host.runs.mayStart s.context.script = .ok ())
    (hcall : Underway S (.job n job) (s.runState S.limits)
      ((.dispatch name args, t) :: outer)) :
    Occurs (args ++ held) (savedEnvironments outer ++ saved) t.scene
  | ends {depth held saved s S n job v t} (h : Occurs held saved s)
    (hS : S.builtins.Tame held depth) (hjob : ∀ v ∈ (Task.job n job).values, v.MadeOf held)
    (hrun : job.run S n s = .done v t) : Occurs (v :: held) saved t
  | fails {depth held saved s S n job e t} (h : Occurs held saved s)
    (hS : S.builtins.Tame held depth) (hjob : ∀ v ∈ (Task.job n job).values, v.MadeOf held)
    (hrun : job.run S n s = .failed e t) : Occurs held saved t

/-- The scene, the held values and the environments that are put aside are sound. -/
structure Scene.AllSound (held : List Value) (saved : List Environment) (s : Scene) : Prop where
  scene : s.Sound
  held : s.host.heap.Holds held
  saved : ∀ env ∈ saved, env.Sound s.host.heap

namespace Scene.AllSound

variable {held held' : List Value} {saved : List Environment} {s t : Scene}

theorem follows (h : s.AllSound held saved) (hst : s.Follows t)
    (hheld : t.host.heap.Holds held') :
  t.AllSound held' saved
  := by
  constructor
  · exact hst.1
  · exact hheld
  · intro env henv
    exact hst.2.environment (h.saved env henv)

theorem putAside (h : s.AllSound held saved) (hst : s.Follows t) :
  t.AllSound held (s.context.env :: saved)
  := by
  obtain ⟨hsound, hheld, hsaved⟩ := h.follows hst (hst.2.holds h.held)
  exact ⟨hsound, hheld, List.forall_mem_cons.mpr ⟨hst.2.environment h.scene.env, hsaved⟩⟩

variable {S : Setting} {n : Nat} {job : Job}

theorem jobValues (h : s.AllSound held saved)
    (hjob : ∀ v ∈ (Task.job n job).values, v.MadeOf held) :
  s.host.heap.Holds (Task.job n job).values
  := by
  intro v hv
  exact (hjob v hv).sound h.held

/-- At every moment of a run all is sound. -/
theorem moment (h : s.AllSound held saved) (hS : (scopeWatch held).Kept S)
    (hjob : ∀ v ∈ (Task.job n job).values, v.MadeOf held) {u : State}
    {outer : List (Task × State)}
    (hmoment : Moment S (.job n job) (s.runState S.limits) u outer) :
  u.scene.AllSound held (savedEnvironments outer ++ saved)
  := by
  have hgood := scopeWatch.good_runState h.scene h.held S.limits (h.jobValues hjob)
  obtain ⟨⟨⟨hsound, hheld⟩, hext⟩, houter⟩ := hS.moment hgood hmoment
  constructor
  · exact hsound
  · exact hheld
  · intro env henv
    obtain henv | henv := List.mem_append.mp henv
    · obtain ⟨p, hp, rfl⟩ := exists_of_mem_savedEnvironments henv
      obtain ⟨⟨⟨hcaller, -⟩, -⟩, hlater⟩ := houter p hp
      exact Heap.Extends.environment hlater hcaller.env
    · exact Heap.Extends.environment hext (h.saved env henv)

/-- A built-in in the middle of a run gets sound arguments. -/
theorem call (h : s.AllSound held saved) (hS : (scopeWatch held).Kept S)
    (hjob : ∀ v ∈ (Task.job n job).values, v.MadeOf held) {name : String} {args : List Value}
    {u : State} {outer : List (Task × State)}
    (hcall : Underway S (.job n job) (s.runState S.limits) ((.dispatch name args, u) :: outer)) :
  u.scene.AllSound (args ++ held) (savedEnvironments outer ++ saved)
  := by
  have hgood := scopeWatch.good_runState h.scene h.held S.limits (h.jobValues hjob)
  obtain ⟨⟨-, hargs⟩, -⟩ := hS.underway hgood hcall _ List.mem_cons_self
  obtain ⟨hsound, hheld, hsaved⟩ := h.moment hS hjob (.begins hcall)
  exact ⟨hsound, List.forall_mem_append.mpr ⟨hargs, hheld⟩, hsaved⟩

end Scene.AllSound

/-- All that occurs is sound. -/
theorem Scene.Occurs.allSound {held : List Value} {saved : List Environment} {s : Scene}
    (h : s.Occurs held saved) :
  s.AllSound held saved
  := by
  induction h with
  | fresh mode script =>
    exact ⟨((Host.sound_initial mode).enter script).1, List.forall_mem_nil _,
      List.forall_mem_nil _⟩
  | uses _ huses ih =>
    obtain ⟨hfollows, hheld'⟩ := huses.follows (fun _ hS => hS.kept) ih.scene ih.held ih.held
    exact ih.follows hfollows hheld'
  | enters _ script ih => exact ih.putAside (ih.scene.host.enter script)
  | switches _ hcontext ih =>
    exact ih.putAside ⟨⟨ih.scene.host, ih.saved _ hcontext⟩, .refl _⟩
  | during _ hS hjob _ hmoment ih => exact ih.moment hS.kept hjob hmoment
  | calls _ hS hjob _ hcall ih => exact ih.call hS.kept hjob hcall
  | ends _ hS hjob hrun ih =>
    have hended := scopeWatch.run hS.kept ih.scene ih.held (ih.jobValues hjob)
    obtain ⟨hfollows, hv⟩ := hended.1 _ _ hrun
    exact ih.follows hfollows (List.forall_mem_cons.mpr ⟨hv, hfollows.2.holds ih.held⟩)
  | fails _ hS hjob hrun ih =>
    have hended := scopeWatch.run hS.kept ih.scene ih.held (ih.jobValues hjob)
    have hfollows := hended.2 _ _ hrun
    exact ih.follows hfollows (hfollows.2.holds ih.held)

/-- A closure is stored in a variable or with a timer. -/
inductive Scene.Stores (s : Scene) (f : Closure) : Prop where
  | bound {x : ScopeId} {name : String} {v : Value}
    (hv : s.host.heap.binding? x name = some v) (hf : v.Carries f) : Stores s f
  | timer {id : TimerId} {timer : Timer} {v : Value}
    (htimer : s.host.timers.pending[id]? = some timer) (hv : v ∈ timer.call.values)
    (hf : v.Carries f) : Stores s f

theorem Scene.Stores.sound {s : Scene} {f : Closure} (hf : s.Stores f) (hs : s.Sound) :
  f.Sound s.host.heap
  := by
  cases hf with
  | bound hv hf => exact hs.host.heap.bound hv f hf
  | timer htimer hv hf => exact hs.host.timers htimer _ hv f hf

/-- In every reachable state the scopes are well formed. -/
theorem scopes_are_well_formed {held : List Value} {saved : List Environment} {s : Scene}
    (h : s.Occurs held saved) :
  -- environments, the active one and those that are put aside: their scopes exist and lie in
  -- each other, and outwards one comes to the global scope
  (∀ env ∈ s.context.env :: saved,
      env.scopes ≠ []
        ∧ (∀ x ∈ env.global :: env.scopes, x < s.host.heap.next)
        ∧ env.scopes.IsChain s.host.heap.LiesIn
        ∧ (s.host.heap.chain env.current).getLast? = some env.global)
  -- parents are older
    ∧ (∀ x y, s.host.heap.LiesIn x y → y < x ∧ x < s.host.heap.next)
  -- closures, wherever they are stored: their scopes exist, and outwards one comes to the
  -- global scope
    ∧ (∀ f, s.Stores f ∨ (∃ v ∈ held, v.Carries f) →
        f.scope < s.host.heap.next ∧ f.global < s.host.heap.next
          ∧ (s.host.heap.chain f.scope).getLast? = some f.global)
  -- walks outwards follow the links, meet no scope twice, and end where there is no parent
    ∧ ∀ x < s.host.heap.next,
        (s.host.heap.chain x).head? = some x
          ∧ (s.host.heap.chain x).IsChain s.host.heap.LiesIn
          ∧ (s.host.heap.chain x).Nodup
          ∧ (∃ g, (s.host.heap.chain x).getLast? = some g ∧ s.host.heap.parent? g = none)
          ∧ ∀ name fuel, x < fuel →
              s.host.heap.nearestWithin name fuel x = s.host.heap.nearest x name
                ∧ s.host.heap.lookupWithin name fuel x = s.host.heap.lookup x name
                ∧ s.host.heap.containsWithin name fuel x = s.host.heap.contains x name
                ∧ ∀ v, s.host.heap.assignWithin name v fuel x = s.host.heap.assign x name v
  := by
  obtain ⟨hscene, hheld, hsaved⟩ := h.allSound
  have hheap := hscene.host.heap
  refine ⟨?_, ?_, ?_, ?_⟩
  · intro env henv
    have hsound : env.Sound s.host.heap := by
      obtain rfl | henv := List.mem_cons.mp henv
      · exact hscene.env
      · exact hsaved env henv
    refine ⟨env.scopes_ne_nil, ?_, hsound.stack, hheap.getLast?_chain hsound.root_current⟩
    intro x hx
    obtain rfl | hx := List.mem_cons.mp hx
    · exact hsound.root.global_lt_next
    · exact (hsound.root_of_mem hx).lt_next
  · intro x y hxy
    exact ⟨hheap.older hxy, hxy.lt_next⟩
  · intro f hf
    have hsound : f.Sound s.host.heap := by
      obtain hf | ⟨v, hv, hf⟩ := hf
      · exact hf.sound hscene
      · exact hheld v hv f hf
    exact ⟨hsound.lt_next, hsound.global_lt_next, hheap.getLast?_chain hsound⟩
  · intro x hx
    obtain ⟨g, hg⟩ := hheap.exists_root hx
    refine ⟨hheap.head?_chain hx, hheap.isChain_chain hx, hheap.nodup_chain hx,
      ⟨g, hheap.getLast?_chain hg, hg.parent_eq_none⟩, ?_⟩
    intro name fuel hfuel
    exact ⟨hheap.nearestWithin_eq hx hfuel name, hheap.walks_eq hx hfuel name⟩

/-! ### A callback -/

/-- A block that declares a function and lets it escape. -/
def escape : Program :=
  ⟨[.declare .dummy "keep" none,
    .block .dummy [.declare .dummy "x" (some (.literal .dummy (.int 1))),
      .function .dummy 0 "f" [] [.expression .dummy (.identifier .dummy "x")],
      .expression .dummy (.assign .dummy "keep" (.identifier .dummy "f"))],
    .expression .dummy (.identifier .dummy "keep")]⟩

/-- The function that escapes, with the scope of the block. -/
def escaped : Closure :=
  ⟨⟨0, "f", [], [.expression .dummy (.identifier .dummy "x")], .dummy⟩, 1, 0⟩

/-- The run of the program hands the function to the host. -/
theorem run_escape :
  ∃ t, (Job.program escape).run (Rules.withInner.setting 8) 8
      (Scene.enter (Host.initial .buffer) "main") = .done (.closure escaped) t
    ∧ t.host.runs.mayStart t.context.script = .ok ()
    ∧ t.host.runs.isStopped t.host.runs.next = false
    ∧ t.host.heap.next = 2
  := ⟨_, rfl, rfl, rfl, rfl⟩

/-- The host calls the function back.  In the middle of this call the environment of the context
is put aside. -/
theorem occurs_callback :
  ∃ (s : Scene) (env : Environment), s.Occurs [.closure escaped] [env]
    ∧ s.context.env = ⟨[2], 1, 0⟩
  := by
  obtain ⟨t, hrun, hstart, hstopped, hnext⟩ := run_escape
  have htame : ∀ held, (Rules.withInner.builtins 8).Tame held 8 := fun held =>
    (Rules.tame_standardTable rfl).builtins 8
  have hprogram : ∀ v ∈ (Task.job 8 (.program escape)).values, v.MadeOf [] := nofun
  have hended := Scene.Occurs.ends (.fresh .buffer "main") (htame []) hprogram hrun
  have hcallback : ∀ v ∈ (Task.job 8 (.deferred ⟨.closure escaped, []⟩)).values,
      v.MadeOf [.closure escaped] := fun v hv => Value.madeOf_of_mem hv
  have hframe : (Rules.withInner.setting 8).Admits ⟨"f", none⟩ (t.runState ⟨none, none, none⟩)
      ((t.runState ⟨none, none, none⟩).checked.entered
        ⟨⟨"f", none⟩ :: t.context.calls.frames, none⟩) := by
    refine ⟨?_, _, rfl, rfl⟩
    show (if t.host.runs.isStopped t.host.runs.next = true then _ else _) = none
    rw [hstopped]
    rfl
  have hcall := (@Underway.whole (Rules.withInner.setting 8)
    (.job 8 (.deferred ⟨.closure escaped, []⟩)) (t.runState ⟨none, none, none⟩)).part
      .deferredClosure
  have hbody := hcall.part (.called hframe)
  refine ⟨_, _, .during hended (htame _) hcallback hstart (.begins hbody), ?_⟩
  rw [← hnext]
  rfl

/-- In the middle of the call the function runs in the scope of its call, in the block that it
escaped from. -/
theorem callback_is_well_scoped :
  ∃ (s : Scene) (env : Environment), s.Occurs [.closure escaped] [env]
    ∧ s.context.env = ⟨[2], 1, 0⟩
    ∧ s.host.heap.LiesIn 2 1 ∧ (s.host.heap.chain 2).getLast? = some 0
  := by
  obtain ⟨s, env, hoccurs, henv⟩ := occurs_callback
  obtain ⟨-, -, hstack, hroot⟩ := (scopes_are_well_formed hoccurs).1 _ List.mem_cons_self
  rw [henv] at hstack hroot
  exact ⟨s, env, hoccurs, henv, (List.isChain_cons_cons.mp hstack).1, hroot⟩

end StoryScript
