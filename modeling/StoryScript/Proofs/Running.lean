import Mathlib.Data.List.Nodup
import StoryScript.Proofs.Stacks
import StoryScript.Proofs.Watch
import StoryScript.Session.Rules

/-!
# Active runs

A host starts runs on contexts and asks them to stop, and a built-in does so in the middle of a
run, on contexts of its own, so runs are nested.  A snapshot is a moment of all this, together
with the runs that are active then.  Main statement: at every moment the list of running scripts
has one entry for each active run, under its name and with its own number.  So a request to stop
reaches the run that it is made to and no other, a run that is refused changes nothing, and a
run that ends takes its own entry away and no other.
-/

namespace StoryScript

open Eval

/-! ### The list of active runs -/

/-- An active run: its script, and its number. -/
abbrev ActiveRun := ScriptId × RunId

namespace Entries

variable {α : Type}

/-- A value under a new key comes last. -/
theorem insert_of_not_contains {key : String} (a : α) {es : Entries α}
    (h : es.contains key = false) :
  es.insert key a = es ++ [(key, a)]
  := by
  induction es with
  | nil => rfl
  | cons e rest ih =>
    simp only [contains, Bool.or_eq_false_iff, decide_eq_false_iff_not] at h
    rw [insert, if_neg h.1, ih h.2, List.cons_append]

end Entries

namespace Runs

/-- These runs are the active ones: each has one entry, under the name of its script and with a
number of its own, and no number that is still to be given out is asked to stop. -/
structure Lists (r : Runs) (active : List ActiveRun) : Prop where
  /-- The entries are the active runs. -/
  entries : r.active.Perm active
  /-- Their scripts are pairwise different. -/
  scripts : (active.map Prod.fst).Nodup
  /-- Their scripts have names. -/
  named : ∀ run ∈ active, run.1 ≠ ""
  /-- Their numbers are pairwise different. -/
  numbers : (active.map Prod.snd).Nodup
  /-- Their numbers are given out. -/
  issued : ∀ run ∈ active, run.2 < r.next
  /-- Only numbers that are given out are asked to stop. -/
  requests : ∀ id, r.isStopped id = true → id < r.next

/-- A stop request touches neither the active runs nor the next number. -/
theorem active_stop (r : Runs) (script : ScriptId) :
  (r.stop script).active = r.active ∧ (r.stop script).next = r.next
  := by
  rw [stop]
  split <;> exact ⟨rfl, rfl⟩

namespace Lists

variable {r : Runs} {active : List ActiveRun} {script : ScriptId}

/-- At the start no run is active. -/
theorem empty :
  Runs.empty.Lists []
  := by
  constructor
  · exact .nil
  · exact .nil
  · exact List.forall_mem_nil _
  · exact .nil
  · exact List.forall_mem_nil _
  · intro id h
    simp [isStopped, Runs.empty] at h

/-- The scripts of the active runs are those that are listed. -/
theorem keys_perm (h : r.Lists active) :
  r.active.keys.Perm (active.map Prod.fst)
  := h.entries.map Prod.fst

/-- A script is running exactly if one of the listed runs is of it. -/
theorem isRunning_iff (h : r.Lists active) :
  r.isRunning script = true ↔ script ∈ active.map Prod.fst
  := by
  rw [isRunning, ← Entries.mem_keys_iff]
  exact h.keys_perm.mem_iff

/-- A script runs under the number with which it is listed. -/
theorem get?_eq_some_iff (h : r.Lists active) {id : RunId} :
  r.active.get? script = some id ↔ (script, id) ∈ active
  := by
  rw [Entries.get?_eq_some_iff (h.keys_perm.nodup_iff.mpr h.scripts)]
  exact h.entries.mem_iff

/-- The next run is listed with the others. -/
theorem start (h : r.Lists active) (hstart : r.mayStart script = .ok ()) :
  (r.start script).Lists ((script, r.next) :: active)
  := by
  obtain ⟨hname, hidle⟩ := (r.mayStart_eq_ok_iff script).mp hstart
  have hnew : script ∉ active.map Prod.fst := by
    rw [← h.isRunning_iff, hidle]
    exact Bool.false_ne_true
  have hnumber : r.next ∉ active.map Prod.snd := by
    intro hmem
    obtain ⟨run, hrun, heq⟩ := List.mem_map.mp hmem
    exact Nat.lt_irrefl _ (heq ▸ h.issued run hrun)
  constructor
  · show (r.active.insert script r.next).Perm _
    rw [Entries.insert_of_not_contains r.next hidle]
    exact (List.perm_append_singleton _ _).trans (h.entries.cons _)
  · exact List.nodup_cons.mpr ⟨hnew, h.scripts⟩
  · exact List.forall_mem_cons.mpr ⟨hname, h.named⟩
  · exact List.nodup_cons.mpr ⟨hnumber, h.numbers⟩
  · intro run hrun
    obtain rfl | hrun := List.mem_cons.mp hrun
    · exact Nat.lt_succ_self r.next
    · exact Nat.lt_succ_of_lt (h.issued run hrun)
  · intro id hid
    exact Nat.lt_succ_of_lt (h.requests id hid)

/-- The number that is given out next is not asked to stop. -/
theorem not_isStopped_next (h : r.Lists active) :
  r.isStopped r.next = false
  := by
  apply Bool.eq_false_iff.mpr
  intro hnext
  exact Nat.lt_irrefl _ (h.requests r.next hnext)

/-- The run that ends is no longer listed, and all others are. -/
theorem finish {id : RunId} (h : r.Lists ((script, id) :: active)) :
  (r.finish script).Lists active
  := by
  obtain ⟨hnew, hscripts⟩ := List.nodup_cons.mp h.scripts
  obtain ⟨-, hnumbers⟩ := List.nodup_cons.mp h.numbers
  have hothers : active.filter (fun e => e.1 ≠ script) = active := by
    apply List.filter_eq_self.mpr
    intro run hrun
    have hne : run.1 ≠ script := fun heq => hnew (List.mem_map.mpr ⟨run, hrun, heq⟩)
    simpa using hne
  constructor
  · have hentries := h.entries.filter fun e => e.1 ≠ script
    rw [List.filter_cons_of_neg (by simp), hothers] at hentries
    exact hentries
  · exact hscripts
  · exact (List.forall_mem_cons.mp h.named).2
  · exact hnumbers
  · exact (List.forall_mem_cons.mp h.issued).2
  · exact h.requests

/-- A stop request stops the active run of the script and no other one. -/
theorem isStopped_stop (h : r.Lists active) (id : RunId) :
  (r.stop script).isStopped id = true ↔ r.isStopped id = true ∨ (script, id) ∈ active
  := by
  rw [stop]
  cases hrun : r.active.get? script with
  | none =>
    have hnone : (script, id) ∉ active := by
      rw [← h.get?_eq_some_iff, hrun]
      exact nofun
    simp [hnone]
  | some run =>
    have hsame : (script, id) ∈ active ↔ run = id := by
      rw [← h.get?_eq_some_iff, hrun, Option.some_inj]
    rw [isStopped_request, hsame, Bool.or_eq_true, beq_iff_eq, or_comm]

/-- A request to stop changes no entry. -/
theorem stop (h : r.Lists active) (script : ScriptId) :
  (r.stop script).Lists active
  := by
  obtain ⟨hactive, hnext⟩ := r.active_stop script
  constructor
  · rw [hactive]
    exact h.entries
  · exact h.scripts
  · exact h.named
  · exact h.numbers
  · rw [hnext]
    exact h.issued
  · intro id hid
    rw [hnext]
    obtain hid | hid := (h.isStopped_stop id).mp hid
    · exact h.requests id hid
    · exact h.issued _ hid

end Lists

end Runs

/-! ### What hosts do -/

/-- The same runs are active, and the same ones are asked to stop. -/
def Scene.SameRuns (s t : Scene) : Prop := t.host.runs = s.host.runs

/-- An action on another scene of the same host, which the caller picks.  The caller gets the
answer and the context that is left behind, and keeps its own context. -/
def visit {ε : Type} (pick : Scene → Scene) (a : Action Scene Error Value) :
    Action Scene ε (Except Error Value × Context) := fun s =>
  match a (pick s) with
  | .done v t => .done (.ok v, t.context) ⟨s.context, t.host⟩
  | .failed e t => .done (.error e, t.context) ⟨s.context, t.host⟩
  | .outOfFuel => .outOfFuel

/-- What a host, or a built-in, does that changes the active runs and the requests to stop by
nothing but runs of jobs and requests to stop.  The built-ins of these runs are of this kind
themselves. -/
inductive Orderly : {ε α : Type} → Action Scene ε α → Prop where
  | aside {ε α : Type} {a : Action Scene ε α} (h : a.Keeps Scene.SameRuns) : Orderly a
  | stop (script : ScriptId) : Orderly (Hosted.stopScript script)
  | run {ε : Type} {S : Setting} (n : Nat) (job : Job) {pick : Scene → Scene}
    (hpick : ∀ s, Scene.SameRuns s (pick s))
    (hS : ∀ entry ∈ S.builtins, ∀ args, Orderly (entry.2 args)) :
    Orderly (visit pick (job.run S n) : Action Scene ε (Except Error Value × Context))
  | bind {ε α β : Type} {a : Action Scene ε α} {f : α → Action Scene ε β} (ha : Orderly a)
    (hf : ∀ v, Orderly (f v)) : Orderly (a >>= f)

/-- All built-ins are orderly. -/
def Setting.Orderly (S : Setting) : Prop :=
  ∀ entry ∈ S.builtins, ∀ args, StoryScript.Orderly (entry.2 args)

/-- Runs that are listed stay listed. -/
def Scene.Listed (active : List ActiveRun) (s t : Scene) : Prop :=
  s.host.runs.Lists active → t.host.runs.Lists active

/-- A visit ends where the visited action does, with the context that was there before. -/
theorem state?_visit {ε : Type} (pick : Scene → Scene) (a : Action Scene Error Value) (s : Scene) :
  (visit pick a s : Outcome Scene ε _).state?
    = (a (pick s)).state?.map fun t => ⟨s.context, t.host⟩
  := by
  rw [visit]
  cases a (pick s) <;> rfl

/-- The end of a run changes the state in which the run ends, and nothing else. -/
theorem Outcome.state?_endRun {α : Type} (script : ScriptId) (o : Outcome State Error α) :
  (o.endRun script).state? = o.state?.map fun t => t.scene.endRun script
  := by
  cases o <;> rfl

/-! ### During a run -/

/-- While a run is active it is listed with those that were active before, and its number is in
its budget. -/
def Runs.watch (active : List ActiveRun) (run : ActiveRun) : Watch where
  Holds s := s.scene.host.runs.Lists (run :: active) ∧ s.budget.run = some run.2
  Fine _ _ := True
  Later _ _ := True

/-- An outcome ends well if every state that it leaves may follow. -/
theorem Watch.Ends.of_state {α : Type} {K : Watch} {P : State → α → Prop} {s : State}
    {o : Outcome State Error α} (h : ∀ t, o.state? = some t → K.Next s t) (hP : ∀ t v, P t v) :
  K.Ends P s o
  := by
  cases o with
  | done v t => exact ⟨h t rfl, hP t v⟩
  | failed e t => exact h t rfl
  | outOfFuel => trivial

namespace Runs

variable {S : Setting} {active : List ActiveRun} {run : ActiveRun} {n : Nat} {job : Job}
  {s : Scene}

/-- With built-ins that keep the list of active runs, all evaluations keep it. -/
theorem kept_watch (hS : ∀ entry ∈ S.builtins, ∀ args,
      (entry.2 args).Keeps (Scene.Listed (run :: active))) :
  (watch active run).Kept S
  where
  refl _ := trivial
  trans _ _ := trivial
  fine _ _ := trivial
  checked h := ⟨h, trivial⟩
  ticked h := ⟨h, trivial⟩
  defined _ h _ := ⟨h, trivial⟩
  assigned _ h _ := ⟨h, trivial⟩
  logged _ h := ⟨h, trivial⟩
  pushed h := ⟨h, trivial⟩
  popped h := ⟨h, trivial⟩
  entered _ h := ⟨h, trivial⟩
  left h := ⟨h, trivial⟩
  swapped h _ := ⟨h, trivial⟩
  within _ h := ⟨h.1, trivial⟩
  get _ _ _ _ := trivial
  closure _ _ := trivial
  dispatch {s args} name h _ := by
    apply Watch.Ends.of_state
    · intro t ht
      rw [state?_onScene, Option.map_eq_some_iff] at ht
      obtain ⟨u, hu, rfl⟩ := ht
      have hdispatch := Builtins.keeps_dispatch (fun _ => id) hS name args
      exact ⟨⟨hdispatch s.scene u hu h.1, h.2⟩, trivial⟩
    · intro t v f hf
      trivial

/-- A run begins well: it is listed, and its number is fresh. -/
theorem good_runState (hs : s.host.runs.Lists active)
    (hstart : s.host.runs.mayStart s.context.script = .ok ()) (limits : Limits) (task : Task) :
  (watch active (s.context.script, s.host.runs.next)).Good task (s.runState limits)
  := by
  constructor
  · exact ⟨hs.start hstart, rfl⟩
  · intro v _ f _
    trivial

/-- A run leaves the list as it was, whether it is refused, succeeds or fails. -/
theorem listed_run (hS : ∀ active, ∀ entry ∈ S.builtins, ∀ args,
      (entry.2 args).Keeps (Scene.Listed active)) :
  (job.run S n).Keeps (Scene.Listed active)
  := by
  intro s t ht hs
  rw [Job.run_eq] at ht
  cases hstart : s.host.runs.mayStart s.context.script with
  | error cause =>
    rw [guarded_refused S _ s cause hstart] at ht
    cases ht
    exact hs
  | ok =>
    rw [guarded_passed S _ s hstart, Outcome.state?_endRun, Option.map_eq_some_iff] at ht
    obtain ⟨u, hu, rfl⟩ := ht
    have hended := ((kept_watch (hS _)).job (good_runState hs hstart S.limits _)).state hu
    exact hended.1.1.finish

end Runs

/-- Whatever is orderly keeps the list of active runs. -/
theorem Orderly.listed {ε α : Type} {a : Action Scene ε α} (h : Orderly a)
    (active : List ActiveRun) :
  a.Keeps (Scene.Listed active)
  := by
  induction h generalizing active with
  | aside h =>
    intro s t ht hs
    rw [h s t ht]
    exact hs
  | stop script =>
    intro s t ht hs
    cases ht
    exact hs.stop script
  | run n job hpick _ ih =>
    intro s t ht hs
    rw [state?_visit, Option.map_eq_some_iff] at ht
    obtain ⟨u, hu, rfl⟩ := ht
    apply Runs.listed_run (fun active entry hentry args => ih entry hentry args active) _ u hu
    rw [hpick s]
    exact hs
  | bind _ _ iha ihf =>
    apply (iha active).bind
    · intro s t u hst htu hs
      exact htu (hst hs)
    · intro v
      exact ihf v active

/-- A run keeps the list of active runs: its own entry is gone at the end. -/
theorem Setting.Orderly.listed_run {S : Setting} (hS : S.Orderly) {n : Nat} {job : Job}
    {active : List ActiveRun} :
  (job.run S n).Keeps (Scene.Listed active)
  := by
  apply Runs.listed_run
  intro active entry hentry args
  exact (hS entry hentry args).listed active

/-! ### The built-ins of a session -/

theorem Scene.SameRuns.refl (s : Scene) :
  s.SameRuns s
  := rfl

/-- The same runs are active, the same ones are asked to stop, and the same declarations are
logged. -/
structure Scene.SameRecords (s t : Scene) : Prop where
  runs : t.host.runs = s.host.runs
  log : t.host.log = s.host.log

namespace Scene.SameRecords

theorem refl (s : Scene) :
  s.SameRecords s
  := ⟨rfl, rfl⟩

theorem trans {s t u : Scene} (h : s.SameRecords t) (h' : t.SameRecords u) :
  s.SameRecords u
  := ⟨h'.runs.trans h.runs, h'.log.trans h.log⟩

end Scene.SameRecords

/-- Detached built-ins do nothing to the records of a host. -/
theorem Builtins.Detached.sameRecords {table : Builtins} (h : table.Detached) :
  ∀ entry ∈ table, ∀ args, (entry.2 args).Keeps Scene.SameRecords
  := by
  intro entry hentry args s t ht
  obtain ⟨x, lines, hanswer, -⟩ := h entry hentry args
  rw [hanswer] at ht
  cases x <;> cases ht <;> exact ⟨rfl, rfl⟩

namespace Hosted

open Scene (SameRuns SameRecords)

/-- What is done with what is read from the arguments. -/
theorem sameRecords_ofExcept {α : Type} (x : Except BuiltinError α)
    {f : α → Action Scene BuiltinError Value} (h : ∀ v, (f v).Keeps SameRecords) :
  (Action.ofExcept x >>= f).Keeps SameRecords
  := (Action.keeps_ofExcept SameRecords.refl x).bind .trans h

/-- Built-ins on the context do nothing to the records of a host. -/
theorem sameRecords_contextBuiltins :
  ∀ entry ∈ contextBuiltins, ∀ args, (entry.2 args).Keeps SameRecords
  := by
  unfold contextBuiltins
  simp only [List.forall_mem_cons, List.not_mem_nil, false_imp_iff, implies_true, and_true]
  refine ⟨?whoami, ?setGlobal, ?defineHere, ?assignHere, ?lookupHere, ?scopeDepth, ?scopePush,
    ?scopePop, ?frames, ?failHost, ?failInvalid⟩
  case whoami | scopeDepth | frames => exact fun _ => Action.keeps_gets SameRecords.refl _
  case scopePush | scopePop => exact fun _ s t ht => by cases ht; exact ⟨rfl, rfl⟩
  case setGlobal | defineHere | lookupHere | failHost | failInvalid =>
    exact fun _ => sameRecords_ofExcept _ fun _ s t ht => by cases ht; exact ⟨rfl, rfl⟩
  case assignHere =>
    intro args
    apply sameRecords_ofExcept
    rintro ⟨name, v⟩
    refine (Action.keeps_gets SameRecords.refl _).bind .trans fun found => ?_
    refine (Action.keeps_modify fun s => ?_).bind .trans ?_
    · exact ⟨rfl, rfl⟩
    · intro _
      split
      · exact Action.keeps_pure SameRecords.refl _
      · exact Action.keeps_ofExcept SameRecords.refl (.error _)

/-- Built-ins on timers do nothing to runs and declarations. -/
theorem sameRecords_timerBuiltins :
  ∀ entry ∈ timerBuiltins, ∀ args, (entry.2 args).Keeps SameRecords
  := by
  unfold timerBuiltins
  simp only [List.forall_mem_cons, List.not_mem_nil, false_imp_iff, implies_true, and_true]
  refine ⟨?after, ?cancelTimer⟩
  case after =>
    intro args
    apply sameRecords_ofExcept
    rintro ⟨delay, call⟩
    refine (Action.keeps_modify fun s => ?_).bind .trans ?_
    · exact ⟨rfl, rfl⟩
    · intro _
      refine (Action.keeps_gets SameRecords.refl _).bind .trans fun id => ?_
      split
      · exact Action.keeps_pure SameRecords.refl _
      · exact Action.keeps_ofExcept SameRecords.refl (.error _)
  case cancelTimer =>
    intro args
    apply sameRecords_ofExcept
    intro id
    split
    · exact Action.keeps_pure SameRecords.refl _
    · intro s t ht
      cases ht
      exact ⟨rfl, rfl⟩

/-- Built-ins on runs are orderly: they do nothing but request stops and ask who is running. -/
theorem orderly_runBuiltins :
  ∀ entry ∈ runBuiltins, ∀ args, Orderly (entry.2 args)
  := by
  unfold runBuiltins
  simp only [List.forall_mem_cons, List.not_mem_nil, false_imp_iff, implies_true, and_true]
  refine ⟨?stopMe, ?stop, ?isRunning, ?running⟩
  case stopMe => exact fun _ => .bind (.aside (Action.keeps_gets SameRuns.refl _)) .stop
  case stop => exact fun _ => .bind (.aside (Action.keeps_ofExcept SameRuns.refl _)) .stop
  case isRunning =>
    refine fun _ => .bind (.aside (Action.keeps_ofExcept SameRuns.refl _)) fun _ => ?_
    exact .aside (Action.keeps_gets SameRuns.refl _)
  case running => exact fun _ => .aside (Action.keeps_gets SameRuns.refl _)

end Hosted

/-- The answer of a nested run as one value. -/
def nestedAnswer : Except Error Value → Value
  | .ok v => v
  | .error e => failureValue e

/-- An action elsewhere is a visit to a new context, and its error becomes one of the built-in. -/
theorem elsewhere_eq (script : ScriptId) (a : Action Scene Error Value) :
  elsewhere script a
    = visit (fun s => Scene.enter s.host script) a >>= fun answer => pure (nestedAnswer answer.1)
  := by
  funext s
  rw [Action.bind_apply, visit, elsewhere]
  cases a (Scene.enter s.host script) <;> rfl

/-- A nested run picks a script and its program, visits a new context and runs it there. -/
theorem runNested_eq (programs : Entries Program) (run : Program → Action Scene Error Value)
    (args : List Value) :
  runNested programs run args
    = Action.ofExcept (scriptAndProgram programs args) >>= fun q =>
      visit (fun s => Scene.enter s.host q.1) (run q.2) >>= fun answer =>
      pure (nestedAnswer answer.1)
  := by
  simp only [runNested, elsewhere_eq]

namespace Rules

/-- Plain entries are orderly. -/
def Orderly (R : Rules) : Prop :=
  ∀ name f, (name, TableEntry.plain f) ∈ R.table → ∀ args, StoryScript.Orderly (f args)

/-- With orderly plain entries the built-ins are orderly as long as the nested runs are. -/
theorem Orderly.builtinsWith {R : Rules} (hR : R.Orderly) {run : Program → Action Scene Error Value}
    (hrun : ∀ script p, StoryScript.Orderly (elsewhere script (run p))) :
  ∀ entry ∈ R.builtinsWith run, ∀ args, StoryScript.Orderly (entry.2 args)
  := by
  intro entry hentry args
  obtain ⟨⟨name, e⟩, he, rfl⟩ := List.mem_map.mp hentry
  cases e with
  | plain f => exact hR name f he args
  | nestedRun =>
    apply StoryScript.Orderly.bind
    · exact .aside (Action.keeps_ofExcept Scene.SameRuns.refl _)
    · rintro ⟨script, p⟩
      exact hrun script p

/-- With orderly plain entries all built-ins of a session are orderly, however deep runs are
nested. -/
theorem Orderly.setting {R : Rules} (hR : R.Orderly) (fuel : Nat) :
  (R.setting fuel).Orderly
  := by
  induction fuel with
  | zero =>
    apply hR.builtinsWith
    intro script p
    apply StoryScript.Orderly.aside
    intro s t ht
    cases ht
  | succ fuel ih =>
    apply hR.builtinsWith
    intro script p
    show StoryScript.Orderly (elsewhere script (execute (R.setting fuel) fuel p))
    rw [elsewhere_eq]
    apply StoryScript.Orderly.bind
    · exact .run fuel (.program p) (fun _ => rfl) ih
    · intro answer
      exact .aside (Action.keeps_pure Scene.SameRuns.refl _)

/-- The plain entries of the standard table are the standard built-ins and those on contexts, timers
and runs. -/
theorem mem_of_standardTable {name : String} {f : Builtin}
    (h : (name, TableEntry.plain f) ∈ standardTable) :
  (name, f) ∈ Standard.builtins ∨ (name, f) ∈ Hosted.contextBuiltins
    ∨ (name, f) ∈ Hosted.timerBuiltins ∨ (name, f) ∈ Hosted.runBuiltins
  := by
  obtain h | h := List.mem_append.mp h
  · obtain ⟨⟨name', f'⟩, hplain, heq⟩ := List.mem_map.mp h
    cases heq
    simpa only [List.mem_append, or_assoc] using hplain
  · cases List.mem_singleton.mp h

/-- The entries of the standard table are orderly. -/
theorem orderly_standardTable {R : Rules} (hR : R.table = standardTable) :
  R.Orderly
  := by
  intro name f hf args
  rw [hR] at hf
  obtain hf | hf | hf | hf := mem_of_standardTable hf
  · exact .aside fun s t ht => (Standard.detached.sameRecords _ hf args s t ht).runs
  · exact .aside fun s t ht => (Hosted.sameRecords_contextBuiltins _ hf args s t ht).runs
  · exact .aside fun s t ht => (Hosted.sameRecords_timerBuiltins _ hf args s t ht).runs
  · exact Hosted.orderly_runBuiltins _ hf args

end Rules

/-! ### Moments of what a host does -/

/-- What is the case at some moment of an action: the runs that are active then, the latest one
first, and the scene.  The first list has the runs that were active before the action. -/
inductive Snapshot : {ε α : Type} → List ActiveRun → Action Scene ε α → Scene →
    List ActiveRun → Scene → Prop where
  | before {ε α : Type} {a : Action Scene ε α} {active : List ActiveRun} {s : Scene} :
    Snapshot active a s active s
  | after {ε α : Type} {a : Action Scene ε α} {active : List ActiveRun} {s t : Scene}
    (ha : Orderly a) (ht : (a s).state? = some t) : Snapshot active a s active t
  -- one action after the other
  | first {ε α β : Type} {a : Action Scene ε α} {f : α → Action Scene ε β}
    {active active' : List ActiveRun} {s u : Scene} (h : Snapshot active a s active' u) :
    Snapshot active (a >>= f) s active' u
  | next {ε α β : Type} {a : Action Scene ε α} {f : α → Action Scene ε β} {v : α}
    {active active' : List ActiveRun} {s t u : Scene} (ha : Orderly a) (hv : a s = .done v t)
    (h : Snapshot active (f v) t active' u) : Snapshot active (a >>= f) s active' u
  -- a run that is not refused
  | during {ε : Type} {S : Setting} {n : Nat} {job : Job} {pick : Scene → Scene}
    {active : List ActiveRun} {s : Scene} {t : State} {outer : List (Task × State)}
    (hS : S.Orderly) (hpick : s.SameRuns (pick s))
    (hstart : (pick s).host.runs.mayStart (pick s).context.script = .ok ())
    (h : Moment S (.job n job) ((pick s).runState S.limits) t outer) :
    Snapshot active (visit pick (job.run S n) : Action Scene ε (Except Error Value × Context)) s
      (((pick s).context.script, (pick s).host.runs.next) :: active) t.scene
  -- a built-in in the middle of a run
  | inside {ε : Type} {S : Setting} {n : Nat} {job : Job} {pick : Scene → Scene}
    {active active' : List ActiveRun} {s u : Scene} {t : State} {outer : List (Task × State)}
    {name : String} {args : List Value} {f : Builtin} (hS : S.Orderly)
    (hpick : s.SameRuns (pick s))
    (hstart : (pick s).host.runs.mayStart (pick s).context.script = .ok ())
    (h : Underway S (.job n job) ((pick s).runState S.limits) ((.dispatch name args, t) :: outer))
    (hf : Entries.get? name S.builtins = some f)
    (hinner : Snapshot (((pick s).context.script, (pick s).host.runs.next) :: active) (f args)
      t.scene active' u) :
    Snapshot active (visit pick (job.run S n) : Action Scene ε (Except Error Value × Context)) s
      active' u

/-- At every moment of a run it is listed with those that were active before, and its number is
in its budget. -/
theorem Setting.Orderly.moment {S : Setting} (hS : S.Orderly) {active : List ActiveRun}
    {s : Scene} (hs : s.host.runs.Lists active)
    (hstart : s.host.runs.mayStart s.context.script = .ok ()) {n : Nat} {job : Job} {t : State}
    {outer : List (Task × State)}
    (h : Moment S (.job n job) (s.runState S.limits) t outer) :
  t.scene.host.runs.Lists ((s.context.script, s.host.runs.next) :: active)
    ∧ t.budget.run = some s.host.runs.next
  := by
  have hkept : (Runs.watch active (s.context.script, s.host.runs.next)).Kept S := by
    apply Runs.kept_watch
    intro entry hentry args
    exact (hS entry hentry args).listed _
  exact (hkept.moment (Runs.good_runState hs hstart _ _) h).1.1

/-- At every moment the active runs are those that are listed. -/
theorem Snapshot.lists {ε α : Type} {a : Action Scene ε α} {active active' : List ActiveRun}
    {s u : Scene} (h : Snapshot active a s active' u) (hs : s.host.runs.Lists active) :
  u.host.runs.Lists active'
  := by
  induction h with
  | before => exact hs
  | after ha ht => exact ha.listed _ _ _ ht hs
  | first _ ih => exact ih hs
  | next ha hv _ ih =>
    apply ih
    exact ha.listed _ _ _ (congrArg Outcome.state? hv) hs
  | during hS hpick hstart h =>
    rw [← hpick] at hs
    exact (hS.moment hs hstart h).1
  | inside hS hpick hstart h _ _ ih =>
    rw [← hpick] at hs
    apply ih
    exact (hS.moment hs hstart (.begins h)).1

/-- The running scripts are those of the listed runs. -/
theorem Runs.Lists.scripts_perm {r : Runs} {active : List ActiveRun} (h : r.Lists active) :
  r.scripts.Perm (active.map Prod.fst)
  := (List.mergeSort_perm _ _).trans h.keys_perm

/-- The running scripts are named in order, each once. -/
theorem Runs.Lists.pairwise_scripts {r : Runs} {active : List ActiveRun} (h : r.Lists active) :
  r.scripts.Pairwise (· < ·)
  := by
  have hsorted : r.scripts.Pairwise fun a b => decide (a ≤ b) = true := by
    apply List.pairwise_mergeSort
    · intro a b c hab hbc
      rw [decide_eq_true_iff] at *
      exact String.le_trans hab hbc
    · intro a b
      rw [Bool.or_eq_true, decide_eq_true_iff, decide_eq_true_iff]
      exact String.le_total a b
  have hnodup : r.scripts.Nodup := h.scripts_perm.nodup_iff.mpr h.scripts
  apply (hsorted.and hnodup).imp
  rintro a b ⟨hle, hne⟩
  apply String.not_le.mp
  intro hge
  exact hne (String.le_antisymm (of_decide_eq_true hle) hge)

/-- A run is refused if the script has no name or is running already. -/
theorem Job.run_refused (S : Setting) (n : Nat) (job : Job) {active : List ActiveRun}
    {s : Scene} (hs : s.host.runs.Lists active)
    (hrefused : s.context.script = "" ∨ s.context.script ∈ active.map Prod.fst) :
  ∃ e, job.run S n s = .failed e s
  := by
  rw [Job.run_eq]
  cases hstart : s.host.runs.mayStart s.context.script with
  | error cause => exact ⟨_, guarded_refused S _ s cause hstart⟩
  | ok =>
    obtain ⟨hname, hidle⟩ := (s.host.runs.mayStart_eq_ok_iff _).mp hstart
    obtain hempty | hactive := hrefused
    · exact absurd hempty hname
    · rw [hs.isRunning_iff.mpr hactive] at hidle
      cases hidle

/-- At every moment of what a host does, the list of running scripts is exactly that of the
active runs, and this is what requests to stop and further runs meet. -/
theorem running_set_is_exact {ε α : Type} {a : Action Scene ε α} {s u : Scene}
    {active : List ActiveRun} (hs : s.host.runs = .empty) (h : Snapshot [] a s active u) :
  -- one entry for each active run, under its name and with its own number
  u.host.runs.active.Perm active
    ∧ (active.map Prod.fst).Nodup ∧ "" ∉ active.map Prod.fst ∧ (active.map Prod.snd).Nodup
  -- the names of the running scripts, sorted
    ∧ u.host.runs.scripts.Perm (active.map Prod.fst) ∧ u.host.runs.scripts.Pairwise (· < ·)
    ∧ (∀ script, u.host.runs.isRunning script = true ↔ script ∈ active.map Prod.fst)
  -- a request to stop is answered, and reaches the run of the script and no other
    ∧ (∀ script, ∃ t, Hosted.stopScript script u
          = .done (.bool (decide (script ∈ active.map Prod.fst))) t
        ∧ t.host.runs.active = u.host.runs.active
        ∧ ∀ id, t.host.runs.isStopped id = true
            ↔ u.host.runs.isStopped id = true ∨ (script, id) ∈ active)
  -- a run that is refused changes nothing
    ∧ (∀ S n (job : Job) (context : Context),
        context.script = "" ∨ context.script ∈ active.map Prod.fst →
          ∃ e, job.run S n ⟨context, u.host⟩ = .failed e ⟨context, u.host⟩)
  -- any other run has a number of its own, which is not asked to stop when it starts; at its
  -- end its entry is gone and no other
    ∧ ∀ S n (job : Job) (context : Context), S.Orderly → context.script ≠ "" →
        context.script ∉ active.map Prod.fst →
          job.run S n ⟨context, u.host⟩
              = (job.eval S n (Scene.runState ⟨context, u.host⟩ S.limits)).endRun context.script
            ∧ (Scene.runState ⟨context, u.host⟩ S.limits).scene.host.runs.isStopped
                u.host.runs.next = false
            ∧ (∀ t outer,
                Moment S (.job n job) (Scene.runState ⟨context, u.host⟩ S.limits) t outer →
                  t.budget.run = some u.host.runs.next
                    ∧ t.scene.host.runs.active.Perm
                      ((context.script, u.host.runs.next) :: active))
            ∧ ∀ t, (job.run S n ⟨context, u.host⟩).state? = some t →
                t.host.runs.active.Perm active
  := by
  have hlists : u.host.runs.Lists active := by
    apply h.lists
    rw [hs]
    exact .empty
  refine ⟨hlists.entries, hlists.scripts, ?_, hlists.numbers, hlists.scripts_perm,
    hlists.pairwise_scripts, fun script => hlists.isRunning_iff, ?_, ?_, ?_⟩
  · intro hempty
    obtain ⟨run, hrun, hname⟩ := List.mem_map.mp hempty
    exact hlists.named run hrun hname
  · intro script
    refine ⟨{ u with host.runs := u.host.runs.stop script }, ?_, (u.host.runs.active_stop script).1,
      hlists.isStopped_stop⟩
    have hrunning : u.host.runs.isRunning script = decide (script ∈ active.map Prod.fst) := by
      rw [Bool.eq_iff_iff, hlists.isRunning_iff, decide_eq_true_iff]
    rw [← hrunning]
    rfl
  · intro S n job context hrefused
    exact job.run_refused S n hlists hrefused
  · intro S n job context hS hname hidle
    have hstart : u.host.runs.mayStart context.script = .ok () := by
      apply (u.host.runs.mayStart_eq_ok_iff _).mpr
      use hname
      rw [Bool.eq_false_iff, ne_eq, hlists.isRunning_iff]
      exact hidle
    refine ⟨?_, hlists.not_isStopped_next, ?_, ?_⟩
    · rw [Job.run_eq]
      exact guarded_passed S _ ⟨context, u.host⟩ hstart
    · intro t outer hmoment
      obtain ⟨hactive, hnumber⟩ := hS.moment (s := ⟨context, u.host⟩) hlists hstart hmoment
      exact ⟨hnumber, hactive.entries⟩
    · intro t ht
      exact (hS.listed_run _ t ht hlists).entries

/-! ### A nested run -/

/-- The rules of a session with an empty program that can be run by name. -/
def Rules.withInner : Rules :=
  ⟨standardTable, [("inner", ⟨[]⟩)], .log, ⟨none, none, none⟩, fun _ => 0⟩

/-- A program that runs another one under another name. -/
def startsInner : Program :=
  ⟨[.expression .dummy (.call .dummy "run_nested"
    [.literal .dummy (.str "inner"), .literal .dummy (.str "inner")])]⟩

/-- The run of the program on a new context. -/
def runStartsInner : Action Scene BuiltinError (Except Error Value × Context) :=
  visit (fun s => Scene.enter s.host "main")
    ((Job.program startsInner).run (Rules.withInner.setting 8) 8)

/-- The built-in is called in the middle of the outer run, which is the only active one then. -/
theorem underway_startsInner :
  ∃ t outer, Underway (Rules.withInner.setting 8) (.job 8 (.program startsInner))
      ((Scene.enter (Host.initial .buffer) "main").runState ⟨none, none, none⟩)
      ((.dispatch "run_nested" [.str "inner", .str "inner"], t) :: outer)
    ∧ t.scene.host.runs = Runs.start .empty "main"
  := by
  have hjob := @Underway.whole (Rules.withInner.setting 8) (.job 8 (.program startsInner))
    ((Scene.enter (Host.initial .buffer) "main").runState ⟨none, none, none⟩)
  have hbody := hjob.part .program
  have hstmt := hbody.part (@Enters.statement _ _ [] _ [] _ _ _ rfl)
  have hexpr := hstmt.part .expression
  have hcall := hexpr.part (.builtin rfl rfl)
  have hdispatch := hcall.part (.dispatched ⟨rfl, _, rfl, rfl⟩)
  exact ⟨_, _, hdispatch, rfl⟩

/-- When the inner run starts, both runs are active. -/
theorem snapshot_startsInner :
  ∃ u, Snapshot [] runStartsInner ⟨Context.fresh "host" .empty, Host.initial .buffer⟩
    [("inner", 1), ("main", 0)] u
  := by
  have horderly := Rules.orderly_standardTable (R := Rules.withInner) rfl
  obtain ⟨t, outer, hchain, hruns⟩ := underway_startsInner
  have hinner : Snapshot [("main", 0)] (visit (fun s => Scene.enter s.host "inner")
      ((Job.program ⟨[]⟩).run (Rules.withInner.setting 7) 7) : Action Scene BuiltinError _) t.scene
      (("inner", t.scene.host.runs.next) :: [("main", 0)])
      ((Scene.enter t.scene.host "inner").runState ⟨none, none, none⟩).scene := by
    refine .during (horderly.setting 7) rfl ?_ (.begins .whole)
    show t.scene.host.runs.mayStart "inner" = .ok ()
    rw [hruns]
    rfl
  rw [hruns] at hinner
  use ((Scene.enter t.scene.host "inner").runState ⟨none, none, none⟩).scene
  refine .inside (horderly.setting 8) rfl rfl hchain rfl ?_
  show Snapshot _ (runNested _ _ _) _ _ _
  rw [runNested_eq]
  exact .next (.aside (Action.keeps_ofExcept Scene.SameRuns.refl _)) rfl (.first hinner)

/-- When the inner run starts, both runs are listed, and a further run of the outer script is
refused. -/
theorem nested_runs_are_listed :
  ∃ u, Snapshot [] runStartsInner ⟨Context.fresh "host" .empty, Host.initial .buffer⟩
      [("inner", 1), ("main", 0)] u
    ∧ u.host.runs.active.Perm [("inner", 1), ("main", 0)]
    ∧ ∃ e, (Job.program startsInner).run (Rules.withInner.setting 8) 8
        ⟨Context.fresh "main" .empty, u.host⟩ = .failed e ⟨Context.fresh "main" .empty, u.host⟩
  := by
  obtain ⟨u, hu⟩ := snapshot_startsInner
  obtain ⟨hactive, -, -, -, -, -, -, -, hrefused, -⟩ := running_set_is_exact rfl hu
  refine ⟨u, hu, hactive, ?_⟩
  apply hrefused
  right
  decide

end StoryScript
