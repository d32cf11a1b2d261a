import Mathlib.Data.List.DropRight
import StoryScript.Proofs.Running
import StoryScript.Proofs.Tracing

/-!
# What scripts declared

A host runs scripts, whose declarations are logged, and makes the log forget what a script
declared; a built-in may do so in the middle of a run.  What it does is a list of events.  Main
statement: at any time a script has declared exactly what it handed off since it was last cleared,
in order, one entry for each time, and nothing that happens to other scripts matters.
-/

namespace StoryScript

open Eval

/-! ### The events of one script -/

namespace LogEvent

/-- The script that an event is about. -/
def script : LogEvent → ScriptId
  | handedOff script _ | cleared script => script

/-- Whether the declarations of a script are forgotten. -/
def clears (script : ScriptId) : LogEvent → Bool
  | handedOff _ _ => false
  | cleared other => other = script

/-- The declaration that a script hands off, if it does. -/
def declaration? (script : ScriptId) : LogEvent → Option HandedOff
  | handedOff other d => if other = script then some d else none
  | cleared _ => none

/-- The events since a script was last cleared, or all of them. -/
def sinceClear (script : ScriptId) (events : List LogEvent) : List LogEvent :=
  events.rtakeWhile fun e => !e.clears script

/-- What a script declared since it was last cleared, in order. -/
def declared (script : ScriptId) (events : List LogEvent) : List HandedOff :=
  (sinceClear script events).filterMap (declaration? script)

theorem declared_append (script : ScriptId) (events : List LogEvent) (e : LogEvent) :
  declared script (events ++ [e])
    = if e.clears script then [] else declared script events ++ (e.declaration? script).toList
  := by
  rw [declared, sinceClear, List.rtakeWhile_concat]
  cases e.clears script with
  | true => rfl
  | false =>
    simp only [Bool.not_false, if_true, Bool.false_eq_true, if_false, List.filterMap_append]
    cases hd : e.declaration? script <;> simp [declared, sinceClear, hd]

theorem of_other_script {script : ScriptId} {e : LogEvent} (h : e.script ≠ script) :
  e.clears script = false ∧ e.declaration? script = none
  := by
  cases e with
  | handedOff other d => exact ⟨rfl, if_neg h⟩
  | cleared other => exact ⟨decide_eq_false h, rfl⟩

/-- The events of other scripts do not matter. -/
theorem declared_filter (script : ScriptId) (events : List LogEvent) :
  declared script (events.filter fun e => e.script = script) = declared script events
  := by
  induction events using List.reverseRecOn with
  | nil => rfl
  | append_singleton events e ih =>
    by_cases he : e.script = script
    · have hkept : [e].filter (fun e => e.script = script) = [e] := by simp [he]
      rw [List.filter_append, hkept, declared_append, declared_append, ih]
    · have hdropped : [e].filter (fun e => e.script = script) = [] := by simp [he]
      obtain ⟨hclears, hnone⟩ := of_other_script he
      rw [List.filter_append, hdropped, List.append_nil, declared_append, hclears, hnone, ih]
      simp

end LogEvent

open LogEvent

namespace DeclarationLog

theorem ofScript_after (log : DeclarationLog) (script : ScriptId) (e : LogEvent) :
  (log.after e).ofScript script
    = if e.clears script then [] else log.ofScript script ++ (e.declaration? script).toList
  := by
  by_cases he : e.script = script
  · subst he
    cases e with
    | handedOff script d =>
      simp [after, clears, declaration?, LogEvent.script, ofScript_record_self]
    | cleared script => simp [after, clears, LogEvent.script, ofScript_clear_self]
  · obtain ⟨hclears, hnone⟩ := of_other_script he
    rw [hclears, hnone, if_neg Bool.false_ne_true, Option.toList_none, List.append_nil]
    cases e with
    | handedOff other d => exact ofScript_record_of_ne log d (Ne.symm he)
    | cleared other => exact ofScript_clear_of_ne log (Ne.symm he)

/-- After some events a script has declared what it did since it was last cleared. -/
theorem ofScript_replay (script : ScriptId) (events : List LogEvent) :
  (empty.replay events).ofScript script = declared script events
  := by
  induction events using List.reverseRecOn with
  | nil => rfl
  | append_singleton events e ih =>
    rw [replay_append, declared_append, ← ih]
    exact ofScript_after _ script e

end DeclarationLog

/-! ### Hosts -/

/-- The same declarations are logged. -/
def Scene.SameLog (s t : Scene) : Prop := t.host.log = s.host.log

/-- Make the log forget what a script declared; the answer tells whether there was anything. -/
def clearDeclarations {ε : Type} (script : ScriptId) : Action Scene ε Bool := fun s =>
  .done (s.host.log.hasAny script) { s with host.log := s.host.log.clear script }

/-- The events of the run of a job: those of its evaluation, unless it is refused. -/
def Job.events (S : Setting) (B : Telling) (n : Nat) (job : Job) (s : Scene) : List LogEvent :=
  match s.host.runs.mayStart s.context.script with
  | .ok () => (Task.job n job).events S B (s.runState S.limits)
  | .error _ => []

/-- What a host, or a built-in, does to the log of declarations by nothing but runs of jobs, whose
declarations are logged, and requests to forget, with the events in order.  The built-ins of these
runs are of this kind themselves. -/
inductive Logs : {ε α : Type} → Action Scene ε α → (Scene → List LogEvent) → Prop where
  | aside {ε α : Type} {a : Action Scene ε α} (h : a.Keeps Scene.SameLog) : Logs a fun _ => []
  | clear {ε : Type} (script : ScriptId) :
    Logs (clearDeclarations script : Action Scene ε Bool) fun _ => [.cleared script]
  | run {ε : Type} {S : Setting} {B : Telling} (n : Nat) (job : Job) {pick : Scene → Scene}
    (hpick : ∀ s, Scene.SameLog s (pick s)) (hsink : S.sink = .log)
    (hS : ∀ name args, Logs (S.builtins.dispatch name args) (B name args)) :
    Logs (visit pick (job.run S n) : Action Scene ε (Except Error Value × Context)) fun s =>
      job.events S B n (pick s)
  | mapError {ε δ α : Type} {a : Action Scene ε α} {told : Scene → List LogEvent}
    (f : Scene → ε → δ) (h : Logs a told) : Logs (a.mapError f) told
  | bind {ε α β : Type} {a : Action Scene ε α} {f : α → Action Scene ε β}
    {told : Scene → List LogEvent} {next : α → Scene → List LogEvent} (ha : Logs a told)
    (hf : ∀ v, Logs (f v) (next v)) : Logs (a >>= f) fun s => told s ++ (a s).andThen next

/-- The run of a job leaves the log after its events. -/
theorem Setting.Logging.run {S : Setting} {B : Telling} (hS : S.Logging B) (n : Nat) (job : Job) :
  (job.run S n).Replays (job.events S B n)
  := by
  intro s t ht
  rw [Job.run_eq] at ht
  unfold Job.events
  cases hstart : s.host.runs.mayStart s.context.script with
  | error cause =>
    rw [guarded_refused S _ s cause hstart] at ht
    cases ht
    rfl
  | ok =>
    rw [guarded_passed S _ s hstart, Outcome.state?_endRun, Option.map_eq_some_iff] at ht
    obtain ⟨u, hu, rfl⟩ := ht
    have hend : (Task.job n job).after? S (s.runState S.limits) = some u := hu
    exact hS.after hend

theorem Action.Replays.bind {ε α β : Type} {a : Action Scene ε α} {f : α → Action Scene ε β}
    {told : Scene → List LogEvent} {next : α → Scene → List LogEvent} (ha : a.Replays told)
    (hf : ∀ v, (f v).Replays (next v)) :
  (a >>= f).Replays fun s => told s ++ (a s).andThen next
  := by
  intro s u hu
  have hs := ha s
  dsimp only
  rw [bind_apply] at hu
  rw [DeclarationLog.replay_append]
  generalize a s = o at hs hu ⊢
  cases o with
  | done v t =>
    rw [← hs t rfl]
    exact hf v t u hu
  | failed e t =>
    cases hu
    exact hs u rfl
  | outOfFuel => cases hu

/-- What is told about a host happens to the log. -/
theorem Logs.replays {ε α : Type} {a : Action Scene ε α} {told : Scene → List LogEvent}
    (h : Logs a told) :
  a.Replays told
  := by
  induction h with
  | aside h => exact h
  | clear script =>
    intro s t ht
    cases ht
    rfl
  | @run ε S B n job pick hpick hsink _ ih =>
    intro s t ht
    rw [state?_visit, Option.map_eq_some_iff] at ht
    obtain ⟨u, hu, rfl⟩ := ht
    have hS : S.Logging B := ⟨hsink, ih⟩
    rw [← hpick s]
    exact hS.run n job (pick s) u hu
  | mapError f _ ih =>
    intro s t ht
    rw [Action.mapError_apply, Outcome.state?_treated, Option.map_id] at ht
    exact ih s t ht
  | bind _ _ iha ihf => exact iha.bind ihf

/-! ### The built-ins of a session -/

namespace Scene.SameLog

theorem refl (s : Scene) :
  s.SameLog s
  := rfl

theorem trans {s t u : Scene} (h : s.SameLog t) (h' : t.SameLog u) :
  s.SameLog u
  := Eq.trans h' h

end Scene.SameLog

theorem Builtins.Detached.sameLog {table : Builtins} (h : table.Detached) (name : String)
    (args : List Value) :
  (table.dispatch name args).Keeps Scene.SameLog
  := by
  apply keeps_dispatch Scene.SameLog.refl
  intro entry hentry args s t ht
  exact (h.sameRecords entry hentry args s t ht).log

/-- If it is told about every built-in what it does, it is told about every call of one. -/
theorem Builtins.exists_logs {table : Builtins}
    (h : ∀ entry ∈ table, ∀ args, ∃ told, Logs (entry.2 args) told) :
  ∃ B : Telling, ∀ name args, Logs (table.dispatch name args) (B name args)
  := by
  have hcall : ∀ name args, ∃ told, Logs (table.dispatch name args) told := by
    intro name args
    unfold dispatch
    cases hf : Entries.get? name table with
    | none =>
      refine ⟨_, .aside ?_⟩
      exact Action.keeps_ofExcept Scene.SameLog.refl (.error _)
    | some f =>
      obtain ⟨told, htold⟩ := h _ (Entries.mem_of_get? hf) args
      exact ⟨told, htold.mapError _⟩
  choose B hB using hcall
  exact ⟨B, hB⟩

namespace Hosted

open Scene (SameLog)

theorem sameLog_stopScript (script : ScriptId) :
  (stopScript script).Keeps SameLog
  := by
  intro s t ht
  cases ht
  rfl

theorem sameLog_runBuiltins :
  ∀ entry ∈ runBuiltins, ∀ args, (entry.2 args).Keeps SameLog
  := by
  unfold runBuiltins
  simp only [List.forall_mem_cons, List.not_mem_nil, false_imp_iff, implies_true, and_true]
  refine ⟨?stopMe, ?stop, ?isRunning, ?running⟩
  case stopMe =>
    exact fun _ => (Action.keeps_gets SameLog.refl _).bind .trans sameLog_stopScript
  case stop =>
    exact fun _ => (Action.keeps_ofExcept SameLog.refl _).bind .trans sameLog_stopScript
  case isRunning =>
    refine fun _ => (Action.keeps_ofExcept SameLog.refl _).bind .trans fun _ => ?_
    exact Action.keeps_gets SameLog.refl _
  case running => exact fun _ => Action.keeps_gets SameLog.refl _

end Hosted

namespace Rules

theorem sameLog_of_mem_standardTable {name : String} {f : Builtin}
    (h : (name, TableEntry.plain f) ∈ standardTable) (args : List Value) :
  (f args).Keeps Scene.SameLog
  := by
  intro s t ht
  obtain hf | hf | hf | hf := mem_of_standardTable h
  · exact (Standard.detached.sameRecords _ hf args s t ht).log
  · exact (Hosted.sameRecords_contextBuiltins _ hf args s t ht).log
  · exact (Hosted.sameRecords_timerBuiltins _ hf args s t ht).log
  · exact Hosted.sameLog_runBuiltins _ hf args s t ht

theorem exists_logs_builtinsWith {R : Rules} (hR : R.table = standardTable)
    {run : Program → Action Scene Error Value}
    (hrun : ∀ script p, ∃ told, Logs (elsewhere script (run p)) told) :
  ∃ B : Telling, ∀ name args, Logs ((R.builtinsWith run).dispatch name args) (B name args)
  := by
  apply Builtins.exists_logs
  intro entry hentry args
  obtain ⟨⟨name, e⟩, he, rfl⟩ := List.mem_map.mp hentry
  cases e with
  | plain f =>
    rw [hR] at he
    exact ⟨_, .aside (sameLog_of_mem_standardTable he args)⟩
  | nestedRun =>
    choose told htold using hrun
    have hnested : ∀ q : ScriptId × Program,
        Logs (elsewhere q.1 (run q.2)) (told q.1 q.2) := fun q => htold q.1 q.2
    exact ⟨_, .bind (.aside (Action.keeps_ofExcept Scene.SameLog.refl _)) hnested⟩

/-- It is told what the built-ins of a session do to the log, however deep runs are nested. -/
theorem exists_logs_setting {R : Rules} (hR : R.table = standardTable) (hsink : R.sink = .log)
    (fuel : Nat) :
  ∃ B : Telling, ∀ name args, Logs ((R.setting fuel).builtins.dispatch name args) (B name args)
  := by
  induction fuel with
  | zero =>
    apply exists_logs_builtinsWith hR
    intro script p
    refine ⟨_, .aside ?_⟩
    intro s t ht
    cases ht
  | succ fuel ih =>
    obtain ⟨B, hB⟩ := ih
    apply exists_logs_builtinsWith hR
    intro script p
    show ∃ told, Logs (elsewhere script (execute (R.setting fuel) fuel p)) told
    rw [elsewhere_eq]
    have hanswer : ∀ answer : Except Error Value × Context,
        Logs (pure (nestedAnswer answer.1) : Action Scene BuiltinError Value) fun _ => [] :=
      fun _ => .aside (Action.keeps_pure Scene.SameLog.refl _)
    exact ⟨_, .bind (.run fuel (.program p) (fun _ => rfl) hsink hB) hanswer⟩

end Rules

/-! ### Declarations as they were executed -/

/-- The events of the run of a job are the own events of the tasks under way in it. -/
theorem Job.mem_events_iff {S : Setting} {B : Telling} {n : Nat} {job : Job} {s : Scene}
    (hstart : s.host.runs.mayStart s.context.script = .ok ()) {e : LogEvent} :
  e ∈ job.events S B n s
    ↔ ∃ task t outer, Underway S (.job n job) (s.runState S.limits) ((task, t) :: outer)
      ∧ e ∈ task.ownEvents B t
  := by
  rw [events, hstart]
  exact Task.mem_events_iff

/-- A declaration that is executed in a run has its place among the events: it comes after those
that the log has when it is executed. -/
theorem Setting.Logging.executed {S : Setting} {B : Telling} (hS : S.Logging B) {n k : Nat}
    {job : Job} {s : Scene} (hstart : s.host.runs.mayStart s.context.script = .ok ()) {span : Span}
    {what : Declaration Stmt} {t : State} {outer : List (Task × State)}
    (h : Underway S (.job n job) (s.runState S.limits)
      ((.stmt (k + 1) (.handOff span what), t) :: outer)) :
  ∃ before later, job.events S B n s
      = before ++ .handedOff t.scene.context.script ⟨span, what⟩ :: later
    ∧ t.log = s.host.log.replay before
  := by
  obtain ⟨before, later, hevents, hlog⟩ := hS.underway h
  refine ⟨before, later, ?_, hlog⟩
  rw [Job.events, hstart]
  refine hevents.trans ?_
  rw [Task.events_eq, List.append_assoc]
  rfl

/-- Of each kind a script has declared exactly what it handed off since it was last cleared, in
order.  In a run a declaration is handed off once for each time that its statement is executed, and
no statement in it is executed then. -/
theorem declarations_are_as_executed {ε α : Type} {a : Action Scene ε α}
    {told : Scene → List LogEvent} (ha : Logs a told) {s t : Scene} (hs : s.host.log = .empty)
    (ht : (a s).state? = some t) :
  (∀ script,
      t.host.log.dialogues script = (declared script (told s)).filterMap HandedOff.dialogue?
      ∧ t.host.log.quests script = (declared script (told s)).filterMap HandedOff.quest?
      ∧ t.host.log.nodes script = (declared script (told s)).filterMap HandedOff.node?
      ∧ t.host.log.handlers script = (declared script (told s)).filterMap HandedOff.handler?
      ∧ t.host.log.hostCode script = (declared script (told s)).filterMap HandedOff.code?
  -- the handlers for one event, in the same order
      ∧ (∀ event, t.host.log.handlersFor script event
            = ((declared script (told s)).filterMap HandedOff.handler?).filter (·.event = event)
          ∧ (t.host.log.handlersFor script event).Sublist (t.host.log.handlers script))
  -- what happens to other scripts does not matter
      ∧ declared script ((told s).filter fun e => e.script = script) = declared script (told s)
  -- clearing a script tells whether it declared anything
      ∧ ∃ found u, (clearDeclarations script t : Outcome Scene ε Bool) = .done found u
        ∧ (found = true ↔ declared script (told s) ≠ [])
        ∧ u.host.log.ofScript script = []
        ∧ ∀ other, other ≠ script → u.host.log.ofScript other = t.host.log.ofScript other)
  -- the events of a run are the declarations executed in it, and those of the built-ins called
    ∧ ∀ S B n (job : Job) (u : Scene), S.sink = .log →
      (∀ name args, Logs (S.builtins.dispatch name args) (B name args)) →
      u.host.runs.mayStart u.context.script = .ok () →
        (∀ e, e ∈ job.events S B n u
          ↔ ∃ task v outer, Underway S (.job n job) (u.runState S.limits) ((task, v) :: outer)
            ∧ e ∈ task.ownEvents B v)
        ∧ ∀ k span what v outer,
          Underway S (.job n job) (u.runState S.limits)
            ((.stmt (k + 1) (.handOff span what), v) :: outer) →
          (∃ before later, job.events S B n u
              = before ++ .handedOff v.scene.context.script ⟨span, what⟩ :: later
            ∧ v.log = u.host.log.replay before)
          ∧ execStmt S (k + 1) (.handOff span what) v
            = .done .quiet (v.logged (v.log.record v.scene.context.script ⟨span, what⟩))
          ∧ ∀ part w, ¬ Enters S (.stmt (k + 1) (.handOff span what)) v part w
  := by
  have hlog : ∀ script, t.host.log.ofScript script = declared script (told s) := by
    intro script
    rw [ha.replays s t ht, hs]
    apply DeclarationLog.ofScript_replay
  constructor
  · intro script
    have hhandlers : t.host.log.handlers script
        = (declared script (told s)).filterMap HandedOff.handler? := by
      rw [DeclarationLog.handlers_eq, hlog]
    refine ⟨?_, ?_, ?_, hhandlers, ?_, ?_, declared_filter script (told s), ?_⟩
    · rw [DeclarationLog.dialogues_eq, hlog]
    · rw [DeclarationLog.quests_eq, hlog]
    · rw [DeclarationLog.nodes_eq, hlog]
    · rw [DeclarationLog.hostCode_eq, hlog]
    · intro event
      rw [← hhandlers, DeclarationLog.handlersFor_eq]
      exact ⟨rfl, List.filter_sublist⟩
    · refine ⟨_, _, rfl, ?_, DeclarationLog.ofScript_clear_self _ _, ?_⟩
      · rw [DeclarationLog.hasAny_eq, hlog]
        simp
      · intro other hother
        exact DeclarationLog.ofScript_clear_of_ne _ hother
  · intro S B n job u hsink hdispatch hstart
    use fun e => Job.mem_events_iff hstart
    intro k span what v outer hchain
    have hS : S.Logging B := ⟨hsink, fun name args => (hdispatch name args).replays⟩
    use hS.executed hstart hchain, execStmt_handOff hsink k span what v
    intro part w h
    cases h

/-- A program that declares the same handler twice, in calls of a function, and then fails. -/
def declaresTwice : Program :=
  ⟨[.function .dummy 0 "declare" []
      [.handOff .dummy (.handler "enter" [] [.expression .dummy (.call .dummy "missing" [])])],
    .expression .dummy (.call .dummy "declare" []), .expression .dummy (.call .dummy "declare" []),
    .expression .dummy (.call .dummy "missing" [])]⟩

/-- A run of the program on a new context. -/
def runDeclaresTwice (script : ScriptId) :
    Action Scene Error (Except Error Value × Context) :=
  visit (fun s => Scene.enter s.host script)
    ((Job.program declaresTwice).run (Standard.setting .unlimited) 9)

/-- Two scripts run, the first one is cleared and runs again, and the second one is cleared. -/
def servesTwoScripts : Action Scene Error Bool := do
  let _ ← runDeclaresTwice "tavern"
  let _ ← runDeclaresTwice "forge"
  let _ ← clearDeclarations "tavern"
  let _ ← runDeclaresTwice "tavern"
  clearDeclarations "forge"

theorem logs_runDeclaresTwice (script : ScriptId) :
  Logs (runDeclaresTwice script) fun s =>
    (Job.program declaresTwice).events (Standard.setting .unlimited) (fun _ _ _ => []) 9
      (Scene.enter s.host script)
  := .run 9 (.program declaresTwice) (fun _ => rfl) rfl fun name args =>
    .aside (Standard.detached.sameLog name args)

/-- The handlers of the second run of the first script are left, and nothing of the other one. -/
theorem handlers_of_two_scripts :
  ∃ told t, Logs servesTwoScripts told
    ∧ (servesTwoScripts ⟨Context.fresh "host" .empty, Host.initial .buffer⟩).state? = some t
    ∧ (declared "tavern" (told ⟨Context.fresh "host" .empty, Host.initial .buffer⟩)).length = 2
    ∧ (t.host.log.handlersFor "tavern" "enter").length = 2
    ∧ t.host.log.handlers "forge" = []
  := by
  have hlogs := Logs.bind (logs_runDeclaresTwice "tavern") fun _ =>
    .bind (logs_runDeclaresTwice "forge") fun _ =>
    .bind (.clear "tavern") fun _ =>
    .bind (logs_runDeclaresTwice "tavern") fun _ => .clear "forge"
  have hends : (servesTwoScripts
      ⟨Context.fresh "host" .empty, Host.initial .buffer⟩).state?.isSome = true := by
    decide +kernel
  obtain ⟨t, ht⟩ := Option.isSome_iff_exists.mp hends
  have hlog := (declarations_are_as_executed hlogs rfl ht).1
  obtain ⟨-, -, -, -, -, htavern, -⟩ := hlog "tavern"
  obtain ⟨-, -, -, hforge, -⟩ := hlog "forge"
  refine ⟨_, t, hlogs, ht, ?_, ?_, ?_⟩
  · decide +kernel
  · rw [(htavern "enter").1]
    decide +kernel
  · rw [hforge, ← List.length_eq_zero_iff]
    decide +kernel

end StoryScript
