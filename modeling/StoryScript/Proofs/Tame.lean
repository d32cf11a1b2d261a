import StoryScript.Proofs.Running

/-!
# Tame built-ins

What hosts and built-ins may do with a context: enter and leave scopes in any order, bind,
assign and read variables, and start runs on other contexts.  The values that they supply have
no closures but those of values that they got to see.  Main statement: all built-ins of a session
are of this kind, however deep runs are nested.
-/

namespace StoryScript

/-! ### What hosts and built-ins do with a context -/

/-- All closures of the value occur in the held values. -/
def Value.MadeOf (held : List Value) (v : Value) : Prop :=
  ∀ f, v.Carries f → ∃ w ∈ held, w.Carries f

/-- What a host, or a built-in, makes of a scene and of the values that it holds: it uses the
context in no other ways than these, and the values that it supplies have no closures but those
of values that it holds.  It may start runs on new contexts, under some settings. -/
inductive Scene.Uses (nested : Setting → Prop) (s : Scene) (held : List Value) :
    List Value → Scene → Prop where
  | nothing : Uses nested s held held s
  -- scopes
  | pushScope {held' t} (h : Uses nested s held held' t) : Uses nested s held held' t.pushScope
  | popScope {held' t} (h : Uses nested s held held' t) : Uses nested s held held' t.popScope
  -- variables
  | define {held' t name v} (h : Uses nested s held held' t) (hv : v.MadeOf held') :
    Uses nested s held held' (t.define name v)
  | defineGlobal {held' t name v} (h : Uses nested s held held' t) (hv : v.MadeOf held') :
    Uses nested s held held' (t.defineGlobal name v)
  | assign {held' t name v} (h : Uses nested s held held' t) (hv : v.MadeOf held') :
    Uses nested s held held' (t.assign name v).1
  | get {held' t name v} (h : Uses nested s held held' t) (hv : t.get? name = some v) :
    Uses nested s held (v :: held') t
  -- timers, and all else that is not in the context
  | timer {held' t} {id : TimerId} {timer : Timer} (h : Uses nested s held held' t)
    (htimer : t.host.timers.pending[id]? = some timer) :
    Uses nested s held (timer.call.values ++ held') t
  | aside {held' t u} (h : Uses nested s held held' t) (hcontext : u.context = t.context)
    (hheap : u.host.heap = t.host.heap)
    (htimers : ∀ (id : TimerId) (timer : Timer), u.host.timers.pending[id]? = some timer →
      t.host.timers.pending[id]? = some timer ∨ ∀ v ∈ timer.call.values, v.MadeOf held') :
    Uses nested s held held' u
  -- runs on new contexts
  | run {held' t S n job script v u} (h : Uses nested s held held' t) (hS : nested S)
    (hjob : ∀ v ∈ (Task.job n job).values, v.MadeOf held')
    (hrun : job.run S n (Scene.enter t.host script) = .done v u) :
    Uses nested s held (v :: held') ⟨t.context, u.host⟩
  | failedRun {held' t S n job script e u} (h : Uses nested s held held' t) (hS : nested S)
    (hjob : ∀ v ∈ (Task.job n job).values, v.MadeOf held')
    (hrun : job.run S n (Scene.enter t.host script) = .failed e u) :
    Uses nested s held held' ⟨t.context, u.host⟩

/-- What is left behind, and the value, come from such uses. -/
def Outcome.Tame (nested : Setting → Prop) (s : Scene) (held : List Value) :
    Outcome Scene BuiltinError Value → Prop
  | .done v t => ∃ held', s.Uses nested held held' t ∧ v.MadeOf held'
  | .failed _ t => ∃ held', s.Uses nested held held' t
  | .outOfFuel => True

/-- A built-in that uses the context in these ways only. -/
def Builtin.Tame (nested : Setting → Prop) (held : List Value) (f : Builtin) : Prop :=
  ∀ args s, (f args s).Tame nested s (args ++ held)

/-- All built-ins are tame, and so are those of the runs that they start, to some depth. -/
def Builtins.Tame (held : List Value) : Nat → Builtins → Prop
  | 0, table => ∀ entry ∈ table, Builtin.Tame (fun _ => False) held entry.2
  | depth + 1, table =>
    ∀ entry ∈ table, Builtin.Tame (fun S => Tame held depth S.builtins) held entry.2

/-! ### Closures of values -/

namespace Value

variable {held : List Value} {v : Value}

/-- A closure that is carried mentions its scope. -/
theorem Carries.mentions {f : Closure} (h : v.Carries f) :
  v.Mentions f.scope
  := by
  induction h with
  | self => exact .scope rfl
  | item hv _ ih => exact .item hv ih
  | entry hv _ ih => exact .entry hv ih

/-- A value that mentions no scope is made of anything. -/
theorem madeOf_of_not_mentions (h : ∀ x, ¬ v.Mentions x) :
  v.MadeOf held
  := by
  intro f hf
  exact absurd hf.mentions (h f.scope)

theorem madeOf_of_isAtom (h : v.isAtom = true) :
  v.MadeOf held
  := madeOf_of_not_mentions (not_mentions_of_isAtom h)

theorem madeOf_of_mem (h : v ∈ held) :
  v.MadeOf held
  := fun _ hf => ⟨v, h, hf⟩

/-- What is made of some values is made of them and more. -/
theorem MadeOf.append (h : v.MadeOf held) (more : List Value) :
  v.MadeOf (held ++ more)
  := by
  intro f hf
  obtain ⟨w, hw, hwf⟩ := h f hf
  exact ⟨w, List.mem_append_left more hw, hwf⟩

end Value

/-! ### Standard built-ins -/

namespace Builtin.Tame

variable {nested : Setting → Prop} {held : List Value}

/-- A built-in that is a function is tame if its results are made of its arguments. -/
theorem ofFunction {f : List Value → Except BuiltinError Value}
    (h : ∀ args v, f args = .ok v → v.MadeOf args) :
  Tame nested held (Builtin.ofFunction f)
  := by
  intro args s
  rw [Builtin.ofFunction]
  cases hf : f args with
  | error e => exact ⟨_, .nothing⟩
  | ok v => exact ⟨_, .nothing, (h args v hf).append held⟩

/-- A function whose results have no parts and refer to no scope is tame. -/
theorem of_isAtom {f : List Value → Except BuiltinError Value}
    (h : ∀ args v, f args = .ok v → v.isAtom = true) :
  Tame nested held (Builtin.ofFunction f)
  := by
  apply ofFunction
  intro args v hv
  exact Value.madeOf_of_isAtom (h args v hv)

end Builtin.Tame

namespace Standard

variable {nested : Setting → Prop} {held : List Value}

/-- A list with one more item is made of the list and the item. -/
theorem madeOf_push {args : List Value} {v : Value} (h : push args = .ok v) :
  v.MadeOf args
  := by
  obtain ⟨_, -, h⟩ := Except.exists_of_bind h
  obtain ⟨items, hitems, h⟩ := Except.exists_of_bind h
  obtain ⟨last, hlast, h⟩ := Except.exists_of_bind h
  cases h
  intro f hf
  cases hf with
  | item hv hf =>
    obtain hv | rfl := Array.mem_push.mp hv
    · exact ⟨_, mem_of_list hitems, .item hv hf⟩
    · exact ⟨_, mem_of_get hlast, hf⟩

/-- The standard built-ins do nothing with the context. -/
theorem tame :
  ∀ entry ∈ builtins, Builtin.Tame nested held entry.2
  := by
  unfold builtins
  simp only [List.forall_mem_cons, List.not_mem_nil, false_imp_iff, implies_true, and_true]
  refine ⟨?print, .of_isAtom fun _ _ => isAtom_len, .of_isAtom fun _ _ => isAtom_str,
    .of_isAtom fun _ _ => isAtom_int, .of_isAtom fun _ _ => isAtom_float,
    .of_isAtom fun _ _ => isAtom_typeOf, .ofFunction fun _ _ => madeOf_push, ?keys,
    .of_isAtom fun _ _ => isAtom_contains, ?range, .of_isAtom fun _ _ => isAtom_abs,
    .of_isAtom fun _ _ => isAtom_extremum, .of_isAtom fun _ _ => isAtom_extremum⟩
  case print =>
    intro args s
    exact ⟨_, .aside .nothing rfl rfl fun _ _ => .inl, Value.madeOf_of_isAtom rfl⟩
  case keys =>
    exact .ofFunction fun _ _ hv => Value.madeOf_of_not_mentions (not_mentions_keys hv)
  case range =>
    exact .ofFunction fun _ _ hv => Value.madeOf_of_not_mentions (not_mentions_range hv)

end Standard

/-! ### Built-ins that look at the scene -/

namespace Hosted

variable {nested : Setting → Prop} {held : List Value} {s : Scene}

/-- What is done with what is read from the arguments. -/
theorem tame_ofExcept {α : Type} {x : Except BuiltinError α}
    {f : α → Action Scene BuiltinError Value}
    (h : ∀ a, x = .ok a → (f a s).Tame nested s held) :
  ((Action.ofExcept x >>= f) s).Tame nested s held
  := by
  cases x with
  | error e => exact ⟨_, .nothing⟩
  | ok a => exact h a rfl

theorem tame_modify {f : Scene → Scene} {g : Unit → Action Scene BuiltinError Value} {t : Scene}
    (h : (g () (f t)).Tame nested s held) :
  ((Action.modify f >>= g) t).Tame nested s held
  := h

theorem tame_gets {α : Type} {f : Scene → α} {g : α → Action Scene BuiltinError Value}
    {t : Scene} (h : ∀ v, (g v t).Tame nested s held) :
  ((Action.gets f >>= g) t).Tame nested s held
  := h (f t)

/-- The value that is bound to a name is one of the arguments. -/
theorem mem_of_nameAndValue {args : List Value} {p : String × Value}
    (h : nameAndValue args = .ok p) :
  p.2 ∈ args
  := by
  obtain ⟨_, -, h⟩ := Except.exists_of_bind h
  obtain ⟨name, -, h⟩ := Except.exists_of_bind h
  obtain ⟨v, hv, h⟩ := Except.exists_of_bind h
  cases h
  exact Standard.mem_of_get hv

/-- Built-ins on the context are tame: they use it in ways that a host may. -/
theorem tame_contextBuiltins :
  ∀ entry ∈ contextBuiltins, Builtin.Tame nested held entry.2
  := by
  unfold contextBuiltins
  simp only [List.forall_mem_cons, List.not_mem_nil, false_imp_iff, implies_true, and_true]
  refine ⟨?whoami, ?setGlobal, ?defineHere, ?assignHere, ?lookupHere, ?scopeDepth, ?scopePush,
    ?scopePop, ?frames, ?failHost, ?failInvalid⟩
  case whoami | scopeDepth => exact fun _ _ => ⟨_, .nothing, Value.madeOf_of_isAtom rfl⟩
  case scopePush => exact fun _ _ => ⟨_, .pushScope .nothing, Value.madeOf_of_isAtom rfl⟩
  case scopePop => exact fun _ _ => ⟨_, .popScope .nothing, Value.madeOf_of_isAtom rfl⟩
  case failHost | failInvalid => exact fun _ _ => tame_ofExcept fun _ _ => ⟨_, .nothing⟩
  case frames =>
    intro args s
    refine ⟨_, .nothing, Value.madeOf_of_not_mentions (Value.not_mentions_of_atoms ?_)⟩
    intro v hv
    rw [List.mem_toArray, List.mem_map] at hv
    obtain ⟨frame, -, rfl⟩ := hv
    rfl
  case setGlobal =>
    intro args s
    apply tame_ofExcept
    rintro ⟨name, v⟩ hread
    have hv := Value.madeOf_of_mem (List.mem_append_left held (mem_of_nameAndValue hread))
    exact ⟨_, .defineGlobal .nothing hv, Value.madeOf_of_isAtom rfl⟩
  case defineHere =>
    intro args s
    apply tame_ofExcept
    rintro ⟨name, v⟩ hread
    have hv := Value.madeOf_of_mem (List.mem_append_left held (mem_of_nameAndValue hread))
    exact ⟨_, .define .nothing hv, Value.madeOf_of_isAtom rfl⟩
  case assignHere =>
    intro args s
    apply tame_ofExcept
    rintro ⟨name, v⟩ hread
    have hv := Value.madeOf_of_mem (List.mem_append_left held (mem_of_nameAndValue hread))
    have hassigned : s.Uses nested (args ++ held) (args ++ held) (s.assign name v).1 :=
      .assign .nothing hv
    show Outcome.Tame nested s (args ++ held) ((if s.has name = true then pure .null else
      Action.fail _ : Action Scene BuiltinError Value) (s.assign name v).1)
    split
    · exact ⟨_, hassigned, Value.madeOf_of_isAtom rfl⟩
    · exact ⟨_, hassigned⟩
  case lookupHere =>
    intro args s
    apply tame_ofExcept
    intro name _
    show ∃ held', s.Uses nested (args ++ held) held' s ∧ ((s.get? name).getD .null).MadeOf held'
    cases hv : s.get? name with
    | none => exact ⟨_, .nothing, Value.madeOf_of_isAtom rfl⟩
    | some v => exact ⟨_, .get .nothing hv, Value.madeOf_of_mem List.mem_cons_self⟩

/-- A delayed call is made of the arguments. -/
theorem madeOf_delayedCall {args : List Value} {p : Nat × DeferredCall}
    (h : delayedCall args = .ok p) :
  ∀ v ∈ p.2.values, v.MadeOf args
  := by
  obtain ⟨_, -, h⟩ := Except.exists_of_bind h
  obtain ⟨delay, -, h⟩ := Except.exists_of_bind h
  split at h
  · cases h
  · obtain ⟨target, htarget, h⟩ := Except.exists_of_bind h
    have hdrop : ∀ v ∈ args.drop 2, v.MadeOf args := by
      intro v hv
      exact Value.madeOf_of_mem (List.mem_of_mem_drop hv)
    cases target with
    | closure f =>
      cases h
      exact List.forall_mem_cons.mpr
        ⟨Value.madeOf_of_mem (Standard.mem_of_get htarget), hdrop⟩
    | str | builtin =>
      cases h
      exact hdrop
    | _ => cases h

/-- A call that is scheduled keeps values that are made of the arguments. -/
theorem uses_schedule {delay : Nat} {call : DeferredCall}
    (hcall : ∀ v ∈ call.values, v.MadeOf held) :
  s.Uses nested held held
    { s with host.timers := s.host.timers.schedule delay s.context.script call }
  := by
  refine .aside .nothing rfl rfl ?_
  intro id timer htimer
  rw [TimerQueue.pending_schedule] at htimer
  split at htimer
  · cases htimer
    exact .inr hcall
  · exact .inl htimer

/-- A call that is scheduled is made of arguments of the built-in. -/
theorem tame_after :
  Builtin.Tame nested held after
  := by
  intro args s
  unfold after
  -- the range of whole numbers is too large to compute with, and does not matter
  generalize Whole.ofInt? = number?
  apply tame_ofExcept
  rintro ⟨delay, call⟩ hread
  have hscheduled : s.Uses nested (args ++ held) (args ++ held)
      { s with host.timers := s.host.timers.schedule delay s.context.script call } :=
    uses_schedule fun v hv => (madeOf_delayedCall hread v hv).append held
  refine tame_modify (tame_gets fun id => ?_)
  cases number? id with
  | some n => exact ⟨_, hscheduled, Value.madeOf_of_isAtom rfl⟩
  | none => exact ⟨_, hscheduled⟩

/-- The cancellation of a timer uses no values. -/
theorem tame_cancelTimer :
  Builtin.Tame nested held cancelTimer
  := by
  intro args s
  apply tame_ofExcept
  intro id _
  dsimp only
  split
  · exact ⟨_, .nothing, Value.madeOf_of_isAtom rfl⟩
  · refine ⟨_, .aside .nothing rfl rfl ?_, Value.madeOf_of_isAtom rfl⟩
    intro other timer htimer
    rw [TimerQueue.pending_cancel] at htimer
    split at htimer
    · cases htimer
    · exact .inl htimer

theorem tame_timerBuiltins :
  ∀ entry ∈ timerBuiltins, Builtin.Tame nested held entry.2
  := by
  unfold timerBuiltins
  simp only [List.forall_mem_cons, List.not_mem_nil, false_imp_iff, implies_true, and_true]
  exact ⟨tame_after, tame_cancelTimer⟩

/-- Built-ins on runs are tame: they use no values and leave the context alone. -/
theorem tame_runBuiltins :
  ∀ entry ∈ runBuiltins, Builtin.Tame nested held entry.2
  := by
  unfold runBuiltins
  simp only [List.forall_mem_cons, List.not_mem_nil, false_imp_iff, implies_true, and_true]
  refine ⟨?stopMe, ?stop, ?isRunning, ?running⟩
  case stopMe =>
    exact fun _ _ => ⟨_, .aside .nothing rfl rfl fun _ _ => .inl, Value.madeOf_of_isAtom rfl⟩
  case stop =>
    exact fun _ _ => tame_ofExcept fun _ _ =>
      ⟨_, .aside .nothing rfl rfl fun _ _ => .inl, Value.madeOf_of_isAtom rfl⟩
  case isRunning =>
    exact fun _ _ => tame_ofExcept fun _ _ => ⟨_, .nothing, Value.madeOf_of_isAtom rfl⟩
  case running =>
    intro args s
    refine ⟨_, .nothing, Value.madeOf_of_not_mentions (Value.not_mentions_of_atoms ?_)⟩
    intro v hv
    rw [List.mem_toArray, List.mem_map] at hv
    obtain ⟨script, -, rfl⟩ := hv
    rfl

end Hosted

/-! ### The built-ins of a session -/

/-- The value that describes a failure mentions no scope. -/
theorem not_mentions_failureValue (e : Error) (x : ScopeId) :
  ¬ (failureValue e).Mentions x
  := by
  intro hx
  cases hx with
  | entry hv hx =>
    simp only [List.mem_cons, List.not_mem_nil, or_false, Prod.mk.injEq] at hv
    obtain ⟨-, rfl⟩ | ⟨-, rfl⟩ := hv
    · exact Value.not_mentions_of_isAtom rfl x hx
    · exact Value.not_mentions_of_isAtom rfl x hx

namespace Rules

/-- Plain entries are tame. -/
def Tame (R : Rules) (held : List Value) : Prop :=
  ∀ name f, (name, TableEntry.plain f) ∈ R.table → ∀ nested, Builtin.Tame nested held f

variable {R : Rules} {held : List Value}

/-- All built-ins of a session are tame when the plain ones are, however deep runs are nested. -/
theorem Tame.builtins (hR : R.Tame held) (fuel : Nat) :
  (R.builtins fuel).Tame held fuel
  := by
  induction fuel with
  | zero =>
    intro entry hentry
    obtain ⟨⟨name, e⟩, he, rfl⟩ := List.mem_map.mp hentry
    cases e with
    | plain f => exact hR name f he _
    | nestedRun => exact fun _ _ => Hosted.tame_ofExcept fun _ _ => trivial
  | succ fuel ih =>
    intro entry hentry
    obtain ⟨⟨name, e⟩, he, rfl⟩ := List.mem_map.mp hentry
    cases e with
    | plain f => exact hR name f he _
    | nestedRun =>
      intro args s
      apply Hosted.tame_ofExcept
      rintro ⟨script, p⟩ _
      have hjob : ∀ v ∈ (Task.job fuel (.program p)).values, v.MadeOf (args ++ held) := nofun
      show Outcome.Tame _ s _ (elsewhere script ((Job.program p).run (R.setting fuel) fuel) s)
      rw [elsewhere_eq, Action.bind_apply, visit]
      cases hrun : (Job.program p).run (R.setting fuel) fuel (Scene.enter s.host script) with
      | done v t => exact ⟨_, .run .nothing ih hjob hrun, Value.madeOf_of_mem List.mem_cons_self⟩
      | failed e t =>
        exact ⟨_, .failedRun .nothing ih hjob hrun,
          Value.madeOf_of_not_mentions (not_mentions_failureValue e)⟩
      | outOfFuel => trivial

/-- The entries of the standard table are tame. -/
theorem tame_standardTable (hR : R.table = standardTable) :
  R.Tame held
  := by
  intro name f hf nested
  rw [hR] at hf
  obtain hf | hf | hf | hf := mem_of_standardTable hf
  · exact Standard.tame _ hf
  · exact Hosted.tame_contextBuiltins _ hf
  · exact Hosted.tame_timerBuiltins _ hf
  · exact Hosted.tame_runBuiltins _ hf

end Rules

end StoryScript
