import StoryScript.Proofs.Detached
import StoryScript.Proofs.Upkeep

/-!
# Cut-off by limits

Limits on the number of nested calls and of loop rounds only ever stop a run.  A run under such
limits goes side by side with the same run without limits, in the same state but for the limit
of the call stack, until it would exceed one of the limits; there it fails, while the other run
goes on.  Main statement: a program has the same outcome under the limits when the run without
limits stays within them, and else it fails over one of the limits, and what it printed and
handed off until then is the beginning of what the run without limits printed and handed off.
-/

namespace StoryScript

open Eval

/-! ### What grows in a run -/

/-- What only ever grows in a run: the printed lines, the log of declarations, and what is used
of the budget. -/
structure State.Grows (s t : State) : Prop where
  lines : s.scene.host.console.lines.toList <+: t.scene.host.console.lines.toList
  log : s.scene.host.log.entries <:+ t.scene.host.log.entries
  deepest : s.budget.deepest ≤ t.budget.deepest
  rounds : s.budget.rounds ≤ t.budget.rounds

namespace State.Grows

variable {s t u : State}

/-- Every state has grown from itself. -/
theorem refl (s : State) :
  s.Grows s
  := by
  exact ⟨List.prefix_rfl, List.suffix_rfl, Nat.le_refl _, Nat.le_refl _⟩

/-- Growth may be chained. -/
theorem trans (h : s.Grows t) (h' : t.Grows u) :
  s.Grows u
  := by
  constructor
  · exact h.lines.trans h'.lines
  · exact h.log.trans h'.log
  · exact Nat.le_trans h.deepest h'.deepest
  · exact Nat.le_trans h.rounds h'.rounds

end State.Grows

/-- Printing appends lines. -/
theorem Console.prefix_print (lines : List String) (c : Console) :
  c.lines.toList <+: (lines.foldl Console.print c).lines.toList
  := by
  induction lines generalizing c with
  | nil => exact List.prefix_rfl
  | cons line rest ih =>
    apply List.IsPrefix.trans _ (ih (c.print line))
    rw [Console.print, Array.toList_push]
    apply List.prefix_append

/-- A sink keeps what was declared before, and adds at most one declaration. -/
theorem Sink.suffix_receive (sink : Sink) (script : ScriptId) (d : HandedOff)
    (log : DeclarationLog) :
  log.entries <:+ (sink.receive script d log).1.entries
  := by
  unfold receive
  split
  · exact List.suffix_cons _ _
  · exact List.suffix_rfl

/-- With detached built-ins, printed lines, declarations and used budget only ever grow. -/
theorem upkeep_grows {S : Setting} (hS : S.builtins.Detached) :
  Upkeep S State.Grows
  where
  refl := .refl
  trans := .trans
  checked s := ⟨List.prefix_rfl, List.suffix_rfl, Nat.le_refl _, Nat.le_refl _⟩
  ticked s := ⟨List.prefix_rfl, List.suffix_rfl, Nat.le_refl _, s.budget.rounds_le_rounds_counted⟩
  defined s name v := ⟨List.prefix_rfl, List.suffix_rfl, Nat.le_refl _, Nat.le_refl _⟩
  assigned s name v := ⟨List.prefix_rfl, List.suffix_rfl, Nat.le_refl _, Nat.le_refl _⟩
  logged s d := ⟨List.prefix_rfl, S.sink.suffix_receive _ d _, Nat.le_refl _, Nat.le_refl _⟩
  dispatch name args := by
    obtain ⟨x, lines, hanswer, -⟩ := hS.exists_answer name args
    intro s t ht
    rw [onScene_apply, hanswer] at ht
    have hprinted : s.Grows { s with scene := s.scene.printAll lines } :=
      ⟨Console.prefix_print lines _, List.suffix_rfl, Nat.le_refl _, Nat.le_refl _⟩
    cases x with
    | ok v =>
      cases ht
      exact hprinted
    | error e =>
      cases ht
      exact hprinted
  scope h := ⟨h.lines, h.log, h.deepest, h.rounds⟩
  frame _ h := ⟨h.lines, h.log, Nat.le_trans (Nat.le_max_left _ _) h.deepest, h.rounds⟩
  closure f h := ⟨h.lines, h.log, h.deepest, h.rounds⟩

/-! ### Runs that are cut off -/

/-- The state with a limit on nested calls. -/
def State.capped (s : State) (depth : Nat) : State :=
  { s with scene.context.calls.limit := some depth }

/-- The setting under other limits. -/
def Setting.under (S : Setting) (limits : Limits) : Setting := { S with limits := limits }

/-- Limits on nested calls and on loop rounds. -/
structure Caps where
  /-- The greatest number of nested calls. -/
  depth : Nat
  /-- The greatest number of loop rounds. -/
  rounds : Nat

namespace Caps

/-- The caps as limits without a deadline. -/
def limits (K : Caps) : Limits := ⟨some K.depth, some K.rounds, none⟩

variable {K : Caps} {S : Setting} {α β γ δ : Type} {P : α → β → Prop} {Q : γ → δ → Prop}

/-- A state of a run without limits that nobody asked to stop and that is within the caps so
far. -/
structure Fits (K : Caps) (s : State) : Prop where
  uncapped : s.calls.limit = none
  going : s.budget.isStopped s.scene.host.runs = false
  deepest : s.budget.deepest ≤ K.depth
  iterations : s.budget.iterations ≤ K.rounds

/-- A run that failed over one of the caps, while the run without limits went on to a state
beyond them. -/
structure Stops (K : Caps) (e : Error) (t' t : State) : Prop where
  cause : e.cause = .stackOverflow K.depth ∨ e.cause = .interrupted (.iterations K.rounds)
  beyond : K.depth < t.budget.deepest ∨ K.rounds < t.budget.rounds
  lines : t'.scene.host.console.lines.toList <+: t.scene.host.console.lines.toList
  log : t'.scene.host.log.entries <:+ t.scene.host.log.entries

/-- A run that was stopped stays so, while the one without limits goes on. -/
theorem Stops.grows {e : Error} {t' t u : State} (h : K.Stops e t' t) (hgrows : t.Grows u) :
  K.Stops e t' u
  := by
  constructor
  · exact h.cause
  · obtain hdeep | hlong := h.beyond
    · exact .inl (Nat.lt_of_lt_of_le hdeep hgrows.deepest)
    · exact .inr (Nat.lt_of_lt_of_le hlong hgrows.rounds)
  · exact h.lines.trans hgrows.lines
  · exact h.log.trans hgrows.log

/-- The outcome of a run without limits, and what becomes of it under the caps. -/
inductive Cut (K : Caps) (P : α → β → Prop) :
    Outcome State Error α → Outcome State Error β → Prop where
  | done {v : α} {v' : β} {t : State} (ht : K.Fits t) (hv : P v v') :
    Cut K P (.done v t) (.done v' (t.capped K.depth))
  | failed (e : Error) {t : State} (ht : K.Fits t) :
    Cut K P (.failed e t) (.failed e (t.capped K.depth))
  | outOfFuel {o' : Outcome State Error β} : Cut K P .outOfFuel o'
  | stopped {o : Outcome State Error α} {e : Error} {t' t : State} (ht : o.state? = some t)
    (h : K.Stops e t' t) : Cut K P o (.failed e t')

namespace Cut

/-- Once a run is cut off, it stays so whatever the other one does. -/
theorem of_stops {o : Outcome State Error α} {e : Error} {t' t : State} (h : K.Stops e t' t)
    (hgrows : ∀ u, o.state? = some u → t.Grows u) :
  K.Cut P o (.failed e t')
  := by
  cases o with
  | done v u => exact .stopped rfl (h.grows (hgrows u rfl))
  | failed e u => exact .stopped rfl (h.grows (hgrows u rfl))
  | outOfFuel => exact .outOfFuel

end Cut

/-- A change of the environment or the active calls, which leaves everything else alone. -/
structure Tidy (K : Caps) (cleanup : State → State) : Prop where
  budget : ∀ t, (cleanup t).budget = t.budget
  host : ∀ t, (cleanup t).scene.host = t.scene.host
  limit : ∀ t, (cleanup t).calls.limit = t.calls.limit
  capped : ∀ t, cleanup (t.capped K.depth) = (cleanup t).capped K.depth

namespace Tidy

variable {cleanup : State → State} {s t t' : State} {e e' : Error}

/-- A tidy cleanup leaves a state within the limits as it was. -/
theorem fits (h : K.Tidy cleanup) (ht : K.Fits t) :
  K.Fits (cleanup t)
  := by
  constructor
  · rw [h.limit, ht.uncapped]
  · rw [h.budget, h.host, ht.going]
  · rw [h.budget]
    exact ht.deepest
  · rw [h.budget]
    exact ht.iterations

/-- A tidy cleanup does not hide that a run was stopped. -/
theorem stops (h : K.Tidy cleanup) (hstops : K.Stops e t' t) (hcause : e'.cause = e.cause) :
  K.Stops e' (cleanup t') (cleanup t)
  := by
  constructor
  · rw [hcause]
    exact hstops.cause
  · rw [h.budget]
    exact hstops.beyond
  · rw [h.host, h.host]
    exact hstops.lines
  · rw [h.host, h.host]
    exact hstops.log

end Tidy

/-- What is cut off is so after errors are learned and states are cleaned up alike. -/
theorem Cut.treated {learn : State → Error → Error} {cleanup : State → State}
    {o : Outcome State Error α} {o' : Outcome State Error β} (h : K.Cut P o o')
    (hlearn : ∀ t e, learn (t.capped K.depth) e = learn t e)
    (hcause : ∀ t e, (learn t e).cause = e.cause) (hclean : K.Tidy cleanup) :
  K.Cut P (o.treated learn cleanup) (o'.treated learn cleanup)
  := by
  cases h with
  | done ht hv =>
    rw [Outcome.treated, Outcome.treated, hclean.capped]
    exact .done (hclean.fits ht) hv
  | failed e ht =>
    rw [Outcome.treated, Outcome.treated, hclean.capped, hlearn]
    exact .failed _ (hclean.fits ht)
  | outOfFuel => exact .outOfFuel
  | @stopped o e t' t ht h =>
    apply Cut.stopped _ (hclean.stops h (hcause t' e))
    rw [Outcome.state?_treated, ht]
    rfl

/-! ### The machine with and without caps -/

namespace Fits

variable {s : State}

/-- Without a deadline and a stop request, calls are let pass. -/
theorem callVerdict (h : K.Fits s) (limits : Limits) (hlimits : limits.deadline = none)
    (clock : Nat → Nat) :
  s.budget.callVerdict limits clock s.scene.host.runs = none
  := by
  rw [Budget.callVerdict, h.going, hlimits]
  rfl

/-- Without limits a checkpoint in a loop only counts the round. -/
theorem tick_unlimited (h : K.Fits s) :
  tick (S.under .unlimited) s = .done () s.ticked
  := by
  have hverdict : s.budget.counted.roundVerdict .unlimited S.clock s.scene.host.runs = none :=
    h.callVerdict .unlimited rfl S.clock
  rw [tick_apply, Setting.under, hverdict]

/-- Under limits a checkpoint fails exactly if there are more rounds than allowed. -/
theorem tick_limits (h : K.Fits s) :
  tick (S.under K.limits) (s.capped K.depth)
    = if K.rounds < s.budget.counted.iterations then
        .failed (Error.ofCause (.interrupted (.iterations K.rounds))) (s.ticked.capped K.depth)
      else .done () (s.ticked.capped K.depth)
  := by
  have hverdict : s.budget.counted.roundVerdict K.limits S.clock s.scene.host.runs
      = if K.rounds < s.budget.counted.iterations then some (.iterations K.rounds) else none := by
    have hcall := h.callVerdict K.limits rfl S.clock
    show (if K.rounds < s.budget.counted.iterations then _
      else s.budget.callVerdict K.limits S.clock s.scene.host.runs) = _
    rw [hcall]
  have hcapped : (s.capped K.depth).budget.counted.roundVerdict (S.under K.limits).limits
      (S.under K.limits).clock (s.capped K.depth).scene.host.runs = _ := hverdict
  rw [tick_apply, hcapped]
  rcases Nat.lt_or_ge K.rounds s.budget.counted.iterations with hbeyond | hwithin
  · rw [if_pos hbeyond, if_pos hbeyond]
    rfl
  · rw [if_neg (Nat.not_lt.mpr hwithin), if_neg (Nat.not_lt.mpr hwithin)]
    rfl

/-- Without limits a call always gets its frame. -/
theorem inFrame_unlimited (h : K.Fits s) (frame : Frame) (a : Eval α) :
  inFrame (S.under .unlimited) frame a s
    = (a (s.checked.entered ⟨frame :: s.calls.frames, none⟩)).treated
        (fun t e => t.calls.attach e) State.left
  := by
  have hverdict := h.callVerdict .unlimited rfl S.clock
  have hpush : s.calls.push frame = .ok ⟨frame :: s.calls.frames, none⟩ := by
    rw [CallStack.push, h.uncapped]
  rw [inFrame_apply, Setting.under, hverdict, hpush]

/-- Under limits a call is refused exactly if the stack is full. -/
theorem inFrame_limits (h : K.Fits s) (frame : Frame) (a : Eval α) :
  inFrame (S.under K.limits) frame a (s.capped K.depth)
    = if K.depth ≤ s.calls.depth then
        .failed (Error.ofCause (.stackOverflow K.depth)) (s.checked.capped K.depth)
      else
        (a ((s.checked.entered ⟨frame :: s.calls.frames, none⟩).capped K.depth)).treated
          (fun t e => t.calls.attach e) State.left
  := by
  have hverdict := h.callVerdict K.limits rfl S.clock
  have hpush : (s.capped K.depth).calls.push frame
      = if K.depth ≤ s.calls.depth then .error (.stackOverflow K.depth)
        else .ok ⟨frame :: s.calls.frames, some K.depth⟩ := rfl
  have hcapped : (s.capped K.depth).budget.callVerdict (S.under K.limits).limits
      (S.under K.limits).clock (s.capped K.depth).scene.host.runs = none := hverdict
  rw [inFrame_apply, hcapped, hpush]
  rcases Nat.lt_or_ge s.calls.depth K.depth with hwithin | hbeyond
  · rw [if_neg (Nat.not_le.mpr hwithin), if_neg (Nat.not_le.mpr hwithin)]
    rfl
  · rw [if_pos hbeyond, if_pos hbeyond]
    rfl

end Fits

/-! ### Evaluations under the caps -/

/-- The first evaluation never takes anything back, and the second one follows it up to the
caps. -/
structure Follows (K : Caps) (P : α → β → Prop) (a : Eval α) (b : Eval β) : Prop where
  grows : Upkeep.Holds State.Grows P a
  cut : ∀ s, K.Fits s → K.Cut P (a s) (b (s.capped K.depth))

/-- A sequence follows the one without limits if the first action does, and the second one on
related values. -/
theorem cut_bind {a : Eval α} {b : Eval β} {f : α → Eval γ} {g : β → Eval δ}
    (h : K.Follows P a b) (hfg : ∀ x y, P x y → K.Follows Q (f x) (g y)) (s : State)
    (hs : K.Fits s) :
  K.Cut Q ((a >>= f) s) ((b >>= g) (s.capped K.depth))
  := by
  have hcut := h.cut s hs
  have hgrows := h.grows s
  rw [Action.bind_apply, Action.bind_apply]
  generalize a s = o at hcut hgrows
  generalize b (s.capped K.depth) = o' at hcut
  cases hcut with
  | done ht hv => exact (hfg _ _ hv).cut _ ht
  | failed e ht => exact .failed e ht
  | outOfFuel => exact .outOfFuel
  | @stopped _ e t' t ht hstops =>
    -- the capped run is over, and the other one goes on with a value that has no counterpart
    cases o with
    | done v u =>
      cases ht
      obtain ⟨-, v', hv⟩ := hgrows
      apply Cut.of_stops hstops
      intro u hu
      exact ((hfg v v' hv).grows t).state hu
    | failed e u => exact .stopped ht hstops
    | outOfFuel => exact .outOfFuel

/-- A checkpoint in a loop is passed in both runs or cut off in the limited one. -/
theorem cut_tick (s : State) (hs : K.Fits s) :
  K.Cut (fun _ _ => True) (tick (S.under .unlimited) s)
    (tick (S.under K.limits) (s.capped K.depth))
  := by
  rw [hs.tick_unlimited, hs.tick_limits]
  split
  · rename_i hbeyond
    apply Cut.stopped rfl
    refine ⟨.inr rfl, .inr ?_, List.prefix_rfl, List.suffix_rfl⟩
    exact Nat.lt_min.mpr ⟨hbeyond, Nat.lt_of_lt_of_le hbeyond (Nat.min_le_right _ _)⟩
  · rename_i hwithin
    exact .done ⟨hs.uncapped, hs.going, hs.deepest, Nat.not_lt.mp hwithin⟩ trivial

/-- A call is made in both runs or cut off in the limited one. -/
theorem cut_inFrame (frame : Frame) {a : Eval α} {b : Eval β} (h : K.Follows P a b) (s : State)
    (hs : K.Fits s) :
  K.Cut P (inFrame (S.under .unlimited) frame a s)
    (inFrame (S.under K.limits) frame b (s.capped K.depth))
  := by
  have hdepth : s.calls.depth + 1 ≤
      (s.checked.entered ⟨frame :: s.calls.frames, none⟩).budget.deepest :=
    Nat.le_max_right _ _
  rw [hs.inFrame_unlimited, hs.inFrame_limits]
  split
  · rename_i hbeyond
    have hstops : K.Stops (Error.ofCause (.stackOverflow K.depth)) (s.checked.capped K.depth)
        (s.checked.entered ⟨frame :: s.calls.frames, none⟩) :=
      ⟨.inl rfl, .inl (Nat.lt_of_lt_of_le (Nat.lt_succ_of_le hbeyond) hdepth),
        List.prefix_rfl, List.suffix_rfl⟩
    -- the call that is refused under the caps is made without them, and counts as nested there
    apply Cut.of_stops hstops
    intro u hu
    rw [Outcome.state?_treated, Option.map_eq_some_iff] at hu
    obtain ⟨t, ht, rfl⟩ := hu
    have hgrows := (h.grows _).state ht
    exact ⟨hgrows.lines, hgrows.log, hgrows.deepest, hgrows.rounds⟩
  · rename_i hwithin
    have hentered : K.Fits (s.checked.entered ⟨frame :: s.calls.frames, none⟩) := by
      refine ⟨rfl, hs.going, ?_, hs.iterations⟩
      exact Nat.max_le.mpr ⟨hs.deepest, Nat.not_le.mp hwithin⟩
    apply (h.cut _ hentered).treated
    · intro t e
      rfl
    · intro t e
      apply CallStack.cause_attach
    · exact ⟨fun _ => rfl, fun _ => rfl, fun _ => rfl, fun _ => rfl⟩

/-- A detached built-in does the same in both runs, as it does not look at the call stack. -/
theorem follows_dispatch (hS : S.builtins.Detached) (name : String) (args : List Value) :
  K.Follows (Value.Related Eq) (onScene (S.builtins.dispatch name args))
    (onScene (S.builtins.dispatch name args))
  := by
  constructor
  · intro s
    apply Outcome.Meets.of_state
    · exact (upkeep_grows hS).dispatch name args s
    · intro v
      exact ⟨v, .refl (fun _ => rfl) v⟩
  · intro s hs
    obtain ⟨x, lines, hanswer, -⟩ := hS.exists_answer name args
    have hprinted : K.Fits { s with scene := s.scene.printAll lines } :=
      ⟨hs.uncapped, hs.going, hs.deepest, hs.iterations⟩
    rw [onScene_apply, onScene_apply, hanswer]
    cases x with
    | ok v => exact .done hprinted (.refl (fun _ => rfl) v)
    | error e => exact .failed e hprinted

/-- A hand-off does the same in both runs. -/
theorem cut_handOff (d : HandedOff) (s : State) (hs : K.Fits s) :
  K.Cut (fun _ _ => True) (handOff (S.under .unlimited) d s)
    (handOff (S.under K.limits) d (s.capped K.depth))
  := by
  have hlogged : ∀ log, K.Fits (s.logged log) :=
    fun log => ⟨hs.uncapped, hs.going, hs.deepest, hs.iterations⟩
  rw [handOff_apply, handOff_apply, State.capped, Setting.under, Setting.under]
  cases (S.sink.receive s.scene.context.script d s.scene.host.log).2 with
  | ok => exact .done (hlogged _) trivial
  | error e => exact .failed _ (hlogged _)

/-- An assignment does the same in both runs. -/
theorem cut_assign (name : String) (v : Value) (s : State) (hs : K.Fits s) :
  K.Cut (fun _ _ => True) (assign name v s) (assign name v (s.capped K.depth))
  := by
  have hassigned : K.Fits (s.assigned name v) :=
    ⟨hs.uncapped, hs.going, hs.deepest, hs.iterations⟩
  have hfound : ((s.capped K.depth).scene.assign name v).2 = (s.scene.assign name v).2 := rfl
  rw [assign_apply, assign_apply, hfound]
  split
  · exact .done hassigned trivial
  · exact .failed _ hassigned

/-- A place changes nothing about where a run is cut off, and not the cause. -/
theorem cut_located (span : Span) {a : Eval α} {b : Eval β} (h : K.Follows P a b) (s : State)
    (hs : K.Fits s) :
  K.Cut P (located span a s) (located span b (s.capped K.depth))
  := by
  rw [located_apply, located_apply]
  apply (h.cut s hs).treated
  · intro t e
    rfl
  · intro t e
    apply Error.cause_orSpan
  · exact ⟨fun _ => rfl, fun _ => rfl, fun _ => rfl, fun _ => rfl⟩

/-- A new scope changes nothing about where a run is cut off. -/
theorem cut_inScope {a : Eval α} {b : Eval β} (h : K.Follows P a b) (s : State)
    (hs : K.Fits s) :
  K.Cut P (inScope a s) (inScope b (s.capped K.depth))
  := by
  have hpushed : K.Fits s.pushed := ⟨hs.uncapped, hs.going, hs.deepest, hs.iterations⟩
  rw [inScope_apply, inScope_apply]
  apply (h.cut s.pushed hpushed).treated
  · intro t e
    rfl
  · intro t e
    rfl
  · exact ⟨fun _ => rfl, fun _ => rfl, fun _ => rfl, fun _ => rfl⟩

/-- A closure changes nothing about where a run is cut off. -/
theorem cut_inClosure (f : Closure) {a : Eval α} {b : Eval β} (h : K.Follows P a b) (s : State)
    (hs : K.Fits s) :
  K.Cut P (inClosure f a s) (inClosure f b (s.capped K.depth))
  := by
  have hinside : K.Fits (s.inside f) := ⟨hs.uncapped, hs.going, hs.deepest, hs.iterations⟩
  rw [inClosure_apply, inClosure_apply]
  apply (h.cut (s.inside f) hinside).treated
  · intro t e
    rfl
  · intro t e
    rfl
  · exact ⟨fun _ => rfl, fun _ => rfl, fun _ => rfl, fun _ => rfl⟩

/-- Without limits, what is printed, declared and used up only grows. -/
theorem upkeep_unlimited (hS : S.builtins.Detached) :
  Upkeep (S.under .unlimited) State.Grows
  := by
  exact upkeep_grows hS

/-- The simulation of a run without limits by the same run under caps. -/
def simulation (K : Caps) (hS : S.builtins.Detached) :
    Simulation (S.under .unlimited) (S.under K.limits) where
  World := Unit
  order := Simulation.oneWorld
  closures _ := Eq
  rel _ P a b := K.Follows (P ()) a b
  closures_mono _ h := h
  closures_decl h := congrArg Closure.decl h
  closures_same h h' := congrArg₂ Closure.same h h'
  builtins := .refl S
  pure h := ⟨fun s => ⟨.refl s, _, h⟩, fun _ hs => .done hs h⟩
  bind ha hf :=
    ⟨(upkeep_unlimited hS).holds_bind ha.grows fun v v' hv => (hf () trivial v v' hv).grows,
      cut_bind ha fun v v' hv => hf () trivial v v' hv⟩
  throw _ := ⟨fun s => .refl s, fun _ hs => .failed _ hs⟩
  exhausted := ⟨fun _ => trivial, fun _ _ => .outOfFuel⟩
  located span h := ⟨Upkeep.holds_located span h.grows, cut_located span h⟩
  tick _ := ⟨(upkeep_unlimited hS).simulation.tick (), cut_tick⟩
  get _ name := by
    constructor
    · exact (upkeep_unlimited hS).simulation.get () name
    · intro s hs
      apply Cut.done hs
      exact Option.rel_same fun v _ => .refl (fun _ => rfl) v
  define {_} name {v _} hv := by
    obtain rfl := hv.eq fun _ _ h => h
    constructor
    · exact (upkeep_unlimited hS).simulation.define (w := ()) name hv
    · intro s hs
      exact .done ⟨hs.uncapped, hs.going, hs.deepest, hs.iterations⟩ trivial
  assign {_} name {v _} hv := by
    obtain rfl := hv.eq fun _ _ h => h
    exact ⟨(upkeep_unlimited hS).simulation.assign (w := ()) name hv, cut_assign name v⟩
  inScope h :=
    ⟨(upkeep_unlimited hS).holds_inScope (h () trivial).grows, cut_inScope (h () trivial)⟩
  inFrame frame h :=
    ⟨(upkeep_unlimited hS).holds_inFrame frame (h () trivial).grows,
      cut_inFrame frame (h () trivial)⟩
  inClosure {_ _ _ _ _ _ f _} hf h := by
    cases hf
    exact ⟨(upkeep_unlimited hS).holds_inClosure f (h () trivial).grows,
      cut_inClosure f (h () trivial)⟩
  closeOver _ decl :=
    ⟨(upkeep_unlimited hS).simulation.closeOver () decl, fun _ hs => .done hs rfl⟩
  callBuiltin {_} name {args _} span hargs := by
    obtain rfl := Value.Related.lists_eq (fun _ _ h => h) hargs
    have hdispatch := follows_dispatch (K := K) hS name args
    exact ⟨(upkeep_unlimited hS).holds_inFrame _ hdispatch.grows, cut_inFrame _ hdispatch⟩
  handOff _ d := ⟨(upkeep_unlimited hS).simulation.handOff () d, cut_handOff d⟩

end Caps

/-! ### Programs under limits -/

/-- What one script declared is a prefix of what it declared later. -/
theorem DeclarationLog.ofScript_prefix {log log' : DeclarationLog}
    (h : log'.entries <:+ log.entries) (script : ScriptId) :
  log'.ofScript script <+: log.ofScript script
  := by
  apply List.reverse_prefix.mpr
  exact (h.filter _).map _

/-- A run without limits that ends and the same run under limits on nested calls and loop
rounds.  As long as the calls and rounds of the first are within the limits, the outcomes are the
same, and so are the states but for the limit of the call stack.  Else the second one fails over
one of the limits, and what it printed and handed off is the beginning of what the first one
printed and handed off. -/
theorem limits_cut_off_exactly {S : Setting} (hS : S.builtins.Detached) {scene : Scene}
    {run : Option RunId} (hrun : run.any scene.host.runs.isStopped = false) {n : Nat} {p : Program}
    {t : State}
    (ht : (evalProgram (S.under .unlimited) n p (State.start scene .unlimited run)).state? = some t)
    (K : Caps) :
  (t.budget.deepest ≤ K.depth ∧ t.budget.iterations ≤ K.rounds →
      evalProgram (S.under K.limits) n p (State.start scene K.limits run)
        = (evalProgram (S.under .unlimited) n p (State.start scene .unlimited run)).treated
            (fun _ e => e) (fun u => u.capped K.depth))
    ∧ (¬ (t.budget.deepest ≤ K.depth ∧ t.budget.iterations ≤ K.rounds) →
      ∃ e t', evalProgram (S.under K.limits) n p (State.start scene K.limits run) = .failed e t'
        ∧ (e.cause = .stackOverflow K.depth ∨ e.cause = .interrupted (.iterations K.rounds))
        ∧ t'.scene.host.console.lines.toList <+: t.scene.host.console.lines.toList
        ∧ ∀ script, t'.scene.host.log.ofScript script <+: t.scene.host.log.ofScript script)
  := by
  have hstart : K.Fits (State.start scene .unlimited run) :=
    ⟨rfl, hrun, Nat.zero_le _, Nat.zero_le _⟩
  have hcapped : (State.start scene .unlimited run).capped K.depth
      = State.start scene K.limits run := rfl
  have hcut := ((K.simulation hS).evalProgram n () p).cut _ hstart
  rw [hcapped] at hcut
  generalize evalProgram (S.under .unlimited) n p (State.start scene .unlimited run) = o at ht hcut
  generalize evalProgram (S.under K.limits) n p (State.start scene K.limits run) = o' at hcut
  cases hcut with
  | done hfits hv =>
    cases ht
    obtain rfl := hv.eq fun _ _ h => h
    constructor
    · intro _
      rfl
    · intro hbeyond
      exact absurd ⟨hfits.deepest, hfits.iterations⟩ hbeyond
  | failed e hfits =>
    cases ht
    constructor
    · intro _
      rfl
    · intro hbeyond
      exact absurd ⟨hfits.deepest, hfits.iterations⟩ hbeyond
  | outOfFuel => cases ht
  | @stopped _ e t' u hu hstops =>
    obtain rfl : t = u := Option.some.inj (ht.symm.trans hu)
    constructor
    · rintro ⟨hdeep, hlong⟩
      exfalso
      obtain hbeyond | hbeyond := hstops.beyond
      · exact absurd hdeep (Nat.not_le.mpr hbeyond)
      · exact absurd hlong (Nat.not_le.mpr (Nat.lt_min.mp hbeyond).1)
    · intro _
      exact ⟨e, t', rfl, hstops.cause, hstops.lines, DeclarationLog.ofScript_prefix hstops.log⟩

/-- A loop that prints three lines. -/
def threeLines : Program :=
  ⟨[.forIn .dummy "line" (.list .dummy [.literal .dummy (.str "one"), .literal .dummy (.str "two"),
      .literal .dummy (.str "three")])
    [.expression .dummy (.call .dummy "print" [.identifier .dummy "line"])]]⟩

/-- Two rounds are enough for two lines of three. -/
theorem two_lines_of_three :
  ∃ e t t', (evalProgram ((Standard.setting .unlimited).under .unlimited) 9 threeLines
        (Standard.start .unlimited)).state? = some t
    ∧ evalProgram ((Standard.setting .unlimited).under (Caps.limits ⟨1, 2⟩)) 9 threeLines
        (Standard.start (Caps.limits ⟨1, 2⟩)) = .failed e t'
    ∧ e.cause = .interrupted (.iterations 2)
    ∧ t'.scene.host.console.lines.toList = ["one", "two"]
    ∧ t'.scene.host.console.lines.toList <+: t.scene.host.console.lines.toList
  := by
  have hS : (Standard.setting .unlimited).builtins.Detached := Standard.detached
  have ht : (evalProgram ((Standard.setting .unlimited).under .unlimited) 9 threeLines
      (State.start (Scene.enter (.initial .buffer) "main") .unlimited none)).state? = some _ := rfl
  have hrounds : ¬ (1 ≤ 1 ∧ 3 ≤ 2) := by decide
  obtain ⟨-, hcut⟩ := limits_cut_off_exactly hS (by rfl) ht ⟨1, 2⟩
  obtain ⟨e, t', ht', -, hlines, -⟩ := hcut hrounds
  refine ⟨e, _, t', ht, ht', ?_, ?_, hlines⟩
  · cases ht'
    rfl
  · cases ht'
    rfl

end StoryScript
