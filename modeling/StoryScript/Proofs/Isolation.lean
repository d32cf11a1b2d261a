import StoryScript.Proofs.Machine
import StoryScript.Proofs.Region
import StoryScript.Proofs.Simulation

/-!
# Isolation of calls

A call sees and changes no scope that it cannot reach from its closure and its arguments.  Two
calls of the same closure with the same arguments run side by side, in states that differ only
in the environments of the callers and in scopes out of reach.  They stay in the region of the
heap that can be reached, together with the scopes that are allocated meanwhile.  Main
statement: they have the same value or error, and end in states that differ no more than the
ones they started in.
-/

namespace StoryScript

open Eval

/-! ### Two outcomes -/

/-- Outcomes with related values or the same error, and with related states. -/
inductive Outcome.Twin {σ ε α β : Type} (Q : σ → σ → Prop) (P : α → β → Prop) :
    Outcome σ ε α → Outcome σ ε β → Prop where
  | done {v : α} {v' : β} {t t' : σ} (ht : Q t t') (hv : P v v') :
    Twin Q P (.done v t) (.done v' t')
  | failed (e : ε) {t t' : σ} (ht : Q t t') : Twin Q P (.failed e t) (.failed e t')
  | outOfFuel : Twin Q P .outOfFuel .outOfFuel

namespace Outcome.Twin

variable {σ ε α β : Type} {Q Q' : σ → σ → Prop} {P P' : α → β → Prop}
  {o : Outcome σ ε α} {o' : Outcome σ ε β}

/-- Outcomes stay alike after the same errors are learned and states are cleaned up alike. -/
theorem treated {learn : σ → ε → ε} {cleanup cleanup' : σ → σ} (h : Twin Q P o o')
    (hlearn : ∀ t t' e, Q t t' → learn t e = learn t' e)
    (hclean : ∀ t t', Q t t' → Q' (cleanup t) (cleanup' t')) :
  Twin Q' P (o.treated learn cleanup) (o'.treated learn cleanup')
  := by
  cases h with
  | done ht hv => exact .done (hclean _ _ ht) hv
  | failed e ht =>
    rw [Outcome.treated, Outcome.treated, hlearn _ _ e ht]
    exact .failed _ (hclean _ _ ht)
  | outOfFuel => exact .outOfFuel

/-- What holds of states and values of two outcomes may be weakened. -/
theorem mono (h : Twin Q P o o') (hQ : ∀ t t', Q t t' → Q' t t')
    (hP : ∀ v v', P v v' → P' v v') :
  Twin Q' P' o o'
  := by
  cases h with
  | done ht hv => exact .done (hQ _ _ ht) (hP _ _ hv)
  | failed e ht => exact .failed e (hQ _ _ ht)
  | outOfFuel => exact .outOfFuel

/-- Where one of two outcomes leaves a state the other one leaves one that goes with it. -/
theorem state {t : σ} (h : Twin Q P o o') (ht : o.state? = some t) :
  ∃ t', o'.state? = some t' ∧ Q t t'
  := by
  cases h with
  | done hq hv =>
    cases ht
    exact ⟨_, rfl, hq⟩
  | failed e hq =>
    cases ht
    exact ⟨_, rfl, hq⟩
  | outOfFuel => cases ht

/-- Actions go on side by side after values and states that correspond. -/
theorem bind {γ δ : Type} {R : γ → δ → Prop} {a : Action σ ε α} {b : Action σ ε β}
    {f : α → Action σ ε γ} {g : β → Action σ ε δ} {s s' : σ} (h : (a s).Twin Q P (b s'))
    (hfg : ∀ x y t t', P x y → Q t t' → (f x t).Twin Q R (g y t')) :
  ((a >>= f) s).Twin Q R ((b >>= g) s')
  := by
  rw [Action.bind_apply, Action.bind_apply]
  generalize a s = o at h
  generalize b s' = o' at h
  cases h with
  | done ht hv => exact hfg _ _ _ _ hv ht
  | failed e ht => exact .failed e ht
  | outOfFuel => exact .outOfFuel

end Outcome.Twin

/-- A place does not tell two outcomes apart. -/
theorem Eval.twin_located {α β : Type} {Q : State → State → Prop} {P : α → β → Prop} {a : Eval α}
    {b : Eval β} {s s' : State} (span : Span) (h : (a s).Twin Q P (b s')) :
  (located span a s).Twin Q P (located span b s')
  := by
  rw [located_apply, located_apply]
  apply h.treated
  · intro t t' e _
    rfl
  · intro t t' ht
    exact ht

/-! ### Two states -/

/-- The environments are the same, and all their scopes are in the region. -/
structure Environment.Shared (V : Set ScopeId) (env env' : Environment) : Prop where
  eq : env = env'
  inner : ∀ x ∈ env.inner, x ∈ V
  base : env.base ∈ V
  global : env.global ∈ V

namespace Environment.Shared

variable {V : Set ScopeId} {env env' : Environment}

/-- A closure whose scopes are in the region has an environment that is shared there. -/
theorem onScope {f : Closure} (hscope : f.scope ∈ V) (hglobal : f.global ∈ V) :
  (onScope f.scope f.global).Shared V (onScope f.scope f.global)
  := by
  refine ⟨rfl, ?_, hscope, hglobal⟩
  intro x hx
  cases hx

/-- The current scope of a shared environment is in the region. -/
theorem current (h : env.Shared V env') :
  env.current ∈ V
  := by
  have hinner := h.inner
  rw [Environment.current]
  cases hscopes : env.inner with
  | nil => exact h.base
  | cons x rest =>
    apply hinner
    rw [hscopes]
    exact List.mem_cons_self

/-- A scope of the region may be entered in both environments. -/
theorem push (h : env.Shared V env') {x : ScopeId} (hx : x ∈ V) :
  (env.push x).Shared V (env'.push x)
  := by
  refine ⟨congrArg (·.push x) h.eq, ?_, h.base, h.global⟩
  intro y hy
  obtain rfl | hy := List.mem_cons.mp hy
  · exact hx
  · exact h.inner y hy

/-- A scope may be left in both environments. -/
theorem pop (h : env.Shared V env') :
  env.pop.Shared V env'.pop
  := by
  refine ⟨congrArg Environment.pop h.eq, ?_, h.base, h.global⟩
  intro y hy
  exact h.inner y (List.mem_of_mem_tail hy)

end Environment.Shared

/-- The state in another environment and on another heap. -/
def State.moved (s : State) (env : Environment) (heap : Heap) : State :=
  { s with scene.context.env := env, scene.host.heap := heap }

/-- What two runs have in common: a region of their heaps, outside of which these stay as they
are. -/
structure Common where
  /-- The region. -/
  region : Set ScopeId
  /-- The first heap outside of the region. -/
  far : Heap
  /-- The second heap outside of the region. -/
  far' : Heap

namespace Common

variable {C : Common} {E : Environment → Environment → Prop} {S : Setting} {α β γ δ : Type}
  {P : α → β → Prop} {Q : γ → δ → Prop}

/-- The states differ at most in their environments, which are related, and outside of the
common region. -/
def Linked (C : Common) (E : Environment → Environment → Prop) (s s' : State) : Prop :=
  ∃ env heap, s' = s.moved env heap ∧ E s.env env ∧
    Heap.Share C.region C.far C.far' s.heap heap

/-- From linked states the evaluations end alike, in linked states. -/
def Joint (C : Common) (E : Environment → Environment → Prop) (P : α → β → Prop) (a : Eval α)
    (b : Eval β) : Prop :=
  ∀ s s', C.Linked E s s' → (a s).Twin (C.Linked E) P (b s')

/-! ### Evaluations side by side -/

/-- Sequences run side by side if the first actions do, and the second ones on related values. -/
theorem joint_bind {a : Eval α} {b : Eval β} {f : α → Eval γ} {g : β → Eval δ}
    (h : C.Joint E P a b) (hfg : ∀ x y, P x y → C.Joint E Q (f x) (g y)) :
  C.Joint E Q (a >>= f) (b >>= g)
  := by
  intro s s' hs
  exact (h s s' hs).bind fun x y t t' hxy => hfg x y hxy t t'

theorem joint_located (span : Span) {a : Eval α} {b : Eval β} (h : C.Joint E P a b) :
  C.Joint E P (located span a) (located span b)
  := by
  intro s s' hs
  exact twin_located span (h s s' hs)

/-- A checkpoint in a loop is the same in both states: they have the same budget and runs. -/
theorem joint_tick :
  C.Joint E (fun _ _ => True) (tick S) (tick S)
  := by
  rintro s _ ⟨env, heap, rfl, henv, hheap⟩
  have hticked : C.Linked E s.ticked (s.moved env heap).ticked := ⟨env, heap, rfl, henv, hheap⟩
  rw [tick_apply, tick_apply, State.moved]
  cases s.budget.counted.roundVerdict S.limits S.clock s.scene.host.runs with
  | some why => exact .failed _ hticked
  | none => exact .done hticked trivial

/-- A hand-off is the same in both states: they have the same script and log. -/
theorem joint_handOff (d : HandedOff) :
  C.Joint E (fun _ _ => True) (handOff S d) (handOff S d)
  := by
  rintro s _ ⟨env, heap, rfl, henv, hheap⟩
  have hlogged : ∀ log, C.Linked E (s.logged log) ((s.moved env heap).logged log) :=
    fun log => ⟨env, heap, rfl, henv, hheap⟩
  rw [handOff_apply, handOff_apply, State.moved]
  cases (S.sink.receive s.scene.context.script d s.scene.host.log).2 with
  | ok => exact .done (hlogged _) trivial
  | error e => exact .failed _ (hlogged _)

/-- Calls run side by side if what runs under their frames does. -/
theorem joint_inFrame (frame : Frame) {a : Eval α} {b : Eval β} (h : C.Joint E P a b) :
  C.Joint E P (inFrame S frame a) (inFrame S frame b)
  := by
  rintro s _ ⟨env, heap, rfl, henv, hheap⟩
  have hchecked : C.Linked E s.checked (s.moved env heap).checked :=
    ⟨env, heap, rfl, henv, hheap⟩
  have hcalls : (s.moved env heap).calls = s.calls := rfl
  rw [inFrame_apply, inFrame_apply, hcalls, State.moved]
  cases s.budget.callVerdict S.limits S.clock s.scene.host.runs with
  | some why => exact .failed _ hchecked
  | none =>
    cases s.calls.push frame with
    | error cause => exact .failed _ hchecked
    | ok calls =>
      have hentered : C.Linked E (s.checked.entered calls)
          ((s.moved env heap).checked.entered calls) := ⟨env, heap, rfl, henv, hheap⟩
      apply (h _ _ hentered).treated
      · rintro t _ e ⟨env, heap, rfl, -, -⟩
        rfl
      · rintro t _ ⟨env, heap, rfl, henv, hheap⟩
        exact ⟨env, heap, rfl, henv, hheap⟩

/-- In the environment of a closure from the region both runs are in the region, whatever the
environments of the callers are. -/
theorem joint_inClosure {f : Closure} (hscope : f.scope ∈ C.region) (hglobal : f.global ∈ C.region)
    {a : Eval α} {b : Eval β} (h : C.Joint (Environment.Shared C.region) P a b) :
  C.Joint E P (inClosure f a) (inClosure f b)
  := by
  rintro s _ ⟨env, heap, rfl, henv, hheap⟩
  rw [inClosure_apply, inClosure_apply]
  have hinside : C.Linked (Environment.Shared C.region) (s.inside f)
      ((s.moved env heap).inside f) := by
    use (Environment.onScope f.scope f.global).push heap.next, heap.alloc (some f.scope)
    refine ⟨rfl, ?_, hheap.alloc hscope⟩
    show ((Environment.onScope f.scope f.global).push s.heap.next).Shared C.region _
    rw [hheap.next_eq]
    exact (Environment.Shared.onScope hscope hglobal).push (hheap.fresh _ le_rfl)
  apply (h _ _ hinside).treated
  · intro t t' e _
    rfl
  · rintro t _ ⟨_, heap', rfl, -, hheap'⟩
    exact ⟨env, heap', rfl, henv, hheap'⟩

/-! ### Within the region -/

/-- A variable has the same value in both states, and its closures stay within the region. -/
theorem joint_get (name : String) :
  C.Joint (Environment.Shared C.region) (Option.Rel (Value.Related (Closure.Shared C.region)))
    (Action.gets fun s => s.scene.get? name) (Action.gets fun s => s.scene.get? name)
  := by
  rintro s _ ⟨env, heap, rfl, henv, hheap⟩
  obtain rfl := henv.eq
  obtain ⟨hsame, hwithin⟩ := hheap.lookup name henv.current
  apply Outcome.Twin.done ⟨s.env, heap, rfl, henv, hheap⟩
  show Option.Rel _ (s.heap.lookup s.env.current name) (heap.lookup s.env.current name)
  rw [hsame]
  cases hfound : s.heap.lookup s.env.current name with
  | none => exact .none
  | some v => exact .some (Value.related_of_within (hwithin v hfound))

/-- A variable may be declared on both sides with a value within the region. -/
theorem joint_define (name : String) {v : Value} (hv : v.Within C.region) :
  C.Joint (Environment.Shared C.region) (fun _ _ => True) (define name v) (define name v)
  := by
  rintro s _ ⟨env, heap, rfl, henv, hheap⟩
  obtain rfl := henv.eq
  have hdefined := hheap.define henv.current name hv
  exact .done ⟨s.env, heap.define s.env.current name v, rfl, henv, hdefined⟩ trivial

/-- A variable may be assigned on both sides with a value within the region. -/
theorem joint_assign (name : String) {v : Value} (hv : v.Within C.region) :
  C.Joint (Environment.Shared C.region) (fun _ _ => True) (assign name v) (assign name v)
  := by
  rintro s _ ⟨env, heap, rfl, henv, hheap⟩
  obtain rfl := henv.eq
  obtain ⟨hfound, hassigned⟩ := hheap.assign henv.current name hv
  have hlinked : C.Linked (Environment.Shared C.region) (s.assigned name v)
      ((s.moved s.env heap).assigned name v) :=
    ⟨s.env, (heap.assign s.env.current name v).1, rfl, henv, hassigned⟩
  have hfound' : ((s.moved s.env heap).scene.assign name v).2 = (s.scene.assign name v).2 :=
    hfound
  rw [assign_apply, assign_apply, hfound']
  split
  · exact .done hlinked trivial
  · exact .failed _ hlinked

/-- What runs in new scopes runs side by side: the new scope joins the region on both sides. -/
theorem joint_inScope {a : Eval α} {b : Eval β}
    (h : C.Joint (Environment.Shared C.region) P a b) :
  C.Joint (Environment.Shared C.region) P (inScope a) (inScope b)
  := by
  rintro s _ ⟨env, heap, rfl, henv, hheap⟩
  rw [inScope_apply, inScope_apply]
  have hpushed : C.Linked (Environment.Shared C.region) s.pushed (s.moved env heap).pushed := by
    obtain rfl := henv.eq
    use s.env.push heap.next, heap.alloc (some s.env.current)
    refine ⟨rfl, ?_, hheap.alloc henv.current⟩
    show (s.env.push s.heap.next).Shared C.region _
    rw [hheap.next_eq]
    exact henv.push (hheap.fresh _ le_rfl)
  apply (h _ _ hpushed).treated
  · intro t t' e _
    rfl
  · rintro t _ ⟨env, heap, rfl, henv, hheap⟩
    exact ⟨env.pop, heap, rfl, henv.pop, hheap⟩

/-- A closure over the current scope is within the region. -/
theorem joint_closeOver (decl : Function) :
  C.Joint (Environment.Shared C.region) (Closure.Shared C.region) (closeOver decl)
    (closeOver decl)
  := by
  rintro s _ ⟨env, heap, rfl, henv, hheap⟩
  obtain rfl := henv.eq
  exact .done ⟨s.env, heap, rfl, henv, hheap⟩ ⟨rfl, henv.current, henv.global⟩

/-- A detached built-in does the same on both sides, as it does not look at the scopes. -/
theorem joint_dispatch (hS : S.builtins.Detached) (name : String) {args : List Value}
    (hargs : ∀ v ∈ args, v.Within C.region) :
  C.Joint E (Value.Related (Closure.Shared C.region))
    (onScene (S.builtins.dispatch name args)) (onScene (S.builtins.dispatch name args))
  := by
  obtain ⟨x, lines, hanswer, hmentions⟩ := hS.exists_answer name args
  rintro s _ ⟨env, heap, rfl, henv, hheap⟩
  rw [onScene_apply, onScene_apply, hanswer]
  cases x with
  | error e => exact .failed e ⟨env, heap, rfl, henv, hheap⟩
  | ok v =>
    apply Outcome.Twin.done ⟨env, heap, rfl, henv, hheap⟩
    apply Value.related_of_within
    intro y hy
    obtain ⟨a, ha, hy⟩ := hmentions v y rfl hy
    exact hargs a ha y hy

/-- The simulation of a run within the region by another one. -/
def simulation (C : Common) (hS : S.builtins.Detached) : Simulation S S where
  World := Unit
  order := Simulation.oneWorld
  closures _ := Closure.Shared C.region
  rel _ P a b := C.Joint (Environment.Shared C.region) (P ()) a b
  closures_mono _ h := h
  closures_decl h := congrArg Closure.decl h.1
  closures_same h h' := congrArg₂ Closure.same h.1 h'.1
  builtins := .refl S
  pure h _ _ hs := .done hs h
  bind ha hf := joint_bind ha fun x y hxy => hf () trivial x y hxy
  throw _ _ _ hs := .failed _ hs
  exhausted _ _ _ := .outOfFuel
  located span h := joint_located span h
  tick _ := joint_tick
  get _ name := joint_get name
  define {_} name {_ _} hv := by
    obtain ⟨rfl, hwithin⟩ := Value.related_shared_iff.mp hv
    exact joint_define name hwithin
  assign {_} name {_ _} hv := by
    obtain ⟨rfl, hwithin⟩ := Value.related_shared_iff.mp hv
    exact joint_assign name hwithin
  inScope h := joint_inScope (h () trivial)
  inFrame frame h := joint_inFrame frame (h () trivial)
  inClosure hf h := by
    obtain ⟨rfl, hscope, hglobal⟩ := hf
    exact joint_inClosure hscope hglobal (h () trivial)
  closeOver _ decl := joint_closeOver decl
  callBuiltin {_} name {_ _} span hargs := by
    obtain ⟨rfl, hwithin⟩ := Value.forall₂_shared_iff.mp hargs
    exact joint_inFrame _ (joint_dispatch hS name hwithin)
  handOff _ d := joint_handOff d

/-- Calls of a closure from the region with arguments from the region go together, whatever the
environments of the callers are. -/
theorem joint_callClosure (hS : S.builtins.Detached) (n : Nat) {f : Closure}
    (hscope : f.scope ∈ C.region) (hglobal : f.global ∈ C.region) {args : List Value}
    (hargs : ∀ v ∈ args, v.Within C.region) (span : Option Span) :
  C.Joint E Eq (callClosure S n f args span) (callClosure S n f args span)
  := by
  cases n with
  | zero =>
    intro s s' _
    exact .outOfFuel
  | succ n =>
    rw [callClosure]
    apply joint_inFrame
    apply joint_inClosure hscope hglobal
    intro s s' hs
    have hlists := Value.forall₂_shared_iff.mpr ⟨rfl, hargs⟩
    have hbody := ((C.simulation hS).covers n).callBody (w := ()) f.decl hlists s s' hs
    apply hbody.mono
    · intro t t' ht
      exact ht
    · intro v v' hv
      exact (Value.related_shared_iff.mp hv).1

end Common

/-! ### What a call can reach -/

/-- The scopes that a call knows: those of the closure and those mentioned in the arguments. -/
def Closure.roots (f : Closure) (args : List Value) : Set ScopeId :=
  {x | x = f.scope ∨ x = f.global ∨ ∃ a ∈ args, a.Mentions x}

/-- The states differ at most in their environments and in scopes outside of `V`. -/
def State.AlikeOn (V : Set ScopeId) (s s' : State) : Prop :=
  ∃ env heap, s' = s.moved env heap ∧ heap.next = s.heap.next ∧
    ∀ x ∈ V, heap.scope? x = s.heap.scope? x

/-- A call leaves all scopes as they are that were there and cannot be reached from the closure
and the arguments.  Two calls in states that differ at most in the environments and in scopes
that cannot be reached have the same value or error, and the states after them differ at most in
the environments and in the scopes that were there and could not be reached. -/
theorem calls_are_isolated {S : Setting} (hS : S.builtins.Detached) (n : Nat) (f : Closure)
    (args : List Value) (span : Option Span) (s : State) :
  (∀ t, (callClosure S n f args span s).state? = some t →
      ∀ x < s.heap.next, ¬ s.heap.Reachable (f.roots args) x → t.heap.scope? x = s.heap.scope? x)
    ∧ ∀ s', s.AlikeOn {x | s.heap.Reachable (f.roots args) x} s' →
      (callClosure S n f args span s).Twin
        (State.AlikeOn {x | s.heap.Reachable (f.roots args) x ∨ s.heap.next ≤ x}) Eq
        (callClosure S n f args span s')
  := by
  -- one pair of runs serves both parts: for the first part the second run starts in the same state
  have hcalls : ∀ env heap, heap.next = s.heap.next →
      (∀ x, s.heap.Reachable (f.roots args) x → heap.scope? x = s.heap.scope? x) →
      (callClosure S n f args span s).Twin
        (Common.Linked ⟨{x | s.heap.Reachable (f.roots args) x ∨ s.heap.next ≤ x}, s.heap, heap⟩
          fun _ _ => True) Eq
        (callClosure S n f args span (s.moved env heap)) := by
    intro env heap hnext hsame
    apply Common.joint_callClosure hS n _ _ _ span
    · exact ⟨env, heap, rfl, trivial, .of_reachable hnext hsame⟩
    · exact .inl (.root (.inl rfl))
    · exact .inl (.root (.inr (.inl rfl)))
    · intro a ha x hx
      exact .inl (.root (.inr (.inr ⟨a, ha, hx⟩)))
  constructor
  · intro t ht x hold hunreachable
    have htwin := hcalls s.env s.heap rfl fun _ _ => rfl
    obtain ⟨t', -, env, heap, -, -, hshare⟩ := htwin.state ht
    have hx : ¬ (s.heap.Reachable (f.roots args) x ∨ s.heap.next ≤ x) := by
      rintro (hx | hx)
      · exact hunreachable hx
      · exact absurd hold (Nat.not_lt.mpr hx)
    exact (hshare.outside x hx).1
  · rintro _ ⟨env, heap, rfl, hnext, hsame⟩
    apply (hcalls env heap hnext hsame).mono
    · rintro t _ ⟨env, heap, rfl, -, hshare⟩
      exact ⟨env, heap, rfl, hshare.next_eq, hshare.inside⟩
    · intro v v' hv
      exact hv

/-! ### A call behind a local variable -/

/-- A state with a global `x` and a local one on top of it, which has a given value. -/
def shadowing (v : String) : State :=
  (((Standard.start .unlimited).defined "x" (.str "global")).pushed).defined "x" (.str v)

/-- A closure declared at the top level that returns `x`. -/
def returnsX : Closure where
  decl := ⟨0, "f", [], [.ret .dummy (some (.identifier .dummy "x"))], .dummy⟩
  scope := 0
  global := 0

/-- The function that returns a global variable reaches nothing but the global scope. -/
theorem eq_zero_of_reachable_shadowing {v : String} {x : ScopeId}
    (h : (shadowing v).heap.Reachable (returnsX.roots []) x) :
  x = 0
  := by
  have hglobal : (shadowing v).heap.scope? 0
      = some ⟨(∅ : Std.TreeMap String Value).insert "x" (.str "global"), none⟩ := rfl
  induction h with
  | root hx =>
    obtain hx | hx | ⟨a, ha, -⟩ := hx
    · exact hx
    · exact hx
    · cases ha
  | parent _ hscope hy ih =>
    rw [ih, hglobal] at hscope
    cases hscope
    cases hy
  | binding _ hscope hv hy ih =>
    rw [ih, hglobal] at hscope
    cases hscope
    rw [Std.TreeMap.getElem?_insert] at hv
    split at hv
    · cases hv
      exact absurd hy (Value.not_mentions_of_isAtom rfl _)
    · rw [Std.TreeMap.getElem?_emptyc] at hv
      cases hv

/-- A function at the top level returns the global `x`, whatever the local one of its caller is,
and leaves the local one alone. -/
theorem local_is_out_of_reach :
  ∃ t t', callClosure (Standard.setting .unlimited) 9 returnsX [] none (shadowing "here")
      = .done (.str "global") t
    ∧ callClosure (Standard.setting .unlimited) 9 returnsX [] none (shadowing "there")
      = .done (.str "global") t'
    ∧ t.heap.scope? 1 = (shadowing "here").heap.scope? 1
    ∧ t.AlikeOn {x | (shadowing "here").heap.Reachable (returnsX.roots []) x ∨ 2 ≤ x} t'
  := by
  have hS : (Standard.setting .unlimited).builtins.Detached := Standard.detached
  obtain ⟨hlocal, hcalls⟩ := calls_are_isolated hS 9 returnsX [] none (shadowing "here")
  have halike : (shadowing "here").AlikeOn
      {x | (shadowing "here").heap.Reachable (returnsX.roots []) x} (shadowing "there") := by
    use (shadowing "there").env, (shadowing "there").heap
    refine ⟨rfl, rfl, ?_⟩
    intro x hx
    rw [eq_zero_of_reachable_shadowing hx]
    rfl
  have hunreachable : ¬ (shadowing "here").heap.Reachable (returnsX.roots []) 1 := by
    intro h
    cases eq_zero_of_reachable_shadowing h
  refine ⟨_, _, rfl, rfl, ?_, ?_⟩
  · exact hlocal _ rfl 1 (by decide) hunreachable
  · have htwin := hcalls (shadowing "there") halike
    cases htwin with
    | done ht hv => exact ht

end StoryScript
