import StoryScript.Proofs.Gap
import StoryScript.Proofs.Uniform

/-!
# Loops with and without a header

A loop with a condition only, and a loop with a header of which only the condition is there,
differ in one scope: the header has a scope of its own, even if it declares nothing.  The two
loops run side by side.  The condition is evaluated in the scope around the first loop, and in the
empty scope of the header of the second one; from there on everything that is called or opened
runs in scopes that correspond.  Main statement: both loops end alike, and what they leave behind
differs in nothing but the names of the scopes that are new.
-/

namespace StoryScript

open Eval

theorem Setting.Untimed.sameNames {S T : Setting} (h : S.Untimed T) :
  S.SameNames T
  := by
  intro name
  rw [h.builtins]

namespace Gap

variable {G : Gap} {C : ScopeId → ScopeId → Prop} {w w' : Nat}

/-! ### Two states -/

/-- The states differ at most in their environments, and in one scope. -/
def Linked (G : Gap) (w : Nat) (s s' : State) : Prop :=
  ∃ env heap, s' = s.moved env heap ∧ G.Heaps s.heap heap ∧ w ≤ s.heap.next

/-- The innermost scopes are related, and the global scopes correspond. -/
structure Aligned (G : Gap) (C : ScopeId → ScopeId → Prop) (w : Nat) (env env' : Environment) :
    Prop where
  current : C env.current env'.current
  global : env'.global = G.skip env.global
  current_lt : env.current < w
  global_lt : env.global < w

/-- Two states later on, in the same environments. -/
structure After (G : Gap) (w : Nat) (s s' t t' : State) : Prop where
  env : t.env = s.env
  env' : t'.env = s'.env
  linked : G.Linked w t t'

/-- From states whose innermost scopes are related the evaluations end alike, and come back to
the environments. -/
def Joint {α β : Type} (G : Gap) (C : ScopeId → ScopeId → Prop) (w : Nat) (P : Nat → α → β → Prop)
    (a : Eval α) (b : Eval β) : Prop :=
  ∀ s s', G.Linked w s s' → G.Aligned C w s.env s'.env →
    ∃ w', w ≤ w' ∧ (a s).Twin (G.After w' s s') (P w') (b s')

/-- Environments stay aligned when there are more scopes. -/
theorem Aligned.mono {env env' : Environment} (h : G.Aligned C w env env') (hw : w ≤ w') :
  G.Aligned C w' env env'
  := ⟨h.current, h.global, Nat.lt_of_lt_of_le h.current_lt hw, Nat.lt_of_lt_of_le h.global_lt hw⟩

theorem After.refl {s s' : State} (h : G.Linked w s s') :
  G.After w s s' s s'
  := ⟨rfl, rfl, h⟩

/-- What comes after may be chained, with more scopes each time. -/
theorem After.trans {s s' t t' u u' : State} (h : G.After w s s' t t')
    (h' : G.After w' t t' u u') :
  G.After w' s s' u u'
  := ⟨h'.env.trans h.env, h'.env'.trans h.env', h'.linked⟩

/-! ### Evaluations side by side -/

section

variable {S T : Setting} {α β γ δ : Type} {P : Nat → α → β → Prop} {Q : Nat → γ → δ → Prop}

/-- Values that correspond go together. -/
theorem joint_pure {v : α} {v' : β} (hv : P w v v') :
  G.Joint C w P (pure v) (pure v')
  := by
  intro s s' hs _
  exact ⟨w, le_rfl, .done (.refl hs) hv⟩

theorem joint_throw (cause : Cause) :
  G.Joint C w P (throw cause) (throw cause)
  := by
  intro s s' hs _
  exact ⟨w, le_rfl, .failed _ (.refl hs)⟩

theorem joint_exhausted :
  G.Joint C w P Action.exhausted Action.exhausted
  := by
  intro s s' _ _
  exact ⟨w, le_rfl, .outOfFuel⟩

/-- Sequences go together if the first actions do, and the second ones with more scopes and on
values that correspond. -/
theorem joint_bind {a : Eval α} {b : Eval β} {f : α → Eval γ} {g : β → Eval δ}
    (h : G.Joint C w P a b)
    (hfg : ∀ w', w ≤ w' → ∀ v v', P w' v v' → G.Joint C w' Q (f v) (g v')) :
  G.Joint C w Q (a >>= f) (b >>= g)
  := by
  intro s s' hs henv
  obtain ⟨w₁, hw₁, htwin⟩ := h s s' hs henv
  rw [Action.bind_apply, Action.bind_apply]
  generalize a s = o, b s' = o' at htwin
  cases htwin with
  | failed e ht => exact ⟨w₁, hw₁, .failed e ht⟩
  | outOfFuel => exact ⟨w₁, hw₁, .outOfFuel⟩
  | @done v v' t t' ht hv =>
    have hthere : G.Aligned C w₁ t.env t'.env := by
      rw [ht.env, ht.env']
      exact henv.mono hw₁
    obtain ⟨w₂, hw₂, htwin⟩ := hfg w₁ hw₁ v v' hv t t' ht.linked hthere
    refine ⟨w₂, hw₁.trans hw₂, htwin.mono ?_ fun _ _ h => h⟩
    intro u u' hu
    exact ht.trans hu

theorem joint_located (span : Span) {a : Eval α} {b : Eval β} (h : G.Joint C w P a b) :
  G.Joint C w P (located span a) (located span b)
  := by
  intro s s' hs henv
  obtain ⟨w', hw, htwin⟩ := h s s' hs henv
  exact ⟨w', hw, twin_located span htwin⟩

/-- A checkpoint in a loop is passed on both sides or fails on both. -/
theorem joint_tick (hST : S.Untimed T) (w : Nat) :
  G.Joint C w (fun _ _ _ => True) (tick S) (tick T)
  := by
  rintro s _ ⟨env, heap, rfl, hheap, hw⟩ _
  have hticked : G.After w s (s.moved env heap) s.ticked (s.moved env heap).ticked :=
    ⟨rfl, rfl, env, heap, rfl, hheap, hw⟩
  rw [tick_apply, tick_apply, State.moved, ← hST.roundVerdict_eq]
  use w, le_rfl
  cases s.budget.counted.roundVerdict S.limits S.clock s.scene.host.runs with
  | some why => exact .failed _ hticked
  | none => exact .done hticked trivial

/-- A hand-off is the same on both sides: they have the same script and log. -/
theorem joint_handOff (hST : S.Untimed T) (w : Nat) (d : HandedOff) :
  G.Joint C w (fun _ _ _ => True) (handOff S d) (handOff T d)
  := by
  rintro s _ ⟨env, heap, rfl, hheap, hw⟩ _
  have hlogged : ∀ log, G.After w s (s.moved env heap) (s.logged log)
      ((s.moved env heap).logged log) := fun log => ⟨rfl, rfl, env, heap, rfl, hheap, hw⟩
  rw [handOff_apply, handOff_apply, State.moved, ← hST.sink]
  use w, le_rfl
  cases (S.sink.receive s.scene.context.script d s.scene.host.log).2 with
  | ok => exact .done (hlogged _) trivial
  | error e => exact .failed _ (hlogged _)

/-! ### Variables -/

/-- From related scopes the same variables are seen. -/
theorem joint_get (hC : ∀ x x', C x x' → G.Near x x') (w : Nat) (name : String) :
  G.Joint C w (fun w' => Option.Rel (G.Values w'))
    (Action.gets fun s => s.scene.get? name) (Action.gets fun s => s.scene.get? name)
  := by
  rintro s _ ⟨env, heap, rfl, hheap, hw⟩ henv
  have hlookup := hheap.lookup (hC _ _ henv.current) name
  exact ⟨s.heap.next, hw, .done (.refl ⟨env, heap, rfl, hheap, le_rfl⟩) hlookup⟩

/-- An assignment from scopes that show the same changes bindings that correspond. -/
theorem joint_assign (hC : ∀ x x', C x x' → G.Near x x') (name : String) {v v' : Value}
    (hv : G.Values w v v') :
  G.Joint C w (fun _ _ _ => True) (assign name v) (assign name v')
  := by
  rintro s _ ⟨env, heap, rfl, hheap, hw⟩ henv
  obtain ⟨hassigned, hnext, hfound⟩ :=
    hheap.assign (hC _ _ henv.current) name (values_mono hw hv)
  have hafter : G.After w s (s.moved env heap) (s.assigned name v)
      ((s.moved env heap).assigned name v') :=
    ⟨rfl, rfl, env, (heap.assign env.current name v').1, rfl, hassigned, hnext.symm ▸ hw⟩
  have hfound' : ((s.moved env heap).scene.assign name v').2 = (s.scene.assign name v).2 :=
    hfound.symm
  rw [assign_apply, assign_apply, hfound']
  use w, le_rfl
  split
  · exact .done hafter trivial
  · exact .failed _ hafter

/-- A variable may be declared on both sides, but only where the current scopes correspond and none
of them is the additional one. -/
theorem joint_define (name : String) {v v' : Value} (hv : G.Values w v v') :
  G.Joint (fun x x' => x' = G.skip x) w (fun _ _ _ => True) (define name v) (define name v')
  := by
  rintro s _ ⟨env, heap, rfl, hheap, hw⟩ henv
  have hdefined := hheap.define s.env.current name (values_mono hw hv)
  have hcurrent : env.current = G.skip s.env.current := henv.current
  rw [← hcurrent] at hdefined
  refine ⟨w, le_rfl, .done ⟨rfl, rfl, env, heap.define env.current name v', rfl, hdefined, ?_⟩
    trivial⟩
  show w ≤ (s.heap.define s.env.current name v).next
  rw [Heap.next_define]
  exact hw

/-- Closures correspond if they are made where the current scopes do. -/
theorem joint_closeOver (w : Nat) (decl : Function) :
  G.Joint (fun x x' => x' = G.skip x) w G.Renamed (closeOver decl) (closeOver decl)
  := by
  intro s s' hs henv
  exact ⟨w, le_rfl, .done (.refl hs) ⟨⟨rfl, henv.current, henv.global⟩, henv.current_lt,
    henv.global_lt⟩⟩

/-! ### Scopes and calls -/

/-- New scopes correspond, whether the scopes around them do or only show the same. -/
theorem joint_inScope (hC : ∀ x x', C x x' → G.Near x x') {a : Eval α} {b : Eval β}
    (h : ∀ w', w ≤ w' → G.Joint (fun x x' => x' = G.skip x) w' P a b) :
  G.Joint C w P (inScope a) (inScope b)
  := by
  rintro s _ ⟨env, heap, rfl, hheap, hw⟩ henv
  rw [inScope_apply, inScope_apply]
  have hlt := Nat.lt_of_lt_of_le henv.current_lt hw
  have hpushed : G.Linked (s.heap.next + 1) s.pushed (s.moved env heap).pushed := by
    refine ⟨env.push heap.next, heap.alloc (some env.current), rfl,
      hheap.alloc (hC _ _ henv.current) hlt, ?_⟩
    exact (Heap.next_alloc _ _).ge
  have hthere : G.Aligned (fun x x' => x' = G.skip x) (s.heap.next + 1) s.pushed.env
      (s.moved env heap).pushed.env :=
    ⟨hheap.skip_next.symm, henv.global, Nat.lt_succ_self _,
      Nat.lt_succ_of_lt (Nat.lt_of_lt_of_le henv.global_lt hw)⟩
  obtain ⟨w', hw', htwin⟩ := h _ (Nat.le_succ_of_le hw) _ _ hpushed hthere
  refine ⟨w', (Nat.le_succ_of_le hw).trans hw', htwin.treated ?_ ?_⟩
  · intro t t' e _
    rfl
  · rintro t t' ⟨ht, ht', env', heap', rfl, hheap', hnext⟩
    exact ⟨congrArg Environment.pop ht, congrArg Environment.pop ht', _, heap', rfl, hheap', hnext⟩

/-- Calls go together if what runs under their frames does. -/
theorem joint_inFrame (hST : S.Untimed T) (frame : Frame) {a : Eval α} {b : Eval β}
    (h : ∀ w', w ≤ w' → G.Joint C w' P a b) :
  G.Joint C w P (inFrame S frame a) (inFrame T frame b)
  := by
  rintro s _ ⟨env, heap, rfl, hheap, hw⟩ henv
  have hchecked : G.After w s (s.moved env heap) s.checked (s.moved env heap).checked :=
    ⟨rfl, rfl, env, heap, rfl, hheap, hw⟩
  have hcalls : (s.moved env heap).calls = s.calls := rfl
  rw [inFrame_apply, inFrame_apply, hcalls, State.moved, ← hST.callVerdict_eq]
  cases s.budget.callVerdict S.limits S.clock s.scene.host.runs with
  | some why => exact ⟨w, le_rfl, .failed _ hchecked⟩
  | none =>
    cases s.calls.push frame with
    | error cause => exact ⟨w, le_rfl, .failed _ hchecked⟩
    | ok calls =>
      have hentered : G.Linked w (s.checked.entered calls)
          ((s.moved env heap).checked.entered calls) := ⟨env, heap, rfl, hheap, hw⟩
      obtain ⟨w', hw', htwin⟩ := h w le_rfl _ _ hentered henv
      refine ⟨w', hw', htwin.treated ?_ ?_⟩
      · rintro t _ e ⟨-, -, env', heap', rfl, -, -⟩
        rfl
      · rintro t _ ⟨ht, ht', env', heap', rfl, hheap', hnext⟩
        exact ⟨ht, ht', env', heap', rfl, hheap', hnext⟩

/-- In the environments of corresponding closures the scopes correspond, whatever the
environments of the callers are. -/
theorem joint_inClosure {f g : Closure} (hf : G.Renamed w f g) {a : Eval α} {b : Eval β}
    (h : ∀ w', w ≤ w' → G.Joint (fun x x' => x' = G.skip x) w' P a b) :
  G.Joint C w P (inClosure f a) (inClosure g b)
  := by
  rintro s _ ⟨env, heap, rfl, hheap, hw⟩ henv
  rw [inClosure_apply, inClosure_apply]
  have hlt := Nat.lt_of_lt_of_le hf.scope_lt hw
  have hinside : G.Linked (s.heap.next + 1) (s.inside f) ((s.moved env heap).inside g) := by
    refine ⟨(Environment.onScope g.scope g.global).push heap.next, heap.alloc (some g.scope), rfl,
      hheap.alloc (.inl hf.scope) hlt, ?_⟩
    exact (Heap.next_alloc _ _).ge
  have hthere : G.Aligned (fun x x' => x' = G.skip x) (s.heap.next + 1) (s.inside f).env
      ((s.moved env heap).inside g).env :=
    ⟨hheap.skip_next.symm, hf.global, Nat.lt_succ_self _,
      Nat.lt_succ_of_lt (Nat.lt_of_lt_of_le hf.global_lt hw)⟩
  obtain ⟨w', hw', htwin⟩ := h _ (Nat.le_succ_of_le hw) _ _ hinside hthere
  refine ⟨w', (Nat.le_succ_of_le hw).trans hw', htwin.treated ?_ ?_⟩
  · intro t t' e _
    rfl
  · rintro t _ ⟨-, -, env', heap', rfl, hheap', hnext⟩
    exact ⟨rfl, rfl, _, heap', rfl, hheap', hnext⟩

/-- Scripts cannot tell closures apart that differ in the names of their scopes. -/
theorem matching (G : Gap) (w : Nat) :
  Closure.Matching (G.Renamed w)
  := by
  constructor
  · intro f g h
    rw [Closure.name, Closure.name, h.decl]
  · intro f g f' g' h h'
    exact renamed_same h h'

/-- A uniform built-in does the same on both sides. -/
theorem joint_dispatch (hST : S.Untimed T) (hS : S.builtins.Uniform) (name : String)
    {args args' : List Value} (hargs : List.Forall₂ (G.Values w) args args') :
  G.Joint C w G.Values (onScene (S.builtins.dispatch name args))
    (onScene (T.builtins.dispatch name args'))
  := by
  obtain ⟨x, x', lines, hx, hx', hagree⟩ := hS.exists_answers (G.matching w) name hargs
  rintro s _ ⟨env, heap, rfl, hheap, hw⟩ _
  rw [onScene_apply, onScene_apply, ← hST.builtins, hx, hx']
  use w, le_rfl
  cases hagree with
  | error e => exact .failed e ⟨rfl, rfl, env, heap, rfl, hheap, hw⟩
  | ok hv => exact .done ⟨rfl, rfl, env, heap, rfl, hheap, hw⟩ hv

/-- A call of a uniform built-in does the same on both sides. -/
theorem joint_callBuiltin (hST : S.Untimed T) (hS : S.builtins.Uniform) (name : String)
    {args args' : List Value} (span : Option Span) (hargs : List.Forall₂ (G.Values w) args args') :
  G.Joint C w G.Values (callBuiltin S name args span) (callBuiltin T name args' span)
  := by
  apply joint_inFrame hST
  intro w' hw
  apply joint_dispatch hST hS name
  exact hargs.imp fun _ _ => values_mono hw

end

/-! ### Trees -/

section

variable {S T : Setting}

/-- What is evaluated from related scopes as long as no scope is opened. -/
def correspondence (G : Gap) (hST : S.Untimed T) (hS : S.builtins.Uniform)
    (C : ScopeId → ScopeId → Prop) (hC : ∀ x x', C x x' → G.Near x x') : Correspondence S T where
  World := Nat
  order := inferInstance
  closures := G.Renamed
  rel := G.Joint C
  closures_mono h hfg := hfg.mono h
  closures_decl h := h.decl
  closures_same h h' := renamed_same h h'
  builtins := hST.sameNames
  pure h := joint_pure h
  bind h hfg := joint_bind h hfg
  throw cause := joint_throw cause
  exhausted := joint_exhausted
  located span h := joint_located span h
  tick w := joint_tick hST w
  get w name := joint_get hC w name
  assign name _ _ hv := joint_assign hC name hv
  callBuiltin name _ _ span hargs := joint_callBuiltin hST hS name span hargs

/-- What is evaluated from corresponding scopes. -/
def simulation (G : Gap) (hST : S.Untimed T) (hS : S.builtins.Uniform) : Simulation S T where
  toCorrespondence := G.correspondence hST hS (fun x x' => x' = G.skip x) fun _ _ => .inl
  define name _ _ hv := joint_define name hv
  inScope h := joint_inScope (fun _ _ => .inl) h
  inFrame frame h := joint_inFrame hST frame h
  inClosure hf h := joint_inClosure hf h
  closeOver w decl := joint_closeOver w decl
  handOff w d := joint_handOff hST w d

/-- Calls of corresponding closures go together, whatever the environments of the callers are. -/
theorem joint_callClosure (hST : S.Untimed T) (hS : S.builtins.Uniform) (n : Nat) {f g : Closure}
    (hf : G.Renamed w f g) {args args' : List Value} (hargs : List.Forall₂ (G.Values w) args args')
    (span : Option Span) :
  G.Joint C w G.Values (callClosure S n f args span) (callClosure T n g args' span)
  := by
  cases n with
  | zero => exact joint_exhausted
  | succ n =>
    rw [callClosure, callClosure, Closure.name, Closure.params, Closure.name, Closure.params,
      hf.decl]
    apply joint_inFrame hST
    intro w₁ h₁
    apply joint_inClosure (hf.mono h₁)
    intro w₂ h₂
    exact ((G.simulation hST hS).covers n).callBody g.decl
      (hargs.imp fun _ _ => values_mono (h₁.trans h₂))

/-- Expressions go together even if the second one is evaluated in the additional scope. -/
theorem joint_expr (hST : S.Untimed T) (hS : S.builtins.Uniform) (n w : Nat) (e : Expr) :
  G.Joint G.Near w G.Values (evalExpr S n e) (evalExpr T n e)
  := by
  induction n generalizing w e with
  | zero => exact joint_exhausted
  | succ n ih =>
    apply (G.correspondence hST hS G.Near fun _ _ h => h).succ_expr ih
    intro w f g args args' span hf hargs
    exact joint_callClosure hST hS n hf hargs span

/-- The rounds of a loop go together even if the second loop runs in the additional scope. -/
theorem joint_rounds (hST : S.Untimed T) (hS : S.builtins.Uniform) (n k w : Nat) (condition : Expr)
    (body : List Stmt) :
  G.Joint G.Near w (fun w' => Flow.Related (G.Values w'))
    (rounds S (loopCondition (evalExpr S n) (some condition)) (execBlock S n body) (pure ()) k)
    (rounds T (loopCondition (evalExpr T n) (some condition)) (execBlock T n body) (pure ()) k)
  := by
  let L := G.correspondence hST hS G.Near fun _ _ h => h
  apply L.rounds
  · intro w
    exact L.loopCondition (joint_expr hST hS n) w (some condition)
  · intro w
    apply joint_inScope fun _ _ h => h
    intro w' _
    exact (G.simulation hST hS).execAll n w' body
  · intro w
    exact joint_pure trivial

end

/-- The states differ in nothing but one scope more on the second heap. -/
def Alike (G : Gap) (t t' : State) : Prop :=
  ∃ heap, t' = t.moved t.env heap ∧ G.Heaps t.heap heap

/-- When the additional scope is left, the environments are the same again. -/
theorem After.alike {s t t' : State} (h : G.After w s s.pushed t t') :
  G.Alike t t'.popped
  := by
  obtain ⟨henv, henv', env, heap, rfl, hheap, -⟩ := h
  have hpop : env.pop = t.env := by
    rw [henv]
    exact congrArg Environment.pop henv'
  exact ⟨heap, congrArg (t.moved · heap) hpop, hheap⟩

end Gap

/-- The place for one more scope in the current scope of a state. -/
def State.gap (s : State) : Gap := ⟨s.env.current, s.heap.next⟩

/-- A loop with a condition only, and a loop with a header of which only the condition is there,
end alike, with the same value or error.  The states afterwards are the same but for the heaps: on
the second one there is one more scope, which stays empty, and the scopes that are newer than the
loop have other names. -/
theorem loops_agree_without_header {S T : Setting} (hST : S.Untimed T) (hS : S.builtins.Uniform)
    (n : Nat) (span : Span) (condition : Expr) (body : List Stmt) {s : State}
    (hheap : s.heap.Sound) (henv : s.env.Sound s.heap) :
  Function.Injective s.gap.skip ∧ (∀ x < s.heap.next, s.gap.skip x = x)
    ∧ (execStmt S n (.whileLoop span condition body) s).Twin s.gap.Alike
      (Flow.Related (Value.Related s.gap.Renames))
      (execStmt T n (.forLoop span none (some condition) none body) s)
  := by
  refine ⟨s.gap.skip_injective, fun x hx => Gap.skip_of_lt hx, ?_⟩
  cases n with
  | zero => exact .outOfFuel
  | succ n =>
    have hcurrent := henv.root_current.lt_next
    have hglobal := henv.root_current.global_lt_next
    have hlinked : s.gap.Linked s.heap.next s s.pushed :=
      ⟨s.pushed.env, s.pushed.heap, rfl, .of_sound hheap hcurrent, le_rfl⟩
    have hthere : s.gap.Aligned s.gap.Near s.heap.next s.env s.pushed.env :=
      ⟨.inr ⟨rfl, rfl⟩, (Gap.skip_of_lt hglobal).symm, hcurrent, hglobal⟩
    obtain ⟨w, -, hrounds⟩ :=
      Gap.joint_rounds hST hS n n s.heap.next condition body s s.pushed hlinked hthere
    have hloops : (rounds S (loopCondition (evalExpr S n) (some condition)) (execBlock S n body)
          (pure ()) n s).Twin s.gap.Alike (Flow.Related (Value.Related s.gap.Renames))
        (inScope (rounds T (loopCondition (evalExpr T n) (some condition)) (execBlock T n body)
          (pure ()) n) s) := by
      rw [inScope_apply]
      generalize rounds S _ _ (pure ()) n s = o, rounds T _ _ (pure ()) n s.pushed = o' at hrounds
      cases hrounds with
      | done ht hflow => exact .done ht.alike (hflow.mono fun _ _ => Gap.renames_of_values)
      | failed e ht => exact .failed e ht.alike
      | outOfFuel => exact .outOfFuel
    -- the first part of the header is missing, so that its rounds begin at once
    exact twin_located span hloops

/-- The start of a run, with two variables. -/
def keeping : State :=
  ((Standard.start .unlimited).defined "again" (.bool true)).defined "kept" .null

/-- The condition that holds once. -/
def again : Expr := .identifier .dummy "again"

/-- The declaration of a function, which is kept in a variable, and the end of the loop. -/
def keep : List Stmt :=
  [.function .dummy 0 "f" [] [],
    .expression .dummy (.assign .dummy "kept" (.identifier .dummy "f")),
    .expression .dummy (.assign .dummy "again" (.literal .dummy .null))]

theorem sound_keeping :
  keeping.heap.Sound ∧ keeping.env.Sound keeping.heap
  := by
  obtain ⟨hheap, henv⟩ := Standard.sound_start .unlimited
  have hatom : ∀ (h : Heap) {v : Value}, v.isAtom = true → v.Sound h :=
    fun h v hv f hf => absurd hf (Value.not_carries_of_isAtom hv f)
  constructor
  · exact (hheap.define _ "again" (hatom _ rfl)).define _ "kept" (hatom _ rfl)
  · exact (Heap.Extends.define _ _ "kept" .null).environment
      ((Heap.Extends.define _ _ "again" (.bool true)).environment henv)

/-- Either loop keeps the function of its only round, which was declared in the second new scope
of one heap and in the third of the other. -/
theorem keeping_in_both_loops :
  (Standard.setting .unlimited).Untimed (Standard.setting .unlimited)
    ∧ (Standard.setting .unlimited).builtins.Uniform
    ∧ keeping.heap.Sound ∧ keeping.env.Sound keeping.heap
    ∧ ∃ t t', execStmt (Standard.setting .unlimited) 9 (.whileLoop ⟨1, 2⟩ again keep) keeping
          = .done .quiet t
      ∧ execStmt (Standard.setting .unlimited) 9 (.forLoop ⟨1, 2⟩ none (some again) none keep)
          keeping = .done .quiet t'
      ∧ keeping.gap.Alike t t' ∧ t.heap.next = 2 ∧ t'.heap.next = 3
  := by
  have hST : (Standard.setting .unlimited).Untimed (Standard.setting .unlimited) :=
    ⟨rfl, rfl, rfl, rfl⟩
  have hS : (Standard.setting .unlimited).builtins.Uniform := Standard.uniform
  obtain ⟨hheap, henv⟩ := sound_keeping
  have hruns : ∃ t t', execStmt (Standard.setting .unlimited) 9 (.whileLoop ⟨1, 2⟩ again keep)
        keeping = .done .quiet t
      ∧ execStmt (Standard.setting .unlimited) 9 (.forLoop ⟨1, 2⟩ none (some again) none keep)
        keeping = .done .quiet t'
      ∧ t.heap.next = 2 ∧ t'.heap.next = 3 := ⟨_, _, rfl, rfl, rfl, rfl⟩
  obtain ⟨t, t', hwhile, hfor, hnext, hnext'⟩ := hruns
  obtain ⟨-, -, hloops⟩ := loops_agree_without_header hST hS 9 ⟨1, 2⟩ again keep hheap henv
  rw [hwhile, hfor] at hloops
  cases hloops with
  | done halike _ => exact ⟨hST, hS, hheap, henv, t, t', hwhile, hfor, halike, hnext, hnext'⟩

end StoryScript
