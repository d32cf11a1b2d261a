import StoryScript.Proofs.Machine
import StoryScript.Proofs.Simulation

/-!
# Upkeep

What every part of the machine keeps, every evaluation keeps.  An upkeep is a relation between
the states before and after, closed under what the machine does: it uses the budget, binds and
assigns variables, hands declarations off, calls built-ins, and enters and leaves scopes,
frames and closures.  Main statement: every evaluation, however it ends, leaves a state that
stands in the relation to the state in which it started.
-/

namespace StoryScript

open Eval

/-- The state of an answer satisfies `Q`, and its value, if it has one, satisfies `P`. -/
def Outcome.Meets {σ ε α : Type} (Q : σ → Prop) (P : α → Prop) : Outcome σ ε α → Prop
  | .done v t => Q t ∧ P v
  | .failed _ t => Q t
  | .outOfFuel => True

namespace Outcome.Meets

variable {σ ε δ α : Type} {Q Q' : σ → Prop} {P : α → Prop} {o : Outcome σ ε α}

/-- What holds of the state at the end holds in its form after the cleanup. -/
theorem treated {learn : σ → ε → δ} {cleanup : σ → σ} (h : o.Meets Q P)
    (hclean : ∀ t, Q t → Q' (cleanup t)) :
  (o.treated learn cleanup).Meets Q' P
  := by
  cases o with
  | done v t => exact ⟨hclean t h.1, h.2⟩
  | failed e t => exact hclean t h
  | outOfFuel => trivial

/-- What holds of the state at the end may be weakened. -/
theorem mono (h : o.Meets Q P) (hQ : ∀ t, Q t → Q' t) :
  o.Meets Q' P
  := by
  cases o with
  | done v t => exact ⟨hQ t h.1, h.2⟩
  | failed e t => exact hQ t h
  | outOfFuel => trivial

/-- The state at the end is as it should be, whether the action failed or not. -/
theorem state {t : σ} (h : o.Meets Q P) (ht : o.state? = some t) :
  Q t
  := by
  cases o with
  | done v u =>
    cases ht
    exact h.1
  | failed e u =>
    cases ht
    exact h
  | outOfFuel => cases ht

/-- An outcome meets what every state at the end and every value meet. -/
theorem of_state (h : ∀ t, o.state? = some t → Q t) (hP : ∀ v, P v) :
  o.Meets Q P
  := by
  cases o with
  | done v t => exact ⟨h t rfl, hP v⟩
  | failed e t => exact h t rfl
  | outOfFuel => trivial

end Outcome.Meets

/-- Every answer leaves a state that stands in `R` to the state before. -/
def Action.Keeps {σ ε α : Type} (R : σ → σ → Prop) (a : Action σ ε α) : Prop :=
  ∀ s t, (a s).state? = some t → R s t

namespace Action

variable {σ ε α β : Type} {R : σ → σ → Prop}

/-- A value by itself does nothing to the state. -/
theorem keeps_pure (hrefl : ∀ s, R s s) (v : α) :
  (pure v : Action σ ε α).Keeps R
  := by
  intro s t ht
  cases ht
  apply hrefl

/-- Where the fuel is used up there is no state at the end. -/
theorem keeps_exhausted :
  (exhausted : Action σ ε α).Keeps R
  := by
  intro s t ht
  cases ht

/-- An answer that is known does nothing to the state. -/
theorem keeps_ofExcept (hrefl : ∀ s, R s s) (x : Except ε α) :
  (ofExcept x : Action σ ε α).Keeps R
  := by
  intro s t ht
  cases x <;> cases ht <;> apply hrefl

/-- Reading the state does nothing to it. -/
theorem keeps_gets (hrefl : ∀ s, R s s) (f : σ → α) :
  (gets f : Action σ ε α).Keeps R
  := by
  intro s t ht
  cases ht
  apply hrefl

/-- A modification is kept by what relates each state to the modified one. -/
theorem keeps_modify {f : σ → σ} (h : ∀ s, R s (f s)) :
  (modify f : Action σ ε Unit).Keeps R
  := by
  intro s t ht
  cases ht
  apply h

/-- A sequence of actions is kept by a transitive relation that both of them are kept by. -/
theorem Keeps.bind {a : Action σ ε α} {f : α → Action σ ε β} (ha : a.Keeps R)
    (htrans : ∀ {s t u}, R s t → R t u → R s u) (hf : ∀ v, (f v).Keeps R) :
  (a >>= f).Keeps R
  := by
  intro s u hu
  have hs := ha s
  rw [bind_apply] at hu
  generalize a s = o at hs hu
  cases o with
  | done v t => exact htrans (hs t rfl) (hf v t u hu)
  | failed e t =>
    cases hu
    exact hs u rfl
  | outOfFuel => cases hu

end Action

/-! ### Built-ins -/

/-- What all built-ins of a table keep of the scene, their dispatch keeps. -/
theorem Builtins.keeps_dispatch {table : Builtins} {Q : Scene → Scene → Prop}
    (hrefl : ∀ s, Q s s) (h : ∀ entry ∈ table, ∀ args, (entry.2 args).Keeps Q) (name : String)
    (args : List Value) :
  (table.dispatch name args).Keeps Q
  := by
  intro s t ht
  rw [dispatch] at ht
  cases hf : Entries.get? name table with
  | none =>
    rw [hf] at ht
    cases ht
    apply hrefl
  | some f =>
    rw [hf] at ht
    have hstate : (((f args).mapError fun _ e => Error.ofBuiltin name e) s).state? = some t := ht
    rw [Action.mapError_apply, Outcome.state?_treated, Option.map_id] at hstate
    exact h _ (Entries.mem_of_get? hf) args s t hstate

/-- What an action keeps of the scene, it keeps of the state. -/
theorem Eval.keeps_onScene {α : Type} {Q : Scene → Scene → Prop} {R : State → State → Prop}
    {a : Action Scene Error α} (h : a.Keeps Q)
    (hR : ∀ s t, Q s.scene t → R s { s with scene := t }) :
  (onScene a).Keeps R
  := by
  intro s t ht
  rw [state?_onScene, Option.map_eq_some_iff] at ht
  obtain ⟨u, hu, rfl⟩ := ht
  exact hR s u (h s.scene u hu)

/-- A relation between states that the machine respects. -/
structure Upkeep (S : Setting) (R : State → State → Prop) : Prop where
  refl : ∀ s, R s s
  trans : ∀ {s t u}, R s t → R t u → R s u
  checked : ∀ s, R s s.checked
  ticked : ∀ s, R s s.ticked
  defined : ∀ s name v, R s (s.defined name v)
  assigned : ∀ s name v, R s (s.assigned name v)
  logged : ∀ s d, R s (s.logged (S.sink.receive s.scene.context.script d s.scene.host.log).1)
  dispatch : ∀ name args, (onScene (S.builtins.dispatch name args)).Keeps R
  scope : ∀ {s t}, R s.pushed t → R s t.popped
  frame : ∀ {s t frame calls}, s.calls.push frame = .ok calls → R (s.entered calls) t →
    R s t.left
  closure : ∀ {s t} (f : Closure), R (s.inside f) t → R s (t.within s.env)

namespace Upkeep

variable {S : Setting} {R : State → State → Prop} {α β : Type}

/-- Answers keep the relation, and their values have a counterpart. -/
def Holds (R : State → State → Prop) (P : α → β → Prop) (a : Eval α) : Prop :=
  ∀ s, (a s).Meets (R s) fun v => ∃ v', P v v'

/-- Reading the state is upheld, if related values are read. -/
theorem holds_gets (U : Upkeep S R) {P : α → β → Prop} (f : State → α)
    (h : ∀ s, ∃ v', P (f s) v') :
  Holds R P (Action.gets f)
  := by
  intro s
  exact ⟨U.refl s, h s⟩

/-- A sequence of actions is upheld, if the second one is upheld for related values of the first
one. -/
theorem holds_bind {γ δ : Type} (U : Upkeep S R) {P : α → β → Prop} {Q : γ → δ → Prop}
    {a : Eval α} {f : α → Eval γ} (ha : Holds R P a)
    (hf : ∀ v v', P v v' → Holds R Q (f v)) :
  Holds R Q (a >>= f)
  := by
  intro s
  have hs := ha s
  rw [Action.bind_apply]
  generalize a s = o at hs
  cases o with
  | done v t =>
    obtain ⟨ht, v', hv⟩ := hs
    apply (hf v v' hv t).mono
    intro u hu
    exact U.trans ht hu
  | failed e t => exact hs
  | outOfFuel => trivial

/-- A call is upheld: the check before it, the frame and the way out of it are. -/
theorem holds_inFrame (U : Upkeep S R) {P : α → β → Prop} (frame : Frame) {a : Eval α}
    (h : Holds R P a) :
  Holds R P (inFrame S frame a)
  := by
  intro s
  rw [inFrame_apply]
  cases s.budget.callVerdict S.limits S.clock s.scene.host.runs with
  | some why => exact U.checked s
  | none =>
    cases hpush : s.calls.push frame with
    | error cause => exact U.checked s
    | ok calls =>
      apply (h (s.checked.entered calls)).treated
      intro t ht
      exact U.trans (U.checked s) (U.frame hpush ht)

/-- A place changes neither the state nor the value. -/
theorem holds_located {P : α → β → Prop} (span : Span) {a : Eval α} (h : Holds R P a) :
  Holds R P (located span a)
  := by
  intro s
  rw [located_apply]
  apply (h s).treated
  intro t ht
  exact ht

/-- What runs in a new scope is upheld, since the scope is popped in the end. -/
theorem holds_inScope (U : Upkeep S R) {P : α → β → Prop} {a : Eval α} (h : Holds R P a) :
  Holds R P (inScope a)
  := by
  intro s
  rw [inScope_apply]
  apply (h s.pushed).treated
  intro t ht
  exact U.scope ht

/-- What runs in a closure is upheld, since the environment is put back in the end. -/
theorem holds_inClosure (U : Upkeep S R) {P : α → β → Prop} (f : Closure) {a : Eval α}
    (h : Holds R P a) :
  Holds R P (inClosure f a)
  := by
  intro s
  rw [inClosure_apply]
  apply (h (s.inside f)).treated
  intro t ht
  exact U.closure f ht

/-- The simulation of every evaluation by itself, as far as the relation goes. -/
def simulation (U : Upkeep S R) : Simulation S S where
  World := Unit
  order := Simulation.oneWorld
  closures _ := Eq
  rel _ P a _ := Holds R (P ()) a
  closures_mono _ h := h
  closures_decl h := congrArg Closure.decl h
  closures_same h h' := congrArg₂ Closure.same h h'
  builtins := .refl S
  pure {_ _ _ _ _ b} h s := ⟨U.refl s, b, h⟩
  bind ha hf := U.holds_bind ha fun v v' hv => hf () trivial v v' hv
  throw _ s := U.refl s
  exhausted _ := trivial
  located span h := holds_located span h
  tick _ s := by
    rw [tick_apply]
    cases s.budget.counted.roundVerdict S.limits S.clock s.scene.host.runs with
    | some why => exact U.ticked s
    | none => exact ⟨U.ticked s, (), trivial⟩
  get _ name := by
    apply U.holds_gets
    intro s
    use s.scene.get? name
    exact Option.rel_same fun v _ => .refl (fun _ => rfl) v
  define {_} name {v _} _ s := ⟨U.defined s name v, (), trivial⟩
  assign {_} name {v _} _ s := by
    rw [assign_apply]
    split
    · exact ⟨U.assigned s name v, (), trivial⟩
    · exact U.assigned s name v
  inScope h := U.holds_inScope (h () trivial)
  inFrame frame h := U.holds_inFrame frame (h () trivial)
  inClosure _ h := U.holds_inClosure _ (h () trivial)
  closeOver _ decl := U.holds_gets _ fun _ => ⟨_, rfl⟩
  callBuiltin {_} name {args _} span _ := by
    apply U.holds_inFrame
    intro s
    apply Outcome.Meets.of_state
    · exact U.dispatch name args s
    · intro v
      exact ⟨v, .refl (fun _ => rfl) v⟩
  handOff _ d s := by
    rw [handOff_apply]
    split
    · exact ⟨U.logged s d, (), trivial⟩
    · exact U.logged s d

/-! ### Every evaluation -/

/-- An action that is upheld relates each state to the one in which it ends. -/
theorem Holds.keeps {P : α → β → Prop} {a : Eval α} (h : Holds R P a) :
  a.Keeps R
  := by
  intro s t
  exact (h s).state

/-- Every value is related to itself, as only the states matter here. -/
theorem values_refl (U : Upkeep S R) (v : Value) :
  U.simulation.Values () v v
  := by
  exact .refl (fun _ => rfl) v

/-- Lists of values are related to themselves. -/
theorem lists_refl (U : Upkeep S R) (vs : List Value) :
  U.simulation.Lists () vs vs
  := by
  apply List.forall₂_same.mpr
  intro v _
  apply U.values_refl

/-- Every expression is kept by a relation that the steps of the evaluator uphold. -/
theorem expr (U : Upkeep S R) (n : Nat) (e : Expr) :
  (evalExpr S n e).Keeps R
  := ((U.simulation.covers n).expr () e).keeps

/-- Every statement is kept by a relation that the steps uphold. -/
theorem stmt (U : Upkeep S R) (n : Nat) (s : Stmt) :
  (execStmt S n s).Keeps R
  := ((U.simulation.covers n).stmt () s).keeps

/-- Statements one after the other are kept by such a relation. -/
theorem statements (U : Upkeep S R) (n : Nat) (body : List Stmt) :
  (execAll S n body).Keeps R
  := (U.simulation.execAll n () body).keeps

/-- Statements in a scope of their own are kept by such a relation. -/
theorem block (U : Upkeep S R) (n : Nat) (body : List Stmt) :
  (execBlock S n body).Keeps R
  := (U.simulation.execBlock n () body).keeps

/-- Every program is kept by such a relation. -/
theorem program (U : Upkeep S R) (n : Nat) (p : Program) :
  (evalProgram S n p).Keeps R
  := (U.simulation.evalProgram n () p).keeps

/-- Every call of a built-in is kept by such a relation. -/
theorem builtin (U : Upkeep S R) (name : String) (args : List Value) (span : Option Span) :
  (callBuiltin S name args span).Keeps R
  := (U.simulation.callBuiltin (w := ()) name span (U.lists_refl args)).keeps

/-- Every call of a closure is kept by such a relation. -/
theorem call (U : Upkeep S R) (n : Nat) (f : Closure) (args : List Value)
    (span : Option Span) :
  (callClosure S n f args span).Keeps R
  := ((U.simulation.covers n).call () f f args args span rfl (U.lists_refl args)).keeps

/-- Every call of a value is kept by such a relation, also of one that cannot be called. -/
theorem callee (U : Upkeep S R) (n : Nat) (v : Value) (args : List Value) :
  (callValue S n v args).Keeps R
  := (U.simulation.callValue n (U.values_refl v) (U.lists_refl args)).keeps

/-- Every run of a handler is kept by such a relation. -/
theorem handler (U : Upkeep S R) (n : Nat) (h : Handler) (args : List Value) :
  (runHandler S n h args).Keeps R
  := (U.simulation.runHandler n h (U.lists_refl args)).keeps

/-- Every deferred call is kept by such a relation. -/
theorem deferred (U : Upkeep S R) (n : Nat) (c : DeferredCall) (extra : List Value) :
  (invoke S n c extra).Keeps R
  := by
  unfold invoke
  split
  · intro s t ht
    generalize Except.mapError _ _ = x at ht
    cases x with
    | ok v =>
      cases ht
      apply U.refl
    | error e =>
      cases ht
      apply U.refl
  · apply U.builtin
  · apply U.call

end Upkeep

end StoryScript
