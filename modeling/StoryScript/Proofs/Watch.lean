import StoryScript.Proofs.Moments
import StoryScript.Proofs.Simulation

/-!
# Watches

A watch says what holds of every state of a run, which closures code may hold in a state, and
which states may follow on another.  It is kept when every part of the machine keeps it: the
budget, variables, scopes, frames, closures, declarations and built-ins.  Main statements: then
every evaluation keeps it, and it holds at every moment of an evaluation, not only at its end.
-/

namespace StoryScript

open Eval

/-! ### Closures in values -/

namespace Value

/-- A closure occurs in a value, at any depth. -/
inductive Carries (f : Closure) : Value → Prop where
  | self : Carries f (closure f)
  | item {items : Array Value} {v : Value} (hv : v ∈ items) (h : Carries f v) :
    Carries f (list items)
  | entry {entries : List (String × Value)} {key : String} {v : Value}
    (hv : (key, v) ∈ entries) (h : Carries f v) : Carries f (map entries)

/-- A value without parts carries no closure. -/
theorem not_carries_of_isAtom {v : Value} (h : v.isAtom = true) (f : Closure) :
  ¬ v.Carries f
  := by
  intro hf
  cases hf <;> cases h

/-- A value is related to itself when a property of closures holds of all that it carries. -/
theorem related_of_carries {P : Closure → Prop} {v : Value} (h : ∀ f, v.Carries f → P f) :
  v.Related (fun f g => f = g ∧ P f) v
  := by
  induction v using Value.induct with
  | list items ih =>
    apply Related.list
    apply List.forall₂_same.mpr
    intro v hv
    apply ih v hv
    intro f hf
    exact h f (.item (List.mem_toArray.mpr hv) hf)
  | map entries ih =>
    apply Related.ofEntries
    apply List.forall₂_same.mpr
    rintro ⟨key, v⟩ he
    use rfl
    apply ih _ he
    intro f hf
    exact h f (.entry he hf)
  | closure f => exact .closure ⟨rfl, h f .self⟩
  | _ => exact .atom rfl

/-- A value that is related to itself under a property of closures carries only closures that have
it. -/
theorem carries_of_related {P : Closure → Prop} {v : Value} {f : Closure}
    (h : v.Related (fun f g => f = g ∧ P f) v) (hf : v.Carries f) :
  P f
  := by
  induction hf with
  | self =>
    cases h with
    | atom h => cases h
    | closure h => exact h.2
  | @item items v hv _ ih =>
    apply ih
    exact List.forall₂_same.mp h.items v (Array.mem_toList_iff.mpr hv)
  | @entry entries key v hv _ ih =>
    apply ih
    exact (List.forall₂_same.mp h.entries (key, v) hv).2

/-- A value corresponds to itself, and to nothing else, exactly when all its closures are of a
kind. -/
theorem related_iff_carries {P : Closure → Prop} {v w : Value} :
  v.Related (fun f g => f = g ∧ P f) w ↔ v = w ∧ ∀ f, v.Carries f → P f
  := by
  constructor
  · intro h
    obtain rfl : v = w := h.eq fun _ _ hfg => hfg.1
    exact ⟨rfl, fun f => carries_of_related h⟩
  · rintro ⟨rfl, h⟩
    exact related_of_carries h

/-- Lists related in that way are the same list, and the property holds of all closures in it. -/
theorem forall₂_iff_carries {P : Closure → Prop} {vs ws : List Value} :
  List.Forall₂ (Related fun f g => f = g ∧ P f) vs ws
    ↔ vs = ws ∧ ∀ v ∈ vs, ∀ f, v.Carries f → P f
  := by
  constructor
  · intro h
    have heq := h.imp fun _ _ hvw => (related_iff_carries.mp hvw).1
    rw [List.forall₂_eq_eq_eq] at heq
    obtain rfl := heq
    use rfl
    intro v hv f
    exact carries_of_related (List.forall₂_same.mp h v hv)
  · rintro ⟨rfl, h⟩
    apply List.forall₂_same.mpr
    intro v hv
    exact related_of_carries (h v hv)

end Value

/-! ### Watches -/

/-- What is watched during a run. -/
structure Watch where
  /-- What holds of every state. -/
  Holds : State → Prop
  /-- The closures that may be held in a state. -/
  Fine : State → Closure → Prop
  /-- The second state may follow on the first. -/
  Later : State → State → Prop

namespace Watch

variable {α β γ δ : Type}

/-- A state that may follow, and of which the watch holds. -/
def Next (K : Watch) (s t : State) : Prop := K.Holds t ∧ K.Later s t

/-- All closures of a value may be held. -/
def FineValue (K : Watch) (s : State) (v : Value) : Prop := ∀ f, v.Carries f → K.Fine s f

/-- An answer leaves a state that may follow, and its value satisfies `P` there. -/
def Ends (K : Watch) (P : State → α → Prop) (s : State) : Outcome State Error α → Prop
  | .done v t => K.Next s t ∧ P t v
  | .failed _ t => K.Next s t
  | .outOfFuel => True

/-- The watch holds where the task begins, and the task is given nothing but fine values. -/
def Good (K : Watch) (task : Task) (s : State) : Prop :=
  K.Holds s ∧ ∀ v ∈ task.values, K.FineValue s v

/-- Every part of the machine keeps the watch. -/
structure Kept (K : Watch) (S : Setting) : Prop where
  refl : ∀ s, K.Later s s
  trans : ∀ {s t u}, K.Later s t → K.Later t u → K.Later s u
  fine : ∀ {s t f}, K.Later s t → K.Fine s f → K.Fine t f
  checked : ∀ {s}, K.Holds s → K.Next s s.checked
  ticked : ∀ {s}, K.Holds s → K.Next s s.ticked
  defined : ∀ {s v} name, K.Holds s → K.FineValue s v → K.Next s (s.defined name v)
  assigned : ∀ {s v} name, K.Holds s → K.FineValue s v → K.Next s (s.assigned name v)
  logged : ∀ {s} d, K.Holds s →
    K.Next s (s.logged (S.sink.receive s.scene.context.script d s.scene.host.log).1)
  pushed : ∀ {s}, K.Holds s → K.Next s s.pushed
  popped : ∀ {s}, K.Holds s → K.Next s s.popped
  entered : ∀ {s frame calls}, s.calls.push frame = .ok calls → K.Holds s →
    K.Next s (s.entered calls)
  left : ∀ {s}, K.Holds s → K.Next s s.left
  swapped : ∀ {s f}, K.Holds s → K.Fine s f →
    K.Next s (s.within (.onScope f.scope f.global))
  within : ∀ {s t}, K.Holds s → K.Next s t → K.Next t (t.within s.env)
  get : ∀ {s name v}, K.Holds s → s.scene.get? name = some v → K.FineValue s v
  closure : ∀ {s} decl, K.Holds s → K.Fine s ⟨decl, s.env.current, s.env.global⟩
  dispatch : ∀ {s args} name, K.Holds s → (∀ v ∈ args, K.FineValue s v) →
    K.Ends K.FineValue s (onScene (S.builtins.dispatch name args) s)

namespace Ends

variable {K : Watch} {P P' : State → α → Prop} {s s' : State} {o : Outcome State Error α}

/-- An outcome ends well after a cleanup if every state that may follow is cleaned up to one that
may follow. -/
theorem treated {learn : State → Error → Error} {cleanup : State → State} (h : K.Ends P s o)
    (hclean : ∀ t, K.Next s t → K.Next s' (cleanup t)) (hP : ∀ t v, K.Next s t → P t v →
      P' (cleanup t) v) :
  K.Ends P' s' (o.treated learn cleanup)
  := by
  cases o with
  | done v t => exact ⟨hclean t h.1, hP t v h.1 h.2⟩
  | failed e t => exact hclean t h
  | outOfFuel => trivial

/-- What holds of the value may be weakened. -/
theorem mono (h : K.Ends P s o) (hP : ∀ t v, K.Next s t → P t v → P' t v) :
  K.Ends P' s o
  := by
  cases o with
  | done v t => exact ⟨h.1, hP t v h.1 h.2⟩
  | failed e t => exact h
  | outOfFuel => trivial

/-- What is done well leaves a state that may follow, with a value as it should be. -/
theorem done {v : α} {t : State} (h : K.Ends P s o) (hv : o = .done v t) :
  K.Next s t ∧ P t v
  := by
  subst hv
  exact h

/-- Whatever ends well leaves a state that may follow. -/
theorem state {t : State} (h : K.Ends P s o) (ht : o.state? = some t) :
  K.Next s t
  := by
  cases o with
  | done v u =>
    cases ht
    exact h.1
  | failed e u =>
    cases ht
    exact h
  | outOfFuel => cases ht

end Ends

namespace Kept

variable {K : Watch} {S : Setting} {s t u : State}

/-- A state in which the watch holds may follow on itself. -/
theorem next_refl (h : K.Kept S) (hs : K.Holds s) :
  K.Next s s
  := ⟨hs, h.refl s⟩

/-- What may follow on a state that may follow may follow. -/
theorem next_trans (h : K.Kept S) (hst : K.Next s t) (htu : K.Next t u) :
  K.Next s u
  := ⟨htu.1, h.trans hst.2 htu.2⟩

/-- A value stays fine in later states. -/
theorem fineValue (h : K.Kept S) {v : Value} (hst : K.Later s t) (hv : K.FineValue s v) :
  K.FineValue t v
  := by
  intro f hf
  exact h.fine hst (hv f hf)

/-- The watch goes on inside of a closure that may be held. -/
theorem inside (h : K.Kept S) {f : Closure} (hs : K.Holds s) (hf : K.Fine s f) :
  K.Next s (s.inside f)
  := by
  have hswapped := h.swapped hs hf
  exact h.next_trans hswapped (h.pushed hswapped.1)

/-! ### The machine as a simulation -/

/-- From every state that follows on `w` the evaluation ends in a state that may follow, and its
value has a counterpart in some state in between. -/
def Watched (K : Watch) (w : State) (P : State → α → β → Prop) (a : Eval α) : Prop :=
  ∀ s, K.Later w s → K.Holds s →
    K.Ends (fun t v => ∃ w', K.Later w w' ∧ K.Later w' t ∧ ∃ v', P w' v v') s (a s)

/-- A sequence is watched if the first action is, and the second one from every state in between. -/
theorem watched_bind (h : K.Kept S) {w : State} {P : State → α → β → Prop}
    {Q : State → γ → δ → Prop} {a : Eval α} {f : α → Eval γ} (ha : Watched K w P a)
    (hf : ∀ w', K.Later w w' → ∀ v v', P w' v v' → Watched K w' Q (f v)) :
  Watched K w Q (a >>= f)
  := by
  intro s hws hs
  have hfirst := ha s hws hs
  rw [Action.bind_apply]
  generalize a s = o at hfirst
  cases o with
  | done v t =>
    obtain ⟨hnext, w', hww', hw't, v', hv⟩ := hfirst
    have hrest := hf w' hww' v v' hv t hw't hnext.1
    dsimp only
    generalize f v t = o at hrest ⊢
    cases o with
    | done x u =>
      obtain ⟨hu, w'', hw'w'', hw''u, hx⟩ := hrest
      exact ⟨h.next_trans hnext hu, w'', h.trans hww' hw'w'', hw''u, hx⟩
    | failed e u => exact h.next_trans hnext hrest
    | outOfFuel => trivial
  | failed e t => exact hfirst
  | outOfFuel => trivial

/-- An evaluation between a preparation and a cleanup. -/
theorem watched_treated (h : K.Kept S) {w : State} {P : State → α → β → Prop} {a : Eval α}
    {learn : State → Error → Error} {cleanup : State → State} (ha : Watched K w P a)
    (hws : K.Later w s) (hst : K.Next s t)
    (hclean : ∀ u, K.Next t u → K.Next u (cleanup u)) :
  K.Ends (fun u v => ∃ w', K.Later w w' ∧ K.Later w' u ∧ ∃ v', P w' v v') s
    ((a t).treated learn cleanup)
  := by
  apply (ha t (h.trans hws hst.2) hst.1).treated
  · intro u hu
    exact h.next_trans hst (h.next_trans hu (hclean u hu))
  · rintro u v hu ⟨w', hww', hw'u, hv⟩
    exact ⟨w', hww', h.trans hw'u (hclean u hu).2, hv⟩

/-- A call is watched: the check before it, its frame, what runs under it and the way out. -/
theorem watched_inFrame (h : K.Kept S) {w : State} {P : State → α → β → Prop} (frame : Frame)
    {a : Eval α} (ha : Watched K w P a) :
  Watched K w P (inFrame S frame a)
  := by
  intro s hws hs
  rw [inFrame_apply]
  have hchecked := h.checked hs
  cases s.budget.callVerdict S.limits S.clock s.scene.host.runs with
  | some why => exact hchecked
  | none =>
    cases hpush : s.calls.push frame with
    | error cause => exact hchecked
    | ok calls =>
      have hentered := h.entered (s := s.checked) hpush hchecked.1
      apply h.watched_treated ha hws (h.next_trans hchecked hentered)
      intro u hu
      exact h.left hu.1

/-- The simulation of every evaluation by itself, as far as the watch goes. -/
def simulation (h : K.Kept S) : Simulation S S where
  World := State
  order :=
    { le := K.Later
      le_refl := h.refl
      le_trans := fun _ _ _ => h.trans }
  closures w f g := f = g ∧ K.Fine w f
  rel w P a _ := Watched K w P a
  closures_mono hww' hf := ⟨hf.1, h.fine hww' hf.2⟩
  closures_decl hf := congrArg Closure.decl hf.1
  closures_same hf hg := congrArg₂ Closure.same hf.1 hg.1
  builtins := .refl S
  pure {_ _ w _ _ b} hab s hws hs := ⟨h.next_refl hs, w, h.refl w, hws, b, hab⟩
  bind ha hf := h.watched_bind ha fun w' hww' v v' hv => hf w' hww' v v' hv
  throw _ s _ hs := h.next_refl hs
  exhausted _ _ _ := trivial
  located {_ _ _ _ _ _} span ha s hws hs := by
    rw [located_apply]
    apply h.watched_treated ha hws (h.next_refl hs)
    intro u hu
    exact h.next_refl hu.1
  tick w s hws hs := by
    rw [tick_apply]
    cases s.budget.counted.roundVerdict S.limits S.clock s.scene.host.runs with
    | some why => exact h.ticked hs
    | none => exact ⟨h.ticked hs, w, h.refl w, h.trans hws (h.ticked hs).2, (), trivial⟩
  get w name s hws hs := by
    refine ⟨h.next_refl hs, s, hws, h.refl s, s.scene.get? name, ?_⟩
    dsimp only
    cases hv : s.scene.get? name with
    | none => exact .none
    | some v => exact .some (Value.related_of_carries (h.get hs hv))
  define {w} name {v v'} hv s hws hs := by
    obtain ⟨rfl, hfine⟩ := Value.related_iff_carries.mp hv
    have hnext := h.defined name hs (h.fineValue hws hfine)
    exact ⟨hnext, w, h.refl w, h.trans hws hnext.2, (), trivial⟩
  assign {w} name {v v'} hv s hws hs := by
    obtain ⟨rfl, hfine⟩ := Value.related_iff_carries.mp hv
    have hnext := h.assigned name hs (h.fineValue hws hfine)
    rw [assign_apply]
    split
    · exact ⟨hnext, w, h.refl w, h.trans hws hnext.2, (), trivial⟩
    · exact hnext
  inScope {_ _ w _ a _} ha s hws hs := by
    rw [inScope_apply]
    apply h.watched_treated (ha w (h.refl w)) hws (h.pushed hs)
    intro u hu
    exact h.popped hu.1
  inFrame {_ _ w _ _ _} frame ha := h.watched_inFrame frame (ha w (h.refl w))
  inClosure {_ _ w _ _ _ f _} hf ha s hws hs := by
    rw [inClosure_apply]
    have hinside := h.inside hs (h.fine hws hf.2)
    apply h.watched_treated (ha w (h.refl w)) hws hinside
    intro u hu
    exact h.within hs (h.next_trans hinside hu)
  closeOver w decl s hws hs := by
    refine ⟨h.next_refl hs, s, hws, h.refl s, _, rfl, h.closure decl hs⟩
  callBuiltin {w} name {args args'} span hargs := by
    apply h.watched_inFrame
    intro s hws hs
    have hfine : ∀ v ∈ args, K.FineValue s v := by
      intro v hv
      exact h.fineValue hws ((Value.forall₂_iff_carries.mp hargs).2 v hv)
    apply (h.dispatch name hs hfine).mono
    intro t v hst hv
    exact ⟨t, h.trans hws hst.2, h.refl t, v, Value.related_of_carries hv⟩
  handOff w d s hws hs := by
    rw [handOff_apply]
    have hnext := h.logged d hs
    split
    · exact ⟨hnext, w, h.refl w, h.trans hws hnext.2, (), trivial⟩
    · exact hnext

/-! ### Every evaluation -/

/-- What is watched ends well from every state in which the watch holds. -/
theorem watched_ends {P : State → α → β → Prop} {a : Eval α} (ha : Watched K s P a)
    (h : K.Kept S) (hs : K.Holds s) :
  K.Ends (fun t v => ∃ w, K.Later w t ∧ ∃ v', P w v v') s (a s)
  := by
  apply (ha s (h.refl s) hs).mono
  rintro t v - ⟨w, -, hwt, hv⟩
  exact ⟨w, hwt, hv⟩

/-- What is watched leaves a state that may follow. -/
theorem watched_next {P : State → α → β → Prop} {a : Eval α} (ha : Watched K s P a)
    (h : K.Kept S) (hs : K.Holds s) (ht : (a s).state? = some t) :
  K.Next s t
  := (watched_ends ha h hs).state ht

/-- Fine values are their own counterparts. -/
theorem lists_of_fine (h : K.Kept S) {vs : List Value} (hvs : ∀ v ∈ vs, K.FineValue s v) :
  h.simulation.Lists s vs vs
  := Value.forall₂_iff_carries.mpr ⟨rfl, hvs⟩

/-- What is watched and has a counterpart for its value has a fine value. -/
theorem watched_value {a : Eval Value} (h : K.Kept S)
    (ha : Watched K s (fun w => h.simulation.Values w) a) (hs : K.Holds s) :
  K.Ends K.FineValue s (a s)
  := by
  apply (watched_ends ha h hs).mono
  rintro t v - ⟨w, hwt, v', hv⟩
  exact h.fineValue hwt (Value.related_iff_carries.mp hv).2

/-- An expression leaves a state that may follow, with a fine value. -/
theorem expr (h : K.Kept S) (hs : K.Holds s) (n : Nat) (e : Expr) :
  K.Ends K.FineValue s (evalExpr S n e s)
  := by
  exact h.watched_value ((h.simulation.covers n).expr s e) hs

/-- So do expressions one after the other. -/
theorem each (h : K.Kept S) (hs : K.Holds s) (n : Nat) (es : List Expr) :
  K.Ends (fun t vs => ∀ v ∈ vs, K.FineValue t v) s (Action.each (evalExpr S n) es s)
  := by
  have hwatched := Correspondence.allValues (h.simulation.covers n).expr s es
  apply (watched_ends hwatched h hs).mono
  rintro t vs - ⟨w, hwt, vs', hvs⟩ v hv
  exact h.fineValue hwt ((Value.forall₂_iff_carries.mp hvs).2 v hv)

/-- The entries of a map literal leave a state that may follow. -/
theorem pairs (h : K.Kept S) (hs : K.Holds s) {n : Nat} {es : List (String × Expr)}
    {vs : List (String × Value)} (ht : entries (evalExpr S n) es s = .done vs t) :
  K.Next s t
  := watched_next (Correspondence.entries (h.simulation.covers n).expr s es) h hs
    (congrArg Outcome.state? ht)

/-- A checkpoint in a loop leaves a state that may follow. -/
theorem tick (h : K.Kept S) (hs : K.Holds s) (ht : tick S s = .done () t) :
  K.Next s t
  := watched_next (h.simulation.tick s) h hs (congrArg Outcome.state? ht)

/-- Statements one after the other leave a state that may follow. -/
theorem statements (h : K.Kept S) (hs : K.Holds s) {n : Nat} {body : List Stmt}
    (ht : (execAll S n body s).state? = some t) :
  K.Next s t
  := watched_next (h.simulation.execAll n s body) h hs ht

/-- A block leaves a state that may follow. -/
theorem block (h : K.Kept S) (hs : K.Holds s) {n : Nat} {body : List Stmt}
    (ht : (execBlock S n body s).state? = some t) :
  K.Next s t
  := watched_next (h.simulation.execBlock n s body) h hs ht

/-- A loop over fine values leaves a state that may follow. -/
theorem elements (h : K.Kept S) (hs : K.Holds s) {n : Nat} {name : String} {body : List Stmt}
    {vs : List Value} (hvs : ∀ v ∈ vs, K.FineValue s v)
    (ht : (forEach S (fun v => execWith S n [(name, v)] body) vs s).state? = some t) :
  K.Next s t
  := by
  have hbody : ∀ w v v', h.simulation.Values w v v' → h.simulation.rel w h.simulation.Flows
      (execWith S n [(name, v)] body) (execWith S n [(name, v')] body) := by
    intro w v v' hv
    have hpair : h.simulation.Pairs w [(name, v)] [(name, v')] := .cons ⟨rfl, hv⟩ .nil
    apply Simulation.inScopeWith hpair
    intro w' _
    exact h.simulation.execAll n w' body
  exact watched_next (Correspondence.forEach hbody (h.lists_of_fine hvs)) h hs ht

/-- The first part of a loop header leaves a state that may follow. -/
theorem loopStart (h : K.Kept S) (hs : K.Holds s) {n : Nat} {start : Option LoopStart}
    (ht : loopStart (evalExpr S n) start s = .done () t) :
  K.Next s t
  := watched_next (Simulation.loopStart (h.simulation.covers n).expr s start) h hs
    (congrArg Outcome.state? ht)

/-- The condition of a loop leaves a state that may follow. -/
theorem loopTest (h : K.Kept S) (hs : K.Holds s) {n : Nat} {l : Loop} {b : Bool}
    (ht : l.test S n s = .done b t) :
  K.Next s t
  := watched_next (Correspondence.loopCondition (h.simulation.covers n).expr s l.condition) h hs
    (congrArg Outcome.state? ht)

/-- The last part of a loop header leaves a state that may follow. -/
theorem loopStep (h : K.Kept S) (hs : K.Holds s) {n : Nat} {l : Loop}
    (ht : l.step S n s = .done () t) :
  K.Next s t
  := watched_next (Correspondence.loopUpdate (h.simulation.covers n).expr s l.update) h hs
    (congrArg Outcome.state? ht)

/-- A loop leaves a state that may follow, whatever its header. -/
theorem loop (h : K.Kept S) (hs : K.Holds s) {n : Nat} {l : Loop}
    (ht : (l.eval S n s).state? = some t) :
  K.Next s t
  := by
  have hexpr := (h.simulation.covers n).expr
  have hrounds : h.simulation.rel s h.simulation.Flows (l.eval S n) (l.eval S n) := by
    apply Correspondence.rounds
    · intro w
      exact Correspondence.loopCondition hexpr w l.condition
    · intro w
      exact h.simulation.execBlock n w l.body
    · intro w
      exact Correspondence.loopUpdate hexpr w l.update
  exact watched_next hrounds h hs ht

/-- The body of a round begins in a state that may follow. -/
theorem roundTicked (h : K.Kept S) (hs : K.Holds s) {n : Nat} {l : Loop}
    (htest : l.test S n s = .done true t) (htick : Eval.tick S t = .done () u) :
  K.Next s u
  := by
  have htest := h.loopTest hs htest
  exact h.next_trans htest (h.tick htest.1 htick)

/-- A round of a loop begins in a state that may follow. -/
theorem round (h : K.Kept S) (hs : K.Holds s) {n k : Nat} {l : Loop}
    (hround : l.Round S n s k t) :
  K.Next s t
  := by
  induction hround with
  | first => exact h.next_refl hs
  | next _ htest htick hbody hstep ih =>
    have hticked := h.roundTicked ih.1 htest htick
    have hbody := h.block hticked.1 (congrArg Outcome.state? hbody)
    have hstep := h.loopStep hbody.1 hstep
    exact h.next_trans ih (h.next_trans hticked (h.next_trans hbody hstep))

/-- A call of a closure that may be held leaves a state that may follow, with a fine value. -/
theorem call (h : K.Kept S) (hs : K.Holds s) (n : Nat) {f : Closure} {args : List Value}
    (span : Option Span) (hf : K.Fine s f) (hargs : ∀ v ∈ args, K.FineValue s v) :
  K.Ends K.FineValue s (callClosure S n f args span s)
  := h.watched_value ((h.simulation.covers n).call s f f args args span ⟨rfl, hf⟩
    (h.lists_of_fine hargs)) hs

/-- A call of a built-in on fine values does. -/
theorem builtin (h : K.Kept S) (hs : K.Holds s) (name : String) {args : List Value}
    (span : Option Span) (hargs : ∀ v ∈ args, K.FineValue s v) :
  K.Ends K.FineValue s (callBuiltin S name args span s)
  := h.watched_value (h.simulation.callBuiltin name span (h.lists_of_fine hargs)) hs

/-- A whole job does, if it begins well. -/
theorem job (h : K.Kept S) {n : Nat} {job : Job} (hgood : K.Good (.job n job) s) :
  K.Ends K.FineValue s (job.eval S n s)
  := by
  obtain ⟨hs, hvalues⟩ := hgood
  cases job with
  | program p => exact h.watched_value (h.simulation.evalProgram n s p) hs
  | handler hd args =>
    exact h.watched_value (h.simulation.runHandler n hd (h.lists_of_fine hvalues)) hs
  | deferred call =>
    obtain ⟨callback, args⟩ := call
    rw [Job.eval, invoke, List.append_nil]
    cases callback with
    | native name run =>
      show K.Ends _ s (Action.ofExcept ((run args).mapError (Error.ofBuiltin name)) s)
      cases hanswer : run args with
      | error e => exact h.next_refl hs
      | ok v =>
        use h.next_refl hs
        apply hvalues v
        simp [Task.values, DeferredCall.values, hanswer, Except.toOption]
    | builtin name => exact h.builtin hs name none hvalues
    | closure f =>
      obtain ⟨hf, hargs⟩ := List.forall_mem_cons.mp hvalues
      exact h.call hs n none (hf _ .self) hargs

/-! ### Every moment -/

/-- Names may be bound to fine values. -/
theorem bound (h : K.Kept S) (hs : K.Holds s) {pairs : List (String × Value)}
    (hpairs : ∀ p ∈ pairs, K.FineValue s p.2) :
  K.Next s (s.bound pairs)
  := by
  induction pairs generalizing s with
  | nil => exact h.next_refl hs
  | cons p rest ih =>
    obtain ⟨hp, hrest⟩ := List.forall_mem_cons.mp hpairs
    have hfirst := h.defined p.1 hs hp
    have hothers : K.Next (s.defined p.1 p.2) ((s.defined p.1 p.2).bound rest) := by
      apply ih hfirst.1
      intro q hq
      exact h.fineValue hfirst.2 (hrest q hq)
    exact h.next_trans hfirst hothers

/-- A call that is admitted is entered in a state that may follow. -/
theorem admitted (h : K.Kept S) (hs : K.Holds s) {frame : Frame} (ht : S.Admits frame s t) :
  K.Next s t
  := by
  obtain ⟨-, calls, hpush, rfl⟩ := ht
  have hchecked := h.checked hs
  exact h.next_trans hchecked (h.entered (s := s.checked) hpush hchecked.1)

/-- Parameters are bound to arguments or to null, so to fine values. -/
theorem fineValue_bindParams {params : List String} {args : List Value}
    (hargs : ∀ v ∈ args, K.FineValue s v) {p : String × Value} (hp : p ∈ bindParams params args) :
  K.FineValue s p.2
  := by
  induction params generalizing args with
  | nil => cases hp
  | cons name rest ih =>
    cases args with
    | nil =>
      obtain rfl | hp := List.mem_cons.mp hp
      · intro f hf
        exact absurd hf (Value.not_carries_of_isAtom rfl f)
      · exact ih hargs hp
    | cons v vs =>
      obtain ⟨hv, hvs⟩ := List.forall_mem_cons.mp hargs
      obtain rfl | hp := List.mem_cons.mp hp
      · exact hv
      · exact ih hvs hp

/-- The first few parameters of a call are bound in a state that may follow. -/
theorem boundParams (h : K.Kept S) (hnext : K.Next s t) {params : List String}
    {args : List Value} (hargs : ∀ v ∈ args, K.FineValue s v) {pairs : List (String × Value)}
    (hpairs : pairs <+: bindParams params args) :
  K.Next s (t.bound pairs)
  := by
  refine h.next_trans hnext (h.bound hnext.1 ?_)
  intro p hp
  exact h.fineValue hnext.2 (fineValue_bindParams hargs (hpairs.subset hp))

/-- The items of a fine list are fine. -/
theorem fineValue_items {items : List Value} (hlist : K.FineValue s (.list ⟨items⟩)) :
  ∀ v ∈ items, K.FineValue s v
  := by
  intro v hv f hf
  exact hlist f (.item (List.mem_toArray.mpr hv) hf)

/-- A task that is given fine values begins well in every state that may follow. -/
theorem good (hnext : K.Next s t) {task : Task} (hvalues : ∀ v ∈ task.values, K.FineValue t v) :
  K.Good task t ∧ K.Later s t
  := ⟨⟨hnext.1, hvalues⟩, hnext.2⟩

/-- A task that is given no values begins well in every state that may follow. -/
theorem good_of_no_values (hnext : K.Next s t) {task : Task} (hvalues : task.values = []) :
  K.Good task t ∧ K.Later s t
  := by
  apply good hnext
  rw [hvalues]
  exact List.forall_mem_nil _

/-- The variables of a call are bound in a state that may follow. -/
theorem called (h : K.Kept S) (hs : K.Holds s) {frame : Frame} {f : Closure} {args : List Value}
    (hvalues : ∀ v ∈ .closure f :: args, K.FineValue s v) (hframe : S.Admits frame s t)
    {pairs : List (String × Value)} (hpairs : pairs <+: bindParams f.params args) :
  K.Next s ((t.inside f).bound pairs)
  := by
  obtain ⟨hf, hargs⟩ := List.forall_mem_cons.mp hvalues
  have hadmitted := h.admitted hs hframe
  have hinside := h.inside hadmitted.1 (h.fine hadmitted.2 (hf _ .self))
  exact h.boundParams (h.next_trans hadmitted hinside) hargs hpairs

/-- The variables of a handler are bound in a state that may follow. -/
theorem handled (h : K.Kept S) (hs : K.Holds s) {frame : Frame} {params : List String}
    {args : List Value} (hargs : ∀ v ∈ args, K.FineValue s v) (hframe : S.Admits frame s t)
    {pairs : List (String × Value)} (hpairs : pairs <+: bindParams params args) :
  K.Next s (t.pushed.bound pairs)
  := by
  have hadmitted := h.admitted hs hframe
  exact h.boundParams (h.next_trans hadmitted (h.pushed hadmitted.1)) hargs hpairs

/-- The round of an element of a list begins in a state that may follow. -/
theorem element (h : K.Kept S) (hs : K.Holds s) {n : Nat} {e : Expr} {name : String}
    {body : List Stmt} {before after : List Value} {v : Value} {flow : Flow}
    (hlist : evalExpr S n e s = .done (.list ⟨before ++ v :: after⟩) t)
    (hbefore : forEach S (fun v => execWith S n [(name, v)] body) before t = .done flow u) :
  K.Next s u ∧ K.FineValue u v
  := by
  obtain ⟨hiterable, hfine⟩ := (h.expr hs _ _).done hlist
  obtain ⟨hfirst, hothers⟩ := List.forall_mem_append.mp (fineValue_items hfine)
  obtain ⟨hv, -⟩ := List.forall_mem_cons.mp hothers
  have hbefore := h.elements hiterable.1 hfirst (congrArg Outcome.state? hbefore)
  exact ⟨h.next_trans hiterable hbefore, h.fineValue hbefore.2 hv⟩

/-- A part of a good task is a good one that begins later. -/
theorem enters (h : K.Kept S) {task task' : Task} (hgood : K.Good task s)
    (hpart : Enters S task s task' t) :
  K.Good task' t ∧ K.Later s t
  := by
  obtain ⟨hs, hvalues⟩ := hgood
  cases hpart with
  | left | operand | member | target | assigned | declared | condition | whileLoop | iterable
  | returned | expression | property | program =>
    exact good_of_no_values (h.next_refl hs) rfl
  | block | start => exact good_of_no_values (h.pushed hs) rfl
  | right hv | place hv => exact good_of_no_values ((h.expr hs _ _).done hv).1 rfl
  | argument hvs | item hvs => exact good_of_no_values ((h.each hs _ _).done hvs).1 rfl
  | entry hvs => exact good_of_no_values (h.pairs hs hvs) rfl
  | builtin hvs | heldBuiltin hvs =>
    obtain ⟨hnext, hfine⟩ := (h.each hs _ _).done hvs
    exact good hnext hfine
  | heldClosure hvs _ hf =>
    obtain ⟨hnext, hfine⟩ := (h.each hs _ _).done hvs
    exact good hnext (List.forall_mem_cons.mpr ⟨h.get hnext.1 hf, hfine⟩)
  | yes hv | no hv =>
    have hcondition := ((h.expr hs _ _).done hv).1
    exact good_of_no_values (h.next_trans hcondition (h.pushed hcondition.1)) rfl
  | element hlist hbefore _ htick =>
    obtain ⟨hround, hv⟩ := h.element hs hlist hbefore
    have htick := h.tick hround.1 htick
    have hpushed := h.pushed htick.1
    have hlater := h.next_trans htick hpushed
    refine good_of_no_values (h.next_trans hround (h.next_trans hlater ?_)) rfl
    exact h.bound hpushed.1 (by simpa using h.fineValue hlater.2 hv)
  | forLoop hstart =>
    have hpushed := h.pushed hs
    exact good_of_no_values (h.next_trans hpushed (h.loopStart hpushed.1 hstart)) rfl
  | statement hbefore =>
    exact good_of_no_values (h.statements hs (congrArg Outcome.state? hbefore)) rfl
  | test hround => exact good_of_no_values (h.round hs hround) rfl
  | round hround htest htick =>
    have hround := h.round hs hround
    have hticked := h.roundTicked hround.1 htest htick
    have hpushed := h.next_trans hticked (h.pushed hticked.1)
    exact good_of_no_values (h.next_trans hround hpushed) rfl
  | update hround htest htick hbody =>
    have hround := h.round hs hround
    have hticked := h.roundTicked hround.1 htest htick
    have hbody := h.block hticked.1 (congrArg Outcome.state? hbody)
    exact good_of_no_values (h.next_trans hround (h.next_trans hticked hbody)) rfl
  | called hframe =>
    exact good_of_no_values (h.called hs hvalues hframe List.prefix_rfl) rfl
  | dispatched hframe =>
    have hadmitted := h.admitted hs hframe
    apply good hadmitted
    intro v hv
    exact h.fineValue hadmitted.2 (hvalues v hv)
  | handler hframe =>
    exact good_of_no_values (h.handled hs hvalues hframe List.prefix_rfl) rfl
  | deferredBuiltin | deferredClosure => exact good (h.next_refl hs) hvalues

/-- At every moment all tasks under way are good, and each began no later than those inside of
it. -/
theorem underway (h : K.Kept S) {whole task : Task} (hgood : K.Good whole s)
    {outer : List (Task × State)} (hchain : Underway S whole s ((task, t) :: outer)) :
  ∀ p ∈ (task, t) :: outer, K.Good p.1 p.2 ∧ K.Later p.2 t
  := by
  generalize hall : (task, t) :: outer = chain at hchain
  induction hchain generalizing task t outer with
  | whole =>
    cases hall
    exact List.forall_mem_singleton.mpr ⟨hgood, h.refl s⟩
  | part _ hpart ih =>
    cases hall
    have houter := ih rfl
    obtain ⟨hgood', hlater⟩ := h.enters (houter _ List.mem_cons_self).1 hpart
    intro p hp
    obtain rfl | hp := List.mem_cons.mp hp
    · exact ⟨hgood', h.refl _⟩
    · obtain ⟨hp, hbefore⟩ := houter p hp
      exact ⟨hp, h.trans hbefore hlater⟩

/-- A task that ends leaves a state that may follow. -/
theorem after (h : K.Kept S) {task : Task} (hgood : K.Good task s)
    (ht : task.after? S s = some t) :
  K.Next s t
  := by
  obtain ⟨hs, hvalues⟩ := hgood
  cases task with
  | expr n e => exact (h.expr hs n e).state ht
  | stmt n st => exact watched_next ((h.simulation.covers n).stmt s st) h hs ht
  | body n stmts => exact h.statements hs ht
  | loop n l => exact h.loop hs ht
  | call n f args span =>
    obtain ⟨hf, hargs⟩ := List.forall_mem_cons.mp hvalues
    exact (h.call hs n span (hf _ .self) hargs).state ht
  | builtin name args span => exact (h.builtin hs name span hvalues).state ht
  | dispatch name args => exact (h.dispatch name hs hvalues).state ht
  | job n j => exact (h.job ⟨hs, hvalues⟩).state ht

/-- Between its parts a good task passes states that may follow. -/
theorem passes (h : K.Kept S) {task : Task} (hgood : K.Good task s)
    (hpass : Passes S task s t) :
  K.Next s t
  := by
  obtain ⟨hs, hvalues⟩ := hgood
  cases hpass with
  | checked => exact h.checked hs
  | framed _ hframe => exact h.admitted hs hframe
  | swapped hframe =>
    have hadmitted := h.admitted hs hframe
    have hf := hvalues _ List.mem_cons_self _ .self
    exact h.next_trans hadmitted (h.swapped hadmitted.1 (h.fine hadmitted.2 hf))
  | called hframe hpairs => exact h.called hs hvalues hframe hpairs
  | restored hframe hbody =>
    have hpart := h.enters ⟨hs, hvalues⟩ (.called hframe)
    have hended := h.next_trans ⟨hpart.1.1, hpart.2⟩ (h.after hpart.1 hbody)
    exact h.next_trans hended (h.within hs hended)
  | handled hframe hpairs => exact h.handled hs hvalues hframe hpairs
  | popped hframe hbody =>
    have hpart := h.enters ⟨hs, hvalues⟩ (.handler hframe)
    have hended := h.next_trans ⟨hpart.1.1, hpart.2⟩ (h.after hpart.1 hbody)
    exact h.next_trans hended (h.popped hended.1)
  | roundTicked hround htest =>
    have hround := h.round hs hround
    have htest := h.loopTest hround.1 htest
    exact h.next_trans hround (h.next_trans htest (h.ticked htest.1))
  | elementTicked hlist hbefore =>
    obtain ⟨hround, -⟩ := h.element hs hlist hbefore
    exact h.next_trans hround (h.ticked hround.1)
  | elementPushed hlist hbefore _ htick =>
    obtain ⟨hround, -⟩ := h.element hs hlist hbefore
    have htick := h.tick hround.1 htick
    exact h.next_trans hround (h.next_trans htick (h.pushed htick.1))

/-- Every moment may follow on the beginning, and all tasks that are under way around it are good
and began before. -/
theorem moment (h : K.Kept S) {whole : Task} (hgood : K.Good whole s)
    {outer : List (Task × State)} (hmoment : Moment S whole s t outer) :
  K.Next s t ∧ ∀ p ∈ outer, K.Good p.1 p.2 ∧ K.Later p.2 t
  := by
  cases hmoment with
  | begins hchain =>
    have hall := h.underway hgood hchain
    obtain ⟨⟨hhead, -⟩, houter⟩ := List.forall_mem_cons.mp hall
    exact ⟨⟨hhead.1, (hall _ hchain.whole_mem).2⟩, houter⟩
  | ends hchain hend =>
    have hall := h.underway hgood hchain
    have hended := h.after (hall _ List.mem_cons_self).1 hend
    use ⟨hended.1, h.trans (hall _ hchain.whole_mem).2 hended.2⟩
    intro p hp
    obtain ⟨hp, hbefore⟩ := hall p (List.mem_cons_of_mem _ hp)
    exact ⟨hp, h.trans hbefore hended.2⟩
  | between hchain hpass =>
    have hall := h.underway hgood hchain
    have hpassed := h.passes (hall _ List.mem_cons_self).1 hpass
    use ⟨hpassed.1, h.trans (hall _ hchain.whole_mem).2 hpassed.2⟩
    intro p hp
    obtain ⟨hp, hbefore⟩ := hall p hp
    exact ⟨hp, h.trans hbefore hpassed.2⟩

end Kept

end Watch

end StoryScript
