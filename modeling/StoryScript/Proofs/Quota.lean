import StoryScript.Eval.Fuel
import StoryScript.Proofs.Detached
import StoryScript.Proofs.Machine

/-!
# Quotas

A quota limits the calls that can be nested and the loop rounds that can begin.  Evaluations are
families here, with one member for each amount of fuel, and such a family halts, with so many
calls and rounds left, when it has an answer with some amount of fuel.  The parts of the machine
keep families halting: a call takes one of the calls that are left, a round takes one of the
rounds that are left, and nothing gives any of them back.
-/

namespace StoryScript

open Eval

/-! ### Families of evaluations -/

/-- More fuel keeps all answers. -/
def Rising {α : Type} (a : Nat → Eval α) : Prop := ∀ n m, n ≤ m → (a n).Below (a m)

namespace Rising

variable {α β : Type} {a : Nat → Eval α} {f : α → Nat → Eval β}

/-- A family that does not depend on the fuel keeps its answers. -/
theorem const (a : Eval α) :
  Rising fun _ => a
  := by
  intro n m _
  apply Action.Below.refl

/-- A sequence keeps its answers if the first action does and every continuation does. -/
theorem bind (ha : Rising a) (hf : ∀ v, Rising (f v)) :
  Rising fun n => a n >>= fun v => f v n
  := by
  intro n m h
  apply Action.Below.bind (ha n m h)
  intro v
  exact hf v n m h

/-- An answer in a state is the answer with more fuel too. -/
theorem stays (ha : Rising a) {n m : Nat} (h : n ≤ m) {s t : State}
    (ht : (a n s).state? = some t) :
  a m s = a n s
  := by
  obtain hnone | hsame := ha n m h s
  · rw [hnone] at ht
    cases ht
  · exact hsame.symm

end Rising

/-- The second call stack has no more room than the first one: it has at least as many calls, and
its limit is not above that of the first one. -/
structure CallStack.Tightens (c d : CallStack) : Prop where
  limit : ∀ n, c.limit = some n → ∃ m ≤ n, d.limit = some m
  depth : c.depth ≤ d.depth

namespace CallStack

/-- A frame that fits does not change the limit. -/
theorem limit_of_push {c d : CallStack} {f : Frame} (h : c.push f = .ok d) :
  d.limit = c.limit
  := by
  rw [← pop_of_push h]
  rfl

namespace Tightens

/-- Every stack leaves at most as much room as itself. -/
theorem refl (c : CallStack) :
  c.Tightens c
  := by
  constructor
  · intro n hn
    exact ⟨n, Nat.le_refl n, hn⟩
  · exact Nat.le_refl _

/-- Stacks leave less and less room. -/
theorem trans {c d e : CallStack} (h : c.Tightens d) (h' : d.Tightens e) :
  c.Tightens e
  := by
  constructor
  · intro n hn
    obtain ⟨m, hmn, hm⟩ := h.limit n hn
    obtain ⟨k, hkm, hk⟩ := h'.limit m hm
    exact ⟨k, Nat.le_trans hkm hmn, hk⟩
  · exact Nat.le_trans h.depth h'.depth

/-- What has no more room after a call was entered, has none after it was left. -/
theorem pop {c d e : CallStack} {f : Frame} (hpush : c.push f = .ok d) (h : d.Tightens e) :
  c.Tightens e.pop
  := by
  constructor
  · intro n hn
    exact h.limit n ((limit_of_push hpush).trans hn)
  · have hdepth := depth_of_push hpush
    have htight := h.depth
    have htail : e.pop.depth = e.depth - 1 := List.length_tail
    omega

end Tightens

end CallStack

/-- What an evaluation leaves to those after it: no more room for calls, and no more rounds. -/
structure State.Spends (s t : State) : Prop where
  calls : s.calls.Tightens t.calls
  rounds : s.budget.rounds ≤ t.budget.rounds

namespace State.Spends

/-- Nothing is spent by doing nothing. -/
theorem refl (s : State) :
  s.Spends s
  := by
  exact ⟨.refl _, Nat.le_refl _⟩

/-- What is spent adds up. -/
theorem trans {s t u : State} (h : s.Spends t) (h' : t.Spends u) :
  s.Spends u
  := by
  exact ⟨h.calls.trans h'.calls, Nat.le_trans h.rounds h'.rounds⟩

end State.Spends

/-- All built-ins have an answer, and none of them makes room for calls: they do not take away
active calls, and they do not raise or lift the limit on them. -/
def Builtins.Settled (table : Builtins) : Prop :=
  ∀ entry ∈ table, ∀ args s, ∃ t, (entry.2 args s).state? = some t ∧
    s.context.calls.Tightens t.context.calls

/-- What holds of the built-ins holds of their calls. -/
theorem Builtins.Settled.dispatch {table : Builtins} (h : table.Settled) (name : String)
    (args : List Value) (s : Scene) :
  ∃ t, (table.dispatch name args s).state? = some t ∧
    s.context.calls.Tightens t.context.calls
  := by
  rw [Builtins.dispatch]
  cases hf : Entries.get? name table with
  | none => exact ⟨s, rfl, .refl _⟩
  | some f =>
    obtain ⟨t, ht, hcalls⟩ := h _ (Entries.mem_of_get? hf) args s
    use t
    dsimp only at ht ⊢
    rw [Action.mapError_apply, Outcome.state?_treated, ht]
    exact ⟨rfl, hcalls⟩

/-- Detached built-ins are settled. -/
theorem Builtins.Detached.settled {table : Builtins} (h : table.Detached) :
  table.Settled
  := by
  intro entry hentry args s
  obtain ⟨x, lines, hanswer, -⟩ := h entry hentry args
  use s.printAll lines
  rw [hanswer]
  cases x with
  | ok v => exact ⟨rfl, .refl _⟩
  | error e => exact ⟨rfl, .refl _⟩

/-- Limits on nested calls and on loop rounds, of which the second can be exceeded by a count. -/
structure Quota where
  /-- The greatest number of nested calls. -/
  depth : Nat
  /-- The greatest number of loop rounds. -/
  rounds : Nat
  /-- Counts go beyond it. -/
  finite : rounds < greatestCount

namespace Quota

/-- At most `q` calls can still be nested, and at most `r` rounds can still begin. -/
structure Leaves (K : Quota) (q r : Nat) (s : State) : Prop where
  limit : ∃ n ≤ K.depth, s.calls.limit = some n
  calls : K.depth ≤ s.calls.depth + q
  rounds : K.rounds ≤ s.budget.iterations + r

/-- What is left is no more after more has been spent. -/
theorem Leaves.spends {K : Quota} {q r : Nat} {s t : State} (h : K.Leaves q r s)
    (hspends : s.Spends t) :
  K.Leaves q r t
  := by
  have hfinite := K.finite
  have hleft := h.rounds
  have hrounds : min s.budget.iterations greatestCount ≤ min t.budget.iterations greatestCount :=
    hspends.rounds
  constructor
  · obtain ⟨n, hn, hlimit⟩ := h.limit
    obtain ⟨m, hmn, hm⟩ := hspends.calls.limit n hlimit
    exact ⟨m, Nat.le_trans hmn hn, hm⟩
  · exact Nat.le_trans h.calls (Nat.add_le_add_right hspends.calls.depth q)
  · omega

/-- With so many calls and rounds left there is an answer. -/
structure Halts {α : Type} (K : Quota) (q r : Nat) (a : Nat → Eval α) : Prop where
  rising : Rising a
  ends : ∀ s, K.Leaves q r s → ∃ n t, (a n s).state? = some t ∧ s.Spends t

namespace Halts

variable {S : Setting} {K : Quota} {q r : Nat} {α β : Type} {a : Nat → Eval α}
  {f : α → Nat → Eval β}

/-- An action that always ends and only spends halts, whatever the quota. -/
theorem const {a : Eval α} (h : ∀ s, ∃ t, (a s).state? = some t ∧ s.Spends t) :
  K.Halts q r fun _ => a
  := by
  constructor
  · exact .const a
  · intro s _
    obtain ⟨t, ht, hspends⟩ := h s
    exact ⟨0, t, ht, hspends⟩

/-- A value by itself halts. -/
theorem pure (v : α) :
  K.Halts q r fun _ => (Pure.pure v : Eval α)
  := by
  apply const
  intro s
  exact ⟨s, rfl, .refl s⟩

/-- An error by itself halts. -/
theorem throw (cause : Cause) :
  K.Halts q r fun _ => (Eval.throw cause : Eval α)
  := by
  apply const
  intro s
  exact ⟨s, rfl, .refl s⟩

/-- Reading the state halts. -/
theorem gets (g : State → α) :
  K.Halts q r fun _ => (Action.gets g : Eval α)
  := by
  apply const
  intro s
  exact ⟨s, rfl, .refl s⟩

/-- An answer halts. -/
theorem ofExcept (x : Except Cause α) :
  K.Halts q r fun _ => Eval.ofExcept x
  := by
  cases x with
  | ok v => exact pure v
  | error cause => exact throw cause

/-- A sequence halts if the first action does and every continuation does. -/
theorem bind (ha : K.Halts q r a) (hf : ∀ v, K.Halts q r (f v)) :
  K.Halts q r fun n => a n >>= fun v => f v n
  := by
  constructor
  · exact ha.rising.bind fun v => (hf v).rising
  · intro s hs
    obtain ⟨n, t, ht, hst⟩ := ha.ends s hs
    cases hn : a n s with
    | outOfFuel =>
      rw [hn] at ht
      cases ht
    | failed e u =>
      rw [hn] at ht
      cases ht
      use n, t
      rw [Action.bind_apply, hn]
      exact ⟨rfl, hst⟩
    | done v u =>
      obtain ⟨k, u', hu', htu⟩ := (hf v).ends t (hs.spends hst)
      have hfirst := ha.rising.stays (Nat.le_max_left n k) ht
      have hsecond := (hf v).rising.stays (Nat.le_max_right n k) hu'
      rw [hn] at ht
      cases ht
      use max n k, u'
      rw [Action.bind_apply, hfirst, hn]
      dsimp only
      rw [hsecond]
      exact ⟨hu', hst.trans htu⟩

/-- A family that starts with no answer at all halts when the rest of it does. -/
theorem shift {b : Nat → Eval α} (hzero : b 0 = Action.exhausted) (hsucc : ∀ n, b (n + 1) = a n)
    (ha : K.Halts q r a) :
  K.Halts q r b
  := by
  constructor
  · intro n k h
    cases n with
    | zero =>
      rw [hzero]
      apply Action.Below.exhausted
    | succ n =>
      cases k with
      | zero => cases h
      | succ k =>
        rw [hsucc, hsucc]
        exact ha.rising n k (Nat.le_of_succ_le_succ h)
  · intro s hs
    obtain ⟨n, t, ht, hspends⟩ := ha.ends s hs
    use n + 1, t
    rw [hsucc]
    exact ⟨ht, hspends⟩

/-! ### The machine -/

/-- What halts does so at a place. -/
theorem located (span : Span) (ha : K.Halts q r a) :
  K.Halts q r fun n => Eval.located span (a n)
  := by
  constructor
  · intro n k h
    exact located_below span (ha.rising n k h)
  · intro s hs
    obtain ⟨n, t, ht, hspends⟩ := ha.ends s hs
    use n, t
    rw [located_apply, Outcome.state?_treated, ht]
    exact ⟨rfl, hspends⟩

/-- A tree halts when what it does with its parts halts. -/
theorem node {b : Nat → Eval α} {span : Span} (hzero : b 0 = Action.exhausted)
    (hsucc : ∀ n, b (n + 1) = Eval.located span (a n)) (ha : K.Halts q r a) :
  K.Halts q r b
  := by
  exact shift hzero hsucc (located span ha)

/-- What halts does so in a new scope, as entering and leaving a scope spends nothing. -/
theorem inScope (ha : K.Halts q r a) :
  K.Halts q r fun n => Eval.inScope (a n)
  := by
  constructor
  · intro n k h
    exact inScope_below (ha.rising n k h)
  · intro s hs
    obtain ⟨n, t, ht, hspends⟩ := ha.ends s.pushed ⟨hs.limit, hs.calls, hs.rounds⟩
    use n, t.popped
    rw [inScope_apply, Outcome.state?_treated, ht]
    exact ⟨rfl, hspends.calls, hspends.rounds⟩

/-- What halts does so in a closure. -/
theorem inClosure (f : Closure) (ha : K.Halts q r a) :
  K.Halts q r fun n => Eval.inClosure f (a n)
  := by
  constructor
  · intro n k h
    exact inClosure_below f (ha.rising n k h)
  · intro s hs
    obtain ⟨n, t, ht, hspends⟩ := ha.ends (s.inside f) ⟨hs.limit, hs.calls, hs.rounds⟩
    use n, t.within s.env
    rw [inClosure_apply, Outcome.state?_treated, ht]
    exact ⟨rfl, hspends.calls, hspends.rounds⟩

/-- The declaration of a variable halts. -/
theorem define (name : String) (v : Value) :
  K.Halts q r fun _ => Eval.define name v
  := by
  apply const
  intro s
  exact ⟨s.defined name v, rfl, .refl _, Nat.le_refl _⟩

/-- The declaration of several variables halts. -/
theorem defineAll (pairs : List (String × Value)) :
  K.Halts q r fun _ => change fun s => s.defineAll pairs
  := by
  induction pairs with
  | nil =>
    apply const
    intro s
    exact ⟨s, rfl, .refl s⟩
  | cons p rest ih => exact bind (define p.1 p.2) fun _ => ih

/-- What halts does so in a scope with names in it. -/
theorem inScopeWith (pairs : List (String × Value)) (ha : K.Halts q r a) :
  K.Halts q r fun n => Eval.inScopeWith pairs (a n)
  := by
  apply inScope
  apply bind (defineAll pairs)
  intro _
  exact ha

/-- A block halts if its body does. -/
theorem settled {a : Nat → Eval Flow} (ha : K.Halts q r a) :
  K.Halts q r fun n => Eval.inScope (a n) >>= fun flow => Pure.pure flow.settle
  := by
  apply bind (inScope ha)
  intro flow
  exact pure _

/-- A call takes one of the calls that are left; without one it is refused. -/
theorem inFrame (frame : Frame) (hrising : Rising a) (ha : ∀ q', q = q' + 1 → K.Halts q' r a) :
  K.Halts q r fun n => Eval.inFrame S frame (a n)
  := by
  constructor
  · intro n k h
    exact inFrame_below S frame (hrising n k h)
  · intro s hs
    have hchecked : s.Spends s.checked := ⟨.refl _, Nat.le_refl _⟩
    cases hverdict : s.budget.callVerdict S.limits S.clock s.scene.host.runs with
    | some why =>
      use 0, s.checked
      rw [inFrame_apply, hverdict]
      exact ⟨rfl, hchecked⟩
    | none =>
      cases hpush : s.calls.push frame with
      | error cause =>
        use 0, s.checked
        rw [inFrame_apply, hverdict, hpush]
        exact ⟨rfl, hchecked⟩
      | ok calls =>
        have hdepth := CallStack.depth_of_push hpush
        cases q with
        | zero =>
          obtain ⟨m, hm, hlimit⟩ := hs.limit
          have hfull := (CallStack.push_eq_error_iff s.calls frame _).mpr
            ⟨m, hlimit, Nat.le_trans hm hs.calls, rfl⟩
          rw [hpush] at hfull
          cases hfull
        | succ q =>
          have hentered : K.Leaves q r (s.checked.entered calls) := by
            constructor
            · obtain ⟨m, hm, hlimit⟩ := hs.limit
              exact ⟨m, hm, (CallStack.limit_of_push hpush).trans hlimit⟩
            · have hcalls := hs.calls
              show K.depth ≤ calls.depth + q
              omega
            · exact hs.rounds
          obtain ⟨n, t, ht, hspends⟩ := (ha q rfl).ends _ hentered
          use n, t.left
          rw [inFrame_apply, hverdict, hpush]
          dsimp only
          rw [Outcome.state?_treated, ht]
          exact ⟨rfl, hspends.calls.pop hpush, hspends.rounds⟩

/-- An assignment halts, whether the name is bound or not. -/
theorem assign (name : String) (v : Value) :
  K.Halts q r fun _ => Eval.assign name v
  := by
  apply const
  intro s
  use s.assigned name v
  rw [assign_apply]
  split
  · exact ⟨rfl, .refl _, Nat.le_refl _⟩
  · exact ⟨rfl, .refl _, Nat.le_refl _⟩

/-- A hand-off halts, whatever the sink does. -/
theorem handOff (d : HandedOff) :
  K.Halts q r fun _ => Eval.handOff S d
  := by
  apply const
  intro s
  use s.logged (S.sink.receive s.scene.context.script d s.scene.host.log).1
  rw [handOff_apply]
  split
  · exact ⟨rfl, .refl _, Nat.le_refl _⟩
  · exact ⟨rfl, .refl _, Nat.le_refl _⟩

/-- A checkpoint in a loop spends a round and nothing else. -/
theorem spends_ticked (s : State) :
  s.Spends s.ticked
  := by
  exact ⟨.refl _, s.budget.rounds_le_rounds_counted⟩

/-- A checkpoint in a loop halts. -/
theorem tick :
  K.Halts q r fun _ => Eval.tick S
  := by
  apply const
  intro s
  use s.ticked
  rw [tick_apply]
  split
  · exact ⟨rfl, spends_ticked s⟩
  · exact ⟨rfl, spends_ticked s⟩

/-- A round takes one of the rounds that are left; without one it does not begin. -/
theorem tick_bind (hrounds : S.limits.iterations = some K.rounds) (hrising : Rising a)
    (ha : ∀ r', r = r' + 1 → K.Halts q r' a) :
  K.Halts q r fun n => Eval.tick S >>= fun _ => a n
  := by
  constructor
  · exact (Rising.const _).bind fun _ => hrising
  · intro s hs
    cases hverdict : s.budget.counted.roundVerdict S.limits S.clock s.scene.host.runs with
    | some why =>
      use 0, s.ticked
      rw [Action.bind_apply, tick_apply, hverdict]
      exact ⟨rfl, spends_ticked s⟩
    | none =>
      have hwithin : s.budget.counted.iterations ≤ K.rounds := by
        apply Nat.not_lt.mp
        intro hbeyond
        rw [Budget.roundVerdict, hrounds] at hverdict
        dsimp only at hverdict
        rw [if_pos hbeyond] at hverdict
        cases hverdict
      -- a round that may begin is counted: the count is not at the greatest one yet
      have hcount : s.budget.counted.iterations = s.budget.iterations + 1 := by
        have hfinite := K.finite
        have hmin : s.budget.counted.iterations = min (s.budget.iterations + 1) greatestCount :=
          rfl
        omega
      have hleft := hs.rounds
      cases r with
      | zero => omega
      | succ r =>
        have hticked : K.Leaves q r s.ticked := by
          refine ⟨hs.limit, hs.calls, ?_⟩
          show K.rounds ≤ s.budget.counted.iterations + r
          omega
        obtain ⟨n, t, ht, hspends⟩ := (ha r rfl).ends s.ticked hticked
        use n, t
        rw [Action.bind_apply, tick_apply, hverdict]
        exact ⟨ht, (spends_ticked s).trans hspends⟩

/-- A call of a built-in that answers and makes no room halts. -/
theorem callBuiltin (hS : S.builtins.Settled) (name : String) (args : List Value)
    (span : Option Span) :
  K.Halts q r fun _ => Eval.callBuiltin S name args span
  := by
  have hdispatch : ∀ q', K.Halts q' r fun _ => onScene (S.builtins.dispatch name args) := by
    intro q'
    apply const
    intro s
    obtain ⟨t, ht, hcalls⟩ := hS.dispatch name args s.scene
    use { s with scene := t }
    rw [state?_onScene, ht]
    exact ⟨rfl, hcalls, Nat.le_refl _⟩
  apply inFrame _ (.const _)
  intro q' _
  exact hdispatch q'

/-! ### Sequences and loops -/

/-- Actions for the items of a list halt if each of them does. -/
theorem each {γ δ : Type} {g : Nat → γ → Eval δ} {xs : List γ}
    (h : ∀ x ∈ xs, K.Halts q r fun n => g n x) :
  K.Halts q r fun n => Action.each (g n) xs
  := by
  induction xs with
  | nil => exact pure []
  | cons x rest ih =>
    obtain ⟨hx, hrest⟩ := List.forall_mem_cons.mp h
    apply bind hx
    intro y
    apply bind (ih hrest)
    intro ys
    exact pure (y :: ys)

/-- Statements one after the other halt if each of them does. -/
theorem sequence {exec : Nat → Stmt → Eval Flow} {body : List Stmt}
    (h : ∀ s ∈ body, K.Halts q r fun n => exec n s) (last : Value) :
  K.Halts q r fun n => Eval.sequence (exec n) last body
  := by
  induction body generalizing last with
  | nil => exact pure _
  | cons s rest ih =>
    obtain ⟨hs, hrest⟩ := List.forall_mem_cons.mp h
    apply bind hs
    intro flow
    cases flow with
    | normal v => exact ih hrest v
    | returned v => exact pure _

/-- A loop over values halts if its body does, as there are only so many values. -/
theorem forEach {body : Nat → Value → Eval Flow} (h : ∀ v, K.Halts q r fun n => body n v)
    (vs : List Value) :
  K.Halts q r fun n => Eval.forEach S (body n) vs
  := by
  induction vs with
  | nil => exact pure _
  | cons v rest ih =>
    apply bind tick
    intro _
    apply bind (h v)
    intro flow
    cases flow with
    | normal v => exact ih
    | returned v => exact pure _

/-- What is left of a round after its check, together with all rounds after it. -/
def restOfRound (S : Setting) (condition : Eval Bool) (body : Eval Flow) (update : Eval Unit)
    (fuel : Nat) : Eval Flow := do
  match ← body with
  | .returned v => Pure.pure (.returned v)
  | .normal _ =>
    update
    Eval.rounds S condition body update fuel

variable {condition : Nat → Eval Bool} {body : Nat → Eval Flow} {update : Nat → Eval Unit}

/-- The rest of a round keeps its answers if the body, the last part of the header and the next
rounds do. -/
theorem rising_restOfRound (hb : Rising body) (hu : Rising update)
    (hrounds : Rising fun n => Eval.rounds S (condition n) (body n) (update n) n) :
  Rising fun n => restOfRound S (condition n) (body n) (update n) n
  := by
  apply hb.bind
  intro flow
  cases flow with
  | returned v => exact .const _
  | normal v => exact hu.bind fun _ => hrounds

/-- The rest of a round halts if the body, the last part of the header and the next rounds do. -/
theorem restOfRound_halts (hb : K.Halts q r body) (hu : K.Halts q r update)
    (hrounds : K.Halts q r fun n => Eval.rounds S (condition n) (body n) (update n) n) :
  K.Halts q r fun n => restOfRound S (condition n) (body n) (update n) n
  := by
  apply bind hb
  intro flow
  cases flow with
  | returned v => exact pure _
  | normal v => exact bind hu fun _ => hrounds

/-- A loop halts when its parts do, whatever the number of rounds that are left. -/
theorem rounds (hlimit : S.limits.iterations = some K.rounds)
    (hc : ∀ r, K.Halts q r condition) (hb : ∀ r, K.Halts q r body)
    (hu : ∀ r, K.Halts q r update) :
  K.Halts q r fun n => Eval.rounds S (condition n) (body n) (update n) n
  := by
  have hrising : Rising fun n => Eval.rounds S (condition n) (body n) (update n) n := by
    intro n k h
    exact rounds_below S ((hc 0).rising n k h) ((hb 0).rising n k h) ((hu 0).rising n k h) h
  have hround : ∀ r, (∀ r', r = r' + 1 →
        K.Halts q r' fun n => Eval.rounds S (condition n) (body n) (update n) n) →
      K.Halts q r fun n => Eval.rounds S (condition n) (body n) (update n) (n + 1) := by
    intro r hagain
    apply bind (hc r)
    intro goesOn
    cases goesOn with
    | false => exact pure _
    | true =>
      apply tick_bind hlimit
      · exact rising_restOfRound (hb 0).rising (hu 0).rising hrising
      · intro r' hr'
        exact restOfRound_halts (hb r') (hu r') (hagain r' hr')
  -- the first round is run with one of the fuel less than the others
  have hshift : ∀ r, (K.Halts q r fun n =>
        Eval.rounds S (condition n) (body n) (update n) (n + 1)) →
      K.Halts q r fun n => Eval.rounds S (condition n) (body n) (update n) n := by
    intro r h
    use hrising
    intro s hs
    obtain ⟨n, t, ht, hspends⟩ := h.ends s hs
    have hn := Nat.le_succ n
    have hbelow := rounds_below S ((hc 0).rising n _ hn) ((hb 0).rising n _ hn)
      ((hu 0).rising n _ hn) (Nat.le_refl (n + 1))
    use n + 1, t
    obtain hnone | hsame := hbelow s
    · rw [hnone] at ht
      cases ht
    · rw [← hsame]
      exact ⟨ht, hspends⟩
  induction r with
  | zero =>
    apply hshift 0
    apply hround 0
    intro r' hr'
    cases hr'
  | succ r ih =>
    apply hshift (r + 1)
    apply hround (r + 1)
    intro r' hr'
    cases hr'
    exact ih

/-- The items of a value are there or an error is. -/
theorem items (span : Span) (v : Value) :
  K.Halts q r fun _ => Eval.items span v
  := by
  cases v with
  | list vs => exact pure _
  | _ => exact located span (throw _)

/-- The resolution of a name halts. -/
theorem resolve (name : String) :
  K.Halts q r fun _ => Eval.resolve S name
  := by
  apply bind (gets _)
  intro found
  cases found with
  | some v => exact pure v
  | none =>
    dsimp only
    split
    · exact pure _
    · exact throw _

/-- A call by name halts if calls of closures do. -/
theorem callNamed (hS : S.builtins.Settled)
    {call : Nat → Closure → List Value → Option Span → Eval Value}
    (hcall : ∀ f args span, K.Halts q r fun n => call n f args span) (name : String)
    (args : List Value) (span : Span) :
  K.Halts q r fun n => Eval.callNamed S (call n) name args span
  := by
  unfold Eval.callNamed
  split
  · exact callBuiltin hS name args (some span)
  · apply bind (gets _)
    intro found
    split
    · exact callBuiltin hS _ args (some span)
    · exact hcall _ args (some span)
    · exact throw _

/-- A value that may be missing halts if expressions do. -/
theorem optionalValue {eval : Nat → Expr → Eval Value}
    (h : ∀ e, K.Halts q r fun n => eval n e) (value : Option Expr) :
  K.Halts q r fun n => Eval.optionalValue (eval n) value
  := by
  cases value with
  | none => exact pure _
  | some e => exact h e

/-- The condition of a loop halts if expressions do. -/
theorem loopCondition {eval : Nat → Expr → Eval Value}
    (h : ∀ e, K.Halts q r fun n => eval n e) (condition : Option Expr) :
  K.Halts q r fun n => Eval.loopCondition (eval n) condition
  := by
  cases condition with
  | none => exact pure _
  | some e => exact bind (h e) fun v => pure _

/-- The first part of a loop header halts if expressions do. -/
theorem loopStart {eval : Nat → Expr → Eval Value}
    (h : ∀ e, K.Halts q r fun n => eval n e) (start : Option LoopStart) :
  K.Halts q r fun n => Eval.loopStart (eval n) start
  := by
  cases start with
  | none => exact pure _
  | some start =>
    apply bind (h start.value)
    intro v
    split
    · exact define start.name v
    · exact assign start.name v

/-- The last part of a loop header halts if expressions do. -/
theorem loopUpdate {eval : Nat → Expr → Eval Value}
    (h : ∀ e, K.Halts q r fun n => eval n e) (update : Option LoopUpdate) :
  K.Halts q r fun n => Eval.loopUpdate (eval n) update
  := by
  cases update with
  | none => exact pure _
  | some update =>
    apply bind (h update.value)
    intro v
    exact assign update.name v

end Halts

end Quota

end StoryScript
