/-!
# Actions

An action changes a state and ends in one of three ways: with a value, with an error, or
because its fuel is used up.  A failed action keeps what it did to the state before.  Running
out of fuel is kept apart from all errors: it says nothing about the action but that more
fuel is needed.
-/

namespace StoryScript

/-- How an action ends. -/
inductive Outcome (σ ε α : Type) where
  /-- With a value. -/
  | done (value : α) (state : σ)
  /-- With an error. -/
  | failed (error : ε) (state : σ)
  /-- Without an answer. -/
  | outOfFuel

/-- An action on states `σ` with errors `ε` and values `α`. -/
def Action (σ ε α : Type) : Type := σ → Outcome σ ε α

namespace Action

variable {σ ε δ α β : Type}

/-- Run the action in a state. -/
@[inline] def run (a : Action σ ε α) (s : σ) : Outcome σ ε α := a s

/-- The action that does nothing but have a value. -/
@[inline] protected def pure (value : α) : Action σ ε α := fun s => .done value s

/-- One action after the other. -/
@[inline] protected def bind (a : Action σ ε α) (f : α → Action σ ε β) : Action σ ε β := fun s =>
  match a s with
  | .done value t => f value t
  | .failed e t => .failed e t
  | .outOfFuel => .outOfFuel

instance : Monad (Action σ ε) where
  pure := Action.pure
  bind := Action.bind

/-- The action that fails. -/
@[inline] def fail (e : ε) : Action σ ε α := fun s => .failed e s

/-- The action that has no fuel. -/
@[inline] def exhausted : Action σ ε α := fun _ => .outOfFuel

/-- The state. -/
@[inline] def state : Action σ ε σ := fun s => .done s s

/-- A part of the state. -/
@[inline] def gets (f : σ → α) : Action σ ε α := fun s => .done (f s) s

/-- A change of the state. -/
@[inline] def modify (f : σ → σ) : Action σ ε Unit := fun s => .done () (f s)

/-- The action with the outcome of a computation that sees no state. -/
@[inline] def ofExcept : Except ε α → Action σ ε α
  | .ok value => Action.pure value
  | .error e => fail e

/-- The action with its error changed; the change may look at the state in which the action
failed. -/
@[inline] def mapError (f : σ → ε → δ) (a : Action σ ε α) : Action σ δ α := fun s =>
  match a s with
  | .done value t => .done value t
  | .failed e t => .failed (f t e) t
  | .outOfFuel => .outOfFuel

/-- The action followed by a change of the state, whether it fails or not. -/
@[inline] def ensuring (a : Action σ ε α) (cleanup : σ → σ) : Action σ ε α := fun s =>
  match a s with
  | .done value t => .done value (cleanup t)
  | .failed e t => .failed e (cleanup t)
  | .outOfFuel => .outOfFuel

/-- The action with its error as a value. -/
@[inline] def attempt (a : Action σ ε α) : Action σ δ (Except ε α) := fun s =>
  match a s with
  | .done value t => .done (.ok value) t
  | .failed e t => .done (.error e) t
  | .outOfFuel => .outOfFuel

/-- The values of an action on each item of a list, from the first to the last. -/
def each (f : α → Action σ ε β) : List α → Action σ ε (List β)
  | [] => pure []
  | a :: rest => do
    let b ← f a
    let bs ← each f rest
    return b :: bs

/-! ### How actions run -/

/-- A value by itself is answered in the state as it is. -/
@[simp] theorem pure_apply (value : α) (s : σ) :
  (pure value : Action σ ε α) s = .done value s
  := rfl

/-- The second action runs on the value and in the state that the first one ends with, if it is
done. -/
@[simp] theorem bind_apply (a : Action σ ε α) (f : α → Action σ ε β) (s : σ) :
  (a >>= f) s = match a s with
    | .done value t => f value t
    | .failed e t => .failed e t
    | .outOfFuel => .outOfFuel
  := rfl

/-- An error by itself is raised in the state as it is. -/
@[simp] theorem fail_apply (e : ε) (s : σ) :
  (fail e : Action σ ε α) s = .failed e s
  := rfl

/-- There is no answer in any state when the fuel is used up. -/
@[simp] theorem exhausted_apply (s : σ) :
  (exhausted : Action σ ε α) s = .outOfFuel
  := rfl

/-- Reading the state answers with what is read and leaves the state. -/
@[simp] theorem gets_apply (f : σ → α) (s : σ) :
  (gets f : Action σ ε α) s = .done (f s) s
  := rfl

/-- Modifying the state answers with nothing. -/
@[simp] theorem modify_apply (f : σ → σ) (s : σ) :
  (modify f : Action σ ε Unit) s = .done () (f s)
  := rfl

/-- An action whose value is left as it is runs as it does. -/
theorem map_id_apply (x : Action σ ε α) :
  id <$> x = x
  := by
  funext s
  show Action.bind x _ s = x s
  unfold Action.bind
  cases x s <;> rfl

/-- How actions are grouped into sequences does not matter. -/
theorem bind_assoc_apply {γ : Type} (x : Action σ ε α) (f : α → Action σ ε β)
    (g : β → Action σ ε γ) :
  x >>= f >>= g = x >>= fun a => f a >>= g
  := by
  funext s
  show Action.bind (Action.bind x f) g s = Action.bind x _ s
  unfold Action.bind
  cases x s <;> rfl

instance : LawfulMonad (Action σ ε) :=
  LawfulMonad.mk' (Action σ ε) map_id_apply (fun _ _ => rfl) bind_assoc_apply

end Action

end StoryScript
