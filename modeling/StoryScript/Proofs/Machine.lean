import StoryScript.Eval.Evaluator

/-!
# How the machine runs

The parts of the machine as functions of the state.  A part that runs an evaluation under some
protection, a place, a scope, a frame or the environment of a closure, prepares the state, runs
the evaluation and treats its outcome: a found error may learn something, and the state is
cleaned up either way.
-/

namespace StoryScript

open Eval

namespace Outcome

variable {σ ε δ α : Type}

/-- The state that is left behind, if there is an answer. -/
def state? : Outcome σ ε α → Option σ
  | .done _ t => some t
  | .failed _ t => some t
  | .outOfFuel => none

/-- The outcome after a treatment: an error may learn from the state in which it arose, and the
state is cleaned up. -/
def treated (learn : σ → ε → δ) (cleanup : σ → σ) : Outcome σ ε α → Outcome σ δ α
  | .done v t => .done v (cleanup t)
  | .failed e t => .failed (learn t e) (cleanup t)
  | .outOfFuel => .outOfFuel

/-- Cleaning up changes the state at the end, if there is one, and nothing else about how it is
reached. -/
theorem state?_treated (learn : σ → ε → δ) (cleanup : σ → σ) (o : Outcome σ ε α) :
  (o.treated learn cleanup).state? = o.state?.map cleanup
  := by
  cases o <;> rfl

end Outcome

namespace Action

variable {σ ε δ α : Type}

/-- An action with other errors runs as before; only its error is learned from the state in which it
fails. -/
theorem mapError_apply (f : σ → ε → δ) (a : Action σ ε α) (s : σ) :
  a.mapError f s = (a s).treated f id
  := by
  rw [mapError]
  cases a s <;> rfl

/-- An action with a cleanup ends in the state cleaned up, whether it fails or not. -/
theorem ensuring_apply (a : Action σ ε α) (cleanup : σ → σ) (s : σ) :
  a.ensuring cleanup s = (a s).treated (fun _ e => e) cleanup
  := by
  rw [ensuring]
  cases a s <;> rfl

/-- Errors are learned from the state before the cleanup. -/
theorem ensuring_mapError_apply (f : σ → ε → δ) (a : Action σ ε α) (cleanup : σ → σ) (s : σ) :
  (a.mapError f).ensuring cleanup s = (a s).treated f cleanup
  := by
  rw [ensuring_apply, mapError_apply]
  cases a s <;> rfl

/-- A sequence of two actions that is done has done the first one and then the second one. -/
theorem exists_of_bind_done {β : Type} {a : Action σ ε α} {f : α → Action σ ε β} {s t : σ} {v : β}
    (h : (a >>= f) s = .done v t) :
  ∃ w u, a s = .done w u ∧ f w u = .done v t
  := by
  rw [bind_apply] at h
  cases ha : a s with
  | done w u =>
    rw [ha] at h
    exact ⟨w, u, rfl, h⟩
  | failed e u =>
    rw [ha] at h
    cases h
  | outOfFuel =>
    rw [ha] at h
    cases h

end Action

namespace Budget

/-- The loop rounds begun, up to the greatest count. -/
def rounds (b : Budget) : Nat := min b.iterations greatestCount

/-- Counting a round never takes rounds away. -/
theorem rounds_le_rounds_counted (b : Budget) :
  b.rounds ≤ b.counted.rounds
  := by
  show min b.iterations greatestCount ≤ min (min (b.iterations + 1) greatestCount) greatestCount
  omega

end Budget

/-- A backtrace does not change the cause of an error. -/
theorem CallStack.cause_attach (calls : CallStack) (e : Error) :
  (calls.attach e).cause = e.cause
  := by
  unfold attach
  split
  · rfl
  · rfl

/-- A place does not change the cause of an error. -/
theorem Error.cause_orSpan (e : Error) (span : Span) :
  (e.orSpan span).cause = e.cause
  := by
  unfold orSpan
  split
  · rfl
  · rfl

/-- Settings that differ at most in their clocks, without a deadline. -/
structure Setting.Untimed (S T : Setting) : Prop where
  builtins : S.builtins = T.builtins
  sink : S.sink = T.sink
  limits : S.limits = T.limits
  deadline : S.limits.deadline = none

namespace Setting.Untimed

variable {S T : Setting} (h : S.Untimed T)

include h

/-- Without a deadline the clock does not matter. -/
theorem callVerdict_eq (b : Budget) (runs : Runs) :
  b.callVerdict S.limits S.clock runs = b.callVerdict T.limits T.clock runs
  := by
  unfold Budget.callVerdict
  rw [← h.limits, h.deadline]

/-- Without deadlines, rounds of loops are checked alike, whatever the clocks. -/
theorem roundVerdict_eq (b : Budget) (runs : Runs) :
  b.roundVerdict S.limits S.clock runs = b.roundVerdict T.limits T.clock runs
  := by
  unfold Budget.roundVerdict
  rw [h.callVerdict_eq, h.limits]

end Setting.Untimed

namespace State

/-- The call stack. -/
def calls (s : State) : CallStack := s.scene.context.calls

/-- The current environment. -/
def env (s : State) : Environment := s.scene.context.env

/-- The heap of scopes. -/
def heap (s : State) : Heap := s.scene.host.heap

/-- The state after a check. -/
def checked (s : State) : State := { s with budget := s.budget.checked }

/-- The state after the check of a loop round. -/
def ticked (s : State) : State := { s with budget := s.budget.counted.checked }

/-- The state with a variable bound in the innermost scope. -/
def defined (s : State) (name : String) (v : Value) : State :=
  { s with scene := s.scene.define name v }

/-- The state with a new value for the nearest binding of a variable. -/
def assigned (s : State) (name : String) (v : Value) : State :=
  { s with scene := (s.scene.assign name v).1 }

/-- The state with another log of declarations. -/
def logged (s : State) (log : DeclarationLog) : State := { s with scene.host.log := log }

/-- The state in a new scope. -/
def pushed (s : State) : State := { s with scene := s.scene.pushScope }

/-- The state after its innermost scope is left. -/
def popped (s : State) : State := { s with scene := s.scene.popScope }

/-- The state with one more call. -/
def entered (s : State) (calls : CallStack) : State :=
  ⟨{ s.scene with context.calls := calls }, s.budget.nested calls.depth⟩

/-- The state after its most recent call is left. -/
def left (s : State) : State := { s with scene.context.calls := s.calls.pop }

/-- The state in another environment. -/
def within (s : State) (env : Environment) : State := { s with scene.context.env := env }

/-- The state in which the body of a closure starts. -/
def inside (s : State) (f : Closure) : State := (s.within (.onScope f.scope f.global)).pushed

end State

namespace Eval

variable {α : Type}

/-- A place is given to an error only, and only if it has none. -/
theorem located_apply (span : Span) (a : Eval α) (s : State) :
  located span a s = (a s).treated (fun _ e => e.orSpan span) id
  := by
  apply Action.mapError_apply

/-- What is done at a place is done without it, in the same states. -/
theorem of_located_done {span : Span} {a : Eval α} {s t : State} {v : α}
    (h : located span a s = .done v t) :
  a s = .done v t
  := by
  rw [located_apply] at h
  cases ha : a s with
  | done w u =>
    rw [ha] at h
    exact h
  | failed e u =>
    rw [ha] at h
    cases h
  | outOfFuel =>
    rw [ha] at h
    cases h

/-- An action on the scene leaves the rest of the state alone. -/
theorem onScene_apply (a : Action Scene Error α) (s : State) :
  onScene a s = match a s.scene with
    | .done v t => .done v { s with scene := t }
    | .failed e t => .failed e { s with scene := t }
    | .outOfFuel => .outOfFuel
  := rfl

/-- An action on the scene ends in the state with the scene in which it ends. -/
theorem state?_onScene (a : Action Scene Error α) (s : State) :
  (onScene a s).state? = (a s.scene).state?.map fun t => { s with scene := t }
  := by
  rw [onScene_apply]
  cases a s.scene <;> rfl

/-- An assignment fails exactly if no scope binds the name. -/
theorem assign_apply (name : String) (v : Value) (s : State) :
  assign name v s = if (s.scene.assign name v).2 then .done () (s.assigned name v)
    else .failed (Error.ofCause (.undefinedVariable name)) (s.assigned name v)
  := by
  rw [assign, State.assigned]
  rcases s.scene.assign name v with ⟨t, _ | _⟩ <;> rfl

/-- A declaration is handed to the sink; what the sink refuses becomes an error about host code. -/
theorem handOff_apply (S : Setting) (d : HandedOff) (s : State) :
  handOff S d s
    = match (S.sink.receive s.scene.context.script d s.scene.host.log).2 with
      | .ok () =>
        .done () (s.logged (S.sink.receive s.scene.context.script d s.scene.host.log).1)
      | .error e =>
        .failed (Error.ofBuiltin "host_code" e)
          (s.logged (S.sink.receive s.scene.context.script d s.scene.host.log).1)
  := by
  show (match (S.sink.receive s.scene.context.script d s.scene.host.log).2 with
    | .ok () => pure ()
    | .error e => Action.fail (Error.ofBuiltin "host_code" e) : Eval Unit)
      (s.logged (S.sink.receive s.scene.context.script d s.scene.host.log).1) = _
  cases (S.sink.receive s.scene.context.script d s.scene.host.log).2 <;> rfl

/-- An interruption is an error in the same state. -/
theorem obey_apply (verdict : Option Interruption) (s : State) :
  obey verdict s = match verdict with
    | some why => .failed (Error.ofCause (.interrupted why)) s
    | none => .done () s
  := by
  cases verdict <;> rfl

/-- A round of a loop is counted before it is checked. -/
theorem tick_apply (S : Setting) (s : State) :
  tick S s = match s.budget.counted.roundVerdict S.limits S.clock s.scene.host.runs with
    | some why => .failed (Error.ofCause (.interrupted why)) s.ticked
    | none => .done () s.ticked
  := by
  apply obey_apply

/-- What runs in a new scope runs in the state with the scope pushed, and the scope is popped in the
end. -/
theorem inScope_apply (a : Eval α) (s : State) :
  inScope a s = (a s.pushed).treated (fun _ e => e) State.popped
  := by
  apply Action.ensuring_apply

/-- What runs in a closure starts in its scopes, and the environment is put back in the end. -/
theorem inClosure_apply (f : Closure) (a : Eval α) (s : State) :
  inClosure f a s = (a (s.inside f)).treated (fun _ e => e) (fun t => t.within s.env)
  := by
  apply Action.ensuring_apply

/-- A call is checked first; then it needs room for its frame; then it runs under the frame.  An
error gets its backtrace before the frame is taken away. -/
theorem inFrame_apply (S : Setting) (frame : Frame) (a : Eval α) (s : State) :
  inFrame S frame a s
    = match s.budget.callVerdict S.limits S.clock s.scene.host.runs with
      | some why => .failed (Error.ofCause (.interrupted why)) s.checked
      | none =>
        match s.calls.push frame with
        | .error cause => .failed (Error.ofCause cause) s.checked
        | .ok calls =>
          (a (s.checked.entered calls)).treated (fun t e => t.calls.attach e) State.left
  := by
  have hcheck : checkCall S s
      = match s.budget.callVerdict S.limits S.clock s.scene.host.runs with
        | some why => .failed (Error.ofCause (.interrupted why)) s.checked
        | none => .done () s.checked := by
    apply obey_apply
  rw [inFrame, Action.bind_apply, hcheck]
  cases s.budget.callVerdict S.limits S.clock s.scene.host.runs with
  | some why => rfl
  | none =>
    show (match s.calls.push frame with
      | .error cause => _
      | .ok calls => _ : Eval α) s.checked = _
    cases s.calls.push frame with
    | error cause => rfl
    | ok calls => apply Action.ensuring_mapError_apply

end Eval

end StoryScript
