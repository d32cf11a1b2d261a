import StoryScript.Proofs.Quota
import StoryScript.Proofs.Trees

/-!
# Limited runs end

A run with a limit on nested calls and a limit on loop rounds always has an answer.  The measure
is lexicographic: the calls that may still be nested, the rounds that may still begin, and the
tree.  Main statement: under such limits every program, every event handler and every deferred
call ends with a value or an error, as long as no built-in makes room for calls.  A built-in that
does, because it lifts the limit on nested calls or takes active calls away, is enough for a run
without an end.
-/

namespace StoryScript

open Eval

namespace Quota

/-! ### Trees -/

/-- The quota holds in the setting, and the built-ins are settled. -/
structure Governs (K : Quota) (S : Setting) : Prop where
  rounds : S.limits.iterations = some K.rounds
  builtins : S.builtins.Settled

/-- With so many calls left, all calls of closures halt, whatever the number of rounds left. -/
def CallsHalt (K : Quota) (S : Setting) (q : Nat) : Prop :=
  ∀ r f args span, K.Halts q r fun n => callClosure S n f args span

variable {S : Setting} {K : Quota} {q r : Nat}

theorem CallsHalt.expr (hcalls : K.CallsHalt S q) (hS : S.builtins.Settled) (r : Nat) (e : Expr) :
  K.Halts q r fun n => evalExpr S n e
  := by
  induction e using Expr.induct with
  | binary span op left right hleft hright =>
    apply Halts.node rfl fun _ => rfl
    apply hleft.bind
    intro l
    apply hright.bind
    intro r
    exact .ofExcept _
  | unary span op operand h =>
    apply Halts.node rfl fun _ => rfl
    apply h.bind
    intro v
    exact .ofExcept _
  | call span callee args h =>
    apply Halts.node rfl fun _ => rfl
    apply (Halts.each h).bind
    intro vs
    exact .callNamed hS (hcalls r) callee vs span
  | member span target name h =>
    apply Halts.node rfl fun _ => rfl
    apply h.bind
    intro v
    exact .ofExcept _
  | index span target place htarget hplace =>
    apply Halts.node rfl fun _ => rfl
    apply htarget.bind
    intro v
    apply hplace.bind
    intro i
    exact .ofExcept _
  | assign span name value h =>
    apply Halts.node rfl fun _ => rfl
    apply h.bind
    intro v
    apply (Halts.assign name v).bind
    intro _
    exact .pure v
  | identifier span name =>
    apply Halts.node rfl fun _ => rfl
    exact .resolve name
  | literal span value =>
    apply Halts.node rfl fun _ => rfl
    exact .pure _
  | list span items h =>
    apply Halts.node rfl fun _ => rfl
    apply (Halts.each h).bind
    intro vs
    exact .pure _
  | map span entries h =>
    apply Halts.node rfl fun _ => rfl
    have hentries : K.Halts q r fun n => Eval.entries (evalExpr S n) entries := by
      apply Halts.each
      intro e he
      apply (h e he).bind
      intro v
      exact .pure _
    apply hentries.bind
    intro vs
    exact .pure _

theorem CallsHalt.stmt (hcalls : K.CallsHalt S q) (hK : K.Governs S) (r : Nat) (s : Stmt) :
  K.Halts q r fun n => execStmt S n s
  := by
  have hexpr := hcalls.expr hK.builtins
  induction s using Stmt.induct generalizing r with
  | block span body h =>
    apply Halts.node rfl fun _ => rfl
    exact .settled (Halts.sequence (fun s hs => h s hs r) .null)
  | declare span name value =>
    apply Halts.node rfl fun _ => rfl
    apply (Halts.optionalValue (hexpr r) value).bind
    intro v
    apply (Halts.define name v).bind
    intro _
    exact .pure _
  | function span id name params body =>
    apply Halts.node rfl fun _ => rfl
    apply (Halts.gets _).bind
    intro f
    apply (Halts.define name _).bind
    intro _
    exact .pure _
  | branch span condition yes no hyes hno =>
    apply Halts.node rfl fun _ => rfl
    apply (hexpr r condition).bind
    intro v
    split
    · exact .settled (Halts.sequence (fun s hs => hyes s hs r) .null)
    · cases no with
      | none => exact .pure _
      | some body => exact .settled (Halts.sequence (fun s hs => hno body rfl s hs r) .null)
  | whileLoop span condition body h =>
    apply Halts.node rfl fun _ => rfl
    apply Halts.rounds hK.rounds
    · intro r
      exact .loopCondition (hexpr r) (some condition)
    · intro r
      exact .inScope (Halts.sequence (fun s hs => h s hs r) .null)
    · intro r
      exact .pure ()
  | forIn span name iterable body h =>
    apply Halts.node rfl fun _ => rfl
    apply (hexpr r iterable).bind
    intro v
    apply (Halts.items iterable.span v).bind
    intro vs
    apply Halts.forEach
    intro item
    exact .inScopeWith _ (Halts.sequence (fun s hs => h s hs r) .null)
  | forLoop span start condition update body h =>
    apply Halts.node rfl fun _ => rfl
    apply Halts.inScope
    apply (Halts.loopStart (hexpr r) start).bind
    intro _
    apply Halts.rounds hK.rounds
    · intro r
      exact .loopCondition (hexpr r) condition
    · intro r
      exact .inScope (Halts.sequence (fun s hs => h s hs r) .null)
    · intro r
      exact .loopUpdate (hexpr r) update
  | ret span value =>
    apply Halts.node rfl fun _ => rfl
    apply (Halts.optionalValue (hexpr r) value).bind
    intro v
    exact .pure _
  | expression span value =>
    apply Halts.node rfl fun _ => rfl
    apply (hexpr r value).bind
    intro v
    exact .pure _
  | property span name value =>
    apply Halts.node rfl fun _ => rfl
    apply (hexpr r value).bind
    intro v
    apply (Halts.define name v).bind
    intro _
    exact .pure _
  | handOff span what =>
    apply Halts.node rfl fun _ => rfl
    apply (Halts.handOff _).bind
    intro _
    exact .pure _

theorem CallsHalt.body (hcalls : K.CallsHalt S q) (hK : K.Governs S) (r : Nat)
    (statements : List Stmt) :
  K.Halts q r fun n => execAll S n statements
  := by
  apply Halts.sequence
  intro s _
  exact hcalls.stmt hK r s

theorem rising_execAll (S : Setting) (statements : List Stmt) :
  Rising fun n => execAll S n statements
  := by
  intro n k h
  exact sequence_below (execStmt_below S h) _ statements

/-- Calls halt when those halt that are made with one call less: their bodies run so, and without
a call left they are refused. -/
theorem Governs.call (hK : K.Governs S) (hless : ∀ q', q = q' + 1 → K.CallsHalt S q') :
  K.CallsHalt S q
  := by
  intro r f args span
  apply Halts.shift rfl fun _ => rfl
  apply Halts.inFrame
  -- more fuel keeps the answers of the body, which is needed also where the body never runs
  · intro n k h
    apply inClosure_below
    apply Action.Below.bind (.refl _)
    intro _
    apply Action.Below.bind (rising_execAll S f.decl.body n k h)
    intro flow
    exact .refl _
  · intro q' hq'
    apply Halts.inClosure
    apply (Halts.defineAll _).bind
    intro _
    apply ((hless q' hq').body hK r f.decl.body).bind
    intro flow
    exact .pure _

theorem Governs.callsHalt (hK : K.Governs S) (q : Nat) :
  K.CallsHalt S q
  := by
  induction q with
  | zero =>
    apply hK.call
    intro q' hq'
    cases hq'
  | succ q ih =>
    apply hK.call
    intro q' hq'
    cases hq'
    exact ih

theorem Governs.program (hK : K.Governs S) (q r : Nat) (p : Program) :
  K.Halts q r fun n => evalProgram S n p
  := by
  apply ((hK.callsHalt q).body hK r p.statements).bind
  intro flow
  exact .pure _

theorem Governs.handler (hK : K.Governs S) (q r : Nat) (h : Handler) (args : List Value) :
  K.Halts q r fun n => runHandler S n h args
  := by
  simp only [runHandler_eq]
  have hbody : ∀ q', K.Halts q' r fun n =>
      execWith S n (bindParams h.params args) h.body >>= fun flow =>
        Pure.pure flow.callResult := by
    intro q'
    apply (Halts.inScopeWith _ ((hK.callsHalt q').body hK r h.body)).bind
    intro flow
    exact .pure _
  apply Halts.inFrame _ (hbody 0).rising
  intro q' _
  exact hbody q'

theorem Governs.deferred (hK : K.Governs S) (q r : Nat) (call : DeferredCall)
    (extra : List Value) :
  K.Halts q r fun n => invoke S n call extra
  := by
  unfold invoke
  split
  · generalize Except.mapError _ _ = x
    apply Halts.const
    intro s
    use s
    cases x with
    | ok v => exact ⟨rfl, .refl s⟩
    | error e => exact ⟨rfl, .refl s⟩
  · exact .callBuiltin hK.builtins _ _ none
  · exact hK.callsHalt q r _ _ none

/-- At the start all calls and all rounds are left. -/
theorem leaves_start (K : Quota) {limits : Limits} (hdepth : limits.callDepth = some K.depth)
    (scene : Scene) (run : Option RunId) :
  K.Leaves K.depth K.rounds (State.start scene limits run)
  := by
  constructor
  · exact ⟨K.depth, Nat.le_refl _, hdepth⟩
  · exact Nat.le_add_left _ _
  · exact Nat.le_add_left _ _

end Quota

/-! ### What the host starts -/

/-- With enough fuel there is an answer, and it is always the same. -/
def Answers {σ ε α : Type} (outcome : Nat → Outcome σ ε α) : Prop :=
  ∃ n, outcome n ≠ .outOfFuel ∧ ∀ k, n ≤ k → outcome k = outcome n

theorem Quota.Halts.answers {K : Quota} {q r : Nat} {α : Type} {a : Nat → Eval α} {s : State}
    (ha : K.Halts q r a) (hs : K.Leaves q r s) :
  Answers fun n => a n s
  := by
  obtain ⟨n, t, ht, -⟩ := ha.ends s hs
  have hsome : a n s ≠ .outOfFuel := by
    intro hnone
    rw [hnone] at ht
    cases ht
  use n, hsome
  intro k hk
  exact ha.rising.stays hk ht

/-- Under limits on nested calls and on loop rounds, of which the second can be exceeded by a
count, and with built-ins that have an answer and make no room for calls, every program, every event
handler and every deferred call ends with a value or an error. -/
theorem limited_runs_end {S : Setting} {d m : Nat} (hdepth : S.limits.callDepth = some d)
    (hrounds : S.limits.iterations = some m) (hm : m < greatestCount)
    (hS : S.builtins.Settled) (scene : Scene) (run : Option RunId) :
  (∀ p, Answers fun n => evalProgram S n p (State.start scene S.limits run))
    ∧ (∀ h args, Answers fun n => runHandler S n h args (State.start scene S.limits run))
    ∧ (∀ call extra, Answers fun n => invoke S n call extra (State.start scene S.limits run))
  := by
  let K : Quota := ⟨d, m, hm⟩
  have hK : K.Governs S := ⟨hrounds, hS⟩
  have hstart : K.Leaves d m (State.start scene S.limits run) := K.leaves_start hdepth scene run
  refine ⟨?_, ?_, ?_⟩
  · intro p
    exact (hK.program d m p).answers hstart
  · intro h args
    exact (hK.handler d m h args).answers hstart
  · intro call extra
    exact (hK.deferred d m call extra).answers hstart

/-- A loop without an end, in which a function calls itself. -/
def endless : Program :=
  ⟨[.function .dummy 0 "f" [] [.expression .dummy (.call .dummy "f" [])],
    .whileLoop .dummy (.literal .dummy (.bool true)) [],
    .expression .dummy (.call .dummy "f" [])]⟩

/-- Under limits of two nested calls and three loop rounds it ends. -/
theorem endless_ends :
  Answers fun n => evalProgram (Standard.setting ⟨some 2, some 3, none⟩) n endless
    (Standard.start ⟨some 2, some 3, none⟩)
  := by
  have hS : (Standard.setting ⟨some 2, some 3, none⟩).builtins.Settled :=
    Standard.detached.settled
  exact (limited_runs_end rfl rfl (by decide) hS _ none).1 endless

/-! ### Built-ins that make room -/

/-- Two more calls can be nested. -/
def CallStack.Roomy (c : CallStack) : Prop := ∀ n, c.limit = some n → c.depth + 2 ≤ n

/-- Where there is room for one more call, it is not refused. -/
theorem CallStack.exists_push {c : CallStack} (hc : ∀ n, c.limit = some n → c.depth < n)
    (frame : Frame) :
  ∃ d, c.push frame = .ok d
  := by
  cases hpush : c.push frame with
  | ok d => exact ⟨d, rfl⟩
  | error cause =>
    obtain ⟨n, hn, hfull, -⟩ := (push_eq_error_iff c frame cause).mp hpush
    exact absurd (hc n hn) (Nat.not_lt.mpr hfull)

/-- The built-in makes room for calls: after it there is room for two where there was before the
two most recent ones, which are its own and that of its caller. -/
def Builtin.MakesRoom (room : Builtin) : Prop :=
  ∀ s, s.context.calls.pop.pop.Roomy →
    ∃ c, room [] s = .done .null { s with context.calls := c } ∧ c.pop.Roomy

/-- Lift the limit on nested calls. -/
def liftLimit : Builtin := fun _ => do
  Action.modify fun s => { s with context.calls.limit := none }
  return .null

/-- Take the most recent call away, which is that of the built-in itself. -/
def takeCall : Builtin := fun _ => do
  Action.modify fun s => { s with context.calls := s.context.calls.pop }
  return .null

theorem liftLimit_makesRoom :
  Builtin.MakesRoom liftLimit
  := by
  intro s _
  use { s.context.calls with limit := none }, rfl
  intro n hn
  cases hn

theorem takeCall_makesRoom :
  Builtin.MakesRoom takeCall
  := by
  intro s hs
  exact ⟨s.context.calls.pop, rfl, hs⟩

/-- The call of the built-in. -/
def makeRoom : Stmt := .expression .dummy (.call .dummy "room" [])

/-- The call of the function. -/
def recur : Stmt := .expression .dummy (.call .dummy "f" [])

/-- A function that makes room and then calls itself. -/
def recurring : Closure := ⟨⟨0, "f", [], [makeRoom, recur], .dummy⟩, 0, 0⟩

/-- The declaration of the function, and a call of it. -/
def recurs : Program := ⟨[.function .dummy 0 "f" [] [makeRoom, recur], recur]⟩

/-- A setting with one built-in, two nested calls and three loop rounds. -/
def Builtin.alone (room : Builtin) : Setting :=
  ⟨[("room", room)], .log, ⟨some 2, some 3, none⟩, fun _ => 0⟩

/-- The function is bound in the global scope, there is room for two calls, and nobody can stop the
run. -/
structure State.Recurs (s : State) : Prop where
  calls : s.calls.Roomy
  bound : s.heap.binding? 0 "f" = some (.closure recurring)
  run : s.budget.run = none

variable {room : Builtin} {s : State}

/-- Where there is room for one more call, it is entered. -/
theorem inFrame_alone {α : Type} (hrun : s.budget.run = none)
    (hcalls : ∀ n, s.calls.limit = some n → s.calls.depth < n) (frame : Frame) (a : Eval α) :
  ∃ d, d.pop = s.calls ∧ inFrame room.alone frame a s
    = (a (s.checked.entered d)).treated (fun t e => t.calls.attach e) State.left
  := by
  have hverdict : s.budget.callVerdict room.alone.limits room.alone.clock s.scene.host.runs
      = none := by
    rw [Budget.callVerdict, Budget.isStopped, hrun]
    rfl
  obtain ⟨d, hd⟩ := CallStack.exists_push hcalls frame
  use d, CallStack.pop_of_push hd
  rw [inFrame_apply, hverdict, hd]

theorem dispatch_alone {scene scene' : Scene} (h : room [] scene = .done .null scene') :
  Builtins.dispatch room.alone.builtins "room" [] scene = .done .null scene'
  := by
  show (room []).mapError _ scene = _
  rw [Action.mapError_apply, h]
  rfl

/-- The first statement of the function makes room. -/
theorem exec_room (hroom : room.MakesRoom) (hcalls : s.calls.pop.Roomy)
    (hrun : s.budget.run = none) (n : Nat) :
  ∃ t, execStmt room.alone (n + 2) makeRoom s = .done (.normal .null) t
    ∧ t.calls.Roomy ∧ t.heap = s.heap ∧ t.env = s.env ∧ t.budget.run = none
  := by
  have hone : ∀ k, s.calls.limit = some k → s.calls.depth < k := by
    intro k hk
    have htwo := hcalls k hk
    have htail : s.calls.pop.depth = s.calls.depth - 1 := List.length_tail
    omega
  obtain ⟨d, hd, hframe⟩ := inFrame_alone hrun hone ⟨"room", some .dummy⟩
    (onScene (Builtins.dispatch room.alone.builtins "room" []))
  obtain ⟨c, hc, hpop⟩ := hroom (s.checked.entered d).scene (hd ▸ hcalls)
  rw [onScene_apply, dispatch_alone hc] at hframe
  have hexec : execStmt room.alone (n + 2) makeRoom s
      = located .dummy (located .dummy (callBuiltin room.alone "room" [] (some .dummy)) >>=
          fun v => pure (.normal v)) s := rfl
  rw [hexec, located_apply, Action.bind_apply, located_apply, callBuiltin, hframe]
  exact ⟨_, rfl, hpop, rfl, rfl, hrun⟩

/-- Where the function is seen, the statement that calls it has no answer unless the call has one
with less fuel. -/
theorem exec_recur {n : Nat} (hsees : s.scene.get? "f" = some (.closure recurring))
    (hcall : ∀ k < n, callClosure room.alone k recurring [] (some .dummy) s = .outOfFuel) :
  execStmt room.alone n recur s = .outOfFuel
  := by
  obtain _ | _ | n := n
  · rfl
  · rfl
  have hexec : execStmt room.alone (n + 2) recur s
      = located .dummy (located .dummy
          (callNamed room.alone (callClosure room.alone n) "f" [] .dummy) >>=
        fun v => pure (.normal v)) s := rfl
  have hnamed : callNamed room.alone (callClosure room.alone n) "f" [] .dummy s
      = callClosure room.alone n recurring [] (some .dummy) s := by
    have hother : Entries.contains "f" room.alone.builtins = false := rfl
    rw [callNamed, hother, if_neg Bool.false_ne_true, Action.bind_apply, Action.gets_apply]
    dsimp only
    rw [hsees]
  rw [hexec, located_apply, Action.bind_apply, located_apply, hnamed, hcall n (by omega)]
  rfl

/-- The body of the function has no answer unless a call of the function has one with less fuel. -/
theorem sequence_recurring (hroom : room.MakesRoom) (hs : s.Recurs) {d : CallStack}
    (hd : d.pop = s.calls) {n : Nat}
    (hcall : ∀ k < n, ∀ t : State, t.Recurs →
      callClosure room.alone k recurring [] (some .dummy) t = .outOfFuel) :
  Eval.sequence (execStmt room.alone n) .null [makeRoom, recur]
    ((s.checked.entered d).inside recurring) = .outOfFuel
  := by
  obtain _ | _ | n := n
  · rfl
  · rfl
  obtain ⟨t, ht, hcalls, hheap, henv, hrun⟩ := exec_room
    (s := (s.checked.entered d).inside recurring) hroom (hd ▸ hs.calls) hs.run n
  have hsees : t.scene.get? "f" = some (.closure recurring) := by
    show t.heap.lookup t.env.current "f" = _
    rw [hheap, henv]
    exact Heap.lookup_alloc_next hs.bound
  have hbound : t.heap.binding? 0 "f" = some (.closure recurring) := by
    rw [hheap]
    exact Heap.binding?_alloc hs.bound (some 0)
  have hlast : execStmt room.alone (n + 2) recur t = .outOfFuel := by
    apply exec_recur hsees
    intro k hk
    exact hcall k hk t ⟨hcalls, hbound, hrun⟩
  rw [Eval.sequence, Action.bind_apply, ht]
  dsimp only
  rw [Eval.sequence, Action.bind_apply, hlast]

/-- With a built-in that makes room a call of the function has no answer with any amount of fuel. -/
theorem callClosure_recurring (hroom : room.MakesRoom) (n : Nat) (span : Option Span)
    (hs : s.Recurs) :
  callClosure room.alone n recurring [] span s = .outOfFuel
  := by
  -- the call in the body has less fuel, and it is made in a state of the same kind
  induction n using Nat.strong_induction_on generalizing s span with
  | _ n ih =>
    obtain _ | n := n
    · rfl
    have hone : ∀ k, s.calls.limit = some k → s.calls.depth < k := by
      intro k hk
      exact Nat.lt_of_lt_of_le (Nat.lt_add_of_pos_right Nat.two_pos) (hs.calls k hk)
    obtain ⟨d, hd, hframe⟩ := inFrame_alone hs.run hone ⟨"f", span⟩
      (inClosure recurring do
        change fun s => s.defineAll []
        let flow ← Eval.sequence (execStmt room.alone n) .null [makeRoom, recur]
        pure flow.callResult)
    have hbody := sequence_recurring hroom hs hd (n := n) fun k hk t ht =>
      ih k (Nat.lt_succ_of_lt hk) (some .dummy) ht
    have hdefine : change (fun s => s.defineAll []) ((s.checked.entered d).inside recurring)
        = .done () ((s.checked.entered d).inside recurring) := rfl
    rw [callClosure]
    refine hframe.trans ?_
    rw [inClosure_apply, Action.bind_apply, hdefine]
    dsimp only
    rw [Action.bind_apply, hbody]
    rfl

/-- With a built-in that makes room the program has no answer with any amount of fuel. -/
theorem evalProgram_recurs (hroom : room.MakesRoom) (n : Nat) :
  evalProgram room.alone n recurs (Standard.start room.alone.limits) = .outOfFuel
  := by
  obtain _ | n := n
  · rfl
  have hfirst : execStmt room.alone (n + 1) (.function .dummy 0 "f" [] [makeRoom, recur])
      (Standard.start room.alone.limits)
      = .done (.normal .null)
          ((Standard.start room.alone.limits).defined "f" (.closure recurring)) := rfl
  have hready : ((Standard.start room.alone.limits).defined "f" (.closure recurring)).Recurs := by
    refine ⟨?_, rfl, rfl⟩
    rintro n ⟨⟩
    exact Nat.le_refl 2
  have hlast : execStmt room.alone (n + 1) recur
      ((Standard.start room.alone.limits).defined "f" (.closure recurring)) = .outOfFuel :=
    exec_recur rfl fun k _ => callClosure_recurring hroom k (some .dummy) hready
  rw [evalProgram, execAll, recurs, Action.bind_apply, Eval.sequence, Action.bind_apply, hfirst]
  dsimp only
  rw [Eval.sequence, Action.bind_apply, hlast]

/-- All built-ins have an answer. -/
def Builtins.Total (table : Builtins) : Prop :=
  ∀ entry ∈ table, ∀ args s, entry.2 args s ≠ .outOfFuel

/-- That all built-ins have an answer is not enough: where one of them lifts the limit on nested
calls, or takes active calls away, a run under both limits may never end. -/
theorem room_for_calls_is_endless :
  (Builtin.alone liftLimit).limits = ⟨some 2, some 3, none⟩
    ∧ (Builtin.alone liftLimit).builtins.Total
    ∧ (¬ Answers fun n => evalProgram (Builtin.alone liftLimit) n recurs
        (Standard.start ⟨some 2, some 3, none⟩))
    ∧ (Builtin.alone takeCall).limits = ⟨some 2, some 3, none⟩
    ∧ (Builtin.alone takeCall).builtins.Total
    ∧ ¬ Answers fun n => evalProgram (Builtin.alone takeCall) n recurs
        (Standard.start ⟨some 2, some 3, none⟩)
  := by
  have hendless {room : Builtin} (hroom : room.MakesRoom) :
      ¬ Answers fun n => evalProgram room.alone n recurs (Standard.start room.alone.limits) := by
    rintro ⟨n, hn, -⟩
    exact hn (evalProgram_recurs hroom n)
  refine ⟨rfl, ?_, hendless liftLimit_makesRoom, rfl, ?_, hendless takeCall_makesRoom⟩
  · intro entry hentry args s
    obtain rfl := List.mem_singleton.mp hentry
    exact nofun
  · intro entry hentry args s
    obtain rfl := List.mem_singleton.mp hentry
    exact nofun

end StoryScript
