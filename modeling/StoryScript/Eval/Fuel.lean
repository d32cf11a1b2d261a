import StoryScript.Eval.Evaluator

/-!
# Fuel

Fuel decides whether an evaluation has an answer, never which one.  An action lies below
another one when the other one has the same answer wherever the first has any.  Main
statements: an evaluation with less fuel lies below the same evaluation with more.
-/

namespace StoryScript

namespace Action

variable {σ ε δ α β : Type}

/-- Wherever `a` has an answer, `b` has the same one. -/
def Below (a b : Action σ ε α) : Prop := ∀ s, a s = .outOfFuel ∨ a s = b s

namespace Below

/-- Every action has the answers that it has. -/
theorem refl (a : Action σ ε α) :
  a.Below a
  := by
  intro s
  right
  rfl

/-- Answers are kept from the first action to the second one and from there to the third one. -/
theorem trans {a b c : Action σ ε α} (hab : a.Below b) (hbc : b.Below c) :
  a.Below c
  := by
  intro s
  obtain h | h := hab s
  · left
    apply h
  · obtain h' | h' := hbc s
    · left
      rw [h, h']
    · right
      rw [h, h']

/-- Without any answer there is nothing to keep. -/
theorem exhausted (b : Action σ ε α) :
  (Action.exhausted : Action σ ε α).Below b
  := by
  intro s
  left
  rfl

/-- A sequence keeps its answers if the first action does and every continuation does. -/
theorem bind {a a' : Action σ ε α} {f f' : α → Action σ ε β} (ha : a.Below a')
    (hf : ∀ v, (f v).Below (f' v)) :
  (a >>= f).Below (a' >>= f')
  := by
  intro s
  obtain h | h := ha s
  · left
    rw [bind_apply, h]
  · rw [bind_apply, bind_apply, h]
    cases a' s with
    | done v t => apply hf
    | failed e t => right; rfl
    | outOfFuel => left; rfl

/-- An action with its errors replaced keeps its answers if the action does. -/
theorem mapError {a a' : Action σ ε α} (f : σ → ε → δ) (ha : a.Below a') :
  (a.mapError f).Below (a'.mapError f)
  := by
  intro s
  obtain h | h := ha s
  · left
    simp only [Action.mapError, h]
  · right
    simp only [Action.mapError, h]

/-- An action with a cleanup keeps its answers if the action does. -/
theorem ensuring {a a' : Action σ ε α} (cleanup : σ → σ) (ha : a.Below a') :
  (a.ensuring cleanup).Below (a'.ensuring cleanup)
  := by
  intro s
  obtain h | h := ha s
  · left
    simp only [Action.ensuring, h]
  · right
    simp only [Action.ensuring, h]

/-- An action for each item of a list keeps its answers if each of the actions does. -/
theorem each {f f' : α → Action σ ε β} (hf : ∀ a, (f a).Below (f' a)) (as : List α) :
  (Action.each f as).Below (Action.each f' as)
  := by
  induction as with
  | nil => apply refl
  | cons a rest ih =>
    apply bind (hf a)
    intro b
    apply bind ih
    intro bs
    apply refl

end Below

end Action

namespace Eval

open StoryScript.Action

variable {α : Type}

/-! ### The machine -/

/-- An evaluation at a place keeps its answers if the evaluation does. -/
theorem located_below {a a' : Eval α} (span : Span) (h : a.Below a') :
  (located span a).Below (located span a')
  := by
  apply Below.mapError _ h

/-- An evaluation in a new scope keeps its answers if the evaluation does. -/
theorem inScope_below {a a' : Eval α} (h : a.Below a') :
  (inScope a).Below (inScope a')
  := by
  apply Below.bind (Below.refl _)
  intro _
  apply Below.ensuring _ h

/-- So does an evaluation in a scope with some names in it. -/
theorem inScopeWith_below {a a' : Eval α} (pairs : List (String × Value)) (h : a.Below a') :
  (inScopeWith pairs a).Below (inScopeWith pairs a')
  := by
  apply inScope_below
  apply Below.bind (Below.refl _)
  intro _
  apply h

/-- A call keeps its answers if what runs under its frame does; the checks before it do not depend
on that. -/
theorem inFrame_below {a a' : Eval α} (S : Setting) (frame : Frame) (h : a.Below a') :
  (inFrame S frame a).Below (inFrame S frame a')
  := by
  apply Below.bind (Below.refl _)
  intro _
  apply Below.bind (Below.refl _)
  intro calls
  cases calls.push frame with
  | error cause => apply Below.refl
  | ok calls =>
    apply Below.bind (Below.refl _)
    intro _
    apply Below.ensuring
    apply Below.mapError _ h

/-- An evaluation in a closure keeps its answers if the evaluation does. -/
theorem inClosure_below {a a' : Eval α} (f : Closure) (h : a.Below a') :
  (inClosure f a).Below (inClosure f a')
  := by
  apply Below.bind (Below.refl _)
  intro caller
  apply Below.bind (Below.refl _)
  intro _
  apply Below.ensuring _ h

/-- Statements one after the other keep their answers if each of them does. -/
theorem sequence_below {exec exec' : Stmt → Eval Flow} (h : ∀ s, (exec s).Below (exec' s))
    (last : Value) (body : List Stmt) :
  (sequence exec last body).Below (sequence exec' last body)
  := by
  induction body generalizing last with
  | nil => apply Below.refl
  | cons s rest ih =>
    apply Below.bind (h s)
    intro flow
    cases flow with
    | normal v => apply ih
    | returned v => apply Below.refl

/-- A loop keeps its answers if its parts do and it may go at least as many rounds. -/
theorem rounds_below (S : Setting) {condition condition' : Eval Bool}
    {body body' : Eval Flow} {update update' : Eval Unit}
    (hc : condition.Below condition') (hb : body.Below body') (hu : update.Below update')
    {n m : Nat} (h : n ≤ m) :
  (rounds S condition body update n).Below (rounds S condition' body' update' m)
  := by
  induction n generalizing m with
  | zero => apply Below.exhausted
  | succ n ih =>
    cases m with
    | zero => cases h
    | succ m =>
      apply Below.bind hc
      intro goesOn
      cases goesOn with
      | false => apply Below.refl
      | true =>
        apply Below.bind (Below.refl _)
        intro _
        apply Below.bind hb
        intro flow
        cases flow with
        | returned v => apply Below.refl
        | normal v =>
          apply Below.bind hu
          intro _
          apply ih
          apply Nat.le_of_succ_le_succ h

/-- A loop over values keeps its answers if its body does. -/
theorem forEach_below (S : Setting) {body body' : Value → Eval Flow}
    (hb : ∀ v, (body v).Below (body' v)) (vs : List Value) :
  (forEach S body vs).Below (forEach S body' vs)
  := by
  induction vs with
  | nil => apply Below.refl
  | cons v rest ih =>
    apply Below.bind (Below.refl _)
    intro _
    apply Below.bind (hb v)
    intro flow
    cases flow with
    | returned w => apply Below.refl
    | normal w => apply ih

/-- A value that may be missing keeps its answers if expressions do. -/
theorem optionalValue_below {eval eval' : Expr → Eval Value}
    (h : ∀ e, (eval e).Below (eval' e)) (value : Option Expr) :
  (optionalValue eval value).Below (optionalValue eval' value)
  := by
  cases value with
  | none => apply Below.refl
  | some e => apply h

/-- The condition of a loop keeps its answers if expressions do. -/
theorem loopCondition_below {eval eval' : Expr → Eval Value}
    (h : ∀ e, (eval e).Below (eval' e)) (condition : Option Expr) :
  (loopCondition eval condition).Below (loopCondition eval' condition)
  := by
  cases condition with
  | none => apply Below.refl
  | some e =>
    apply Below.bind (h e)
    intro v
    apply Below.refl

/-- The first part of a loop header keeps its answers if expressions do. -/
theorem loopStart_below {eval eval' : Expr → Eval Value}
    (h : ∀ e, (eval e).Below (eval' e)) (start : Option LoopStart) :
  (loopStart eval start).Below (loopStart eval' start)
  := by
  cases start with
  | none => apply Below.refl
  | some start =>
    apply Below.bind (h start.value)
    intro v
    apply Below.refl

/-- The last part of a loop header keeps its answers if expressions do. -/
theorem loopUpdate_below {eval eval' : Expr → Eval Value}
    (h : ∀ e, (eval e).Below (eval' e)) (update : Option LoopUpdate) :
  (loopUpdate eval update).Below (loopUpdate eval' update)
  := by
  cases update with
  | none => apply Below.refl
  | some update =>
    apply Below.bind (h update.value)
    intro v
    apply Below.refl

/-- A call by name keeps its answers if calls of closures do; built-ins need no fuel. -/
theorem callNamed_below (S : Setting)
    {call call' : Closure → List Value → Option Span → Eval Value}
    (h : ∀ f args span, (call f args span).Below (call' f args span))
    (name : String) (args : List Value) (span : Span) :
  (callNamed S call name args span).Below (callNamed S call' name args span)
  := by
  unfold callNamed
  split
  · apply Below.refl
  · apply Below.bind (Below.refl _)
    intro found
    split
    · apply Below.refl
    · apply h
    · apply Below.refl

end Eval

open StoryScript.Action StoryScript.Eval

/-! ### Trees -/

/-- One more of the fuel keeps all answers. -/
structure Steady (S : Setting) (n : Nat) : Prop where
  /-- For expressions. -/
  expr : ∀ e, (evalExpr S n e).Below (evalExpr S (n + 1) e)
  /-- For statements. -/
  stmt : ∀ s, (execStmt S n s).Below (execStmt S (n + 1) s)
  /-- For calls. -/
  call : ∀ f args span, (callClosure S n f args span).Below (callClosure S (n + 1) f args span)

namespace Steady

variable {S : Setting} {n : Nat}

/-- Without fuel there are no answers to keep. -/
theorem zero (S : Setting) :
  Steady S 0
  := by
  constructor
  · intro e
    apply Below.exhausted
  · intro s
    apply Below.exhausted
  · intro f args span
    apply Below.exhausted

/-- One more of the fuel keeps the answers of statements one after the other. -/
theorem body (h : Steady S n) (last : Value) (b : List Stmt) :
  (sequence (execStmt S n) last b).Below (sequence (execStmt S (n + 1)) last b)
  := by
  apply sequence_below h.stmt

/-- One more of the fuel keeps the answers of a block. -/
theorem block (h : Steady S n) (b : List Stmt) :
  (inScope (sequence (execStmt S n) .null b)).Below
    (inScope (sequence (execStmt S (n + 1)) .null b))
  := by
  apply inScope_below
  apply h.body

/-- If one more of the fuel keeps all answers of the parts, it keeps those of an expression. -/
theorem succ_expr (h : Steady S n) (e : Expr) :
  (evalExpr S (n + 1) e).Below (evalExpr S (n + 2) e)
  := by
  cases e with
  | literal => apply Below.refl
  | identifier => apply Below.refl
  | binary span op left right =>
    apply located_below
    apply Below.bind (h.expr left)
    intro l
    apply Below.bind (h.expr right)
    intro r
    apply Below.refl
  | unary span op operand =>
    apply located_below
    apply Below.bind (h.expr operand)
    intro v
    apply Below.refl
  | call span callee args =>
    apply located_below
    apply Below.bind (Below.each h.expr args)
    intro vs
    apply callNamed_below
    apply h.call
  | member span target name =>
    apply located_below
    apply Below.bind (h.expr target)
    intro v
    apply Below.refl
  | index span target place =>
    apply located_below
    apply Below.bind (h.expr target)
    intro v
    apply Below.bind (h.expr place)
    intro i
    apply Below.refl
  | assign span name value =>
    apply located_below
    apply Below.bind (h.expr value)
    intro v
    apply Below.refl
  | list span items =>
    apply located_below
    apply Below.bind (Below.each h.expr items)
    intro vs
    apply Below.refl
  | map span pairs =>
    apply located_below
    apply Below.bind
    · apply Below.each
      intro pair
      apply Below.bind (h.expr pair.2)
      intro v
      apply Below.refl
    · intro vs
      apply Below.refl

/-- If one more of the fuel keeps all answers of the parts, it keeps those of a statement. -/
theorem succ_stmt (h : Steady S n) (s : Stmt) :
  (execStmt S (n + 1) s).Below (execStmt S (n + 2) s)
  := by
  cases s with
  | function => apply Below.refl
  | handOff => apply Below.refl
  | block span b =>
    apply located_below
    apply Below.bind (h.block b)
    intro flow
    apply Below.refl
  | declare span name value =>
    apply located_below
    apply Below.bind (optionalValue_below h.expr value)
    intro v
    apply Below.refl
  | branch span condition yes no =>
    apply located_below
    apply Below.bind (h.expr condition)
    intro v
    cases v.truthy with
    | true =>
      apply Below.bind (h.block yes)
      intro flow
      apply Below.refl
    | false =>
      cases no with
      | none => apply Below.refl
      | some b =>
        apply Below.bind (h.block b)
        intro flow
        apply Below.refl
  | whileLoop span condition b =>
    apply located_below
    apply rounds_below
    · apply loopCondition_below h.expr
    · apply h.block
    · apply Below.refl
    · apply Nat.le_succ
  | forIn span name iterable b =>
    apply located_below
    apply Below.bind (h.expr iterable)
    intro v
    apply Below.bind (Below.refl _)
    intro vs
    apply forEach_below
    intro item
    apply inScopeWith_below
    apply h.body
  | forLoop span start condition update b =>
    apply located_below
    apply inScope_below
    apply Below.bind (loopStart_below h.expr start)
    intro _
    apply rounds_below
    · apply loopCondition_below h.expr
    · apply h.block
    · apply loopUpdate_below h.expr
    · apply Nat.le_succ
  | ret span value =>
    apply located_below
    apply Below.bind (optionalValue_below h.expr value)
    intro v
    apply Below.refl
  | expression span value =>
    apply located_below
    apply Below.bind (h.expr value)
    intro v
    apply Below.refl
  | property span name value =>
    apply located_below
    apply Below.bind (h.expr value)
    intro v
    apply Below.refl

/-- If one more of the fuel keeps all answers of a body, it keeps those of the call. -/
theorem succ_call (h : Steady S n) (f : Closure) (args : List Value) (span : Option Span) :
  (callClosure S (n + 1) f args span).Below (callClosure S (n + 2) f args span)
  := by
  apply inFrame_below
  apply inClosure_below
  apply Below.bind (Below.refl _)
  intro _
  apply Below.bind (h.body _ _)
  intro flow
  apply Below.refl

end Steady

/-- One more of the fuel never changes an answer. -/
theorem steady (S : Setting) (n : Nat) :
  Steady S n
  := by
  induction n with
  | zero => apply Steady.zero
  | succ n ih =>
    constructor
    · apply ih.succ_expr
    · apply ih.succ_stmt
    · apply ih.succ_call

/-- More fuel keeps the answers of an expression. -/
theorem evalExpr_below (S : Setting) {n m : Nat} (h : n ≤ m) (e : Expr) :
  (evalExpr S n e).Below (evalExpr S m e)
  := by
  induction h with
  | refl => apply Below.refl
  | step _ ih => apply Below.trans ih ((steady S _).expr e)

/-- More fuel keeps the answers of a statement. -/
theorem execStmt_below (S : Setting) {n m : Nat} (h : n ≤ m) (s : Stmt) :
  (execStmt S n s).Below (execStmt S m s)
  := by
  induction h with
  | refl => apply Below.refl
  | step _ ih => apply Below.trans ih ((steady S _).stmt s)

/-- More fuel keeps the answers of a call. -/
theorem callClosure_below (S : Setting) {n m : Nat} (h : n ≤ m) (f : Closure)
    (args : List Value) (span : Option Span) :
  (callClosure S n f args span).Below (callClosure S m f args span)
  := by
  induction h with
  | refl => apply Below.refl
  | step _ ih => apply Below.trans ih ((steady S _).call f args span)

/-- An answer of a program is the same with more fuel. -/
theorem evalProgram_below (S : Setting) {n m : Nat} (h : n ≤ m) (p : Program) :
  (evalProgram S n p).Below (evalProgram S m p)
  := by
  apply Below.bind (sequence_below (execStmt_below S h) _ _)
  intro flow
  apply Below.refl

end StoryScript
