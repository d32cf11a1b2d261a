import StoryScript.Eval.Basic

/-!
# Evaluation

The value of an expression, the effect of a statement and the call of a function.  Each step
into a part of a tree, and each call, takes one of the fuel; with enough fuel the answer does
not depend on it.
-/

namespace StoryScript

namespace Eval

/-- The items of a value that a loop can run over. -/
def items (iterable : Span) : Value → Eval (List Value)
  | .list vs => pure vs.toList
  | v => located iterable (throw (.typeMismatch (.notIterable v.kind)))

/-- A declaration for the host. -/
def handOff (S : Setting) (d : HandedOff) : Eval Unit := do
  let s ← Action.state
  let (log, outcome) := S.sink.receive s.scene.context.script d s.scene.host.log
  change fun s => { s with host.log := log }
  match outcome with
  | .ok () => pure ()
  | .error e => Action.fail (Error.ofBuiltin "host_code" e)

/-- The value of an optional expression, null if it is missing. -/
def optionalValue (eval : Expr → Eval Value) : Option Expr → Eval Value
  | some e => eval e
  | none => pure .null

/-- The values of the entries of a map, from the first to the last. -/
def entries (eval : Expr → Eval Value) : List (String × Expr) → Eval (List (String × Value)) :=
  Action.each fun (key, e) => do return (key, ← eval e)

/-- The call of a function by name: a built-in, else a variable whose value is a function. -/
def callNamed (S : Setting) (call : Closure → List Value → Option Span → Eval Value)
    (name : String) (args : List Value) (span : Span) : Eval Value := do
  if Entries.contains name S.builtins then
    callBuiltin S name args (some span)
  else
    match ← Action.gets fun s => s.scene.get? name with
    | some (.builtin b) => callBuiltin S b args (some span)
    | some (.closure f) => call f args (some span)
    | _ => throw (.undefinedFunction name)

/-- The condition of a loop; a missing one always holds. -/
def loopCondition (eval : Expr → Eval Value) : Option Expr → Eval Bool
  | some e => do return (← eval e).truthy
  | none => pure true

/-- The first part of a loop header. -/
def loopStart (eval : Expr → Eval Value) : Option LoopStart → Eval Unit
  | some start => do
    let v ← eval start.value
    if start.declares then define start.name v else assign start.name v
  | none => pure ()

/-- The last part of a loop header. -/
def loopUpdate (eval : Expr → Eval Value) : Option LoopUpdate → Eval Unit
  | some update => do assign update.name (← eval update.value)
  | none => pure ()

/-- The closure of a function declared in the innermost scope. -/
def closeOver (decl : Function) : Eval Closure :=
  Action.gets fun s => ⟨decl, s.scene.context.env.current, s.scene.context.env.global⟩

end Eval

open Eval

mutual

/-- The value of an expression. -/
def evalExpr (S : Setting) : (fuel : Nat) → Expr → Eval Value
  | 0, _ => Action.exhausted
  | fuel + 1, e =>
    located e.span
      (match e with
      | .literal _ value => pure value.value
      | .identifier _ name => resolve S name
      | .binary _ op left right => do
        let l ← evalExpr S fuel left
        let r ← evalExpr S fuel right
        ofExcept (op.apply l r)
      | .unary _ op operand => do
        let v ← evalExpr S fuel operand
        ofExcept (op.apply v)
      | .call span callee args => do
        let vs ← Action.each (evalExpr S fuel) args
        callNamed S (callClosure S fuel) callee vs span
      | .member _ target name => do
        let v ← evalExpr S fuel target
        ofExcept (v.member name)
      | .index _ target place => do
        let v ← evalExpr S fuel target
        let i ← evalExpr S fuel place
        ofExcept (v.element i)
      | .assign _ name value => do
        let v ← evalExpr S fuel value
        assign name v
        pure v
      | .list _ items => do
        let vs ← Action.each (evalExpr S fuel) items
        pure (.list vs.toArray)
      | .map _ pairs => do
        let vs ← entries (evalExpr S fuel) pairs
        pure (.map (Entries.ofPairs vs)))

/-- The flow of a statement. -/
def execStmt (S : Setting) : (fuel : Nat) → Stmt → Eval Flow
  | 0, _ => Action.exhausted
  | fuel + 1, s =>
    located s.span
      (match s with
      | .block _ body => do
        let flow ← inScope (sequence (execStmt S fuel) .null body)
        pure flow.settle
      | .declare _ name value => do
        define name (← optionalValue (evalExpr S fuel) value)
        pure .quiet
      | .function span id name params body => do
        let f ← closeOver ⟨id, name, params, body, span⟩
        define name (.closure f)
        pure .quiet
      | .branch _ condition yes no => do
        if (← evalExpr S fuel condition).truthy then
          let flow ← inScope (sequence (execStmt S fuel) .null yes)
          pure flow.settle
        else
          match no with
          | some body =>
            let flow ← inScope (sequence (execStmt S fuel) .null body)
            pure flow.settle
          | none => pure .quiet
      | .whileLoop _ condition body =>
        rounds S (loopCondition (evalExpr S fuel) (some condition))
          (inScope (sequence (execStmt S fuel) .null body)) (pure ()) fuel
      | .forIn _ name iterable body => do
        let vs ← items iterable.span (← evalExpr S fuel iterable)
        forEach S (fun v => inScopeWith [(name, v)] (sequence (execStmt S fuel) .null body)) vs
      | .forLoop _ start condition update body =>
        inScope do
          loopStart (evalExpr S fuel) start
          rounds S (loopCondition (evalExpr S fuel) condition)
            (inScope (sequence (execStmt S fuel) .null body))
            (loopUpdate (evalExpr S fuel) update) fuel
      | .ret _ value => do
        pure (.returned (← optionalValue (evalExpr S fuel) value))
      | .expression _ value => do
        pure (.normal (← evalExpr S fuel value))
      | .property _ name value => do
        define name (← evalExpr S fuel value)
        pure .quiet
      | .handOff span what => do
        handOff S ⟨span, what⟩
        pure .quiet)

/-- The value of a call of a closure. -/
def callClosure (S : Setting) : (fuel : Nat) → Closure → List Value → Option Span → Eval Value
  | 0, _, _, _ => Action.exhausted
  | fuel + 1, f, args, span =>
    inFrame S ⟨f.name, span⟩ <| inClosure f do
      change fun s => s.defineAll (bindParams f.params args)
      let flow ← sequence (execStmt S fuel) .null f.decl.body
      pure flow.callResult

end

/-- The flow of statements in the current scope. -/
def execAll (S : Setting) (fuel : Nat) (body : List Stmt) : Eval Flow :=
  sequence (execStmt S fuel) .null body

/-- The flow of statements in a scope of their own. -/
def execBlock (S : Setting) (fuel : Nat) (body : List Stmt) : Eval Flow :=
  inScope (execAll S fuel body)

/-- The flow of statements in a scope of their own that starts with some variables. -/
def execWith (S : Setting) (fuel : Nat) (pairs : List (String × Value)) (body : List Stmt) :
    Eval Flow :=
  inScopeWith pairs (execAll S fuel body)

/-- The value of a program: that of a `return` at its top level, else that of its last
statement. -/
def evalProgram (S : Setting) (fuel : Nat) (p : Program) : Eval Value := do
  return (← execAll S fuel p.statements).value

/-- The call of a value by the host. -/
def callValue (S : Setting) (fuel : Nat) (callee : Value) (args : List Value) : Eval Value :=
  match callee with
  | .builtin name => callBuiltin S name args none
  | .closure f => callClosure S fuel f args none
  | v => throw (.notCallable v.kind)

/-- The run of an event handler in the current environment, with its parameters bound as in
a call. -/
def runHandler (S : Setting) (fuel : Nat) (h : Handler) (args : List Value) : Eval Value :=
  inFrame S ⟨"on " ++ h.event, none⟩ do
    let flow ← execWith S fuel (zipParams h.params args) h.body
    pure flow.callResult

/-- A handler binds its parameters as a call does. -/
theorem runHandler_eq (S : Setting) (n : Nat) (h : Handler) (args : List Value) :
  runHandler S n h args = inFrame S ⟨"on " ++ h.event, none⟩ (do
    let flow ← execWith S n (bindParams h.params args) h.body
    pure flow.callResult)
  := by
  rw [runHandler, zipParams_eq]

/-- The run of a deferred call, with further arguments after its own. -/
def invoke (S : Setting) (fuel : Nat) (call : DeferredCall) (extra : List Value) : Eval Value :=
  match call.callback with
  | .native name run => Action.ofExcept ((run (call.args ++ extra)).mapError (Error.ofBuiltin name))
  | .builtin name => callBuiltin S name (call.args ++ extra) none
  | .closure f => callClosure S fuel f (call.args ++ extra) none

end StoryScript
