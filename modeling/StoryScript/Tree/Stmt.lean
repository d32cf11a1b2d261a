import StoryScript.Tree.Expr

/-!
# Statements

The trees of statements, of the declarations that a script hands off to its host, and of
whole programs.  A body is the list of statements of a block.
-/

namespace StoryScript

/-- The identity of a function declaration.  Whoever builds a tree gives each declaration
its own, so that two declarations with the same text stay apart. -/
abbrev DeclId := Nat

/-- The part of a loop header that runs once, before the loop. -/
structure LoopStart where
  /-- The loop variable. -/
  name : String
  /-- Its first value. -/
  value : Expr
  /-- Whether the variable is declared or assigned. -/
  declares : Bool

/-- The part of a loop header that runs after each round. -/
structure LoopUpdate where
  /-- The variable that is assigned. -/
  name : String
  /-- Its next value. -/
  value : Expr

/-- What a script hands off to its host: content with a body of statements `σ` that the
host interprets, or a piece of host code. -/
inductive Declaration (σ : Type) where
  | dialogue (name : String) (body : List σ)
  | quest (name : String) (body : List σ)
  | node (kind name : String) (body : List σ)
  | handler (event : String) (params : List String) (body : List σ)
  | hostCode (code : String)

/-- A declaration without the statements in it: of its body just the length is left. -/
def Declaration.heading {σ : Type} : Declaration σ → Declaration Unit
  | dialogue name body => .dialogue name (body.map fun _ => ())
  | quest name body => .quest name (body.map fun _ => ())
  | node kind name body => .node kind name (body.map fun _ => ())
  | handler event params body => .handler event params (body.map fun _ => ())
  | hostCode code => .hostCode code

/-- A statement. -/
inductive Stmt where
  /-- Statements in a scope of their own. -/
  | block (span : Span) (body : List Stmt)
  /-- The declaration of a variable, null without a first value. -/
  | declare (span : Span) (name : String) (value : Option Expr)
  /-- The declaration of a function. -/
  | function (span : Span) (id : DeclId) (name : String) (params : List String)
      (body : List Stmt)
  /-- A choice between two blocks, of which the second may be missing. -/
  | branch (span : Span) (condition : Expr) (yes : List Stmt) (no : Option (List Stmt))
  /-- A loop while a condition holds. -/
  | whileLoop (span : Span) (condition : Expr) (body : List Stmt)
  /-- A loop over the elements of a list. -/
  | forIn (span : Span) (name : String) (iterable : Expr) (body : List Stmt)
  /-- A loop with a header of three optional parts. -/
  | forLoop (span : Span) (start : Option LoopStart) (condition : Option Expr)
      (update : Option LoopUpdate) (body : List Stmt)
  /-- The end of the enclosing call. -/
  | ret (span : Span) (value : Option Expr)
  /-- An expression for its effect or value. -/
  | expression (span : Span) (value : Expr)
  /-- A property of the enclosing content, which is a variable of the script. -/
  | property (span : Span) (name : String) (value : Expr)
  /-- A declaration for the host. -/
  | handOff (span : Span) (what : Declaration Stmt)

namespace Stmt

/-- The span of a statement. -/
def span : Stmt → Span
  | block s _ | declare s _ _ | function s _ _ _ _ | branch s _ _ _ | whileLoop s _ _
  | forIn s _ _ _ | forLoop s _ _ _ _ | ret s _ | expression s _ | property s _ _
  | handOff s _ => s

end Stmt

/-- A function declaration. -/
structure Function where
  /-- The identity of the declaration. -/
  id : DeclId
  /-- The name that the function is bound to. -/
  name : String
  /-- The names of the parameters. -/
  params : List String
  /-- The statements of the function. -/
  body : List Stmt
  /-- The span of the declaration. -/
  span : Span

/-- A program. -/
structure Program where
  /-- The statements at the top level. -/
  statements : List Stmt

namespace Program

/-- The functions declared at the top level, in order. -/
def functions (p : Program) : List Function :=
  p.statements.filterMap fun
    | .function span id name params body => some ⟨id, name, params, body, span⟩
    | _ => none

/-- Whether the program has no statement. -/
def isEmpty (p : Program) : Bool := p.statements.isEmpty

/-- The merged span of all statements, if there are any. -/
def span (p : Program) : Option Span := Span.mergeAll (p.statements.map Stmt.span)

end Program

end StoryScript
