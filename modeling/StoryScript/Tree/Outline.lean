import StoryScript.Number.Layout
import StoryScript.Text.Record
import StoryScript.Tree.Stmt

/-!
# Outlines of trees

The outline of a tree is its text on one line, with each node by name, its parts in order
and its span at the end.
-/

namespace StoryScript

open Text

/-- The text of a truth value. -/
def boolText (b : Bool) : String := if b then "true" else "false"

namespace Literal

/-- The text of a constant as it would stand in a script. -/
def text : Literal → String
  | null => "null"
  | bool b => boolText b
  | int n => n.text
  | float x => Number.render .compact x
  | str s => quote s

/-- The outline of a constant. -/
def outline : Literal → String
  | null => "Null"
  | bool b => applied "Bool" (boolText b)
  | int n => applied "Int" n.text
  | float x => applied "Float" (Number.render .compact x)
  | str s => applied "Str" (quote s)

end Literal

/-- The outline of a node at its place. -/
def outlineAt (outline : String) (span : Span) : String := outline ++ " @ " ++ span.text

mutual

/-- The outline of an expression. -/
def Expr.outline : Expr → String
  | .binary span op left right =>
    outlineAt (record "Binary" [("op", op.word), ("left", left.outline),
      ("right", right.outline)]) span
  | .unary span op operand =>
    outlineAt (record "Unary" [("op", op.word), ("operand", operand.outline)]) span
  | .call span callee args =>
    outlineAt (record "Call" [("callee", quote callee), ("args", bracketed (outlines args))]) span
  | .member span target name =>
    outlineAt (record "Member" [("target", target.outline), ("member", quote name)]) span
  | .index span target place =>
    outlineAt (record "Index" [("target", target.outline), ("index", place.outline)]) span
  | .assign span name value =>
    outlineAt (record "Assign" [("name", quote name), ("value", value.outline)]) span
  | .identifier span name => outlineAt (applied "Identifier" (quote name)) span
  | .literal span value => outlineAt (applied "Literal" value.outline) span
  | .list span items => outlineAt (applied "List" (bracketed (outlines items))) span
  | .map span entries => outlineAt (applied "Map" (bracketed (entryOutlines entries))) span

/-- The outlines of several expressions. -/
def Expr.outlines : List Expr → List String
  | [] => []
  | e :: rest => e.outline :: outlines rest

/-- The outlines of the entries of a map. -/
def Expr.entryOutlines : List (String × Expr) → List String
  | [] => []
  | (key, e) :: rest => ("(" ++ quote key ++ ", " ++ e.outline ++ ")") :: entryOutlines rest

end

/-- The outline of a body whose statements have the given outlines. -/
def bodyOutline (statements : List String) : String :=
  record "Block" [("statements", bracketed statements)]

/-- The outline of a list of names. -/
def namesOutline (names : List String) : String := bracketed (names.map quote)

/-- The outline of the first part of a loop header. -/
def LoopStart.outline (s : LoopStart) : String :=
  record "ForInit" [("name", quote s.name), ("value", s.value.outline),
    ("declare", boolText s.declares)]

/-- The outline of the last part of a loop header. -/
def LoopUpdate.outline (u : LoopUpdate) : String :=
  record "ForUpdate" [("name", quote u.name), ("value", u.value.outline)]

mutual

/-- The outline of a statement. -/
def Stmt.outline : Stmt → String
  | .block span body => outlineAt (applied "Block" (bodyOutline (outlines body))) span
  | .declare span name value =>
    outlineAt (record "VariableDeclaration" [("name", quote name),
      ("init", optional (value.map Expr.outline))]) span
  | .function span _ name params body =>
    outlineAt (applied "FunctionDeclaration" (record "FunctionDecl" [("name", quote name),
      ("params", namesOutline params), ("body", bodyOutline (outlines body)),
      ("span", span.text)])) span
  | .branch span condition yes no =>
    outlineAt (record "If" [("condition", condition.outline),
      ("then_block", bodyOutline (outlines yes)), ("else_block", elseOutline no)]) span
  | .whileLoop span condition body =>
    outlineAt (record "While" [("condition", condition.outline),
      ("body", bodyOutline (outlines body))]) span
  | .forIn span name iterable body =>
    outlineAt (record "ForIn" [("variable", quote name), ("iterable", iterable.outline),
      ("body", bodyOutline (outlines body))]) span
  | .forLoop span start condition update body =>
    outlineAt (record "ForCStyle" [("init", optional (start.map LoopStart.outline)),
      ("condition", optional (condition.map Expr.outline)),
      ("update", optional (update.map LoopUpdate.outline)),
      ("body", bodyOutline (outlines body))]) span
  | .ret span value => outlineAt (applied "Return" (optional (value.map Expr.outline))) span
  | .expression span value => outlineAt (applied "Expression" value.outline) span
  | .property span name value =>
    outlineAt (record "Property" [("name", quote name), ("value", value.outline)]) span
  | .handOff span what => outlineAt (declarationOutline span what) span

/-- The outlines of several statements. -/
def Stmt.outlines : List Stmt → List String
  | [] => []
  | s :: rest => s.outline :: outlines rest

/-- The outline of the second block of a choice. -/
def Stmt.elseOutline : Option (List Stmt) → String
  | none => "None"
  | some body => applied "Some" (bodyOutline (outlines body))

/-- The outline of a declaration for the host. -/
def Stmt.declarationOutline (span : Span) : Declaration Stmt → String
  | .dialogue name body =>
    applied "Dialogue" (record "DialogueDecl" [("name", quote name),
      ("body", bodyOutline (outlines body)), ("span", span.text)])
  | .quest name body =>
    applied "Quest" (record "QuestDecl" [("name", quote name),
      ("body", bodyOutline (outlines body)), ("span", span.text)])
  | .node kind name body =>
    applied "Node" (record "NodeDecl" [("kind", quote kind), ("name", quote name),
      ("body", bodyOutline (outlines body)), ("span", span.text)])
  | .handler event params body =>
    applied "EventHandler" (record "EventHandlerDecl" [("event", quote event),
      ("params", namesOutline params), ("body", bodyOutline (outlines body)),
      ("span", span.text)])
  | .hostCode code => record "HostCode" [("code", quote code)]

end

/-- The outline of a program. -/
def Program.outline (p : Program) : String :=
  record "Program" [("statements", bracketed (Stmt.outlines p.statements))]

end StoryScript
