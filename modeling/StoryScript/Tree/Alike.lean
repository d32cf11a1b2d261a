import StoryScript.Number.Units
import StoryScript.Tree.Stmt

/-!
# Trees that are alike

Two trees are alike when they have the same shape, the same names, constants and spans.
The identities of function declarations do not count, and floats are compared as numbers,
so a tree with a constant that is not a number is not even alike to itself.
-/

namespace StoryScript

/-- Whether two constants are alike. -/
def Literal.alike : Literal → Literal → Bool
  | .null, .null => true
  | .bool a, .bool b => a == b
  | .int a, .int b => a == b
  | .float a, .float b => Number.eq a b
  | .str a, .str b => a == b
  | _, _ => false

mutual

/-- Whether two expressions are alike. -/
def Expr.alike : Expr → Expr → Bool
  | .binary s op l r, .binary s' op' l' r' =>
    s == s' && op == op' && l.alike l' && r.alike r'
  | .unary s op e, .unary s' op' e' => s == s' && op == op' && e.alike e'
  | .call s f args, .call s' f' args' => s == s' && f == f' && allAlike args args'
  | .member s e n, .member s' e' n' => s == s' && e.alike e' && n == n'
  | .index s e i, .index s' e' i' => s == s' && e.alike e' && i.alike i'
  | .assign s n e, .assign s' n' e' => s == s' && n == n' && e.alike e'
  | .identifier s n, .identifier s' n' => s == s' && n == n'
  | .literal s v, .literal s' v' => s == s' && v.alike v'
  | .list s items, .list s' items' => s == s' && allAlike items items'
  | .map s entries, .map s' entries' => s == s' && entriesAlike entries entries'
  | _, _ => false

/-- Whether two lists of expressions are alike, one by one. -/
def Expr.allAlike : List Expr → List Expr → Bool
  | [], [] => true
  | e :: es, e' :: es' => e.alike e' && allAlike es es'
  | _, _ => false

/-- Whether the entries of two maps are alike, one by one. -/
def Expr.entriesAlike : List (String × Expr) → List (String × Expr) → Bool
  | [], [] => true
  | (k, e) :: es, (k', e') :: es' => k == k' && e.alike e' && entriesAlike es es'
  | _, _ => false

end

/-- Whether two optional parts are both missing, or both there and related by `same`. -/
def optionalAlike {α : Type} (same : α → α → Bool) : Option α → Option α → Bool
  | none, none => true
  | some a, some b => same a b
  | _, _ => false

/-- Whether two first parts of loop headers are alike. -/
def LoopStart.alike (s t : LoopStart) : Bool :=
  s.name == t.name && s.value.alike t.value && s.declares == t.declares

/-- Whether two last parts of loop headers are alike. -/
def LoopUpdate.alike (s t : LoopUpdate) : Bool := s.name == t.name && s.value.alike t.value

mutual

/-- Whether two statements are alike. -/
def Stmt.alike : Stmt → Stmt → Bool
  | .block s body, .block s' body' => s == s' && allAlike body body'
  | .declare s n e, .declare s' n' e' =>
    s == s' && n == n' && optionalAlike Expr.alike e e'
  | .function s _ n ps body, .function s' _ n' ps' body' =>
    s == s' && n == n' && ps == ps' && allAlike body body'
  | .branch s c yes no, .branch s' c' yes' no' =>
    s == s' && c.alike c' && allAlike yes yes' && elseAlike no no'
  | .whileLoop s c body, .whileLoop s' c' body' =>
    s == s' && c.alike c' && allAlike body body'
  | .forIn s n e body, .forIn s' n' e' body' =>
    s == s' && n == n' && e.alike e' && allAlike body body'
  | .forLoop s i c u body, .forLoop s' i' c' u' body' =>
    s == s' && optionalAlike LoopStart.alike i i' && optionalAlike Expr.alike c c'
      && optionalAlike LoopUpdate.alike u u' && allAlike body body'
  | .ret s e, .ret s' e' => s == s' && optionalAlike Expr.alike e e'
  | .expression s e, .expression s' e' => s == s' && e.alike e'
  | .property s n e, .property s' n' e' => s == s' && n == n' && e.alike e'
  | .handOff s d, .handOff s' d' => s == s' && declarationAlike d d'
  | _, _ => false

/-- Whether two bodies are alike, statement by statement. -/
def Stmt.allAlike : List Stmt → List Stmt → Bool
  | [], [] => true
  | s :: rest, s' :: rest' => s.alike s' && allAlike rest rest'
  | _, _ => false

/-- Whether the second blocks of two choices are alike. -/
def Stmt.elseAlike : Option (List Stmt) → Option (List Stmt) → Bool
  | none, none => true
  | some body, some body' => allAlike body body'
  | _, _ => false

/-- Whether two declarations for the host are alike. -/
def Stmt.declarationAlike : Declaration Stmt → Declaration Stmt → Bool
  | .dialogue n body, .dialogue n' body' => n == n' && allAlike body body'
  | .quest n body, .quest n' body' => n == n' && allAlike body body'
  | .node k n body, .node k' n' body' => k == k' && n == n' && allAlike body body'
  | .handler e ps body, .handler e' ps' body' =>
    e == e' && ps == ps' && allAlike body body'
  | .hostCode code, .hostCode code' => code == code'
  | _, _ => false

end

/-- Whether two programs are alike. -/
def Program.alike (p q : Program) : Bool := Stmt.allAlike p.statements q.statements

end StoryScript
