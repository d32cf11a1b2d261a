import StoryScript.Tree.Stmt

/-!
# Induction on trees

Expressions and statements have lists of parts.  The principles of induction here hand down what
is known of each member of such a list.
-/

namespace StoryScript

/-- Expressions are built from their parts. -/
@[elab_as_elim]
theorem Expr.induct {motive : Expr → Prop}
    (binary : ∀ span op left right, motive left → motive right →
      motive (binary span op left right))
    (unary : ∀ span op operand, motive operand → motive (unary span op operand))
    (call : ∀ span callee args, (∀ e ∈ args, motive e) → motive (call span callee args))
    (member : ∀ span target name, motive target → motive (member span target name))
    (index : ∀ span target place, motive target → motive place →
      motive (index span target place))
    (assign : ∀ span name value, motive value → motive (assign span name value))
    (identifier : ∀ span name, motive (identifier span name))
    (literal : ∀ span value, motive (literal span value))
    (list : ∀ span items, (∀ e ∈ items, motive e) → motive (list span items))
    (map : ∀ span entries, (∀ e ∈ entries, motive e.2) → motive (map span entries)) (e : Expr) :
  motive e
  := by
  refine @Expr.rec motive (fun es => ∀ e ∈ es, motive e) (fun es => ∀ e ∈ es, motive e.2)
    (fun e => motive e.2) binary unary call member index assign identifier literal list map
    ?nil ?cons ?noEntry ?entries ?entry e
  case nil =>
    intro e he
    cases he
  case cons =>
    intro first rest hfirst hrest
    exact List.forall_mem_cons.mpr ⟨hfirst, hrest⟩
  case noEntry =>
    intro e he
    cases he
  case entries =>
    intro first rest hfirst hrest
    exact List.forall_mem_cons.mpr ⟨hfirst, hrest⟩
  case entry =>
    intro key e he
    exact he

/-- Statements are built from the statements in their blocks.  The bodies of declarations for the
host are left out: they are data. -/
@[elab_as_elim]
theorem Stmt.induct {motive : Stmt → Prop}
    (block : ∀ span body, (∀ s ∈ body, motive s) → motive (block span body))
    (declare : ∀ span name value, motive (declare span name value))
    (function : ∀ span id name params body, (∀ s ∈ body, motive s) →
      motive (function span id name params body))
    (branch : ∀ span condition yes no, (∀ s ∈ yes, motive s) →
      (∀ body, no = some body → ∀ s ∈ body, motive s) → motive (branch span condition yes no))
    (whileLoop : ∀ span condition body, (∀ s ∈ body, motive s) →
      motive (whileLoop span condition body))
    (forIn : ∀ span name iterable body, (∀ s ∈ body, motive s) →
      motive (forIn span name iterable body))
    (forLoop : ∀ span start condition update body, (∀ s ∈ body, motive s) →
      motive (forLoop span start condition update body))
    (ret : ∀ span value, motive (ret span value))
    (expression : ∀ span value, motive (expression span value))
    (property : ∀ span name value, motive (property span name value))
    (handOff : ∀ span what, motive (handOff span what)) (s : Stmt) :
  motive s
  := by
  refine @Stmt.rec motive (fun body => ∀ s ∈ body, motive s)
    (fun no => ∀ body, no = some body → ∀ s ∈ body, motive s) (fun _ => True) block declare
    function branch whileLoop forIn forLoop ret expression property
    (fun span what _ => handOff span what) ?nil ?cons ?none ?some (fun _ _ _ => trivial)
    (fun _ _ _ => trivial) (fun _ _ _ _ => trivial) (fun _ _ _ _ => trivial)
    (fun _ => trivial) s
  case nil =>
    intro s hs
    cases hs
  case cons =>
    intro first rest hfirst hrest
    exact List.forall_mem_cons.mpr ⟨hfirst, hrest⟩
  case none =>
    intro body hbody
    cases hbody
  case some =>
    rintro body hbody _ ⟨⟩
    exact hbody

end StoryScript
