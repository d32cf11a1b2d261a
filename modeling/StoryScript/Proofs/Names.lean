import Mathlib.Data.Set.Basic
import StoryScript.Proofs.Keeping
import StoryScript.Proofs.Scopes
import StoryScript.Proofs.Stacks

/-!
# Names stay in their scope

A statement binds at most the name that it declares, in the scope that it stands in.  Whatever
blocks, loops and calls declare goes to scopes of their own, which nobody sees afterwards, and an
expression declares nothing.  Main statement: with built-ins that bind nothing and leave the
stack of scopes alone, no scope ever loses a name, and of the scopes that were there before an
evaluation only the innermost one may get names, those that are declared directly in it.
-/

namespace StoryScript

open Eval

/-! ### What is declared -/

/-- The name that a statement declares in the scope that it stands in. -/
def Stmt.declared? : Stmt → Option String
  | .declare _ name _ | .property _ name _ | .function _ _ name _ _ => some name
  | _ => none

/-- The expression for the first value of a declared variable. -/
def Stmt.initial? : Stmt → Option Expr
  | .declare _ _ value => value
  | .property _ _ value => some value
  | _ => none

/-- The names that a statement declares in the scope that it stands in. -/
def Stmt.declares (st : Stmt) : Set String := {name | st.declared? = some name}

/-- The names that statements declare in the scope that they stand in. -/
def Stmt.allDeclare (body : List Stmt) : Set String := {name | ∃ st ∈ body, name ∈ st.declares}

/-- The stack of scopes is the same, all scopes are there still, with their names, and of the
scopes that were there only the innermost one has got names, from the given ones. -/
structure Scene.BindsOnly (names : Set String) (s t : Scene) : Prop where
  env : t.context.env = s.context.env
  heap : s.host.heap.Extends t.host.heap
  kept : ∀ x name, s.host.heap.binds x name = true → t.host.heap.binds x name = true
  added : ∀ x < s.host.heap.next, ∀ name, t.host.heap.binds x name = true →
    s.host.heap.binds x name = true ∨ x = s.context.env.current ∧ name ∈ names

/-- The scopes of the scene have got names as in `Scene.BindsOnly`. -/
def State.BindsOnly (names : Set String) (s t : State) : Prop := s.scene.BindsOnly names t.scene

/-- The built-ins bind no names, and leave the stack of scopes as they found it. -/
def Builtins.BindNothing (table : Builtins) : Prop :=
  ∀ entry ∈ table, ∀ args, (entry.2 args).Keeps (Scene.BindsOnly ∅)

namespace Heap

variable {h h' : Heap} {x y : ScopeId} {name other : String}

theorem lt_next_of_binds (hx : h.binds x name = true) :
  x < h.next
  := by
  rw [binds_eq_isSome, Option.isSome_iff_exists] at hx
  obtain ⟨v, hv⟩ := hx
  exact lt_next_of_binding? hv

/-- A definition binds one name in one scope. -/
theorem binds_define_iff (v : Value) :
  (h.define x name v).binds y other = true
    ↔ h.binds y other = true ∨ y = x ∧ other = name ∧ x < h.next
  := by
  by_cases hsame : y ≠ x ∨ other ≠ name
  · rw [binds_eq_isSome, binds_eq_isSome, binding?_define_of_ne h v hsame]
    constructor
    · exact .inl
    · rintro (hbinds | ⟨rfl, rfl, -⟩)
      · exact hbinds
      · simp at hsame
  · obtain ⟨rfl, rfl⟩ : y = x ∧ other = name := by
      simpa using hsame
    constructor
    · intro hbinds
      have hlt := lt_next_of_binds hbinds
      rw [next_define] at hlt
      exact .inr ⟨rfl, rfl, hlt⟩
    · rintro (hbinds | ⟨-, -, hlt⟩)
      · rw [binds_eq_isSome, binding?_define_self h other v (lt_next_of_binds hbinds)]
        rfl
      · rw [binds_eq_isSome, binding?_define_self h other v hlt]
        rfl

/-- A new scope binds nothing. -/
theorem binds_alloc (h : Heap) (parent : Option ScopeId) (x : ScopeId) (name : String) :
  (h.alloc parent).binds x name = h.binds x name
  := by
  rw [binds_eq_isSome, binds_eq_isSome, binding?, binding?, scope?_alloc]
  split
  · rename_i hx
    rw [scope?_eq_none_iff.mpr (Nat.le_of_eq hx.symm)]
    simp
  · rfl

theorem binds_of_nearest {v : Value} (hfound : h.nearest x name = some (y, v)) :
  h.binds y name = true
  := by
  rw [nearest_eq] at hfound
  obtain ⟨z, -, hz⟩ := List.exists_of_findSome?_eq_some hfound
  obtain ⟨w, hw, heq⟩ := Option.map_eq_some_iff.mp hz
  cases heq
  rw [binds_eq_isSome, hw]
  rfl

/-- An assignment binds no name that was not bound. -/
theorem binds_assign (h : Heap) (x y : ScopeId) (name other : String) (v : Value) :
  (h.assign x name v).1.binds y other = h.binds y other
  := by
  rw [assign_eq_nearest]
  cases hfound : h.nearest x name with
  | none => rfl
  | some found =>
    obtain ⟨z, w⟩ := found
    have hz := binds_of_nearest hfound
    rw [Bool.eq_iff_iff, binds_define_iff]
    constructor
    · rintro (hbinds | ⟨rfl, rfl, -⟩)
      · exact hbinds
      · exact hz
    · exact .inl

theorem extends_assign (h : Heap) (x : ScopeId) (name : String) (v : Value) :
  h.Extends (h.assign x name v).1
  := by
  rw [assign_eq_nearest]
  split
  · exact .define _ _ _ _
  · exact .refl h

/-- A name is visible from a scope when a scope on the way outwards binds it. -/
theorem contains_iff :
  h.contains x name = true ↔ ∃ y ∈ h.chain x, h.binds y name = true
  := by
  rw [contains_eq_nearest, nearest_eq, List.findSome?_isSome_iff]
  constructor
  · rintro ⟨y, hy, hbound⟩
    rw [Option.isSome_map, ← binds_eq_isSome] at hbound
    exact ⟨y, hy, hbound⟩
  · rintro ⟨y, hy, hbound⟩
    refine ⟨y, hy, ?_⟩
    rw [Option.isSome_map, ← binds_eq_isSome]
    exact hbound

/-- The walk outwards is the same in a heap that has grown. -/
theorem Extends.outwards_eq (hext : h.Extends h') (hh : h.Sound) (fuel : Nat) (hx : x < h.next) :
  h'.outwards fuel x = h.outwards fuel x
  := by
  induction fuel generalizing x with
  | zero => rfl
  | succ fuel ih =>
    have hx' : x < h'.next := Nat.lt_of_lt_of_le hx hext.next_le
    rw [outwards_succ h fuel hx, outwards_succ h' fuel hx', hext.parent_eq x hx]
    cases hparent : h.parent? x with
    | none => rfl
    | some y =>
      have hyx : y < x := hh.older hparent
      rw [Option.elim_some, Option.elim_some, ih (Nat.lt_trans hyx hx)]

end Heap

namespace Scene.BindsOnly

variable {names more : Set String} {s t u : Scene}

/-- With the same scopes nothing is bound. -/
theorem same (henv : t.context.env = s.context.env) (hheap : t.host.heap = s.host.heap) :
  s.BindsOnly names t
  := by
  refine ⟨henv, ?_, ?_, ?_⟩
  · rw [hheap]
    exact .refl _
  · intro x name hbinds
    rw [hheap]
    exact hbinds
  · intro x _ name hbinds
    rw [hheap] at hbinds
    exact .inl hbinds

theorem refl (s : Scene) :
  s.BindsOnly names s
  := same rfl rfl

theorem trans (h : s.BindsOnly names t) (h' : t.BindsOnly names u) :
  s.BindsOnly names u
  := by
  refine ⟨h'.env.trans h.env, h.heap.trans h'.heap, ?_, ?_⟩
  · intro x name hbinds
    exact h'.kept x name (h.kept x name hbinds)
  · intro x hx name hbinds
    obtain hbinds | ⟨hcurrent, hname⟩ :=
      h'.added x (Nat.lt_of_lt_of_le hx h.heap.next_le) name hbinds
    · exact h.added x hx name hbinds
    · rw [h.env] at hcurrent
      exact .inr ⟨hcurrent, hname⟩

theorem mono (h : s.BindsOnly names t) (hnames : names ⊆ more) :
  s.BindsOnly more t
  := by
  refine ⟨h.env, h.heap, h.kept, ?_⟩
  intro x hx name hbinds
  obtain hbinds | ⟨hcurrent, hname⟩ := h.added x hx name hbinds
  · exact .inl hbinds
  · exact .inr ⟨hcurrent, hnames hname⟩

theorem define (s : Scene) {name : String} (hname : name ∈ names) (v : Value) :
  s.BindsOnly names (s.define name v)
  := by
  refine ⟨rfl, .define _ _ _ _, ?_, ?_⟩
  · intro x other hbinds
    exact (Heap.binds_define_iff v).mpr (.inl hbinds)
  · intro x _ other hbinds
    obtain hbinds | ⟨hx, rfl, -⟩ := (Heap.binds_define_iff v).mp hbinds
    · exact .inl hbinds
    · exact .inr ⟨hx, hname⟩

theorem defineAll (s : Scene) (pairs : List (String × Value)) :
  s.BindsOnly Set.univ (s.defineAll pairs)
  := by
  induction pairs generalizing s with
  | nil => exact .refl s
  | cons pair rest ih => exact (define s (Set.mem_univ pair.1) pair.2).trans (ih _)

theorem assign (s : Scene) (name : String) (v : Value) :
  s.BindsOnly names (s.assign name v).1
  := by
  have hsame : ∀ x other, (s.assign name v).1.host.heap.binds x other = s.host.heap.binds x other :=
    fun x other => s.host.heap.binds_assign s.context.env.current x name other v
  refine ⟨rfl, s.host.heap.extends_assign _ name v, ?_, ?_⟩
  · intro x other hbinds
    exact (hsame x other).trans hbinds
  · intro x _ other hbinds
    exact .inl ((hsame x other).symm.trans hbinds)

/-- From inside a new scope: whatever was bound meanwhile was bound there, or in scopes that are
newer still. -/
theorem leave {parent : Option ScopeId} (henv : u.context.env = s.context.env)
    (hheap : u.host.heap = t.host.heap) {inside : Scene}
    (halloc : inside.host.heap = s.host.heap.alloc parent)
    (hcurrent : inside.context.env.current = s.host.heap.next)
    (h : inside.BindsOnly names t) :
  s.BindsOnly more u
  := by
  have hext := Heap.Extends.alloc s.host.heap parent
  refine ⟨henv, ?_, ?_, ?_⟩
  · rw [hheap]
    rw [← halloc] at hext
    exact hext.trans h.heap
  · intro x name hbinds
    rw [hheap]
    apply h.kept
    rw [halloc, Heap.binds_alloc]
    exact hbinds
  · intro x hx name hbinds
    rw [hheap] at hbinds
    have hx' : x < inside.host.heap.next := by
      rw [halloc]
      exact Nat.lt_of_lt_of_le hx hext.next_le
    obtain hbinds | ⟨rfl, -⟩ := h.added x hx' name hbinds
    · rw [halloc, Heap.binds_alloc] at hbinds
      exact .inl hbinds
    · rw [hcurrent] at hx
      exact absurd hx (Nat.lt_irrefl _)

/-- Where nothing is bound, the same names are visible. -/
theorem has_eq (h : s.BindsOnly ∅ t) (hheap : s.host.heap.Sound)
    (henv : s.context.env.Sound s.host.heap) (name : String) :
  t.has name = s.has name
  := by
  have hcurrent := henv.root_current.lt_next
  have hchain : t.host.heap.chain s.context.env.current
      = s.host.heap.chain s.context.env.current := h.heap.outwards_eq hheap _ hcurrent
  rw [has, has, h.env, Bool.eq_iff_iff, Heap.contains_iff, Heap.contains_iff, hchain]
  constructor
  · rintro ⟨y, hy, hbinds⟩
    have hy' := Nat.lt_of_le_of_lt (hheap.mem_chain_le hcurrent hy) hcurrent
    obtain hbinds | ⟨-, hname⟩ := h.added y hy' name hbinds
    · exact ⟨y, hy, hbinds⟩
    · cases hname
  · rintro ⟨y, hy, hbinds⟩
    exact ⟨y, hy, h.kept y name hbinds⟩

end Scene.BindsOnly

namespace State.BindsOnly

variable {names more : Set String} {s t u : State}

theorem refl (s : State) :
  s.BindsOnly names s
  := Scene.BindsOnly.refl s.scene

theorem trans (h : s.BindsOnly names t) (h' : t.BindsOnly names u) :
  s.BindsOnly names u
  := Scene.BindsOnly.trans h h'

/-- The call stack has nothing to do with names. -/
theorem frame {calls : CallStack} (h : (s.entered calls).BindsOnly names t) :
  s.BindsOnly names t.left
  := by
  obtain ⟨henv, hheap, hkept, hadded⟩ := h
  exact ⟨henv, hheap, hkept, hadded⟩

/-- What is bound in a scope of its own is bound in no other one. -/
theorem scope (h : s.pushed.BindsOnly names t) :
  s.BindsOnly more t.popped
  := by
  have henv : t.popped.scene.context.env = s.scene.context.env := by
    show t.scene.context.env.pop = s.scene.context.env
    rw [Scene.BindsOnly.env h]
    exact Environment.pop_push _ _
  exact @Scene.BindsOnly.leave names more s.scene t.scene _ _ henv rfl s.pushed.scene rfl rfl h

/-- What is bound in a call is bound in no scope that was there. -/
theorem closure (f : Closure) (h : (s.inside f).BindsOnly names t) :
  s.BindsOnly more (t.within s.env)
  := @Scene.BindsOnly.leave names more s.scene t.scene _ _ rfl rfl (s.inside f).scene rfl rfl h

end State.BindsOnly

/-! ### Built-ins -/

theorem Builtins.Detached.bindNothing {table : Builtins} (h : table.Detached) :
  table.BindNothing
  := by
  intro entry hentry args s t ht
  obtain ⟨x, lines, hanswer, -⟩ := h entry hentry args
  rw [hanswer] at ht
  cases x <;> cases ht <;> exact .same rfl rfl

/-- With built-ins that bind nothing the machine binds names in the innermost scope only. -/
theorem upkeep_bindsOnly {S : Setting} (hS : S.builtins.BindNothing) :
  Upkeep S (State.BindsOnly Set.univ)
  where
  refl := .refl
  trans := .trans
  checked s := Scene.BindsOnly.refl s.scene
  ticked s := Scene.BindsOnly.refl s.scene
  defined s name v := Scene.BindsOnly.define s.scene (Set.mem_univ name) v
  assigned s name v := Scene.BindsOnly.assign s.scene name v
  logged s d := Scene.BindsOnly.same rfl rfl
  dispatch name args := by
    have hdispatch := Builtins.keeps_dispatch Scene.BindsOnly.refl hS name args
    exact keeps_onScene hdispatch fun _ _ h => h.mono (Set.empty_subset _)
  scope := .scope
  frame _ h := .frame h
  closure := .closure

/-! ### Evaluations -/

namespace Builtins.BindNothing

variable {S : Setting} (hS : S.builtins.BindNothing) (n : Nat)

include hS

theorem builtin (name : String) (args : List Value) (span : Option Span) :
  (callBuiltin S name args span).Keeps (State.BindsOnly ∅)
  := by
  apply keeps_inFrame
  · intro s
    exact .refl s
  · intro s t calls _ h
    exact .frame h
  · have hdispatch := Builtins.keeps_dispatch Scene.BindsOnly.refl hS name args
    exact keeps_onScene hdispatch fun _ _ h => h

theorem call (f : Closure) (args : List Value) (span : Option Span) :
  (callClosure S n f args span).Keeps (State.BindsOnly ∅)
  := by
  cases n with
  | zero => exact Action.keeps_exhausted
  | succ n =>
    have U := upkeep_bindsOnly hS
    apply keeps_inFrame
    · intro s
      exact .refl s
    · intro s t calls _ h
      exact .frame h
    · refine keeps_inClosure (R := State.BindsOnly Set.univ) f (.closure f) ?_
      refine (Action.keeps_modify ?_).bind .trans ?_
      · intro s
        exact .defineAll s.scene _
      · intro _
        refine (U.statements n f.decl.body).bind .trans ?_
        intro flow
        exact Action.keeps_pure .refl _

theorem expr (e : Expr) :
  (evalExpr S n e).Keeps (State.BindsOnly ∅)
  := by
  refine keeps_expr (R := State.BindsOnly ∅) .refl .trans ?_ ?_ ?_ n e
  · intro s name v
    exact Scene.BindsOnly.assign s.scene name v
  · exact hS.builtin
  · exact hS.call

theorem block (body : List Stmt) :
  (execBlock S n body).Keeps (State.BindsOnly ∅)
  := keeps_inScope .scope ((upkeep_bindsOnly hS).statements n body)

theorem blockWith (pairs : List (String × Value)) (body : List Stmt) :
  (execWith S n pairs body).Keeps (State.BindsOnly ∅)
  := by
  refine keeps_inScope (R := State.BindsOnly Set.univ) .scope ?_
  refine (Action.keeps_modify ?_).bind .trans ?_
  · intro s
    exact .defineAll s.scene pairs
  · intro _
    exact (upkeep_bindsOnly hS).statements n body

/-- A loop with a header of three parts binds its variable in a scope of its own. -/
theorem forLoop (start : Option LoopStart) (condition : Option Expr) (update : Option LoopUpdate)
    (body : List Stmt) :
  (inScope do
    loopStart (evalExpr S n) start
    rounds S (loopCondition (evalExpr S n) condition) (execBlock S n body)
      (loopUpdate (evalExpr S n) update) n).Keeps (State.BindsOnly ∅)
  := by
  have U := upkeep_bindsOnly hS
  refine keeps_inScope (R := State.BindsOnly Set.univ) .scope ?_
  refine (U.loopStart n start).bind .trans ?_
  intro _
  exact U.loop n ⟨condition, update, body⟩

/-- A statement binds the name that it declares, in the innermost scope. -/
theorem stmt (st : Stmt) :
  (execStmt S n st).Keeps (State.BindsOnly st.declares)
  := by
  cases n with
  | zero => exact Action.keeps_exhausted
  | succ n =>
    have hquiet : ∀ {names} (flow : Flow), (pure flow : Eval Flow).Keeps (State.BindsOnly names) :=
      Action.keeps_pure .refl
    have hexpr : ∀ {names} e, (evalExpr S n e).Keeps (State.BindsOnly names) := by
      intro names e s t ht
      exact (hS.expr n e s t ht).mono (Set.empty_subset _)
    have hblock : ∀ {names} body, (execBlock S n body).Keeps (State.BindsOnly names) := by
      intro names body s t ht
      exact (hS.block n body s t ht).mono (Set.empty_subset _)
    have hdefine : ∀ {st : Stmt} name v, st.declared? = some name →
        (define name v).Keeps (State.BindsOnly st.declares) := by
      intro st name v hname
      exact Action.keeps_modify fun s => .define s.scene hname v
    cases st with
    | block span body =>
      apply keeps_located
      exact (hblock body).bind .trans fun _ => hquiet _
    | declare span name value =>
      apply keeps_located
      refine (keeps_optionalValue .refl hexpr value).bind .trans fun v => ?_
      exact (hdefine name v rfl).bind .trans fun _ => hquiet _
    | function span id name params body =>
      apply keeps_located
      refine (Action.keeps_gets .refl _).bind .trans fun f => ?_
      exact (hdefine name (.closure f) rfl).bind .trans fun _ => hquiet _
    | branch span condition yes no =>
      apply keeps_located
      refine (hexpr condition).bind .trans fun v => ?_
      split
      · exact (hblock yes).bind .trans fun _ => hquiet _
      · cases no with
        | some body => exact (hblock body).bind .trans fun _ => hquiet _
        | none => exact hquiet _
    | whileLoop span condition body =>
      apply keeps_located
      refine keeps_rounds .refl .trans .refl ?_ (hblock body) (Action.keeps_pure .refl _) n
      exact keeps_loopCondition .refl .trans hexpr (some condition)
    | forIn span name iterable body =>
      apply keeps_located
      refine (hexpr iterable).bind .trans fun v => ?_
      refine (keeps_items .refl _ v).bind .trans fun vs => ?_
      refine keeps_forEach .refl .trans .refl (fun w s t ht => ?_) vs
      exact (hS.blockWith n [(name, w)] body s t ht).mono (Set.empty_subset _)
    | forLoop span start condition update body =>
      apply keeps_located
      intro s t ht
      exact (hS.forLoop n start condition update body s t ht).mono (Set.empty_subset _)
    | ret span value =>
      apply keeps_located
      exact (keeps_optionalValue .refl hexpr value).bind .trans fun _ => hquiet _
    | expression span value =>
      apply keeps_located
      exact (hexpr value).bind .trans fun _ => hquiet _
    | property span name value =>
      apply keeps_located
      refine (hexpr value).bind .trans fun v => ?_
      exact (hdefine name v rfl).bind .trans fun _ => hquiet _
    | handOff span what =>
      apply keeps_located
      refine Action.Keeps.bind ?_ .trans fun _ => hquiet _
      intro s t ht
      rw [handOff_apply] at ht
      split at ht
      · cases ht
        exact Scene.BindsOnly.same rfl rfl
      · cases ht
        exact Scene.BindsOnly.same rfl rfl

theorem statements (body : List Stmt) :
  (execAll S n body).Keeps (State.BindsOnly (Stmt.allDeclare body))
  := by
  refine keeps_sequence .refl .trans ?_ .null
  intro st hst s t ht
  apply (hS.stmt n st s t ht).mono
  intro name hname
  exact ⟨st, hst, hname⟩

theorem callee (v : Value) (args : List Value) :
  (callValue S n v args).Keeps (State.BindsOnly ∅)
  := by
  unfold callValue
  split
  · exact hS.builtin _ args none
  · exact hS.call n _ args none
  · exact keeps_ofExcept .refl (.error _)

theorem handler (h : Handler) (args : List Value) :
  (runHandler S n h args).Keeps (State.BindsOnly ∅)
  := by
  apply keeps_inFrame
  · intro s
    exact .refl s
  · intro s t calls _ h
    exact .frame h
  · refine (hS.blockWith n _ h.body).bind .trans fun flow => ?_
    exact Action.keeps_pure .refl _

theorem deferred (call : DeferredCall) (extra : List Value) :
  (invoke S n call extra).Keeps (State.BindsOnly ∅)
  := by
  unfold invoke
  split
  · exact Action.keeps_ofExcept .refl _
  · exact hS.builtin _ _ none
  · exact hS.call n _ _ none

end Builtins.BindNothing

/-! ### Shadowing -/

/-- A definition touches no scope but its own. -/
theorem State.scope?_defined (s : State) (name : String) (v : Value) {x : ScopeId}
    (hx : x ≠ s.env.current) :
  (s.defined name v).heap.scope? x = s.heap.scope? x
  := by
  show (s.heap.define s.env.current name v).scope? x = s.heap.scope? x
  rw [Heap.scope?_define, if_neg (Ne.symm hx)]

/-- A declaration that is done bound its name after its first value was computed. -/
theorem Stmt.exists_defined {S : Setting} {n : Nat} {st : Stmt} {name : String} {s t : State}
    {flow : Flow} (hst : st.declared? = some name)
    (ht : execStmt S (n + 1) st s = .done flow t) :
  ∃ v u w, optionalValue (evalExpr S n) st.initial? s = .done v u ∧ t = u.defined name w
  := by
  cases st with
  | declare span name value =>
    cases hst
    obtain ⟨v, u, hv, ht⟩ := Action.exists_of_bind_done (of_located_done ht)
    cases ht
    exact ⟨v, u, v, hv, rfl⟩
  | property span name value =>
    cases hst
    obtain ⟨v, u, hv, ht⟩ := Action.exists_of_bind_done (of_located_done ht)
    cases ht
    exact ⟨v, u, v, hv, rfl⟩
  | function span id name params body =>
    cases hst
    cases of_located_done ht
    exact ⟨.null, s, _, rfl, rfl⟩
  | _ => cases hst

/-- So does the declaration of a loop variable. -/
theorem LoopStart.exists_defined {S : Setting} {n : Nat} {start : LoopStart} {s t : State}
    (hstart : start.declares = true)
    (ht : loopStart (evalExpr S n) (some start) s = .done () t) :
  ∃ v u, evalExpr S n start.value s = .done v u ∧ t = u.defined start.name v
  := by
  obtain ⟨v, u, hv, ht⟩ := Action.exists_of_bind_done ht
  rw [if_pos hstart] at ht
  cases ht
  exact ⟨v, u, hv, rfl⟩

/-- The variables that a new scope starts with touch no scope that was there. -/
theorem Scene.scope?_defineAll (s : Scene) (pairs : List (String × Value)) {x : ScopeId}
    (hx : x ≠ s.context.env.current) :
  (s.defineAll pairs).host.heap.scope? x = s.host.heap.scope? x
  := by
  induction pairs generalizing s with
  | nil => rfl
  | cons pair rest ih =>
    have hdefine : (s.define pair.1 pair.2).host.heap.scope? x = s.host.heap.scope? x := by
      show (s.host.heap.define s.context.env.current pair.1 pair.2).scope? x = _
      rw [Heap.scope?_define, if_neg (Ne.symm hx)]
    exact (ih (s.define pair.1 pair.2) hx).trans hdefine

/-! ### No leaks -/

/-- Whatever is evaluated, and however it ends, no scope loses a name, and of the scopes that were
there only the innermost one gets names, those that are declared directly in it.  So what a block,
a loop or a call declares cannot be read afterwards, and a declaration leaves the bindings of all
other scopes alone. -/
theorem bindings_stay_in_their_scope {S : Setting} (hS : S.builtins.BindNothing) (n : Nat) :
  (∀ st, (execStmt S n st).Keeps (State.BindsOnly st.declares))
    ∧ (∀ st, st.declared? = none → (execStmt S n st).Keeps (State.BindsOnly ∅))
    ∧ (∀ body, (execAll S n body).Keeps (State.BindsOnly (Stmt.allDeclare body)))
    ∧ (∀ body, (execBlock S n body).Keeps (State.BindsOnly ∅))
    ∧ (∀ e, (evalExpr S n e).Keeps (State.BindsOnly ∅))
    ∧ (∀ callee args, (callValue S n callee args).Keeps (State.BindsOnly ∅))
    ∧ (∀ name args span, (callBuiltin S name args span).Keeps (State.BindsOnly ∅))
    ∧ (∀ f args span, (callClosure S n f args span).Keeps (State.BindsOnly ∅))
    ∧ (∀ call extra, (invoke S n call extra).Keeps (State.BindsOnly ∅))
    ∧ (∀ h args, (runHandler S n h args).Keeps (State.BindsOnly ∅))
  -- where nothing is bound, the same names can be read
    ∧ (∀ s t : State, s.heap.Sound → s.env.Sound s.heap → s.BindsOnly ∅ t →
        ∀ name, t.scene.has name = s.scene.has name)
  -- declarations, loop variables and parameters leave all bindings of other scopes alone
    ∧ (∀ st name s flow t, st.declared? = some name → execStmt S (n + 1) st s = .done flow t →
        ∃ v u, optionalValue (evalExpr S n) st.initial? s = .done v u
          ∧ ∀ x ≠ s.env.current, t.heap.scope? x = u.heap.scope? x)
    ∧ (∀ start s t, start.declares = true →
        loopStart (evalExpr S n) (some start) s = .done () t →
        ∃ v u, evalExpr S n start.value s = .done v u
          ∧ ∀ x ≠ s.env.current, t.heap.scope? x = u.heap.scope? x)
    ∧ (∀ (s : State) f pairs, ∀ x < s.heap.next,
        (s.pushed.scene.defineAll pairs).host.heap.scope? x = s.heap.scope? x
          ∧ ((s.inside f).scene.defineAll pairs).host.heap.scope? x = s.heap.scope? x)
  := by
  have hinitial : ∀ value, (optionalValue (evalExpr S n) value).Keeps (State.BindsOnly ∅) :=
    keeps_optionalValue .refl (hS.expr n)
  refine ⟨hS.stmt n, ?_, hS.statements n, hS.block n, hS.expr n, hS.callee n, hS.builtin,
    hS.call n, hS.deferred n, hS.handler n, ?_, ?_, ?_, ?_⟩
  · intro st hst s t ht
    apply (hS.stmt n st s t ht).mono
    intro name hname
    cases hst.symm.trans hname
  · intro s t hheap henv h name
    exact Scene.BindsOnly.has_eq h hheap henv name
  · intro st name s flow t hst ht
    obtain ⟨v, u, w, hv, rfl⟩ := Stmt.exists_defined hst ht
    refine ⟨v, u, hv, fun x hx => u.scope?_defined name w ?_⟩
    have henv := (hinitial _ s u (by rw [hv]; rfl)).env
    exact fun hcurrent => hx (hcurrent.trans (congrArg Environment.current henv))
  · intro start s t hstart ht
    obtain ⟨v, u, hv, rfl⟩ := LoopStart.exists_defined hstart ht
    refine ⟨v, u, hv, fun x hx => u.scope?_defined start.name v ?_⟩
    have henv := (hS.expr n _ s u (by rw [hv]; rfl)).env
    exact fun hcurrent => hx (hcurrent.trans (congrArg Environment.current henv))
  · intro s f pairs x hx
    have hnext : x ≠ s.heap.next := Nat.ne_of_lt hx
    constructor
    · rw [Scene.scope?_defineAll _ pairs hnext]
      exact s.heap.scope?_alloc_of_lt _ hx
    · rw [Scene.scope?_defineAll _ pairs hnext]
      exact s.heap.scope?_alloc_of_lt _ hx

/-- A block that declares a variable. -/
def hideaway : Stmt :=
  .block .dummy [.declare .dummy "y" (some (.literal .dummy (.int 1)))]

/-- With the standard built-ins the variable of the block is out of sight after the block. -/
theorem hideaway_is_hidden :
  (Standard.setting .standard).builtins.BindNothing
    ∧ hideaway.declared? = none
    ∧ ∃ flow t, execStmt (Standard.setting .standard) 4 hideaway (Standard.start .standard)
          = .done flow t
        ∧ (Standard.start .standard).BindsOnly ∅ t
        ∧ t.scene.has "y" = false
  := by
  have hS : (Standard.setting .standard).builtins.BindNothing := Standard.detached.bindNothing
  obtain ⟨-, hquiet, -, -, -, -, -, -, -, -, hhas, -⟩ := bindings_stay_in_their_scope hS 4
  obtain ⟨hheap, henv⟩ := Standard.sound_start .standard
  have hbinds := hquiet hideaway rfl (Standard.start .standard) _ rfl
  exact ⟨hS, rfl, _, _, rfl, hbinds, hhas _ _ hheap henv hbinds "y"⟩

/-! ### Built-ins that move between scopes -/

/-- The built-ins that enter and leave scopes. -/
def Hosted.scopeBuiltins : Builtins := [("scope_push", scopePush), ("scope_pop", scopePop)]

/-- They define nothing. -/
theorem Hosted.keeps_binds_scopeBuiltins :
  ∀ entry ∈ scopeBuiltins, ∀ args, (entry.2 args).Keeps fun s t =>
    ∀ x name, t.host.heap.binds x name = s.host.heap.binds x name
  := by
  intro entry hentry args s t ht x name
  obtain rfl | hentry := List.mem_cons.mp hentry
  · cases ht
    exact s.host.heap.binds_alloc _ x name
  · obtain rfl := List.mem_singleton.mp hentry
    cases ht
    rfl

/-- A block that leaves its scope before it declares a variable. -/
def slip : Stmt :=
  .block .dummy [.expression .dummy (.call .dummy "scope_pop" []),
    .declare .dummy "y" (some (.literal .dummy (.int 1)))]

/-- The variable of the block goes to the global scope. -/
theorem exec_slip :
  ∃ flow t, execStmt ⟨Hosted.scopeBuiltins, .log, .standard, fun _ => 0⟩ 4 slip
      (Standard.start .standard) = .done flow t
    ∧ t.env = (Standard.start .standard).env
    ∧ t.heap = (Standard.start .standard).pushed.heap.define 0 "y" (.int 1)
  := ⟨_, _, rfl, rfl, rfl⟩

/-- To define nothing is not enough: where a built-in leaves the scope of a block, the block
declares its variable in the scope around it. -/
theorem slip_leaks :
  (∀ entry ∈ Hosted.scopeBuiltins, ∀ args, (entry.2 args).Keeps fun s t =>
      ∀ x name, t.host.heap.binds x name = s.host.heap.binds x name)
    ∧ (Standard.start .standard).heap.Sound
    ∧ (Standard.start .standard).env.Sound (Standard.start .standard).heap
    ∧ ∃ flow t, execStmt ⟨Hosted.scopeBuiltins, .log, .standard, fun _ => 0⟩ 4 slip
          (Standard.start .standard) = .done flow t
        ∧ (Standard.start .standard).heap.binds (Standard.start .standard).env.current "y" = false
        ∧ t.heap.binds (Standard.start .standard).env.current "y" = true
        ∧ (Standard.start .standard).scene.has "y" = false
        ∧ t.scene.has "y" = true
  := by
  obtain ⟨hheap, henv⟩ := Standard.sound_start .standard
  obtain ⟨flow, t, ht, htenv, htheap⟩ := exec_slip
  have hbinds : t.heap.binds 0 "y" = true := by
    rw [htheap, Heap.binds_define_iff]
    exact .inr ⟨rfl, rfl, Nat.zero_lt_two⟩
  have hhas : t.heap.contains t.env.current "y" = true := by
    refine Heap.contains_iff.mpr ⟨0, ?_, hbinds⟩
    rw [htenv, htheap, Heap.chain_define]
    exact List.mem_cons_self
  exact ⟨Hosted.keeps_binds_scopeBuiltins, hheap, henv, flow, t, ht, rfl, hbinds, rfl, hhas⟩

end StoryScript
