import Mathlib.Data.List.Chain
import StoryScript.Proofs.Region
import StoryScript.Proofs.Watch

/-!
# Well-formed scopes

A heap is sound when every parent is older than its children and the closures in it are sound.
A closure is sound when outwards from the scope that it was declared in one comes to its global
scope, and so is an environment, whose scopes moreover lie in each other.  Scopes are only added,
so what is sound stays so.  Main statement: from every scope of a sound heap the walk outwards
meets each scope once and ends, at a scope without parent.
-/

namespace StoryScript

namespace Heap

/-- The scope around a scope. -/
def parent? (h : Heap) (x : ScopeId) : Option ScopeId := (h.scope? x).bind Scope.parent

/-- The first scope lies right in the second one. -/
def LiesIn (h : Heap) (x y : ScopeId) : Prop := h.parent? x = some y

/-- The last scope on the way outwards. -/
inductive Root (h : Heap) (g : ScopeId) : ScopeId → Prop where
  | here (hg : g < h.next) (hparent : h.parent? g = none) : Root h g g
  | around {x y : ScopeId} (hparent : h.LiesIn x y) (hy : Root h g y) : Root h g x

/-- The second heap has the scopes of the first one, in the same place. -/
structure Extends (h h' : Heap) : Prop where
  next_le : h.next ≤ h'.next
  parent_eq : ∀ x < h.next, h'.parent? x = h.parent? x

end Heap

/-- The scope that a closure was declared in is within its global scope. -/
def Closure.Sound (h : Heap) (f : Closure) : Prop := h.Root f.global f.scope

/-- All closures of a value are sound. -/
def Value.Sound (h : Heap) (v : Value) : Prop := ∀ f, v.Carries f → f.Sound h

/-- The scopes lie in each other, and all of them within the global scope. -/
structure Environment.Sound (h : Heap) (env : Environment) : Prop where
  stack : env.scopes.IsChain h.LiesIn
  root : h.Root env.global env.base

/-- Parents are older than their children: a scope gets its parent, which has to be there, when it
is made, and keeps it.  So no walk outwards comes back to where it was. -/
structure Heap.Acyclic (h : Heap) : Prop where
  older : ∀ {x y}, h.LiesIn x y → y < x

/-- Parents are older than their children, and bound values are sound. -/
structure Heap.Sound (h : Heap) : Prop where
  older : ∀ {x y}, h.LiesIn x y → y < x
  bound : ∀ {x name v}, h.binding? x name = some v → v.Sound h

namespace Heap

variable {h h' h'' : Heap} {x y g : ScopeId}

/-! ### Links -/

/-- A scope is missing exactly if its number has not been given yet. -/
theorem scope?_eq_none_iff :
  h.scope? x = none ↔ h.next ≤ x
  := by
  rw [scope?, Array.getElem?_eq_none_iff]
  rfl

/-- A scope that lies in another one is there. -/
theorem LiesIn.lt_next (hxy : h.LiesIn x y) :
  x < h.next
  := by
  apply Nat.lt_of_not_le
  intro hx
  rw [LiesIn, parent?, scope?_eq_none_iff.mpr hx] at hxy
  cases hxy

/-- A scope in which a name is bound is there. -/
theorem lt_next_of_binding? {name : String} {v : Value} (hv : h.binding? x name = some v) :
  x < h.next
  := by
  apply Nat.lt_of_not_le
  intro hx
  rw [binding?, scope?_eq_none_iff.mpr hx] at hv
  cases hv

namespace Root

/-- A scope that has a root is there. -/
theorem lt_next (hx : h.Root g x) :
  x < h.next
  := by
  cases hx with
  | here hg => exact hg
  | around hparent => exact hparent.lt_next

/-- The root of a scope is there. -/
theorem global_lt_next (hx : h.Root g x) :
  g < h.next
  := by
  induction hx with
  | here hg => exact hg
  | around _ _ ih => exact ih

/-- A root has no parent. -/
theorem parent_eq_none (hx : h.Root g x) :
  h.parent? g = none
  := by
  induction hx with
  | here _ hparent => exact hparent
  | around _ _ ih => exact ih

end Root

/-! ### Growth -/

namespace Extends

/-- Every heap extends itself. -/
theorem refl (h : Heap) :
  h.Extends h
  := ⟨Nat.le_refl _, fun _ _ => rfl⟩

/-- Extensions may be chained. -/
theorem trans (hh : h.Extends h') (hh' : h'.Extends h'') :
  h.Extends h''
  := by
  constructor
  · exact Nat.le_trans hh.next_le hh'.next_le
  · intro x hx
    rw [hh'.parent_eq x (Nat.lt_of_lt_of_le hx hh.next_le), hh.parent_eq x hx]

/-- Scopes stay where they lie. -/
theorem liesIn (hh : h.Extends h') (hxy : h.LiesIn x y) :
  h'.LiesIn x y
  := by
  rw [LiesIn, hh.parent_eq x hxy.lt_next]
  exact hxy

/-- Scopes keep their roots. -/
theorem root (hh : h.Extends h') (hx : h.Root g x) :
  h'.Root g x
  := by
  induction hx with
  | here hg hparent =>
    apply Root.here (Nat.lt_of_lt_of_le hg hh.next_le)
    rw [hh.parent_eq g hg, hparent]
  | around hparent _ ih => exact .around (hh.liesIn hparent) ih

/-- Closures stay sound in larger heaps. -/
theorem closure (hh : h.Extends h') {f : Closure} (hf : f.Sound h) :
  f.Sound h'
  := hh.root hf

/-- Values stay sound in larger heaps. -/
theorem value (hh : h.Extends h') {v : Value} (hv : v.Sound h) :
  v.Sound h'
  := by
  intro f hf
  exact hh.closure (hv f hf)

/-- Environments stay sound in larger heaps. -/
theorem environment (hh : h.Extends h') {env : Environment} (henv : env.Sound h) :
  env.Sound h'
  := by
  constructor
  · exact henv.stack.imp fun _ _ => hh.liesIn
  · exact hh.root henv.root

/-- A new scope extends the heap. -/
theorem alloc (h : Heap) (parent : Option ScopeId) :
  h.Extends (h.alloc parent)
  := by
  constructor
  · rw [next_alloc]
    exact Nat.le_succ _
  · intro x hx
    rw [parent?, parent?, scope?_alloc_of_lt h parent hx]

/-- A new binding extends the heap: scopes and parents stay as they are. -/
theorem define (h : Heap) (x : ScopeId) (name : String) (v : Value) :
  h.Extends (h.define x name v)
  := by
  constructor
  · rw [next_define]
  · intro y _
    rw [parent?, parent?, scope?_define]
    split
    · cases h.scope? y <;> rfl
    · rfl

end Extends

/-! ### Acyclic heaps -/

/-- A new scope has the parent that it is given. -/
theorem parent?_alloc_next (h : Heap) (parent : Option ScopeId) :
  (h.alloc parent).parent? h.next = parent
  := by
  rw [parent?, scope?_alloc_next]
  rfl

namespace Acyclic

/-- In a heap without scopes no parent can be younger. -/
theorem empty :
  Heap.empty.Acyclic
  := by
  constructor
  intro x y hxy
  exact absurd hxy.lt_next (Nat.not_lt_zero x)

/-- A new scope lies in an older one, if in any. -/
theorem alloc (hh : h.Acyclic) {parent : Option ScopeId}
    (hparent : ∀ y, parent = some y → y < h.next) :
  (h.alloc parent).Acyclic
  := by
  constructor
  intro x y hxy
  obtain hx | rfl : x < h.next ∨ x = h.next := by
    have hlt := hxy.lt_next
    rw [next_alloc] at hlt
    exact Nat.lt_succ_iff_lt_or_eq.mp hlt
  · rw [LiesIn, (Extends.alloc h parent).parent_eq x hx] at hxy
    exact hh.older hxy
  · rw [LiesIn, parent?_alloc_next] at hxy
    exact hparent y hxy

/-- A binding has nothing to do with parents. -/
theorem define (hh : h.Acyclic) (x : ScopeId) (name : String) (v : Value) :
  (h.define x name v).Acyclic
  := by
  constructor
  intro y z hyz
  apply hh.older
  rw [LiesIn, ← (Extends.define h x name v).parent_eq y]
  · exact hyz
  · have hlt := hyz.lt_next
    rwa [next_define] at hlt

end Acyclic

/-! ### Sound heaps -/

namespace Sound

/-- In a sound heap parents are older. -/
theorem acyclic (hh : h.Sound) :
  h.Acyclic
  := ⟨hh.older⟩

/-- A heap without scopes is sound. -/
theorem empty :
  Heap.empty.Sound
  := by
  constructor
  · exact Acyclic.empty.older
  · intro x name v hv
    cases hv

/-- A heap stays sound with a new scope, if its parent is there. -/
theorem alloc (hh : h.Sound) {parent : Option ScopeId}
    (hparent : ∀ y, parent = some y → y < h.next) :
  (h.alloc parent).Sound
  := by
  constructor
  · exact (hh.acyclic.alloc hparent).older
  · intro x name v hv
    rw [binding?, scope?_alloc] at hv
    split at hv
    · simp at hv
    · exact (Extends.alloc h parent).value (hh.bound hv)

/-- A heap stays sound after a sound value is bound. -/
theorem define (hh : h.Sound) (x : ScopeId) (name : String) {v : Value} (hv : v.Sound h) :
  (h.define x name v).Sound
  := by
  have hext := Extends.define h x name v
  constructor
  · exact (hh.acyclic.define x name v).older
  · intro y other w hw
    by_cases hsame : y ≠ x ∨ other ≠ name
    · rw [binding?_define_of_ne h v hsame] at hw
      exact hext.value (hh.bound hw)
    · obtain ⟨rfl, rfl⟩ : y = x ∧ other = name := by
        simpa using hsame
      have hy : y < h.next := by
        have hlt := lt_next_of_binding? hw
        rwa [next_define] at hlt
      rw [binding?_define_self h other v hy] at hw
      cases hw
      exact hext.value hv

end Sound

/-! ### The walk outwards -/

/-- With more fuel the walk outwards goes from a scope to its parent and on from there. -/
theorem outwards_succ (h : Heap) (fuel : Nat) (hx : x < h.next) :
  h.outwards (fuel + 1) x = x :: (h.parent? x).elim [] (h.outwards fuel)
  := by
  rw [outwards, parent?]
  cases hscope : h.scope? x with
  | none => exact absurd hx (Nat.not_lt.mpr (scope?_eq_none_iff.mp hscope))
  | some scope =>
    obtain ⟨bindings, parent⟩ := scope
    cases parent <;> rfl

namespace Acyclic

/-- The walk outwards ends before its fuel does. -/
theorem outwards_eq (hh : h.Acyclic) {fuel : Nat} (hx : x < h.next) (hfuel : x < fuel) :
  h.outwards fuel x = h.chain x
  := by
  -- the walk goes down to older scopes
  induction x using Nat.strong_induction_on generalizing fuel with
  | _ x ih =>
    obtain ⟨fuel, rfl⟩ := Nat.exists_eq_add_one_of_ne_zero (Nat.ne_zero_of_lt hfuel)
    rw [chain, outwards_succ h fuel hx, outwards_succ h x hx]
    cases hparent : h.parent? x with
    | none => rfl
    | some y =>
      have hyx : y < x := hh.older hparent
      have hy : y < h.next := Nat.lt_trans hyx hx
      have hyfuel : y < fuel := Nat.lt_of_lt_of_le hyx (Nat.lt_succ_iff.mp hfuel)
      rw [Option.elim_some, Option.elim_some, ih y hyx hy hyfuel, ih y hyx hy hyx]

/-- The chain of a scope is the scope and the chain of its parent. -/
theorem chain_eq (hh : h.Acyclic) (hx : x < h.next) :
  h.chain x = x :: (h.parent? x).elim [] h.chain
  := by
  rw [chain, outwards_succ h x hx]
  cases hparent : h.parent? x with
  | none => rfl
  | some y =>
    have hyx : y < x := hh.older hparent
    rw [Option.elim_some, Option.elim_some, hh.outwards_eq (Nat.lt_trans hyx hx) hyx]

end Acyclic

namespace Sound

/-- In a sound heap a walk with fuel for every older scope is the whole chain. -/
theorem outwards_eq (hh : h.Sound) {fuel : Nat} (hx : x < h.next) (hfuel : x < fuel) :
  h.outwards fuel x = h.chain x
  := hh.acyclic.outwards_eq hx hfuel

/-- In a sound heap the chain of a scope is the scope and the chain of its parent. -/
theorem chain_eq (hh : h.Sound) (hx : x < h.next) :
  h.chain x = x :: (h.parent? x).elim [] h.chain
  := hh.acyclic.chain_eq hx

/-- In a sound heap a search with fuel for every older scope finds the nearest binding. -/
theorem nearestWithin_eq (hh : h.Sound) {fuel : Nat} (hx : x < h.next) (hfuel : x < fuel)
    (name : String) :
  h.nearestWithin name fuel x = h.nearest x name
  := by
  rw [Heap.nearestWithin_eq, nearest_eq, hh.outwards_eq hx hfuel]

/-- The three walks end before their fuel does, so that more of it makes no difference. -/
theorem walks_eq (hh : h.Sound) {fuel : Nat} (hx : x < h.next) (hfuel : x < fuel)
    (name : String) :
  h.lookupWithin name fuel x = h.lookup x name
    ∧ h.containsWithin name fuel x = h.contains x name
    ∧ ∀ v, h.assignWithin name v fuel x = h.assign x name v
  := by
  have hnearest := hh.nearestWithin_eq hx hfuel name
  refine ⟨?_, ?_, ?_⟩
  · rw [Heap.lookupWithin_eq, lookup_eq_nearest, hnearest]
  · rw [Heap.containsWithin_eq, contains_eq_nearest, hnearest]
  · intro v
    rw [Heap.assignWithin_eq, assign_eq_nearest, hnearest]

/-- In a sound heap all scopes of a chain are as old as the first one or older. -/
theorem mem_chain_le (hh : h.Sound) (hx : x < h.next) (hy : y ∈ h.chain x) :
  y ≤ x
  := by
  induction x using Nat.strong_induction_on with
  | _ x ih =>
    rw [hh.chain_eq hx] at hy
    obtain rfl | hy := List.mem_cons.mp hy
    · exact Nat.le_refl y
    · cases hparent : h.parent? x with
      | none =>
        rw [hparent] at hy
        cases hy
      | some z =>
        rw [hparent] at hy
        have hzx : z < x := hh.older hparent
        exact Nat.le_trans (ih z hzx (Nat.lt_trans hzx hx) hy) (Nat.le_of_lt hzx)

/-- Each scope on the way is older than the ones before it. -/
theorem pairwise_chain (hh : h.Sound) (hx : x < h.next) :
  (h.chain x).Pairwise (· > ·)
  := by
  induction x using Nat.strong_induction_on with
  | _ x ih =>
    rw [hh.chain_eq hx]
    cases hparent : h.parent? x with
    | none => exact List.pairwise_singleton _ x
    | some y =>
      have hyx : y < x := hh.older hparent
      have hy : y < h.next := Nat.lt_trans hyx hx
      apply List.Pairwise.cons
      · intro z hz
        exact Nat.lt_of_le_of_lt (hh.mem_chain_le hy hz) hyx
      · exact ih y hyx hy

/-- In a sound heap no scope occurs twice in a chain. -/
theorem nodup_chain (hh : h.Sound) (hx : x < h.next) :
  (h.chain x).Nodup
  := (hh.pairwise_chain hx).imp Nat.ne_of_gt

/-- In a sound heap a chain starts with its scope. -/
theorem head?_chain (hh : h.Sound) (hx : x < h.next) :
  (h.chain x).head? = some x
  := by
  rw [hh.chain_eq hx]
  rfl

/-- The walk follows the links. -/
theorem isChain_chain (hh : h.Sound) (hx : x < h.next) :
  (h.chain x).IsChain h.LiesIn
  := by
  induction x using Nat.strong_induction_on with
  | _ x ih =>
    rw [hh.chain_eq hx]
    cases hparent : h.parent? x with
    | none => exact .singleton x
    | some y =>
      have hyx : y < x := hh.older hparent
      have hy : y < h.next := Nat.lt_trans hyx hx
      apply (ih y hyx hy).cons
      intro z hz
      rw [hh.head?_chain hy] at hz
      cases hz
      exact hparent

/-- The walk ends at the root. -/
theorem getLast?_chain (hh : h.Sound) (hx : h.Root g x) :
  (h.chain x).getLast? = some g
  := by
  induction hx with
  | here hg hparent =>
    rw [hh.chain_eq hg, hparent]
    rfl
  | @around x y hparent hy ih =>
    rw [hh.chain_eq hparent.lt_next, hparent, Option.elim_some, hh.chain_eq hy.lt_next,
      List.getLast?_cons_cons, ← hh.chain_eq hy.lt_next]
    exact ih

/-- The walk from every scope comes to a root. -/
theorem exists_root (hh : h.Sound) (hx : x < h.next) :
  ∃ g, h.Root g x
  := by
  induction x using Nat.strong_induction_on with
  | _ x ih =>
    cases hparent : h.parent? x with
    | none => exact ⟨x, .here hx hparent⟩
    | some y =>
      have hyx : y < x := hh.older hparent
      obtain ⟨g, hg⟩ := ih y hyx (Nat.lt_trans hyx hx)
      exact ⟨g, .around hparent hg⟩

/-- What is found from a scope is sound. -/
theorem lookup (hh : h.Sound) {name : String} {v : Value} (hv : h.lookup x name = some v) :
  v.Sound h
  := by
  rw [lookup_eq] at hv
  obtain ⟨y, -, hy⟩ := List.exists_of_findSome?_eq_some hv
  exact hh.bound hy

/-- An assignment of a sound value keeps the heap sound and extends it. -/
theorem assign (hh : h.Sound) (x : ScopeId) (name : String) {v : Value} (hv : v.Sound h) :
  (h.assign x name v).1.Sound ∧ h.Extends (h.assign x name v).1
  := by
  rw [assign_eq_nearest]
  split
  · exact ⟨hh.define _ name hv, .define _ _ _ _⟩
  · exact ⟨hh, .refl h⟩

end Sound

end Heap

/-! ### Sound environments -/

/-- The current scope is the first one of an environment. -/
theorem Environment.head?_scopes (env : Environment) :
  env.scopes.head? = some env.current
  := by
  obtain ⟨inner, base, global⟩ := env
  cases inner <;> rfl

namespace Environment.Sound

variable {h : Heap} {env : Environment}

/-- The environment of a scope and its root is sound. -/
theorem onScope {x g : ScopeId} (hx : h.Root g x) :
  (Environment.onScope x g).Sound h
  := by
  constructor
  · exact .singleton x
  · exact hx

/-- All scopes are within the global one. -/
theorem root_of_mem (henv : env.Sound h) {x : ScopeId} (hx : x ∈ env.scopes) :
  h.Root env.global x
  := by
  obtain ⟨inner, base, global⟩ := env
  obtain ⟨hstack, hroot⟩ := henv
  -- from the base inwards
  induction inner generalizing x with
  | nil =>
    obtain rfl := List.mem_singleton.mp hx
    exact hroot
  | cons y rest ih =>
    obtain ⟨hbelow, hrest⟩ := List.isChain_cons.mp hstack
    obtain rfl | hx := List.mem_cons.mp hx
    · have hhead := Environment.head?_scopes ⟨rest, base, global⟩
      exact .around (hbelow _ hhead) (ih (List.mem_of_head? hhead) hrest hroot)
    · exact ih hx hrest hroot

/-- In a sound environment the current scope has the global one as its root. -/
theorem root_current (henv : env.Sound h) :
  h.Root env.global env.current
  := henv.root_of_mem (List.mem_of_head? env.head?_scopes)

/-- An environment stays sound when a scope in the current one is entered. -/
theorem push (henv : env.Sound h) {x : ScopeId} (hx : h.LiesIn x env.current) :
  (env.push x).Sound h
  := by
  constructor
  · apply henv.stack.cons
    intro y hy
    rw [env.head?_scopes] at hy
    cases hy
    exact hx
  · exact henv.root

/-- An environment stays sound when a scope is left. -/
theorem pop (henv : env.Sound h) :
  env.pop.Sound h
  := by
  obtain ⟨inner, base, global⟩ := env
  obtain ⟨hstack, hroot⟩ := henv
  constructor
  · cases inner with
    | nil => exact hstack
    | cons y rest => exact hstack.tail
  · exact hroot

end Environment.Sound

/-- The scopes of a new context are well-formed. -/
theorem Standard.sound_start (limits : Limits) :
  (start limits).heap.Sound ∧ (start limits).env.Sound (start limits).heap
  := by
  constructor
  · exact Heap.Sound.empty.alloc nofun
  · exact .onScope (.here (Nat.lt_succ_self 0) rfl)

end StoryScript
