import Std.Data.TreeMap
import StoryScript.Value.Basic

/-!
# The heap of scopes

A scope binds names and may have a parent, the scope around it.  All scopes live in one
heap, because closures share them with the code that declared them: a binding changed
through one is seen through all.  Scopes are only ever added, and a parent is older than its
children.
-/

namespace StoryScript

/-- A scope. -/
structure Scope where
  /-- The names bound here, with their values. -/
  bindings : Std.TreeMap String Value
  /-- The scope around this one. -/
  parent : Option ScopeId

/-- All scopes, the oldest first. -/
structure Heap where
  /-- The scopes; the name of a scope is its place. -/
  scopes : Array Scope

namespace Heap

/-- The heap without scopes. -/
def empty : Heap := ⟨#[]⟩

instance : Inhabited Heap := ⟨empty⟩

/-- The scope with a name. -/
def scope? (h : Heap) (s : ScopeId) : Option Scope := h.scopes[s]?

/-- The name that the next scope gets. -/
def next (h : Heap) : ScopeId := h.scopes.size

/-- The heap with a new scope that binds nothing; its name is `h.next`. -/
def alloc (h : Heap) (parent : Option ScopeId) : Heap := ⟨h.scopes.push ⟨∅, parent⟩⟩

/-- The value bound to a name in one scope. -/
def binding? (h : Heap) (s : ScopeId) (name : String) : Option Value :=
  (h.scope? s).bind fun scope => scope.bindings[name]?

/-- Whether one scope binds a name. -/
def binds (h : Heap) (s : ScopeId) (name : String) : Bool :=
  match h.scope? s with
  | some scope => scope.bindings.contains name
  | none => false

/-- At most `fuel` scopes, from a scope outwards. -/
def outwards (h : Heap) : (fuel : Nat) → ScopeId → List ScopeId
  | 0, _ => []
  | fuel + 1, s =>
    match h.scope? s with
    | none => []
    | some scope =>
      match scope.parent with
      | none => [s]
      | some parent => s :: outwards h fuel parent

/-- A scope and all scopes around it, from the inside out.  Parents are older than their
children, so the name of a scope bounds the number of scopes around it. -/
def chain (h : Heap) (s : ScopeId) : List ScopeId := h.outwards (s + 1) s

/-- The value of a name in the first of at most `fuel` scopes, from a scope outwards, that binds
it. -/
def lookupWithin (h : Heap) (name : String) : (fuel : Nat) → ScopeId → Option Value
  | 0, _ => none
  | fuel + 1, s =>
    match h.scope? s with
    | none => none
    | some scope =>
      match scope.bindings[name]?, scope.parent with
      | some v, _ => some v
      | none, some parent => lookupWithin h name fuel parent
      | none, none => none

/-- The value of a name as seen from a scope: that of the nearest binding. -/
def lookup (h : Heap) (s : ScopeId) (name : String) : Option Value :=
  h.lookupWithin name (s + 1) s

/-- Whether one of at most `fuel` scopes, from a scope outwards, binds a name. -/
def containsWithin (h : Heap) (name : String) : (fuel : Nat) → ScopeId → Bool
  | 0, _ => false
  | fuel + 1, s =>
    match h.scope? s with
    | none => false
    | some scope =>
      scope.bindings.contains name ||
        match scope.parent with
        | some parent => containsWithin h name fuel parent
        | none => false

/-- Whether a name is bound in a scope or around it. -/
def contains (h : Heap) (s : ScopeId) (name : String) : Bool := h.containsWithin name (s + 1) s

/-- The heap after binding a name in one scope. -/
def define (h : Heap) (s : ScopeId) (name : String) (v : Value) : Heap :=
  ⟨h.scopes.modify s fun scope => { scope with bindings := scope.bindings.insert name v }⟩

/-- The heap after giving a name a new value in the first of at most `fuel` scopes, from a scope
outwards, that binds it, and whether there is one. -/
def assignWithin (h : Heap) (name : String) (v : Value) : (fuel : Nat) → ScopeId → Heap × Bool
  | 0, _ => (h, false)
  | fuel + 1, s =>
    match h.scope? s with
    | none => (h, false)
    | some scope =>
      if scope.bindings.contains name then (h.define s name v, true)
      else
        match scope.parent with
        | some parent => assignWithin h name v fuel parent
        | none => (h, false)

/-- The heap after giving the nearest binding of a name a new value, and whether there is
one.  Without one the heap stays as it is. -/
def assign (h : Heap) (s : ScopeId) (name : String) (v : Value) : Heap × Bool :=
  h.assignWithin name v (s + 1) s

/-! ### What the operations leave alone -/

@[simp] theorem next_alloc (h : Heap) (parent : Option ScopeId) :
  (h.alloc parent).next = h.next + 1
  := by
  simp [alloc, next]

/-- A new scope binds nothing. -/
theorem scope?_alloc_next (h : Heap) (parent : Option ScopeId) :
  (h.alloc parent).scope? h.next = some ⟨∅, parent⟩
  := by
  simp [alloc, scope?, next]

/-- A new scope leaves the others alone. -/
theorem scope?_alloc_of_lt (h : Heap) (parent : Option ScopeId) {s : ScopeId}
    (hs : s < h.next) :
  (h.alloc parent).scope? s = h.scope? s
  := by
  have hs' : s < h.scopes.size := hs
  simp [alloc, scope?, Array.getElem?_push, Nat.ne_of_lt hs']

@[simp] theorem next_define (h : Heap) (s : ScopeId) (name : String) (v : Value) :
  (h.define s name v).next = h.next
  := by
  simp [define, next]

/-- A new binding changes its own scope and no other one. -/
theorem scope?_define (h : Heap) (s t : ScopeId) (name : String) (v : Value) :
  (h.define s name v).scope? t
    = if s = t then (h.scope? t).map fun scope =>
        { scope with bindings := scope.bindings.insert name v }
      else h.scope? t
  := by
  simp [define, scope?, Array.getElem?_modify]

/-- A new scope leaves the bindings of the others as they are. -/
theorem binding?_alloc {h : Heap} {s : ScopeId} {name : String} {v : Value}
    (hv : h.binding? s name = some v) (parent : Option ScopeId) :
  (h.alloc parent).binding? s name = some v
  := by
  obtain ⟨scope, hscope, -⟩ := Option.bind_eq_some_iff.mp hv
  have hs : s < h.next := (Array.getElem?_eq_some_iff.mp hscope).1
  rw [binding?, scope?_alloc_of_lt h parent hs]
  exact hv

/-- A name that is bound has its new value there. -/
theorem binding?_define_self (h : Heap) {s : ScopeId} (name : String) (v : Value)
    (hs : s < h.next) :
  (h.define s name v).binding? s name = some v
  := by
  have hs' : s < h.scopes.size := hs
  have hscope : h.scope? s = some h.scopes[s] := Array.getElem?_eq_getElem hs'
  simp [binding?, scope?_define, hscope]

/-- Other scopes and other names keep their values. -/
theorem binding?_define_of_ne (h : Heap) {s t : ScopeId} {name other : String} (v : Value)
    (hne : t ≠ s ∨ other ≠ name) :
  (h.define s name v).binding? t other = h.binding? t other
  := by
  rw [binding?, binding?, scope?_define]
  by_cases hst : s = t
  · subst hst
    have ho : other ≠ name := by simpa using hne
    cases h.scope? s with
    | none => simp
    | some scope => simp [Std.TreeMap.getElem?_insert, Ne.symm ho]
  · simp [hst]

/-- A new binding changes no way outwards. -/
theorem outwards_define (h : Heap) (s : ScopeId) (name : String) (v : Value) (fuel : Nat)
    (t : ScopeId) :
  (h.define s name v).outwards fuel t = h.outwards fuel t
  := by
  induction fuel generalizing t with
  | zero => rfl
  | succ fuel ih =>
    rw [outwards, outwards, scope?_define]
    by_cases hst : s = t
    · subst hst
      cases hs : h.scope? s with
      | none => simp
      | some scope => cases hp : scope.parent <;> simp [hp, ih]
    · simp only [hst, if_false]
      cases hs : h.scope? t with
      | none => rfl
      | some scope => cases hp : scope.parent <;> simp [ih]

/-- A new binding changes no chain. -/
theorem chain_define (h : Heap) (s : ScopeId) (name : String) (v : Value) (t : ScopeId) :
  (h.define s name v).chain t = h.chain t
  := by
  apply outwards_define

/-- A scope binds a name exactly when there is a value under it. -/
theorem binds_eq_isSome (h : Heap) (s : ScopeId) (name : String) :
  h.binds s name = (h.binding? s name).isSome
  := by
  rw [binds, binding?]
  cases h.scope? s with
  | none => rfl
  | some scope => simp

/-! ### The nearest binding

A name is looked up, found and assigned by a walk each.  One walk that yields the place of the
binding as well stands for all three. -/

/-- The first of at most `fuel` scopes, from a scope outwards, that binds a name, with the value of
the name there. -/
def nearestWithin (h : Heap) (name : String) : (fuel : Nat) → ScopeId → Option (ScopeId × Value)
  | 0, _ => none
  | fuel + 1, s =>
    match h.scope? s with
    | none => none
    | some scope =>
      match scope.bindings[name]?, scope.parent with
      | some v, _ => some (s, v)
      | none, some parent => nearestWithin h name fuel parent
      | none, none => none

/-- The nearest scope that binds a name, from a scope outwards, with the value of the name
there. -/
def nearest (h : Heap) (s : ScopeId) (name : String) : Option (ScopeId × Value) :=
  h.nearestWithin name (s + 1) s

/-- A name has the value of the nearest binding. -/
theorem lookupWithin_eq (h : Heap) (name : String) (fuel : Nat) (s : ScopeId) :
  h.lookupWithin name fuel s = (h.nearestWithin name fuel s).map Prod.snd
  := by
  induction fuel generalizing s with
  | zero => rfl
  | succ fuel ih =>
    rw [lookupWithin, nearestWithin]
    cases h.scope? s with
    | none => rfl
    | some scope =>
      dsimp only
      cases scope.bindings[name]? with
      | some v => rfl
      | none =>
        cases scope.parent with
        | some parent => exact ih parent
        | none => rfl

/-- A name is found exactly when there is a nearest binding. -/
theorem containsWithin_eq (h : Heap) (name : String) (fuel : Nat) (s : ScopeId) :
  h.containsWithin name fuel s = (h.nearestWithin name fuel s).isSome
  := by
  induction fuel generalizing s with
  | zero => rfl
  | succ fuel ih =>
    rw [containsWithin, nearestWithin]
    cases h.scope? s with
    | none => rfl
    | some scope =>
      dsimp only
      rw [← Std.TreeMap.isSome_getElem?_eq_contains]
      cases scope.bindings[name]? with
      | some v => rfl
      | none =>
        cases scope.parent with
        | some parent => exact ih parent
        | none => rfl

/-- An assignment changes the nearest binding. -/
theorem assignWithin_eq (h : Heap) (name : String) (v : Value) (fuel : Nat) (s : ScopeId) :
  h.assignWithin name v fuel s
    = match h.nearestWithin name fuel s with
      | some (t, _) => (h.define t name v, true)
      | none => (h, false)
  := by
  induction fuel generalizing s with
  | zero => rfl
  | succ fuel ih =>
    rw [assignWithin, nearestWithin]
    cases h.scope? s with
    | none => rfl
    | some scope =>
      dsimp only
      rw [← Std.TreeMap.isSome_getElem?_eq_contains]
      cases scope.bindings[name]? with
      | some w => rfl
      | none =>
        cases scope.parent with
        | some parent => exact ih parent
        | none => rfl

/-- A name has the value that is bound nearest. -/
theorem lookup_eq_nearest (h : Heap) (s : ScopeId) (name : String) :
  h.lookup s name = (h.nearest s name).map Prod.snd
  := by
  apply lookupWithin_eq

/-- A name is bound around a scope if there is a nearest binding of it. -/
theorem contains_eq_nearest (h : Heap) (s : ScopeId) (name : String) :
  h.contains s name = (h.nearest s name).isSome
  := by
  apply containsWithin_eq

/-- An assignment changes the nearest binding, or nothing if there is none. -/
theorem assign_eq_nearest (h : Heap) (s : ScopeId) (name : String) (v : Value) :
  h.assign s name v
    = match h.nearest s name with
      | some (t, _) => (h.define t name v, true)
      | none => (h, false)
  := by
  apply assignWithin_eq

/-- The nearest binding is the first one on the way outwards. -/
theorem nearestWithin_eq (h : Heap) (name : String) (fuel : Nat) (s : ScopeId) :
  h.nearestWithin name fuel s
    = (h.outwards fuel s).findSome? fun t => (h.binding? t name).map fun v => (t, v)
  := by
  induction fuel generalizing s with
  | zero => rfl
  | succ fuel ih =>
    rw [nearestWithin, outwards]
    cases hs : h.scope? s with
    | none => rfl
    | some scope =>
      have hb : h.binding? s name = scope.bindings[name]? := by simp [binding?, hs]
      cases hv : scope.bindings[name]? <;> cases hp : scope.parent <;> simp [hb, hv, hp, ih]

/-- The nearest binding is the first one along the chain of scopes. -/
theorem nearest_eq (h : Heap) (s : ScopeId) (name : String) :
  h.nearest s name
    = (h.chain s).findSome? fun t => (h.binding? t name).map fun v => (t, v)
  := by
  apply nearestWithin_eq

/-- The value of a name is the first one along the chain of scopes. -/
theorem lookup_eq (h : Heap) (s : ScopeId) (name : String) :
  h.lookup s name = (h.chain s).findSome? fun t => h.binding? t name
  := by
  rw [lookup_eq_nearest, nearest_eq, List.map_findSome?]
  congr 1
  funext t
  simp only [Function.comp_apply]
  cases h.binding? t name <;> rfl

/-- A new scope shows what the scope around it binds. -/
theorem lookup_alloc_next {h : Heap} {s : ScopeId} {name : String} {v : Value}
    (hv : h.binding? s name = some v) :
  (h.alloc (some s)).lookup h.next name = some v
  := by
  have hs : s < h.next := by
    obtain ⟨scope, hscope, -⟩ := Option.bind_eq_some_iff.mp hv
    exact (Array.getElem?_eq_some_iff.mp hscope).1
  obtain ⟨fuel, hfuel⟩ := Nat.exists_eq_add_one_of_ne_zero (Nat.ne_zero_of_lt hs)
  obtain ⟨scope, hscope, hbinding⟩ := Option.bind_eq_some_iff.mp (binding?_alloc hv (some s))
  rw [lookup, lookupWithin, scope?_alloc_next, hfuel]
  dsimp only
  rw [Std.TreeMap.getElem?_emptyc]
  dsimp only
  rw [lookupWithin, hscope]
  dsimp only
  rw [hbinding]

end Heap

end StoryScript
