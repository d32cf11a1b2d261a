import Mathlib.Data.Set.Basic
import StoryScript.Proofs.Detached

/-!
# Regions of the heap

A region is a set of scopes.  The scopes that a piece of code can reach form a region that is
closed: it has the scopes around its scopes, and those of the closures bound in them.  Two heaps
that share a closed region look alike from it, and reading and writing through its scopes
neither leaves the region nor touches anything else.
-/

namespace StoryScript

/-! ### Values and scopes within a region -/

/-- All scopes that a value mentions are in the region. -/
def Value.Within (V : Set ScopeId) (v : Value) : Prop := ∀ x, v.Mentions x → x ∈ V

/-- The scope around a scope is in the region, and so are its values. -/
structure Scope.Within (V : Set ScopeId) (scope : Scope) : Prop where
  parent : ∀ y, scope.parent = some y → y ∈ V
  binding : ∀ (name : String) (v : Value), scope.bindings[name]? = some v → v.Within V

namespace Scope.Within

variable {V : Set ScopeId} {scope : Scope}

/-- A new scope in the region is within it. -/
theorem empty {parent : Option ScopeId} (h : ∀ y, parent = some y → y ∈ V) :
  Scope.Within V ⟨∅, parent⟩
  := by
  constructor
  · exact h
  · intro name v hv
    rw [Std.TreeMap.getElem?_emptyc] at hv
    cases hv

/-- A scope stays within the region after a value within it is bound. -/
theorem insert (h : scope.Within V) (name : String) {v : Value} (hv : v.Within V) :
  Scope.Within V { scope with bindings := scope.bindings.insert name v }
  := by
  constructor
  · exact h.parent
  · intro other w hw
    rw [Std.TreeMap.getElem?_insert] at hw
    split at hw
    · cases hw
      exact hv
    · exact h.binding other w hw

end Scope.Within

/-! ### Closures within a region -/

/-- The closures are the same, and their scopes are in the region. -/
def Closure.Shared (V : Set ScopeId) (f g : Closure) : Prop :=
  f = g ∧ f.scope ∈ V ∧ f.global ∈ V

namespace Value

variable {V : Set ScopeId}

/-- A value that shares the region with itself is within it. -/
theorem within_of_related {v : Value} (h : v.Related (Closure.Shared V) v) :
  v.Within V
  := by
  intro x hx
  induction hx with
  | @scope f hscope =>
    cases h with
    | atom h => cases h
    | closure h => exact hscope ▸ h.2.1
  | @global f hglobal =>
    cases h with
    | atom h => cases h
    | closure h => exact hglobal ▸ h.2.2
  | @item items v hv _ ih =>
    apply ih
    exact List.forall₂_same.mp h.items v (Array.mem_toList_iff.mpr hv)
  | @entry entries key v hv _ ih =>
    apply ih
    exact (List.forall₂_same.mp h.entries (key, v) hv).2

/-- A value within the region shares it with itself. -/
theorem related_of_within {v : Value} (h : v.Within V) :
  v.Related (Closure.Shared V) v
  := by
  induction v using Value.induct with
  | list items ih =>
    apply Related.list
    apply List.forall₂_same.mpr
    intro v hv
    apply ih v hv
    intro x hx
    exact h x (.item (List.mem_toArray.mpr hv) hx)
  | map entries ih =>
    apply Related.ofEntries
    apply List.forall₂_same.mpr
    rintro ⟨key, v⟩ he
    use rfl
    apply ih _ he
    intro x hx
    exact h x (.entry he hx)
  | closure f => exact .closure ⟨rfl, h _ (.scope rfl), h _ (.global rfl)⟩
  | _ => exact .atom rfl

/-- Values with shared closures are the same value, which is within the region. -/
theorem related_shared_iff {v w : Value} :
  v.Related (Closure.Shared V) w ↔ v = w ∧ v.Within V
  := by
  constructor
  · intro h
    obtain rfl : v = w := h.eq fun _ _ hfg => hfg.1
    exact ⟨rfl, within_of_related h⟩
  · rintro ⟨rfl, h⟩
    exact related_of_within h

/-- Lists of values with shared closures are the same list, and its values are within the
region. -/
theorem forall₂_shared_iff {vs ws : List Value} :
  List.Forall₂ (Related (Closure.Shared V)) vs ws ↔ vs = ws ∧ ∀ v ∈ vs, v.Within V
  := by
  constructor
  · intro h
    have heq := h.imp fun _ _ hvw => (related_shared_iff.mp hvw).1
    rw [List.forall₂_eq_eq_eq] at heq
    obtain rfl := heq
    use rfl
    intro v hv
    exact within_of_related (List.forall₂_same.mp h v hv)
  · rintro ⟨rfl, h⟩
    apply List.forall₂_same.mpr
    intro v hv
    exact related_of_within (h v hv)

end Value

/-! ### Heaps that share a region -/

namespace Heap

/-- A new scope is the only difference between a heap and the one after it is made. -/
theorem scope?_alloc (h : Heap) (parent : Option ScopeId) (x : ScopeId) :
  (h.alloc parent).scope? x = if x = h.next then some ⟨∅, parent⟩ else h.scope? x
  := by
  rw [alloc, scope?, Array.getElem?_push]
  rfl

/-- The scopes that can be reached from some scopes: these, the scopes around them, and the
scopes of the closures in their values. -/
inductive Reachable (h : Heap) (roots : Set ScopeId) : ScopeId → Prop where
  | root {x : ScopeId} (hx : x ∈ roots) : Reachable h roots x
  | parent {x y : ScopeId} {scope : Scope} (hx : Reachable h roots x)
    (hscope : h.scope? x = some scope) (hy : scope.parent = some y) : Reachable h roots y
  | binding {x y : ScopeId} {scope : Scope} {name : String} {v : Value}
    (hx : Reachable h roots x) (hscope : h.scope? x = some scope)
    (hv : scope.bindings[name]? = some v) (hy : v.Mentions y) : Reachable h roots y

/-- Two heaps with a closed region in common, each of which is as it was at some other moment
outside of the region. -/
structure Share (V : Set ScopeId) (far far' : Heap) (h h' : Heap) : Prop where
  /-- Both heaps have the same number of scopes. -/
  next_eq : h'.next = h.next
  /-- New scopes are in the region. -/
  fresh : ∀ x, h.next ≤ x → x ∈ V
  /-- In the region the heaps are the same. -/
  inside : ∀ x ∈ V, h'.scope? x = h.scope? x
  /-- The region is closed. -/
  closed : ∀ x ∈ V, ∀ scope, h.scope? x = some scope → scope.Within V
  /-- Outside of the region the heaps are as they were. -/
  outside : ∀ x ∉ V, h.scope? x = far.scope? x ∧ h'.scope? x = far'.scope? x

namespace Share

variable {V : Set ScopeId} {far far' h h' : Heap}

/-- Both heaps get the same new scope, which joins the region. -/
theorem alloc (H : Share V far far' h h') {x : ScopeId} (hx : x ∈ V) :
  Share V far far' (h.alloc (some x)) (h'.alloc (some x))
  := by
  have hnext : h.next ∈ V := H.fresh _ le_rfl
  constructor
  · rw [next_alloc, next_alloc, H.next_eq]
  · intro y hy
    rw [next_alloc] at hy
    exact H.fresh y (Nat.le_of_succ_le hy)
  · intro y hy
    rw [scope?_alloc, scope?_alloc, H.next_eq, H.inside y hy]
  · intro y hy scope hscope
    rw [scope?_alloc] at hscope
    split at hscope
    · cases hscope
      apply Scope.Within.empty
      rintro _ ⟨⟩
      exact hx
    · exact H.closed y hy scope hscope
  · intro y hy
    have hne : y ≠ h.next := fun heq => hy (heq ▸ hnext)
    rw [scope?_alloc, scope?_alloc, H.next_eq, if_neg hne, if_neg hne]
    exact H.outside y hy

/-- Both heaps still share the region after a value within it is bound in it. -/
theorem define (H : Share V far far' h h') {x : ScopeId} (hx : x ∈ V) (name : String)
    {v : Value} (hv : v.Within V) :
  Share V far far' (h.define x name v) (h'.define x name v)
  := by
  constructor
  · rw [next_define, next_define, H.next_eq]
  · intro y hy
    rw [next_define] at hy
    exact H.fresh y hy
  · intro y hy
    rw [scope?_define, scope?_define, H.inside y hy]
  · intro y hy scope hscope
    rw [scope?_define] at hscope
    split at hscope
    · obtain ⟨before, hbefore, rfl⟩ := Option.map_eq_some_iff.mp hscope
      exact (H.closed y hy before hbefore).insert name hv
    · exact H.closed y hy scope hscope
  · intro y hy
    have hne : x ≠ y := fun heq => hy (heq ▸ hx)
    rw [scope?_define, scope?_define, if_neg hne, if_neg hne]
    exact H.outside y hy

/-- From a scope of the region the nearest binding is the same in both heaps, and it is in the
region. -/
theorem nearestWithin (H : Share V far far' h h') (name : String) (fuel : Nat) {x : ScopeId}
    (hx : x ∈ V) :
  h'.nearestWithin name fuel x = h.nearestWithin name fuel x ∧
    ∀ y v, h.nearestWithin name fuel x = some (y, v) → y ∈ V ∧ v.Within V
  := by
  induction fuel generalizing x with
  | zero =>
    use rfl
    intro y v hyv
    cases hyv
  | succ fuel ih =>
    rw [Heap.nearestWithin, Heap.nearestWithin, H.inside x hx]
    cases hscope : h.scope? x with
    | none =>
      use rfl
      intro y v hyv
      cases hyv
    | some scope =>
      have hwithin := H.closed x hx scope hscope
      dsimp only
      cases hv : scope.bindings[name]? with
      | some v =>
        use rfl
        rintro y w ⟨⟩
        exact ⟨hx, hwithin.binding name v hv⟩
      | none =>
        cases hparent : scope.parent with
        | some parent => exact ih (hwithin.parent parent hparent)
        | none =>
          use rfl
          intro y v hyv
          cases hyv

/-- From the region the same bindings are seen, and they are in the region. -/
theorem nearest (H : Share V far far' h h') (name : String) {x : ScopeId} (hx : x ∈ V) :
  h'.nearest x name = h.nearest x name ∧
    ∀ y v, h.nearest x name = some (y, v) → y ∈ V ∧ v.Within V
  := by
  exact H.nearestWithin name (x + 1) hx

/-- From a scope of the region a name has the same value in both heaps, and that is within the
region. -/
theorem lookup (H : Share V far far' h h') (name : String) {x : ScopeId} (hx : x ∈ V) :
  h'.lookup x name = h.lookup x name ∧ ∀ v, h.lookup x name = some v → v.Within V
  := by
  obtain ⟨hsame, hwithin⟩ := H.nearest name hx
  rw [Heap.lookup_eq_nearest, Heap.lookup_eq_nearest]
  constructor
  · rw [hsame]
  · intro v hv
    obtain ⟨⟨y, w⟩, hyw, rfl⟩ := Option.map_eq_some_iff.mp hv
    exact (hwithin y w hyw).2

/-- From a scope of the region an assignment does the same to both heaps. -/
theorem assign (H : Share V far far' h h') {x : ScopeId} (hx : x ∈ V) (name : String)
    {v : Value} (hv : v.Within V) :
  (h'.assign x name v).2 = (h.assign x name v).2 ∧
    Share V far far' (h.assign x name v).1 (h'.assign x name v).1
  := by
  obtain ⟨hsame, hwithin⟩ := H.nearest name hx
  rw [Heap.assign_eq_nearest, Heap.assign_eq_nearest, hsame]
  cases hnearest : h.nearest x name with
  | none => exact ⟨rfl, H⟩
  | some yw =>
    obtain ⟨y, w⟩ := yw
    obtain ⟨hy, -⟩ := hwithin y w hnearest
    exact ⟨rfl, H.define hy name hv⟩

/-- Heaps that agree on what can be reached from some roots share it, together with everything
that is allocated from now on. -/
theorem of_reachable {roots : Set ScopeId} (hnext : h'.next = h.next)
    (hsame : ∀ x, h.Reachable roots x → h'.scope? x = h.scope? x) :
  Share {x | h.Reachable roots x ∨ h.next ≤ x} h h' h h'
  := by
  -- scopes that are allocated later are not there yet, in either heap
  have hnew : ∀ {k : Heap} {x : ScopeId}, k.next ≤ x → k.scope? x = none := by
    intro k x hx
    exact Array.getElem?_eq_none hx
  constructor
  · exact hnext
  · intro x hx
    exact .inr hx
  · rintro x (hx | hx)
    · exact hsame x hx
    · rw [hnew hx, hnew (hnext ▸ hx)]
  · rintro x (hx | hx) scope hscope
    · constructor
      · intro y hy
        exact .inl (.parent hx hscope hy)
      · intro name v hv y hy
        exact .inl (.binding hx hscope hv hy)
    · rw [hnew hx] at hscope
      cases hscope
  · intro x _
    exact ⟨rfl, rfl⟩

end Share

end Heap

end StoryScript
