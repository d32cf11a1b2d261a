import Mathlib.Logic.Function.Basic
import StoryScript.Proofs.Isolation
import StoryScript.Proofs.Scopes

/-!
# A scope more

Two heaps that differ by one scope: the second one has an empty scope right inside some other
scope.  All older scopes have the same names in both, all newer ones have names that differ by
one, and where scopes lie in the outer scope in the first heap they may lie in the empty one in
the second.  Main statement: from corresponding scopes the same bindings are seen and assigned.
-/

namespace StoryScript

/-! ### Names of scopes -/

/-- A place among the scopes for one more, right inside another one. -/
structure Gap where
  /-- The scope around. -/
  outer : ScopeId
  /-- The name of the scope at the place. -/
  place : ScopeId

namespace Gap

variable (G : Gap)

/-- The name of a scope once there is one more. -/
def skip (x : ScopeId) : ScopeId := if x < G.place then x else x + 1

/-- The scopes from which the same is seen: the new scope shows what is around it. -/
def Near (x x' : ScopeId) : Prop := x' = G.skip x ∨ (x = G.outer ∧ x' = G.place)

/-- The same closure, with other names for its scopes. -/
structure Renames (f g : Closure) : Prop where
  decl : f.decl = g.decl
  scope : g.scope = G.skip f.scope
  global : g.global = G.skip f.global

/-- Closures that correspond, whose scopes are among the first ones. -/
structure Renamed (w : Nat) (f g : Closure) : Prop extends G.Renames f g where
  scope_lt : f.scope < w
  global_lt : f.global < w

/-- Values that correspond. -/
def Values (w : Nat) : Value → Value → Prop := Value.Related (G.Renamed w)

variable {G} {x y : ScopeId} {w w' : Nat}

/-- Scopes before the place keep their names. -/
theorem skip_of_lt (h : x < G.place) :
  G.skip x = x
  := if_pos h

/-- Scopes from the place on have names greater by one. -/
theorem skip_of_le (h : G.place ≤ x) :
  G.skip x = x + 1
  := if_neg (Nat.not_lt.mpr h)

/-- No two scopes have the same name afterwards. -/
theorem skip_injective (G : Gap) :
  Function.Injective G.skip
  := by
  intro x y h
  unfold skip at h
  split at h <;> split at h
  · exact h
  · rename_i hx hy
    subst h
    exact absurd (Nat.lt_of_succ_lt hx) hy
  · rename_i hx hy
    subst h
    exact absurd (Nat.lt_of_succ_lt hy) hx
  · exact Nat.succ.inj h

/-- No scope has the name of the new one. -/
theorem skip_ne_place (G : Gap) (x : ScopeId) :
  G.skip x ≠ G.place
  := by
  unfold skip
  split
  · rename_i hx
    exact Nat.ne_of_lt hx
  · rename_i hx
    exact Nat.ne_of_gt (Nat.lt_succ_of_le (Nat.not_lt.mp hx))

theorem skip_le (G : Gap) (x : ScopeId) :
  G.skip x ≤ x + 1
  := by
  unfold skip
  split
  · exact Nat.le_succ x
  · exact Nat.le_refl _

/-- Closures that correspond still do when there are more scopes. -/
theorem Renamed.mono (h : w ≤ w') {f g : Closure} (hfg : G.Renamed w f g) :
  G.Renamed w' f g
  := ⟨hfg.toRenames, Nat.lt_of_lt_of_le hfg.scope_lt h, Nat.lt_of_lt_of_le hfg.global_lt h⟩

/-- Values that correspond still do when there are more scopes. -/
theorem values_mono (h : w ≤ w') {v v' : Value} (hv : G.Values w v v') :
  G.Values w' v v'
  := hv.mono fun _ _ => Renamed.mono h

theorem renames_of_values {v v' : Value} (hv : G.Values w v v') :
  v.Related G.Renames v'
  := hv.mono fun _ _ => Renamed.toRenames

/-- Closures are the same exactly if those with the other names are. -/
theorem renamed_same {f g f' g' : Closure} (h : G.Renamed w f g) (h' : G.Renamed w f' g') :
  f.same f' = g.same g'
  := by
  have hscopes : (f.scope == f'.scope) = (g.scope == g'.scope) := by
    rw [h.scope, h'.scope, Bool.eq_iff_iff, beq_iff_eq, beq_iff_eq, G.skip_injective.eq_iff]
  rw [Closure.same, Closure.same, h.decl, h'.decl, hscopes]

/-! ### Scopes and heaps -/

/-- Scopes that bind the same names to values that correspond.  The scopes around them are older
and show the same. -/
structure Scopes (G : Gap) (w : Nat) (x : ScopeId) (s s' : Scope) : Prop where
  bindings : ∀ name : String, Option.Rel (G.Values w) s.bindings[name]? s'.bindings[name]?
  parent : Option.Rel (fun y y' => G.Near y y' ∧ y < x ∧ y' < G.skip x) s.parent s'.parent

/-- The second heap has one more scope, which is empty. -/
structure Heaps (G : Gap) (h h' : Heap) : Prop where
  outer_lt : G.outer < G.place
  place_le : G.place ≤ h.next
  next : h'.next = h.next + 1
  /-- The additional scope binds nothing. -/
  empty : h'.scope? G.place = some ⟨∅, some G.outer⟩
  /-- All other scopes correspond. -/
  scopes : ∀ x, Option.Rel (G.Scopes h.next x) (h.scope? x) (h'.scope? (G.skip x))

theorem Scopes.mono {s s' : Scope} (hs : G.Scopes w x s s') (h : w ≤ w') :
  G.Scopes w' x s s'
  := by
  refine ⟨?_, hs.parent⟩
  intro name
  have hname := hs.bindings name
  generalize s.bindings[name]? = v, s'.bindings[name]? = v' at hname
  cases hname with
  | none => exact .none
  | some hv => exact .some (values_mono h hv)

/-- In a sound heap every value corresponds to itself, as long as all scopes are older. -/
theorem values_of_sound {h : Heap} {v : Value} (hv : v.Sound h) (hplace : h.next = G.place) :
  G.Values h.next v v
  := by
  apply (Value.related_of_carries (P := Closure.Sound h) hv).mono
  rintro f _ ⟨rfl, hf⟩
  have hscope := hf.lt_next
  have hglobal := hf.global_lt_next
  exact ⟨⟨rfl, (skip_of_lt (hplace ▸ hscope)).symm, (skip_of_lt (hplace ▸ hglobal)).symm⟩, hscope,
    hglobal⟩

namespace Heaps

variable {h h' : Heap}

/-- A sound heap, and the same heap with an empty scope. -/
theorem of_sound (hh : h.Sound) {x : ScopeId} (hx : x < h.next) :
  Heaps ⟨x, h.next⟩ h (h.alloc (some x))
  := by
  refine ⟨hx, le_rfl, h.next_alloc _, h.scope?_alloc_next _, ?_⟩
  intro y
  obtain hy | hy := Nat.lt_or_ge y h.next
  · rw [skip_of_lt hy, h.scope?_alloc_of_lt _ hy]
    apply Option.rel_same
    intro s hs
    constructor
    · intro name
      apply Option.rel_same
      intro v hv
      apply values_of_sound _ rfl
      apply hh.bound
      rw [Heap.binding?, hs]
      exact hv
    · apply Option.rel_same
      intro z hz
      have hlies : h.LiesIn y z := by
        rw [Heap.LiesIn, Heap.parent?, hs]
        exact hz
      have hzy := hh.older hlies
      have hskip : skip ⟨x, h.next⟩ z = z := skip_of_lt (Nat.lt_trans hzy hy)
      rw [skip_of_lt hy]
      exact ⟨.inl hskip.symm, hzy, hzy⟩
  · have hnew : (h.alloc (some x)).next ≤ y + 1 := by
      rw [Heap.next_alloc]
      exact Nat.succ_le_succ hy
    rw [skip_of_le hy, Heap.scope?_eq_none_iff.mpr hy, Heap.scope?_eq_none_iff.mpr hnew]
    exact .none

/-- The next scopes of both heaps correspond. -/
theorem skip_next (H : G.Heaps h h') :
  G.skip h.next = h'.next
  := (skip_of_le H.place_le).trans H.next.symm

/-- A scope from which the same is seen is there, too. -/
theorem near_lt_next (H : G.Heaps h h') {x' : ScopeId} (hx : G.Near x x') (hlt : x < h.next) :
  x' < h'.next
  := by
  rw [H.next]
  obtain rfl | ⟨-, rfl⟩ := hx
  · exact Nat.lt_succ_of_le ((G.skip_le x).trans hlt)
  · exact Nat.lt_succ_of_le H.place_le

/-- New scopes correspond if their parents show the same. -/
theorem alloc (H : G.Heaps h h') {x' : ScopeId} (hx : G.Near x x') (hlt : x < h.next) :
  G.Heaps (h.alloc (some x)) (h'.alloc (some x'))
  := by
  have hplace := H.place_le
  constructor
  · exact H.outer_lt
  · rw [Heap.next_alloc]
    exact Nat.le_succ_of_le hplace
  · rw [Heap.next_alloc, Heap.next_alloc, H.next]
  · have hold : G.place < h'.next := by
      rw [H.next]
      exact Nat.lt_succ_of_le hplace
    rw [Heap.scope?_alloc_of_lt _ _ hold]
    exact H.empty
  · intro y
    rw [Heap.scope?_alloc, Heap.scope?_alloc, Heap.next_alloc, ← H.skip_next]
    simp only [G.skip_injective.eq_iff]
    split
    · rename_i hy
      subst hy
      refine .some ⟨fun name => ?_, .some ⟨hx, hlt, ?_⟩⟩
      · rw [Std.TreeMap.getElem?_emptyc]
        exact .none
      · rw [H.skip_next]
        exact H.near_lt_next hx hlt
    · have hy := H.scopes y
      generalize h.scope? y = s, h'.scope? (G.skip y) = s' at hy
      cases hy with
      | none => exact .none
      | some hs => exact .some (hs.mono (Nat.le_succ _))

/-- Heaps still correspond after a name is bound to values that do. -/
theorem define (H : G.Heaps h h') (x : ScopeId) (name : String) {v v' : Value}
    (hv : G.Values h.next v v') :
  G.Heaps (h.define x name v) (h'.define (G.skip x) name v')
  := by
  constructor
  · exact H.outer_lt
  · rw [Heap.next_define]
    exact H.place_le
  · rw [Heap.next_define, Heap.next_define, H.next]
  · rw [Heap.scope?_define, if_neg (G.skip_ne_place x)]
    exact H.empty
  · intro y
    have hscope := H.scopes y
    rw [Heap.scope?_define, Heap.scope?_define, Heap.next_define]
    simp only [G.skip_injective.eq_iff]
    split
    · generalize h.scope? y = s, h'.scope? (G.skip y) = s' at hscope
      cases hscope with
      | none => exact .none
      | some hs =>
        refine .some ⟨fun other => ?_, hs.parent⟩
        rw [Std.TreeMap.getElem?_insert, Std.TreeMap.getElem?_insert]
        split
        · exact .some hv
        · exact hs.bindings other
    · exact hscope

/-- Both walks outwards come to corresponding scopes; the second one may pass the empty scope. -/
theorem nearestWithin (H : G.Heaps h h') (name : String) {fuel fuel' : Nat} {x' : ScopeId}
    (hx : G.Near x x') (hfuel : x < fuel) (hfuel' : x' < fuel') :
  Option.Rel (fun p p' => p'.1 = G.skip p.1 ∧ G.Values h.next p.2 p'.2)
    (h.nearestWithin name fuel x) (h'.nearestWithin name fuel' x')
  := by
  induction fuel' generalizing x x' fuel with
  | zero => cases hfuel'
  | succ fuel' ih =>
    rw [Heap.nearestWithin]
    obtain rfl | ⟨rfl, rfl⟩ := hx
    · obtain ⟨fuel, rfl⟩ := Nat.exists_eq_add_one_of_ne_zero (Nat.ne_zero_of_lt hfuel)
      have hscope := H.scopes x
      rw [Heap.nearestWithin]
      generalize h.scope? x = s, h'.scope? (G.skip x) = s' at hscope
      cases hscope with
      | none => exact .none
      | @some s s' hs =>
        obtain ⟨bindings, parent⟩ := s
        obtain ⟨bindings', parent'⟩ := s'
        have hbinding : Option.Rel (G.Values h.next) bindings[name]? bindings'[name]? :=
          hs.bindings name
        have hparent : Option.Rel _ parent parent' := hs.parent
        dsimp only
        generalize bindings[name]? = v, bindings'[name]? = v' at hbinding
        cases hbinding with
        | some hv => exact .some ⟨rfl, hv⟩
        | none =>
          cases hparent with
          | none => exact .none
          | some hy =>
            obtain ⟨hnear, hlt, hlt'⟩ := hy
            exact ih hnear (Nat.lt_of_lt_of_le hlt (Nat.lt_succ_iff.mp hfuel))
              (Nat.lt_of_lt_of_le hlt' (Nat.lt_succ_iff.mp hfuel'))
    · -- the empty scope has nothing to show, so that the walk goes on from the scope around
      rw [H.empty]
      dsimp only
      rw [Std.TreeMap.getElem?_emptyc]
      have hskip := skip_of_lt H.outer_lt
      apply ih (.inl hskip.symm) hfuel
      exact Nat.lt_of_lt_of_le H.outer_lt (Nat.lt_succ_iff.mp hfuel')

/-- A name has values that correspond when it is looked up from scopes that show the same. -/
theorem lookup (H : G.Heaps h h') {x' : ScopeId} (hx : G.Near x x') (name : String) :
  Option.Rel (G.Values h.next) (h.lookup x name) (h'.lookup x' name)
  := by
  have hnearest := H.nearestWithin name hx (Nat.lt_succ_self x) (Nat.lt_succ_self x')
  rw [Heap.lookup_eq_nearest, Heap.lookup_eq_nearest, Heap.nearest, Heap.nearest]
  generalize h.nearestWithin name (x + 1) x = p, h'.nearestWithin name (x' + 1) x' = p' at hnearest
  cases hnearest with
  | none => exact .none
  | some hp => exact .some hp.2

/-- An assignment from scopes that show the same succeeds on both heaps or on neither, and leaves
heaps that correspond. -/
theorem assign (H : G.Heaps h h') {x' : ScopeId} (hx : G.Near x x') (name : String) {v v' : Value}
    (hv : G.Values h.next v v') :
  G.Heaps (h.assign x name v).1 (h'.assign x' name v').1
    ∧ (h.assign x name v).1.next = h.next
    ∧ (h.assign x name v).2 = (h'.assign x' name v').2
  := by
  have hnearest := H.nearestWithin name hx (Nat.lt_succ_self x) (Nat.lt_succ_self x')
  rw [Heap.assign_eq_nearest, Heap.assign_eq_nearest, Heap.nearest, Heap.nearest]
  generalize h.nearestWithin name (x + 1) x = p, h'.nearestWithin name (x' + 1) x' = p' at hnearest
  cases hnearest with
  | none => exact ⟨H, rfl, rfl⟩
  | @some p p' hp =>
    obtain ⟨y, u⟩ := p
    obtain ⟨y', u'⟩ := p'
    obtain ⟨rfl, -⟩ : y' = G.skip y ∧ G.Values h.next u u' := hp
    exact ⟨H.define y name hv, h.next_define y name v, rfl⟩

end Heaps

end Gap

end StoryScript
