import StoryScript.Proofs.Names

/-!
# Assignment

A name is looked up, found and assigned by three walks outwards from a scope, each of its own.  Main
statement: all three come to the same scope, the nearest one that binds the name; an assignment
gives that one binding a new value and changes nothing else, so that it is seen from just those
scopes from which that binding is the nearest.
-/

namespace StoryScript

namespace Heap

variable {h h' : Heap} {x y t : ScopeId} {name other : String} {v w : Value}

/-- The scope `t` is the nearest one that binds the name, outwards from a scope. -/
inductive Binder (h : Heap) (name : String) (t : ScopeId) : ScopeId → Prop where
  | here (hbinds : h.binds t name = true) : Binder h name t t
  | around {x y : ScopeId} (hbinds : h.binds x name = false) (hxy : h.LiesIn x y)
    (hy : Binder h name t y) : Binder h name t x

/-- The heaps differ in one binding of one scope, which has the given value in the second heap. -/
structure Rebound (h h' : Heap) (t : ScopeId) (name : String) (v : Value) : Prop where
  next_eq : h'.next = h.next
  elsewhere : ∀ y ≠ t, h'.scope? y = h.scope? y
  parent_eq : h'.parent? t = h.parent? t
  others : ∀ other ≠ name, h'.binding? t other = h.binding? t other
  new : h'.binding? t name = some v

/-! ### The nearest binding -/

/-- The walk to the nearest binding, one scope at a time. -/
theorem Acyclic.nearest_eq (hh : h.Acyclic) (x : ScopeId) (name : String) :
  h.nearest x name
    = ((h.binding? x name).map fun v => (x, v)).or ((h.parent? x).bind fun y => h.nearest y name)
  := by
  rw [Heap.nearest_eq]
  obtain hx | hx := Nat.lt_or_ge x h.next
  · rw [hh.chain_eq hx, List.findSome?_cons]
    cases h.binding? x name with
    | some v => rfl
    | none =>
      cases h.parent? x with
      | none => rfl
      | some y => exact (Heap.nearest_eq h y name).symm
  · have hnone : h.scope? x = none := scope?_eq_none_iff.mpr hx
    rw [chain, outwards, binding?, parent?, hnone]
    rfl

/-- The value of a name, one scope at a time. -/
theorem Acyclic.lookup_eq (hh : h.Acyclic) (x : ScopeId) (name : String) :
  h.lookup x name = (h.binding? x name).or ((h.parent? x).bind fun y => h.lookup y name)
  := by
  rw [lookup_eq_nearest, hh.nearest_eq]
  cases h.binding? x name with
  | some v => rfl
  | none =>
    cases h.parent? x with
    | none => rfl
    | some y => exact (lookup_eq_nearest h y name).symm

theorem binding?_eq_none_iff :
  h.binding? x name = none ↔ h.binds x name = false
  := by
  rw [binds_eq_isSome, Option.isSome_eq_false_iff, Option.isNone_iff_eq_none]

theorem Binder.binds (ht : h.Binder name t x) :
  h.binds t name = true
  := by
  induction ht with
  | here hbinds => exact hbinds
  | around _ _ _ ih => exact ih

/-- The walk finds the nearest scope that binds the name, and comes to it if there is one. -/
theorem Acyclic.nearest_eq_some_iff (hh : h.Acyclic) :
  h.nearest x name = some (t, w) ↔ h.Binder name t x ∧ h.binding? t name = some w
  := by
  constructor
  · intro hfound
    induction x using Nat.strong_induction_on with
    | _ x ih =>
      rw [hh.nearest_eq] at hfound
      cases hvalue : h.binding? x name with
      | some u =>
        rw [hvalue] at hfound
        cases hfound
        refine ⟨.here ?_, hvalue⟩
        rw [binds_eq_isSome, hvalue]
        rfl
      | none =>
        rw [hvalue] at hfound
        obtain ⟨y, hxy, hy⟩ := Option.bind_eq_some_iff.mp hfound
        obtain ⟨ht, hw⟩ := ih y (hh.older hxy) hy
        exact ⟨.around (binding?_eq_none_iff.mp hvalue) hxy ht, hw⟩
  · rintro ⟨ht, hw⟩
    induction ht with
    | here =>
      rw [hh.nearest_eq, hw]
      rfl
    | @around x y hbinds hxy _ ih =>
      rw [hh.nearest_eq, binding?_eq_none_iff.mpr hbinds, hxy]
      exact ih

theorem Acyclic.exists_nearest (hh : h.Acyclic) (ht : h.Binder name t x) :
  ∃ w, h.nearest x name = some (t, w)
  := by
  obtain ⟨w, hw⟩ := Option.isSome_iff_exists.mp ((binds_eq_isSome h t name).symm.trans ht.binds)
  exact ⟨w, hh.nearest_eq_some_iff.mpr ⟨ht, hw⟩⟩

/-- No two scopes are nearest. -/
theorem Acyclic.binder_unique (hh : h.Acyclic) {u : ScopeId} (ht : h.Binder name t x)
    (hu : h.Binder name u x) :
  t = u
  := by
  obtain ⟨w, hw⟩ := hh.exists_nearest ht
  obtain ⟨w', hw'⟩ := hh.exists_nearest hu
  rw [hw] at hw'
  cases hw'
  rfl

/-! ### The three walks -/

/-- A name has a value exactly when a scope is the nearest one that binds it, and the value is the
one that it has there. -/
theorem Acyclic.lookup_eq_some_iff (hh : h.Acyclic) :
  h.lookup x name = some w ↔ ∃ t, h.Binder name t x ∧ h.binding? t name = some w
  := by
  rw [lookup_eq_nearest, Option.map_eq_some_iff]
  constructor
  · rintro ⟨⟨t, u⟩, hfound, rfl⟩
    exact ⟨t, hh.nearest_eq_some_iff.mp hfound⟩
  · rintro ⟨t, ht⟩
    exact ⟨(t, w), hh.nearest_eq_some_iff.mpr ht, rfl⟩

/-- A name is found exactly when a scope is the nearest one that binds it. -/
theorem Acyclic.contains_iff_binder (hh : h.Acyclic) :
  h.contains x name = true ↔ ∃ t, h.Binder name t x
  := by
  rw [contains_eq_nearest, Option.isSome_iff_exists]
  constructor
  · rintro ⟨⟨t, w⟩, hfound⟩
    exact ⟨t, (hh.nearest_eq_some_iff.mp hfound).1⟩
  · rintro ⟨t, ht⟩
    obtain ⟨w, hw⟩ := hh.exists_nearest ht
    exact ⟨(t, w), hw⟩

/-- An assignment succeeds exactly when a scope is the nearest one that binds the name, and it
binds the name there anew. -/
theorem Acyclic.assign_eq_true_iff (hh : h.Acyclic) :
  h.assign x name v = (h', true) ↔ ∃ t, h.Binder name t x ∧ h' = h.define t name v
  := by
  rw [assign_eq_nearest]
  constructor
  · intro hassign
    cases hfound : h.nearest x name with
    | none =>
      rw [hfound] at hassign
      cases hassign
    | some found =>
      rw [hfound] at hassign
      cases hassign
      exact ⟨found.1, (hh.nearest_eq_some_iff.mp hfound).1, rfl⟩
  · rintro ⟨t, ht, rfl⟩
    obtain ⟨w, hw⟩ := hh.exists_nearest ht
    rw [hw]

/-- An assignment fails exactly when no scope is the nearest one that binds the name, and it
changes nothing then. -/
theorem Acyclic.assign_eq_false_iff (hh : h.Acyclic) :
  h.assign x name v = (h', false) ↔ (¬ ∃ t, h.Binder name t x) ∧ h' = h
  := by
  rw [← hh.contains_iff_binder, contains_eq_nearest, assign_eq_nearest]
  cases h.nearest x name with
  | none =>
    constructor
    · rintro ⟨⟩
      exact ⟨Bool.false_ne_true, rfl⟩
    · rintro ⟨-, rfl⟩
      rfl
  | some found =>
    constructor
    · intro hassign
      cases hassign
    · rintro ⟨hnone, -⟩
      exact absurd rfl hnone

/-! ### One binding changed -/

theorem rebound_define (name : String) (v : Value) (hx : x < h.next) :
  h.Rebound (h.define x name v) x name v
  where
  next_eq := next_define h x name v
  elsewhere := by
    intro y hy
    rw [scope?_define, if_neg hy.symm]
  parent_eq := (Extends.define h x name v).parent_eq x hx
  others := by
    intro other hother
    exact binding?_define_of_ne h v (.inr hother)
  new := binding?_define_self h name v hx

namespace Rebound

variable (hr : h.Rebound h' t name v)
include hr

theorem parent?_eq (y : ScopeId) :
  h'.parent? y = h.parent? y
  := by
  obtain rfl | hy := eq_or_ne y t
  · exact hr.parent_eq
  · rw [parent?, parent?, hr.elsewhere y hy]

theorem binding?_eq (hne : y ≠ t ∨ other ≠ name) :
  h'.binding? y other = h.binding? y other
  := by
  obtain rfl | hy := eq_or_ne y t
  · exact hr.others other (hne.resolve_left (· rfl))
  · rw [binding?, binding?, hr.elsewhere y hy]

theorem acyclic (hh : h.Acyclic) :
  h'.Acyclic
  := by
  constructor
  intro x y hxy
  rw [LiesIn, hr.parent?_eq] at hxy
  exact hh.older hxy

/-- Other names keep their values. -/
theorem lookup_of_ne (hh : h.Acyclic) (y : ScopeId) (hother : other ≠ name) :
  h'.lookup y other = h.lookup y other
  := by
  induction y using Nat.strong_induction_on with
  | _ y ih =>
    rw [hh.lookup_eq, (hr.acyclic hh).lookup_eq, hr.parent?_eq, hr.binding?_eq (.inr hother)]
    cases hparent : h.parent? y with
    | none => rfl
    | some z => rw [Option.bind_some, Option.bind_some, ih z (hh.older hparent)]

/-- The new value is seen where the changed binding is the nearest one. -/
theorem lookup_of_binder (hh : h.Acyclic) (hy : h.Binder name t y) :
  h'.lookup y name = some v
  := by
  induction hy with
  | here =>
    rw [(hr.acyclic hh).lookup_eq, hr.new]
    rfl
  | @around y z hbinds hyz hz ih =>
    have hne : y ≠ t := by
      rintro rfl
      rw [hz.binds] at hbinds
      cases hbinds
    rw [(hr.acyclic hh).lookup_eq, hr.binding?_eq (.inl hne), binding?_eq_none_iff.mpr hbinds,
      hr.parent?_eq, hyz]
    exact ih

/-- From elsewhere nothing has changed. -/
theorem lookup_of_not_binder (hh : h.Acyclic) (ht : h.binds t name = true)
    (hy : ¬ h.Binder name t y) :
  h'.lookup y name = h.lookup y name
  := by
  induction y using Nat.strong_induction_on with
  | _ y ih =>
    have hne : y ≠ t := by
      rintro rfl
      exact hy (.here ht)
    rw [hh.lookup_eq, (hr.acyclic hh).lookup_eq, hr.parent?_eq, hr.binding?_eq (.inl hne)]
    cases hvalue : h.binding? y name with
    | some u => rfl
    | none =>
      cases hparent : h.parent? y with
      | none => rfl
      | some z =>
        have hz : ¬ h.Binder name t z := by
          intro hz
          exact hy (.around (binding?_eq_none_iff.mp hvalue) hparent hz)
        exact ih z (hh.older hparent) hz

end Rebound

end Heap

/-! ### Variables -/

theorem Scene.assign_eq {s : Scene} {name : String} {v : Value} {h' : Heap} {found : Bool}
    (hassign : s.host.heap.assign s.context.env.current name v = (h', found)) :
  s.assign name v = ({ s with host.heap := h' }, found)
  := by
  rw [Scene.assign, hassign]

variable {h : Heap} {s : State} {name : String} {v : Value}

theorem Eval.assign_defined (hassign : s.heap.assign s.env.current name v = (h, true)) :
  Eval.assign name v s = .done () (s.assigned name v) ∧ (s.assigned name v).heap = h
  := by
  rw [assign_apply, State.assigned, Scene.assign_eq hassign]
  exact ⟨rfl, rfl⟩

/-- A failed assignment leaves everything as it was. -/
theorem Eval.assign_undefined (hassign : s.heap.assign s.env.current name v = (s.heap, false)) :
  Eval.assign name v s = .failed (Error.ofCause (.undefinedVariable name)) s
  := by
  rw [assign_apply, State.assigned, Scene.assign_eq hassign]
  rfl

/-- Lookup, search and assignment agree on the nearest binding of a name.  If there is one, an
assignment changes this binding only, and it does so for the scopes whose nearest binding it is; if
there is none, the assignment fails and changes nothing.  A definition changes the binding in the
scope itself. -/
theorem assignment_changes_the_nearest_binding (hh : h.Acyclic) (x : ScopeId) (name : String)
    (v : Value) :
  -- each of the three walks comes to the nearest scope that binds the name; there is one at most
  (h.contains x name = true ↔ ∃! t, h.Binder name t x)
    ∧ (∀ w, h.lookup x name = some w ↔ ∃ t, h.Binder name t x ∧ h.binding? t name = some w)
    ∧ (∀ h', h.assign x name v = (h', true) ↔ ∃ t, h.Binder name t x ∧ h' = h.define t name v)
    ∧ (∀ h', h.assign x name v = (h', false) ↔ (¬ ∃ t, h.Binder name t x) ∧ h' = h)
  -- so they agree
    ∧ h.contains x name = (h.lookup x name).isSome
    ∧ (h.assign x name v).2 = h.contains x name
  -- what an assignment changes
    ∧ (h.contains x name = true →
      ∃ t h', h.assign x name v = (h', true) ∧ h.Binder name t x ∧ h.Rebound h' t name v
        ∧ h'.lookup x name = some v
        ∧ (∀ y other, other ≠ name → h'.lookup y other = h.lookup y other)
        ∧ (∀ y, h.Binder name t y → h'.lookup y name = some v)
        ∧ (∀ y, ¬ h.Binder name t y → h'.lookup y name = h.lookup y name)
        ∧ ∀ s : State, s.heap = h → s.env.current = x →
          Eval.assign name v s = .done () (s.assigned name v) ∧ (s.assigned name v).heap = h')
    ∧ (h.contains x name = false → h.assign x name v = (h, false)
      ∧ ∀ s : State, s.heap = h → s.env.current = x →
        Eval.assign name v s = .failed (Error.ofCause (.undefinedVariable name)) s)
  -- what a definition changes
    ∧ (x < h.next → h.Rebound (h.define x name v) x name v)
  := by
  have hcontains : h.contains x name = true ↔ ∃ t, h.Binder name t x := hh.contains_iff_binder
  have hfails : h.contains x name = false → h.assign x name v = (h, false) := by
    intro hname
    refine hh.assign_eq_false_iff.mpr ⟨?_, rfl⟩
    rw [← hcontains, hname]
    exact Bool.false_ne_true
  refine ⟨?_, fun w => hh.lookup_eq_some_iff, fun h' => hh.assign_eq_true_iff,
    fun h' => hh.assign_eq_false_iff, ?_, ?_, ?_, ?_, Heap.rebound_define name v⟩
  · rw [hcontains]
    constructor
    · rintro ⟨t, ht⟩
      exact ⟨t, ht, fun u hu => hh.binder_unique hu ht⟩
    · rintro ⟨t, ht, -⟩
      exact ⟨t, ht⟩
  · -- both tell whether there is a nearest scope; the value of the name there is that of the lookup
    rw [Bool.eq_iff_iff, hcontains, Option.isSome_iff_exists]
    constructor
    · rintro ⟨t, ht⟩
      obtain ⟨w, hw⟩ := Option.isSome_iff_exists.mp ((h.binds_eq_isSome t name).symm.trans ht.binds)
      exact ⟨w, hh.lookup_eq_some_iff.mpr ⟨t, ht, hw⟩⟩
    · rintro ⟨w, hw⟩
      obtain ⟨t, ht, -⟩ := hh.lookup_eq_some_iff.mp hw
      exact ⟨t, ht⟩
  · cases hname : h.contains x name with
    | true =>
      obtain ⟨t, ht⟩ := hcontains.mp hname
      rw [hh.assign_eq_true_iff.mpr ⟨t, ht, rfl⟩]
    | false => rw [hfails hname]
  · intro hname
    obtain ⟨t, ht⟩ := hcontains.mp hname
    have hassign := hh.assign_eq_true_iff (v := v).mpr ⟨t, ht, rfl⟩
    have hr : h.Rebound (h.define t name v) t name v :=
      Heap.rebound_define name v (Heap.lt_next_of_binds ht.binds)
    refine ⟨t, _, hassign, ht, hr, hr.lookup_of_binder hh ht, ?_, ?_, ?_, ?_⟩
    · intro y other hother
      exact hr.lookup_of_ne hh y hother
    · intro y hy
      exact hr.lookup_of_binder hh hy
    · intro y hy
      exact hr.lookup_of_not_binder hh ht.binds hy
    · rintro s rfl rfl
      exact Eval.assign_defined hassign
  · intro hname
    use hfails hname
    rintro s rfl rfl
    exact Eval.assign_undefined (hfails hname)

/-- A global scope that binds `n`, a scope in it that binds `n` as well, with another one in that,
and a second scope in the global one. -/
def branching : Heap :=
  ((((Heap.empty.alloc none).define 0 "n" (.int 1)).alloc (some 0)).define 1 "n" (.int 2)
    |>.alloc (some 1)).alloc (some 0)

theorem branching_acyclic :
  branching.Acyclic
  := by
  have hin {h : Heap} {x : ScopeId} (hh : h.Acyclic) (hx : x < h.next) :
      (h.alloc (some x)).Acyclic := by
    apply hh.alloc
    rintro y ⟨⟩
    exact hx
  have hglobal : (Heap.empty.alloc none).Acyclic := Heap.Acyclic.empty.alloc nofun
  have hchild := (hin (hglobal.define 0 "n" (.int 1)) Nat.one_pos).define 1 "n" (.int 2)
  exact hin (hin hchild (by decide)) (by decide)

/-- An assignment in the innermost scope is seen in the scope around it, but not in the one beside
that. -/
theorem branches_apart :
  branching.Acyclic ∧ ∃ h', branching.assign 2 "n" (.int 3) = (h', true)
    ∧ h'.lookup 2 "n" = some (.int 3) ∧ h'.lookup 1 "n" = some (.int 3)
    ∧ h'.lookup 3 "n" = some (.int 1)
  := by
  have hbinder {x t : ScopeId} {w : Value} (hfound : branching.nearest x "n" = some (t, w)) :
      branching.Binder "n" t x := (branching_acyclic.nearest_eq_some_iff.mp hfound).1
  obtain ⟨-, -, -, -, -, -, hassign, -⟩ :=
    assignment_changes_the_nearest_binding branching_acyclic 2 "n" (.int 3)
  obtain ⟨t, h', heq, ht, -, hself, -, hnear, hfar, -⟩ := hassign rfl
  obtain rfl : t = 1 := branching_acyclic.binder_unique ht (hbinder rfl)
  have hbeside : ¬ branching.Binder "n" 1 3 := by
    intro hthree
    exact absurd (branching_acyclic.binder_unique hthree (hbinder rfl)) Nat.one_ne_zero
  exact ⟨branching_acyclic, h', heq, hself, hnear 1 (hbinder rfl), hfar 3 hbeside⟩

end StoryScript
