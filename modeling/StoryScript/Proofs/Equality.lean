import Mathlib.Data.List.Forall2
import Mathlib.Data.List.Perm.Subperm
import StoryScript.Proofs.Related
import StoryScript.Value.Equality

/-!
# Laws of equality

Both equalities of values are partial equivalences.  Numbers are equal in the loose sense when
they are the same multiple of `2 ^ (-1074)`, whichever kind they have; what is not a number is
none and equals nothing.  Lists and maps take over what holds of their parts.  Main statements:
both equalities are symmetric and transitive, the strict one implies the loose one, and a value
equals itself in the loose sense exactly when each float in it is a number.
-/

namespace StoryScript

/-! ### Numbers -/

namespace Number

/-- A finite float is a number. -/
theorem isNaN_of_isFinite {x : Float} (h : isFinite x = true) :
  isNaN x = false
  := by
  unfold isNaN
  simp only [isFinite, bne_iff_ne] at h
  simp [h]

/-- The magnitude of a float is the absolute value of the multiple that it is. -/
theorem natAbs_units (x : Float) :
  (units x).natAbs = magnitude x
  := by
  unfold units
  split
  · rw [Int.natAbs_neg, Int.natAbs_natCast]
  · rw [Int.natAbs_natCast]

theorem twoPow_mul_lt {a b c d : Nat} (h : a + b < c + d) :
  Nat.pow 2 a * Nat.pow 2 b < Nat.pow 2 c * Nat.pow 2 d
  := by
  rw [← twoPow_add, ← twoPow_add]
  apply Nat.pow_lt_pow_right _ h
  decide

/-- An infinite float, and what is not a number, has a magnitude beyond all whole numbers. -/
theorem lt_magnitude_of_not_isFinite {x : Float} (h : isFinite x = false) (n : Whole) :
  n.toInt.natAbs * unitsOfOne < magnitude x
  := by
  have hfield : exponentField x = 2047 := by simpa [isFinite] using h
  have hlast : doublings x = 2046 := by rw [doublings, hfield]
  have hwhole : n.toInt.natAbs ≤ Nat.pow 2 63 := by
    have hlower := n.least_le_toInt
    have hupper := n.toInt_le_greatest
    simp only [Whole.least, Whole.greatest] at hlower hupper
    have hbound : Nat.pow 2 63 = 9223372036854775808 := by decide
    omega
  have hpowers : 63 + doublingsOfOne < 52 + doublings x := by
    rw [hlast]
    decide
  have hsignificand : Nat.pow 2 52 ≤ significand x := by
    rw [significand, hfield, if_neg (by decide)]
    apply Nat.le_add_right
  unfold magnitude unitsOfOne
  generalize doublingsOfOne = e, doublings x = d at *
  calc n.toInt.natAbs * Nat.pow 2 e
      ≤ Nat.pow 2 63 * Nat.pow 2 e := Nat.mul_le_mul_right _ hwhole
    _ < Nat.pow 2 52 * Nat.pow 2 d := twoPow_mul_lt hpowers
    _ ≤ significand x * Nat.pow 2 d := Nat.mul_le_mul_right _ hsignificand

/-- A float that is the same multiple as an integer is finite: the special floats are multiples
greater than any integer. -/
theorem isFinite_of_units_eq {x : Float} {n : Whole} (h : units x = n.toInt * unitsOfOne) :
  isFinite x = true
  := by
  rw [← Bool.not_eq_false]
  intro hinfinite
  have hlt := lt_magnitude_of_not_isFinite hinfinite n
  rw [← natAbs_units, h, Int.natAbs_mul, Int.natAbs_natCast] at hlt
  exact Nat.lt_irrefl _ hlt

end Number

/-! ### Lists and entries -/

/-- What holds of pairs whose first item is in the first list may be weakened for these pairs. -/
theorem forall₂_imp_of_mem {α β : Type} {P Q : α → β → Prop} {as : List α} {bs : List β}
    (h : List.Forall₂ P as bs) (hPQ : ∀ a ∈ as, ∀ b, P a b → Q a b) :
  List.Forall₂ Q as bs
  := by
  have hboth := (List.forall₂_and_left as bs).mpr ⟨hPQ, h⟩
  exact hboth.imp fun a b ⟨hab, hP⟩ => hab b hP

/-- A relation is transitive on lists if it is transitive from the items of the first one. -/
theorem forall₂_trans {α : Type} {P : α → α → Prop} {as bs cs : List α}
    (h : List.Forall₂ P as bs) (h' : List.Forall₂ P bs cs)
    (hP : ∀ a ∈ as, ∀ b c, P a b → P b c → P a c) :
  List.Forall₂ P as cs
  := by
  induction h generalizing cs with
  | nil => exact h'
  | cons hab _ ih =>
    cases h' with
    | cons hbc hrest =>
      obtain ⟨hfirst, hothers⟩ := List.forall_mem_cons.mp hP
      exact .cons (hfirst _ _ hab hbc) (ih hrest hothers)

/-- Entries of which as many others have related values under the same keys have related values
under the keys of the others: no key is left over. -/
theorem Entries.turn {α β : Type} {P : β → α → Prop} {as : Entries α} {bs : Entries β}
    (has : as.keys.Nodup) (hlength : as.length = bs.length)
    (h : ∀ e ∈ as, ∃ b, bs.get? e.1 = some b ∧ P b e.2) :
  ∀ e ∈ bs, ∃ a, as.get? e.1 = some a ∧ P e.2 a
  := by
  have hsubset : as.keys ⊆ bs.keys := by
    intro key hkey
    obtain ⟨e, he, rfl⟩ := List.mem_map.mp hkey
    obtain ⟨b, hb, -⟩ := h e he
    exact List.mem_map.mpr ⟨_, mem_of_get? hb, rfl⟩
  have hperm : as.keys.Perm bs.keys := by
    apply (List.subperm_of_subset has hsubset).perm_of_length_le
    simp [keys, hlength]
  have hbs : bs.keys.Nodup := hperm.nodup_iff.mp has
  intro e he
  obtain ⟨e', he', hkey⟩ := List.mem_map.mp (hperm.mem_iff.mpr (List.mem_map_of_mem he))
  obtain ⟨b, hb, hrel⟩ := h e' he'
  have hfound : bs.get? e.1 = some e.2 := (get?_eq_some_iff hbs).mpr he
  rw [hkey, hfound] at hb
  cases hb
  use e'.2
  constructor
  · rw [← hkey]
    exact (get?_eq_some_iff has).mpr he'
  · exact hrel

/-! ### Closures -/

namespace Closure

variable {f g h : Closure}

/-- Closures are the same if they have the same declaration and the same scope. -/
theorem same_iff :
  f.same g = true ↔ f.decl.id = g.decl.id ∧ f.scope = g.scope
  := by
  rw [same, Bool.and_eq_true, beq_iff_eq, beq_iff_eq]

/-- Every closure is the same as itself. -/
theorem same_refl (f : Closure) :
  f.same f = true
  := by
  exact same_iff.mpr ⟨rfl, rfl⟩

/-- The order of two closures does not matter. -/
theorem same_symm (hfg : f.same g = true) :
  g.same f = true
  := by
  obtain ⟨hdecl, hscope⟩ := same_iff.mp hfg
  exact same_iff.mpr ⟨hdecl.symm, hscope.symm⟩

/-- Closures that are the same as a third one are the same. -/
theorem same_trans (hfg : f.same g = true) (hgh : g.same h = true) :
  f.same h = true
  := by
  obtain ⟨hdecl, hscope⟩ := same_iff.mp hfg
  obtain ⟨hdecl', hscope'⟩ := same_iff.mp hgh
  exact same_iff.mpr ⟨hdecl.trans hdecl', hscope.trans hscope'⟩

end Closure

namespace Value

open Number

variable {v w x : Value}

/-! ### Parts -/

/-- `IsPart a v` says that `a` is an item of the list `v`, or the value of an entry of the map
`v`. -/
inductive IsPart : Value → Value → Prop where
  | item {items : List Value} {a : Value} (h : a ∈ items) : IsPart a (list ⟨items⟩)
  | entry {entries : List (String × Value)} {e : String × Value} (h : e ∈ entries) :
    IsPart e.2 (map entries)

/-- What holds of a value as soon as it holds of its parts, holds of all values. -/
theorem part_induct {motive : Value → Prop} (h : ∀ v, (∀ a, IsPart a v → motive a) → motive v)
    (v : Value) :
  motive v
  := by
  induction v using Value.induct with
  | list items ih =>
    apply h
    rintro a ⟨ha⟩
    apply ih a ha
  | map entries ih =>
    apply h
    rintro a ⟨⟩
    apply ih _ ‹_›
  | _ =>
    apply h
    rintro a ⟨⟩

/-- `Occurs a v` says that `a` is `v`, or occurs in a part of `v`. -/
inductive Occurs (a : Value) : Value → Prop where
  | self : Occurs a a
  | part {b v : Value} (hb : IsPart b v) (h : Occurs a b) : Occurs a v

/-- The keys of each map in a value are pairwise different. -/
def DistinctKeys (v : Value) : Prop :=
  ∀ entries, Occurs (map entries) v → (Entries.keys entries).Nodup

/-- Something that is not a number occurs in a value. -/
def HasNaN (v : Value) : Prop :=
  ∃ x, isNaN x = true ∧ Occurs (float x) v

namespace DistinctKeys

/-- The parts of a value with distinct keys have distinct keys, too. -/
theorem part {a : Value} (h : v.DistinctKeys) (ha : IsPart a v) :
  a.DistinctKeys
  := by
  intro entries hoccurs
  apply h entries (.part ha hoccurs)

/-- A value without parts has no keys at all. -/
theorem ofAtom (h : v.isAtom = true) :
  v.DistinctKeys
  := by
  intro entries hoccurs
  cases hoccurs with
  | self => cases h
  | part hb => cases hb <;> cases h

/-- A list has distinct keys if its items have. -/
theorem ofList {items : List Value} (h : ∀ a ∈ items, a.DistinctKeys) :
  (list ⟨items⟩).DistinctKeys
  := by
  intro entries hoccurs
  cases hoccurs with
  | part hb hoccurs =>
    cases hb with
    | item ha => exact h _ ha entries hoccurs

/-- A map has distinct keys if no key is repeated and its values have distinct keys. -/
theorem ofMap {entries : List (String × Value)} (hkeys : (Entries.keys entries).Nodup)
    (h : ∀ e ∈ entries, e.2.DistinctKeys) :
  (map entries).DistinctKeys
  := by
  intro entries' hoccurs
  cases hoccurs with
  | self => exact hkeys
  | part hb hoccurs =>
    cases hb with
    | entry he => exact h _ he entries' hoccurs

end DistinctKeys

/-- A value has a NaN in it if it is one or if one of its parts has. -/
theorem hasNaN_iff (v : Value) :
  v.HasNaN ↔ (∃ x, v = float x ∧ isNaN x = true) ∨ ∃ a, IsPart a v ∧ a.HasNaN
  := by
  constructor
  · rintro ⟨x, hx, _ | ⟨ha, hoccurs⟩⟩
    · exact Or.inl ⟨x, rfl, hx⟩
    · exact Or.inr ⟨_, ha, x, hx, hoccurs⟩
  · rintro (⟨x, rfl, hx⟩ | ⟨a, ha, x, hx, hoccurs⟩)
    · exact ⟨x, hx, .self⟩
    · exact ⟨x, hx, .part ha hoccurs⟩

/-! ### One level of equality -/

/-- The number that a value is, as a multiple of `2 ^ (-1074)`. -/
def multiple? : Value → Option Int
  | int n => some (n.toInt * unitsOfOne)
  | float x => if isNaN x then none else some (units x)
  | _ => none

/-- Whether equality of a value is that of what it is built from, without further laws. -/
def isPlain : Value → Bool
  | null | bool _ | str _ | builtin _ => true
  | _ => false

/-- Values that are equal in the loose sense if `r` tells which of their parts are. -/
inductive Loosely (r : Value → Value → Prop) : Value → Value → Prop where
  | plain {v : Value} (h : v.isPlain = true) : Loosely r v v
  | number {v w : Value} {m : Int} (hv : v.multiple? = some m) (hw : w.multiple? = some m) :
    Loosely r v w
  | list {as bs : List Value} (h : List.Forall₂ r as bs) : Loosely r (list ⟨as⟩) (list ⟨bs⟩)
  | map {as bs : List (String × Value)} (hlength : as.length = bs.length)
    (h : ∀ e ∈ as, ∃ b, Entries.get? e.1 bs = some b ∧ r e.2 b) : Loosely r (map as) (map bs)
  | closure {f g : Closure} (h : f.same g = true) : Loosely r (closure f) (closure g)

/-- Values that are equal in the strict sense if `r` tells which of their parts are. -/
inductive Strictly (r : Value → Value → Prop) : Value → Value → Prop where
  | plain {v : Value} (h : v.isPlain = true) : Strictly r v v
  | number {v w : Value} {m : Int} (hkind : v.kind = w.kind) (hv : v.multiple? = some m)
    (hw : w.multiple? = some m) : Strictly r v w
  | list {as bs : List Value} (h : List.Forall₂ r as bs) : Strictly r (list ⟨as⟩) (list ⟨bs⟩)
  | map {as bs : List (String × Value)} (h : Entries.Pointwise r as bs) :
    Strictly r (map as) (map bs)
  | closure {f g : Closure} (h : f.same g = true) : Strictly r (closure f) (closure g)

/-- Lists are equal in the loose sense if they are so item by item. -/
theorem looseItems_iff (as bs : List Value) :
  looseItems as bs = true ↔ List.Forall₂ (fun a b => a.looseEq b = true) as bs
  := by
  induction as generalizing bs with
  | nil => cases bs <;> simp [looseItems]
  | cons a as ih => cases bs <;> simp [looseItems, ih]

/-- Entries are equal in the loose sense to others if each of them is found there, with an equal
value. -/
theorem looseEntries_iff (as bs : List (String × Value)) :
  looseEntries as bs = true
    ↔ ∀ e ∈ as, ∃ b, Entries.get? e.1 bs = some b ∧ e.2.looseEq b = true
  := by
  induction as with
  | nil => simp [looseEntries]
  | cons e as ih =>
    rw [looseEntries, Bool.and_eq_true, ih, List.forall_mem_cons]
    cases Entries.get? e.1 bs <;> simp

/-- Lists are equal in the strict sense if they are so item by item. -/
theorem strictItems_iff (as bs : List Value) :
  strictItems as bs = true ↔ List.Forall₂ (fun a b => a.strictEq b = true) as bs
  := by
  induction as generalizing bs with
  | nil => cases bs <;> simp [strictItems]
  | cons a as ih => cases bs <;> simp [strictItems, ih]

/-- Maps are equal in the strict sense if they are so entry by entry, keys and order included. -/
theorem strictEntries_iff (as bs : List (String × Value)) :
  strictEntries as bs = true ↔ Entries.Pointwise (fun a b => a.strictEq b = true) as bs
  := by
  unfold Entries.Pointwise
  induction as generalizing bs with
  | nil => cases bs <;> simp [strictEntries]
  | cons a as ih => cases bs <;> simp [strictEntries, ih]

/-- An integer is one multiple, that of itself. -/
theorem multiple?_int {n : Whole} {m : Int} :
  (int n).multiple? = some m ↔ n.toInt * unitsOfOne = m
  := by
  rw [multiple?, Option.some.injEq]

/-- A float is one multiple, unless it is NaN. -/
theorem multiple?_float {x : Float} {m : Int} :
  (float x).multiple? = some m ↔ isNaN x = false ∧ units x = m
  := by
  rw [multiple?]
  cases isNaN x <;> simp

/-- Different integers are different multiples. -/
theorem multiple?_inj {n n' : Whole} {m : Int} (h : (int n).multiple? = some m)
    (h' : (int n').multiple? = some m) :
  n = n'
  := by
  rw [multiple?_int] at h h'
  have hone : (unitsOfOne : Int) ≠ 0 := Int.natCast_ne_zero.mpr (Nat.ne_of_gt unitsOfOne_pos)
  apply Int64.toInt_inj.mp
  apply Int.eq_of_mul_eq_mul_right hone
  rw [h, h']

/-- Floats are equal exactly if they are the same multiple. -/
theorem eq_iff_multiple? (x y : Float) :
  Number.eq x y = true ↔ ∃ m, (float x).multiple? = some m ∧ (float y).multiple? = some m
  := by
  unfold Number.eq
  simp only [multiple?_float, Bool.and_eq_true, Bool.not_eq_true', beq_iff_eq]
  constructor
  · rintro ⟨⟨hx, hy⟩, h⟩
    exact ⟨_, ⟨hx, h⟩, hy, rfl⟩
  · rintro ⟨_, ⟨hx, h⟩, hy, rfl⟩
    exact ⟨⟨hx, hy⟩, h⟩

/-- An integer and a float are equal exactly if they are the same multiple, which means without
rounding. -/
theorem eqWhole_iff_multiple? (n : Whole) (x : Float) :
  eqWhole n x = true ↔ ∃ m, (int n).multiple? = some m ∧ (float x).multiple? = some m
  := by
  rw [eqWhole_iff]
  simp only [multiple?_int, multiple?_float]
  constructor
  · rintro ⟨hfinite, h⟩
    exact ⟨_, rfl, isNaN_of_isFinite hfinite, h⟩
  · rintro ⟨_, rfl, -, h⟩
    exact ⟨isFinite_of_units_eq h, h⟩

/-- The parts of which the strict equality consists. -/
theorem strictEq_iff (v w : Value) :
  v.strictEq w = true ↔ Strictly (fun a b => a.strictEq b = true) v w
  := by
  constructor
  · intro h
    fun_cases strictEq v w with
    | case1 => exact .plain rfl
    | case2 a b | case5 a b | case8 a b =>
      rw [strictEq, beq_iff_eq] at h
      rw [h]
      exact .plain rfl
    | case3 a b =>
      rw [strictEq, beq_iff_eq] at h
      rw [h]
      exact .number rfl rfl rfl
    | case4 x y =>
      obtain ⟨m, hx, hy⟩ := (eq_iff_multiple? x y).mp h
      exact .number rfl hx hy
    | case6 as bs => exact .list ((strictItems_iff as bs).mp h)
    | case7 as bs => exact .map ((strictEntries_iff as bs).mp h)
    | case9 f g => exact .closure h
    | case10 => simp_all [strictEq]
  · intro h
    cases h with
    | plain h =>
      cases v with
      | null | bool | str | builtin => simp [strictEq]
      | _ => cases h
    | number hkind hv hw =>
      cases v with
      | int n =>
        cases w with
        | int n' => rw [strictEq, multiple?_inj hv hw, beq_self_eq_true]
        | _ => cases hkind
      | float x =>
        cases w with
        | float y => exact (eq_iff_multiple? x y).mpr ⟨_, hv, hw⟩
        | _ => cases hkind
      | _ => cases hv
    | list h => exact (strictItems_iff _ _).mpr h
    | map h => exact (strictEntries_iff _ _).mpr h
    | closure h => exact h

/-- Values that are the same multiple are equal, whatever their kinds. -/
theorem looseEq_of_multiple? {m : Int} (hv : v.multiple? = some m) (hw : w.multiple? = some m) :
  v.looseEq w = true
  := by
  cases v with
  | int n =>
    cases w with
    | int n' => rw [looseEq, multiple?_inj hv hw, beq_self_eq_true]
    | float x => exact (eqWhole_iff_multiple? n x).mpr ⟨m, hv, hw⟩
    | _ => cases hw
  | float x =>
    cases w with
    | int n => exact (eqWhole_iff_multiple? n x).mpr ⟨m, hw, hv⟩
    | float y => exact (eq_iff_multiple? x y).mpr ⟨m, hv, hw⟩
    | _ => cases hw
  | _ => cases hv

/-- One level of loose equality: what two equal values are built from, and how their parts compare.
-/
theorem looseEq_iff (v w : Value) :
  v.looseEq w = true ↔ Loosely (fun a b => a.looseEq b = true) v w
  := by
  constructor
  · intro h
    fun_cases looseEq v w with
    | case1 => exact .plain rfl
    | case2 a b | case7 a b | case10 a b =>
      rw [looseEq, beq_iff_eq] at h
      rw [h]
      exact .plain rfl
    | case3 a b =>
      rw [looseEq, beq_iff_eq] at h
      rw [h]
      exact .number rfl rfl
    | case4 x y =>
      obtain ⟨m, hx, hy⟩ := (eq_iff_multiple? x y).mp h
      exact .number hx hy
    | case5 n x =>
      obtain ⟨m, hn, hx⟩ := (eqWhole_iff_multiple? n x).mp h
      exact .number hn hx
    | case6 x n =>
      obtain ⟨m, hn, hx⟩ := (eqWhole_iff_multiple? n x).mp h
      exact .number hx hn
    | case8 as bs => exact .list ((looseItems_iff as bs).mp h)
    | case9 as bs =>
      rw [looseEq, Bool.and_eq_true, beq_iff_eq] at h
      obtain ⟨hlength, hentries⟩ := h
      exact .map hlength ((looseEntries_iff as bs).mp hentries)
    | case11 f g => exact .closure h
    | case12 => simp_all [looseEq]
  · intro h
    cases h with
    | plain h =>
      cases v with
      | null | bool | str | builtin => simp [looseEq]
      | _ => cases h
    | number hv hw => apply looseEq_of_multiple? hv hw
    | list h => exact (looseItems_iff _ _).mpr h
    | @map as bs hlength h =>
      rw [looseEq, Bool.and_eq_true, beq_iff_eq]
      exact ⟨hlength, (looseEntries_iff as bs).mpr h⟩
    | closure h => exact h

/-! ### Laws of one level -/

variable {r : Value → Value → Prop}

namespace Loosely

/-- One level of loose equality may be turned around if the equality of parts may.  Each key must
occur once: the keys are only looked up in one of the maps. -/
theorem symm (hkeys : v.DistinctKeys) (h : Loosely r v w)
    (hr : ∀ a, IsPart a v → ∀ b, r a b → r b a) :
  Loosely r w v
  := by
  cases h with
  | plain hv => exact .plain hv
  | number hv hw => exact .number hw hv
  | list hitems =>
    apply list
    apply List.Forall₂.flip
    exact forall₂_imp_of_mem hitems fun a ha => hr a (.item ha)
  | @map as bs hlength hentries =>
    -- the entries of the one map have been looked up in the other, and no key of it is left over
    apply map hlength.symm
    apply Entries.turn (hkeys as .self) hlength
    intro e he
    obtain ⟨b, hb, hab⟩ := hentries e he
    exact ⟨b, hb, hr _ (.entry he) b hab⟩
  | closure hsame => exact .closure (Closure.same_symm hsame)

/-- One level of loose equality may be chained if the equality of parts may. -/
theorem trans (h : Loosely r v w) (h' : Loosely r w x)
    (hr : ∀ a, IsPart a v → ∀ b c, r a b → r b c → r a c) :
  Loosely r v x
  := by
  cases h with
  | plain hv => exact h'
  | number hv hw =>
    cases h' with
    | number hw' hx =>
      rw [hw, Option.some.injEq] at hw'
      exact .number hv (hw' ▸ hx)
    | plain => exact .number hv hw
    | _ => cases hw
  | list hitems =>
    cases h' with
    | list hitems' => exact .list (forall₂_trans hitems hitems' fun a ha => hr a (.item ha))
    | _ hw => cases hw
  | map hlength hentries =>
    cases h' with
    | map hlength' hentries' =>
      apply map (hlength.trans hlength')
      intro e he
      obtain ⟨b, hb, hab⟩ := hentries e he
      obtain ⟨c, hc, hbc⟩ := hentries' _ (Entries.mem_of_get? hb)
      exact ⟨c, hc, hr _ (.entry he) b c hab hbc⟩
    | _ hw => cases hw
  | closure hsame =>
    cases h' with
    | closure hsame' => exact .closure (Closure.same_trans hsame hsame')
    | _ hw => cases hw

/-- A value is equal to itself on one level exactly if it is no NaN and its parts are equal to
themselves. -/
theorem refl_iff (hkeys : v.DistinctKeys) :
  Loosely r v v ↔ (∀ x, v = float x → isNaN x = false) ∧ ∀ a, IsPart a v → r a a
  := by
  constructor
  · intro h
    constructor
    · rintro x rfl
      cases h with
      | plain h => cases h
      | number hx => exact (multiple?_float.mp hx).1
    · intro a ha
      cases ha with
      | item ha =>
        cases h with
        | list hitems => exact List.forall₂_same.mp hitems a ha
        | _ h => cases h
      | @entry entries e he =>
        cases h with
        | map _ hentries =>
          obtain ⟨b, hb, heb⟩ := hentries e he
          rw [(Entries.get?_eq_some_iff (hkeys entries .self)).mpr he] at hb
          cases hb
          exact heb
        | _ h => cases h
  · rintro ⟨hfloat, hparts⟩
    cases v with
    | null | bool | str | builtin => exact .plain rfl
    | int n => exact .number rfl rfl
    | float x =>
      have hx := multiple?_float.mpr ⟨hfloat x rfl, rfl⟩
      exact .number hx hx
    | list items => exact .list (List.forall₂_same.mpr fun a ha => hparts a (.item ha))
    | map entries =>
      apply map rfl
      intro e he
      exact ⟨e.2, (Entries.get?_eq_some_iff (hkeys entries .self)).mpr he, hparts _ (.entry he)⟩
    | closure f => exact .closure f.same_refl

end Loosely

namespace Strictly

/-- One level of strict equality may be turned around if the equality of parts may. -/
theorem symm (h : Strictly r v w) (hr : ∀ a, IsPart a v → ∀ b, r a b → r b a) :
  Strictly r w v
  := by
  cases h with
  | plain hv => exact .plain hv
  | number hkind hv hw => exact .number hkind.symm hw hv
  | list hitems =>
    apply list
    apply List.Forall₂.flip
    exact forall₂_imp_of_mem hitems fun a ha => hr a (.item ha)
  | map hentries =>
    apply map
    apply List.Forall₂.flip
    apply forall₂_imp_of_mem hentries
    rintro e he e' ⟨hkey, hvalue⟩
    exact ⟨hkey.symm, hr _ (.entry he) _ hvalue⟩
  | closure hsame => exact .closure (Closure.same_symm hsame)

/-- One level of strict equality may be chained if the equality of parts may. -/
theorem trans (h : Strictly r v w) (h' : Strictly r w x)
    (hr : ∀ a, IsPart a v → ∀ b c, r a b → r b c → r a c) :
  Strictly r v x
  := by
  cases h with
  | plain hv => exact h'
  | number hkind hv hw =>
    cases h' with
    | number hkind' hw' hx =>
      rw [hw, Option.some.injEq] at hw'
      exact .number (hkind.trans hkind') hv (hw' ▸ hx)
    | plain => exact .number hkind hv hw
    | _ => cases hw
  | list hitems =>
    cases h' with
    | list hitems' => exact .list (forall₂_trans hitems hitems' fun a ha => hr a (.item ha))
    | number _ hw => cases hw
    | plain hw => cases hw
  | map hentries =>
    cases h' with
    | map hentries' =>
      apply map
      apply forall₂_trans hentries hentries'
      rintro e he e' e'' ⟨hkey, hvalue⟩ ⟨hkey', hvalue'⟩
      exact ⟨hkey.trans hkey', hr _ (.entry he) _ _ hvalue hvalue'⟩
    | number _ hw => cases hw
    | plain hw => cases hw
  | closure hsame =>
    cases h' with
    | closure hsame' => exact .closure (Closure.same_trans hsame hsame')
    | number _ hw => cases hw
    | plain hw => cases hw

/-- On one level the strict equality implies the loose one, if it does so for the parts. -/
theorem loosely (hkeys : v.DistinctKeys) (h : Strictly r v w) {r' : Value → Value → Prop}
    (hr : ∀ a, IsPart a v → ∀ b, r a b → r' a b) :
  Loosely r' v w
  := by
  cases h with
  | plain hv => exact .plain hv
  | number hkind hv hw => exact .number hv hw
  | list hitems => exact .list (forall₂_imp_of_mem hitems fun a ha => hr a (.item ha))
  | @map as bs hentries =>
    apply Loosely.map hentries.length_eq
    intro e he
    have hfound : Entries.get? e.1 as = some e.2 :=
      (Entries.get?_eq_some_iff (hkeys as .self)).mpr he
    have hget := hentries.get? e.1
    rw [hfound] at hget
    generalize Entries.get? e.1 bs = found at hget ⊢
    cases hget with
    | @some _ b hab => exact ⟨b, rfl, hr _ (.entry he) b hab⟩
  | closure hsame => exact .closure hsame

end Strictly

/-! ### Laws of equality -/

/-- Loose equality is symmetric on values in which no key is repeated. -/
theorem looseEq_symm (hv : v.DistinctKeys) (h : v.looseEq w = true) :
  w.looseEq v = true
  := by
  induction v using part_induct generalizing w with
  | h v ih =>
    rw [looseEq_iff] at h ⊢
    apply h.symm hv
    intro a ha b hab
    apply ih a ha (hv.part ha) hab

/-- Loose equality is transitive. -/
theorem looseEq_trans (h : v.looseEq w = true) (h' : w.looseEq x = true) :
  v.looseEq x = true
  := by
  induction v using part_induct generalizing w x with
  | h v ih =>
    rw [looseEq_iff] at h h' ⊢
    apply h.trans h'
    intro a ha b c hab hbc
    apply ih a ha hab hbc

/-- A value is equal to itself exactly if there is no NaN in it, at any depth. -/
theorem looseEq_refl_iff (hv : v.DistinctKeys) :
  v.looseEq v = true ↔ ¬ v.HasNaN
  := by
  induction v using part_induct with
  | h v ih =>
    rw [looseEq_iff, Loosely.refl_iff hv, hasNaN_iff, not_or, not_exists, not_exists]
    apply and_congr
    · apply forall_congr'
      intro x
      rw [not_and, Bool.not_eq_true]
    · apply forall_congr'
      intro a
      rw [not_and]
      apply forall_congr'
      intro ha
      apply ih a ha (hv.part ha)

/-- Strict equality is symmetric. -/
theorem strictEq_symm (h : v.strictEq w = true) :
  w.strictEq v = true
  := by
  induction v using part_induct generalizing w with
  | h v ih =>
    rw [strictEq_iff] at h ⊢
    apply h.symm
    intro a ha b hab
    apply ih a ha hab

/-- Strict equality is transitive. -/
theorem strictEq_trans (h : v.strictEq w = true) (h' : w.strictEq x = true) :
  v.strictEq x = true
  := by
  induction v using part_induct generalizing w x with
  | h v ih =>
    rw [strictEq_iff] at h h' ⊢
    apply h.trans h'
    intro a ha b c hab hbc
    apply ih a ha hab hbc

/-- Values that are equal in the strict sense are so in the loose one. -/
theorem looseEq_of_strictEq (hv : v.DistinctKeys) (h : v.strictEq w = true) :
  v.looseEq w = true
  := by
  induction v using part_induct generalizing w with
  | h v ih =>
    rw [strictEq_iff] at h
    rw [looseEq_iff]
    apply h.loosely hv
    intro a ha b hab
    apply ih a ha (hv.part ha) hab

/-- Both equalities are partial equivalences, and the strict one refines the loose one.  A
value equals itself in the loose sense exactly when each float in it is a number. -/
theorem equalities_are_partial (hv : v.DistinctKeys) (hw : w.DistinctKeys) :
  v.looseEq w = w.looseEq v
    ∧ (v.looseEq w = true → w.looseEq x = true → v.looseEq x = true)
    ∧ (v.looseEq v = true ↔ ¬ v.HasNaN)
    ∧ v.strictEq w = w.strictEq v
    ∧ (v.strictEq w = true → w.strictEq x = true → v.strictEq x = true)
    ∧ (v.strictEq w = true → v.looseEq w = true)
  := by
  refine ⟨?symm, looseEq_trans, looseEq_refl_iff hv, ?strict_symm, strictEq_trans,
    looseEq_of_strictEq hv⟩
  case symm =>
    rw [Bool.eq_iff_iff]
    exact ⟨looseEq_symm hv, looseEq_symm hw⟩
  case strict_symm =>
    rw [Bool.eq_iff_iff]
    exact ⟨strictEq_symm, strictEq_symm⟩

/-- A map of numbers. -/
def tally : Value := map [("one", int 1), ("two", list ⟨[float 2.0]⟩)]

/-- The same numbers under the same keys, but of other kinds and in another order. -/
def tallied : Value := map [("two", list ⟨[int 2]⟩), ("one", float 1.0)]

theorem distinctKeys_tally :
  tally.DistinctKeys
  := by
  apply DistinctKeys.ofMap
  · decide
  · rintro e (_ | ⟨_, _ | ⟨_, ⟨⟩⟩⟩)
    · exact .ofAtom rfl
    · exact .ofList fun a ha => .ofAtom (List.mem_singleton.mp ha ▸ rfl)

theorem distinctKeys_tallied :
  tallied.DistinctKeys
  := by
  apply DistinctKeys.ofMap
  · decide
  · rintro e (_ | ⟨_, _ | ⟨_, ⟨⟩⟩⟩)
    · exact .ofList fun a ha => .ofAtom (List.mem_singleton.mp ha ▸ rfl)
    · exact .ofAtom rfl

theorem tally_eq_tallied :
  tally.looseEq tallied = true ∧ tallied.looseEq tally = true ∧ ¬ tally.HasNaN
  := by
  obtain ⟨hsymm, -, hrefl, -⟩ :=
    equalities_are_partial distinctKeys_tally distinctKeys_tallied (x := tally)
  have hequal : tally.looseEq tallied = true := by decide +kernel
  exact ⟨hequal, hsymm ▸ hequal, hrefl.mp (by decide +kernel)⟩

end Value

end StoryScript
