import StoryScript.Proofs.Equality
import StoryScript.Proofs.Widening
import StoryScript.Value.Operators

/-!
# Comparison and equality

Equality of numbers is exact whichever kinds they have.  The comparisons are exact for two
integers and for two floats, but before an integer is compared with a float it is rounded to a
float.  Rounding keeps the order, except that numbers may become equal.  Main statements: the
comparisons agree with equality unless an integer is rounded to the very float that it is compared
with, and what the operators tell in that case.
-/

namespace StoryScript.Value

open Number

variable {v w : Value} {a b : Int} {n n' : Whole} {x y : Float}

/-- The comparisons of two values tell the order of two integers. -/
structure Ordered (v w : Value) (a b : Int) : Prop where
  lt : BinaryOp.apply .lt v w = .ok (.bool (decide (a < b)))
  gt : BinaryOp.apply .gt v w = .ok (.bool (decide (b < a)))
  ltEq : BinaryOp.apply .ltEq v w = .ok (.bool (decide (a ≤ b)))
  gtEq : BinaryOp.apply .gtEq v w = .ok (.bool (decide (b ≤ a)))

/-- The comparisons of two values agree with equality: exactly one of the three relations holds,
and the other two comparisons tell whether one of two relations does. -/
def Agree (v w : Value) : Prop :=
  ∃ lt eq gt : Bool,
    BinaryOp.apply .lt v w = .ok (.bool lt)
      ∧ BinaryOp.apply .eq v w = .ok (.bool eq)
      ∧ BinaryOp.apply .gt v w = .ok (.bool gt)
      ∧ BinaryOp.apply .ltEq v w = .ok (.bool (lt || eq))
      ∧ BinaryOp.apply .gtEq v w = .ok (.bool (gt || eq))
      ∧ [lt, eq, gt].count true = 1

/-- The integer is rounded to the float, but does not equal it. -/
def RoundsTo (n : Whole) (x : Float) : Prop :=
  Number.eq (ofWhole n) x = true ∧ eqWhole n x = false

/-- One of the values is an integer and the other one a float that it is rounded to. -/
inductive Blurred : Value → Value → Prop where
  | int_float {n : Whole} {x : Float} (h : RoundsTo n x) : Blurred (int n) (float x)
  | float_int {n : Whole} {x : Float} (h : RoundsTo n x) : Blurred (float x) (int n)

/-! ### Equality -/

/-- Numbers are equal exactly if they are the same multiple. -/
theorem apply_eq (hv : v.multiple? = some a) (hw : w.multiple? = some b) :
  BinaryOp.apply .eq v w = .ok (.bool (decide (a = b)))
  := by
  have hiff : v.looseEq w = true ↔ a = b := by
    constructor
    · intro h
      cases (looseEq_iff v w).mp h with
      | plain =>
        rw [hv, Option.some.injEq] at hw
        exact hw
      | number hv' hw' =>
        rw [hv, Option.some.injEq] at hv'
        rw [hw, Option.some.injEq] at hw'
        rw [hv', hw']
      | _ => cases hv
    · rintro rfl
      exact looseEq_of_multiple? hv hw
  simp only [BinaryOp.apply, ← hiff, Bool.decide_eq_true]

/-! ### Order -/

/-- Floats are compared as multiples. -/
theorem lt_eq (hx : isNaN x = false) (hy : isNaN y = false) :
  Number.lt x y = decide (units x < units y)
  := by
  rw [Number.lt, hx, hy]
  rfl

/-- Floats are compared as multiples, also when they may be equal. -/
theorem le_eq (hx : isNaN x = false) (hy : isNaN y = false) :
  Number.le x y = decide (units x ≤ units y)
  := by
  rw [Number.le, hx, hy]
  rfl

namespace Ordered

/-- Integers are ordered as they are, without rounding. -/
theorem ints (n n' : Whole) :
  Ordered (int n) (int n') (n.toInt * unitsOfOne) (n'.toInt * unitsOfOne)
  := by
  constructor <;>
    simp only [Int.mul_lt_mul_right zero_lt_unitsOfOne, Int.mul_le_mul_right zero_lt_unitsOfOne] <;>
    rfl

/-- Floats are ordered as they are. -/
theorem floats (hx : isNaN x = false) (hy : isNaN y = false) :
  Ordered (float x) (float y) (units x) (units y)
  := by
  constructor
  · rw [← lt_eq hx hy]
    rfl
  · rw [← lt_eq hy hx]
    rfl
  · rw [← le_eq hx hy]
    rfl
  · rw [← le_eq hy hx]
    rfl

/-- An integer is compared with a float as the integer that it is rounded to. -/
theorem int_float (n : Whole) (hx : isNaN x = false) :
  Ordered (int n) (float x) (roundedInt n.toInt * unitsOfOne) (units x)
  := by
  obtain ⟨hlt, hgt, hle, hge⟩ := floats (isNaN_ofWhole n) hx
  rw [units_ofWhole] at hlt hgt hle hge
  exact ⟨hlt, hgt, hle, hge⟩

/-- A float and an integer are ordered as the float and the rounded integer. -/
theorem float_int (n : Whole) (hx : isNaN x = false) :
  Ordered (float x) (int n) (units x) (roundedInt n.toInt * unitsOfOne)
  := by
  obtain ⟨hlt, hgt, hle, hge⟩ := floats hx (isNaN_ofWhole n)
  rw [units_ofWhole] at hlt hgt hle hge
  exact ⟨hlt, hgt, hle, hge⟩

/-- Only the order of the integers matters. -/
theorem congr (h : Ordered v w a b) {a' b' : Int} (hle : a ≤ b ↔ a' ≤ b')
    (hge : b ≤ a ↔ b' ≤ a') :
  Ordered v w a' b'
  := by
  constructor
  · rw [h.lt]
    simp only [← Int.not_le, hge]
  · rw [h.gt]
    simp only [← Int.not_le, hle]
  · rw [h.ltEq]
    simp only [hle]
  · rw [h.gtEq]
    simp only [hge]

/-- All comparisons agree if equality compares the same numbers as the order. -/
theorem agree (h : Ordered v w a b)
    (heq : BinaryOp.apply .eq v w = .ok (.bool (decide (a = b)))) :
  Agree v w
  := by
  use decide (a < b), decide (a = b), decide (b < a)
  refine ⟨h.lt, heq, h.gt, ?ltEq, ?gtEq, ?one⟩
  case ltEq =>
    rw [h.ltEq, ← Bool.decide_or]
    simp only [Int.le_iff_lt_or_eq]
  case gtEq =>
    rw [h.gtEq, ← Bool.decide_or]
    simp only [Int.le_iff_lt_or_eq, eq_comm]
  case one =>
    obtain hab | rfl | hab := Int.lt_trichotomy a b
    · simp [hab, hab.ne, hab.not_gt]
    · simp
    · simp [hab, hab.ne', hab.not_gt]

end Ordered

/-! ### Rounded integers -/

/-- An integer rounds to a float if the float is the rounded integer, but not the integer itself. -/
theorem roundsTo_iff (hx : isNaN x = false) :
  RoundsTo n x
    ↔ roundedInt n.toInt * unitsOfOne = units x ∧ n.toInt * unitsOfOne ≠ units x
  := by
  have hrounded : Number.eq (ofWhole n) x = true
      ↔ roundedInt n.toInt * unitsOfOne = units x := by
    rw [Number.eq, isNaN_ofWhole, hx, units_ofWhole, Bool.not_false, Bool.true_and, Bool.true_and,
      beq_iff_eq]
  have hexact : eqWhole n x = true ↔ units x = n.toInt * unitsOfOne := by
    rw [eqWhole_iff, and_iff_right_of_imp isFinite_of_units_eq]
  rw [RoundsTo, hrounded, ← Bool.not_eq_true, hexact, eq_comm (b := units x), ne_comm]

/-- An integer that is rounded has more than fifty-three digits. -/
theorem RoundsTo.lt_natAbs (hx : isNaN x = false) (h : RoundsTo n x) :
  2 ^ 53 < n.toInt.natAbs
  := by
  obtain ⟨hrounded, hexact⟩ := (roundsTo_iff hx).mp h
  by_contra hsmall
  rw [roundedInt_of_le (Nat.le_of_not_lt hsmall)] at hrounded
  exact hexact hrounded

/-- Unless an integer is rounded to the float, both are compared exactly. -/
theorem order_of_not_roundsTo (hx : isNaN x = false) (h : ¬ RoundsTo n x) :
  (roundedInt n.toInt * unitsOfOne ≤ units x ↔ n.toInt * unitsOfOne ≤ units x)
    ∧ (units x ≤ roundedInt n.toInt * unitsOfOne ↔ units x ≤ n.toInt * unitsOfOne)
  := by
  have hkeeps := roundedInt_keeps_order n.toInt x
  rw [roundsTo_iff hx] at h
  generalize roundedInt n.toInt * (unitsOfOne : Int) = c, n.toInt * (unitsOfOne : Int) = a at *
  omega

/-! ### Agreement -/

/-- Numbers that are not blurred are ordered as they are. -/
theorem ordered_of_not_blurred (hv : v.multiple? = some a) (hw : w.multiple? = some b)
    (h : ¬ Blurred v w) :
  Ordered v w a b
  := by
  cases v with
  | int n =>
    obtain rfl := multiple?_int.mp hv
    cases w with
    | int n' =>
      obtain rfl := multiple?_int.mp hw
      exact .ints n n'
    | float x =>
      obtain ⟨hx, rfl⟩ := multiple?_float.mp hw
      obtain ⟨hle, hge⟩ := order_of_not_roundsTo hx (fun hr => h (.int_float hr))
      exact (Ordered.int_float n hx).congr hle hge
    | _ => cases hw
  | float x =>
    obtain ⟨hx, rfl⟩ := multiple?_float.mp hv
    cases w with
    | int n =>
      obtain rfl := multiple?_int.mp hw
      obtain ⟨hle, hge⟩ := order_of_not_roundsTo hx (fun hr => h (.float_int hr))
      exact (Ordered.float_int n hx).congr hge hle
    | float y =>
      obtain ⟨hy, rfl⟩ := multiple?_float.mp hw
      exact .floats hx hy
    | _ => cases hw
  | _ => cases hv

/-- An integer and the float that it is rounded to are compared as if they were equal. -/
theorem ordered_of_blurred (hv : v.multiple? = some a) (hw : w.multiple? = some b)
    (h : Blurred v w) :
  Ordered v w 0 0 ∧ a ≠ b ∧ ∃ n, (v = int n ∨ w = int n) ∧ 2 ^ 53 < n.toInt.natAbs
  := by
  cases h with
  | @int_float n x h =>
    obtain rfl := multiple?_int.mp hv
    obtain ⟨hx, rfl⟩ := multiple?_float.mp hw
    obtain ⟨hrounded, hexact⟩ := (roundsTo_iff hx).mp h
    have hordered := Ordered.int_float n hx
    rw [hrounded] at hordered
    exact ⟨hordered.congr (by simp) (by simp), hexact, n, Or.inl rfl, h.lt_natAbs hx⟩
  | @float_int n x h =>
    obtain ⟨hx, rfl⟩ := multiple?_float.mp hv
    obtain rfl := multiple?_int.mp hw
    obtain ⟨hrounded, hexact⟩ := (roundsTo_iff hx).mp h
    have hordered := Ordered.float_int n hx
    rw [hrounded] at hordered
    exact ⟨hordered.congr (by simp) (by simp), hexact.symm, n, Or.inr rfl, h.lt_natAbs hx⟩

/-- Of numbers that are blurred equality says one thing and the order another one. -/
theorem not_agree_of_blurred (hv : v.multiple? = some a) (hw : w.multiple? = some b)
    (h : Blurred v w) :
  ¬ Agree v w
  := by
  obtain ⟨hordered, hne, -⟩ := ordered_of_blurred hv hw h
  rintro ⟨lt, eq, gt, hlt, heq, hgt, -, -, hone⟩
  rw [hordered.lt] at hlt
  rw [hordered.gt] at hgt
  rw [apply_eq hv hw, decide_eq_false hne] at heq
  cases hlt
  cases hgt
  cases heq
  contradiction

/-- Equality of numbers is exact, and the comparisons agree with it unless one of the numbers is an
integer, beyond `2 ^ 53`, that is rounded to the float which it is compared with.  In that case the
comparisons tell that the numbers are equal, but equality tells that they are not. -/
theorem comparisons_agree_unless_blurred (hv : v.multiple? = some a) (hw : w.multiple? = some b) :
  BinaryOp.apply .eq v w = .ok (.bool (decide (a = b)))
    ∧ (Agree v w ↔ ¬ Blurred v w)
    ∧ (¬ Blurred v w → Ordered v w a b)
    ∧ (Blurred v w → Ordered v w 0 0 ∧ a ≠ b
      ∧ ∃ n, (v = int n ∨ w = int n) ∧ 2 ^ 53 < n.toInt.natAbs)
  := by
  have heq := apply_eq hv hw
  refine ⟨heq, ⟨?blurred, ?sharp⟩, ordered_of_not_blurred hv hw, ordered_of_blurred hv hw⟩
  case blurred =>
    intro hagree h
    exact not_agree_of_blurred hv hw h hagree
  case sharp =>
    intro h
    exact (ordered_of_not_blurred hv hw h).agree heq

/-- The integer is rounded to `2 ^ 53`, which is still less than `2 ^ 53 + 2`. -/
theorem less_after_rounding :
  Agree (int 9007199254740993) (float (Float.ofBits 0x4340000000000001))
    ∧ BinaryOp.apply .lt (int 9007199254740993) (float (Float.ofBits 0x4340000000000001))
      = .ok (.bool true)
  := by
  have hnumber : isNaN (Float.ofBits 0x4340000000000001) = false := by decide +kernel
  have hsharp : ¬ Blurred (int 9007199254740993) (float (Float.ofBits 0x4340000000000001)) := by
    rintro ⟨hrounded, -⟩
    exact absurd hrounded (by decide +kernel)
  obtain ⟨-, hagree, hordered, -⟩ :=
    comparisons_agree_unless_blurred (v := int 9007199254740993) rfl
      (multiple?_float.mpr ⟨hnumber, rfl⟩)
  refine ⟨hagree.mpr hsharp, ?_⟩
  rw [(hordered hsharp).lt, decide_eq_true (by decide +kernel)]

/-- The integer is rounded to `2 ^ 53`, but does not equal it. -/
theorem neighbours_do_not_agree :
  isNaN (Float.ofBits 0x4340000000000000) = false
    ∧ ¬ Agree (int 9007199254740993) (float (Float.ofBits 0x4340000000000000))
  := by
  have hnumber : isNaN (Float.ofBits 0x4340000000000000) = false := by decide +kernel
  refine ⟨hnumber, ?_⟩
  apply not_agree_of_blurred rfl (multiple?_float.mpr ⟨hnumber, rfl⟩)
  apply Blurred.int_float
  constructor <;> decide +kernel

end StoryScript.Value
