/-!
# Whole numbers of a script

The integers of a script are the sixty-four bit signed ones.  Arithmetic is done on the
mathematical integers and checked afterwards: a result outside the range is no result,
so nothing ever wraps around.
-/

namespace StoryScript

/-- The integers of a script. -/
abbrev Whole := Int64

namespace Whole

/-- The least whole number, `-2 ^ 63`. -/
def least : Int := -9223372036854775808

/-- The greatest whole number, `2 ^ 63 - 1`. -/
def greatest : Int := 9223372036854775807

/-- The whole number equal to `n`, if there is one. -/
def ofInt? (n : Int) : Option Whole :=
  if least ≤ n ∧ n ≤ greatest then some (Int64.ofInt n) else none

/-- The whole number nearest to `n`. -/
def clamp (n : Int) : Whole := Int64.ofInt (max least (min n greatest))

/-- The difference, or the whole number nearest to it. -/
def subNearest (a b : Whole) : Whole := clamp (a.toInt - b.toInt)

/-- The sum, if it is in range. -/
def add? (a b : Whole) : Option Whole := ofInt? (a.toInt + b.toInt)

/-- The difference, if it is in range. -/
def sub? (a b : Whole) : Option Whole := ofInt? (a.toInt - b.toInt)

/-- The product, if it is in range. -/
def mul? (a b : Whole) : Option Whole := ofInt? (a.toInt * b.toInt)

/-- The remainder of the division that rounds towards zero.  The quotient has to be in
range as well, so the least number has no remainder by `-1`. -/
def rem? (a b : Whole) : Option Whole :=
  (ofInt? (a.toInt.tdiv b.toInt)).bind fun _ => ofInt? (a.toInt.tmod b.toInt)

/-- The negation, if it is in range. -/
def neg? (a : Whole) : Option Whole := ofInt? (-a.toInt)

/-- The absolute value, if it is in range. -/
def abs? (a : Whole) : Option Whole := ofInt? a.toInt.natAbs

/-- The decimal text of a whole number. -/
def text (a : Whole) : String := toString a.toInt

/-! ### Membership in the range -/

theorem least_le_toInt (a : Whole) :
  least ≤ a.toInt
  := Int64.le_toInt a

theorem toInt_le_greatest (a : Whole) :
  a.toInt ≤ greatest
  := by
  have h := Int64.toInt_lt a
  simp only [greatest]
  omega

/-- An integer in range is itself. -/
theorem toInt_ofInt {n : Int} (lower : least ≤ n) (upper : n ≤ greatest) :
  (Int64.ofInt n).toInt = n
  := by
  apply Int64.toInt_ofInt_of_le
  · exact lower
  · simp only [greatest] at upper
    omega

/-- Clamping takes the nearest integer in range. -/
theorem toInt_clamp (n : Int) :
  (clamp n).toInt = max least (min n greatest)
  := by
  apply toInt_ofInt <;> unfold least greatest <;> omega

/-- Below another one a whole number has a successor. -/
theorem toInt_add_one {a b : Whole} (h : a < b) :
  (a + 1).toInt = a.toInt + 1
  := by
  have hlt : a.toInt < b.toInt := Int64.lt_iff_toInt_lt.mp h
  have hlower := least_le_toInt a
  have hupper := toInt_le_greatest b
  simp only [least, greatest] at hlower hupper
  rw [Int64.toInt_add, Int64.toInt_one]
  apply Int.bmod_eq_of_le <;> omega

/-- A number is found exactly when it is in range, and then it is the number asked for. -/
theorem ofInt?_eq_some_iff {n : Int} {a : Whole} :
  ofInt? n = some a ↔ a.toInt = n
  := by
  unfold ofInt?
  constructor
  · intro h
    split at h
    · next range =>
      obtain rfl := Option.some.inj h
      exact toInt_ofInt range.1 range.2
    · contradiction
  · rintro rfl
    rw [if_pos ⟨least_le_toInt a, toInt_le_greatest a⟩, Int64.ofInt_toInt]

/-- There is no integer for a number out of range. -/
theorem ofInt?_eq_none_iff {n : Int} :
  ofInt? n = none ↔ n < least ∨ greatest < n
  := by
  unfold ofInt?
  split <;> simp only [reduceCtorEq, false_iff, true_iff] <;> omega

end Whole

end StoryScript
