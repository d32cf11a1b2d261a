import StoryScript.Number.Whole

/-!
# Floats as exact numbers

Every finite float is a whole multiple of `2 ^ (-1074)`, the least positive float.
`units x` is that multiple, read off the bits of `x`; an infinite `x` is read as if the
exponents went on, so its units are greater than those of every finite float.  Comparison,
rounding to an integer and the remainder are then questions about integers.
-/

namespace StoryScript.Number

/-- The weight of the sign bit. -/
def signWeight : Nat := Nat.pow 2 63

/-- The weight of the lowest bit of the exponent. -/
def exponentWeight : Nat := Nat.pow 2 52

/-- The sign bit. -/
def isNegative (x : Float) : Bool := x.toBits / 0x8000000000000000 == 1

/-- The eleven bits of the exponent. -/
def exponentField (x : Float) : Nat := (x.toBits / 0x10000000000000 % 0x800).toNat

/-- The fifty-two bits of the fraction. -/
def fractionField (x : Float) : Nat := (x.toBits % 0x10000000000000).toNat

/-- Whether `x` is not a number. -/
def isNaN (x : Float) : Bool := exponentField x == 2047 && fractionField x != 0

/-- Whether `x` is a number and not infinite. -/
def isFinite (x : Float) : Bool := exponentField x != 2047

/-- The binary digits of `x` as a number: those of the fraction, after a one unless the
exponent is zero. -/
def significand (x : Float) : Nat :=
  if exponentField x = 0 then fractionField x else exponentWeight + fractionField x

/-- How often the significand of `x` is doubled. -/
def doublings (x : Float) : Nat := exponentField x - 1

/-- The absolute value of `x` as a multiple of `2 ^ (-1074)`. -/
def magnitude (x : Float) : Nat := significand x * Nat.pow 2 (doublings x)

/-- The value of `x` as a multiple of `2 ^ (-1074)`. -/
def units (x : Float) : Int :=
  if isNegative x then -(magnitude x : Int) else magnitude x

/-- How often `2 ^ (-1074)` is doubled until it is one. -/
def doublingsOfOne : Nat := 1074

/-- The number one, as a multiple of `2 ^ (-1074)`. -/
def unitsOfOne : Nat := Nat.pow 2 doublingsOfOne

/-! ### Comparison

A float that is not a number is neither equal to, nor less than, nor greater than any
other. -/

/-- Equality of numbers: the two zeros are equal. -/
def eq (x y : Float) : Bool := !isNaN x && !isNaN y && units x == units y

/-- The order of numbers. -/
def lt (x y : Float) : Bool := !isNaN x && !isNaN y && decide (units x < units y)

/-- The order of numbers, or equality. -/
def le (x y : Float) : Bool := !isNaN x && !isNaN y && decide (units x ≤ units y)

/-- Whether `x` is a zero of either sign. -/
def isZero (x : Float) : Bool := units x == 0

/-! ### Rounding to an integer -/

/-- Whether `x` is an integer. -/
def isIntegral (x : Float) : Bool := isFinite x && magnitude x % unitsOfOne == 0

/-- The integer part of a finite float, rounded towards zero. -/
def trunc (x : Float) : Int := (units x).tdiv unitsOfOne

/-- The greatest integer that is no greater than a finite float. -/
def floor (x : Float) : Int := (units x).fdiv unitsOfOne

/-- The float nearest to a whole number. -/
def ofWhole (n : Whole) : Float := Float.ofInt n.toInt

/-! ### Exact equality with whole numbers -/

/-- The absolute value of a finite float as a natural number, if it is one. -/
def natural? (x : Float) : Option Nat :=
  if doublingsOfOne ≤ doublings x then
    some (significand x * Nat.pow 2 (doublings x - doublingsOfOne))
  else
    let part := Nat.pow 2 (doublingsOfOne - doublings x)
    if significand x % part = 0 then some (significand x / part) else none

/-- Whether the float `x` has exactly the value of the whole number `n`.  No rounding takes
place, so a large whole number never equals a float that merely rounds to it. -/
def eqWhole (n : Whole) (x : Float) : Bool :=
  (isNegative x == decide (n.toInt < 0) || n.toInt == 0)
    && isFinite x && natural? x == some n.toInt.natAbs

theorem twoPow_pos (n : Nat) :
  0 < Nat.pow 2 n
  := Nat.two_pow_pos n

theorem twoPow_add (m n : Nat) :
  Nat.pow 2 (m + n) = Nat.pow 2 m * Nat.pow 2 n
  := Nat.pow_add 2 m n

theorem unitsOfOne_pos :
  0 < unitsOfOne
  := by
  unfold unitsOfOne
  apply twoPow_pos

/-- The natural number that a float is, is told by its multiples of `2 ^ (-1074)`. -/
theorem natural?_eq_some_iff (x : Float) (m : Nat) :
  natural? x = some m ↔ magnitude x = m * unitsOfOne
  := by
  unfold natural? magnitude unitsOfOne
  generalize doublingsOfOne = e, significand x = s, doublings x = d
  split
  · obtain ⟨k, rfl⟩ := Nat.exists_eq_add_of_le' ‹e ≤ d›
    simp only [Nat.add_sub_cancel, Option.some.injEq]
    rw [twoPow_add, ← Nat.mul_assoc, Nat.mul_left_inj (Nat.ne_of_gt (twoPow_pos e))]
  · obtain ⟨k, rfl⟩ := Nat.exists_eq_add_of_lt (Nat.lt_of_not_ge ‹¬e ≤ d›)
    rw [Nat.add_assoc, Nat.add_comm d, Nat.add_sub_cancel, twoPow_add (k + 1) d,
      ← Nat.mul_assoc, Nat.mul_left_inj (Nat.ne_of_gt (twoPow_pos d))]
    generalize hp : Nat.pow 2 (k + 1) = p
    have hpos : 0 < p := hp ▸ twoPow_pos (k + 1)
    dsimp only
    constructor
    · intro h
      split at h
      · cases h
        rw [Nat.div_mul_cancel (Nat.dvd_of_mod_eq_zero ‹_›)]
      · cases h
    · rintro rfl
      simp [hpos]

/-- A float equals a whole number exactly when it is finite and both are the same multiple
of `2 ^ (-1074)`. -/
theorem eqWhole_iff (n : Whole) (x : Float) :
  eqWhole n x = true ↔ isFinite x = true ∧ units x = n.toInt * unitsOfOne
  := by
  have hone : (0 : Int) < unitsOfOne := Int.ofNat_lt.mpr unitsOfOne_pos
  have hsign : n.toInt < 0 ↔ n.toInt * unitsOfOne < 0 := by
    constructor
    · intro h
      apply Int.mul_neg_of_neg_of_pos h hone
    · intro h
      apply Int.lt_of_not_ge
      intro hn
      exact absurd (Int.mul_nonneg hn (Int.le_of_lt hone)) (Int.not_le.mpr h)
  have hzero : n.toInt = 0 ↔ n.toInt * unitsOfOne = 0 := by
    rw [Int.mul_eq_zero]
    exact ⟨Or.inl, fun h => h.resolve_right (Int.ne_of_gt hone)⟩
  have habs : n.toInt.natAbs * unitsOfOne = (n.toInt * unitsOfOne).natAbs := by
    rw [Int.natAbs_mul, Int.natAbs_natCast]
  simp only [eqWhole, units, Bool.and_eq_true, Bool.or_eq_true, beq_iff_eq,
    natural?_eq_some_iff, hsign, hzero, habs]
  generalize n.toInt * (unitsOfOne : Int) = m
  cases isNegative x <;> cases isFinite x <;> simp <;> omega

/-! ### Remainder -/

/-- The float with the given sign whose absolute value is `m` multiples of `2 ^ (-1074)`,
for an `m` that is representable. -/
def ofMagnitude (negative : Bool) (m : Nat) : Float :=
  let body :=
    if m < exponentWeight then m
    else
      let e := m.log2 - 52
      (e + 1) * exponentWeight + (m / Nat.pow 2 e - exponentWeight)
  Float.ofBits (UInt64.ofNat ((if negative then signWeight else 0) + body))

/-- The quiet float that is not a number. -/
def nan : Float := Float.ofBits 0x7ff8000000000000

/-- The exact remainder of the division of `x` by `y` that rounds towards zero, with the
sign of `x`.  The divisor is not zero. -/
def rem (x y : Float) : Float :=
  if isNaN x || isNaN y || !isFinite x then nan
  else if !isFinite y then x
  else ofMagnitude (isNegative x) (magnitude x % magnitude y)

end StoryScript.Number
