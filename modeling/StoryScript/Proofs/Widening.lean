import StoryScript.Proofs.Fields
import StoryScript.Proofs.Rounding

/-!
# Whole numbers as floats

The logical model of floating-point arithmetic makes a float of a natural number in several steps:
it fits the digits into a word or shifts them, drops some and remembers whether they made up half a
unit, and packs what is left.  Main statements: the natural number becomes the float of what
`rounded` yields, as long as that is below `2 ^ 1024`, and infinite from there on; an integer keeps
its order with every float when it is rounded, but may become equal to it.
-/

namespace StoryScript.Number

open Float.Model Float.Model.UnpackedFloat

variable {m n d f i k : Nat}

/-! ### Binary digits -/

/-- Multiplying by a power of two appends as many binary digits. -/
theorem log2_mul_twoPow (hm : m ≠ 0) (k : Nat) :
  (m * 2 ^ k).log2 = m.log2 + k
  := by
  have hpos := Nat.two_pow_pos k
  apply (Nat.log2_eq_iff (Nat.mul_ne_zero hm hpos.ne')).mpr
  rw [pow_add, show m.log2 + k + 1 = m.log2 + 1 + k by omega, pow_add]
  exact ⟨Nat.mul_le_mul_right _ (Nat.log2_self_le hm),
    Nat.mul_lt_mul_of_pos_right Nat.lt_log2_self hpos⟩

/-- A quotient with fifty-three digits is rounded to a number that has as many, perhaps followed
by a zero. -/
theorem halfEven_eq_mul (h : m.log2 = 52 + k) :
  ∃ f i, f < 2 ^ 52 ∧ halfEven m k = (2 ^ 52 + f) * 2 ^ i
  := by
  have hm : m ≠ 0 := by
    rintro rfl
    rw [Nat.log2_zero] at h
    omega
  have hlower : 2 ^ 52 ≤ halfEven m k := by
    apply twoPow_le_halfEven
    rw [← h]
    exact Nat.log2_self_le hm
  have hupper : halfEven m k ≤ 2 ^ 53 := by
    apply halfEven_le_twoPow
    rw [show 53 + k = m.log2 + 1 by omega]
    exact Nat.lt_log2_self
  obtain hlt | heq := hupper.lt_or_eq
  · use halfEven m k - 2 ^ 52, 0
    omega
  · use 0, 1
    omega

/-! ### Rounding in the float model -/

/-- The float model drops the last `k` binary digits of `n` one by one.  It remembers whether
those that are gone make up half a unit, and whether they make up anything besides. -/
structure Guards (n k : Nat) (em : ExtendedMantissa) : Prop where
  mantissa : em.mantissa = n / 2 ^ k
  roundBit : em.roundBit = decide (2 ^ k ≤ 2 * (n % 2 ^ k))
  stickyBit : em.stickyBit = decide (n % 2 ^ k ≠ 0 ∧ 2 * (n % 2 ^ k) ≠ 2 ^ k)

namespace Guards

variable {em : ExtendedMantissa}

/-- Nothing has been cut off at the start. -/
theorem start (n : Nat) :
  Guards n 0 (.ofMantissaAndAccuracy n .exact)
  := by
  constructor <;> simp [ExtendedMantissa.ofMantissaAndAccuracy, Nat.mod_one]

/-- One more digit that is cut off becomes the guard, and the guard goes to the rest. -/
theorem shift (h : Guards n k em) :
  Guards n (k + 1) em.shiftRightOne
  := by
  have hmod : n % 2 ^ (k + 1) = n % 2 ^ k + 2 ^ k * (n / 2 ^ k % 2) := Nat.mod_pow_succ
  have hlt := Nat.mod_lt n (Nat.two_pow_pos k)
  have hbit := Nat.mod_two_eq_zero_or_one (n / 2 ^ k)
  constructor
  · rw [ExtendedMantissa.shiftRightOne, h.mantissa, Nat.div_div_eq_div_mul, pow_succ]
  · rw [ExtendedMantissa.shiftRightOne, h.mantissa, hmod, pow_succ]
    obtain hbit | hbit := hbit <;> rw [hbit] <;> simp <;> omega
  · rw [ExtendedMantissa.shiftRightOne, h.roundBit, h.stickyBit, hmod, pow_succ,
      Bool.eq_iff_iff]
    obtain hbit | hbit := hbit <;> rw [hbit] <;> simp <;> omega

/-- The guard and the rest tell what was cut off, however many digits it is. -/
theorem shifts (n k : Nat) :
  Guards n k (ExtendedMantissa.ofMantissaAndAccuracy n .exact >>> k)
  := by
  change Guards n k (k.repeat ExtendedMantissa.shiftRightOne _)
  induction k with
  | zero => exact start n
  | succ k ih => exact ih.shift

/-- What remains is rounded to the nearest, with halves to the even neighbour. -/
theorem roundedMantissa (h : Guards n k em) :
  em.roundedMantissa = halfEven n k
  := by
  obtain ⟨q, r, s⟩ := em
  obtain ⟨hq, hr, hs⟩ := h
  dsimp only at hq hr hs
  have hpos := Nat.two_pow_pos k
  unfold halfEven ExtendedMantissa.roundedMantissa
  rw [← hq]
  generalize 2 ^ k = p, n % 2 ^ k = x at *
  cases r <;> cases s <;>
    simp [ExtendedMantissa.accuracy, Accuracy.roundToNearestEven] at hr hs ⊢
  all_goals (try split) <;> omega

end Guards

/-- The exponent of the result leaves fifty-three digits, as long as the number is not subnormal. -/
theorem targetExponent_eq (m : Nat) (e : Int) :
  Format.binary64.targetExponent (totalExponent m e) = max (m.log2 + e - 52) (-1074)
  := by
  change max (((m.log2 + 1 : Nat) : Int) + e - 53) (-1074) = _
  omega

/-- A number with fifty-three digits and `k` more loses these `k`. -/
theorem shiftToTargetExponent_eq {e : Int} (h : m.log2 = 52 + k) (he : -1074 ≤ e + k) :
  shiftToTargetExponent .binary64 m e .exact
    = (ExtendedMantissa.ofMantissaAndAccuracy m .exact >>> k, e + k)
  := by
  have hshift : (Format.binary64.targetExponent (totalExponent m e) - e).toNat = k := by
    rw [targetExponent_eq]
    omega
  rw [shiftToTargetExponent, shiftToExponent, hshift]

/-- A number with `k` digits too many is rounded. -/
theorem roundWithAccuracy_eq {e : Int} (h : m.log2 = 52 + k) (hd : e + k + i = d - 1074)
    (hi : i ≤ d) (hf : f < 2 ^ 52) (hround : halfEven m k = (2 ^ 52 + f) * 2 ^ i) :
  roundWithAccuracy .binary64 .positive m e .exact = normal false d f
  := by
  have hlog : ((2 ^ 52 + f) * 2 ^ i).log2 = 52 + i := by
    rw [log2_mul_twoPow (by omega), (Nat.log2_eq_iff (by omega)).mpr]
    omega
  have hmantissa := (Guards.shifts ((2 ^ 52 + f) * 2 ^ i) i).mantissa
  rw [Nat.mul_div_cancel _ (Nat.two_pow_pos i)] at hmantissa
  unfold roundWithAccuracy
  rw [shiftToTargetExponent_eq h (by omega)]
  dsimp only
  rw [(Guards.shifts m k).roundedMantissa, hround, shiftToTargetExponent_eq hlog (by omega)]
  dsimp only
  rw [dif_neg (by rw [hmantissa]; omega)]
  exact finite_congr hmantissa hd

/-- A number that has fifty-three digits, apart from zeros at the end, stays as it is. -/
theorem roundWithAccuracy_mul {e : Int} (hd : e + k = d - 1074) (hf : f < 2 ^ 52) :
  roundWithAccuracy .binary64 .positive ((2 ^ 52 + f) * 2 ^ k) e .exact = normal false d f
  := by
  have hlog : ((2 ^ 52 + f) * 2 ^ k).log2 = 52 + k := by
    rw [log2_mul_twoPow (by omega), (Nat.log2_eq_iff (by omega)).mpr]
    omega
  apply roundWithAccuracy_eq (i := 0) hlog (by omega) (Nat.zero_le d) hf
  rw [halfEven_mul, pow_zero, mul_one]

/-! ### Natural numbers -/

/-- Few digits are followed by zeros until there are fifty-three. -/
theorem exists_digits (hn : n ≠ 0) (hlt : n < 2 ^ 53) :
  ∃ f, f < 2 ^ 52 ∧ n * 2 ^ (52 - n.log2) = 2 ^ 52 + f
  := by
  have hlog : n.log2 < 53 := (Nat.log2_lt hn).mpr hlt
  have hne : n * 2 ^ (52 - n.log2) ≠ 0 := Nat.mul_ne_zero hn (Nat.two_pow_pos _).ne'
  obtain ⟨hlower, hupper⟩ : 2 ^ 52 ≤ n * 2 ^ (52 - n.log2) ∧ n * 2 ^ (52 - n.log2) < 2 ^ 53 := by
    apply (Nat.log2_eq_iff hne).mp
    rw [log2_mul_twoPow hn]
    omega
  use n * 2 ^ (52 - n.log2) - 2 ^ 52
  omega

/-- A natural number with at most fifty-three digits becomes the float with these digits. -/
theorem toFloat_eq (hn : n ≠ 0) (hlt : n < 2 ^ 53) (hf : f < 2 ^ 52)
    (hdigits : n * 2 ^ (52 - n.log2) = 2 ^ 52 + f) :
  n.toUInt64.toFloat = .ofModel (.pack (normal false (n.log2 + 1022) f))
  := by
  have hlog : n.log2 < 53 := (Nat.log2_lt hn).mpr hlt
  have hword : n.toUInt64.toNat = n := Nat.mod_eq_of_lt (by omega)
  have hcompare : compare (n : Int) 0 = .gt := by
    rw [Int.compare_eq_gt]
    omega
  have htarget : Format.binary64.targetExponent (totalExponent n 0) = n.log2 - 52 := by
    rw [targetExponent_eq]
    omega
  have hshift : ((0 : Int) - (n.log2 - 52)).toNat = 52 - n.log2 := by omega
  have hround := roundWithAccuracy_mul (e := 0 - (52 - n.log2 : Nat)) (k := 0)
    (d := n.log2 + 1022) (by omega) hf
  rw [pow_zero, mul_one] at hround
  change Float.ofModel (.pack (UnpackedFloat.normalize .binary64 (n.toUInt64.toNat : Int) 0
    .positive)) = _
  rw [hword, UnpackedFloat.normalize, hcompare]
  dsimp only
  rw [Int.toNat_natCast, UnpackedFloat.round, htarget, decreaseExponent]
  dsimp only
  rw [hshift, Nat.shiftLeft_eq, hdigits, hround]

/-- The bits of the float one. -/
theorem fields_one :
  Fields (Float.ofBits 0x3FF0000000000000) false (1022 + 1) 0
  := by
  constructor <;> decide +kernel

/-- A normal float times one is itself. -/
theorem mul_one_eq {x : Float} (h : Fields x false (d + 1) f) (hf : f < 2 ^ 52) (hd : d < 2046) :
  x * Float.ofBits 0x3FF0000000000000 = .ofModel (.pack (normal false d f))
  := by
  change Float.ofModel (.pack (UnpackedFloat.mul .binary64 x.toModel.unpack
    (Float.ofBits 0x3FF0000000000000).toModel.unpack)) = _
  rw [h.unpack hd, fields_one.unpack (by omega)]
  have hround := roundWithAccuracy_mul (e := (d - 1074) + ((1022 : Nat) - 1074)) (k := 52) (d := d)
    (by omega) hf
  exact congrArg _ (congrArg _ hround)

/-- One is a power of two of the least units. -/
theorem unitsOfOne_eq :
  unitsOfOne = 2 ^ doublingsOfOne
  := by
  unfold unitsOfOne
  generalize doublingsOfOne = e
  rfl

/-- One is more than zero units. -/
theorem zero_lt_unitsOfOne :
  (0 : Int) < unitsOfOne
  := Int.natCast_pos.mpr unitsOfOne_pos

/-- A natural number becomes the float model's number with the digits that it is rounded to. -/
theorem ofNat_eq (hn : n ≠ 0) :
  ∃ d f, f < 2 ^ 52 ∧ (2 ^ 52 + f) * 2 ^ d = rounded n * unitsOfOne
    ∧ Float.ofNat n = .ofModel (.pack (normal false d f))
  := by
  rw [unitsOfOne_eq]
  obtain hlt | hge := lt_or_ge n (2 ^ 53)
  · obtain ⟨f, hf, hdigits⟩ := exists_digits hn hlt
    have hlog : n.log2 < 53 := (Nat.log2_lt hn).mpr hlt
    have hd : n.log2 + 1022 < 2046 := by omega
    have hpowers : 52 - n.log2 + (n.log2 + 1022) = doublingsOfOne := by
      unfold doublingsOfOne
      omega
    refine ⟨n.log2 + 1022, f, hf, ?_, ?_⟩
    · rw [← hdigits, rounded_of_lt hlt, mul_assoc, ← pow_add, hpowers]
    · change Float.ofScientific n false 0 = _
      unfold Float.ofScientific
      rw [dif_pos ⟨hlt, by decide⟩]
      change n.toUInt64.toFloat * Float.ofBits 0x3FF0000000000000 = _
      rw [toFloat_eq hn hlt hf hdigits, mul_one_eq (Fields.ofNormal hf hd) hf hd]
  · have hlog : n.log2 = 52 + excess n := by
      have hle := (Nat.le_log2 hn).mpr ((by decide : 2 ^ 52 ≤ 2 ^ 53).trans hge)
      unfold excess
      omega
    have hlonger : (n * 2 ^ 53).log2 = 52 + (excess n + 53) := by
      rw [log2_mul_twoPow hn, hlog, add_assoc]
    obtain ⟨f, i, hf, hround⟩ := halfEven_eq_mul hlog
    refine ⟨excess n + i + doublingsOfOne, f, hf, ?_, ?_⟩
    · rw [rounded, hround, pow_add, pow_add, mul_comm (2 ^ excess n), ← mul_assoc, ← mul_assoc]
    · have hrounds := roundWithAccuracy_eq (e := -53) (d := excess n + i + doublingsOfOne)
        (i := i) hlonger (by unfold doublingsOfOne; omega) (by omega) hf
        ((halfEven_shift n 53 (excess n)).trans hround)
      rw [← hrounds]
      change Float.ofScientific n false 0 = _
      unfold Float.ofScientific
      rw [dif_neg (by omega)]
      change Float.ofModel (.pack (UnpackedFloat.ofScientific .binary64 n 0)) = _
      have hsmall : ¬ (0 : Int) < -((2 ^ Format.binary64.exponentBits : Int) + n.log2) := by
        change ¬ (0 : Int) < -((2 ^ 11 : Int) + n.log2)
        omega
      unfold UnpackedFloat.ofScientific
      rw [dif_neg hn, if_neg (by decide), if_neg hsmall, if_pos le_rfl]
      unfold UnpackedFloat.mul
      dsimp only
      rw [Int.toNat_zero, pow_zero, mul_one, Nat.shiftLeft_eq]
      rfl

/-- How many binary digits a natural number has at most that becomes a finite float. -/
def finiteDigits : Nat := 1024

/-- The least natural number that does not become a finite float: no more than half a unit is
missing to the next power of two. -/
def infiniteFrom : Nat := 2 ^ finiteDigits - 2 ^ (finiteDigits - 54)

/-- A rounded number is in the range of finite floats exactly if the number is below the half-way
point. -/
theorem rounded_lt_iff (n : Nat) :
  rounded n < 2 ^ finiteDigits ↔ n < infiniteFrom
  := by
  obtain ⟨k, hk⟩ : ∃ k, finiteDigits = 54 + k := ⟨970, rfl⟩
  have hrounded := twoPow_le_rounded_iff n k
  have hpowers : 2 ^ k ≤ 2 ^ (54 + k) := Nat.pow_le_pow_right Nat.two_pos (Nat.le_add_left _ _)
  unfold infiniteFrom
  rw [hk, Nat.add_sub_cancel_left]
  omega

/-- What becomes of a natural number: the float of the number that it is rounded to, if that is
small enough, and the positive infinity otherwise. -/
inductive Widened (n : Nat) (x : Float) : Prop where
  | finite {e f : Nat} (hfields : Fields x false e f) (he : e < 2047)
    (hvalue : magnitude x = rounded n * unitsOfOne) (hlt : rounded n < 2 ^ finiteDigits)
  | infinite (hfields : Fields x false 2047 0) (hge : 2 ^ finiteDigits ≤ rounded n)

/-- The float zero is the widened number zero. -/
theorem widened_zero {x : Float} (hfields : Fields x false 0 0) :
  Widened 0 x
  := by
  apply Widened.finite hfields (by decide)
  · rw [hfields.magnitude, rounded_eq_zero_iff.mpr rfl, if_pos rfl, zero_mul, zero_mul]
  · rw [rounded_eq_zero_iff.mpr rfl]
    exact Nat.two_pow_pos _

/-- Every natural number is widened to a float that is the rounded number, or infinite. -/
theorem widened_ofNat (n : Nat) :
  Widened n (Float.ofNat n)
  := by
  by_cases hn : n = 0
  · subst hn
    apply widened_zero
    constructor <;> decide +kernel
  obtain ⟨d, f, hf, hvalue, heq⟩ := ofNat_eq hn
  rw [heq]
  have hone : 0 < 2 ^ doublingsOfOne := Nat.two_pow_pos _
  have hbits : finiteDigits + doublingsOfOne = 2098 := rfl
  rw [unitsOfOne_eq] at hvalue
  obtain hd | hd := lt_or_ge d 2046
  · have hfields : Fields (.ofModel (.pack (normal false d f))) false (d + 1) f := .ofNormal hf hd
    apply Widened.finite hfields (by omega)
    · rw [hfields.magnitude, if_neg (Nat.succ_ne_zero d), Nat.add_sub_cancel, unitsOfOne_eq,
        ← hvalue]
      rfl
    · apply Nat.lt_of_mul_lt_mul_right (a := 2 ^ doublingsOfOne)
      calc rounded n * 2 ^ doublingsOfOne
          = (2 ^ 52 + f) * 2 ^ d := hvalue.symm
        _ < 2 ^ 53 * 2 ^ d := Nat.mul_lt_mul_of_pos_right (by omega) (Nat.two_pow_pos d)
        _ = 2 ^ (53 + d) := (pow_add 2 53 d).symm
        _ ≤ 2 ^ (finiteDigits + doublingsOfOne) := Nat.pow_le_pow_right Nat.two_pos (by omega)
        _ = 2 ^ finiteDigits * 2 ^ doublingsOfOne := pow_add 2 _ _
  · apply Widened.infinite (.ofLarge hd)
    apply Nat.le_of_mul_le_mul_right _ hone
    calc 2 ^ finiteDigits * 2 ^ doublingsOfOne
        = 2 ^ (finiteDigits + doublingsOfOne) := (pow_add 2 _ _).symm
      _ ≤ 2 ^ (52 + d) := Nat.pow_le_pow_right Nat.two_pos (by omega)
      _ = 2 ^ 52 * 2 ^ d := pow_add 2 52 d
      _ ≤ (2 ^ 52 + f) * 2 ^ d := Nat.mul_le_mul_right _ (Nat.le_add_right _ f)
      _ = rounded n * 2 ^ doublingsOfOne := hvalue

namespace Widened

variable {x : Float}

/-- A widened natural number is not negative. -/
theorem isNegative (h : Widened n x) :
  Number.isNegative x = false
  := by
  cases h with
  | finite hfields => exact hfields.isNegative
  | infinite hfields => exact hfields.isNegative

/-- A widened natural number is not NaN. -/
theorem isNaN (h : Widened n x) :
  Number.isNaN x = false
  := by
  cases h with
  | finite hfields he => rw [hfields.isNaN, beq_eq_false_iff_ne.mpr he.ne, Bool.false_and]
  | infinite hfields => rw [hfields.isNaN, bne_self_eq_false, Bool.and_false]

/-- A widened natural number is finite exactly if the rounded one is in range. -/
theorem isFinite_iff (h : Widened n x) :
  Number.isFinite x = true ↔ rounded n < 2 ^ finiteDigits
  := by
  cases h with
  | finite hfields he _ hlt =>
    rw [hfields.isFinite, bne_iff_ne]
    exact iff_of_true he.ne hlt
  | infinite hfields hge =>
    rw [hfields.isFinite, bne_iff_ne]
    exact iff_of_false (fun h => h rfl) hge.not_gt

/-- A finite widened number is the rounded number. -/
theorem units (h : Widened n x) (hlt : rounded n < 2 ^ finiteDigits) :
  Number.units x = rounded n * unitsOfOne
  := by
  cases h with
  | finite hfields _ hvalue =>
    rw [Number.units, hfields.isNegative, hvalue, if_neg Bool.false_ne_true, Int.natCast_mul]
  | infinite _ hge => exact absurd hlt hge.not_gt

end Widened

/-! ### Integers -/

/-- The integer that an integer is rounded to. -/
def roundedInt (n : Int) : Int := if n < 0 then -rounded n.natAbs else rounded n.natAbs

/-- Rounding of integers keeps their order. -/
theorem roundedInt_mono {m n : Int} (h : m ≤ n) :
  roundedInt m ≤ roundedInt n
  := by
  unfold roundedInt
  split <;> split
  · have hrounded := rounded_mono (by omega : n.natAbs ≤ m.natAbs)
    omega
  · omega
  · omega
  · have hrounded := rounded_mono (by omega : m.natAbs ≤ n.natAbs)
    omega

/-- The magnitude of a rounded integer is the rounded magnitude. -/
theorem natAbs_roundedInt (n : Int) :
  (roundedInt n).natAbs = rounded n.natAbs
  := by
  unfold roundedInt
  split <;> omega

/-- Integers with at most fifty-three digits are not rounded. -/
theorem roundedInt_of_le {n : Int} (h : n.natAbs ≤ 2 ^ 53) :
  roundedInt n = n
  := by
  unfold roundedInt
  rw [rounded_of_le h]
  split <;> omega

/-- Only zero is rounded to zero. -/
theorem roundedInt_eq_zero_iff {n : Int} :
  roundedInt n = 0 ↔ n = 0
  := by
  rw [← Int.natAbs_eq_zero, natAbs_roundedInt, rounded_eq_zero_iff, Int.natAbs_eq_zero]

/-- Integers of scripts are not greater than the least one in magnitude. -/
theorem natAbs_le_twoPow (n : Whole) :
  n.toInt.natAbs ≤ 2 ^ 63
  := by
  have hlower := n.least_le_toInt
  have hupper := n.toInt_le_greatest
  simp only [Whole.least, Whole.greatest] at hlower hupper
  omega

/-- The rounded magnitude of an integer of a script is in the range of finite floats. -/
theorem rounded_whole_lt (n : Whole) :
  rounded n.toInt.natAbs < 2 ^ finiteDigits
  := by
  calc rounded n.toInt.natAbs
      ≤ 2 ^ 63 := rounded_le_twoPow (natAbs_le_twoPow n)
    _ < 2 ^ finiteDigits := Nat.pow_lt_pow_right (by decide) (by decide)

/-- An integer is widened by its magnitude, and negated if it is negative. -/
theorem ofInt_eq (n : Int) :
  Float.ofInt n = if n < 0 then -Float.ofNat n.natAbs else Float.ofNat n.natAbs
  := by
  cases n with
  | ofNat n =>
    rw [Int.ofNat_eq_natCast, if_neg (Int.natCast_nonneg n).not_gt]
    rfl
  | negSucc n =>
    rw [if_pos (Int.negSucc_lt_zero n)]
    rfl

/-- A widened integer is not NaN. -/
theorem isNaN_ofWhole (n : Whole) :
  isNaN (ofWhole n) = false
  := by
  have hwidened := widened_ofNat n.toInt.natAbs
  rw [ofWhole, ofInt_eq]
  split
  · exact isNaN_neg hwidened.isNaN
  · exact hwidened.isNaN

/-- A whole number becomes the float of the integer that it is rounded to. -/
theorem units_ofWhole (n : Whole) :
  units (ofWhole n) = roundedInt n.toInt * unitsOfOne
  := by
  have hwidened := widened_ofNat n.toInt.natAbs
  have hunits := hwidened.units (rounded_whole_lt n)
  rw [ofWhole, ofInt_eq, roundedInt]
  split
  · rw [units_neg hwidened.isNaN, hunits, Int.neg_mul]
  · exact hunits

/-- The significand of a float has at most fifty-three digits. -/
theorem significand_lt (x : Float) :
  significand x < 2 ^ 53
  := by
  have hfraction := fractionField_lt x
  unfold significand
  split
  · omega
  · change 2 ^ 52 + fractionField x < 2 ^ 53
    omega

/-- A natural number below a float is rounded to one that is no greater than the float. -/
theorem rounded_le_magnitude {x : Float} (h : n * unitsOfOne ≤ magnitude x) :
  rounded n * unitsOfOne ≤ magnitude x
  := by
  unfold magnitude unitsOfOne at h ⊢
  generalize doublingsOfOne = e at h ⊢
  exact rounded_mul_le (significand_lt x) h

/-- A natural number above a float is rounded to one that is no less than the float. -/
theorem magnitude_le_rounded {x : Float} (h : magnitude x ≤ n * unitsOfOne) :
  magnitude x ≤ rounded n * unitsOfOne
  := by
  unfold magnitude unitsOfOne at h ⊢
  generalize doublingsOfOne = e at h ⊢
  exact le_rounded_mul (significand_lt x) h

theorem mul_unitsOfOne (n : Int) :
  n * unitsOfOne
    = if n < 0 then -((n.natAbs * unitsOfOne : Nat) : Int) else (n.natAbs * unitsOfOne : Nat)
  := by
  split
  · rw [Int.natCast_mul, Int.ofNat_natAbs_of_nonpos (by omega), Int.neg_mul, Int.neg_neg]
  · rw [Int.natCast_mul, Int.natAbs_of_nonneg (by omega)]

theorem roundedInt_mul_unitsOfOne (n : Int) :
  roundedInt n * unitsOfOne
    = if n < 0 then -((rounded n.natAbs * unitsOfOne : Nat) : Int)
      else (rounded n.natAbs * unitsOfOne : Nat)
  := by
  unfold roundedInt
  split
  · rw [Int.natCast_mul, Int.neg_mul]
  · rw [Int.natCast_mul]

/-- Rounding of an integer does not change the order with a float, but may make them equal. -/
theorem roundedInt_keeps_order (n : Int) (x : Float) :
  (n * unitsOfOne ≤ units x → roundedInt n * unitsOfOne ≤ units x)
    ∧ (units x ≤ n * unitsOfOne → units x ≤ roundedInt n * unitsOfOne)
  := by
  have hle := rounded_le_magnitude (n := n.natAbs) (x := x)
  have hge := magnitude_le_rounded (n := n.natAbs) (x := x)
  rw [mul_unitsOfOne, roundedInt_mul_unitsOfOne, units]
  generalize n.natAbs * unitsOfOne = a, rounded n.natAbs * unitsOfOne = b, magnitude x = c at *
  split <;> split <;> omega

end StoryScript.Number
