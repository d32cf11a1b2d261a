import Mathlib.Algebra.Order.Ring.Nat
import Mathlib.Data.Nat.Log
import StoryScript.Number.Units

/-!
# The fields of a float

The bits of a float are a sign, an exponent and a fraction.  `Fields x negative e f` says that
these are the ones of `x`.  Main statements: the fields of the floats that the logical model of
floating-point arithmetic makes, how that model reads the fields of a float, and that negation
changes nothing but the sign.
-/

namespace StoryScript.Number

open Float.Model Float.Model.UnpackedFloat

/-- The three parts of the bits of a float. -/
structure Fields (x : Float) (negative : Bool) (e f : Nat) : Prop where
  isNegative : isNegative x = negative
  exponentField : exponentField x = e
  fractionField : fractionField x = f

variable {x : Float} {negative : Bool} {e f d : Nat}

/-- Every float has the fields that are read off its bits. -/
theorem fields_self (x : Float) :
  Fields x (isNegative x) (exponentField x) (fractionField x)
  := ⟨rfl, rfl, rfl⟩

/-! ### Bits -/

/-- The sign is the highest bit. -/
theorem isNegative_eq (x : Float) :
  isNegative x = (x.toBits.toNat / 2 ^ 63 == 1)
  := by
  unfold isNegative
  rw [Bool.eq_iff_iff, beq_iff_eq, beq_iff_eq, ← UInt64.toNat_inj]
  rfl

/-- The exponent is the eleven bits after the sign. -/
theorem exponentField_eq (x : Float) :
  exponentField x = x.toBits.toNat / 2 ^ 52 % 2 ^ 11
  := rfl

/-- The fraction is the lowest fifty-two bits. -/
theorem fractionField_eq (x : Float) :
  fractionField x = x.toBits.toNat % 2 ^ 52
  := rfl

theorem exponentField_lt (x : Float) :
  exponentField x < 2 ^ 11
  := by
  rw [exponentField_eq]
  exact Nat.mod_lt _ (Nat.two_pow_pos 11)

theorem fractionField_lt (x : Float) :
  fractionField x < 2 ^ 52
  := by
  rw [fractionField_eq]
  exact Nat.mod_lt _ (Nat.two_pow_pos 52)

/-! ### What the fields tell -/

namespace Fields

/-- The greatest exponent is that of the special floats. -/
theorem isFinite (h : Fields x negative e f) :
  Number.isFinite x = (e != 2047)
  := by
  rw [Number.isFinite, h.exponentField]

/-- A float is NaN if it has the greatest exponent and a fraction. -/
theorem isNaN (h : Fields x negative e f) :
  Number.isNaN x = (e == 2047 && f != 0)
  := by
  rw [Number.isNaN, h.exponentField, h.fractionField]

/-- The magnitude is the fraction, with the leading digit if the float is normal, doubled by the
exponent. -/
theorem magnitude (h : Fields x negative e f) :
  Number.magnitude x = (if e = 0 then f else exponentWeight + f) * Nat.pow 2 (e - 1)
  := by
  rw [Number.magnitude, significand, doublings, h.exponentField, h.fractionField]

end Fields

/-! ### Packing -/

/-- The sign of the float model. -/
def sign (negative : Bool) : Sign := if negative then .negative else .positive

/-- The negation of an infinity is the other one. -/
theorem neg_infinity (negative : Bool) :
  (UnpackedFloat.infinity (sign negative)).neg = .infinity (sign (!negative))
  := by
  cases negative <;> rfl

/-- The negation of a zero is the other one. -/
theorem neg_zero (negative : Bool) :
  (UnpackedFloat.zero (sign negative)).neg = .zero (sign (!negative))
  := by
  cases negative <;> rfl

/-- The negation of a finite float has the other sign. -/
theorem neg_finite (negative : Bool) (m : Nat) (e : Int) (h : 0 < m) :
  (UnpackedFloat.finite (sign negative) m e h).neg = .finite (sign (!negative)) m e h
  := by
  cases negative <;> rfl

/-- The number `2 ^ 52 + f`, doubled `d` times, as a multiple of `2 ^ (-1074)`. -/
def normal (negative : Bool) (d f : Nat) : UnpackedFloat :=
  .finite (sign negative) (2 ^ 52 + f) (d - 1074) (Nat.add_pos_left (Nat.two_pow_pos 52) f)

/-- The negation of a normal float has the other sign. -/
theorem neg_normal (negative : Bool) (d f : Nat) :
  (normal negative d f).neg = normal (!negative) d f
  := neg_finite negative _ _ _

/-- The bits of the three fields are put one after the other. -/
theorem toNat_packComponents (negative : Bool) (e : BitVec 11) (f : BitVec 52) :
  (packComponents .binary64 (sign negative) e f).toNat
    = negative.toNat * 2 ^ 63 + e.toNat * 2 ^ 52 + f.toNat
  := by
  have hsign : (sign negative).toBitVec.toNat = negative.toNat := by cases negative <;> rfl
  unfold packComponents
  rw [BitVec.toNat_append, BitVec.toNat_append, ← Nat.shiftLeft_add_eq_or_of_lt f.isLt,
    ← Nat.shiftLeft_add_eq_or_of_lt e.isLt, Nat.shiftLeft_eq, Nat.shiftLeft_eq, hsign]
  omega

namespace Fields

/-- A float that is packed from three fields has these fields. -/
theorem ofComponents {u : UnpackedFloat} {e : BitVec 11} {f : BitVec 52}
    (h : UnpackedFloat.pack .binary64 u = packComponents .binary64 (sign negative) e f) :
  Fields (.ofModel (.pack u)) negative e.toNat f.toNat
  := by
  have hbits : (Float.ofModel (.pack u)).toBits.toNat
      = negative.toNat * 2 ^ 63 + e.toNat * 2 ^ 52 + f.toNat := by
    rw [← toNat_packComponents, ← h]
    rfl
  have he := e.isLt
  have hf := f.isLt
  constructor
  · rw [isNegative_eq, hbits, Bool.eq_iff_iff, beq_iff_eq]
    cases negative <;> simp <;> omega
  · rw [exponentField_eq, hbits]
    omega
  · rw [fractionField_eq, hbits]
    omega

/-- An infinity has the greatest exponent and no fraction. -/
theorem ofInfinity (negative : Bool) :
  Fields (.ofModel (.pack (.infinity (sign negative)))) negative 2047 0
  := by
  exact ofComponents (e := -1#11) (f := 0#52) rfl

/-- A zero has no exponent and no fraction. -/
theorem ofZero (negative : Bool) :
  Fields (.ofModel (.pack (.zero (sign negative)))) negative 0 0
  := by
  exact ofComponents (e := 0#11) (f := 0#52) rfl

/-- A subnormal float has no exponent, and its significand is its fraction. -/
theorem ofSubnormal (hf : 0 < f) (hlt : f < 2 ^ 52) :
  Fields (.ofModel (.pack (.finite (sign negative) f (-1074) hf))) negative 0 f
  := by
  have hdigits : ¬ f.log2 + 1 = Format.binary64.mantissaBits := by
    have hlog := (Nat.log2_lt hf.ne').mpr hlt
    change ¬ f.log2 + 1 = 53
    omega
  have hpack : UnpackedFloat.pack .binary64 (.finite (sign negative) f (-1074) hf)
      = packComponents .binary64 (sign negative) 0#11 (BitVec.ofNat 52 f) := by
    unfold UnpackedFloat.pack
    dsimp only
    rw [if_neg (by decide), if_neg hdigits]
  have hfields := ofComponents hpack
  rwa [BitVec.toNat_ofNat, BitVec.toNat_ofNat, Nat.mod_eq_of_lt hlt] at hfields

/-- The exponent that the float model packs. -/
theorem biased_eq (d : Nat) :
  ((d : Int) - 1074 + Format.binary64.exponentBias + (52 : Nat)).toNat = d + 1
  := by
  rw [show Format.binary64.exponentBias = 1023 from rfl]
  omega

/-- A normal float has its exponent and the fraction after the leading digit. -/
theorem ofNormal (hf : f < 2 ^ 52) (hd : d < 2046) :
  Fields (.ofModel (.pack (normal negative d f))) negative (d + 1) f
  := by
  have hdigits : (2 ^ 52 + f).log2 + 1 = Format.binary64.mantissaBits := by
    rw [(Nat.log2_eq_iff (by omega)).mpr ⟨Nat.le_add_right _ f, by omega⟩]
    rfl
  have hpack : UnpackedFloat.pack .binary64 (normal negative d f)
      = packComponents .binary64 (sign negative) (BitVec.ofNat 11 (d + 1))
        (BitVec.ofNat 52 (2 ^ 52 + f)) := by
    unfold normal UnpackedFloat.pack
    dsimp only
    rw [biased_eq, if_neg (by omega), if_pos hdigits]
  have hfields := ofComponents hpack
  rwa [BitVec.toNat_ofNat, BitVec.toNat_ofNat, Nat.mod_eq_of_lt (by omega), Nat.add_mod_left,
    Nat.mod_eq_of_lt hf] at hfields

/-- A number that is too large is packed as an infinity. -/
theorem ofLarge (hd : 2046 ≤ d) :
  Fields (.ofModel (.pack (normal negative d f))) negative 2047 0
  := by
  apply ofComponents (e := -1#11) (f := 0#52)
  unfold normal UnpackedFloat.pack
  dsimp only
  rw [biased_eq, if_pos (by omega)]
  rfl

end Fields

/-! ### Unpacking -/

/-- The mantissa that is unpacked is the fraction. -/
theorem toNat_unpackMantissa (x : Float) :
  (@unpackMantissa .binary64 x.toBits.toBitVec).toNat = fractionField x
  := by
  unfold unpackMantissa
  rw [BitVec.toNat_cast, BitVec.extractLsb_toNat, Nat.shiftRight_zero]
  rfl

/-- The exponent that is unpacked is the exponent field. -/
theorem toNat_unpackExponent (x : Float) :
  (@unpackExponent .binary64 x.toBits.toBitVec).toNat = exponentField x
  := by
  unfold unpackExponent
  rw [BitVec.toNat_cast, BitVec.extractLsb_toNat, Nat.shiftRight_eq_div_pow]
  rfl

/-- The sign that is unpacked is that of the float. -/
theorem ofBitVec_unpackSign (x : Float) :
  Sign.ofBitVec (@unpackSign .binary64 x.toBits.toBitVec) = sign (isNegative x)
  := by
  have hbit : (@unpackSign .binary64 x.toBits.toBitVec).toNat
      = x.toBits.toNat / 2 ^ 63 := by
    have hlt := x.toBits.toNat_lt
    unfold unpackSign
    rw [BitVec.toNat_cast, BitVec.extractLsb_toNat, Nat.shiftRight_eq_div_pow]
    change x.toBits.toNat / 2 ^ 63 % 2 = _
    omega
  rw [isNegative_eq, ← hbit]
  generalize @unpackSign .binary64 x.toBits.toBitVec = b
  obtain rfl | rfl := BitVec.eq_zero_or_eq_one b <;> rfl

theorem finite_congr {s : Sign} {m m' : Nat} {e e' : Int} {h : 0 < m} {h' : 0 < m'} (hm : m = m')
    (he : e = e') :
  UnpackedFloat.finite s m e h = .finite s m' e' h'
  := by
  subst hm he
  rfl

/-- The float model reads the same fields. -/
theorem unpack_eq (x : Float) :
  x.toModel.unpack
    = if exponentField x = 2047 then
        if fractionField x = 0 then .infinity (sign (isNegative x)) else .notANumber
      else if exponentField x = 0 then
        if h : fractionField x = 0 then .zero (sign (isNegative x))
        else .finite (sign (isNegative x)) (fractionField x) (-1074) (Nat.pos_of_ne_zero h)
      else normal (isNegative x) (doublings x) (fractionField x)
  := by
  have hones : @unpackExponent .binary64 x.toBits.toBitVec = -1#11 ↔ exponentField x = 2047 := by
    rw [← BitVec.toNat_inj, toNat_unpackExponent]
    rfl
  have hzeros : @unpackExponent .binary64 x.toBits.toBitVec = 0#11 ↔ exponentField x = 0 := by
    rw [← BitVec.toNat_inj, toNat_unpackExponent]
    rfl
  have hnone : @unpackMantissa .binary64 x.toBits.toBitVec = 0#52 ↔ fractionField x = 0 := by
    rw [← BitVec.toNat_inj, toNat_unpackMantissa]
    rfl
  have hdigits : (1#1 ++ @unpackMantissa .binary64 x.toBits.toBitVec).toNat
      = 2 ^ 52 + fractionField x := by
    rw [BitVec.toNat_append, ← Nat.shiftLeft_add_eq_or_of_lt (BitVec.isLt _), toNat_unpackMantissa]
    rfl
  change UnpackedFloat.unpack .binary64 x.toBits.toBitVec = _
  unfold UnpackedFloat.unpack
  dsimp only
  rw [ofBitVec_unpackSign, toNat_unpackExponent]
  by_cases hspecial : exponentField x = 2047
  · rw [if_pos (hones.mpr hspecial), if_pos hspecial]
    by_cases hinfinite : fractionField x = 0
    · rw [if_pos (hnone.mpr hinfinite), if_pos hinfinite]
    · rw [if_neg (hnone.not.mpr hinfinite), if_neg hinfinite]
  · rw [if_neg (hones.not.mpr hspecial), if_neg hspecial]
    by_cases hsmall : exponentField x = 0
    · rw [if_pos (hzeros.mpr hsmall), if_pos hsmall]
      by_cases hzero : fractionField x = 0
      · rw [dif_pos (hnone.mpr hzero), dif_pos hzero]
      · rw [dif_neg (hnone.not.mpr hzero), dif_neg hzero, hsmall]
        exact finite_congr (toNat_unpackMantissa x) rfl
    · rw [if_neg (hzeros.not.mpr hsmall), if_neg hsmall]
      apply finite_congr hdigits
      change (exponentField x : Int) - (1023 + 52) = (exponentField x - 1 : Nat) - 1074
      omega

/-- A float with the fields of a normal one is unpacked to it. -/
theorem Fields.unpack (h : Fields x negative (d + 1) f) (hd : d < 2046) :
  x.toModel.unpack = normal negative d f
  := by
  obtain ⟨rfl, hexponent, rfl⟩ := h
  have hdoublings : doublings x = d := by rw [doublings, hexponent, Nat.add_sub_cancel]
  rw [unpack_eq, if_neg (by omega), if_neg (by omega), hdoublings]

/-! ### Negation -/

/-- Negation changes nothing but the sign. -/
theorem fields_neg (hx : isNaN x = false) :
  Fields (-x) (!isNegative x) (exponentField x) (fractionField x)
  := by
  change Fields (.ofModel (.pack x.toModel.unpack.neg)) _ _ _
  have hexponent := exponentField_lt x
  rw [unpack_eq]
  by_cases hspecial : exponentField x = 2047
  · have hinfinite : fractionField x = 0 := by simpa [isNaN, hspecial] using hx
    rw [if_pos hspecial, if_pos hinfinite, neg_infinity, hspecial, hinfinite]
    exact .ofInfinity _
  · rw [if_neg hspecial]
    by_cases hsmall : exponentField x = 0
    · rw [if_pos hsmall, hsmall]
      by_cases hzero : fractionField x = 0
      · rw [dif_pos hzero, neg_zero, hzero]
        exact .ofZero _
      · rw [dif_neg hzero, neg_finite]
        exact .ofSubnormal _ (fractionField_lt x)
    · have hdoublings : doublings x + 1 = exponentField x := by
        unfold doublings
        omega
      rw [if_neg hsmall, neg_normal, ← hdoublings]
      exact .ofNormal (fractionField_lt x) (by omega)

variable (hx : isNaN x = false)
include hx

/-- A negated float is finite if the float is. -/
theorem isFinite_neg :
  isFinite (-x) = isFinite x
  := by
  rw [(fields_neg hx).isFinite, (fields_self x).isFinite]

/-- A negated float is a number if the float is. -/
theorem isNaN_neg :
  isNaN (-x) = false
  := by
  rw [(fields_neg hx).isNaN, ← hx, (fields_self x).isNaN]

/-- The negation of a float is the opposite multiple. -/
theorem units_neg :
  units (-x) = -units x
  := by
  have hmagnitude : magnitude (-x) = magnitude x := by
    rw [(fields_neg hx).magnitude, (fields_self x).magnitude]
  unfold units
  rw [(fields_neg hx).isNegative, hmagnitude]
  cases isNegative x <;> simp

end StoryScript.Number
