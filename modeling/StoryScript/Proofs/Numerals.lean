import Mathlib.Data.List.Induction
import Mathlib.Data.List.TakeWhile
import StoryScript.Builtin.Standard
import StoryScript.Proofs.Widening

/-!
# Conversion to integers

The built-in `int` reads a numeral as an integer if that is in range, and else as a float, whose
integer part it then takes.  Main statements: which integer or float a numeral becomes, and that
the conversion of numerals and floats is exact in the range of the integers, but yields the least or
the greatest integer beyond it, up to the numerals that are read as an infinity.
-/

namespace StoryScript.Number

variable {cs ds : List Char} {c : Char} {n : Int}

/-! ### Digits -/

/-- The digits are the characters from `0` to `9`. -/
theorem isDigit_iff :
  isDigit c = true ↔ 48 ≤ c.toNat ∧ c.toNat ≤ 57
  := by
  unfold isDigit
  rw [Bool.and_eq_true, decide_eq_true_eq, decide_eq_true_eq]
  rfl

/-- A digit is no white space. -/
theorem not_isBlank_of_isDigit {c : Char} (h : isDigit c = true) :
  Text.isBlank c = false
  := by
  rw [isDigit_iff] at h
  rw [Bool.eq_false_iff]
  intro hblank
  simp only [Text.isBlank, Bool.or_eq_true, Bool.and_eq_true, decide_eq_true_eq, beq_iff_eq]
    at hblank
  omega

/-- Every digit but `0` has a positive value. -/
theorem digitValue_pos (hc : isDigit c = true) (hzero : c ≠ '0') :
  1 ≤ digitValue c
  := by
  have hvalue : c.toNat ≠ 48 := fun h => hzero (Char.toNat_inj.mp h)
  rw [isDigit_iff] at hc
  change 1 ≤ c.toNat - 48
  omega

/-- A digit after others makes ten times their number and its value. -/
theorem ofDigits_concat (ds : List Char) (c : Char) :
  ofDigits (ds ++ [c]) = 10 * ofDigits ds + digitValue c
  := by
  unfold ofDigits
  rw [List.foldl_append]
  rfl

/-- A digit before others counts for as many powers of ten as there are others. -/
theorem ofDigits_cons (c : Char) (ds : List Char) :
  ofDigits (c :: ds) = digitValue c * 10 ^ ds.length + ofDigits ds
  := by
  induction ds using List.reverseRecOn with
  | nil => simp [ofDigits]
  | append_singleton ds d ih =>
    rw [← List.cons_append, ofDigits_concat, ofDigits_concat, ih, List.length_append,
      List.length_singleton, pow_succ, ← mul_assoc]
    omega

/-- Digits are read exactly below the bound, and up to the bound beyond it. -/
theorem ofDigitsUpTo_spec (bound : Nat) (ds : List Char) :
  (ofDigits ds < bound → ofDigitsUpTo bound ds = ofDigits ds)
    ∧ (bound ≤ ofDigits ds → bound ≤ ofDigitsUpTo bound ds)
  := by
  induction ds using List.reverseRecOn with
  | nil => simp [ofDigits, ofDigitsUpTo]
  | append_singleton ds d ih =>
    have hstep : ofDigitsUpTo bound (ds ++ [d])
        = if ofDigitsUpTo bound ds < bound then 10 * ofDigitsUpTo bound ds + digitValue d
          else ofDigitsUpTo bound ds := by
      unfold ofDigitsUpTo
      rw [List.foldl_append]
      rfl
    obtain ⟨hexact, hbeyond⟩ := ih
    rw [hstep, ofDigits_concat]
    obtain hlt | hge := lt_or_ge (ofDigits ds) bound
    · rw [hexact hlt, if_pos hlt]
      exact ⟨fun _ => rfl, id⟩
    · rw [if_neg (hbeyond hge).not_gt]
      exact ⟨by omega, fun _ => hbeyond hge⟩

/-- Zeros in front do not matter. -/
theorem ofDigits_dropWhile (ds : List Char) :
  ofDigits (ds.dropWhile (· == '0')) = ofDigits ds
  := by
  induction ds with
  | nil => rfl
  | cons c ds ih =>
    rw [List.dropWhile_cons]
    split
    · next hzero =>
      rw [beq_iff_eq.mp hzero, ih, ofDigits_cons, show digitValue '0' = 0 from rfl, zero_mul,
        zero_add]
    · rfl

/-- A number whose numeral does not start with zero has as many digits as the numeral. -/
theorem le_ofDigits (hc : isDigit c = true) (hzero : c ≠ '0') (ds : List Char) :
  10 ^ ds.length ≤ ofDigits (c :: ds)
  := by
  rw [ofDigits_cons]
  exact (Nat.le_mul_of_pos_left _ (digitValue_pos hc hzero)).trans (Nat.le_add_right _ _)

/-! ### Signs -/

/-- A sign does not change the magnitude. -/
theorem natAbs_withSign (negative : Bool) (m : Nat) :
  (withSign negative m).natAbs = m
  := by
  cases negative <;> simp [withSign]

/-- A number with a sign other than zero is negative exactly if the sign is. -/
theorem withSign_neg_iff {negative : Bool} {m : Nat} (h : withSign negative m ≠ 0) :
  withSign negative m < 0 ↔ negative = true
  := by
  unfold withSign at *
  cases negative
  · simp
  · simp at *
    omega

/-! ### Numerals -/

/-- `Denotes cs n` says that `cs` is a decimal numeral of `n`: at least one digit, with or without
a sign. -/
inductive Denotes : List Char → Int → Prop where
  | plain {ds : List Char} (hne : ds ≠ []) (hds : ds.all isDigit = true) :
    Denotes ds (ofDigits ds)
  | plus {ds : List Char} (hne : ds ≠ []) (hds : ds.all isDigit = true) :
    Denotes ('+' :: ds) (ofDigits ds)
  | minus {ds : List Char} (hne : ds ≠ []) (hds : ds.all isDigit = true) :
    Denotes ('-' :: ds) (-(ofDigits ds : Int))

/-- A numeral is a sign, or none, and digits. -/
theorem Denotes.split (h : Denotes cs n) :
  ∃ negative ds, splitSign cs = (negative, ds) ∧ ds ≠ [] ∧ ds.all isDigit = true
    ∧ n = withSign negative (ofDigits ds)
  := by
  cases h with
  | plain hne hds =>
    refine ⟨false, cs, ?_, hne, hds, rfl⟩
    unfold splitSign
    split
    · cases hds
    · cases hds
    · rfl
  | @plus ds hne hds => exact ⟨false, ds, rfl, hne, hds, rfl⟩
  | @minus ds hne hds => exact ⟨true, ds, rfl, hne, hds, rfl⟩

/-- A numeral is read as the integer that it denotes, if that is in range. -/
theorem readWhole?_eq (h : Denotes cs n) :
  readWhole? cs = Whole.ofInt? n
  := by
  obtain ⟨negative, ds, hsplit, hne, hds, rfl⟩ := h.split
  obtain ⟨hexact, hbeyond⟩ := ofDigitsUpTo_spec wholeBound ds
  have hempty : (ds.isEmpty || !ds.all isDigit) = false := by
    rw [hds, List.isEmpty_eq_false_iff.mpr hne]
    rfl
  unfold readWhole?
  rw [hsplit]
  dsimp only
  rw [if_neg (ne_true_of_eq_false hempty)]
  obtain hlt | hge := lt_or_ge (ofDigits ds) wholeBound
  · rw [hexact hlt]
  · -- both numbers are so large that they are out of range
    have hlarge := hbeyond hge
    have hbound : wholeBound = 18446744073709551616 := rfl
    rw [Whole.ofInt?_eq_none_iff.mpr, Whole.ofInt?_eq_none_iff.mpr] <;>
      unfold withSign Whole.least Whole.greatest <;> split <;> omega

/-! ### Numerals as floats -/

theorem toLower_digit (hc : isDigit c = true) :
  c.toLower = c
  := by
  have hle := (isDigit_iff.mp hc).2
  unfold Char.toLower
  split
  · next hcapital =>
    have hge : 65 ≤ c.toNat := UInt32.le_iff_toNat_le.mp hcapital.1
    omega
  · rfl

/-- Digits are no word. -/
theorem ofList_toLower_ne (hds : ds.all isDigit = true) (word : String)
    (hword : word.toList.all isDigit = false) :
  String.ofList (ds.map Char.toLower) ≠ word
  := by
  have hlower : ds.map Char.toLower = ds := by
    conv_rhs => rw [← List.map_id ds]
    apply List.map_congr_left
    intro c hc
    exact toLower_digit (List.all_eq_true.mp hds c hc)
  rintro rfl
  rw [hlower, String.toList_ofList, hds] at hword
  contradiction

/-- Digits are read as the float nearest to their number. -/
theorem readDecimal?_eq (hne : ds ≠ []) (hds : ds.all isDigit = true) :
  readDecimal? ds = some (ofDecimal ds 0)
  := by
  have htake : ds.takeWhile isDigit = ds :=
    List.takeWhile_eq_self_iff.mpr (List.all_eq_true.mp hds)
  have hdrop : ds.dropWhile isDigit = [] :=
    List.dropWhile_eq_nil_iff.mpr (List.all_eq_true.mp hds)
  unfold readDecimal?
  rw [htake, hdrop]
  simp [hne, readTail?]

/-- A magnitude of digits is read as the float nearest to their number. -/
theorem readMagnitude?_eq (hne : ds ≠ []) (hds : ds.all isDigit = true) :
  readMagnitude? ds = some (ofDecimal ds 0)
  := by
  have hinf := ofList_toLower_ne hds "inf" (by decide)
  have hinfinity := ofList_toLower_ne hds "infinity" (by decide)
  have hnan := ofList_toLower_ne hds "nan" (by decide)
  unfold readMagnitude?
  simp only [hinf, hinfinity, hnan, decide_false, Bool.or_self, Bool.false_eq_true, if_false]
  exact readDecimal?_eq hne hds

/-- A number with more than three hundred and eleven digits is beyond all finite floats. -/
theorem widened_infinity {m k : Nat} (hk : 311 ≤ k) (h : 10 ^ k ≤ m) :
  Widened m (Float.ofBits 0x7ff0000000000000)
  := by
  have hfields : Fields (Float.ofBits 0x7ff0000000000000) false 2047 0 := by
    constructor <;> decide +kernel
  -- under a name, so that the power of ten is not evaluated when the inequalities are composed
  obtain ⟨e, he⟩ : ∃ e, e = 311 := ⟨_, rfl⟩
  have hpowers : 2 ^ finiteDigits ≤ 10 ^ e := by
    rw [he]
    decide +kernel
  have hlarge : 10 ^ e ≤ 10 ^ k := Nat.pow_le_pow_right (by decide) (he.trans_le hk)
  exact .infinite hfields (twoPow_le_rounded (hpowers.trans (hlarge.trans h)))

/-- Digits are read as the float of the number that they denote. -/
theorem widened_ofDecimal (hds : ds.all isDigit = true) :
  Widened (ofDigits ds) (ofDecimal ds 0)
  := by
  have hdigits : ∀ c ∈ ds.dropWhile (· == '0'), isDigit c = true := fun c hc =>
    List.all_eq_true.mp hds c (List.dropWhile_subset _ hc)
  have hhead := List.head?_dropWhile_not (· == '0') ds
  rw [← ofDigits_dropWhile]
  unfold ofDecimal
  dsimp only
  generalize ds.dropWhile (· == '0') = kept at *
  cases kept with
  | nil =>
    apply widened_zero
    constructor <;> decide +kernel
  | cons c kept =>
    have hc : isDigit c = true := hdigits c List.mem_cons_self
    have hne : c ≠ '0' := ne_of_beq_false hhead
    rw [if_neg (by simp; omega)]
    split
    · next hlong =>
      have hlength : 311 ≤ kept.length := by
        rw [List.length_cons] at hlong
        omega
      exact widened_infinity hlength (le_ofDigits hc hne kept)
    · have hall : (c :: kept).length ≤ digitLimit := by
        unfold digitLimit
        omega
      have hshift : (0 : Int) + (c :: kept).length - (c :: kept).length = 0 := by omega
      rw [List.drop_eq_nil_of_le hall, List.take_of_length_le hall, List.all_nil, if_pos rfl,
        List.append_nil, hshift]
      exact widened_ofNat _

/-- A numeral is read as the float of its absolute value, with its sign. -/
theorem readFloat?_eq (h : Denotes cs n) :
  ∃ negative m x, readFloat? cs = some (if negative then -x else x)
    ∧ n = withSign negative m ∧ Widened m x
  := by
  obtain ⟨negative, ds, hsplit, hne, hds, rfl⟩ := h.split
  refine ⟨negative, ofDigits ds, ofDecimal ds 0, ?_, rfl, widened_ofDecimal hds⟩
  unfold readFloat?
  rw [hsplit]
  dsimp only
  rw [readMagnitude?_eq hne hds]
  rfl

/-- What a float that stands for a natural number keeps when a sign is put before it. -/
theorem Widened.signed {m : Nat} {x : Float} (h : Widened m x) (negative : Bool) :
  Number.isNaN (if negative then -x else x) = false
    ∧ (isFinite (if negative then -x else x) = true ↔ rounded m < 2 ^ finiteDigits)
    ∧ Number.isNegative (if negative then -x else x) = negative
    ∧ (rounded m < 2 ^ finiteDigits →
      Number.units (if negative then -x else x) = withSign negative (rounded m) * unitsOfOne)
  := by
  cases negative with
  | false => exact ⟨h.isNaN, h.isFinite_iff, h.isNegative, h.units⟩
  | true =>
    simp only [if_true]
    refine ⟨isNaN_neg h.isNaN, ?_, ?_, ?_⟩
    · rw [isFinite_neg h.isNaN, h.isFinite_iff]
    · rw [(fields_neg h.isNaN).isNegative, h.isNegative, Bool.not_false]
    · intro hlt
      rw [units_neg h.isNaN, h.units hlt, withSign, if_pos rfl, Int.neg_mul]

/-! ### The integer part -/

/-- The integer is the float without its fraction. -/
structure TruncatesTo (x : Float) (n : Int) : Prop where
  le : n.natAbs * unitsOfOne ≤ magnitude x
  lt : magnitude x < (n.natAbs + 1) * unitsOfOne
  sign : n ≠ 0 → (n < 0 ↔ isNegative x = true)

/-- The integer part of a float is the quotient of its magnitude, with the sign of the float. -/
theorem trunc_eq (x : Float) :
  trunc x = withSign (isNegative x) (magnitude x / unitsOfOne)
  := by
  unfold trunc units withSign
  split
  · rw [Int.neg_tdiv, ← Int.ofNat_tdiv]
  · rw [← Int.ofNat_tdiv]

/-- The integer part is the nearest integer on the side of zero. -/
theorem truncatesTo_trunc (x : Float) :
  TruncatesTo x (trunc x)
  := by
  rw [trunc_eq]
  constructor
  · rw [natAbs_withSign]
    exact Nat.div_mul_le_self _ _
  · rw [natAbs_withSign, mul_comm]
    exact Nat.lt_mul_div_succ _ unitsOfOne_pos
  · exact withSign_neg_iff

/-- A float that is an integer is its own integer part. -/
theorem trunc_of_units {x : Float} (h : units x = n * unitsOfOne) :
  trunc x = n
  := by
  rw [trunc, h, Int.mul_tdiv_cancel _ zero_lt_unitsOfOne.ne']

end StoryScript.Number

namespace StoryScript

open Number

namespace Whole

/-- Clamping leaves exactly the integers in range. -/
theorem toInt_clamp_eq_iff (n : Int) :
  (clamp n).toInt = n ↔ least ≤ n ∧ n ≤ greatest
  := by
  rw [toInt_clamp]
  unfold least greatest
  omega

theorem clamp_toInt (a : Whole) :
  clamp a.toInt = a
  := by
  have hlower := a.least_le_toInt
  have hupper := a.toInt_le_greatest
  rw [clamp, min_eq_left hupper, max_eq_right hlower, Int64.ofInt_toInt]

end Whole

namespace Standard

variable {x : Float} {n : Int}

theorem int_one (v : Value) :
  Standard.int [v] = toInt v
  := rfl

/-- A finite float is converted to its integer part, clamped to the range. -/
theorem int_float (hx : isFinite x = true) :
  Standard.int [.float x] = .ok (.int (Whole.clamp (trunc x)))
  := by
  rw [int_one, toInt, truncate, if_pos hx]

/-- A finite float that is an integer is converted to it, clamped to the range. -/
theorem truncate_finite (hx : isFinite x = true) (h : units x = n * unitsOfOne) :
  truncate x = .ok (.int (Whole.clamp n))
  := by
  rw [truncate, if_pos hx, trunc_of_units h]

/-- An infinite float is not converted, and the error names it. -/
theorem truncate_infinite (hnumber : isNaN x = false) (hx : isFinite x = false) :
  truncate x = .error (.invalid
    ("cannot convert " ++ (if isNegative x then "-inf" else "inf") ++ " to int"))
  := by
  have hrender : render .plain x = if isNegative x then "-inf" else "inf" := by
    unfold render
    rw [hnumber, hx]
    cases isNegative x <;> rfl
  rw [truncate, if_neg (ne_true_of_eq_false hx), hrender]

/-- The integer part of a float that stands for a natural number, with a sign before it. -/
theorem truncate_signed {m : Nat} (h : Widened m x) (negative : Bool) :
  truncate (if negative then -x else x)
    = if rounded m < 2 ^ finiteDigits then .ok (.int (Whole.clamp (withSign negative (rounded m))))
      else .error (.invalid
        ("cannot convert " ++ (if negative then "-inf" else "inf") ++ " to int"))
  := by
  obtain ⟨hnumber, hfinite, hnegative, hunits⟩ := h.signed negative
  generalize (if negative then -x else x) = y at *
  split
  · next hlt => exact truncate_finite (hfinite.mpr hlt) (hunits hlt)
  · next hge =>
    have hinfinite := Bool.eq_false_iff.mpr (hfinite.not.mpr hge)
    rw [truncate_infinite hnumber hinfinite, hnegative]

/-- Out of the range of the integers rounding makes no difference to the nearest one. -/
theorem clamp_rounded {m : Nat} {negative : Bool} (h : Whole.ofInt? (withSign negative m) = none) :
  Whole.clamp (withSign negative (rounded m)) = Whole.clamp (withSign negative m)
  := by
  have hbeyond := Whole.ofInt?_eq_none_iff.mp h
  have hlarge : 2 ^ 63 ≤ m := by
    unfold withSign Whole.least Whole.greatest at hbeyond
    split at hbeyond <;> omega
  have hrounded := twoPow_le_rounded hlarge
  unfold Whole.clamp
  congr 1
  unfold withSign Whole.least Whole.greatest
  split <;> omega

/-- A numeral is converted to its integer, clamped to the range, unless its float is infinite. -/
theorem int_numeral {s : String} (h : Denotes (Text.trim s.toList) n) :
  Standard.int [.str s]
    = if rounded n.natAbs < 2 ^ finiteDigits then .ok (.int (Whole.clamp n))
      else .error (.invalid ("cannot convert " ++ (if n < 0 then "-inf" else "inf") ++ " to int"))
  := by
  have hwhole := readWhole?_eq h
  rw [int_one]
  cases hrange : Whole.ofInt? n with
  | some a =>
    rw [hrange] at hwhole
    obtain rfl := Whole.ofInt?_eq_some_iff.mp hrange
    rw [if_pos (rounded_whole_lt a), Whole.clamp_toInt]
    simp only [toInt, readNumber, hwhole]
    rfl
  | none =>
    rw [hrange] at hwhole
    obtain ⟨negative, m, x, hread, rfl, hwidened⟩ := readFloat?_eq h
    have hfloat : toInt (.str s) = truncate (if negative then -x else x) := by
      simp only [toInt, readNumber, hwhole, hread]
      rfl
    rw [hfloat, truncate_signed hwidened negative, natAbs_withSign]
    split
    · rw [clamp_rounded hrange]
    · next hge =>
      have hne : withSign negative m ≠ 0 := by
        intro hzero
        rw [hzero] at hrange
        cases hrange
      simp only [withSign_neg_iff hne]

/-- The conversion of a numeral yields the nearest integer that is in range, unless the numeral is
so large that it is read as an infinity; that of a finite float yields the nearest integer in range
to its integer part.  So no wrong integer is returned just when the number asked for is in range, or
the numeral is that large. -/
theorem int_is_exact_in_range {s : String} (hs : Denotes (Text.trim s.toList) n)
    (hx : isFinite x = true) :
  (Standard.int [.str s]
      = if n.natAbs < infiniteFrom then .ok (.int (Whole.clamp n))
        else .error (.invalid
          ("cannot convert " ++ (if n < 0 then "-inf" else "inf") ++ " to int")))
    ∧ ((∀ k, Standard.int [.str s] = .ok (.int k) → k.toInt = n)
      ↔ Whole.least ≤ n ∧ n ≤ Whole.greatest ∨ infiniteFrom ≤ n.natAbs)
    ∧ TruncatesTo x (trunc x)
    ∧ Standard.int [.float x] = .ok (.int (Whole.clamp (trunc x)))
    ∧ ((∀ k, Standard.int [.float x] = .ok (.int k) → k.toInt = trunc x)
      ↔ Whole.least ≤ trunc x ∧ trunc x ≤ Whole.greatest)
  := by
  have hstr := int_numeral hs
  have hfloat := int_float hx
  simp only [rounded_lt_iff] at hstr
  refine ⟨hstr, ?str, truncatesTo_trunc x, hfloat, ?float⟩
  case str =>
    rw [hstr, ← Whole.toInt_clamp_eq_iff]
    split
    · next hlt => simp [Nat.not_le.mpr hlt]
    · next hge => simp [Nat.not_lt.mp hge]
  case float =>
    rw [hfloat, ← Whole.toInt_clamp_eq_iff]
    simp

/-- A numeral and a float in range. -/
theorem int_of_small_numbers :
  Standard.int [.str " -042 "] = .ok (.int (-42))
    ∧ Standard.int [.float (Float.ofBits 0xc004000000000000)] = .ok (.int (-2))
  := by
  have hdenotes : Denotes (Text.trim " -042 ".toList) (-42) :=
    Denotes.minus (List.cons_ne_nil '0' ['4', '2']) rfl
  have hfinite : isFinite (Float.ofBits 0xc004000000000000) = true := by decide +kernel
  have htrunc : trunc (Float.ofBits 0xc004000000000000) = -2 := by decide +kernel
  obtain ⟨hstr, -, -, hfloat, -⟩ := int_is_exact_in_range hdenotes hfinite
  rw [hstr, if_pos (by decide +kernel), hfloat, htrunc]
  exact ⟨rfl, rfl⟩

/-- The numeral and the float are `2 ^ 63`, which is out of range. -/
theorem int_of_large_numbers :
  Denotes (Text.trim "9223372036854775808".toList) 9223372036854775808
    ∧ Standard.int [.str "9223372036854775808"] = .ok (.int 9223372036854775807)
    ∧ TruncatesTo (Float.ofBits 0x43e0000000000000) 9223372036854775808
    ∧ Standard.int [.float (Float.ofBits 0x43e0000000000000)] = .ok (.int 9223372036854775807)
  := by
  have hvalue : (9223372036854775808 : Int)
      = ofDigits (Text.trim "9223372036854775808".toList) := by decide +kernel
  have hdenotes : Denotes (Text.trim "9223372036854775808".toList) 9223372036854775808 := by
    rw [hvalue]
    exact .plain (by decide +kernel) (by decide +kernel)
  have htrunc : trunc (Float.ofBits 0x43e0000000000000) = 9223372036854775808 := by
    decide +kernel
  have hclamp : Whole.clamp 9223372036854775808 = 9223372036854775807 := by decide +kernel
  refine ⟨hdenotes, ?_, htrunc ▸ truncatesTo_trunc _, ?_⟩
  · rw [int_numeral hdenotes, if_pos (by decide +kernel), hclamp]
  · rw [int_float (by decide +kernel), htrunc, hclamp]

end Standard

end StoryScript
