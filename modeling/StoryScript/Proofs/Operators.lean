import StoryScript.Proofs.Equality
import StoryScript.Proofs.Widening
import StoryScript.Value.Operators

/-!
# What the operators tell, and how they fail

The operators fail in three ways only: the values do not fit, the divisor is zero, or an integer
result is out of range.  Main statement: when each operator fails in which way, that the arithmetic
of integers is exact, and of which kind the other results are.
-/

namespace StoryScript

open Number

/-! ### Operands and results -/

namespace Value

/-- A number of either kind. -/
inductive Numeric : Value → Prop where
  | int (n : Whole) : Numeric (int n)
  | float (x : Float) : Numeric (float x)

/-- The integer zero, or a float that equals zero. -/
def IsZero : Value → Prop
  | int n => n = 0
  | float x => Number.eq x (Float.ofBits 0) = true
  | _ => False

end Value

/-- The result is the integer `e` if that is in range, and an overflow otherwise. -/
inductive Exactly (e : Int) : Except Cause Value → Prop where
  | inRange {n : Whole} (h : n.toInt = e) : Exactly e (.ok (.int n))
  | overflow {operation : String} (h : e < Whole.least ∨ Whole.greatest < e) :
    Exactly e (.error (.integerOverflow operation))

/-- What remains of `a` when `b` is taken away as often as possible. -/
structure IsRemainder (a b r : Int) : Prop where
  quotient : ∃ q, a = q * b + r
  natAbs_lt : r.natAbs < b.natAbs
  sign : r = 0 ∨ r.sign = a.sign

/-- What the operators with two operands tell. -/
structure BinarySpec (l r : Value) : Prop where
  /-- Equality and the logical operators never fail. -/
  total : ∀ op ∈ [BinaryOp.eq, .notEq, .and, .or], ∃ b, op.apply l r = .ok (.bool b)
  /-- Most operators take nothing but numbers. -/
  mismatch : ∀ op ∈ [BinaryOp.sub, .mul, .div, .mod, .lt, .ltEq, .gt, .gtEq],
    (∃ why, op.apply l r = .error (.typeMismatch why)) ↔ ¬ (l.Numeric ∧ r.Numeric)
  /-- The operator `+` joins texts as well. -/
  add_mismatch : (∃ why, BinaryOp.add.apply l r = .error (.typeMismatch why))
    ↔ l.kind ≠ .string ∧ r.kind ≠ .string ∧ ¬ (l.Numeric ∧ r.Numeric)
  /-- There is no quotient and no remainder by zero. -/
  division : l.Numeric → r.Numeric →
    ∀ op ∈ [BinaryOp.div, .mod], op.apply l r = .error .divisionByZero ↔ r.IsZero
  /-- The arithmetic of integers is exact. -/
  exact : ∀ a b, l = .int a → r = .int b →
    Exactly (a.toInt + b.toInt) (BinaryOp.add.apply l r)
      ∧ Exactly (a.toInt - b.toInt) (BinaryOp.sub.apply l r)
      ∧ Exactly (a.toInt * b.toInt) (BinaryOp.mul.apply l r)
  /-- The remainder goes with a quotient rounded towards zero, which has to be in range. -/
  remainder : ∀ a b, l = .int a → r = .int b → b ≠ 0 →
    if a.toInt = Whole.least ∧ b.toInt = -1 then
      ∃ operation, BinaryOp.mod.apply l r = .error (.integerOverflow operation)
    else ∃ n, BinaryOp.mod.apply l r = .ok (.int n) ∧ IsRemainder a.toInt b.toInt n.toInt
  /-- Numbers can be compared. -/
  comparison : l.Numeric → r.Numeric →
    ∀ op ∈ [BinaryOp.lt, .ltEq, .gt, .gtEq], ∃ b, op.apply l r = .ok (.bool b)
  /-- The quotient is a float, that of integers too. -/
  quotient : l.Numeric → r.Numeric → ¬ r.IsZero → ∃ x, BinaryOp.div.apply l r = .ok (.float x)
  /-- Arithmetic with a float yields a float. -/
  float : l.Numeric → r.Numeric → l.kind = .float ∨ r.kind = .float →
    ∀ op ∈ [BinaryOp.add, .sub, .mul, .mod], (op = .mod → ¬ r.IsZero) →
      ∃ x, op.apply l r = .ok (.float x)
  /-- There are no other failures. -/
  failure : ∀ (op : BinaryOp) cause, op.apply l r = .error cause →
    (∃ why, cause = .typeMismatch why)
      ∨ cause = .divisionByZero ∧ op ∈ [BinaryOp.div, .mod]
      ∨ (∃ operation, cause = .integerOverflow operation)
        ∧ op ∈ [BinaryOp.add, .sub, .mul, .mod] ∧ l.kind = .int ∧ r.kind = .int

/-- What the operators with one operand tell. -/
structure UnarySpec (v : Value) : Prop where
  /-- Negation of truth values never fails. -/
  not : ∃ b, UnaryOp.not.apply v = .ok (.bool b)
  /-- The negation of integers is exact; only the least one has none. -/
  neg_int : ∀ n, v = .int n → Exactly (-n.toInt) (UnaryOp.neg.apply v)
    ∧ ((∃ operation, UnaryOp.neg.apply v = .error (.integerOverflow operation))
      ↔ n.toInt = Whole.least)
  neg_float : ∀ x, v = .float x → ∃ y, UnaryOp.neg.apply v = .ok (.float y)
  mismatch : (∃ why, UnaryOp.neg.apply v = .error (.typeMismatch why)) ↔ ¬ v.Numeric
  /-- There are no other failures. -/
  failure : ∀ (op : UnaryOp) cause, op.apply v = .error cause →
    (∃ why, cause = .typeMismatch why) ∨ ∃ operation, cause = .integerOverflow operation

/-! ### Zero -/

namespace Value

/-- A float is zero if it is one of the two zeros. -/
theorem isZero_float (x : Float) :
  (float x).IsZero ↔ Number.isZero x = true
  := by
  have hzero : isNaN (Float.ofBits 0) = false ∧ units (Float.ofBits 0) = 0 := by
    constructor <;> decide +kernel
  rw [IsZero, Number.eq, hzero.1, hzero.2, Number.isZero]
  constructor
  · intro h
    simp only [Bool.and_eq_true] at h
    exact h.2
  · intro h
    have hunits : units x = (0 : Whole).toInt * unitsOfOne := by
      rw [beq_iff_eq.mp h]
      exact (Int.zero_mul _).symm
    rw [isNaN_of_isFinite (isFinite_of_units_eq hunits), h]
    rfl

/-- No integer but zero becomes a zero float. -/
theorem isZero_ofWhole (n : Whole) :
  Number.isZero (ofWhole n) = true ↔ n = 0
  := by
  rw [Number.isZero, beq_iff_eq, units_ofWhole, Int.mul_eq_zero,
    or_iff_left zero_lt_unitsOfOne.ne', roundedInt_eq_zero_iff, ← Int64.toInt_inj]
  rfl

/-- The float that a number is compared and calculated with is zero just when the number is. -/
theorem isZero_number {v : Value} {x : Float} (h : v.number? = some x) :
  Number.isZero x = true ↔ v.IsZero
  := by
  cases v with
  | int n =>
    obtain rfl := Option.some.inj h
    exact isZero_ofWhole n
  | float y =>
    obtain rfl := Option.some.inj h
    exact (isZero_float y).symm
  | _ => cases h

/-- What is no number is no operand. -/
theorem ofValue?_eq_none {v : Value} (h : ¬ v.Numeric) :
  Operand.ofValue? v = none
  := by
  cases v with
  | int n => exact absurd (.int n) h
  | float x => exact absurd (.float x) h
  | _ => rfl

end Value

namespace BinaryOp

variable {l r : Value} {op : BinaryOp}

/-! ### Values that do not fit -/

/-- Without two numbers the operands are an error about their kinds. -/
theorem operands_eq_error (op : BinaryOp) (h : ¬ (l.Numeric ∧ r.Numeric)) :
  op.operands l r = .error (op.mismatch l r)
  := by
  unfold operands
  by_cases hl : l.Numeric
  · have hr : ¬ r.Numeric := fun hr => h ⟨hl, hr⟩
    rw [Value.ofValue?_eq_none hr]
    cases Operand.ofValue? l <;> rfl
  · rw [Value.ofValue?_eq_none hl]

/-- All operators on numbers alone fail on anything else with an error about the kinds. -/
theorem apply_eq_mismatch (hop : op ∈ [sub, mul, div, mod, lt, ltEq, gt, gtEq])
    (h : ¬ (l.Numeric ∧ r.Numeric)) :
  op.apply l r = .error (op.mismatch l r)
  := by
  have harithmetic : op.arithmetic l r = .error (op.mismatch l r) := by
    rw [arithmetic, operands_eq_error op h]
    rfl
  have hcompare : op.compare l r = .error (op.mismatch l r) := by
    rw [compare, operands_eq_error op h]
    rfl
  have hdivide : divide l r = .error (div.mismatch l r) := by
    rw [divide, operands_eq_error div h]
    rfl
  simp only [List.mem_cons, List.not_mem_nil, or_false] at hop
  obtain rfl | rfl | rfl | rfl | rfl | rfl | rfl | rfl := hop
  · exact harithmetic
  · exact harithmetic
  · exact hdivide
  · exact harithmetic
  all_goals exact hcompare

/-- Without a text on either side a sum is arithmetic. -/
theorem plus_of_not_str (hl : l.kind ≠ .string) (hr : r.kind ≠ .string) :
  plus l r = arithmetic .add l r
  := by
  unfold plus
  split
  · exact absurd rfl hl
  · exact absurd rfl hr
  · rfl

/-- Whatever is added to a text is joined with it. -/
theorem plus_of_str (h : l.kind = .string ∨ r.kind = .string) :
  ∃ s, plus l r = .ok (.str s)
  := by
  obtain h | h := h
  · cases l with
    | str s => exact ⟨_, rfl⟩
    | _ => cases h
  · cases r with
    | str t => cases l <;> exact ⟨_, rfl⟩
    | _ => cases h

/-- Without texts and without two numbers a sum is an error about the kinds. -/
theorem plus_eq_mismatch (hl : l.kind ≠ .string) (hr : r.kind ≠ .string)
    (h : ¬ (l.Numeric ∧ r.Numeric)) :
  plus l r = .error (add.mismatch l r)
  := by
  rw [plus_of_not_str hl hr, arithmetic, operands_eq_error add h]
  rfl

/-! ### Arithmetic of integers -/

/-- A result is exact if it is in range, and an overflow if it is not. -/
theorem exactly_inRange (operation : String) (e : Int) :
  Exactly e (inRange operation (Whole.ofInt? e))
  := by
  cases h : Whole.ofInt? e with
  | some n => exact .inRange (Whole.ofInt?_eq_some_iff.mp h)
  | none => exact .overflow (Whole.ofInt?_eq_none_iff.mp h)

/-- The remainder of the truncated quotient has the sign of the dividend and is less than the
divisor. -/
theorem isRemainder_tmod {b : Int} (hb : b ≠ 0) (a : Int) :
  IsRemainder a b (a.tmod b)
  := by
  constructor
  · exact ⟨a.tdiv b, (Int.tdiv_mul_add_tmod a b).symm⟩
  · rw [Int.natAbs_tmod]
    exact Nat.mod_lt _ (Int.natAbs_pos.mpr hb)
  · obtain ha | rfl | ha := Int.lt_trichotomy a 0
    · have hnonpos : a.tmod b ≤ 0 := by
        have hneg := Int.tmod_nonneg (a := -a) b (by omega)
        rw [Int.neg_tmod] at hneg
        omega
      rw [Int.sign_eq_neg_one_of_neg ha, Int.sign_eq_neg_one_iff_neg]
      omega
    · exact Or.inl (Int.zero_tmod b)
    · have hnonneg := Int.tmod_nonneg b ha.le
      rw [Int.sign_eq_one_of_pos ha, Int.sign_eq_one_iff_pos]
      omega

/-- The quotient is out of range in one case only. -/
theorem tdiv_range (a b : Whole) (hb : b.toInt ≠ 0) :
  (a.toInt.tdiv b.toInt < Whole.least ∨ Whole.greatest < a.toInt.tdiv b.toInt)
    ↔ a.toInt = Whole.least ∧ b.toInt = -1
  := by
  have hlower := a.least_le_toInt
  have hupper := a.toInt_le_greatest
  unfold Whole.least Whole.greatest at *
  obtain hone | hone := eq_or_ne b.toInt 1
  · rw [hone, Int.tdiv_one]
    omega
  · obtain hminus | hminus := eq_or_ne b.toInt (-1)
    · rw [hminus, Int.tdiv_neg, Int.tdiv_one]
      omega
    · have hhalf : a.toInt.natAbs / b.toInt.natAbs ≤ a.toInt.natAbs / 2 :=
        Nat.div_le_div_left (by omega) (by decide)
      have habs := Int.natAbs_tdiv a.toInt b.toInt
      change _ = a.toInt.natAbs / b.toInt.natAbs at habs
      omega

/-- The remainder of two integers is there unless the quotient is out of range, which it is for one
pair only. -/
theorem rem?_spec (a b : Whole) (hb : b ≠ 0) :
  if a.toInt = Whole.least ∧ b.toInt = -1 then Whole.rem? a b = none
  else ∃ n, Whole.rem? a b = some n ∧ n.toInt = a.toInt.tmod b.toInt
  := by
  have hne : b.toInt ≠ 0 := fun h => hb (Int64.toInt_inj.mp h)
  have hrange := tdiv_range a b hne
  unfold Whole.rem?
  split
  · next hcase =>
    rw [Whole.ofInt?_eq_none_iff.mpr (hrange.mpr hcase)]
    rfl
  · next hcase =>
    cases hquotient : Whole.ofInt? (a.toInt.tdiv b.toInt) with
    | none => exact absurd (hrange.mp (Whole.ofInt?_eq_none_iff.mp hquotient)) hcase
    | some q =>
      cases hremainder : Whole.ofInt? (a.toInt.tmod b.toInt) with
      | none =>
        have hsmall := (isRemainder_tmod hne a.toInt).natAbs_lt
        have hbound := natAbs_le_twoPow b
        have hbeyond := Whole.ofInt?_eq_none_iff.mp hremainder
        unfold Whole.least Whole.greatest at hbeyond
        omega
      | some n => exact ⟨n, rfl, Whole.ofInt?_eq_some_iff.mp hremainder⟩

/-- Sums, differences and products of integers are exact or an overflow. -/
theorem exact_ints (a b : Whole) :
  Exactly (a.toInt + b.toInt) (BinaryOp.add.apply (.int a) (.int b))
    ∧ Exactly (a.toInt - b.toInt) (BinaryOp.sub.apply (.int a) (.int b))
    ∧ Exactly (a.toInt * b.toInt) (BinaryOp.mul.apply (.int a) (.int b))
  := ⟨exactly_inRange _ _, exactly_inRange _ _, exactly_inRange _ _⟩

/-- The remainder of two integers is exact, and an overflow for the one pair whose quotient is out
of range. -/
theorem remainder_ints (a b : Whole) (hb : b ≠ 0) :
  if a.toInt = Whole.least ∧ b.toInt = -1 then
    ∃ operation, BinaryOp.mod.apply (.int a) (.int b) = .error (.integerOverflow operation)
  else ∃ n, BinaryOp.mod.apply (.int a) (.int b) = .ok (.int n)
    ∧ IsRemainder a.toInt b.toInt n.toInt
  := by
  have hmod : BinaryOp.mod.apply (.int a) (.int b) = inRange "remainder" (Whole.rem? a b) := by
    have hstep : BinaryOp.mod.apply (.int a) (.int b)
        = if b == 0 then .error .divisionByZero else inRange "remainder" (Whole.rem? a b) := rfl
    rw [hstep, if_neg (by simpa using hb)]
  have hrem := rem?_spec a b hb
  rw [hmod]
  split
  · next hcase =>
    rw [if_pos hcase] at hrem
    rw [hrem]
    exact ⟨_, rfl⟩
  · next hcase =>
    rw [if_neg hcase] at hrem
    obtain ⟨n, hn, hvalue⟩ := hrem
    have hne : b.toInt ≠ 0 := fun h => hb (Int64.toInt_inj.mp h)
    rw [hn]
    exact ⟨n, rfl, hvalue ▸ isRemainder_tmod hne a.toInt⟩

/-! ### Arithmetic of floats -/

/-- Two numbers of which none is a float are integers. -/
theorem ints_of_no_float (hl : l.Numeric) (hr : r.Numeric)
    (h : ¬ (l.kind = .float ∨ r.kind = .float)) :
  ∃ a b, l = .int a ∧ r = .int b
  := by
  cases hl with
  | int a =>
    cases hr with
    | int b => exact ⟨a, b, rfl, rfl⟩
    | float y => exact absurd (Or.inr rfl) h
  | float x => exact absurd (Or.inl rfl) h

/-- Numbers that are not both integers are calculated with as floats. -/
theorem arithmetic_eq_float (hl : l.Numeric) (hr : r.Numeric)
    (h : l.kind = .float ∨ r.kind = .float) :
  ∃ x y, r.number? = some y ∧ ∀ op, arithmetic op l r = arithmetic op (.float x) (.float y)
  := by
  cases hl with
  | int a =>
    cases hr with
    | int b => simp [Value.kind] at h
    | float y => exact ⟨ofWhole a, y, rfl, fun _ => rfl⟩
  | float x =>
    cases hr with
    | int b => exact ⟨x, ofWhole b, rfl, fun _ => rfl⟩
    | float y => exact ⟨x, y, rfl, fun _ => rfl⟩

/-- The remainder of floats is there unless the divisor is one of the zeros. -/
theorem mod_floats (x y : Float) :
  arithmetic .mod (.float x) (.float y)
    = if Number.isZero y then .error .divisionByZero else .ok (.float (Number.rem x y))
  := rfl

/-- A sum of numbers is arithmetic. -/
theorem add_numeric (hl : l.Numeric) (hr : r.Numeric) :
  BinaryOp.add.apply l r = arithmetic .add l r
  := by
  apply plus_of_not_str
  · cases hl <;> exact Kind.noConfusion
  · cases hr <;> exact Kind.noConfusion

/-- Arithmetic with a float among the operands has a float as its result, overflow or not. -/
theorem float_arithmetic (hl : l.Numeric) (hr : r.Numeric)
    (h : l.kind = .float ∨ r.kind = .float) (hop : op ∈ [add, sub, mul, mod])
    (hzero : op = .mod → ¬ r.IsZero) :
  ∃ x, op.apply l r = .ok (.float x)
  := by
  obtain ⟨x, y, hy, harithmetic⟩ := arithmetic_eq_float hl hr h
  simp only [List.mem_cons, List.not_mem_nil, or_false] at hop
  obtain rfl | rfl | rfl | rfl := hop
  · rw [add_numeric hl hr, harithmetic]
    exact ⟨x + y, rfl⟩
  · exact ⟨x - y, harithmetic .sub⟩
  · exact ⟨x * y, harithmetic .mul⟩
  · have hne := (Value.isZero_number hy).not.mpr (hzero rfl)
    have hmod := harithmetic .mod
    rw [mod_floats, if_neg hne] at hmod
    exact ⟨_, hmod⟩

/-! ### Division -/

/-- A number is an operand, which is zero exactly if the number is. -/
theorem ofValue?_eq_some {v : Value} (h : v.Numeric) :
  ∃ a, Operand.ofValue? v = some a ∧ (a.isZero = true ↔ v.IsZero)
  := by
  cases h with
  | int n => exact ⟨.int n, rfl, beq_iff_eq⟩
  | float x => exact ⟨.float x, rfl, (Value.isZero_float x).symm⟩

/-- A quotient is a float, also of two integers, unless the divisor is zero. -/
theorem divide_numeric (hl : l.Numeric) (hr : r.Numeric) :
  (r.IsZero → divide l r = .error .divisionByZero)
    ∧ (¬ r.IsZero → ∃ x, divide l r = .ok (.float x))
  := by
  obtain ⟨a, ha, -⟩ := ofValue?_eq_some hl
  obtain ⟨b, hb, hzero⟩ := ofValue?_eq_some hr
  have hdivide : divide l r
      = if b.isZero then .error .divisionByZero else .ok (.float (a.toFloat / b.toFloat)) := by
    unfold divide operands
    rw [ha, hb]
    rfl
  rw [hdivide, ← hzero]
  constructor
  · intro h
    rw [if_pos h]
  · intro h
    rw [if_neg h]
    exact ⟨_, rfl⟩

/-- The remainder by zero is an error, for integers and for floats. -/
theorem mod_zero (hl : l.Numeric) (hr : r.Numeric) (hzero : r.IsZero) :
  arithmetic .mod l r = .error .divisionByZero
  := by
  by_cases h : l.kind = .float ∨ r.kind = .float
  · obtain ⟨x, y, hy, harithmetic⟩ := arithmetic_eq_float hl hr h
    rw [harithmetic, mod_floats, if_pos ((Value.isZero_number hy).mpr hzero)]
  · obtain ⟨a, b, rfl, rfl⟩ := ints_of_no_float hl hr h
    obtain rfl : b = 0 := hzero
    rfl

/-- A comparison of numbers has a truth value. -/
theorem compare_numeric (hl : l.Numeric) (hr : r.Numeric) (op : BinaryOp) :
  ∃ b, compare op l r = .ok (.bool b)
  := by
  cases hl <;> cases hr <;> exact ⟨_, rfl⟩

/-! ### Failures -/

/-- The only error of exact arithmetic is an overflow. -/
theorem cause_of_exactly {e : Int} {cause : Cause} (h : Exactly e (.error cause)) :
  ∃ operation, cause = .integerOverflow operation
  := by
  cases h with
  | overflow => exact ⟨_, rfl⟩

/-- With integers there are no failures but overflows, and divisions by zero. -/
theorem failure_of_ints {a b : Whole} {cause : Cause} (hop : op ∈ [add, sub, mul, mod])
    (h : op.apply (.int a) (.int b) = .error cause) :
  (∃ operation, cause = .integerOverflow operation) ∨ cause = .divisionByZero ∧ op = .mod ∧ b = 0
  := by
  obtain ⟨hadd, hsub, hmul⟩ := exact_ints a b
  simp only [List.mem_cons, List.not_mem_nil, or_false] at hop
  obtain rfl | rfl | rfl | rfl := hop
  · exact Or.inl (cause_of_exactly (h ▸ hadd))
  · exact Or.inl (cause_of_exactly (h ▸ hsub))
  · exact Or.inl (cause_of_exactly (h ▸ hmul))
  · by_cases hb : b = 0
    · subst hb
      cases h
      exact Or.inr ⟨rfl, rfl, rfl⟩
    · have hremainder := remainder_ints a b hb
      rw [h] at hremainder
      split at hremainder
      · obtain ⟨operation, hcause⟩ := hremainder
        exact Or.inl ⟨operation, Except.error.inj hcause⟩
      · obtain ⟨n, hok, -⟩ := hremainder
        cases hok

/-- On numbers an operator fails only by a division by zero or an overflow, and the latter only on
two integers. -/
theorem failure_of_numeric {cause : Cause} (hl : l.Numeric) (hr : r.Numeric)
    (h : op.apply l r = .error cause) :
  cause = .divisionByZero ∧ op ∈ [div, mod] ∧ r.IsZero
    ∨ (∃ operation, cause = .integerOverflow operation)
      ∧ op ∈ [add, sub, mul, mod] ∧ l.kind = .int ∧ r.kind = .int
  := by
  by_cases hop : op ∈ [add, sub, mul, mod]
  · by_cases hkind : l.kind = .float ∨ r.kind = .float
    · by_cases hzero : op = .mod ∧ r.IsZero
      · obtain ⟨rfl, hzero⟩ := hzero
        have hmod := mod_zero hl hr hzero
        exact Or.inl ⟨Except.error.inj (h.symm.trans hmod), by decide, hzero⟩
      · obtain ⟨x, hx⟩ := float_arithmetic hl hr hkind hop (not_and.mp hzero)
        rw [h] at hx
        cases hx
    · obtain ⟨a, b, rfl, rfl⟩ := ints_of_no_float hl hr hkind
      obtain hoverflow | ⟨rfl, rfl, hzero⟩ := failure_of_ints hop h
      · exact Or.inr ⟨hoverflow, hop, rfl, rfl⟩
      · exact Or.inl ⟨rfl, by decide, hzero⟩
  · cases op with
    | add | sub | mul | mod => exact absurd (by decide) hop
    | div =>
      obtain ⟨hdivision, hquotient⟩ := divide_numeric hl hr
      by_cases hzero : r.IsZero
      · exact Or.inl ⟨Except.error.inj (h.symm.trans (hdivision hzero)), by decide, hzero⟩
      · obtain ⟨x, hx⟩ := hquotient hzero
        cases h.symm.trans hx
    | lt | ltEq | gt | gtEq =>
      obtain ⟨b, hb⟩ := compare_numeric hl hr _
      cases h.symm.trans hb
    | eq | notEq | and | or => cases h

/-- An error about the kinds means that the operands were not two numbers. -/
theorem not_numeric_of_mismatch {why : Mismatch}
    (h : op.apply l r = .error (.typeMismatch why)) :
  ¬ (l.Numeric ∧ r.Numeric)
  := by
  rintro ⟨hl, hr⟩
  obtain ⟨hcause, -⟩ | ⟨⟨operation, hcause⟩, -⟩ := failure_of_numeric hl hr h
  · cases hcause
  · cases hcause

/-- On anything but two numbers the only error is that about the kinds. -/
theorem failure_of_not_numeric {cause : Cause} (h : ¬ (l.Numeric ∧ r.Numeric))
    (hfailure : op.apply l r = .error cause) :
  ∃ why, cause = .typeMismatch why
  := by
  by_cases hop : op ∈ [sub, mul, div, mod, lt, ltEq, gt, gtEq]
  · exact ⟨_, Except.error.inj (hfailure.symm.trans (apply_eq_mismatch hop h))⟩
  · cases op with
    | add =>
      by_cases hstr : l.kind = .string ∨ r.kind = .string
      · obtain ⟨s, hs⟩ := plus_of_str hstr
        cases hfailure.symm.trans hs
      · obtain ⟨hl, hr⟩ := not_or.mp hstr
        exact ⟨_, Except.error.inj (hfailure.symm.trans (plus_eq_mismatch hl hr h))⟩
    | eq | notEq | and | or => cases hfailure
    | _ => exact absurd (by decide) hop

/-- A sum fails over the kinds exactly if no text and not two numbers are added. -/
theorem add_mismatch_iff :
  (∃ why, BinaryOp.add.apply l r = .error (.typeMismatch why))
    ↔ l.kind ≠ .string ∧ r.kind ≠ .string ∧ ¬ (l.Numeric ∧ r.Numeric)
  := by
  constructor
  · rintro ⟨why, h⟩
    have hstr : ¬ (l.kind = .string ∨ r.kind = .string) := by
      intro hstr
      obtain ⟨s, hs⟩ := plus_of_str hstr
      cases h.symm.trans hs
    obtain ⟨hl, hr⟩ := not_or.mp hstr
    exact ⟨hl, hr, not_numeric_of_mismatch h⟩
  · rintro ⟨hl, hr, h⟩
    exact ⟨_, plus_eq_mismatch hl hr h⟩

/-- Division and remainder of numbers fail over zero exactly if the divisor is zero. -/
theorem division_iff (hl : l.Numeric) (hr : r.Numeric) (hop : op ∈ [div, mod]) :
  op.apply l r = .error .divisionByZero ↔ r.IsZero
  := by
  constructor
  · intro h
    obtain ⟨-, -, hzero⟩ | ⟨⟨operation, hcause⟩, -⟩ := failure_of_numeric hl hr h
    · exact hzero
    · cases hcause
  · intro hzero
    simp only [List.mem_cons, List.not_mem_nil, or_false] at hop
    obtain rfl | rfl := hop
    · exact (divide_numeric hl hr).1 hzero
    · exact mod_zero hl hr hzero

/-- Every operator does what is specified of it. -/
theorem spec (l r : Value) :
  BinarySpec l r
  := by
  constructor
  case total =>
    intro op hop
    simp only [List.mem_cons, List.not_mem_nil, or_false] at hop
    obtain rfl | rfl | rfl | rfl := hop <;> exact ⟨_, rfl⟩
  case mismatch =>
    intro op hop
    constructor
    · rintro ⟨why, h⟩
      exact not_numeric_of_mismatch h
    · intro h
      exact ⟨_, apply_eq_mismatch hop h⟩
  case add_mismatch => exact add_mismatch_iff
  case division =>
    intro hl hr op hop
    exact division_iff hl hr hop
  case exact =>
    rintro a b rfl rfl
    exact exact_ints a b
  case remainder =>
    rintro a b rfl rfl hb
    exact remainder_ints a b hb
  case comparison =>
    intro hl hr op hop
    simp only [List.mem_cons, List.not_mem_nil, or_false] at hop
    obtain rfl | rfl | rfl | rfl := hop <;> exact compare_numeric hl hr _
  case quotient =>
    intro hl hr hzero
    exact (divide_numeric hl hr).2 hzero
  case float =>
    intro hl hr hkind op hop hzero
    exact float_arithmetic hl hr hkind hop hzero
  case failure =>
    intro op cause h
    by_cases hnumeric : l.Numeric ∧ r.Numeric
    · obtain ⟨hcause, hop, -⟩ | hoverflow := failure_of_numeric hnumeric.1 hnumeric.2 h
      · exact Or.inr (Or.inl ⟨hcause, hop⟩)
      · exact Or.inr (Or.inr hoverflow)
    · exact Or.inl (failure_of_not_numeric hnumeric h)

end BinaryOp

namespace UnaryOp

/-- The negation of anything but a number is an error about the kinds. -/
theorem neg_mismatch {v : Value} (h : ¬ v.Numeric) :
  ∃ why, UnaryOp.neg.apply v = .error (.typeMismatch why)
  := by
  cases v with
  | int n => exact absurd (.int n) h
  | float x => exact absurd (.float x) h
  | _ => exact ⟨_, rfl⟩

/-- The negation of an integer is exact or an overflow. -/
theorem neg_int (n : Whole) :
  Exactly (-n.toInt) (UnaryOp.neg.apply (.int n))
  := BinaryOp.exactly_inRange "negation" _

/-- The only integer whose negation is an overflow is the least one. -/
theorem neg_overflow_iff (n : Whole) :
  (∃ operation, UnaryOp.neg.apply (.int n) = .error (.integerOverflow operation))
    ↔ n.toInt = Whole.least
  := by
  have hexact := neg_int n
  have hlower := n.least_le_toInt
  have hupper := n.toInt_le_greatest
  unfold Whole.least Whole.greatest at *
  constructor
  · rintro ⟨operation, h⟩
    rw [h] at hexact
    cases hexact with
    | overflow hbeyond =>
      unfold Whole.least Whole.greatest at hbeyond
      omega
  · intro hleast
    generalize UnaryOp.neg.apply (.int n) = result at hexact ⊢
    cases hexact with
    | @inRange m hm =>
      have hm' := m.toInt_le_greatest
      unfold Whole.greatest at hm'
      omega
    | overflow => exact ⟨_, rfl⟩

/-- A negation fails over the kinds or by an overflow. -/
theorem failure_of_neg {v : Value} {cause : Cause} (h : UnaryOp.neg.apply v = .error cause) :
  (∃ why, cause = .typeMismatch why) ∧ ¬ v.Numeric ∨ ∃ operation, cause = .integerOverflow operation
  := by
  by_cases hnumeric : v.Numeric
  · cases hnumeric with
    | int n => exact Or.inr (BinaryOp.cause_of_exactly (h ▸ neg_int n))
    | float x => cases h
  · obtain ⟨why, hwhy⟩ := neg_mismatch hnumeric
    exact Or.inl ⟨⟨why, Except.error.inj (h.symm.trans hwhy)⟩, hnumeric⟩

/-- Both operators on one value do what is specified of them. -/
theorem spec (v : Value) :
  UnarySpec v
  := by
  constructor
  case not => exact ⟨_, rfl⟩
  case neg_int =>
    rintro n rfl
    exact ⟨neg_int n, neg_overflow_iff n⟩
  case neg_float =>
    rintro x rfl
    exact ⟨_, rfl⟩
  case mismatch =>
    constructor
    · rintro ⟨why, h⟩
      obtain ⟨-, hnumeric⟩ | ⟨operation, hcause⟩ := failure_of_neg h
      · exact hnumeric
      · cases hcause
    · exact neg_mismatch
  case failure =>
    intro op cause h
    cases op with
    | not => cases h
    | neg => exact (failure_of_neg h).imp_left And.left

end UnaryOp

/-- Every operator fails exactly when it should, and the arithmetic of integers is exact. -/
theorem operators_meet_their_specification (l r v : Value) :
  BinarySpec l r ∧ UnarySpec v
  := ⟨BinaryOp.spec l r, UnaryOp.spec v⟩

end StoryScript
