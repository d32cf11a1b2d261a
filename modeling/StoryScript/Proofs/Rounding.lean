import Mathlib.Algebra.Order.Ring.Nat
import StoryScript.Number.Units

/-!
# Rounding of natural numbers

A float has room for fifty-three binary digits.  `rounded n` is the natural number with that
many digits, followed by zeros, that is nearest to `n`; of two equally near ones it is the one
whose last digit is even.  Main statements: rounding keeps the order, numbers that have room stay
as they are, and a number is rounded up to a power of two exactly when no more than half a unit
is missing.
-/

namespace StoryScript.Number

variable {m n c i k : Nat}

/-! ### A quotient by a power of two -/

/-- `n / 2 ^ k`, rounded to the nearest natural number, and to the even one of two that are
equally near. -/
def halfEven (n k : Nat) : Nat :=
  if 2 ^ k < 2 * (n % 2 ^ k) ∨ 2 * (n % 2 ^ k) = 2 ^ k ∧ n / 2 ^ k % 2 = 1 then n / 2 ^ k + 1
  else n / 2 ^ k

/-- Rounding does not go below the quotient rounded down. -/
theorem div_le_halfEven (n k : Nat) :
  n / 2 ^ k ≤ halfEven n k
  := by
  unfold halfEven
  split
  · apply Nat.le_succ
  · rfl

/-- Rounding goes up by one at most. -/
theorem halfEven_le (n k : Nat) :
  halfEven n k ≤ n / 2 ^ k + 1
  := by
  unfold halfEven
  split
  · rfl
  · apply Nat.le_succ

/-- Rounding keeps the order. -/
theorem halfEven_mono (h : n ≤ m) (k : Nat) :
  halfEven n k ≤ halfEven m k
  := by
  obtain hlt | heq := (Nat.div_le_div_right (c := 2 ^ k) h).lt_or_eq
  · calc halfEven n k
        ≤ n / 2 ^ k + 1 := halfEven_le n k
      _ ≤ m / 2 ^ k := hlt
      _ ≤ halfEven m k := div_le_halfEven m k
  · -- with the same quotient the greater number has the greater remainder
    have hmod : n % 2 ^ k ≤ m % 2 ^ k := by
      have hn := Nat.div_add_mod n (2 ^ k)
      have hm := Nat.div_add_mod m (2 ^ k)
      rw [heq] at hn
      omega
    unfold halfEven
    rw [heq]
    generalize m / 2 ^ k = q, 2 ^ k = p, n % 2 ^ k = r, m % 2 ^ k = r' at *
    split <;> split <;> omega

/-- A multiple of the power is divided exactly. -/
theorem halfEven_mul (c k : Nat) :
  halfEven (c * 2 ^ k) k = c
  := by
  have hp := Nat.two_pow_pos k
  unfold halfEven
  rw [Nat.mul_mod_left, Nat.mul_div_cancel _ hp, if_neg]
  omega

/-- Zeros at the end of both numbers do not matter. -/
theorem halfEven_shift (n i k : Nat) :
  halfEven (n * 2 ^ i) (k + i) = halfEven n k
  := by
  have hp := Nat.two_pow_pos i
  unfold halfEven
  simp only [pow_add, Nat.mul_div_mul_right _ _ hp, Nat.mul_mod_mul_right, ← mul_assoc,
    Nat.mul_lt_mul_right hp, Nat.mul_left_inj hp.ne']

/-- A number below a power of two is rounded to that power at most. -/
theorem halfEven_le_twoPow (h : n < 2 ^ (i + k)) :
  halfEven n k ≤ 2 ^ i
  := by
  rw [pow_add] at h
  have hquotient : n / 2 ^ k < 2 ^ i := Nat.div_lt_of_lt_mul (mul_comm (2 ^ i) _ ▸ h)
  exact (halfEven_le n k).trans hquotient

/-- A number from a power of two on is rounded to that power at least. -/
theorem twoPow_le_halfEven (h : 2 ^ (i + k) ≤ n) :
  2 ^ i ≤ halfEven n k
  := by
  rw [pow_add] at h
  have hquotient : 2 ^ i ≤ n / 2 ^ k := (Nat.le_div_iff_mul_le (Nat.two_pow_pos k)).mpr h
  exact hquotient.trans (div_le_halfEven n k)

/-! ### Fifty-three digits -/

/-- How many binary digits of `n` there is no room for. -/
def excess (n : Nat) : Nat := n.log2 - 52

/-- The number with fifty-three binary digits, followed by zeros, that is nearest to `n`. -/
def rounded (n : Nat) : Nat := halfEven n (excess n) * 2 ^ excess n

/-- Without its excess digits a number has fifty-three. -/
theorem lt_twoPow_excess (n : Nat) :
  n < 2 ^ (53 + excess n)
  := by
  apply Nat.lt_log2_self.trans_le
  apply Nat.pow_le_pow_right Nat.two_pos
  unfold excess
  omega

/-- A number with excess digits has fifty-three others. -/
theorem twoPow_excess_le (h : excess n ≠ 0) :
  2 ^ (52 + excess n) ≤ n
  := by
  have hn : n ≠ 0 := by
    rintro rfl
    exact h rfl
  apply (Nat.le_log2 hn).mp
  unfold excess at h ⊢
  omega

/-- The excess digits are those after the first fifty-three. -/
theorem excess_eq (lower : 2 ^ (52 + k) ≤ n) (upper : n < 2 ^ (53 + k)) :
  excess n = k
  := by
  have hn : n ≠ 0 := (Nat.two_pow_pos _).trans_le lower |>.ne'
  have hlower := (Nat.le_log2 hn).mpr lower
  have hupper := (Nat.log2_lt hn).mpr upper
  unfold excess
  omega

/-- Greater numbers have as many excess digits at least. -/
theorem excess_mono (h : n ≤ m) :
  excess n ≤ excess m
  := by
  by_cases hn : n = 0
  · subst hn
    exact Nat.zero_le _
  · have hlog : n.log2 ≤ m.log2 := by
      apply (Nat.le_log2 (by omega)).mpr
      exact (Nat.log2_self_le hn).trans h
    exact Nat.sub_le_sub_right hlog 52

/-- Rounding keeps the order. -/
theorem rounded_mono (h : n ≤ m) :
  rounded n ≤ rounded m
  := by
  unfold rounded
  obtain hlt | heq := (excess_mono h).lt_or_eq
  · -- the greater number has more digits, so a power of two lies between both
    have hm := twoPow_le_halfEven (twoPow_excess_le (Nat.ne_zero_of_lt hlt))
    calc halfEven n (excess n) * 2 ^ excess n
        ≤ 2 ^ 53 * 2 ^ excess n :=
          Nat.mul_le_mul_right _ (halfEven_le_twoPow (lt_twoPow_excess n))
      _ = 2 ^ (53 + excess n) := (pow_add 2 53 _).symm
      _ ≤ 2 ^ (52 + excess m) := Nat.pow_le_pow_right Nat.two_pos (by omega)
      _ = 2 ^ 52 * 2 ^ excess m := pow_add 2 52 _
      _ ≤ halfEven m (excess m) * 2 ^ excess m := Nat.mul_le_mul_right _ hm
  · rw [heq]
    exact Nat.mul_le_mul_right _ (halfEven_mono h _)

/-- A number for which there is room stays as it is. -/
theorem rounded_mul (h : c < 2 ^ 53) (k : Nat) :
  rounded (c * 2 ^ k) = c * 2 ^ k
  := by
  have hexcess : excess (c * 2 ^ k) ≤ k := by
    by_contra hlt
    have hle := twoPow_excess_le (by omega : excess (c * 2 ^ k) ≠ 0)
    have hpowers : 2 ^ (53 + k) ≤ 2 ^ (52 + excess (c * 2 ^ k)) :=
      Nat.pow_le_pow_right Nat.two_pos (by omega)
    have hroom : c * 2 ^ k < 2 ^ (53 + k) := by
      rw [pow_add]
      exact Nat.mul_lt_mul_of_pos_right h (Nat.two_pow_pos k)
    omega
  obtain ⟨i, hi⟩ := Nat.exists_eq_add_of_le' hexcess
  unfold rounded
  generalize excess (c * 2 ^ k) = e at hi ⊢
  rw [hi, pow_add, ← mul_assoc, halfEven_mul]

/-- Numbers with at most fifty-three digits are not rounded. -/
theorem rounded_of_lt (h : n < 2 ^ 53) :
  rounded n = n
  := by
  simpa using rounded_mul h 0

/-- Powers of two are not rounded. -/
theorem rounded_twoPow (k : Nat) :
  rounded (2 ^ k) = 2 ^ k
  := by
  simpa using rounded_mul (Nat.one_lt_two_pow (by decide) : 1 < 2 ^ 53) k

theorem rounded_of_le (h : n ≤ 2 ^ 53) :
  rounded n = n
  := by
  obtain hlt | rfl := h.lt_or_eq
  · exact rounded_of_lt hlt
  · exact rounded_twoPow 53

/-- Only zero is rounded to zero. -/
theorem rounded_eq_zero_iff :
  rounded n = 0 ↔ n = 0
  := by
  constructor
  · intro h
    by_contra hn
    have hle : rounded 1 ≤ rounded n := rounded_mono (Nat.pos_of_ne_zero hn)
    rw [rounded_of_lt (by decide : 1 < 2 ^ 53), h] at hle
    exact Nat.not_succ_le_zero 0 hle
  · rintro rfl
    exact rounded_of_lt (Nat.two_pow_pos 53)

/-- Rounding stays above powers of two. -/
theorem twoPow_le_rounded (h : 2 ^ k ≤ n) :
  2 ^ k ≤ rounded n
  := by
  rw [← rounded_twoPow k]
  exact rounded_mono h

/-- Rounding stays below powers of two. -/
theorem rounded_le_twoPow (h : n ≤ 2 ^ k) :
  rounded n ≤ 2 ^ k
  := by
  rw [← rounded_twoPow k]
  exact rounded_mono h

/-- A number is rounded up to a power of two when no more than half a unit is missing. -/
theorem twoPow_le_rounded_iff (n k : Nat) :
  2 ^ (54 + k) ≤ rounded n ↔ 2 ^ (54 + k) ≤ n + 2 ^ k
  := by
  have hbound : 2 ^ (54 + k) = 2 ^ 53 * 2 ^ (k + 1) := by
    rw [← pow_add]
    congr 1
    omega
  have hunit : 2 ^ (k + 1) = 2 * 2 ^ k := by rw [pow_succ, mul_comm]
  have hpos := Nat.two_pow_pos k
  obtain hover | hbelow := le_or_gt (2 ^ (54 + k)) n
  · have hrounded := twoPow_le_rounded hover
    omega
  · obtain hshort | hlong := lt_or_ge n (2 ^ (53 + k))
    · have hrounded := rounded_le_twoPow hshort.le
      have hhalf : 2 ^ (54 + k) = 2 * 2 ^ (53 + k) := by rw [← pow_succ']; congr 1; omega
      have hgap : 2 ^ k < 2 ^ (53 + k) := Nat.pow_lt_pow_right (by decide) (by omega)
      omega
    · -- the number has one digit more than `k` too many, and the digits kept are all ones
      have hexcess : excess n = k + 1 := by
        apply excess_eq
        · rwa [show 52 + (k + 1) = 53 + k by omega]
        · rwa [show 53 + (k + 1) = 54 + k by omega]
      have hquotient : n / 2 ^ (k + 1) < 2 ^ 53 := by
        rw [hbound] at hbelow
        exact Nat.div_lt_of_lt_mul (mul_comm (2 ^ 53) _ ▸ hbelow)
      have hdivision := Nat.div_add_mod n (2 ^ (k + 1))
      have hmod := Nat.mod_lt n (Nat.two_pow_pos (k + 1))
      unfold rounded
      rw [hexcess, hbound, Nat.mul_le_mul_right_iff (Nat.two_pow_pos _)]
      unfold halfEven
      rw [hunit] at hdivision hmod hquotient ⊢
      generalize 2 ^ k = p, n / (2 * 2 ^ k) = q, n % (2 * 2 ^ k) = r at *
      obtain hones | hzero := Nat.lt_or_eq_of_le (Nat.le_of_lt_succ hquotient)
      · have hgap : 2 * p * q ≤ 2 * p * (2 ^ 53 - 2) := Nat.mul_le_mul_left _ (by omega)
        split <;> omega
      · subst hzero
        split <;> omega

/-! ### Numbers that have room -/

/-- A number below one for which there is room is rounded to one that is no greater. -/
theorem rounded_mul_le (hc : c < 2 ^ 53) (h : n * 2 ^ i ≤ c * 2 ^ k) :
  rounded n * 2 ^ i ≤ c * 2 ^ k
  := by
  obtain hle | hlt := le_or_gt i k
  · obtain ⟨j, rfl⟩ := Nat.exists_eq_add_of_le' hle
    rw [pow_add, ← mul_assoc] at h ⊢
    apply Nat.mul_le_mul_right
    rw [← rounded_mul hc j]
    exact rounded_mono (Nat.le_of_mul_le_mul_right h (Nat.two_pow_pos i))
  · -- the number is a fraction of the other one, so there is room for it as well
    have hsmall : n * 2 ^ k ≤ c * 2 ^ k :=
      (Nat.mul_le_mul_left n (Nat.pow_le_pow_right Nat.two_pos hlt.le)).trans h
    have hle : n ≤ c := Nat.le_of_mul_le_mul_right hsmall (Nat.two_pow_pos k)
    rwa [rounded_of_lt (hle.trans_lt hc)]

/-- A number above one for which there is room is rounded to one that is no less. -/
theorem le_rounded_mul (hc : c < 2 ^ 53) (h : c * 2 ^ k ≤ n * 2 ^ i) :
  c * 2 ^ k ≤ rounded n * 2 ^ i
  := by
  obtain hle | hlt := le_or_gt i k
  · obtain ⟨j, rfl⟩ := Nat.exists_eq_add_of_le' hle
    rw [pow_add, ← mul_assoc] at h ⊢
    apply Nat.mul_le_mul_right
    rw [← rounded_mul hc j]
    exact rounded_mono (Nat.le_of_mul_le_mul_right h (Nat.two_pow_pos i))
  · obtain hsmall | hlarge := lt_or_ge n (2 ^ 53)
    · rwa [rounded_of_lt hsmall]
    · exact Nat.mul_le_mul (hc.le.trans (twoPow_le_rounded hlarge))
        (Nat.pow_le_pow_right Nat.two_pos hlt.le)

end StoryScript.Number
