import Mathlib.Data.Rat.Floor
import Mathlib.Tactic.Linarith
import Mathlib.Tactic.NormNum
import StoryScript.Number.Shortest
import StoryScript.Proofs.Widening

/-!
# Shortest decimals

The shortest decimal of a float is found among the whole numbers of a grid.  Here the interval of
the numbers that round to the float is one of rational numbers, and the window is what lies in it
on a grid.  Main statements: the shortest decimal rounds to the float; it has no digits after the
point if the float is a natural number; and it is on the same side of a number with few binary
digits as the float.
-/

namespace StoryScript.Number

open Rounding

variable {x : Float} {r : Rounding} {w : Window} {m k step : Nat} {e : Int} {q : ℚ}

/-! ### The grid -/

theorem toNat_neg_zpow {a : ℚ} (ha : a ≠ 0) (e : Int) :
  a ^ (-e).toNat * a ^ e = a ^ e.toNat
  := by
  rw [← zpow_natCast, ← zpow_natCast, ← zpow_add₀ ha]
  congr 1
  omega

/-- Both factors of the grid are positive. -/
theorem gridScale_pos (unit : Nat) (e : Int) :
  0 < (gridScale unit e).1 ∧ 0 < (gridScale unit e).2
  := by
  constructor <;> exact Nat.mul_pos (Nat.pow_pos (by decide)) (Nat.pow_pos (by decide))

/-- The factor and the divisor are in the proportion of the two units. -/
theorem gridScale_eq (unit : Nat) (e : Int) :
  ((gridScale unit e).1 : ℚ) * 10 ^ e = (gridScale unit e).2 * 2 ^ ((unit : Int) - 1076)
  := by
  have htwo := toNat_neg_zpow (two_ne_zero : (2 : ℚ) ≠ 0) ((unit : Int) - 1076)
  have hten := toNat_neg_zpow (by norm_num : (10 : ℚ) ≠ 0) e
  have hup : ((unit : Int) - 1076).toNat = unit - 1076 := by omega
  have hdown : (-((unit : Int) - 1076)).toNat = 1076 - unit := by omega
  rw [hup, hdown] at htwo
  unfold gridScale
  simp only [Nat.pow_eq, Nat.cast_mul, Nat.cast_pow, Nat.cast_ofNat]
  rw [mul_assoc, hten, mul_right_comm, htwo]

namespace Rounding

/-- A multiple of `2 ^ (unit - 1076)`. -/
def multiple (r : Rounding) (m : Nat) : ℚ := m * 2 ^ ((r.unit : Int) - 1076)

/-- The number lies in the interval of numbers that round to the float. -/
inductive Holds (r : Rounding) (q : ℚ) : Prop where
  | inside (hlower : r.multiple r.lower < q) (hupper : q < r.multiple r.upper) : Holds r q
  | closed (hclosed : r.closed = true) (hlower : r.multiple r.lower ≤ q)
    (hupper : q ≤ r.multiple r.upper) : Holds r q

/-- What rounds to a float is not below its interval. -/
theorem Holds.lower_le (h : r.Holds q) :
  r.multiple r.lower ≤ q
  := by
  cases h with
  | inside hlower => exact hlower.le
  | closed _ hlower => exact hlower

/-- What rounds to a float is not above its interval. -/
theorem Holds.le_upper (h : r.Holds q) :
  q ≤ r.multiple r.upper
  := by
  cases h with
  | inside _ hupper => exact hupper.le
  | closed _ _ hupper => exact hupper

/-- A multiple of the unit, on the grid of a power of ten. -/
theorem multiple_mul (r : Rounding) (a : Nat) (e : Int) :
  r.multiple a * (gridScale r.unit e).2 = a * (gridScale r.unit e).1 * 10 ^ e
  := by
  rw [multiple, mul_assoc, mul_comm (2 ^ _ : ℚ), ← gridScale_eq, mul_assoc]

/-- A comparison of a multiple with a number of the grid is one of natural numbers. -/
theorem multiple_le_iff (r : Rounding) (a m : Nat) (e : Int) :
  r.multiple a ≤ m * 10 ^ e ↔ a * (gridScale r.unit e).1 ≤ m * (gridScale r.unit e).2
  := by
  have hten : (0 : ℚ) < 10 ^ e := zpow_pos (by norm_num) e
  have hdown : (0 : ℚ) < (gridScale r.unit e).2 := Nat.cast_pos.mpr (gridScale_pos r.unit e).2
  rw [← mul_le_mul_iff_left₀ hdown, multiple_mul, mul_right_comm (m : ℚ),
    mul_le_mul_iff_left₀ hten]
  norm_cast

/-- Whether a decimal is at most a multiple of the unit is a comparison of natural numbers. -/
theorem le_multiple_iff (r : Rounding) (a m : Nat) (e : Int) :
  m * 10 ^ e ≤ r.multiple a ↔ m * (gridScale r.unit e).2 ≤ a * (gridScale r.unit e).1
  := by
  have hten : (0 : ℚ) < 10 ^ e := zpow_pos (by norm_num) e
  have hdown : (0 : ℚ) < (gridScale r.unit e).2 := Nat.cast_pos.mpr (gridScale_pos r.unit e).2
  rw [← mul_le_mul_iff_left₀ hdown, multiple_mul, mul_right_comm, mul_le_mul_iff_left₀ hten]
  norm_cast

/-- Of a closed interval the window has all decimals, the ends included. -/
theorem window_of_closed (h : r.closed = true) (m : Nat) (e : Int) :
  (r.window e).low ≤ m ∧ m ≤ (r.window e).high
    ↔ r.multiple r.lower ≤ m * 10 ^ e ∧ m * 10 ^ e ≤ r.multiple r.upper
  := by
  obtain ⟨-, hdown⟩ := gridScale_pos r.unit e
  rw [multiple_le_iff, le_multiple_iff, window, h]
  generalize gridScale r.unit e = scale at *
  obtain ⟨up, down⟩ := scale
  dsimp only at *
  rw [if_pos rfl]
  dsimp only
  rw [Nat.div_le_iff_le_mul_add_pred hdown, Nat.le_div_iff_mul_le hdown, mul_comm down]
  omega

/-- Of an open interval the window has all decimals but the ends. -/
theorem window_of_open (h : r.closed = false) (hr : 0 < r.upper) (m : Nat) (e : Int) :
  (r.window e).low ≤ m ∧ m ≤ (r.window e).high
    ↔ r.multiple r.lower < m * 10 ^ e ∧ m * 10 ^ e < r.multiple r.upper
  := by
  obtain ⟨hup, hdown⟩ := gridScale_pos r.unit e
  have hpos : 0 < r.upper * (gridScale r.unit e).1 := Nat.mul_pos hr hup
  rw [← not_le, ← not_le, multiple_le_iff, le_multiple_iff, window, h]
  generalize gridScale r.unit e = scale at *
  obtain ⟨up, down⟩ := scale
  dsimp only at *
  rw [if_neg Bool.false_ne_true]
  dsimp only
  rw [Nat.le_div_iff_mul_le hdown, Nat.succ_le_iff, Nat.div_lt_iff_lt_mul hdown]
  omega

/-- The window has the numbers of the grid that lie in the interval. -/
theorem mem_window_iff (hr : 0 < r.upper) (m : Nat) (e : Int) :
  (r.window e).low ≤ m ∧ m ≤ (r.window e).high ↔ r.Holds (m * 10 ^ e)
  := by
  cases hclosed : r.closed with
  | true =>
    rw [window_of_closed hclosed]
    constructor
    · rintro ⟨hlower, hupper⟩
      exact .closed hclosed hlower hupper
    · intro h
      exact ⟨h.lower_le, h.le_upper⟩
  | false =>
    rw [window_of_open hclosed hr]
    constructor
    · rintro ⟨hlower, hupper⟩
      exact .inside hlower hupper
    · rintro (⟨hlower, hupper⟩ | hclosed')
      · exact ⟨hlower, hupper⟩
      · exact absurd hclosed' (ne_true_of_eq_false hclosed)

/-- The float, rounded down on the grid, is no more than one below the window and not above it. -/
theorem window_doubled (hlower : r.lower ≤ r.value) (hupper : r.value < r.upper) (e : Int) :
  (r.window e).low ≤ (r.window e).doubled / 2 + 1 ∧ (r.window e).doubled / 2 ≤ (r.window e).high
  := by
  obtain ⟨hup, hdown⟩ := gridScale_pos r.unit e
  unfold window
  generalize gridScale r.unit e = scale at *
  obtain ⟨up, down⟩ := scale
  dsimp only at *
  have hhalf : 2 * r.value * up / down / 2 = r.value * up / down := by
    rw [Nat.div_div_eq_div_mul, mul_comm down, mul_assoc, Nat.mul_div_mul_left _ _ Nat.two_pos]
  have hle : r.lower * up ≤ r.value * up := Nat.mul_le_mul_right up hlower
  have hlt : r.value * up < r.upper * up := Nat.mul_lt_mul_of_pos_right hupper hup
  have hfloor := Nat.div_mul_le_self (r.value * up) down
  have hnext := Nat.lt_div_mul_add (a := r.value * up) hdown
  split
  · dsimp only
    rw [hhalf, Nat.div_le_iff_le_mul_add_pred hdown, Nat.le_div_iff_mul_le hdown, mul_comm down,
      add_mul]
    omega
  · dsimp only
    rw [hhalf, Nat.le_div_iff_mul_le hdown]
    exact ⟨Nat.succ_le_succ (Nat.div_le_div_right hle), by omega⟩

end Rounding

/-! ### The search -/

namespace Window

/-- What the search hits is inside of the window. -/
theorem inside_of_hit? (h : w.hit? step = some m) :
  w.low ≤ m * step ∧ m * step ≤ w.high
  := by
  unfold hit? at h
  dsimp only at h
  split at h
  case h_1 hd hnext =>
    simp only [Bool.and_eq_true, decide_eq_true_eq] at hd hnext
    split at h <;> cases h <;> assumption
  case h_2 hd _ =>
    cases h
    simpa using hd
  case h_3 _ hnext =>
    cases h
    simpa using hnext
  case h_4 => cases h

/-- If a multiple of the step lies in the window, one of the two neighbours of the float does. -/
theorem exists_hit? (hstep : 0 < step) (hlow : w.low ≤ w.doubled / 2 + 1)
    (hhigh : w.doubled / 2 ≤ w.high) (hm : w.low ≤ m * step ∧ m * step ≤ w.high) :
  ∃ d, w.hit? step = some d
  := by
  unfold hit?
  dsimp only
  generalize w.doubled / 2 = f at hlow hhigh
  have hfloor := Nat.div_mul_le_self f step
  have hnext : f + 1 ≤ (f / step + 1) * step := by
    rw [add_mul, one_mul]
    exact Nat.lt_div_mul_add hstep
  split
  case h_4 hd hd' =>
    obtain hle | hlt := le_or_gt (m * step) f
    · have hmul : m * step ≤ f / step * step :=
        Nat.mul_le_mul_right step ((Nat.le_div_iff_mul_le hstep).mpr hle)
      simp at hd
      omega
    · have hmul : (f / step + 1) * step ≤ m * step :=
        Nat.mul_le_mul_right step ((Nat.div_lt_iff_lt_mul hstep).mpr hlt)
      simp at hd'
      omega
  all_goals exact ⟨_, rfl⟩

/-- The search comes to a hit that is at least as coarse as a known one. -/
theorem search_eq {i : Nat} (hi : i ≤ k) {c : Nat} (h : w.hit? (10 ^ i) = some c) :
  ∃ d j, w.search k = (d, j) ∧ i ≤ j ∧ w.hit? (10 ^ j) = some d
  := by
  induction k with
  | zero =>
    obtain rfl := Nat.le_zero.mp hi
    refine ⟨c, 0, ?_, le_rfl, h⟩
    rw [search, show w.hit? 1 = some c from h]
    rfl
  | succ k ih =>
    cases hcoarse : w.hit? (10 ^ (k + 1)) with
    | some d =>
      refine ⟨d, k + 1, ?_, hi, hcoarse⟩
      rw [search, show w.hit? (Nat.pow 10 (k + 1)) = some d from hcoarse]
    | none =>
      have hne : i ≠ k + 1 := by
        rintro rfl
        rw [hcoarse] at h
        cases h
      obtain ⟨d, j, hsearch, hij, hd⟩ := ih (by omega)
      refine ⟨d, j, ?_, hij, hd⟩
      rw [search, show w.hit? (Nat.pow 10 (k + 1)) = none from hcoarse, hsearch]

end Window

/-! ### The interval of a float -/

/-- A float that is not zero has a significand. -/
theorem significand_pos (h : magnitude x ≠ 0) :
  0 < significand x
  := Nat.pos_of_ne_zero (Nat.ne_zero_of_mul_ne_zero_left h)

/-- A finite float is doubled a limited number of times. -/
theorem doublings_le (hx : isFinite x = true) :
  doublings x ≤ 2045
  := by
  have hlt := exponentField_lt x
  rw [isFinite, bne_iff_ne] at hx
  unfold doublings
  omega

/-- The interval does not begin above the float. -/
theorem lower_le_value (x : Float) :
  (rounding x).lower ≤ (rounding x).value
  := Nat.sub_le _ _

/-- The interval begins at most half a unit below the float. -/
theorem value_le_lower (x : Float) :
  (rounding x).value ≤ (rounding x).lower + 2
  := by
  unfold rounding
  dsimp only
  split <;> omega

/-- The interval ends half a unit above the float. -/
theorem upper_eq (x : Float) :
  (rounding x).upper = (rounding x).value + 2
  := rfl

/-- A multiple of the unit of a float, as a multiple of a power of two. -/
theorem multiple_rounding (x : Float) (a : Nat) :
  (rounding x).multiple a = a * 2 ^ ((doublings x : Int) - 1076)
  := rfl

/-- The number `0.30103` is greater than the logarithm of two, but not by so much that it matters
for the exponents of floats. -/
theorem ten_zpow_le_two_zpow {l : Int} (hlower : -1074 ≤ l) (hupper : l ≤ 1023) :
  (10 : ℚ) ^ (l * 30103).fdiv 100000 ≤ 2 ^ l
  := by
  have hpositive : ∀ n < 1024, 10 ^ (n * 30103 / 100000) ≤ 2 ^ n := by decide +kernel
  have hnegative : ∀ n < 1075, 2 ^ n ≤ 10 ^ ((n * 30103 + 99999) / 100000) := by decide +kernel
  rw [Int.fdiv_eq_ediv_of_nonneg _ (by decide)]
  obtain ⟨n, rfl | rfl⟩ := l.eq_nat_or_neg
  · have hexponent : (n * 30103 : Int) / 100000 = (n * 30103 / 100000 : Nat) := by omega
    rw [hexponent, zpow_natCast, zpow_natCast]
    exact_mod_cast hpositive n (by omega)
  · have hexponent : (-n * 30103 : Int) / 100000 = -((n * 30103 + 99999) / 100000 : Nat) := by omega
    rw [hexponent, zpow_neg, zpow_neg, zpow_natCast, zpow_natCast]
    apply inv_anti₀ (by positivity)
    exact_mod_cast hnegative n (by omega)

/-- The grid for seventeen digits is finer than the interval is wide. -/
theorem ten_zpow_lt (hx : isFinite x = true) (h : magnitude x ≠ 0) :
  (10 : ℚ) ^ ((rounding x).logTen - 16) < 3 * 2 ^ ((doublings x : Int) - 1076)
  := by
  have hdoublings := doublings_le hx
  have hsignificand := significand_lt x
  have hpos := significand_pos h
  have hlower : 2 ≤ (4 * significand x).log2 := (Nat.le_log2 (by omega)).mpr (by omega)
  have hupper : (4 * significand x).log2 < 55 := (Nat.log2_lt (by omega)).mpr (by omega)
  have hlog := ten_zpow_le_two_zpow (l := ((4 * significand x).log2 + doublings x : Nat) - 1076)
    (by omega) (by omega)
  have htwo : (2 : ℚ) ^ (((4 * significand x).log2 + doublings x : Nat) - 1076 : Int)
      ≤ 2 ^ 54 * 2 ^ ((doublings x : Int) - 1076) := by
    rw [← zpow_natCast, ← zpow_add₀ two_ne_zero]
    apply zpow_le_zpow_right₀ one_le_two
    omega
  have hten : (10 : ℚ) ^ ((rounding x).logTen - 16) * 10 ^ 16 = 10 ^ (rounding x).logTen := by
    rw [← zpow_natCast, ← zpow_add₀ (by norm_num)]
    simp
  have hunit : (0 : ℚ) < 2 ^ ((doublings x : Int) - 1076) := zpow_pos two_pos _
  change (10 : ℚ) ^ (rounding x).logTen ≤ _ at hlog
  linarith

/-- The interval is at least three of its units wide. -/
theorem lower_add_three_le (h : magnitude x ≠ 0) :
  (rounding x).lower + 3 ≤ (rounding x).upper
  := by
  have hpos := significand_pos h
  unfold rounding
  dsimp only
  split <;> omega

/-- Seventeen digits suffice. -/
theorem exists_holds (hx : isFinite x = true) (h : magnitude x ≠ 0) :
  ∃ m : Nat, (rounding x).Holds (m * 10 ^ ((rounding x).logTen - 16))
  := by
  have hgrid := ten_zpow_lt hx h
  have hten : (0 : ℚ) < 10 ^ ((rounding x).logTen - 16) := zpow_pos (by norm_num) _
  have hunit : (0 : ℚ) < 2 ^ ((doublings x : Int) - 1076) := zpow_pos two_pos _
  have hwidth : (rounding x).multiple (rounding x).lower + 3 * 2 ^ ((doublings x : Int) - 1076)
      ≤ (rounding x).multiple (rounding x).upper := by
    rw [multiple_rounding, multiple_rounding, ← add_mul, mul_le_mul_iff_left₀ hunit]
    exact_mod_cast lower_add_three_le h
  have hlower : 0 ≤ (rounding x).multiple (rounding x).lower :=
    mul_nonneg (Nat.cast_nonneg _) hunit.le
  generalize (10 : ℚ) ^ ((rounding x).logTen - 16) = g at hgrid hten ⊢
  generalize hupper : (rounding x).multiple (rounding x).upper = u at hwidth
  -- the greatest multiple of the grid below the upper end
  obtain ⟨m, hm⟩ : ∃ m, ⌈u / g⌉₊ = m + 1 :=
    Nat.exists_eq_add_one_of_ne_zero (Nat.ceil_pos.mpr (div_pos (by linarith) hten)).ne'
  have hbelow : (m : ℚ) < u / g := Nat.lt_ceil.mp (by omega)
  have habove : u / g ≤ (m + 1 : Nat) := hm ▸ Nat.le_ceil (u / g)
  rw [div_le_iff₀ hten, Nat.cast_add, Nat.cast_one, add_mul, one_mul] at habove
  refine ⟨m, .inside (by linarith) ?_⟩
  rw [hupper]
  exact (lt_div_iff₀ hten).mp hbelow

/-! ### Numbers on either side of the float -/

/-- A float that is doubled has a full significand. -/
theorem twoPow_le_significand (h : doublings x ≠ 0) :
  2 ^ 52 ≤ significand x
  := by
  unfold doublings at h
  unfold significand
  rw [if_neg (by omega)]
  exact Nat.le_add_right _ _

/-- A multiple of the unit, as a multiple of a quarter of the least unit. -/
theorem multiple_mul_units (x : Float) (a : Nat) :
  (rounding x).multiple a * (4 * unitsOfOne : Nat) = (a * 2 ^ doublings x : Nat)
  := by
  have hunits : ((4 * unitsOfOne : Nat) : ℚ) = 2 ^ ((doublingsOfOne + 2 : Nat) : Int) := by
    rw [zpow_natCast, unitsOfOne_eq]
    push_cast
    ring
  have hexponent : (doublings x : Int) - 1076 + (doublingsOfOne + 2 : Nat) = doublings x := by
    unfold doublingsOfOne
    omega
  rw [multiple_rounding, hunits, mul_assoc, ← zpow_add₀ two_ne_zero, hexponent, zpow_natCast]
  push_cast
  rfl

theorem zero_lt_four_units :
  (0 : ℚ) < (4 * unitsOfOne : Nat)
  := Nat.cast_pos.mpr (Nat.mul_pos (by decide) unitsOfOne_pos)

/-- Whether a multiple of the unit is below a natural number is a comparison of natural numbers. -/
theorem multiple_lt_natCast_iff (x : Float) (a n : Nat) :
  (rounding x).multiple a < n ↔ a * 2 ^ doublings x < 4 * (n * unitsOfOne)
  := by
  rw [← mul_lt_mul_iff_left₀ zero_lt_four_units, multiple_mul_units, ← Nat.cast_mul, Nat.cast_lt,
    mul_left_comm]

/-- Whether a multiple of the unit is above a natural number is a comparison of natural numbers. -/
theorem natCast_lt_multiple_iff (x : Float) (a n : Nat) :
  n < (rounding x).multiple a ↔ 4 * (n * unitsOfOne) < a * 2 ^ doublings x
  := by
  rw [← mul_lt_mul_iff_left₀ zero_lt_four_units, multiple_mul_units, ← Nat.cast_mul, Nat.cast_lt,
    mul_left_comm]

/-- A number with few binary digits is a multiple of the unit of the float, or else far below the
float. -/
theorem multiple_or_below {b : Nat} (hb : b ≤ 2 ^ 50) (j : Nat) (x : Float) :
  (∃ c, b * 2 ^ j * unitsOfOne = c * 2 ^ doublings x) ∨ 4 * (b * 2 ^ j * unitsOfOne) ≤ magnitude x
  := by
  rw [unitsOfOne_eq, mul_assoc, ← pow_add]
  generalize j + doublingsOfOne = i
  obtain hle | hlt := le_or_gt (doublings x) i
  · left
    use b * 2 ^ (i - doublings x)
    rw [mul_assoc, ← pow_add, Nat.sub_add_cancel hle]
  · right
    calc 4 * (b * 2 ^ i)
      _ ≤ 4 * (2 ^ 50 * 2 ^ doublings x) := by gcongr; decide
      _ = 2 ^ 52 * 2 ^ doublings x := by ring
      _ ≤ magnitude x := Nat.mul_le_mul_right _ (twoPow_le_significand (by omega))

variable {b j : Nat}

/-- What rounds to the float is on the same side of a number with few binary digits. -/
theorem Rounding.Holds.lt_of_magnitude_lt (hq : (rounding x).Holds q) (hb : b ≤ 2 ^ 50)
    (h : magnitude x < b * 2 ^ j * unitsOfOne) :
  q < (b * 2 ^ j : Nat)
  := by
  apply hq.le_upper.trans_lt
  rw [multiple_lt_natCast_iff]
  obtain ⟨c, hc⟩ | hbelow := multiple_or_below hb j x
  · rw [hc] at h ⊢
    have hlt : significand x < c := lt_of_mul_lt_mul_right h (Nat.zero_le _)
    rw [← mul_assoc]
    apply Nat.mul_lt_mul_of_pos_right _ (Nat.two_pow_pos _)
    change 4 * significand x + 2 < 4 * c
    omega
  · omega

/-- What rounds to a float above a number with few binary digits is above that number. -/
theorem Rounding.Holds.lt_of_lt_magnitude (hq : (rounding x).Holds q) (hb : b ≤ 2 ^ 50)
    (h : b * 2 ^ j * unitsOfOne < magnitude x) :
  (b * 2 ^ j : Nat) < q
  := by
  apply hq.lower_le.trans_lt'
  rw [natCast_lt_multiple_iff]
  have hpos := significand_pos (Nat.ne_zero_of_lt h)
  have hle : 4 * significand x ≤ (rounding x).lower + 2 := value_le_lower x
  obtain ⟨c, hc⟩ | hbelow := multiple_or_below hb j x
  · rw [hc] at h ⊢
    have hlt : c < significand x := lt_of_mul_lt_mul_right h (Nat.zero_le _)
    rw [← mul_assoc]
    apply Nat.mul_lt_mul_of_pos_right _ (Nat.two_pow_pos _)
    omega
  · apply hbelow.trans_lt
    apply Nat.mul_lt_mul_of_pos_right _ (Nat.two_pow_pos _)
    omega

/-! ### The shortest decimal -/

/-- The number `d · 10 ^ p`, without zeros at the end of its digits. -/
def Decimal.scaled (d : Nat) (p : Int) : Decimal :=
  ⟨trimZeros (Nat.toDigits 10 d), p + (Nat.toDigits 10 d).length⟩

/-- What rounds to a float other than zero is positive. -/
theorem Rounding.Holds.pos (hq : (rounding x).Holds q) (h : magnitude x ≠ 0) :
  0 < q
  := by
  have hpos := significand_pos h
  have hle : 4 * significand x ≤ (rounding x).lower + 2 := value_le_lower x
  apply hq.lower_le.trans_lt'
  rw [multiple_rounding]
  exact mul_pos (Nat.cast_pos.mpr (by omega)) (zpow_pos two_pos _)

/-- If a decimal with few digits lies in the interval, the shortest one has no more places. -/
theorem exists_shortest (h : magnitude x ≠ 0) {i : Nat} (hi : i ≤ 16)
    (hm : (rounding x).Holds (m * 10 ^ ((rounding x).logTen - 16 + i))) :
  ∃ (d : Nat) (p : Int), 0 < d ∧ (rounding x).logTen - 16 + i ≤ p
    ∧ (rounding x).Holds (d * 10 ^ p) ∧ shortest x = .scaled d p
  := by
  have hpos := significand_pos h
  have hupper := upper_eq x
  have hvalue : (rounding x).value < (rounding x).upper := by omega
  unfold shortest
  rw [if_neg h]
  dsimp only
  generalize (rounding x).logTen - 16 = e at hm ⊢
  have hgrid (a j : Nat) : (a : ℚ) * 10 ^ (e + j) = (a * 10 ^ j : Nat) * 10 ^ e := by
    rw [zpow_add₀ (by norm_num), zpow_natCast]
    push_cast
    ring
  have hmem := mem_window_iff (r := rounding x) (by omega) (e := e)
  obtain ⟨hlow, hhigh⟩ := window_doubled (lower_le_value x) hvalue e
  rw [hgrid, ← hmem] at hm
  obtain ⟨c, hc⟩ := Window.exists_hit? (Nat.pow_pos (by decide)) hlow hhigh hm
  have hdigits : i ≤ if ((rounding x).window e).doubled / 2 < Nat.pow 10 17 then 16 else 17 := by
    split <;> omega
  obtain ⟨d, j, hsearch, hij, hd⟩ := Window.search_eq hdigits hc
  have hholds : (rounding x).Holds (d * 10 ^ (e + j)) := by
    rw [hgrid, ← hmem]
    exact Window.inside_of_hit? hd
  have hpositive : 0 < d :=
    Nat.cast_pos.mp (pos_of_mul_pos_left (hholds.pos h) (zpow_pos (by norm_num) _).le)
  refine ⟨d, e + j, hpositive, by omega, hholds, ?_⟩
  rw [hsearch]
  rfl

/-- A natural number rounds to the float that it is. -/
theorem holds_natCast {n : Nat} (hn : magnitude x = n * unitsOfOne) (h : magnitude x ≠ 0) :
  (rounding x).Holds n
  := by
  have hpos := significand_pos h
  have hle : (rounding x).lower < 4 * significand x := by
    unfold rounding
    dsimp only
    split <;> omega
  have hvalue : 4 * (n * unitsOfOne) = 4 * significand x * 2 ^ doublings x := by
    rw [← hn, mul_assoc]
    rfl
  apply Rounding.Holds.inside
  · rw [multiple_lt_natCast_iff, hvalue]
    exact Nat.mul_lt_mul_of_pos_right hle (Nat.two_pow_pos _)
  · rw [natCast_lt_multiple_iff, hvalue, upper_eq]
    apply Nat.mul_lt_mul_of_pos_right _ (Nat.two_pow_pos _)
    exact Nat.lt_add_of_pos_right Nat.two_pos

/-- A float from one on has a decimal logarithm that is not negative. -/
theorem logTen_nonneg (h : unitsOfOne ≤ magnitude x) :
  0 ≤ (rounding x).logTen
  := by
  have hpos := significand_pos (Nat.ne_zero_of_lt (unitsOfOne_pos.trans_le h))
  have hlog : 1076 ≤ (4 * significand x).log2 + doublings x := by
    rw [← log2_mul_twoPow (by omega), Nat.le_log2 (by positivity)]
    rw [unitsOfOne_eq] at h
    calc 2 ^ 1076
      _ = 4 * 2 ^ doublingsOfOne := pow_add 2 2 doublingsOfOne
      _ ≤ 4 * magnitude x := Nat.mul_le_mul_left 4 h
      _ = 4 * significand x * 2 ^ doublings x := (mul_assoc 4 _ _).symm
  change 0 ≤ ((((4 * significand x).log2 + doublings x : Nat) - 1076 : Int) * 30103).fdiv 100000
  rw [Int.fdiv_eq_ediv_of_nonneg _ (by decide)]
  omega

/-- The shortest decimal of a float that is a natural number is one too. -/
theorem exists_shortest_natural (hx : isFinite x = true) {n : Nat}
    (hn : magnitude x = n * unitsOfOne) (h : n ≠ 0) :
  ∃ d k : Nat, 0 < d ∧ (rounding x).Holds (d * 10 ^ k : Nat) ∧ shortest x = .scaled d k
  := by
  have hone : unitsOfOne ≤ magnitude x := by
    rw [hn]
    exact Nat.le_mul_of_pos_left _ (Nat.pos_of_ne_zero h)
  have hzero : magnitude x ≠ 0 := Nat.ne_zero_of_lt (unitsOfOne_pos.trans_le hone)
  have hlog := logTen_nonneg hone
  obtain ⟨d, p, hd, hp, hq, hshortest⟩ : ∃ (d : Nat) (p : Int), 0 < d ∧ 0 ≤ p
      ∧ (rounding x).Holds (d * 10 ^ p) ∧ shortest x = .scaled d p := by
    obtain hneg | hnonneg := lt_or_ge ((rounding x).logTen - 16) 0
    · -- the number itself lies on a grid of the search
      obtain ⟨i, hi⟩ := Int.eq_ofNat_of_zero_le (show 0 ≤ -((rounding x).logTen - 16) by omega)
      have hgrid : (rounding x).logTen - 16 + i = 0 := by omega
      have hself : (rounding x).Holds (n * 10 ^ ((rounding x).logTen - 16 + i)) := by
        rw [hgrid, zpow_zero, mul_one]
        exact holds_natCast hn hzero
      obtain ⟨d, p, hd, hp, hq⟩ := exists_shortest hzero (by omega) hself
      exact ⟨d, p, hd, by omega, hq⟩
    · obtain ⟨m, hm⟩ := exists_holds hx hzero
      obtain ⟨d, p, hd, hp, hq⟩ := exists_shortest hzero (Nat.zero_le 16) (by simpa using hm)
      exact ⟨d, p, hd, by omega, hq⟩
  obtain ⟨k, rfl⟩ := Int.eq_ofNat_of_zero_le hp
  refine ⟨d, k, hd, ?_, hshortest⟩
  rw [zpow_natCast] at hq
  exact_mod_cast hq

/-! ### Floats with the same magnitude -/

/-- Floats of the same magnitude have the same exponent and the same fraction. -/
theorem fields_of_magnitude_eq {y : Float} (h : magnitude x = magnitude y) :
  exponentField x = exponentField y ∧ fractionField x = fractionField y
  := by
  have hdoublings : doublings x = doublings y ∧ significand x = significand y := by
    wlog hle : doublings x ≤ doublings y generalizing x y with hrec
    · obtain ⟨hd, hs⟩ := hrec h.symm (Nat.le_of_not_le hle)
      exact ⟨hd.symm, hs.symm⟩
    obtain ⟨k, hk⟩ := Nat.exists_eq_add_of_le hle
    change significand x * 2 ^ doublings x = significand y * 2 ^ doublings y at h
    rw [hk, pow_add, mul_left_comm, mul_comm, Nat.mul_right_inj (Nat.two_pow_pos _).ne'] at h
    obtain rfl | hk' := Nat.eq_zero_or_pos k
    · exact ⟨hk.symm, by simpa using h⟩
    · have hx := significand_lt x
      have hy := twoPow_le_significand (x := y) (by omega)
      have hpow : 2 ^ 1 ≤ 2 ^ k := Nat.pow_le_pow_right Nat.two_pos hk'
      nlinarith
  have hx := fractionField_lt x
  have hy := fractionField_lt y
  obtain ⟨hd, hs⟩ := hdoublings
  have hweight : exponentWeight = 2 ^ 52 := rfl
  unfold doublings at hd
  unfold significand at hs
  split at hs <;> split at hs <;> omega

/-- Floats of the same magnitude have the same shortest decimal. -/
theorem shortest_congr {y : Float} (h : magnitude x = magnitude y) :
  shortest x = shortest y
  := by
  obtain ⟨he, hf⟩ := fields_of_magnitude_eq h
  unfold shortest rounding significand doublings
  rw [h, he, hf]

end StoryScript.Number
