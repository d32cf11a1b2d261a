import StoryScript.Proofs.Decimals
import StoryScript.Proofs.IntegerTexts
import StoryScript.Proofs.Equality

/-!
# Texts of floats

The text of a float is its shortest decimal, written in full.  Main statements: an integral float
ends in `.0` exactly when it is below `10 ^ 16`; from there on it is written like an integer, and
is the text of one as long as it is below `2 ^ 63`.
-/

namespace StoryScript.Number

variable {x y : Float} {n d b j : Nat} {ds : List Char} {dec : Decimal}

/-! ### Digits -/

/-- Digits that are all zero denote zero. -/
theorem ofDigits_of_forall_zero (h : ∀ c ∈ ds, c = '0') :
  ofDigits ds = 0
  := by
  rw [← ofDigits_dropWhile, List.dropWhile_eq_nil_iff.mpr]
  · rfl
  · intro c hc
    exact beq_iff_eq.mpr (h c hc)

/-- Nothing but zeros is cut off. -/
theorem exists_zeros (h : ofDigits ds ≠ 0) :
  ∃ k, ds = trimZeros ds ++ zeros k
  := by
  obtain ⟨k, hk⟩ : ∃ k, ds.reverse.takeWhile (· == '0') = zeros k := by
    use (ds.reverse.takeWhile (· == '0')).length
    apply List.eq_replicate_of_mem
    intro c hc
    have hzero := List.mem_takeWhile_imp hc
    exact beq_iff_eq.mp hzero
  use k
  unfold trimZeros
  split
  case h_1 hnil =>
    refine absurd (ofDigits_of_forall_zero ?_) h
    intro c hc
    exact beq_iff_eq.mp (List.dropWhile_eq_nil_iff.mp hnil c (List.mem_reverse.mpr hc))
  case h_2 =>
    have hreverse : (zeros k).reverse = zeros k := List.reverse_replicate
    rw [← List.reverse_inj, List.reverse_append, List.reverse_reverse, hreverse, ← hk,
      List.takeWhile_append_dropWhile]

/-- A power of ten appends as many zeros to the digits of a number. -/
theorem toDigits_mul_tenPow (hd : 0 < d) (k : Nat) :
  Nat.toDigits 10 (d * 10 ^ k) = Nat.toDigits 10 d ++ zeros k
  := by
  induction k with
  | zero => simp [zeros]
  | succ k ih =>
    have hpos : 0 < d * 10 ^ k := Nat.mul_pos hd (Nat.pow_pos (by decide))
    calc Nat.toDigits 10 (d * 10 ^ (k + 1))
      _ = Nat.toDigits 10 (10 * (d * 10 ^ k) + 0) := by
        rw [Nat.pow_succ, add_zero, ← mul_assoc, mul_comm]
      _ = Nat.toDigits 10 (d * 10 ^ k) ++ Nat.toDigits 10 0 :=
        (Nat.toDigits_append_toDigits (by decide) hpos (by decide)).symm
      _ = Nat.toDigits 10 d ++ zeros (k + 1) := by
        rw [ih, List.append_assoc, zeros, zeros, List.replicate_succ']
        rfl

/-- The number of digits tells between which powers of ten a number is. -/
theorem exists_length_toDigits (hd : 0 < d) :
  ∃ a, (Nat.toDigits 10 d).length = a + 1 ∧ 10 ^ a ≤ d ∧ d < 10 ^ (a + 1)
  := by
  have hpos : 0 < (Nat.toDigits 10 d).length := List.length_pos_iff.mpr Nat.toDigits_ne_nil
  obtain ⟨a, ha⟩ := Nat.exists_eq_add_one_of_ne_zero hpos.ne'
  refine ⟨a, ha, ?_, ?_⟩
  · obtain rfl | hlt := Nat.eq_zero_or_pos a
    · exact hd
    · apply Nat.le_of_not_lt
      rw [← Nat.length_toDigits_le_iff (by decide) hlt]
      omega
  · rw [← Nat.length_toDigits_le_iff (by decide) (Nat.succ_pos a)]
    omega

/-- The digits of a natural number have no point among them. -/
theorem point_not_mem_toDigits (m : Nat) :
  '.' ∉ Nat.toDigits 10 m
  := by
  intro h
  exact absurd (List.all_eq_true.mp (all_isDigit_toDigits m) _ h) (by decide)

/-! ### Decimals in full -/

/-- The end of an integer that is written as a float. -/
def pointZero (pointed : Bool) : List Char := if pointed then ['.', '0'] else []

/-- An integral decimal in full is the digits of the number, and a point and a zero if a point is
asked for. -/
theorem full_scaled (hd : 0 < d) (k : Nat) (pointed : Bool) :
  (Decimal.scaled d k).full pointed = Nat.toDigits 10 (d * 10 ^ k) ++ pointZero pointed
  := by
  have hvalue : ofDigits (Nat.toDigits 10 d) ≠ 0 := by
    rw [ofDigits_toDigits]
    exact hd.ne'
  obtain ⟨j, hj⟩ := exists_zeros hvalue
  have hlength := congrArg List.length hj
  rw [List.length_append, zeros, List.length_replicate] at hlength
  obtain ⟨a, ha, -⟩ := exists_length_toDigits hd
  obtain ⟨p, hp⟩ : ∃ p, k + (Nat.toDigits 10 d).length = p + 1 := ⟨k + a, by omega⟩
  have hpoint : (Decimal.scaled d k).point = (p + 1 : Nat) := by
    rw [← hp]
    rfl
  have hplaces : p + 1 - (trimZeros (Nat.toDigits 10 d)).length = j + k := by omega
  unfold Decimal.full
  rw [hpoint]
  change (if (trimZeros (Nat.toDigits 10 d)).length ≤ p + 1 then
    trimZeros (Nat.toDigits 10 d) ++ zeros (p + 1 - (trimZeros (Nat.toDigits 10 d)).length)
      ++ pointZero pointed else _) = _
  rw [if_pos (by omega), hplaces, zeros, List.replicate_add, ← List.append_assoc]
  change trimZeros (Nat.toDigits 10 d) ++ zeros j ++ zeros k ++ _ = _
  rw [← hj, toDigits_mul_tenPow hd]

/-- The place of the point tells the size. -/
theorem point_scaled_le_iff (hd : 0 < d) (p n : Int) :
  (Decimal.scaled d p).point ≤ n ↔ d * 10 ^ p < (10 : ℚ) ^ n
  := by
  obtain ⟨a, ha, hlower, hupper⟩ := exists_length_toDigits hd
  have hten : (0 : ℚ) < 10 ^ p := zpow_pos (by norm_num) p
  have hpoint : (Decimal.scaled d p).point = a + 1 + p := by
    change p + ((Nat.toDigits 10 d).length : Int) = _
    omega
  have hscale (e : Nat) : ((10 ^ e : Nat) : ℚ) * 10 ^ p = 10 ^ (e + p) := by
    rw [zpow_add₀ (by norm_num), zpow_natCast, Nat.cast_pow, Nat.cast_ofNat]
  rw [hpoint]
  constructor
  · intro h
    calc (d : ℚ) * 10 ^ p
      _ < (10 ^ (a + 1) : Nat) * 10 ^ p := mul_lt_mul_of_pos_right (Nat.cast_lt.mpr hupper) hten
      _ = 10 ^ ((a + 1 : Nat) + p) := hscale (a + 1)
      _ ≤ (10 : ℚ) ^ n := zpow_le_zpow_right₀ (by norm_num) (by omega)
  · intro h
    by_contra hlt
    apply h.not_ge
    calc (10 : ℚ) ^ n
      _ ≤ 10 ^ (a + p) := zpow_le_zpow_right₀ (by norm_num) (by omega)
      _ = (10 ^ a : Nat) * 10 ^ p := (hscale a).symm
      _ ≤ d * 10 ^ p := mul_le_mul_of_nonneg_right (Nat.cast_le.mpr hlower) hten.le

/-- The point of an integral decimal comes after at most `n` digits exactly if the number has at
most `n` digits. -/
theorem point_scaled_natural (hd : 0 < d) (k n : Nat) :
  (Decimal.scaled d k).point ≤ n ↔ d * 10 ^ k < 10 ^ n
  := by
  rw [point_scaled_le_iff hd, zpow_natCast, zpow_natCast]
  norm_cast

/-- A decimal in full has a point in it if one is asked for. -/
theorem point_mem_full (dec : Decimal) :
  '.' ∈ dec.full true
  := by
  unfold Decimal.full
  split
  · simp
  · simp
  · split <;> simp

/-- A decimal of at most sixteen digits before the point is written with a point. -/
theorem point_mem_write (h : dec.point ≤ 16) :
  '.' ∈ dec.write .plain
  := by
  change '.' ∈ dec.full (decide (dec.point ≤ 16))
  rw [decide_eq_true h]
  apply point_mem_full

/-! ### Integral floats -/

/-- The natural number that is written for an integral float. -/
def printed (x : Float) : Nat := ofDigits ((shortest x).full false)

/-- The number that is printed depends on the magnitude only. -/
theorem printed_congr (h : magnitude x = magnitude y) :
  printed x = printed y
  := by
  rw [printed, shortest_congr h, printed]

/-- Zero is printed as zero. -/
theorem printed_zero (h : magnitude x = 0) :
  printed x = 0 ∧ shortest x = .scaled 0 0
  := by
  unfold printed shortest
  rw [if_pos h]
  exact ⟨rfl, rfl⟩

/-- A float is integral if it is finite and a multiple of one. -/
theorem isIntegral_iff :
  isIntegral x = true ↔ isFinite x = true ∧ ∃ n, magnitude x = n * unitsOfOne
  := by
  rw [isIntegral, Bool.and_eq_true, beq_iff_eq, ← Nat.dvd_iff_mod_eq_zero]
  apply and_congr_right'
  exact exists_congr fun n => by rw [mul_comm]

/-- An integral float is written as a natural number that rounds to it, in digits and perhaps with
a zero behind the point. -/
theorem write_integral (hx : isIntegral x = true) :
  (magnitude x ≠ 0 → (rounding x).Holds (printed x))
    ∧ (shortest x).write .plain
      = Nat.toDigits 10 (printed x) ++ pointZero (decide (printed x < 10 ^ 16))
  := by
  obtain ⟨hfinite, n, hn⟩ := isIntegral_iff.mp hx
  by_cases hzero : magnitude x = 0
  · obtain ⟨hprinted, hshortest⟩ := printed_zero hzero
    refine ⟨absurd hzero, ?_⟩
    rw [hprinted, hshortest]
    rfl
  · have hne : n ≠ 0 := by
      rintro rfl
      exact hzero (hn.trans (Nat.zero_mul _))
    obtain ⟨d, k, hd, hholds, hshortest⟩ := exists_shortest_natural hfinite hn hne
    have hprinted : printed x = d * 10 ^ k := by
      rw [printed, hshortest, full_scaled hd]
      change ofDigits (_ ++ []) = _
      rw [List.append_nil, ofDigits_toDigits]
    have hpoint : (Decimal.scaled d k).point ≤ 16 ↔ printed x < 10 ^ 16 := by
      rw [hprinted]
      exact point_scaled_natural hd k 16
    refine ⟨fun _ => hprinted ▸ hholds, ?_⟩
    rw [hshortest]
    change (Decimal.scaled d k).full (decide _) = _
    rw [full_scaled hd, ← hprinted, decide_eq_decide.mpr hpoint]

/-- The number that is printed for an integral float rounds to the float. -/
theorem holds_printed (hx : isIntegral x = true) (h : magnitude x ≠ 0) :
  (rounding x).Holds (printed x)
  := (write_integral hx).1 h

/-- What is printed is below a number with few binary digits, if the float is. -/
theorem printed_lt (hx : isIntegral x = true) (hb : b ≤ 2 ^ 50)
    (h : magnitude x < b * 2 ^ j * unitsOfOne) :
  printed x < b * 2 ^ j
  := by
  by_cases hzero : magnitude x = 0
  · rw [(printed_zero hzero).1]
    exact Nat.pos_of_mul_pos_right ((Nat.zero_le _).trans_lt h)
  · exact Nat.cast_lt.mp ((holds_printed hx hzero).lt_of_magnitude_lt hb h)

/-- What is printed is above a number with few binary digits, if the float is. -/
theorem lt_printed (hx : isIntegral x = true) (hb : b ≤ 2 ^ 50)
    (h : b * 2 ^ j * unitsOfOne < magnitude x) :
  b * 2 ^ j < printed x
  := by
  have hholds := holds_printed hx (Nat.ne_zero_of_lt h)
  exact Nat.cast_lt.mp (hholds.lt_of_lt_magnitude hb h)

/-- The written number is on the same side of a number with few binary digits as the float.  Only
the float `y` that is equal to that number has to be computed. -/
theorem printed_lt_iff (hx : isIntegral x = true) (hb : b ≤ 2 ^ 50)
    (hy : magnitude y = b * 2 ^ j * unitsOfOne) (hlower : b * 2 ^ j ≤ n)
    (hupper : n ≤ b * 2 ^ j + 1) (hprinted : n ≤ printed y) :
  printed x < n ↔ magnitude x < b * 2 ^ j * unitsOfOne
  := by
  constructor
  · intro h
    by_contra hge
    obtain heq | hlt := (Nat.le_of_not_lt hge).eq_or_lt
    · rw [printed_congr (heq.symm.trans hy.symm)] at h
      exact h.not_ge hprinted
    · have hbeyond := lt_printed hx hb hlt
      omega
  · intro h
    exact (printed_lt hx hb h).trans_le hlower

/-- The sixteenth power of ten has few enough binary digits to be a bound of this kind. -/
theorem tenPow_sixteen :
  10 ^ 16 = 152587890625 * 2 ^ 16
  := rfl

/-- The least float that is written without a point. -/
def leastBare : Float := Float.ofBits 0x4341c37937e08000

/-- The least float that is greater than every integer. -/
def leastBeyond : Float := Float.ofBits 0x43e0000000000000

/-- The least integral float that is written without a point is the sixteenth power of ten. -/
theorem leastBare_spec :
  magnitude leastBare = 10 ^ 16 * unitsOfOne ∧ printed leastBare = 10 ^ 16
  := by
  decide +kernel

/-- The least float beyond the integers is written as 9223372036854776000. -/
theorem leastBeyond_spec :
  magnitude leastBeyond = 2 ^ 63 * unitsOfOne ∧ printed leastBeyond = 9223372036854776000
  := by
  decide +kernel

/-- What is printed is below the sixteenth power of ten exactly if the float is. -/
theorem printed_lt_tenPow_iff (hx : isIntegral x = true) :
  printed x < 10 ^ 16 ↔ magnitude x < 10 ^ 16 * unitsOfOne
  := by
  obtain ⟨hleast, hprinted⟩ := leastBare_spec
  rw [tenPow_sixteen] at *
  exact printed_lt_iff hx (by decide) hleast le_rfl (Nat.le_succ _) hprinted.ge

/-- What is printed is an integer of a script exactly if the float is in the range of integers. -/
theorem printed_lt_twoPow_iff (hx : isIntegral x = true) :
  (printed x < 2 ^ 63 ↔ magnitude x < 2 ^ 63 * unitsOfOne)
    ∧ (printed x < 2 ^ 63 + 1 ↔ magnitude x < 2 ^ 63 * unitsOfOne)
  := by
  obtain ⟨hleast, hprinted⟩ := leastBeyond_spec
  rw [← Nat.one_mul (2 ^ 63)] at hleast ⊢
  constructor
  · exact printed_lt_iff hx (by decide) hleast le_rfl (Nat.le_succ _) (by rw [hprinted]; decide)
  · exact printed_lt_iff hx (by decide) hleast (Nat.le_succ _) le_rfl (by rw [hprinted]; decide)

/-! ### Floats that are written without a point -/

/-- Large floats are integral, as they have no digits left for a fraction. -/
theorem isIntegral_of_large (hx : isFinite x = true) (h : 2 ^ 53 * unitsOfOne ≤ magnitude x) :
  isIntegral x = true
  := by
  have hle : doublingsOfOne ≤ doublings x := by
    by_contra hlt
    apply h.not_gt
    rw [unitsOfOne_eq]
    calc magnitude x
      _ < 2 ^ 53 * 2 ^ doublings x :=
        Nat.mul_lt_mul_of_pos_right (significand_lt x) (Nat.two_pow_pos _)
      _ ≤ 2 ^ 53 * 2 ^ doublingsOfOne :=
        Nat.mul_le_mul_left _ (Nat.pow_le_pow_right Nat.two_pos (Nat.le_of_not_le hlt))
  apply isIntegral_iff.mpr
  refine ⟨hx, significand x * 2 ^ (doublings x - doublingsOfOne), ?_⟩
  rw [unitsOfOne_eq, mul_assoc, ← pow_add, Nat.sub_add_cancel hle]
  rfl

/-- Below `10 ^ 16` every float is written with a point. -/
theorem le_magnitude_of_bare (hx : isFinite x = true) (h : '.' ∉ (shortest x).write .plain) :
  10 ^ 16 * unitsOfOne ≤ magnitude x
  := by
  by_contra hlt
  apply h
  apply point_mem_write
  by_cases hzero : magnitude x = 0
  · rw [(printed_zero hzero).2]
    decide
  · obtain ⟨m, hm⟩ := exists_holds hx hzero
    obtain ⟨d, p, hd, -, hholds, hshortest⟩ :=
      exists_shortest hzero (Nat.zero_le 16) (by simpa using hm)
    rw [tenPow_sixteen] at hlt
    have hsmall := hholds.lt_of_magnitude_lt (by decide) (Nat.lt_of_not_le hlt)
    rw [hshortest, point_scaled_le_iff hd]
    exact hsmall.trans_eq (by norm_num)

/-- The text of a finite float is its shortest decimal, with a minus sign if it is negative. -/
theorem toList_render (hx : isFinite x = true) (layout : Layout) :
  (render layout x).toList
    = if isNegative x then '-' :: (shortest x).write layout else (shortest x).write layout
  := by
  unfold render
  rw [isNaN_of_isFinite hx, hx]
  simp

end StoryScript.Number

namespace StoryScript.Value

open Number

variable {x : Float} {n : Whole}

/-! ### Texts of integral floats -/

/-- The text of an integral float: a sign, digits, and perhaps a zero behind the point. -/
theorem text_integral (hx : isIntegral x = true) :
  (float x).text.toList
    = (if isNegative x then ['-'] else []) ++ Nat.toDigits 10 (printed x)
      ++ pointZero (decide (magnitude x < 10 ^ 16 * unitsOfOne))
  := by
  change (Number.render .plain x).toList = _
  rw [toList_render (isIntegral_iff.mp hx).1, (write_integral hx).2,
    decide_eq_decide.mpr (printed_lt_tenPow_iff hx)]
  split <;> rfl

/-- From the sixteenth power of ten on, the text of an integral float is just its sign and digits.
-/
theorem text_bare (hx : isIntegral x = true) (h : 10 ^ 16 * unitsOfOne ≤ magnitude x) :
  (float x).text.toList = (if isNegative x then ['-'] else []) ++ Nat.toDigits 10 (printed x)
  := by
  rw [text_integral hx, decide_eq_false h.not_gt]
  exact List.append_nil _

/-- A text without a point is a numeral. -/
theorem denotes_text_bare (hx : isIntegral x = true) (h : 10 ^ 16 * unitsOfOne ≤ magnitude x) :
  Denotes (float x).text.toList (withSign (isNegative x) (printed x))
  := by
  rw [text_bare hx h]
  cases isNegative x with
  | false =>
    have hplain := Denotes.plain Nat.toDigits_ne_nil (all_isDigit_toDigits (printed x))
    rwa [ofDigits_toDigits] at hplain
  | true =>
    have hminus := Denotes.minus Nat.toDigits_ne_nil (all_isDigit_toDigits (printed x))
    rwa [ofDigits_toDigits] at hminus

/-- In the range of the integers it is the one that an integer has as its text. -/
theorem text_bare_eq (hx : isIntegral x = true) (h : 10 ^ 16 * unitsOfOne ≤ magnitude x)
    (hn : n.toInt = withSign (isNegative x) (printed x)) :
  (float x).text = (int n).text
  := by
  have hpos : 0 < printed x := by
    have hlarge := (printed_lt_tenPow_iff hx).not.mpr h.not_gt
    omega
  apply String.toList_inj.mp
  change _ = n.text.toList
  rw [text_bare hx h, Whole.toList_text, hn]
  cases isNegative x with
  | false =>
    have hnonneg : 0 ≤ withSign false (printed x) := Int.natCast_nonneg _
    rw [if_pos hnonneg]
    rfl
  | true =>
    have hneg : ¬ 0 ≤ withSign true (printed x) := by
      change ¬ (0 : Int) ≤ -(printed x : Int)
      omega
    rw [if_neg hneg]
    change _ = '-' :: Nat.toDigits 10 (- -(printed x : Int)).toNat
    rw [Int.neg_neg]
    rfl

/-- A float has a point in its text if its decimal is written with one. -/
theorem point_mem_text (h : '.' ∈ (shortest x).write .plain) (hx : isFinite x = true) :
  '.' ∈ (float x).text.toList
  := by
  change '.' ∈ (Number.render .plain x).toList
  rw [toList_render hx]
  split
  · exact List.mem_cons_of_mem _ h
  · exact h

/-- The text of an integer has no point in it. -/
theorem point_not_mem_text (n : Whole) :
  '.' ∉ (int n).text.toList
  := by
  intro h
  exact absurd (Whole.mem_text h) (by decide)

/-- From the sixteenth power of ten on, floats are integral. -/
theorem integral_of_bare (hx : isFinite x = true) (h : 10 ^ 16 * unitsOfOne ≤ magnitude x) :
  isIntegral x = true
  := isIntegral_of_large hx (h.trans' (Nat.mul_le_mul_right _ (by decide)))

/-- A finite float has the text of an integer exactly in the range between the sixteenth power of
ten and the greatest integer. -/
theorem exists_int_text_iff (hx : isFinite x = true) :
  (∃ n, (float x).text = (int n).text)
    ↔ 10 ^ 16 * unitsOfOne ≤ magnitude x ∧ magnitude x < 2 ^ 63 * unitsOfOne
  := by
  constructor
  · rintro ⟨n, h⟩
    have hlarge : 10 ^ 16 * unitsOfOne ≤ magnitude x := by
      apply le_magnitude_of_bare hx
      intro hpoint
      apply point_not_mem_text n
      rw [← h]
      exact point_mem_text hpoint hx
    have hint := integral_of_bare hx hlarge
    have hread : Whole.ofInt? (withSign (isNegative x) (printed x)) = some n := by
      rw [← readWhole?_eq (denotes_text_bare hint hlarge), h]
      exact (readWhole?_eq n.denotes_text).trans (Whole.ofInt?_eq_some_iff.mpr rfl)
    have hprinted := congrArg Int.natAbs (Whole.ofInt?_eq_some_iff.mp hread)
    rw [natAbs_withSign] at hprinted
    refine ⟨hlarge, (printed_lt_twoPow_iff hint).2.mp ?_⟩
    have hrange := natAbs_le_twoPow n
    omega
  · rintro ⟨hlarge, hsmall⟩
    have hint := integral_of_bare hx hlarge
    have hlt := (printed_lt_twoPow_iff hint).1.mpr hsmall
    cases hn : Whole.ofInt? (withSign (isNegative x) (printed x)) with
    | some n => exact ⟨n, text_bare_eq hint hlarge (Whole.ofInt?_eq_some_iff.mp hn)⟩
    | none =>
      rw [Whole.ofInt?_eq_none_iff] at hn
      unfold withSign Whole.least Whole.greatest at hn
      split at hn <;> omega

/-- An integral float keeps a zero behind the point below `10 ^ 16` only. -/
theorem exists_pointZero_iff (hx : isIntegral x = true) :
  (∃ s, (float x).text = s ++ ".0") ↔ magnitude x < 10 ^ 16 * unitsOfOne
  := by
  constructor
  · rintro ⟨s, h⟩
    by_contra hge
    have hmem : '.' ∈ (float x).text.toList := by
      rw [h, String.toList_append]
      exact List.mem_append_right _ List.mem_cons_self
    rw [text_bare hx (Nat.le_of_not_lt hge), List.mem_append] at hmem
    obtain hsign | hdigit := hmem
    · split at hsign <;> simp at hsign
    · exact point_not_mem_toDigits _ hdigit
  · intro h
    use String.ofList ((if isNegative x then ['-'] else []) ++ Nat.toDigits 10 (printed x))
    apply String.toList_inj.mp
    rw [text_integral hx, decide_eq_true h, String.toList_append, String.toList_ofList]
    rfl

/-! ### Floats and integers as texts -/

/-- The finite floats that have the text of an integer are those from `10 ^ 16` up to `2 ^ 63`, of
either sign, and no integral float from `10 ^ 16` on keeps a zero behind the point.  All others are
kept apart from the integers, by `str` and when they are joined to a text. -/
theorem floats_printed_as_integers (hx : isFinite x = true) :
  ((∃ n, (float x).text = (int n).text)
      ↔ 10 ^ 16 * unitsOfOne ≤ magnitude x ∧ magnitude x < 2 ^ 63 * unitsOfOne)
    ∧ (isIntegral x = true →
      ((∃ s, (float x).text = s ++ ".0") ↔ magnitude x < 10 ^ 16 * unitsOfOne))
    ∧ ∀ n, (float x).text ≠ (int n).text → ∀ scene s,
      Standard.builtins.dispatch "str" [float x] scene
          ≠ Standard.builtins.dispatch "str" [int n] scene
        ∧ BinaryOp.apply .add (str s) (float x) ≠ BinaryOp.apply .add (str s) (int n)
        ∧ BinaryOp.apply .add (float x) (str s) ≠ BinaryOp.apply .add (int n) (str s)
  := by
  refine ⟨exists_int_text_iff hx, exists_pointZero_iff, ?_⟩
  intro n hne scene s
  refine ⟨?_, ?_, ?_⟩
  · change Outcome.done (str (float x).text) scene ≠ .done (str (int n).text) scene
    simpa using hne
  · change Except.ok (str (s ++ (float x).text)) ≠ .ok (str (s ++ (int n).text))
    simpa using hne
  · change Except.ok (str ((float x).text ++ s)) ≠ .ok (str ((int n).text ++ s))
    simpa using hne

/-- The float `2 ^ 53` keeps the zero behind the point, `10 ^ 16` does not, and `2 ^ 63` is written
as an integer that is out of range. -/
theorem texts_at_the_bounds :
  (∃ s, (float (Float.ofBits 0x4340000000000000)).text = s ++ ".0")
    ∧ (∃ n, (float leastBare).text = (int n).text)
    ∧ ¬ ∃ n, (float leastBeyond).text = (int n).text
  := by
  refine ⟨?_, ?_, ?_⟩
  · obtain ⟨-, hpoint, -⟩ :=
      floats_printed_as_integers (x := Float.ofBits 0x4340000000000000) (by decide +kernel)
    exact (hpoint (by decide +kernel)).mpr (by decide +kernel)
  · exact (floats_printed_as_integers (by decide +kernel)).1.mpr (by decide +kernel)
  · rw [(floats_printed_as_integers (by decide +kernel)).1]
    decide +kernel

theorem ten_quadrillion_printed_as_integer :
  isFinite leastBare = true ∧ isIntegral leastBare = true
    ∧ (float leastBare).text = (int 10000000000000000).text
  := by
  decide +kernel

end StoryScript.Value
