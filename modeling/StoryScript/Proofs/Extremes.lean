import StoryScript.Builtin.Standard
import StoryScript.Proofs.Comparison

/-!
# The least and the greatest integer

The built-ins `min` and `max` compare all numbers as floats, integers too.  Of integers they find
the first one that is rounded to the least, or to the greatest, float.  Main statements: the result
is the least, or the greatest, of the integers up to rounding, and exactly so when none of them is
beyond `2 ^ 53`.
-/

namespace StoryScript.Standard

open Number

/-- `FirstBest key ns m` says that `m` is the first of the integers whose keys are greatest. -/
inductive FirstBest (key : Whole → Int) : List Whole → Whole → Prop where
  | head {n : Whole} {ns : List Whole} (h : ∀ k ∈ ns, key k ≤ key n) : FirstBest key (n :: ns) n
  | tail {n m : Whole} {ns : List Whole} (h : key n < key m) (hrest : FirstBest key ns m) :
    FirstBest key (n :: ns) m

variable {key : Whole → Int} {ns : List Whole} {n m : Whole}

namespace FirstBest

/-- The first best is one of the integers. -/
theorem mem (h : FirstBest key ns m) :
  m ∈ ns
  := by
  induction h with
  | head => apply List.mem_cons_self
  | tail _ _ ih => exact List.mem_cons_of_mem _ ih

/-- No integer has a greater key than the first best. -/
theorem le (h : FirstBest key ns m) :
  ∀ n ∈ ns, key n ≤ key m
  := by
  induction h with
  | head h => exact List.forall_mem_cons.mpr ⟨le_rfl, h⟩
  | tail h _ ih => exact List.forall_mem_cons.mpr ⟨h.le, ih⟩

/-- An integer after the first one that is no better makes no difference. -/
theorem insert {best : Whole} (h : FirstBest key (best :: ns) m) (hn : key n ≤ key best) :
  FirstBest key (best :: n :: ns) m
  := by
  cases h with
  | head h => exact head (List.forall_mem_cons.mpr ⟨hn, h⟩)
  | tail h hrest => exact tail h (tail (hn.trans_lt h) hrest)

end FirstBest

/-! ### The search for the best number -/

/-- The scan finds the first best of the integer at hand and those that follow. -/
theorem bestOf_ints (better : Float → Float → Bool) (key : Whole → Int)
    (hbetter : ∀ n k, better (ofWhole k) (ofWhole n) = decide (key n < key k))
    (ns : List Whole) (best : Whole) (index : Nat) :
  ∃ m, bestOf better (.int best) (ofWhole best) index (ns.map .int) = .ok (.int m)
    ∧ FirstBest key (best :: ns) m
  := by
  induction ns generalizing best index with
  | nil => exact ⟨best, rfl, .head (by simp)⟩
  | cons n ns ih =>
    have hstep : bestOf better (.int best) (ofWhole best) index ((n :: ns).map .int)
        = if better (ofWhole n) (ofWhole best) then
            bestOf better (.int n) (ofWhole n) (index + 1) (ns.map .int)
          else bestOf better (.int best) (ofWhole best) (index + 1) (ns.map .int) := rfl
    rw [hstep, hbetter]
    by_cases hlt : key best < key n
    · obtain ⟨m, heq, hbest⟩ := ih n (index + 1)
      rw [decide_eq_true hlt, if_pos rfl]
      exact ⟨m, heq, .tail (hlt.trans_le (hbest.le n List.mem_cons_self)) hbest⟩
    · obtain ⟨m, heq, hbest⟩ := ih best (index + 1)
      rw [decide_eq_false hlt, if_neg Bool.false_ne_true]
      exact ⟨m, heq, hbest.insert (Int.le_of_not_gt hlt)⟩

/-- The built-in answers with the first best, for one integer or more. -/
theorem extremum_ints (better : Float → Float → Bool) (key : Whole → Int)
    (hbetter : ∀ n k, better (ofWhole k) (ofWhole n) = decide (key n < key k)) (hns : ns ≠ []) :
  ∃ m, extremum better (ns.map .int) = .ok (.int m) ∧ FirstBest key ns m
  := by
  cases ns with
  | nil => contradiction
  | cons n ns =>
    have hstart : extremum better ((n :: ns).map .int)
        = bestOf better (.int n) (ofWhole n) 1 (ns.map .int) := rfl
    rw [hstart]
    exact bestOf_ints better key hbetter ns n 1

/-! ### Integers -/

/-- Integers are compared as the rounded ones. -/
theorem lt_ofWhole (n k : Whole) :
  Number.lt (ofWhole n) (ofWhole k) = decide (roundedInt n.toInt < roundedInt k.toInt)
  := by
  rw [Value.lt_eq (isNaN_ofWhole n) (isNaN_ofWhole k), units_ofWhole, units_ofWhole]
  simp only [Int.mul_lt_mul_right zero_lt_unitsOfOne]

/-- Integers whose order is lost in rounding are rounded to the same. -/
theorem le_or_rounded_eq {a b : Int} (h : roundedInt a ≤ roundedInt b) :
  a ≤ b ∨ roundedInt a = roundedInt b
  := by
  obtain hle | hlt := le_or_gt a b
  · exact Or.inl hle
  · exact Or.inr (le_antisymm h (roundedInt_mono hlt.le))

/-- The order of integers with at most fifty-three digits is not lost. -/
theorem le_of_roundedInt_le {a b : Int} (ha : a.natAbs ≤ 2 ^ 53) (hb : b.natAbs ≤ 2 ^ 53)
    (h : roundedInt a ≤ roundedInt b) :
  a ≤ b
  := by
  rwa [roundedInt_of_le ha, roundedInt_of_le hb] at h

/-- The result of `max` is the first of the integers that are rounded to the greatest float, and
the result of `min` the first of those that are rounded to the least.  No integer is greater, or
less, unless it is rounded to the same float, and none is if no integer is beyond `2 ^ 53`. -/
theorem extremes_up_to_rounding (hns : ns ≠ []) :
  (∃ m, Standard.max (ns.map .int) = .ok (.int m)
    ∧ FirstBest (fun n => roundedInt n.toInt) ns m
    ∧ (∀ n ∈ ns, n.toInt ≤ m.toInt ∨ roundedInt n.toInt = roundedInt m.toInt)
    ∧ ((∀ n ∈ ns, n.toInt.natAbs ≤ 2 ^ 53) → ∀ n ∈ ns, n.toInt ≤ m.toInt))
  ∧ (∃ m, Standard.min (ns.map .int) = .ok (.int m)
    ∧ FirstBest (fun n => -roundedInt n.toInt) ns m
    ∧ (∀ n ∈ ns, m.toInt ≤ n.toInt ∨ roundedInt m.toInt = roundedInt n.toInt)
    ∧ ((∀ n ∈ ns, n.toInt.natAbs ≤ 2 ^ 53) → ∀ n ∈ ns, m.toInt ≤ n.toInt))
  := by
  constructor
  · obtain ⟨m, heq, hbest⟩ := extremum_ints (fun x y => Number.lt y x)
      (fun n => roundedInt n.toInt) lt_ofWhole hns
    refine ⟨m, heq, hbest, ?_, ?_⟩
    · intro n hn
      exact le_or_rounded_eq (hbest.le n hn)
    · intro hsmall n hn
      exact le_of_roundedInt_le (hsmall n hn) (hsmall m hbest.mem) (hbest.le n hn)
  · obtain ⟨m, heq, hbest⟩ := extremum_ints Number.lt (fun n => -roundedInt n.toInt)
      (fun n k => by simp only [lt_ofWhole, Int.neg_lt_neg_iff]) hns
    refine ⟨m, heq, hbest, ?_, ?_⟩
    · intro n hn
      exact le_or_rounded_eq (Int.le_of_neg_le_neg (hbest.le n hn))
    · intro hsmall n hn
      exact le_of_roundedInt_le (hsmall m hbest.mem) (hsmall n hn)
        (Int.le_of_neg_le_neg (hbest.le n hn))

/-- The greatest of three small integers. -/
theorem max_of_three :
  ∃ m, Standard.max [.int 2, .int 7, .int 5] = .ok (.int m)
    ∧ ∀ n ∈ [2, 7, (5 : Whole)], n.toInt ≤ m.toInt
  := by
  have hsmall : ∀ n ∈ [2, 7, (5 : Whole)], n.toInt.natAbs ≤ 2 ^ 53 := by
    intro n hn
    simp only [List.mem_cons, List.not_mem_nil, or_false] at hn
    obtain rfl | rfl | rfl := hn <;> decide
  obtain ⟨⟨m, heq, -, -, hexact⟩, -⟩ := extremes_up_to_rounding (List.cons_ne_nil 2 [7, 5])
  exact ⟨m, heq, hexact hsmall⟩

/-- The greater of two integers is the second one only if it is so after rounding. -/
theorem max_two (n k : Whole) :
  Standard.max [.int n, .int k]
    = if Number.lt (ofWhole n) (ofWhole k) then .ok (.int k) else .ok (.int n)
  := rfl

/-- Both integers are rounded to `2 ^ 53`, so the first one is taken for the greatest. -/
theorem max_misses_neighbour :
  Standard.max [.int 9007199254740992, .int 9007199254740993] = .ok (.int 9007199254740992)
    ∧ BinaryOp.apply .lt (.int 9007199254740992) (.int 9007199254740993) = .ok (.bool true)
  := by
  have hlt : Number.lt (ofWhole 9007199254740992) (ofWhole 9007199254740993) = false := by
    decide +kernel
  rw [max_two, if_neg (ne_true_of_eq_false hlt)]
  exact ⟨rfl, rfl⟩

end StoryScript.Standard
