import Mathlib.Data.Int.Range
import StoryScript.Builtin.Standard

/-!
# Ranges

The built-in `range` tests the size of a range on the difference of its bounds that is nearest to
the exact one, and then counts up from the first bound.  Main statement: for all bounds, however far
apart, the test is that of the exact difference, and the range has exactly the integers from the
first bound up to, and without, the second.
-/

namespace StoryScript

/-! ### Differences -/

/-- A difference that saturates is the difference clamped to the range. -/
theorem Whole.toInt_subNearest (a b : Whole) :
  (subNearest a b).toInt = max least (min (a.toInt - b.toInt) greatest)
  := by
  apply toInt_clamp

namespace Standard

/-- A difference out of range is too large, or negative, as the nearest one in range is. -/
theorem longestRange_lt_iff (start stop : Whole) :
  longestRange < Whole.subNearest stop start ↔ 1000000 < stop.toInt - start.toInt
  := by
  have hlongest : longestRange.toInt = 1000000 := rfl
  rw [Int64.lt_iff_toInt_lt, Whole.toInt_subNearest, hlongest]
  unfold Whole.least Whole.greatest
  omega

/-! ### Counting -/

/-- A range that is not empty starts with its first number. -/
theorem range_of_lt {m n : Int} (h : m < n) :
  Int.range m n = m :: Int.range (m + 1) n
  := by
  have hcount : (n - m).toNat = (n - (m + 1)).toNat + 1 := by omega
  unfold Int.range
  rw [hcount, List.range_succ_eq_map, List.map_cons, List.map_map]
  congr 1
  · simp
  · apply List.map_congr_left
    intro r _
    simp only [Function.comp_apply, Nat.succ_eq_add_one]
    omega

/-- A range without numbers is empty. -/
theorem range_of_le {m n : Int} (h : n ≤ m) :
  Int.range m n = []
  := by
  have hcount : (n - m).toNat = 0 := by omega
  unfold Int.range
  rw [hcount]
  rfl

/-- The integers that are counted are those from the first one up to the bound, and each of them is
below the bound. -/
theorem countUp_spec (next stop : Whole) (counted : Array Value) :
  ∃ ns : List Whole, countUp next stop counted = counted ++ (ns.map Value.int).toArray
    ∧ ns.map Int64.toInt = Int.range next.toInt stop.toInt
    ∧ ∀ k ∈ ns, k < stop
  := by
  fun_induction countUp next stop counted with
  | case1 next counted hlt ih =>
    obtain ⟨ns, heq, hints, hbelow⟩ := ih
    refine ⟨next :: ns, ?_, ?_, List.forall_mem_cons.mpr ⟨hlt, hbelow⟩⟩
    · rw [heq, List.map_cons]
      simp
    · rw [range_of_lt (Int64.lt_iff_toInt_lt.mp hlt), List.map_cons, hints,
        Whole.toInt_add_one hlt]
  | case2 next counted hge =>
    have hle : stop.toInt ≤ next.toInt := not_lt.mp fun h => hge (Int64.lt_iff_toInt_lt.mpr h)
    refine ⟨[], by simp, ?_, by simp⟩
    rw [range_of_le hle]
    rfl

/-! ### Ranges -/

/-- More than a million numbers are refused, however large the difference is. -/
theorem between_too_long {start stop : Whole} (h : 1000000 < stop.toInt - start.toInt) :
  between start stop = .error (.invalid "range of more than 1000000 elements")
  := by
  rw [between, if_pos ((longestRange_lt_iff start stop).mpr h)]

/-- Up to a million numbers are listed, from the first one to the one before the last. -/
theorem between_spec {start stop : Whole} (h : stop.toInt - start.toInt ≤ 1000000) :
  ∃ ns : List Whole, between start stop = .ok (.list (ns.map Value.int).toArray)
    ∧ ns.map Int64.toInt = Int.range start.toInt stop.toInt
    ∧ ∀ k ∈ ns, k < stop
  := by
  obtain ⟨ns, heq, hints, hbelow⟩ := countUp_spec start stop #[]
  refine ⟨ns, ?_, hints, hbelow⟩
  rw [between, if_neg ((longestRange_lt_iff start stop).not.mpr (not_lt.mpr h)), heq,
    Array.empty_append]

/-- One argument is the end of a range from zero. -/
theorem range_one (stop : Whole) :
  range [.int stop] = between 0 stop
  := by
  unfold range
  rfl

/-- Two arguments are both ends of a range. -/
theorem range_two (start stop : Whole) :
  range [.int start, .int stop] = between start stop
  := by
  unfold range
  rfl

/-- The built-in looks at nothing but its arguments. -/
theorem dispatch_range (args : List Value) (scene : Scene) :
  builtins.dispatch "range" args scene = match range args with
    | .ok v => .done v scene
    | .error e => .failed (Error.ofBuiltin "range" e) scene
  := Builtins.dispatch_ofFunction rfl args scene

/-- A range fails exactly if its bounds differ by more than a million, and else has the integers
from the first bound up to the second, in order.  The first bound is zero unless it is told.  No
number on the way is out of range: every integer that is listed has a successor. -/
theorem range_is_exact (start stop : Whole) (scene : Scene) :
  (1000000 < stop.toInt - start.toInt →
      builtins.dispatch "range" [.int start, .int stop] scene = .failed (Error.ofCause
        (.argumentError "range" "range of more than 1000000 elements")) scene)
    ∧ (stop.toInt - start.toInt ≤ 1000000 →
      ∃ ns : List Whole, builtins.dispatch "range" [.int start, .int stop] scene
          = .done (.list (ns.map Value.int).toArray) scene
        ∧ ns.map Int64.toInt = Int.range start.toInt stop.toInt
        ∧ ns.length = (stop.toInt - start.toInt).toNat
        ∧ ∀ k ∈ ns, (k + 1).toInt = k.toInt + 1)
    ∧ builtins.dispatch "range" [.int stop] scene
      = builtins.dispatch "range" [.int 0, .int stop] scene
  := by
  refine ⟨?_, ?_, ?_⟩
  · intro h
    rw [dispatch_range, range_two, between_too_long h]
    rfl
  · intro h
    obtain ⟨ns, heq, hints, hbelow⟩ := between_spec h
    refine ⟨ns, ?_, hints, ?_, fun k hk => Whole.toInt_add_one (hbelow k hk)⟩
    · rw [dispatch_range, range_two, heq]
    · rw [← ns.length_map (f := Int64.toInt), hints, Int.range, List.length_map, List.length_range]
  · rw [dispatch_range, dispatch_range, range_one, range_two]

/-- The least integer and the greatest one are too far apart, and a range may end at the
greatest. -/
theorem ranges_at_the_limits :
  builtins.dispatch "range" [.int (-9223372036854775808), .int 9223372036854775807]
      (Scene.enter (Host.initial .buffer) "main")
    = .failed (Error.ofCause (.argumentError "range" "range of more than 1000000 elements"))
      (Scene.enter (Host.initial .buffer) "main")
  ∧ ∃ ns : List Whole,
      builtins.dispatch "range" [.int 9223372036854775805, .int 9223372036854775807]
          (Scene.enter (Host.initial .buffer) "main")
        = .done (.list (ns.map Value.int).toArray) (Scene.enter (Host.initial .buffer) "main")
      ∧ ns.map Int64.toInt = [9223372036854775805, 9223372036854775806]
  := by
  constructor
  · obtain ⟨htooLong, -, -⟩ := range_is_exact (-9223372036854775808) 9223372036854775807
      (Scene.enter (Host.initial .buffer) "main")
    exact htooLong (by decide)
  · obtain ⟨-, hlisted, -⟩ := range_is_exact 9223372036854775805 9223372036854775807
      (Scene.enter (Host.initial .buffer) "main")
    obtain ⟨ns, heq, hints, -, -⟩ := hlisted (by decide)
    exact ⟨ns, heq, hints⟩

end Standard

end StoryScript
