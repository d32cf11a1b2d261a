import StoryScript.Proofs.Numerals
import StoryScript.Value.Operators

/-!
# Texts of integers

The text of an integer is its decimal numeral, with a minus sign before the digits of a negative
one.  Main statement: the built-in `int` reads every integer back from its text, also when white
space was put around it.
-/

namespace StoryScript

open Number

/-! ### Digits -/

theorem Number.ofDigits_toDigits (m : Nat) :
  ofDigits (Nat.toDigits 10 m) = m
  := by
  apply Nat.ofDigitChars_toDigits <;> decide

theorem Number.all_isDigit_toDigits (m : Nat) :
  (Nat.toDigits 10 m).all isDigit = true
  := by
  rw [List.all_eq_true]
  intro c hc
  apply Nat.isDigit_of_mem_toDigits _ _ hc <;> decide

/-- Neither a digit nor a sign is white space. -/
theorem Number.Denotes.isBlank {cs : List Char} {n : Int} (h : Denotes cs n) :
  ∀ c ∈ cs, Text.isBlank c = false
  := by
  have hdigits {ds : List Char} (hds : ds.all isDigit = true) :
      ∀ c ∈ ds, Text.isBlank c = false := by
    intro c hc
    exact not_isBlank_of_isDigit (List.all_eq_true.mp hds c hc)
  cases h with
  | plain _ hds => exact hdigits hds
  | plus _ hds | minus _ hds => exact List.forall_mem_cons.mpr ⟨by decide, hdigits hds⟩

theorem Number.Denotes.ne_nil {cs : List Char} {n : Int} (h : Denotes cs n) :
  cs ≠ []
  := by
  cases h with
  | plain hne => exact hne
  | plus | minus => apply List.cons_ne_nil

/-! ### Integers -/

namespace Whole

theorem toList_text (a : Whole) :
  a.text.toList
    = if 0 ≤ a.toInt then Nat.toDigits 10 a.toInt.toNat
      else '-' :: Nat.toDigits 10 (-a.toInt).toNat
  := by
  rw [text, Int.toString_eq_repr, Int.repr_eq_if]
  split <;> simp

/-- The text of an integer is a numeral of it. -/
theorem denotes_text (a : Whole) :
  Denotes a.text.toList a.toInt
  := by
  rw [toList_text]
  split
  · next h =>
    have hdenotes := Denotes.plain Nat.toDigits_ne_nil (all_isDigit_toDigits a.toInt.toNat)
    rwa [ofDigits_toDigits, Int.toNat_of_nonneg h] at hdenotes
  · next h =>
    have hdenotes := Denotes.minus Nat.toDigits_ne_nil (all_isDigit_toDigits (-a.toInt).toNat)
    rwa [ofDigits_toDigits, Int.toNat_of_nonneg (by omega), Int.neg_neg] at hdenotes

theorem text_injective :
  Function.Injective Whole.text
  := by
  intro a b h
  have ha := Number.readWhole?_eq a.denotes_text
  rw [h, Number.readWhole?_eq b.denotes_text, ofInt?_eq_some_iff.mpr rfl] at ha
  exact Int64.toInt_inj.mp (ofInt?_eq_some_iff.mp ha.symm).symm

/-- The text of an integer consists of digits and minus signs. -/
theorem mem_text {a : Whole} {c : Char} (hc : c ∈ a.text.toList) :
  (Number.isDigit c || c == '-') = true
  := by
  have hdigit {m : Nat} (hc : c ∈ Nat.toDigits 10 m) : Number.isDigit c = true :=
    List.all_eq_true.mp (Number.all_isDigit_toDigits m) c hc
  rw [toList_text] at hc
  split at hc
  · rw [hdigit hc, Bool.true_or]
  · obtain rfl | hc := List.mem_cons.mp hc
    · rfl
    · rw [hdigit hc, Bool.true_or]

end Whole

namespace Standard

/-- A numeral in range is read as an integer, whatever white space is around it. -/
theorem readNumber_padded {s : String} {cs : List Char} {a : Whole} (h : Denotes cs a.toInt)
    (hs : Text.Padded cs s.toList) :
  readNumber s = .ok (.int a)
  := by
  have hread : readWhole? cs = some a := by
    rw [readWhole?_eq h]
    exact Whole.ofInt?_eq_some_iff.mpr rfl
  unfold readNumber
  rw [hs.trim_eq h.ne_nil h.isBlank]
  dsimp only
  rw [hread]

theorem int_padded {s : String} {cs : List Char} {a : Whole} (h : Denotes cs a.toInt)
    (hs : Text.Padded cs s.toList) :
  Standard.int [.str s] = .ok (.int a)
  := by
  rw [int_one, toInt, readNumber_padded h hs]
  rfl

/-- An integer that is made a text, and has texts of white space put before and behind it, is read
back as the same integer, and never by way of a float. -/
theorem integers_survive_text (n : Whole) {u w : String}
    (hu : ∀ c ∈ u.toList, Text.isBlank c = true) (hw : ∀ c ∈ w.toList, Text.isBlank c = true)
    (scene : Scene) :
  builtins.dispatch "str" [.int n] scene = .done (.str n.text) scene
    ∧ BinaryOp.apply .add (.str u) (.str n.text) = .ok (.str (u ++ n.text))
    ∧ BinaryOp.apply .add (.str (u ++ n.text)) (.str w) = .ok (.str (u ++ n.text ++ w))
    ∧ readNumber (u ++ n.text ++ w) = .ok (.int n)
    ∧ builtins.dispatch "int" [.str (u ++ n.text ++ w)] scene = .done (.int n) scene
  := by
  have hpadded : Text.Padded n.text.toList (u ++ n.text ++ w).toList := by
    rw [String.toList_append, String.toList_append]
    exact .around hu hw
  refine ⟨rfl, rfl, rfl, readNumber_padded n.denotes_text hpadded, ?_⟩
  rw [Builtins.dispatch_ofFunction (f := Standard.int) rfl, int_padded n.denotes_text hpadded]

/-- The least integer between blanks of several kinds, a line feed among them. -/
theorem least_survives_text :
  builtins.dispatch "str" [.int (-9223372036854775808)] (Scene.enter (Host.initial .buffer) "main")
      = .done (.str "-9223372036854775808") (Scene.enter (Host.initial .buffer) "main")
    ∧ BinaryOp.apply .add (.str "\t\u00a0") (.str "-9223372036854775808")
      = .ok (.str "\t\u00a0-9223372036854775808")
    ∧ BinaryOp.apply .add (.str "\t\u00a0-9223372036854775808") (.str "\n ")
      = .ok (.str "\t\u00a0-9223372036854775808\n ")
    ∧ builtins.dispatch "int" [.str "\t\u00a0-9223372036854775808\n "]
        (Scene.enter (Host.initial .buffer) "main")
      = .done (.int (-9223372036854775808)) (Scene.enter (Host.initial .buffer) "main")
  := by
  have hbefore : ∀ c ∈ "\t\u00a0".toList, Text.isBlank c = true := List.all_eq_true.mp rfl
  have hafter : ∀ c ∈ "\n ".toList, Text.isBlank c = true := List.all_eq_true.mp rfl
  have htext : Whole.text (-9223372036854775808) = "-9223372036854775808" := by decide
  obtain ⟨hstr, hplus, hplus', -, hint⟩ :=
    integers_survive_text (-9223372036854775808) hbefore hafter
      (Scene.enter (Host.initial .buffer) "main")
  rw [htext] at hstr hplus hplus' hint
  exact ⟨hstr, hplus, hplus', hint⟩

end Standard

end StoryScript
