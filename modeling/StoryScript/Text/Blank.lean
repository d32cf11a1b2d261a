/-!
# White space

The characters with the `White_Space` property, and the removal of such characters from
both ends of a text.
-/

namespace StoryScript.Text

/-- Whether a character is white space. -/
def isBlank (c : Char) : Bool :=
  let n := c.toNat
  (9 ≤ n && n ≤ 13) || n == 32 || n == 0x85 || n == 0xa0 || n == 0x1680
    || (0x2000 ≤ n && n ≤ 0x200a) || n == 0x2028 || n == 0x2029 || n == 0x202f
    || n == 0x205f || n == 0x3000

/-- The characters from the first to the last one that is not white space. -/
def trim (cs : List Char) : List Char :=
  ((cs.dropWhile isBlank).reverse.dropWhile isBlank).reverse

/-- `Padded cs text` says that `text` is `cs` with white space around it. -/
inductive Padded (cs : List Char) : List Char → Prop where
  | around {u w : List Char} (hu : ∀ c ∈ u, isBlank c = true) (hw : ∀ c ∈ w, isBlank c = true) :
    Padded cs (u ++ cs ++ w)

theorem isBlank_of_mem_takeWhile {cs : List Char} {c : Char} (h : c ∈ cs.takeWhile isBlank) :
  isBlank c = true
  := List.all_eq_true.mp List.all_takeWhile c h

/-- What is removed is white space. -/
theorem padded_trim (text : List Char) :
  Padded (trim text) text
  := by
  let u := text.takeWhile isBlank
  let rest := (text.dropWhile isBlank).reverse
  let w := (rest.takeWhile isBlank).reverse
  have hrest : trim text ++ w = text.dropWhile isBlank := by
    rw [trim, ← List.reverse_append, List.takeWhile_append_dropWhile, List.reverse_reverse]
  have htext : u ++ trim text ++ w = text := by
    rw [List.append_assoc, hrest, List.takeWhile_append_dropWhile]
  have hpadded : Padded (trim text) (u ++ trim text ++ w) := by
    apply Padded.around
    · intro c hc
      exact isBlank_of_mem_takeWhile hc
    · intro c hc
      exact isBlank_of_mem_takeWhile (List.mem_reverse.mp hc)
  rwa [htext] at hpadded

theorem dropWhile_isBlank_cons {c : Char} (hc : isBlank c = false) (cs : List Char) :
  (c :: cs).dropWhile isBlank = c :: cs
  := by
  apply List.dropWhile_cons_of_neg
  rw [hc]
  exact Bool.false_ne_true

/-- What has no white space in it is left when the white space around it is removed. -/
theorem Padded.trim_eq {cs text : List Char} (h : Padded cs text) (hne : cs ≠ [])
    (hcs : ∀ c ∈ cs, isBlank c = false) :
  trim text = cs
  := by
  cases h with
  | @around u w hu hw =>
    have hback : ∀ c ∈ w.reverse, isBlank c = true := fun c hc => hw c (List.mem_reverse.mp hc)
    obtain ⟨first, rest, hfirst⟩ := List.exists_cons_of_ne_nil hne
    obtain ⟨last, others, hlast⟩ := List.exists_cons_of_ne_nil (List.reverse_ne_nil_iff.mpr hne)
    have hfront : (u ++ cs ++ w).dropWhile isBlank = cs ++ w := by
      rw [List.append_assoc, List.dropWhile_append_of_pos hu, hfirst]
      apply dropWhile_isBlank_cons
      apply hcs
      rw [hfirst]
      exact List.mem_cons_self
    have hend : cs.reverse.dropWhile isBlank = cs.reverse := by
      rw [hlast]
      apply dropWhile_isBlank_cons
      apply hcs
      rw [← List.mem_reverse, hlast]
      exact List.mem_cons_self
    rw [trim, hfront, List.reverse_append, List.dropWhile_append_of_pos hback, hend,
      List.reverse_reverse]

end StoryScript.Text
