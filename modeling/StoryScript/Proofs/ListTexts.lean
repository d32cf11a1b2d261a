import StoryScript.Proofs.Equality
import StoryScript.Proofs.IntegerTexts
import StoryScript.Value.Text

/-!
# Texts of lists

Strings stand for themselves, but inside a list they are quoted, so none of their characters can
be taken for a comma or a bracket of the list.  A quoted string can be told apart from all that
follows it, and every other value from a comma or a bracket that follows it.  Main statement: two
lists that are built from null, truth values, integers and strings have the same text exactly when
they are equal in the strict sense.
-/

namespace StoryScript

/-! ### Splitting texts -/

namespace Text

variable {α : Type} {f : α → List Char} {Follows : List Char → Prop} {p : Char → Bool}
  {a b u z : List Char} {c d : Char} {stop : Char}

theorem takeWhile_append_of_head (ha : ∀ c ∈ a, p c = true) (hu : ∀ c ∈ u.head?, p c = false) :
  (a ++ u).takeWhile p = a
  := by
  rw [List.takeWhile_append_of_pos ha]
  cases u with
  | nil => simp
  | cons c u =>
    rw [List.takeWhile_cons_of_neg (ne_true_of_eq_false (hu c rfl)), List.append_nil]

/-- A text of characters of one kind ends where a character of another kind follows. -/
theorem append_inj_of_head (ha : ∀ c ∈ a, p c = true) (hb : ∀ c ∈ b, p c = true)
    (hu : ∀ c ∈ u.head?, p c = false) (hz : ∀ c ∈ z.head?, p c = false) (h : a ++ u = b ++ z) :
  a = b ∧ u = z
  := by
  have hab : a = b := by
    rw [← takeWhile_append_of_head ha hu, h, takeWhile_append_of_head hb hz]
  subst hab
  exact ⟨rfl, List.append_cancel_left h⟩

/-- Items whose texts can be told apart from what follows them, and from a closing character, can
be read off their texts one after the other. -/
theorem flatMap_append_inj {as bs : List α}
    (hf : ∀ a ∈ as, ∀ b ∈ bs, ∀ u z, Follows u → Follows z → f a ++ u = f b ++ z → a = b ∧ u = z)
    (hfollows : ∀ (as : List α) (u : List Char), Follows (as.flatMap f ++ stop :: u))
    (hstop : ∀ a, ∃ c cs, f a = c :: cs ∧ c ≠ stop)
    (h : as.flatMap f ++ stop :: u = bs.flatMap f ++ stop :: z) :
  as = bs ∧ u = z
  := by
  have hopen (a : α) (as : List α) (u z : List Char) :
      (a :: as).flatMap f ++ stop :: u ≠ stop :: z := by
    obtain ⟨c, cs, hc, hne⟩ := hstop a
    rw [List.flatMap_cons, hc]
    exact fun h => hne (List.cons.inj h).1
  induction as generalizing bs with
  | nil =>
    cases bs with
    | nil => exact ⟨rfl, (List.cons.inj h).2⟩
    | cons b bs => exact absurd h.symm (hopen b bs z u)
  | cons a as ih =>
    cases bs with
    | nil => exact absurd h (hopen a as u z)
    | cons b bs =>
      rw [List.flatMap_cons, List.flatMap_cons, List.append_assoc, List.append_assoc] at h
      obtain ⟨rfl, hrest⟩ := hf a List.mem_cons_self b List.mem_cons_self _ _
        (hfollows as u) (hfollows bs z) h
      obtain ⟨rfl, rfl⟩ := ih
        (fun a ha b hb => hf a (List.mem_cons_of_mem _ ha) b (List.mem_cons_of_mem _ hb)) hrest
      exact ⟨rfl, rfl⟩

/-! ### Quoted texts -/

/-- The characters that are written as a backslash and a letter, with the letter. -/
def escapeLetters : List (Char × Char) :=
  [('\x00', '0'), ('\t', 't'), ('\r', 'r'), ('\n', 'n'), ('"', '"'), ('\\', '\\')]

/-- The three ways of writing a character. -/
inductive Escaped (c : Char) : List Char → Prop where
  | letter {l : Char} (hl : (c, l) ∈ escapeLetters) : Escaped c ['\\', l]
  | code : Escaped c (escapeCode c)
  | itself (hquote : c ≠ '"') (hbackslash : c ≠ '\\') : Escaped c [c]

theorem escaped_escape (c : Char) :
  Escaped c (escape c)
  := by
  unfold escape
  split_ifs
  case pos h | pos h | pos h | pos h | pos h | pos h =>
    subst h
    exact .letter (by decide)
  · exact .code
  · exact .itself ‹_› ‹_›

theorem escape_ne_quote (c : Char) :
  ∃ d cs, escape c = d :: cs ∧ d ≠ '"'
  := by
  have hescaped := escaped_escape c
  generalize escape c = form at hescaped ⊢
  cases hescaped with
  | letter | code => exact ⟨'\\', _, rfl, by decide⟩
  | itself hquote => exact ⟨c, [], rfl, hquote⟩

theorem ne_of_mem_toDigits {n : Nat} (hc : c ∈ Nat.toDigits 16 n) :
  c ≠ '\x7d'
  := by
  induction n using Nat.strong_induction_on with
  | _ n ih =>
    rw [Nat.toDigits_eq_if (by decide)] at hc
    split at hc
    · rw [List.mem_singleton.mp hc]
      exact Nat.digitChar_ne _ rfl
    · obtain hc | hc := List.mem_append.mp hc
      · exact ih (n / 16) (by omega) hc
      · rw [List.mem_singleton.mp hc]
        exact Nat.digitChar_ne _ rfl

theorem toDigits_inj {m n : Nat} (h : Nat.toDigits 16 m = Nat.toDigits 16 n) :
  m = n
  := by
  have hdigit : ∀ m < 16, ∀ n < 16, m.digitChar = n.digitChar → m = n := by decide
  induction m using Nat.strong_induction_on generalizing n with
  | _ m ih =>
    rw [Nat.toDigits_eq_if (by decide), Nat.toDigits_eq_if (n := n) (by decide)] at h
    split at h <;> split at h
    · exact hdigit m ‹_› n ‹_› (List.singleton_inj.mp h)
    · simp [List.singleton_eq_append_iff] at h
    · simp [List.append_eq_singleton_iff] at h
    · obtain ⟨hmore, hlast⟩ := List.append_inj' h rfl
      have hquotient := ih (m / 16) (by omega) hmore
      have hremainder := hdigit (m % 16) (Nat.mod_lt m (by decide)) (n % 16)
        (Nat.mod_lt n (by decide)) (List.singleton_inj.mp hlast)
      omega

/-- A written character can be told apart from what follows it. -/
theorem escape_append_inj (h : escape c ++ u = escape d ++ z) :
  c = d ∧ u = z
  := by
  have hletters : ∀ p ∈ escapeLetters, ∀ q ∈ escapeLetters, p.2 = q.2 → p.1 = q.1 := by decide
  have hcode : ∀ p ∈ escapeLetters, p.2 ≠ 'u' := by decide
  have hc := escaped_escape c
  have hd := escaped_escape d
  generalize escape c = form, escape d = form' at *
  cases hc with
  | letter hl =>
    cases hd with
    | letter hl' =>
      obtain ⟨-, h⟩ := List.cons.inj h
      obtain ⟨hsame, rfl⟩ := List.cons.inj h
      exact ⟨hletters _ hl _ hl' hsame, rfl⟩
    | code => exact absurd (List.cons.inj (List.cons.inj h).2).1 (hcode _ hl)
    | itself _ hbackslash => exact absurd (List.cons.inj h).1.symm hbackslash
  | code =>
    cases hd with
    | letter hl' => exact absurd (List.cons.inj (List.cons.inj h).2).1.symm (hcode _ hl')
    | code =>
      -- both are digits up to the closing brace
      simp only [escapeCode, List.cons_append, List.append_assoc, List.cons.injEq, true_and,
        List.nil_append] at h
      obtain ⟨hdigits, hrest⟩ := append_inj_of_head (p := (· != '\x7d'))
        (fun _ hc => bne_iff_ne.mpr (ne_of_mem_toDigits hc))
        (fun _ hc => bne_iff_ne.mpr (ne_of_mem_toDigits hc)) (by simp) (by simp) h
      exact ⟨Char.toNat_inj.mp (toDigits_inj hdigits), (List.cons.inj hrest).2⟩
    | itself _ hbackslash => exact absurd (List.cons.inj h).1.symm hbackslash
  | itself _ hbackslash =>
    cases hd with
    | letter | code => exact absurd (List.cons.inj h).1 hbackslash
    | itself => exact List.cons.inj h

/-- A quoted text can be told apart from what follows it. -/
theorem quote_append_inj {s t : String} (h : (quote s).toList ++ u = (quote t).toList ++ z) :
  s = t ∧ u = z
  := by
  simp only [quote, quoteChars, String.toList_ofList, List.cons_append, List.append_assoc,
    List.nil_append, List.cons.injEq, true_and] at h
  have hescape : ∀ c ∈ s.toList, ∀ d ∈ t.toList, ∀ v w : List Char, True → True →
      escape c ++ v = escape d ++ w → c = d ∧ v = w := by
    intro c _ d _ v w _ _
    exact escape_append_inj
  obtain ⟨hchars, hrest⟩ := flatMap_append_inj hescape (fun _ _ => trivial) escape_ne_quote h
  exact ⟨String.toList_inj.mp hchars, hrest⟩

end Text

/-! ### Values in lists -/

namespace Value

open Text

/-- Values that are built by lists from null, truth values, integers and strings. -/
inductive Legible : Value → Prop where
  | null : Legible null
  | bool (b : Bool) : Legible (bool b)
  | int (n : Whole) : Legible (int n)
  | str (s : String) : Legible (str s)
  | list {items : List Value} (h : ∀ v ∈ items, Legible v) : Legible (list ⟨items⟩)

variable {v w : Value} {items : List Value} {u z : List Char}

/-- On legible values the strict equality is the equality of values. -/
theorem Legible.strictEq_iff (hv : v.Legible) :
  v.strictEq w = true ↔ v = w
  := by
  induction hv generalizing w with
  | null | bool | int | str => cases w <;> simp [strictEq]
  | @list items _ ih =>
    cases w with
    | list items' =>
      obtain ⟨items'⟩ := items'
      rw [strictEq, strictItems_iff]
      simp only [list.injEq, Array.mk.injEq]
      rw [← List.forall₂_eq_eq_eq]
      constructor
      · intro h
        exact forall₂_imp_of_mem h fun a ha b => (ih a ha).mp
      · intro h
        exact forall₂_imp_of_mem h fun a ha b => (ih a ha).mpr
    | _ => simp [strictEq]

/-- The text of a value in a list. -/
def chars (v : Value) : List Char := (render true v).toList

/-- The text of an item of a list, other than the first one. -/
def furtherChars (v : Value) : List Char := ',' :: ' ' :: v.chars

/-- What may follow a value in a list: a comma, or the bracket at the end. -/
def FollowsItem (u : List Char) : Prop := ∃ c cs, u = c :: cs ∧ (c = ',' ∨ c = ']')

/-- The kind of the values whose text starts with a character. -/
def leadKind? (c : Char) : Option Kind :=
  if Number.isDigit c || c == '-' then some .int
  else match c with
    | 'n' => some .null
    | 't' | 'f' => some .bool
    | '"' => some .string
    | '[' => some .list
    | _ => none

/-- The characters of a list with at least one item. -/
theorem chars_cons (v : Value) (items : List Value) :
  (list ⟨v :: items⟩).chars = '[' :: (v.chars ++ (items.flatMap furtherChars ++ [']']))
  := by
  have hrest : (commas (renderItems (v :: items))).toList
      = v.chars ++ items.flatMap furtherChars := by
    rw [renderItems]
    induction items generalizing v with
    | nil => simp [commas, renderItems, chars]
    | cons w items ih =>
      rw [renderItems, commas, String.intercalate_cons_cons, ← commas, String.toList_append,
        String.toList_append, ih, List.flatMap_cons]
      simp [chars, furtherChars]
  rw [chars, render, bracketed, String.toList_append, String.toList_append, hrest]
  simp

/-- The text of a legible value tells its kind by the first character. -/
theorem Legible.exists_lead (hv : v.Legible) :
  ∃ c cs, v.chars = c :: cs ∧ leadKind? c = some v.kind
  := by
  cases hv with
  | null => exact ⟨'n', _, rfl, rfl⟩
  | bool b =>
    cases b with
    | false => exact ⟨'f', _, rfl, rfl⟩
    | true => exact ⟨'t', _, rfl, rfl⟩
  | int n =>
    obtain ⟨c, cs, hc⟩ := List.exists_cons_of_ne_nil n.denotes_text.ne_nil
    have hmem : c ∈ n.text.toList := by
      rw [hc]
      exact List.mem_cons_self
    exact ⟨c, cs, hc, if_pos (Whole.mem_text hmem)⟩
  | str s => exact ⟨'"', _, String.toList_ofList, rfl⟩
  | @list items _ =>
    cases items with
    | nil => exact ⟨'[', _, rfl, rfl⟩
    | cons w items => exact ⟨'[', _, chars_cons w items, rfl⟩

theorem Legible.kind_eq (hv : v.Legible) (hw : w.Legible) (h : v.chars ++ u = w.chars ++ z) :
  v.kind = w.kind
  := by
  obtain ⟨c, cs, hc, hvkind⟩ := hv.exists_lead
  obtain ⟨d, ds, hd, hwkind⟩ := hw.exists_lead
  rw [hc, hd] at h
  rw [(List.cons.inj h).1, hwkind] at hvkind
  exact (Option.some.inj hvkind).symm

theorem Legible.chars_ne_close (hv : v.Legible) (u z : List Char) :
  v.chars ++ u ≠ ']' :: z
  := by
  obtain ⟨c, cs, hc, hkind⟩ := hv.exists_lead
  rw [hc]
  intro h
  rw [(List.cons.inj h).1] at hkind
  cases hkind

theorem followsItem_further (items : List Value) (u : List Char) :
  FollowsItem (items.flatMap furtherChars ++ ']' :: u)
  := by
  cases items with
  | nil => exact ⟨']', u, rfl, .inr rfl⟩
  | cons v items => exact ⟨',', _, rfl, .inl rfl⟩

/-- A list can be told apart from what follows it when its items can. -/
theorem items_of_chars_append {items items' : List Value} (hitems : ∀ v ∈ items, v.Legible)
    (hitems' : ∀ v ∈ items', v.Legible)
    (hinj : ∀ v ∈ items, ∀ w ∈ items', ∀ u z, FollowsItem u → FollowsItem z →
      v.chars ++ u = w.chars ++ z → v = w ∧ u = z)
    (h : (list ⟨items⟩).chars ++ u = (list ⟨items'⟩).chars ++ z) :
  items = items' ∧ u = z
  := by
  have hempty : (list ⟨[]⟩).chars = ['[', ']'] := rfl
  cases items with
  | nil =>
    cases items' with
    | nil => exact ⟨rfl, List.append_cancel_left h⟩
    | cons w ws =>
      simp only [hempty, chars_cons, List.cons_append, List.append_assoc, List.cons.injEq,
        true_and] at h
      exact absurd h.symm ((hitems' w List.mem_cons_self).chars_ne_close _ _)
  | cons v vs =>
    cases items' with
    | nil =>
      simp only [hempty, chars_cons, List.cons_append, List.append_assoc, List.cons.injEq,
        true_and] at h
      exact absurd h ((hitems v List.mem_cons_self).chars_ne_close _ _)
    | cons w ws =>
      simp only [chars_cons, List.cons_append, List.append_assoc, List.nil_append, List.cons.injEq,
        true_and] at h
      obtain ⟨rfl, hrest⟩ := hinj v List.mem_cons_self w List.mem_cons_self _ _
        (followsItem_further vs u) (followsItem_further ws z) h
      have hfurther : ∀ a ∈ vs, ∀ b ∈ ws, ∀ u z, FollowsItem u → FollowsItem z →
          furtherChars a ++ u = furtherChars b ++ z → a = b ∧ u = z := by
        intro a ha b hb u z hu hz h
        exact hinj a (List.mem_cons_of_mem _ ha) b (List.mem_cons_of_mem _ hb) u z hu hz
          (List.cons.inj (List.cons.inj h).2).2
      obtain ⟨rfl, rfl⟩ := flatMap_append_inj hfurther followsItem_further
        (fun v => ⟨',', _, rfl, by decide⟩) hrest
      exact ⟨rfl, rfl⟩

/-- A value in a list can be told apart from what follows it there. -/
theorem Legible.chars_append_inj (hv : v.Legible) (hw : w.Legible) (hu : FollowsItem u)
    (hz : FollowsItem z) (h : v.chars ++ u = w.chars ++ z) :
  v = w ∧ u = z
  := by
  have hkind := hv.kind_eq hw h
  have hnumber {u : List Char} (hu : FollowsItem u) :
      ∀ c ∈ u.head?, (Number.isDigit c || c == '-') = false := by
    rintro c hc
    obtain ⟨c, cs, rfl, rfl | rfl⟩ := hu <;> cases hc <;> rfl
  induction hv generalizing w u z with
  | null =>
    cases hw with
    | null => exact ⟨rfl, List.append_cancel_left h⟩
    | _ => cases hkind
  | bool b =>
    cases hw with
    | bool b' =>
      cases b <;> cases b'
      case true.true | false.false => exact ⟨rfl, List.append_cancel_left h⟩
      case true.false | false.true => cases (List.cons.inj h).1
    | _ => cases hkind
  | int n =>
    cases hw with
    | int n' =>
      obtain ⟨htext, hrest⟩ := append_inj_of_head (fun _ => Whole.mem_text)
        (fun _ => Whole.mem_text) (hnumber hu) (hnumber hz) h
      rw [Whole.text_injective (String.toList_inj.mp htext)]
      exact ⟨rfl, hrest⟩
    | _ => cases hkind
  | str s =>
    cases hw with
    | str s' =>
      obtain ⟨rfl, hrest⟩ := quote_append_inj h
      exact ⟨rfl, hrest⟩
    | _ => cases hkind
  | list hitems ih =>
    cases hw with
    | list hitems' =>
      obtain ⟨rfl, hrest⟩ := items_of_chars_append hitems hitems'
        (fun v hv w hw u z hu hz h =>
          ih v hv (hitems' w hw) hu hz h ((hitems v hv).kind_eq (hitems' w hw) h)) h
      exact ⟨rfl, hrest⟩
    | _ => cases hkind

/-- Lists that are built from null, truth values, integers and strings, and from such lists, have
the same text exactly when they are equal in the strict sense. -/
theorem text_determines_list {xs ys : List Value} (hxs : ∀ v ∈ xs, v.Legible)
    (hys : ∀ v ∈ ys, v.Legible) :
  (list ⟨xs⟩).text = (list ⟨ys⟩).text ↔ (list ⟨xs⟩).strictEq (list ⟨ys⟩) = true
  := by
  rw [(Legible.list hxs).strictEq_iff]
  constructor
  · intro h
    have hchars : (list ⟨xs⟩).chars = (list ⟨ys⟩).chars := congrArg String.toList h
    have happend : (list ⟨xs⟩).chars ++ [] = (list ⟨ys⟩).chars ++ [] := by rw [hchars]
    obtain ⟨rfl, -⟩ := items_of_chars_append hxs hys
      (fun v hv w hw _ _ => (hxs v hv).chars_append_inj (hys w hw)) happend
    rfl
  · intro h
    rw [h]

/-- A comma in a string is none of the list. -/
theorem quoted_comma_is_no_separator :
  (list ⟨[str "a\", \"b", list ⟨[null]⟩]⟩).text ≠ (list ⟨[str "a", str "b", list ⟨[null]⟩]⟩).text
  := by
  have hfirst : ∀ v ∈ [str "a\", \"b", list ⟨[null]⟩], v.Legible := by
    simp only [List.forall_mem_cons]
    exact ⟨.str _, .list (by simpa using .null), nofun⟩
  have hsecond : ∀ v ∈ [str "a", str "b", list ⟨[null]⟩], v.Legible := by
    simp only [List.forall_mem_cons]
    exact ⟨.str _, .str _, .list (by simpa using .null), nofun⟩
  intro h
  cases (text_determines_list hfirst hsecond).mp h

end Value

end StoryScript
