import Mathlib.Data.List.Forall2
import Mathlib.Tactic.Ring
import StoryScript.Host.Config
import StoryScript.Proofs.Numerals

/-!
# Settings and their grammar

A setting is a limit: the word `unlimited` in any letter case, or a count, with white space around
it allowed.  The settings are read one after the other, up to the first that is no limit.  Main
statement: a configuration results exactly if each setting that is there is a limit, it has these
limits and the standard ones for settings that are missing, and else the first setting that is no
limit is the error.
-/

namespace StoryScript

/-! ### Counts -/

namespace Number

variable {cs ds : List Char} {k n : Nat}

/-- `Counts cs n` says that `cs` is a numeral of the count `n`: at least one digit, with or without
a plus sign. -/
inductive Counts : List Char → Nat → Prop where
  | plain {ds : List Char} (hne : ds ≠ []) (hds : ds.all isDigit = true)
    (hlt : ofDigits ds < 2 ^ 64) : Counts ds (ofDigits ds)
  | plus {ds : List Char} (hne : ds ≠ []) (hds : ds.all isDigit = true)
    (hlt : ofDigits ds < 2 ^ 64) : Counts ('+' :: ds) (ofDigits ds)

/-- Digits are read from a count on exactly if the number that they lead to is a count. -/
theorem readDigits_eq_ok_iff (hk : k < 2 ^ 64) (ds : List Char) :
  readDigits k ds = .ok n
    ↔ ds.all isDigit = true ∧ k * 10 ^ ds.length + ofDigits ds = n ∧ n < 2 ^ 64
  := by
  induction ds generalizing k with
  | nil =>
    have hread : readDigits k [] = .ok k := rfl
    rw [hread, Except.ok.injEq]
    simp only [List.all_nil, List.length_nil, pow_zero, mul_one, ofDigits, List.foldl_nil, add_zero,
      true_and]
    constructor
    · rintro rfl
      exact ⟨rfl, hk⟩
    · exact And.left
  | cons c ds ih =>
    have hbound : countBound = 2 ^ 64 := rfl
    have hvalue : k * 10 ^ (c :: ds).length + ofDigits (c :: ds)
        = (10 * k + digitValue c) * 10 ^ ds.length + ofDigits ds := by
      rw [ofDigits_cons, List.length_cons]
      ring
    rw [readDigits, hvalue, List.all_cons, hbound]
    cases hc : isDigit c with
    | false => simp
    | true =>
      rw [Bool.not_true, if_neg Bool.false_ne_true, Bool.true_and]
      split
      · next hlarge =>
        -- the number that all digits lead to is no less than the one that the first leads to
        have hpow : 0 < 10 ^ ds.length := Nat.pow_pos (by decide)
        have hle := Nat.le_mul_of_pos_right (10 * k + digitValue c) hpow
        constructor
        · intro h
          cases h
        · rintro ⟨-, rfl, hlt⟩
          omega
      · next hsmall => exact ih (not_le.mp hsmall)

/-- Digits are read exactly if they denote a number that fits into sixty-four bits. -/
theorem readDigits_zero_eq_ok_iff (ds : List Char) :
  readDigits 0 ds = .ok n ↔ ds.all isDigit = true ∧ ofDigits ds = n ∧ n < 2 ^ 64
  := by
  rw [readDigits_eq_ok_iff (by decide), zero_mul, zero_add]

/-- What is read as a count is a numeral of it. -/
theorem readCount_eq_ok_iff :
  readCount cs = .ok n ↔ Counts cs n
  := by
  fun_cases readCount cs with
  | case1 =>
    constructor
    · intro h
      cases h
    · rintro (⟨hne, -, -⟩ | _)
      contradiction
  | case2 =>
    constructor
    · intro h
      cases h
    · rintro (⟨-, hds, -⟩ | ⟨hne, -, -⟩)
      · cases hds
      · contradiction
  | case3 rest hne =>
    rw [readDigits_zero_eq_ok_iff]
    constructor
    · rintro ⟨hds, rfl, hlt⟩
      exact .plus (fun h => hne h) hds hlt
    · rintro (⟨-, hds, -⟩ | ⟨-, hds, hlt⟩)
      · cases hds
      · exact ⟨hds, rfl, hlt⟩
  | case4 cs hne _ hplus =>
    rw [readDigits_zero_eq_ok_iff]
    constructor
    · rintro ⟨hds, rfl, hlt⟩
      exact .plain (fun h => hne h) hds hlt
    · rintro (⟨-, hds, hlt⟩ | ⟨-, -, -⟩)
      · exact ⟨hds, rfl, hlt⟩
      · exact absurd rfl (hplus _)

/-- A numeral has a digit in it. -/
theorem Counts.ne_nil (h : Counts cs n) :
  cs ≠ []
  := by
  cases h with
  | plain hne => exact hne
  | plus => apply List.cons_ne_nil

/-- A numeral has no letters in it, and no white space. -/
theorem Counts.digit_or_plus (h : Counts cs n) :
  ∀ c ∈ cs, isDigit c = true ∨ c = '+'
  := by
  cases h with
  | plain _ hds => exact fun c hc => .inl (List.all_eq_true.mp hds c hc)
  | plus _ hds =>
    exact List.forall_mem_cons.mpr ⟨.inr rfl, fun c hc => .inl (List.all_eq_true.mp hds c hc)⟩

end Number

/-! ### Letters -/

section Letters

variable {c l : Char}

/-- A capital letter that is made small has a number greater by 32; other characters stay. -/
theorem toNat_toLower (c : Char) :
  c.toLower.toNat = if 65 ≤ c.toNat ∧ c.toNat ≤ 90 then c.toNat + 32 else c.toNat
  := by
  have hcapital : (c.val ≥ 'A'.val ∧ c.val ≤ 'Z'.val) ↔ 65 ≤ c.toNat ∧ c.toNat ≤ 90 :=
    and_congr UInt32.le_iff_toNat_le UInt32.le_iff_toNat_le
  unfold Char.toLower
  simp only [hcapital]
  split
  · have hsum : (c.val + ('a'.val - 'A'.val)).toNat = (c.toNat + 32) % 2 ^ 32 :=
      UInt32.toNat_add _ _
    exact hsum.trans (Nat.mod_eq_of_lt (by omega))
  · rfl

/-- A small letter that is made capital has a number less by 32; other characters stay. -/
theorem toNat_toUpper (c : Char) :
  c.toUpper.toNat = if 97 ≤ c.toNat ∧ c.toNat ≤ 122 then c.toNat - 32 else c.toNat
  := by
  have hsmall : ('a'.val ≤ c.val ∧ c.val ≤ 'z'.val) ↔ 97 ≤ c.toNat ∧ c.toNat ≤ 122 :=
    and_congr UInt32.le_iff_toNat_le UInt32.le_iff_toNat_le
  unfold Char.toUpper
  simp only [hsmall]
  split
  · have hsum : (c.val + ('A'.val - 'a'.val)).toNat = (c.toNat + (2 ^ 32 - 32)) % 2 ^ 32 :=
      UInt32.toNat_add _ _
    refine hsum.trans ?_
    omega
  · rfl

/-- The characters that become a small letter are the letter itself and its capital. -/
theorem toLower_eq_iff (hl : 97 ≤ l.toNat ∧ l.toNat ≤ 122) :
  c.toLower = l ↔ c = l ∨ c = l.toUpper
  := by
  rw [← Char.toNat_inj, ← Char.toNat_inj, ← Char.toNat_inj (d := l.toUpper), toNat_toLower,
    toNat_toUpper, if_pos hl]
  split <;> omega

/-- A text is a word of small letters, once its letters are made small, exactly if it is the word
with each letter small or capital. -/
theorem map_toLower_eq_iff {cs word : List Char}
    (hword : ∀ l ∈ word, 97 ≤ l.toNat ∧ l.toNat ≤ 122) :
  cs.map Char.toLower = word ↔ List.Forall₂ (fun c l => c = l ∨ c = l.toUpper) cs word
  := by
  induction word generalizing cs with
  | nil => simp
  | cons l word ih =>
    obtain ⟨hl, hrest⟩ := List.forall_mem_cons.mp hword
    cases cs with
    | nil => simp
    | cons c cs =>
      rw [List.map_cons, List.cons.injEq, List.forall₂_cons, toLower_eq_iff hl, ih hrest]

end Letters

namespace Config

/-! ### Limits -/

/-- `Denotes cs limit` says that `cs` is the word `unlimited`, each letter small or capital, and
means no limit, or that `cs` is the numeral of a count, which is the limit. -/
inductive Denotes : List Char → Option Nat → Prop where
  | unlimited {cs : List Char}
    (h : List.Forall₂ (fun c l => c = l ∨ c = l.toUpper) cs "unlimited".toList) : Denotes cs none
  | count {cs : List Char} {n : Nat} (h : Number.Counts cs n) : Denotes cs (some n)

/-- `Accepts text limit` says that `text` is the limit `limit` with white space around it. -/
def Accepts (text : List Char) (limit : Option Nat) : Prop :=
  ∃ cs, Text.Padded cs text ∧ Denotes cs limit

variable {cs text : List Char} {limit : Option Nat}

/-- The word for no limit may be written in small and capital letters. -/
theorem map_toLower_eq_unlimited_iff :
  cs.map Char.toLower = "unlimited".toList
    ↔ List.Forall₂ (fun c l => c = l ∨ c = l.toUpper) cs "unlimited".toList
  := by
  apply map_toLower_eq_iff
  simp

/-- The text of a limit is not empty. -/
theorem Denotes.ne_nil (h : Denotes cs limit) :
  cs ≠ []
  := by
  cases h with
  | unlimited h =>
    rintro rfl
    cases h
  | count h => exact h.ne_nil

/-- The text of a limit has no white space in it. -/
theorem Denotes.isBlank (h : Denotes cs limit) :
  ∀ c ∈ cs, Text.isBlank c = false
  := by
  intro c hc
  cases h with
  | unlimited h =>
    have hletters : ∀ l ∈ "unlimited".toList, (97 ≤ l.toNat ∧ l.toNat ≤ 122)
        ∧ Text.isBlank l = false ∧ Text.isBlank l.toUpper = false := by simp [Text.isBlank]
    have hmem : c.toLower ∈ "unlimited".toList := by
      rw [← map_toLower_eq_unlimited_iff.mpr h]
      exact List.mem_map_of_mem hc
    obtain ⟨hrange, hsmall, hcapital⟩ := hletters _ hmem
    obtain hc | hc := (toLower_eq_iff hrange).mp rfl
    · rwa [← hc] at hsmall
    · rwa [← hc] at hcapital
  | count h =>
    obtain hdigit | rfl := h.digit_or_plus c hc
    · exact Number.not_isBlank_of_isDigit hdigit
    · decide

/-- The word is no numeral. -/
theorem not_counts_of_map_toLower {n : Nat} (h : cs.map Char.toLower = "unlimited".toList) :
  ¬ Number.Counts cs n
  := by
  intro hcounts
  cases map_toLower_eq_unlimited_iff.mp h with
  | cons hfirst _ =>
    have hletter := hcounts.digit_or_plus _ List.mem_cons_self
    obtain rfl | rfl := hfirst
    · revert hletter
      decide
    · revert hletter
      decide

/-- What is read as a limit is the text of it with white space around. -/
theorem readLimit_eq_ok_iff :
  readLimit text = .ok limit ↔ Accepts text limit
  := by
  constructor
  · intro h
    refine ⟨Text.trim text, Text.padded_trim text, ?_⟩
    unfold readLimit at h
    dsimp only at h
    split at h
    · next hword =>
      cases h
      exact .unlimited (map_toLower_eq_unlimited_iff.mp hword)
    · cases hcount : Number.readCount (Text.trim text) with
      | error e =>
        rw [hcount] at h
        cases h
      | ok n =>
        rw [hcount] at h
        cases h
        exact .count (Number.readCount_eq_ok_iff.mp hcount)
  · rintro ⟨cs, hpadded, hdenotes⟩
    unfold readLimit
    rw [hpadded.trim_eq hdenotes.ne_nil hdenotes.isBlank]
    dsimp only
    cases hdenotes with
    | unlimited h => rw [if_pos (map_toLower_eq_unlimited_iff.mpr h)]
    | count h =>
      rw [if_neg fun hword => not_counts_of_map_toLower hword h,
        Number.readCount_eq_ok_iff.mpr h]
      rfl

/-! ### Settings one after the other -/

variable {lookup : String → Option String} {key value : String} {otherwise : Option Nat}
  {keys : List String} {c : Config}

/-- `Tells lookup key otherwise limit` says that a setting is a limit, or is missing and the limit
is the one that holds otherwise. -/
inductive Tells (lookup : String → Option String) (key : String) (otherwise : Option Nat) :
    Option Nat → Prop where
  | missing (h : lookup key = none) : Tells lookup key otherwise otherwise
  | given {value : String} {limit : Option Nat} (h : lookup key = some value)
    (haccepts : Accepts value.toList limit) : Tells lookup key otherwise limit

/-- A setting is there and is no limit. -/
def Offends (lookup : String → Option String) (key value : String) : Prop :=
  lookup key = some value ∧ ∀ limit, ¬ Accepts value.toList limit

/-- `FirstOffence lookup keys key value` says that `key` is the first of the settings that is there
and no limit, and `value` its text. -/
inductive FirstOffence (lookup : String → Option String) :
    List String → String → String → Prop where
  | head {key value : String} {keys : List String} (h : Offends lookup key value) :
    FirstOffence lookup (key :: keys) key value
  | tail {first key value : String} {keys : List String} (h : ∀ value, ¬ Offends lookup first value)
    (hrest : FirstOffence lookup keys key value) : FirstOffence lookup (first :: keys) key value

/-- A setting is read exactly if it tells a limit. -/
theorem setting_eq_ok_iff :
  setting lookup key otherwise = .ok limit ↔ Tells lookup key otherwise limit
  := by
  constructor
  · intro h
    unfold setting at h
    split at h
    · next hkey =>
      cases h
      exact .missing hkey
    · next value hkey =>
      split at h
      · next hread =>
        cases h
        exact .given hkey (readLimit_eq_ok_iff.mp hread)
      · cases h
  · rintro (h | ⟨h, haccepts⟩)
    · rw [setting, h]
    · rw [setting, h]
      dsimp only
      rw [readLimit_eq_ok_iff.mpr haccepts]

/-- A setting fails exactly if it offends, and it is named with its value. -/
theorem setting_fails_iff {key' : String} :
  (∃ source, setting lookup key otherwise = .error ⟨key', value, source⟩)
    ↔ key' = key ∧ Offends lookup key value
  := by
  constructor
  · rintro ⟨source, h⟩
    unfold setting at h
    split at h
    · cases h
    · next text hkey =>
      split at h
      · cases h
      · next e hread =>
        cases h
        refine ⟨rfl, hkey, ?_⟩
        intro limit haccepts
        cases (readLimit_eq_ok_iff.mpr haccepts).symm.trans hread
  · rintro ⟨rfl, hkey, hrefused⟩
    cases hread : readLimit value.toList with
    | ok limit => exact absurd (readLimit_eq_ok_iff.mp hread) (hrefused limit)
    | error source =>
      use source
      rw [setting, hkey]
      dsimp only
      rw [hread]

/-- A setting that tells a limit does not offend. -/
theorem Tells.not_offends (h : Tells lookup key otherwise limit) (value : String) :
  ¬ Offends lookup key value
  := by
  rintro ⟨hkey, hrefused⟩
  cases h with
  | missing h => cases h.symm.trans hkey
  | given h haccepts =>
    cases h.symm.trans hkey
    exact hrefused _ haccepts

variable {f : Option Nat → Except ConfigError Config}

/-- Settings are read one after the other. -/
theorem bind_eq_ok_iff :
  (setting lookup key otherwise >>= f) = .ok c
    ↔ ∃ limit, Tells lookup key otherwise limit ∧ f limit = .ok c
  := by
  simp only [← setting_eq_ok_iff]
  cases setting lookup key otherwise with
  | ok limit =>
    show f limit = .ok c ↔ _
    simp
  | error e =>
    show Except.error e = Except.ok c ↔ _
    simp

/-- The first offence is that of the first setting, or the first one of the others. -/
theorem bind_fails_iff {first : String}
    (hf : ∀ limit, (∃ source, f limit = .error ⟨key, value, source⟩)
      ↔ FirstOffence lookup keys key value) :
  (∃ source, (setting lookup first otherwise >>= f) = .error ⟨key, value, source⟩)
    ↔ FirstOffence lookup (first :: keys) key value
  := by
  cases hfirst : setting lookup first otherwise with
  | ok limit =>
    have hnone := (setting_eq_ok_iff.mp hfirst).not_offends
    refine (hf limit).trans ⟨.tail hnone, ?_⟩
    rintro (hoffends | ⟨-, hrest⟩)
    · exact absurd hoffends (hnone value)
    · exact hrest
  | error e =>
    obtain ⟨key', value', source'⟩ := e
    obtain ⟨rfl, hoffends⟩ := setting_fails_iff.mp ⟨source', hfirst⟩
    constructor
    · rintro ⟨source, h⟩
      cases h
      exact .head hoffends
    · rintro (hhead | ⟨hnone, -⟩)
      · cases hhead.1.symm.trans hoffends.1
        exact ⟨source', rfl⟩
      · exact absurd hoffends (hnone value')

/-- The settings in the order in which they are read, each with the limit that it is for. -/
def slots : List (String × (Config → Option Nat)) :=
  [(callDepthKey, fun c => c.limits.callDepth), (iterationsKey, fun c => c.limits.iterations),
    (deadlineKey, fun c => c.limits.deadline), (slowKey, slowAfter)]

/-- A configuration is read exactly if each of its limits is told by its setting. -/
theorem ofSettings_eq_ok_iff :
  ofSettings lookup = .ok c
    ↔ ∀ slot ∈ slots, Tells lookup slot.1 (slot.2 standard) (slot.2 c)
  := by
  simp only [slots, List.forall_mem_cons, List.not_mem_nil, false_imp_iff, implies_true, and_true]
  constructor
  · intro h
    obtain ⟨callDepth, hcallDepth, h⟩ := bind_eq_ok_iff.mp h
    obtain ⟨iterations, hiterations, h⟩ := bind_eq_ok_iff.mp h
    obtain ⟨deadline, hdeadline, h⟩ := bind_eq_ok_iff.mp h
    obtain ⟨slowAfter, hslow, h⟩ := bind_eq_ok_iff.mp h
    cases h
    exact ⟨hcallDepth, hiterations, hdeadline, hslow⟩
  · rintro ⟨hcallDepth, hiterations, hdeadline, hslow⟩
    apply bind_eq_ok_iff.mpr ⟨_, hcallDepth, _⟩
    apply bind_eq_ok_iff.mpr ⟨_, hiterations, _⟩
    apply bind_eq_ok_iff.mpr ⟨_, hdeadline, _⟩
    apply bind_eq_ok_iff.mpr ⟨_, hslow, rfl⟩

/-- A configuration fails over the first setting that offends. -/
theorem ofSettings_fails_iff :
  (∃ source, ofSettings lookup = .error ⟨key, value, source⟩)
    ↔ FirstOffence lookup (slots.map Prod.fst) key value
  := by
  apply bind_fails_iff
  intro callDepth
  apply bind_fails_iff
  intro iterations
  apply bind_fails_iff
  intro deadline
  apply bind_fails_iff
  intro slowAfter
  constructor
  · rintro ⟨source, h⟩
    cases h
  · intro h
    cases h

/-- The first offence is an offence of one of the settings. -/
theorem FirstOffence.exists_offends (h : FirstOffence lookup keys key value) :
  key ∈ keys ∧ Offends lookup key value
  := by
  induction h with
  | head h => exact ⟨List.mem_cons_self, h⟩
  | tail _ _ ih => exact ⟨List.mem_cons_of_mem _ ih.1, ih.2⟩

/-- A configuration results exactly if each setting that is there is a limit.  It has these limits,
and the standard ones for settings that are missing.  Else the first setting that is no limit is
the error, with its whole text. -/
theorem settings_accept_their_grammar (lookup : String → Option String) :
  ((∃ c, ofSettings lookup = .ok c) ↔ ∀ slot ∈ slots, ∀ value, lookup slot.1 = some value →
      ∃ limit, Accepts value.toList limit)
    ∧ (∀ c, ofSettings lookup = .ok c
      ↔ ∀ slot ∈ slots, Tells lookup slot.1 (slot.2 standard) (slot.2 c))
    ∧ ∀ key value, (∃ source, ofSettings lookup = .error ⟨key, value, source⟩)
      ↔ FirstOffence lookup (slots.map Prod.fst) key value
  := by
  refine ⟨⟨?_, ?_⟩, fun c => ofSettings_eq_ok_iff, fun key value => ofSettings_fails_iff⟩
  · rintro ⟨c, hc⟩ slot hslot value hvalue
    by_contra hnone
    exact (ofSettings_eq_ok_iff.mp hc slot hslot).not_offends value
      ⟨hvalue, not_exists.mp hnone⟩
  · intro haccepts
    cases h : ofSettings lookup with
    | ok c => exact ⟨c, rfl⟩
    | error e =>
      obtain ⟨hmem, hvalue, hrefused⟩ := (ofSettings_fails_iff.mp ⟨e.source, h⟩).exists_offends
      obtain ⟨slot, hslot, hkey⟩ := List.mem_map.mp hmem
      obtain ⟨limit, hlimit⟩ := haccepts slot hslot e.value (by rw [hkey, hvalue])
      exact absurd hlimit (hrefused limit)

/-- Two settings are given, and the others are missing. -/
example : ofSettings (fun key => Entries.get? key [(slowKey, " unLimited"), (deadlineKey, "+0250")])
    = .ok ⟨⟨some 256, none, some 250⟩, none⟩ := rfl

end Config

end StoryScript
