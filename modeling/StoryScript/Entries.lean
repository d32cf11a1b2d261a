/-!
# Entries in insertion order

Entries are pairs of a key and a value in the order in which the keys first came.  Putting a
value under a key that is there replaces the value in its place, and under a new key it adds
an entry at the end.
-/

namespace StoryScript

/-- Pairs of a key and a value. -/
abbrev Entries (α : Type) := List (String × α)

namespace Entries

variable {α : Type}

/-- The value under a key, the first one if there are several. -/
def get? (key : String) : Entries α → Option α
  | [] => none
  | (k, a) :: rest => if k = key then some a else get? key rest

/-- Whether there is a value under a key. -/
def contains (key : String) : Entries α → Bool
  | [] => false
  | (k, _) :: rest => k = key || contains key rest

/-- The entries after putting a value under a key. -/
def insert (key : String) (a : α) : Entries α → Entries α
  | [] => [(key, a)]
  | (k, b) :: rest => if k = key then (k, a) :: rest else (k, b) :: insert key a rest

/-- The entries without those under a key. -/
def erase (key : String) (es : Entries α) : Entries α := es.filter fun e => e.1 ≠ key

/-- The keys, in order. -/
def keys (es : Entries α) : List String := es.map Prod.fst

/-- The entries after putting pairs in, one after the other. -/
def insertAll (es : Entries α) (pairs : List (String × α)) : Entries α :=
  pairs.foldl (fun acc p => acc.insert p.1 p.2) es

/-- The entries that result from pairs in which keys may be repeated: a key has the place
where it first occurs and the value with which it last occurs. -/
def ofPairs (pairs : List (String × α)) : Entries α := insertAll [] pairs

/-! ### Reading after writing -/

/-- A key is there exactly if there is a value under it. -/
theorem contains_eq_isSome (key : String) (es : Entries α) :
  es.contains key = (es.get? key).isSome
  := by
  induction es with
  | nil => rfl
  | cons e rest ih =>
    by_cases h : e.1 = key <;> simp [contains, get?, h, ih]

/-- A value that is put under a key is found there. -/
theorem get?_insert_self (key : String) (a : α) (es : Entries α) :
  (es.insert key a).get? key = some a
  := by
  induction es with
  | nil => simp [insert, get?]
  | cons e rest ih =>
    by_cases h : e.1 = key <;> simp [insert, get?, h, ih]

/-- A value that is put under a key leaves the other keys alone. -/
theorem get?_insert_of_ne {key other : String} (h : other ≠ key) (a : α) (es : Entries α) :
  (es.insert key a).get? other = es.get? other
  := by
  induction es with
  | nil => simp [insert, get?, Ne.symm h]
  | cons e rest ih =>
    by_cases hk : e.1 = key
    · simp [insert, get?, hk, Ne.symm h]
    · by_cases ho : e.1 = other <;> simp [insert, get?, hk, ho, ih, h]

/-- Nothing is found under a key that is taken out. -/
theorem get?_erase_self (key : String) (es : Entries α) :
  (es.erase key).get? key = none
  := by
  induction es with
  | nil => rfl
  | cons e rest ih =>
    by_cases h : e.1 = key
    · simpa [erase, h] using ih
    · simpa [erase, get?, h] using ih

/-- A key that is taken out leaves the others alone. -/
theorem get?_erase_of_ne {key other : String} (h : other ≠ key) (es : Entries α) :
  (es.erase key).get? other = es.get? other
  := by
  induction es with
  | nil => rfl
  | cons e rest ih =>
    by_cases hk : e.1 = key
    · simpa [erase, get?, hk, Ne.symm h] using ih
    · by_cases ho : e.1 = other
      · simp [erase, get?, ho, h]
      · simpa [erase, get?, hk, ho] using ih

/-- The keys are those that are there. -/
theorem mem_keys_iff (key : String) (es : Entries α) :
  key ∈ es.keys ↔ es.contains key = true
  := by
  induction es with
  | nil => simp [keys, contains]
  | cons e rest ih =>
    simp only [keys, List.map_cons, List.mem_cons, contains, Bool.or_eq_true,
      decide_eq_true_eq, eq_comm (a := key)] at ih ⊢
    rw [ih]

/-- A known key keeps all keys, a new one comes last. -/
theorem keys_insert (key : String) (a : α) (es : Entries α) :
  (es.insert key a).keys = if es.contains key then es.keys else es.keys ++ [key]
  := by
  induction es with
  | nil => rfl
  | cons e rest ih =>
    by_cases h : e.1 = key
    · simp [insert, contains, keys, h]
    · simp only [keys] at ih
      by_cases hc : contains key rest <;> simp [insert, contains, keys, h, hc, ih]

end Entries

end StoryScript
