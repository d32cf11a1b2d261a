import StoryScript.Value.Basic

/-!
# Equality of values

Two equalities.  The loose one is that of scripts: integers and floats are equal when they
have the same value, and the order of the entries of a map does not count.  The strict one
keeps the kinds and the order apart.  Under both, functions are equal when they come from
the same declaration in the same scope, and what is not a number equals nothing.
-/

namespace StoryScript.Value

mutual

/-- Equality as scripts see it. -/
def looseEq : Value → Value → Bool
  | null, null => true
  | bool a, bool b => a == b
  | int a, int b => a == b
  | float a, float b => Number.eq a b
  | int n, float x => Number.eqWhole n x
  | float x, int n => Number.eqWhole n x
  | str a, str b => a == b
  | list ⟨as⟩, list ⟨bs⟩ => looseItems as bs
  | map as, map bs => as.length == bs.length && looseEntries as bs
  | builtin a, builtin b => a == b
  | closure f, closure g => f.same g
  | _, _ => false

/-- Equality of lists, element by element. -/
def looseItems : List Value → List Value → Bool
  | [], [] => true
  | a :: as, b :: bs => looseEq a b && looseItems as bs
  | _, _ => false

/-- Whether every entry of the first map has an equal one under the same key of the
second. -/
def looseEntries : List (String × Value) → List (String × Value) → Bool
  | [], _ => true
  | (key, a) :: as, bs =>
    (match Entries.get? key bs with
      | some b => looseEq a b
      | none => false)
    && looseEntries as bs

end

mutual

/-- Equality that keeps the kinds of numbers and the order of entries apart. -/
def strictEq : Value → Value → Bool
  | null, null => true
  | bool a, bool b => a == b
  | int a, int b => a == b
  | float a, float b => Number.eq a b
  | str a, str b => a == b
  | list ⟨as⟩, list ⟨bs⟩ => strictItems as bs
  | map as, map bs => strictEntries as bs
  | builtin a, builtin b => a == b
  | closure f, closure g => f.same g
  | _, _ => false

/-- Equality of lists, element by element. -/
def strictItems : List Value → List Value → Bool
  | [], [] => true
  | a :: as, b :: bs => strictEq a b && strictItems as bs
  | _, _ => false

/-- Equality of maps, entry by entry. -/
def strictEntries : List (String × Value) → List (String × Value) → Bool
  | [], [] => true
  | (k, a) :: as, (l, b) :: bs => k == l && strictEq a b && strictEntries as bs
  | _, _ => false

end

end StoryScript.Value
