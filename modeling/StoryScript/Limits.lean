/-!
# Limits

What a run may use: a number of nested calls, a number of loop rounds over the whole run,
and a time.  A missing limit means that there is none.
-/

namespace StoryScript

/-- The greatest sixty-four bit count, at which counts and times stay. -/
def greatestCount : Nat := Nat.pow 2 64 - 1

/-- The limits of a run. -/
structure Limits where
  /-- The greatest number of nested calls. -/
  callDepth : Option Nat
  /-- The greatest number of loop rounds. -/
  iterations : Option Nat
  /-- The time in milliseconds. -/
  deadline : Option Nat
  deriving DecidableEq, Repr

namespace Limits

/-- No limits at all. -/
def unlimited : Limits := ⟨none, none, none⟩

/-- The limits when nothing else is said: 256 nested calls. -/
def standard : Limits := { unlimited with callDepth := some 256 }

end Limits

end StoryScript
