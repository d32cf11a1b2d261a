/-!
# Spans

A span is the half-open range `start..stop` of positions in a script's text that a tree
node was read from.  The span `0..0` is the dummy span: it says that the node has no known
place.
-/

namespace StoryScript

/-- A range of positions in the text of a script. -/
structure Span where
  /-- The first position of the range. -/
  start : Nat
  /-- The position after the last one. -/
  stop : Nat
  deriving DecidableEq, Repr

namespace Span

/-- The span of a node with no known place. -/
def dummy : Span := ⟨0, 0⟩

instance : Inhabited Span := ⟨dummy⟩

/-- The number of positions in a span, zero if it ends before it starts. -/
def length (s : Span) : Nat := s.stop - s.start

/-- A span is empty when no position lies in it. -/
def isEmpty (s : Span) : Bool := s.stop ≤ s.start

/-- A span is dummy when both of its ends are zero. -/
def isDummy (s : Span) : Bool := s.start == 0 && s.stop == 0

/-- The least span that starts and stops no later than needed to cover both. -/
def merge (s t : Span) : Span := ⟨min s.start t.start, max s.stop t.stop⟩

/-- The text `start..stop`. -/
def text (s : Span) : String := s!"{s.start}..{s.stop}"

/-- The merge of all spans of a list, if it has any. -/
def mergeAll : List Span → Option Span
  | [] => none
  | s :: rest => some (rest.foldl merge s)

/-- There is one dummy span. -/
theorem isDummy_iff (s : Span) :
  s.isDummy = true ↔ s = dummy
  := by
  cases s
  simp [isDummy, dummy]

end Span

end StoryScript
