import StoryScript.Error

/-!
# The call stack

The active calls of a script, with a limit on their number.
-/

namespace StoryScript

/-- The active calls. -/
structure CallStack where
  /-- The frames, the most recent one first. -/
  frames : List Frame
  /-- The greatest number of frames, if there is a limit. -/
  limit : Option Nat
  deriving DecidableEq, Repr

namespace CallStack

/-- No active calls. -/
def empty (limit : Option Nat) : CallStack := ⟨[], limit⟩

/-- The number of active calls. -/
def depth (c : CallStack) : Nat := c.frames.length

/-- The stack with one more call.  A full stack refuses it. -/
def push (c : CallStack) (f : Frame) : Except Cause CallStack :=
  match c.limit with
  | some limit =>
    if limit ≤ c.depth then .error (.stackOverflow limit)
    else .ok { c with frames := f :: c.frames }
  | none => .ok { c with frames := f :: c.frames }

/-- The stack without its most recent call. -/
def pop (c : CallStack) : CallStack := { c with frames := c.frames.tail }

/-- The frames, the outermost one first. -/
def outermostFirst (c : CallStack) : List Frame := c.frames.reverse

/-- The active calls as a backtrace. -/
def capture (c : CallStack) : Backtrace := c.frames

/-- The error with the active calls, unless it has a backtrace already or there are none. -/
def attach (c : CallStack) (e : Error) : Error :=
  if e.backtrace.isSome || c.frames.isEmpty then e else e.withBacktrace c.capture

/-- The outline of a frame. -/
def frameOutline (f : Frame) : String :=
  Text.record "CallFrame" [("name", Text.quote f.name),
    ("call_span", Text.optional (f.span.map Span.text))]

/-- The outline of a call stack. -/
def outline (c : CallStack) : String :=
  Text.record "CallStack" [("frames", Text.bracketed (c.outermostFirst.map frameOutline)),
    ("max_depth", Text.optional (c.limit.map toString))]

/-! ### The stack -/

/-- A frame that fits makes the stack deeper by one. -/
theorem depth_of_push {c d : CallStack} {f : Frame} (h : c.push f = .ok d) :
  d.depth = c.depth + 1
  := by
  unfold push at h
  split at h
  · split at h
    · cases h
    · cases h
      rfl
  · cases h
    rfl

/-- Without the frame that fits the stack is as before. -/
theorem pop_of_push {c d : CallStack} {f : Frame} (h : c.push f = .ok d) :
  d.pop = c
  := by
  unfold push at h
  split at h
  · split at h
    · cases h
    · cases h
      rfl
  · cases h
    rfl

/-- A frame is refused exactly when there is a limit and it is reached. -/
theorem push_eq_error_iff (c : CallStack) (f : Frame) (cause : Cause) :
  c.push f = .error cause
    ↔ ∃ limit, c.limit = some limit ∧ limit ≤ c.depth ∧ cause = .stackOverflow limit
  := by
  unfold push
  cases c.limit with
  | none => simp
  | some limit =>
    by_cases h : limit ≤ c.depth
    · simp [h, eq_comm]
    · simp [h]

end CallStack

end StoryScript
