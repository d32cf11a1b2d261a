/-!
# The console

Where printed lines go: into a buffer of the console that can be read and cleared, or on to
the host as they come.
-/

namespace StoryScript

/-- What happens to a printed line. -/
inductive ConsoleMode where
  | buffer
  | forward
  deriving DecidableEq, Repr

/-- The console of a host. -/
structure Console where
  /-- What happens to the lines. -/
  mode : ConsoleMode
  /-- The lines printed so far, as far as they were not cleared. -/
  lines : Array String
  deriving DecidableEq, Repr

namespace Console

/-- A console on which nothing was printed. -/
def empty (mode : ConsoleMode) : Console := ⟨mode, #[]⟩

/-- The console after printing a line. -/
def print (c : Console) (line : String) : Console := { c with lines := c.lines.push line }

/-- Lines as one text, each with its end of line. -/
def textOf (lines : List String) : String := String.join (lines.map (· ++ "\n"))

/-- All lines as one text. -/
def printed (c : Console) : String := textOf c.lines.toList

/-- The text in the buffer, empty if there is none. -/
def output (c : Console) : String :=
  match c.mode with
  | .buffer => c.printed
  | .forward => ""

/-- The lines that went on to the host. -/
def forwarded (c : Console) : List String :=
  match c.mode with
  | .buffer => []
  | .forward => c.lines.toList

/-- The console with its buffer cleared.  What went on to the host stays. -/
def clear (c : Console) : Console :=
  match c.mode with
  | .buffer => { c with lines := #[] }
  | .forward => c

/-- The text printed since there were `count` lines. -/
def since (c : Console) (count : Nat) : String := textOf (c.lines.toList.drop count)

/-- The outline of a console. -/
def outline (c : Console) : String :=
  match c.mode with
  | .buffer => "PrintHandler::Buffer"
  | .forward => "PrintHandler::Forward"

end Console

end StoryScript
