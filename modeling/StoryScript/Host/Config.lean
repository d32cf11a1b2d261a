import StoryScript.Limits
import StoryScript.Number.Numeral
import StoryScript.Text.Blank
import StoryScript.Text.Record

/-!
# Configuration

The limits of runs, and the time from which a run counts as slow, read from four settings.
A setting is a count, or `unlimited` in any letter case, with white space around it allowed.
Settings that are missing keep their standard values.
-/

namespace StoryScript

/-- The configuration of an executor. -/
structure Config where
  /-- The limits of each run. -/
  limits : Limits
  /-- The milliseconds from which a run counts as slow. -/
  slowAfter : Option Nat
  deriving DecidableEq, Repr

/-- A setting that cannot be read. -/
structure ConfigError where
  /-- The name of the setting. -/
  key : String
  /-- Its text. -/
  value : String
  /-- What is wrong with the number. -/
  source : Number.CountError
  deriving DecidableEq, Repr

/-- The wording of the error. -/
def ConfigError.message (e : ConfigError) : String :=
  e.key ++ ": expected a non-negative integer or `unlimited`, got " ++ Text.ticked e.value

namespace Config

/-- The configuration when nothing is set. -/
def standard : Config := ⟨Limits.standard, some 100⟩

/-- The setting for the number of nested calls. -/
def callDepthKey : String := "FABLE_MAX_CALL_DEPTH"

/-- The setting for the number of loop rounds. -/
def iterationsKey : String := "FABLE_MAX_LOOP_ITERATIONS"

/-- The setting for the time of a run. -/
def deadlineKey : String := "FABLE_DEADLINE_MS"

/-- The setting for slow runs. -/
def slowKey : String := "FABLE_SLOW_SCRIPT_MS"

/-- The limit that a text denotes. -/
def readLimit (text : List Char) : Except Number.CountError (Option Nat) :=
  let cs := Text.trim text
  if cs.map Char.toLower = "unlimited".toList then .ok none
  else (Number.readCount cs).map some

/-- The limit in a setting, or the one given if the setting is missing. -/
def setting (lookup : String → Option String) (key : String) (otherwise : Option Nat) :
    Except ConfigError (Option Nat) :=
  match lookup key with
  | none => .ok otherwise
  | some text =>
    match readLimit text.toList with
    | .ok limit => .ok limit
    | .error source => .error ⟨key, text, source⟩

/-- The configuration that the settings describe.  The first one that cannot be read is the
error. -/
def ofSettings (lookup : String → Option String) : Except ConfigError Config := do
  let callDepth ← setting lookup callDepthKey standard.limits.callDepth
  let iterations ← setting lookup iterationsKey standard.limits.iterations
  let deadline ← setting lookup deadlineKey standard.limits.deadline
  let slowAfter ← setting lookup slowKey standard.slowAfter
  return ⟨⟨callDepth, iterations, deadline⟩, slowAfter⟩

end Config

end StoryScript
