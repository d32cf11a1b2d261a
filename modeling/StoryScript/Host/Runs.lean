import Std.Data.TreeSet
import StoryScript.Context

/-!
# Runs

The scripts that are running.  Every run has a number of its own, and a request to stop is
made to a number, so it can never reach a later run of the same script.
-/

namespace StoryScript

/-- The number of a run. -/
abbrev RunId := Nat

/-- The active runs, and the requests to stop. -/
structure Runs where
  /-- The active runs by the names of their scripts. -/
  active : Entries RunId
  /-- The runs that are asked to stop. -/
  stopped : Std.TreeSet RunId
  /-- The number that the next run gets. -/
  next : RunId

namespace Runs

/-- No runs. -/
def empty : Runs := ⟨[], ∅, 0⟩

/-- Whether a script is running. -/
def isRunning (r : Runs) (script : ScriptId) : Bool := r.active.contains script

/-- The names of the running scripts, sorted. -/
def scripts (r : Runs) : List ScriptId := r.active.keys.mergeSort fun a b => decide (a ≤ b)

/-- Whether a run is asked to stop. -/
def isStopped (r : Runs) (run : RunId) : Bool := r.stopped.contains run

/-- The request that a run stops. -/
def request (r : Runs) (run : RunId) : Runs :=
  { r with stopped := r.stopped.insert run }

/-- The request withdrawn. -/
def withdraw (r : Runs) (run : RunId) : Runs :=
  { r with stopped := r.stopped.erase run }

/-- The request that the active run of a script stops, if there is one. -/
def stop (r : Runs) (script : ScriptId) : Runs :=
  match r.active.get? script with
  | some run => r.request run
  | none => r

/-- Whether a script may start, and if not, why. -/
def mayStart (r : Runs) (script : ScriptId) : Except Cause Unit :=
  if script = "" then .error (.invalidScript "script id must not be empty")
  else if r.isRunning script then .error (.alreadyRunning script)
  else .ok ()

/-- A number for a run that is not listed under a script. -/
def issue (r : Runs) : Runs := { r with next := r.next + 1 }

/-- The runs after a script starts; the number of its run is `r.next`. -/
def start (r : Runs) (script : ScriptId) : Runs :=
  { r with active := r.active.insert script r.next, next := r.next + 1 }

/-- The runs after the run of a script ends. -/
def finish (r : Runs) (script : ScriptId) : Runs := { r with active := r.active.erase script }

/-! ### Who is running -/

/-- When a run ends, its script is not running any more, and the others are as before. -/
theorem isRunning_finish (r : Runs) (script other : ScriptId) :
  (r.finish script).isRunning other = (other != script && r.isRunning other)
  := by
  simp only [isRunning, finish, Entries.contains_eq_isSome]
  by_cases h : other = script
  · subst h
    simp [Entries.get?_erase_self]
  · simp [Entries.get?_erase_of_ne h, h]

/-! ### Who is asked to stop -/

/-- A request stops the run that it is about, and the others are as before. -/
theorem isStopped_request (r : Runs) (run other : RunId) :
  (r.request run).isStopped other = (run == other || r.isStopped other)
  := by
  simp [isStopped, request, Std.TreeSet.contains_insert, Bool.beq_eq_decide_eq]

/-! ### Who may start -/

/-- A script may start exactly when it has a name and is not running. -/
theorem mayStart_eq_ok_iff (r : Runs) (script : ScriptId) :
  r.mayStart script = .ok () ↔ script ≠ "" ∧ r.isRunning script = false
  := by
  unfold mayStart
  by_cases hempty : script = ""
  · simp [hempty]
  · by_cases hrun : r.isRunning script <;> simp [hempty, hrun]

end Runs

end StoryScript
