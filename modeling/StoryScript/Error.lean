import StoryScript.Text.Record
import StoryScript.Value.Basic

/-!
# Errors

An error is a cause together with the place where it arose, as far as it is known, and the
calls that were active there.  A built-in reports a smaller kind of error, which becomes an
error of the evaluation once it is known which built-in reported it.
-/

namespace StoryScript

open Text

/-! ### Errors of built-ins -/

/-- How many arguments a built-in takes. -/
inductive Arity where
  | exactly (n : Nat)
  | atLeast (n : Nat)
  | between (least most : Nat)
  deriving DecidableEq, Repr

/-- The wording of an arity. -/
def Arity.text : Arity → String
  | exactly n => toString n
  | atLeast n => "at least " ++ toString n
  | between least most =>
    if least = most then toString least else toString least ++ " to " ++ toString most

/-- What a built-in reports when it fails. -/
inductive BuiltinError where
  /-- The number of arguments is wrong. -/
  | arity (expected : Arity) (got : Nat)
  /-- The argument at a position, counted from one, is of the wrong kind. -/
  | argument (position : Nat) (expected : String) (got : Kind)
  /-- The arguments make no sense together. -/
  | invalid (message : String)
  /-- The host failed. -/
  | host (message : String)
  deriving DecidableEq, Repr

namespace BuiltinError

/-- The word for the error. -/
def label : BuiltinError → String
  | arity _ _ => "Arity"
  | argument _ _ _ => "ArgType"
  | invalid _ => "Invalid"
  | host _ => "Host"

/-- The wording of the error. -/
def message : BuiltinError → String
  | arity expected got => "expected " ++ expected.text ++ " argument(s), got " ++ toString got
  | argument position expected got =>
    "argument " ++ toString position ++ " must be " ++ expected ++ ", got " ++ ticked got.name
  | invalid m => m
  | host m => m

/-- The error of an argument, counted from zero, of the wrong kind. -/
def wrongArgument (index : Nat) (expected : String) (got : Value) : BuiltinError :=
  argument (index + 1) expected got.kind

end BuiltinError

/-! ### Causes -/

/-- Why values of some kinds do not fit. -/
inductive Mismatch where
  | operands (op : String) (left right : Kind)
  | operand (op : String) (got : Kind)
  | notIndexable (got : Kind)
  | noMembers (name : String) (got : Kind)
  | notIterable (got : Kind)
  | stated (message : String)
  deriving DecidableEq, Repr

/-- The wording of a mismatch. -/
def Mismatch.message : Mismatch → String
  | operands op left right =>
    "operator " ++ ticked op ++ " cannot be applied to " ++ ticked left.name ++ " and "
      ++ ticked right.name
  | operand op got => "operator " ++ ticked op ++ " cannot be applied to " ++ ticked got.name
  | notIndexable got => "cannot index into " ++ ticked got.name
  | noMembers name got =>
    "cannot access member " ++ ticked name ++ " on " ++ ticked got.name
  | notIterable got => "for-in requires a list, got " ++ ticked got.name
  | stated message => message

/-- Why a run was stopped. -/
inductive Interruption where
  | stopRequested
  | deadline (ms : Nat)
  | iterations (limit : Nat)
  | stated (reason : String)
  deriving DecidableEq, Repr

/-- The wording of an interruption. -/
def Interruption.reason : Interruption → String
  | stopRequested => "stop requested"
  | deadline ms => "deadline of " ++ toString ms ++ " ms exceeded"
  | iterations limit => "loop iteration limit of " ++ toString limit ++ " exceeded"
  | stated reason => reason

/-- The cause of an error. -/
inductive Cause where
  | undefinedVariable (name : String)
  | undefinedFunction (name : String)
  | typeMismatch (why : Mismatch)
  | nullAccess (action : String)
  | notCallable (got : Kind)
  | indexOutOfRange (index : Whole) (length : Nat)
  | invalidIndexType (got : Kind)
  | divisionByZero
  | integerOverflow (operation : String)
  /-- A built-in refused its arguments. -/
  | argumentError (builtin : String) (message : String)
  /-- The host failed behind a built-in. -/
  | hostFailure (builtin : String) (source : String)
  | stackOverflow (depth : Nat)
  | interrupted (why : Interruption)
  | invalidScript (reason : String)
  | alreadyRunning (script : String)
  deriving DecidableEq

namespace Cause

/-- The word for a cause. -/
def label : Cause → String
  | undefinedVariable _ => "UndefinedVariable"
  | undefinedFunction _ => "UndefinedFunction"
  | typeMismatch _ => "TypeMismatch"
  | nullAccess _ => "NullAccess"
  | notCallable _ => "NotCallable"
  | indexOutOfRange _ _ => "IndexOutOfRange"
  | invalidIndexType _ => "InvalidIndexType"
  | divisionByZero => "DivisionByZero"
  | integerOverflow _ => "IntegerOverflow"
  | argumentError _ _ => "ArgumentError"
  | hostFailure _ _ => "HostInteropFailure"
  | stackOverflow _ => "StackOverflow"
  | interrupted _ => "Interrupted"
  | invalidScript _ => "InvalidScript"
  | alreadyRunning _ => "ScriptAlreadyRunning"

/-- The wording of a cause. -/
def message : Cause → String
  | undefinedVariable name => "undefined variable " ++ ticked name
  | undefinedFunction name => "undefined function " ++ ticked name
  | typeMismatch why => "type mismatch: " ++ why.message
  | nullAccess action => "cannot " ++ action ++ " on null"
  | notCallable got => ticked got.name ++ " value is not callable"
  | indexOutOfRange index length =>
    "index " ++ index.text ++ " out of range for list of length " ++ toString length
  | invalidIndexType got => "list index must be a number, got " ++ ticked got.name
  | divisionByZero => "division by zero"
  | integerOverflow operation => "integer overflow in " ++ operation
  | argumentError builtin m => ticked builtin ++ ": " ++ m
  | hostFailure builtin source => ticked builtin ++ " failed: " ++ source
  | stackOverflow depth => "maximum call depth exceeded (limit: " ++ toString depth ++ ")"
  | interrupted why => "script interrupted: " ++ why.reason
  | invalidScript reason => "invalid script: " ++ reason
  | alreadyRunning script => "script " ++ ticked script ++ " is already running"

/-- What the host reported, if the host is the cause. -/
def source : Cause → Option String
  | hostFailure _ s => some s
  | _ => none

/-- Whether the run was stopped from outside. -/
def isInterrupt : Cause → Bool
  | interrupted _ => true
  | _ => false

end Cause

/-! ### Errors of an evaluation -/

/-- An active call: its name, and where it was made, unless the host made it. -/
structure Frame where
  /-- The name of the function or built-in. -/
  name : String
  /-- The span of the call. -/
  span : Option Span
  deriving DecidableEq, Repr

/-- The active calls at some moment, the most recent one first. -/
abbrev Backtrace := List Frame

/-- The line of a frame in the text of a backtrace. -/
def Frame.line (index : Nat) (f : Frame) : String :=
  let place :=
    match f.span with
    | some span => if span.isDummy then "" else " at " ++ span.text
    | none => ""
  "  " ++ toString index ++ ": " ++ f.name ++ place ++ "\n"

/-- The text of a backtrace, empty if there are no calls. -/
def Backtrace.text (b : Backtrace) : String :=
  if b.isEmpty then ""
  else "stack backtrace:\n" ++ String.join (b.mapIdx Frame.line)

/-- An error of an evaluation. -/
structure Error where
  /-- The cause. -/
  cause : Cause
  /-- The innermost known place. -/
  span : Option Span
  /-- The calls that were active where the error arose. -/
  backtrace : Option Backtrace
  deriving DecidableEq

namespace Error

/-- An error of which only the cause is known. -/
def ofCause (cause : Cause) : Error := ⟨cause, none, none⟩

/-- The error at a place, whatever was known before. -/
def withSpan (e : Error) (span : Span) : Error := { e with span := some span }

/-- The error at a place, unless a place is known already.  A dummy span is no place. -/
def orSpan (e : Error) (span : Span) : Error :=
  if e.span.isNone && !span.isDummy then { e with span := some span } else e

/-- The error with the calls that were active. -/
def withBacktrace (e : Error) (b : Backtrace) : Error := { e with backtrace := some b }

/-- The wording of the error, with its place if that is known. -/
def text (e : Error) : String :=
  match e.span with
  | some span => e.cause.message ++ " at " ++ span.text
  | none => e.cause.message

/-- The error that a failing built-in causes. -/
def ofBuiltin (builtin : String) : BuiltinError → Error
  | .host m => ofCause (.hostFailure builtin m)
  | e => ofCause (.argumentError builtin e.message)

end Error

end StoryScript
