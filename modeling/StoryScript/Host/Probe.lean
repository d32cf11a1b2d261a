import StoryScript.Host.Callback

/-!
# Probes

Host functions that do next to nothing, with which a host can see how its functions are
called and how their failures reach a script.
-/

namespace StoryScript.Probe

/-- The list of all arguments. -/
def echo (args : List Value) : Except BuiltinError Value := .ok (.list args.toArray)

/-- The only argument. -/
def single : List Value → Except BuiltinError Value
  | [v] => .ok v
  | args => .error (.arity (.exactly 1) args.length)

/-- A failure over the arguments. -/
def refuse (_ : List Value) : Except BuiltinError Value := .error (.invalid "native refused")

/-- A failure of the host. -/
def collapse (_ : List Value) : Except BuiltinError Value := .error (.host "native broke")

/-- Host code that says itself how it fails: after `host:` or `invalid:` comes the message,
and all other code runs. -/
def hostCode (code : String) : Except BuiltinError Unit :=
  match code.dropPrefix? "host:", code.dropPrefix? "invalid:" with
  | some message, _ => .error (.host message.toString)
  | none, some message => .error (.invalid message.toString)
  | none, none => .ok ()

end StoryScript.Probe
