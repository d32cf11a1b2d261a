import StoryScript.Eval.Fuel
import StoryScript.Host.Config
import StoryScript.Host.Probe
import StoryScript.Session.Basic
import StoryScript.Tree.Alike
import StoryScript.Proofs.Cutoff
import StoryScript.Proofs.Halting
import StoryScript.Proofs.Isolation
import StoryScript.Proofs.Stacks
import StoryScript.Proofs.Delivery
import StoryScript.Proofs.Moments
import StoryScript.Proofs.Watch
import StoryScript.Proofs.Running
import StoryScript.Proofs.Scopes
import StoryScript.Proofs.Scoping
import StoryScript.Proofs.Names
import StoryScript.Proofs.Origins
import StoryScript.Proofs.Backtraces
import StoryScript.Proofs.Stopped
import StoryScript.Proofs.Respanned
import StoryScript.Proofs.SpanBlind
import StoryScript.Proofs.Spans
import StoryScript.Proofs.Equality
import StoryScript.Proofs.Containment
import StoryScript.Proofs.Handlers
import StoryScript.Proofs.Consecutive
import StoryScript.Proofs.Comparison
import StoryScript.Proofs.Extremes
import StoryScript.Proofs.Numerals
import StoryScript.Proofs.Ranges
import StoryScript.Proofs.IntegerTexts
import StoryScript.Proofs.Settings
import StoryScript.Proofs.Operators
import StoryScript.Proofs.Returns
import StoryScript.Proofs.Places
import StoryScript.Proofs.Loops
import StoryScript.Proofs.Declaring
import StoryScript.Proofs.MapLiterals
import StoryScript.Proofs.ListTexts
import StoryScript.Proofs.Decimals
import StoryScript.Proofs.FloatTexts
import StoryScript.Proofs.Assignment
