import StoryScript.Proofs.Respanned
import StoryScript.Proofs.Uniform

/-!
# Built-ins that do not look at spans

A built-in is blind to spans when it cannot tell respanned arguments and scenes apart: it ends the
same way, and what it leaves behind corresponds.  Uniform built-ins see no spans, because these
are in closures.  Main statement: the standard built-ins are blind to spans.
-/

namespace StoryScript

/-- Outcomes that end the same way, with related states, errors and values. -/
inductive Outcome.Paired {σ ε α β : Type} (Q : σ → σ → Prop) (E : ε → ε → Prop)
    (P : α → β → Prop) : Outcome σ ε α → Outcome σ ε β → Prop where
  | done {v : α} {v' : β} {t t' : σ} (ht : Q t t') (hv : P v v') :
    Paired Q E P (.done v t) (.done v' t')
  | failed {e e' : ε} {t t' : σ} (ht : Q t t') (he : E e e') :
    Paired Q E P (.failed e t) (.failed e' t')
  | outOfFuel : Paired Q E P .outOfFuel .outOfFuel

/-- A built-in that cannot tell respanned arguments and scenes apart. -/
def Builtin.SpanBlind (f : Builtin) : Prop :=
  ∀ args args' s s', List.Forall₂ Value.Respanned args args' → s.Respanned s' →
    (f args s).Paired Scene.Respanned Eq Value.Respanned (f args' s')

/-- All built-ins are blind to spans. -/
def Builtins.SpanBlind (table : Builtins) : Prop := ∀ entry ∈ table, Builtin.SpanBlind entry.2

theorem Scene.Respanned.printAll {s s' : Scene} (h : s.Respanned s') (lines : List String) :
  (s.printAll lines).Respanned (s'.printAll lines)
  := ⟨h.context, { h.host with console := congrArg (lines.foldl Console.print ·) h.host.console }⟩

theorem Builtin.Uniform.spanBlind {f : Builtin} (h : f.Uniform) :
  f.SpanBlind
  := by
  intro args args' s s' hargs hs
  obtain ⟨x, x', lines, hx, hx', hagree⟩ := h _ Closure.Respanned.matching args args' hargs
  rw [hx, hx']
  cases hagree with
  | ok hv => exact .done (hs.printAll lines) hv
  | error e => exact .failed (hs.printAll lines) rfl

/-- The standard built-ins are blind to spans. -/
theorem Standard.spanBlind :
  Standard.builtins.SpanBlind
  := by
  intro entry hentry
  exact (Standard.uniform entry hentry).spanBlind

end StoryScript
