import StoryScript.Proofs.Detached
import StoryScript.Proofs.Origins

/-!
# The places of errors

An error gets its place from the nodes that it passes on its way out: from the first one whose
span is not the dummy span, and from no other one.  Main statement: the span of an error is the
first span that is a place among those of the nodes under way where the error was raised, through
all calls.
-/

namespace StoryScript

open Eval

/-! ### Spans of the nodes under way -/

/-- The first span of a list that is a place. -/
def firstPlace (spans : List Span) : Option Span := spans.find? fun span => !span.isDummy

theorem firstPlace_append (spans spans' : List Span) :
  firstPlace (spans ++ spans') = (firstPlace spans).or (firstPlace spans')
  := List.find?_append

theorem firstPlace_eq_none_iff {spans : List Span} :
  firstPlace spans = none ↔ ∀ span ∈ spans, span = .dummy
  := by
  simp [firstPlace, Span.isDummy_iff]

/-- The span of the node that a task evaluates, if it evaluates one. -/
def Task.span? : Task → Option Span
  | .expr _ x => some x.span
  | .stmt _ st => some st.span
  | _ => none

/-- The spans of the node of a task, for an error with some cause that the task raises: when the
value to loop over is not a list, the iterable comes before the loop. -/
def Task.spansFor (task : Task) (cause : Cause) : List Span :=
  match task, cause with
  | .stmt _ (.forIn span _ iterable _), .typeMismatch (.notIterable _) => [iterable.span, span]
  | task, _ => task.span?.toList

/-- The spans of the nodes of tasks under way, the innermost one first. -/
def spansOf (outer : List (Task × State)) : List Span := outer.filterMap fun p => p.1.span?

theorem spansOf_cons (p : Task × State) (outer : List (Task × State)) :
  spansOf (p :: outer) = p.1.span?.toList ++ spansOf outer
  := by
  unfold spansOf
  rw [List.filterMap_cons]
  cases p.1.span? <;> rfl

/-! ### What an error learns -/

theorem Error.span_orSpan (e : Error) (span : Span) :
  (e.orSpan span).span = e.span.or (firstPlace [span])
  := by
  obtain ⟨cause, known, trace⟩ := e
  cases known with
  | some place => rfl
  | none => cases h : span.isDummy <;> simp [orSpan, firstPlace, h]

theorem CallStack.span_attach (calls : CallStack) (e : Error) :
  (calls.attach e).span = e.span
  := by
  unfold attach
  split <;> rfl

namespace Task

theorem span_placed (task : Task) (e : Error) :
  (task.placed e).span = e.span.or (firstPlace task.span?.toList)
  := by
  cases task with
  | expr n x => exact e.span_orSpan x.span
  | stmt n st => exact e.span_orSpan st.span
  | body | loop | call | builtin | dispatch | job => exact (Option.or_none).symm

/-- A task with a frame evaluates a call, not a node. -/
theorem span?_of_frame {task : Task} {frame : Frame} (h : task.frame? = some frame) :
  task.span? = none
  := by
  cases task with
  | expr | stmt => cases h
  | body | loop | call | builtin | dispatch | job => rfl

/-- An error that leaves a task gets the place of the node, unless it has one. -/
theorem span_learn (task : Task) (t : State) (e : Error) :
  (task.learn t e).span = e.span.or (firstPlace task.span?.toList)
  := by
  unfold learn
  cases hframe : task.frame? with
  | none => exact task.span_placed e
  | some frame =>
    rw [span?_of_frame hframe]
    exact (t.calls.span_attach e).trans (Option.or_none).symm

end Task

/-- The error of a failing task under way gets the first place around the task, unless it has one
already. -/
theorem Underway.span {S : Setting} {whole task : Task} {s t u u' : State}
    {outer : List (Task × State)} {e e' : Error} (h : Underway S whole s ((task, t) :: outer))
    (hfails : task.Fails S t e u) (hwhole : whole.Fails S s e' u') :
  e'.span = e.span.or (firstPlace (spansOf outer))
  := by
  generalize hall : (task, t) :: outer = chain at h
  induction h generalizing task t outer e u with
  | whole =>
    cases hall
    obtain ⟨rfl, -⟩ := hfails.unique hwhole
    exact (Option.or_none).symm
  | @part caller _ _ _ outer' _ hpart ih =>
    cases hall
    obtain ⟨u₁, hfails', -⟩ := hpart.failed hfails
    rw [ih hfails' rfl, caller.span_learn, spansOf_cons, firstPlace_append, Option.or_assoc]

/-! ### What an error knows where it is raised -/

theorem Error.span_ofBuiltin (name : String) (e : BuiltinError) :
  (Error.ofBuiltin name e).span = none
  := by
  cases e <;> rfl

theorem Task.spansFor_of_span {task : Task} {cause : Cause}
    (h : ∀ n span name x body, task ≠ .stmt n (.forIn span name x body)) :
  task.spansFor cause = task.span?.toList
  := by
  unfold spansFor
  split
  · rename_i n span name x body kind
    exact absurd rfl (h n span name x body)
  · rfl

/-- A loop over a list raises an error itself if the value is not a list, and when it has to
stop. -/
theorem span_of_forIn_failed {S : Setting} {n : Nat} {span : Span} {name : String} {x : Expr}
    {body : List Stmt} {s u : State} {e : Error}
    (hfails : (Task.stmt n (.forIn span name x body)).Fails S s e u)
    (hparts : ∀ part s' e' u', Enters S (.stmt n (.forIn span name x body)) s part s' →
      ¬ part.Fails S s' e' u') :
  e.span = firstPlace (Task.spansFor (.stmt n (.forIn span name x body)) e.cause)
  := by
  cases n with
  | zero => cases hfails
  | succ n =>
    obtain ⟨e', h, rfl⟩ := failed_of_located hfails
    obtain hv | ⟨v, u', hv, h⟩ := Action.failed_of_bind h
    · exact absurd hv (hparts _ _ _ _ .iterable)
    cases v with
    | list vs =>
      obtain ⟨before, v, after, flow, u₁, hvs, hbefore, hflow, h⟩ := split_of_forEach_failed h
      obtain htick | ⟨u₂, htick, h⟩ := h
      · rw [tick_apply] at htick
        split at htick
        · cases htick
          rw [Error.span_orSpan, Error.cause_orSpan]
          rfl
        · cases htick
      · obtain ⟨w, h⟩ := failed_of_inScope h
        have hlist : evalExpr S n x s = .done (.list ⟨before ++ v :: after⟩) u' := by
          rw [hv, ← hvs]
        exact absurd h (hparts _ _ _ _ (.element hlist hbefore hflow htick))
    | _ =>
      cases h
      rw [Error.span_orSpan, Error.span_orSpan, Error.cause_orSpan, Error.cause_orSpan]
      exact (firstPlace_append [x.span] [span]).symm

/-- The error of the innermost failing task has the first place that the task has for it. -/
theorem Origin.span {S : Setting} {whole task : Task} {s t : State} {outer : List (Task × State)}
    {e : Error} (h : Origin S whole s task t outer e) :
  e.span = firstPlace (task.spansFor e.cause)
  := by
  by_cases hloop : ∃ n span name x body, task = .stmt n (.forIn span name x body)
  · obtain ⟨n, span, name, x, body, rfl⟩ := hloop
    obtain ⟨u, hfails⟩ := h.fails
    exact span_of_forIn_failed hfails h.innermost
  · rw [Task.spansFor_of_span fun n span name x body heq => hloop ⟨n, span, name, x, body, heq⟩]
    cases h.raises with
    | own hplain =>
      obtain ⟨cause, -, rfl⟩ := hplain
      exact task.span_placed _
    | iterable kind => exact absurd ⟨_, _, _, _, _, rfl⟩ hloop
    | refused hframe _ =>
      rw [Task.span?_of_frame hframe]
      rfl
    | reported e' => exact Error.span_ofBuiltin _ _
    | answered e' => exact Error.span_ofBuiltin _ _
    | declined e' =>
      rw [Error.span_orSpan, Error.span_ofBuiltin]
      rfl

/-- The span of an error is the first one that is a place among the spans of the nodes under way
where the error was raised, from the innermost one out through all calls; it has none exactly if
all those spans are dummy.  A place that the error of a part has is kept by everything around it. -/
theorem errors_carry_the_innermost_place {S : Setting} {whole : Task} {s u : State} {e : Error}
    (hfails : whole.Fails S s e u) :
  (∃ task t outer e₀, Origin S whole s task t outer e₀)
    ∧ (∀ task t outer e₀, Origin S whole s task t outer e₀ →
        e.span = firstPlace (task.spansFor e.cause ++ spansOf outer)
          ∧ (e.span = none ↔ ∀ span ∈ task.spansFor e.cause ++ spansOf outer, span = .dummy))
    ∧ ∀ task t outer e' u', Underway S whole s ((task, t) :: outer) → task.Fails S t e' u' →
        e.span = e'.span.or (firstPlace (spansOf outer))
          ∧ ∀ place, e'.span = some place → e.span = some place
  := by
  use Origin.of_underway .whole hfails
  constructor
  · intro task t outer e₀ h
    obtain ⟨u₀, hfails₀⟩ := h.fails
    obtain ⟨e', u', hwhole, hcause, -⟩ := h.underway.failed hfails₀
    obtain ⟨rfl, -⟩ := hfails.unique hwhole
    have hspan : e.span = firstPlace (task.spansFor e.cause ++ spansOf outer) := by
      rw [h.underway.span hfails₀ hfails, h.span, hcause, firstPlace_append]
    use hspan
    rw [hspan, firstPlace_eq_none_iff]
  · intro task t outer e' u' h hfails'
    have hspan := h.span hfails' hfails
    use hspan
    intro place hplace
    rw [hspan, hplace]
    rfl

/-- A function that loops over a number, and its call in a statement with a place.  The iterable
and the loop have none. -/
def misplaced : List Stmt :=
  [.function .dummy 0 "f" [] [.forIn .dummy "x" (.literal .dummy (.int 3)) []],
    .expression ⟨10, 20⟩ (.call .dummy "f" [])]

/-- The place comes from the statement that called the function. -/
theorem place_of_misplaced :
  ∃ e u task t outer e₀, (Task.body 9 misplaced).Fails (Standard.setting .standard)
        (Standard.start .standard) e u
    ∧ Origin (Standard.setting .standard) (.body 9 misplaced) (Standard.start .standard) task t
      outer e₀
    ∧ e.span = firstPlace (task.spansFor e.cause ++ spansOf outer)
    ∧ e.span = some ⟨10, 20⟩
  := by
  have hrun : ∃ e u, (Task.body 9 misplaced).Fails (Standard.setting .standard)
      (Standard.start .standard) e u ∧ e.span = some ⟨10, 20⟩ := ⟨_, _, rfl, rfl⟩
  obtain ⟨e, u, hfails, hspan⟩ := hrun
  obtain ⟨⟨task, t, outer, e₀, horigin⟩, hplace, -⟩ := errors_carry_the_innermost_place hfails
  exact ⟨e, u, task, t, outer, e₀, hfails, horigin, (hplace task t outer e₀ horigin).1, hspan⟩

end StoryScript
