import StoryScript.Proofs.Consecutive

/-!
# Where returns end

A `return` ends the call in whose body it stands, and nothing else.  It goes through the blocks,
branches and loops around it, and no further: the bodies of functions and of what is handed off to
the host are not part of the statements that are evaluated where they stand.  Main statement:
statements without a `return` of their own never return, whatever they call, and after a statement
that returns no other statement is begun.
-/

namespace StoryScript

open Eval

/-! ### Statements that have a return -/

mutual

/-- Whether a statement has a `return`, outside the bodies of functions and of what is handed
off. -/
def Stmt.hasReturn : Stmt → Bool
  | .ret _ _ => true
  | .block _ body | .whileLoop _ _ body | .forIn _ _ _ body | .forLoop _ _ _ _ body =>
    anyReturn body
  | .branch _ _ yes no => anyReturn yes || elseReturn no
  | .declare _ _ _ | .function _ _ _ _ _ | .expression _ _ | .property _ _ _ | .handOff _ _ =>
    false

/-- Whether one of several statements has a `return`. -/
def Stmt.anyReturn : List Stmt → Bool
  | [] => false
  | s :: rest => s.hasReturn || anyReturn rest

/-- Whether one of several statements that may be missing has a `return`. -/
def Stmt.elseReturn : Option (List Stmt) → Bool
  | some body => anyReturn body
  | none => false

end

namespace Stmt

/-- Some statement has a return exactly if one of the list has. -/
theorem anyReturn_eq_any (body : List Stmt) :
  anyReturn body = body.any hasReturn
  := by
  induction body with
  | nil => rfl
  | cons s rest ih => rw [anyReturn, ih, List.any_cons]

theorem anyReturn_eq_false_iff {body : List Stmt} :
  anyReturn body = false ↔ ∀ st ∈ body, st.hasReturn = false
  := by
  rw [anyReturn_eq_any, List.any_eq_false]
  simp only [Bool.not_eq_true]

end Stmt

/-! ### Evaluations that do not return -/

namespace Eval

variable {α : Type}

/-- The evaluation does not end the enclosing call: if it is done, the next statement follows. -/
def StaysInCall (a : Eval Flow) : Prop := ∀ s flow t, a s = .done flow t → flow.isReturn = false

namespace StaysInCall

variable {a : Eval Flow}

/-- A normal flow is no return. -/
theorem normal (v : Value) :
  StaysInCall (pure (.normal v))
  := by
  intro s flow t h
  cases h
  rfl

/-- A sequence stays in the call if what follows does. -/
theorem bind {b : Eval α} {f : α → Eval Flow} (hf : ∀ v, StaysInCall (f v)) :
  StaysInCall (b >>= f)
  := by
  intro s flow t h
  obtain ⟨v, u, -, hrest⟩ := Action.exists_of_bind_done h
  apply hf v u flow t hrest

/-- A block stays in the call if its body does. -/
theorem settled (ha : a.StaysInCall) :
  StaysInCall (a >>= fun flow => pure flow.settle)
  := by
  intro s flow t h
  obtain ⟨flow', u, hbody, hend⟩ := Action.exists_of_bind_done h
  cases hend
  cases flow' with
  | normal v => rfl
  | returned v => cases ha s _ _ hbody

theorem located {span : Span} (ha : a.StaysInCall) :
  StaysInCall (Eval.located span a)
  := by
  intro s flow t h
  apply ha s flow t (of_located_done h)

theorem inScope (ha : a.StaysInCall) :
  StaysInCall (Eval.inScope a)
  := by
  intro s flow t h
  rw [inScope_apply] at h
  cases hbody : a s.pushed with
  | done flow' u =>
    rw [hbody] at h
    cases h
    apply ha s.pushed flow u hbody
  | failed e u =>
    rw [hbody] at h
    cases h
  | outOfFuel =>
    rw [hbody] at h
    cases h

/-- Statements one after the other stay in the call if each of them does. -/
theorem sequence {exec : Stmt → Eval Flow} {body : List Stmt}
    (h : ∀ st ∈ body, (exec st).StaysInCall) (last : Value) :
  StaysInCall (Eval.sequence exec last body)
  := by
  induction body generalizing last with
  | nil => exact normal last
  | cons st rest ih =>
    intro s flow t hrun
    obtain ⟨flow', u, hst, hrest⟩ := Action.exists_of_bind_done hrun
    cases flow' with
    | normal v => exact ih (fun x hx => h x (List.mem_cons_of_mem _ hx)) v u flow t hrest
    | returned v => cases h st List.mem_cons_self s _ _ hst

/-- A loop stays in the call if its body does. -/
theorem rounds {S : Setting} {condition : Eval Bool} {body : Eval Flow} {update : Eval Unit}
    (hbody : body.StaysInCall) (n : Nat) :
  StaysInCall (Eval.rounds S condition body update n)
  := by
  induction n with
  | zero =>
    intro s flow t h
    cases h
  | succ n ih =>
    apply bind
    intro goesOn
    cases goesOn with
    | false => exact normal .null
    | true =>
      apply bind
      intro _ s flow t hrun
      obtain ⟨flow', u, hround, hrest⟩ := Action.exists_of_bind_done hrun
      cases flow' with
      | normal v => exact bind (fun _ => ih) u flow t hrest
      | returned v => cases hbody s _ _ hround

/-- A loop over values stays in the call if its body does. -/
theorem forEach {S : Setting} {body : Value → Eval Flow} (hbody : ∀ v, (body v).StaysInCall)
    (vs : List Value) :
  StaysInCall (Eval.forEach S body vs)
  := by
  induction vs with
  | nil => exact normal .null
  | cons v rest ih =>
    apply bind
    intro _ s flow t hrun
    obtain ⟨flow', u, hround, hrest⟩ := Action.exists_of_bind_done hrun
    cases flow' with
    | normal w => exact ih u flow t hrest
    | returned w => cases hbody v s _ _ hround

end StaysInCall

end Eval

/-- A statement without a `return` of its own does not end the enclosing call. -/
theorem execStmt_staysInCall (S : Setting) {n : Nat} {st : Stmt} (h : st.hasReturn = false) :
  (execStmt S n st).StaysInCall
  := by
  induction n generalizing st with
  | zero =>
    intro s flow t hrun
    cases hrun
  | succ n ih =>
    have hblock : ∀ body, Stmt.anyReturn body = false →
        StaysInCall (inScope (sequence (execStmt S n) .null body)) := by
      intro body hbody
      apply StaysInCall.inScope
      apply StaysInCall.sequence
      intro x hx
      apply ih (Stmt.anyReturn_eq_false_iff.mp hbody x hx)
    unfold execStmt
    apply StaysInCall.located
    cases st with
    | ret span value => cases h
    | block span body => exact (hblock body h).settled
    | branch span c yes no =>
      obtain ⟨hyes, hno⟩ := Bool.or_eq_false_iff.mp h
      apply StaysInCall.bind
      intro v
      split
      · exact (hblock yes hyes).settled
      · cases no with
        | some body => exact (hblock body hno).settled
        | none => exact .normal .null
    | whileLoop span c body => exact (hblock body h).rounds n
    | forIn span name iterable body =>
      apply StaysInCall.bind
      intro v
      apply StaysInCall.bind
      intro vs
      apply StaysInCall.forEach
      intro w
      apply StaysInCall.inScope
      apply StaysInCall.bind
      intro _
      apply StaysInCall.sequence
      intro x hx
      apply ih (Stmt.anyReturn_eq_false_iff.mp h x hx)
    | forLoop span start c update body =>
      apply StaysInCall.inScope
      apply StaysInCall.bind
      intro _
      apply (hblock body h).rounds n
    | declare span name value | property span name value =>
      exact .bind fun _ => .bind fun _ => .normal .null
    | function span id name params body => exact .bind fun _ => .bind fun _ => .normal .null
    | expression span value => exact .bind fun v => .normal v
    | handOff span what => exact .bind fun _ => .normal .null

/-! ### Statements after a return -/

section Bodies

variable {S : Setting} {n : Nat} {s t : State}

/-- The statements of a body begin after those before them are done. -/
theorem enters_body_iff {body : List Stmt} {part : Task} :
  Enters S (.body n body) s part t
    ↔ ∃ before st after v, body = before ++ st :: after ∧ part = .stmt n st
      ∧ execAll S n before s = .done (.normal v) t
  := by
  constructor
  · intro h
    cases h with
    | statement h => exact ⟨_, _, _, _, rfl, rfl, h⟩
  · rintro ⟨before, st, after, v, rfl, rfl, h⟩
    exact .statement h

/-- Statements that return hide all others after them. -/
theorem execAll_append_of_returned {body : List Stmt} {v : Value}
    (h : execAll S n body s = .done (.returned v) t) (after : List Stmt) :
  execAll S n (body ++ after) s = .done (.returned v) t
  := by
  rw [← h]
  apply sequence_append_of_stops
  intro w u hnormal
  cases h.symm.trans hnormal

/-- A body that returns begins no other statements when it is followed by some. -/
theorem enters_append_iff {body : List Stmt} {v : Value} {u : State}
    (h : execAll S n body s = .done (.returned v) u) (after : List Stmt) (part : Task) :
  Enters S (.body n (body ++ after)) s part t ↔ Enters S (.body n body) s part t
  := by
  rw [enters_body_iff, enters_body_iff]
  constructor
  · rintro ⟨before, st, rest, w, hsplit, rfl, hbefore⟩
    obtain ⟨tail, rfl, htail⟩ | ⟨tail, rfl, -⟩ := List.append_eq_append_iff.mp hsplit.symm
    · cases tail with
      | nil =>
        -- then all of the body would be done
        rw [List.append_nil] at h
        cases hbefore.symm.trans h
      | cons first tail =>
        cases htail
        exact ⟨before, st, tail, w, rfl, rfl, hbefore⟩
    · cases hbefore.symm.trans (execAll_append_of_returned h tail)
  · rintro ⟨before, st, rest, w, rfl, rfl, hbefore⟩
    exact ⟨before, st, rest ++ after, w, List.append_assoc _ _ _, rfl, hbefore⟩

end Bodies

/-- Statements without a `return` of their own never return, whatever they call.  A statement that
returns ends the statements that it stands among: the others make no difference to value and state,
and none of them is begun. -/
theorem returns_are_confined (S : Setting) (n : Nat) :
  (∀ body s flow t, (∀ st ∈ body, st.hasReturn = false) → execAll S n body s = .done flow t →
      flow.isReturn = false)
    ∧ ∀ before st after s v t w u, execAll S n before s = .done (.normal v) t →
      execStmt S n st t = .done (.returned w) u →
      execAll S n (before ++ [st]) s = .done (.returned w) u
        ∧ execAll S n (before ++ [st] ++ after) s = .done (.returned w) u
        ∧ ∀ part t', Enters S (.body n (before ++ [st] ++ after)) s part t'
          ↔ Enters S (.body n (before ++ [st])) s part t'
  := by
  constructor
  · intro body s flow t hbody hrun
    have hstays : (execAll S n body).StaysInCall :=
      .sequence (fun st hst => execStmt_staysInCall S (hbody st hst)) .null
    apply hstays s flow t hrun
  · intro before st after s v t w u hbefore hst
    have hend : execAll S n (before ++ [st]) s = .done (.returned w) u :=
      (sequence_append hbefore [st]).trans (Action.bind_of_done hst)
    use hend, execAll_append_of_returned hend after
    intro part t'
    apply enters_append_iff hend

/-- A function that returns from a loop. -/
def escaping : Stmt :=
  .function .dummy 0 "f" [] [.whileLoop .dummy (.literal .dummy (.bool true))
    [.ret .dummy (some (.literal .dummy (.int 1)))]]

/-- The call of a function without arguments. -/
def plainCall (name : String) : Stmt := .expression .dummy (.call .dummy name [])

/-- A return in two blocks and a loop. -/
def wrapped : Stmt :=
  .block .dummy [.whileLoop .dummy (.literal .dummy (.bool true))
    [.branch .dummy (.literal .dummy .null) [] (some
      [.ret .dummy (some (.literal .dummy (.int 2)))])]]

/-- The return in the function ends neither the caller nor its loop, the other one ends all
statements around it; the function that is missing is never looked up. -/
theorem escaping_called_and_wrapped_returned :
  ∃ flow t u, (∀ st ∈ [escaping, plainCall "f"], st.hasReturn = false)
    ∧ execAll (Standard.setting .unlimited) 9 [escaping, plainCall "f"] (Standard.start .unlimited)
      = .done flow t
    ∧ flow.isReturn = false
    ∧ execStmt (Standard.setting .unlimited) 9 wrapped t = .done (.returned (.int 2)) u
    ∧ execAll (Standard.setting .unlimited) 9
      ([escaping, plainCall "f"] ++ [wrapped] ++ [plainCall "missing"]) (Standard.start .unlimited)
      = .done (.returned (.int 2)) u
  := by
  obtain ⟨hconfined, hends⟩ := returns_are_confined (Standard.setting .unlimited) 9
  have hnone : ∀ st ∈ [escaping, plainCall "f"], st.hasReturn = false := by decide
  have hruns : ∃ t u, execAll (Standard.setting .unlimited) 9 [escaping, plainCall "f"]
        (Standard.start .unlimited) = .done (.normal (.int 1)) t
      ∧ execStmt (Standard.setting .unlimited) 9 wrapped t = .done (.returned (.int 2)) u :=
    ⟨_, _, rfl, rfl⟩
  obtain ⟨t, u, hbefore, hst⟩ := hruns
  exact ⟨_, t, u, hnone, hbefore, hconfined _ _ _ _ hnone hbefore, hst,
    (hends _ _ [plainCall "missing"] _ _ _ _ _ hbefore hst).2.1⟩

end StoryScript
