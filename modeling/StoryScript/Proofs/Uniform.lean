import StoryScript.Builtin.Standard
import StoryScript.Proofs.Region

/-!
# Uniform built-ins

A built-in is uniform when it cannot look into closures: to arguments that differ at most in
closures that scripts cannot tell apart it gives answers that differ no more, and it does nothing
but print, the same lines each time.  Main statement: the standard built-ins are uniform.
-/

namespace StoryScript

/-- A value without scopes corresponds to itself, whichever closures correspond. -/
theorem Value.related_of_not_mentions {r : Closure → Closure → Prop} {v : Value}
    (h : ∀ x, ¬ v.Mentions x) :
  v.Related r v
  := by
  have hnowhere : v.Within ∅ := h
  apply (Value.related_of_within hnowhere).mono
  rintro f g ⟨-, hscope, -⟩
  cases hscope

/-- A built-in that cannot look into closures, and does nothing but print. -/
def Builtin.Uniform (f : Builtin) : Prop :=
  ∀ r, Closure.Matching r → ∀ args args', List.Forall₂ (Value.Related r) args args' →
    ∃ x x' lines, f args = Scene.answer x lines ∧ f args' = Scene.answer x' lines ∧
      Agree (Value.Related r) x x'

/-- All built-ins are uniform. -/
def Builtins.Uniform (table : Builtins) : Prop := ∀ entry ∈ table, Builtin.Uniform entry.2

/-! ### Computations -/

namespace Agree

variable {ε α β γ δ : Type} {P : α → β → Prop} {Q : γ → δ → Prop} {x : Except ε α}
  {y : Except ε β}

/-- Computations in two parts agree if the first parts do, and the second ones on related values. -/
theorem bind {f : α → Except ε γ} {g : β → Except ε δ} (h : Agree P x y)
    (hfg : ∀ a b, P a b → Agree Q (f a) (g b)) :
  Agree Q (x >>= f) (y >>= g)
  := by
  cases h with
  | ok hab => exact hfg _ _ hab
  | error e => exact .error e

/-- Computations in two parts are equal if the first parts agree, and the second ones are equal on
related values. -/
theorem bind_eq {f : α → Except ε γ} {g : β → Except ε γ} (h : Agree P x y)
    (hfg : ∀ a b, P a b → f a = g b) :
  x >>= f = y >>= g
  := by
  cases h with
  | ok hab => exact hfg _ _ hab
  | error e => rfl

end Agree

namespace Builtin.Uniform

/-- A built-in that is a function is uniform if the function agrees on related arguments. -/
theorem ofFunction {f : List Value → Except BuiltinError Value}
    (h : ∀ r, Closure.Matching r → ∀ args args', List.Forall₂ (Value.Related r) args args' →
      Agree (Value.Related r) (f args) (f args')) :
  Uniform (Builtin.ofFunction f)
  := by
  intro r hr args args' hargs
  exact ⟨f args, f args', [], ofFunction_apply f args, ofFunction_apply f args',
    h r hr args args' hargs⟩

/-- A function is uniform that does not depend on closures at all and answers with none. -/
theorem of_eq {f : List Value → Except BuiltinError Value}
    (h : ∀ r, Closure.Matching r → ∀ args args', List.Forall₂ (Value.Related r) args args' →
      f args = f args')
    (hresult : ∀ args v, f args = .ok v → ∀ x, ¬ v.Mentions x) :
  Uniform (Builtin.ofFunction f)
  := by
  apply ofFunction
  intro r hr args args' hargs
  apply Agree.of_eq (h r hr args args' hargs)
  intro v hv
  exact Value.related_of_not_mentions (hresult args v hv)

/-- A function with the same result on related arguments is uniform, if the result has no parts. -/
theorem of_isAtom {f : List Value → Except BuiltinError Value}
    (h : ∀ r, Closure.Matching r → ∀ args args', List.Forall₂ (Value.Related r) args args' →
      f args = f args')
    (hresult : ∀ args v, f args = .ok v → v.isAtom = true) :
  Uniform (Builtin.ofFunction f)
  := of_eq h fun args v hv => Value.not_mentions_of_isAtom (hresult args v hv)

end Builtin.Uniform

/-- Calls of a uniform built-in, or of one that is missing, have answers that correspond. -/
theorem Builtins.Uniform.exists_answers {table : Builtins} (h : table.Uniform)
    {r : Closure → Closure → Prop} (hr : Closure.Matching r) (name : String)
    {args args' : List Value} (hargs : List.Forall₂ (Value.Related r) args args') :
  ∃ x x' lines, table.dispatch name args = Scene.answer x lines
    ∧ table.dispatch name args' = Scene.answer x' lines ∧ Agree (Value.Related r) x x'
  := by
  unfold dispatch
  cases hf : Entries.get? name table with
  | none => exact ⟨.error (Error.ofCause (.undefinedFunction name)), _, [], rfl, rfl, .error _⟩
  | some f =>
    have huniform : Builtin.Uniform f := h _ (Entries.mem_of_get? hf)
    obtain ⟨x, x', lines, hx, hx', hagree⟩ := huniform r hr args args' hargs
    refine ⟨x.mapError (Error.ofBuiltin name), x'.mapError (Error.ofBuiltin name), lines, ?_, ?_,
      ?_⟩
    · dsimp only
      rw [hx, Scene.mapError_answer]
    · dsimp only
      rw [hx', Scene.mapError_answer]
    · cases hagree with
      | ok hv => exact .ok hv
      | error e => exact .error _

/-! ### Arguments -/

namespace Args

variable {r : Closure → Closure → Prop} {args args' : List Value}
  (h : List.Forall₂ (Value.Related r) args args')

include h

/-- Related arguments are as many. -/
theorem arity_eq (expected : Nat) :
  arity args expected = arity args' expected
  := by
  rw [arity, arity, h.length_eq]

theorem arityRange_eq (least : Nat) (most : Option Nat) :
  arityRange args least most = arityRange args' least most
  := by
  unfold arityRange
  rw [h.length_eq]

/-- An argument that is taken out of related ones is related, or missing in both. -/
theorem agree_get (index : Nat) :
  Agree (Value.Related r) (get args index) (get args' index)
  := by
  have hitem := Value.Related.getElem?_of_forall₂ h index
  rw [get, get, h.length_eq]
  generalize args[index]? = a, args'[index]? = b at hitem
  cases hitem with
  | none => exact .error _
  | some hab => exact .ok hab

/-- A function of one argument. -/
theorem single_eq {α : Type} {f : Value → Except BuiltinError α}
    (hf : ∀ v v', v.Related r v' → f v = f v') :
  (arity args 1 >>= fun _ => get args 0 >>= f) = (arity args' 1 >>= fun _ => get args' 0 >>= f)
  := by
  rw [arity_eq h]
  congr 1
  funext _
  apply (agree_get h 0).bind_eq hf

/-- An integer is taken out of related arguments alike. -/
theorem int_eq (index : Nat) :
  int args index = int args' index
  := by
  apply (agree_get h index).bind_eq
  intro v v' hv
  cases hv <;> rfl

/-- Lists that are taken out of related arguments have related items. -/
theorem agree_list (index : Nat) :
  Agree (fun as bs => List.Forall₂ (Value.Related r) as.toList bs.toList) (list args index)
    (list args' index)
  := by
  apply (agree_get h index).bind
  intro v v' hv
  cases hv with
  | @atom v hatom =>
    cases v <;> first | exact .error _ | cases hatom
  | list hitems => exact .ok hitems
  | map => exact .error _
  | closure => exact .error _

end Args

/-! ### The standard built-ins -/

namespace Standard

open Builtin

/-- Related values are printed alike. -/
theorem uniform_print :
  Uniform print
  := by
  intro r hr args args' hargs
  have htexts : args.map Value.text = args'.map Value.text := by
    induction hargs with
    | nil => rfl
    | cons hv _ ih => rw [List.map_cons, List.map_cons, ih, hv.text_eq hr]
  refine ⟨.ok .null, .ok .null, [String.intercalate " " (args.map Value.text)], rfl, ?_,
    .ok (.atom rfl)⟩
  rw [htexts]
  rfl

section

variable {r : Closure → Closure → Prop} {args args' : List Value}
  (h : List.Forall₂ (Value.Related r) args args')

include h

/-- Related values are as long. -/
theorem len_eq :
  len args = len args'
  := by
  apply Args.single_eq h
  intro v v' hv
  cases hv with
  | atom => rfl
  | list hitems =>
    show Except.ok (count (List.length _)) = Except.ok (count (List.length _))
    rw [hitems.length_eq]
  | map hkeys hvalues =>
    have hlength := hvalues.length_eq
    rw [List.length_map, List.length_map] at hlength
    show Except.ok (count (List.length _)) = Except.ok (count (List.length _))
    rw [hlength]
  | closure => rfl

/-- Related values have the same text. -/
theorem str_eq (hr : Closure.Matching r) :
  str args = str args'
  := by
  apply Args.single_eq h
  intro v v' hv
  rw [hv.text_eq hr]

theorem int_eq :
  int args = int args'
  := by
  apply Args.single_eq h
  intro v v' hv
  cases hv <;> rfl

theorem float_eq :
  float args = float args'
  := by
  apply Args.single_eq h
  intro v v' hv
  cases hv <;> rfl

theorem typeOf_eq :
  typeOf args = typeOf args'
  := by
  apply Args.single_eq h
  intro v v' hv
  rw [hv.kind_eq]

/-- Related maps have the same keys. -/
theorem keys_eq :
  keys args = keys args'
  := by
  apply Args.single_eq h
  intro v v' hv
  cases hv with
  | atom => rfl
  | list => rfl
  | map hkeys _ =>
    dsimp only
    rw [hkeys]
  | closure => rfl

theorem abs_eq :
  abs args = abs args'
  := by
  apply Args.single_eq h
  intro v v' hv
  cases hv <;> rfl

/-- One more item on related lists gives related lists. -/
theorem agree_push :
  Agree (Value.Related r) (push args) (push args')
  := by
  unfold push
  rw [Args.arity_eq h]
  apply Agree.bind (P := Eq) (.of_eq rfl fun _ _ => rfl)
  intro _ _ _
  apply (Args.agree_list h 0).bind
  rintro ⟨as⟩ ⟨bs⟩ hitems
  apply (Args.agree_get h 1).bind
  intro v v' hv
  rw [List.push_toArray, List.push_toArray]
  exact .ok (.list (List.rel_append hitems (.cons hv .nil)))

/-- What is in one of two related values is in the other: it is equal to the same items. -/
theorem contains_eq (hr : Closure.Matching r) :
  contains args = contains args'
  := by
  unfold contains
  rw [Args.arity_eq h]
  congr 1
  funext _
  apply (Args.agree_get h 1).bind_eq
  intro sought sought' hsought
  apply (Args.agree_get h 0).bind_eq
  intro v v' hv
  cases hv with
  | @atom v hatom =>
    cases v with
    | str s => cases hsought <;> rfl
    | _ => first | rfl | cases hatom
  | @list as bs hitems =>
    have hany : as.any (fun item => item.looseEq sought)
        = bs.any (fun item => item.looseEq sought') := by
      induction hitems with
      | nil => rfl
      | cons hitem _ ih =>
        rw [List.any_cons, List.any_cons, ih,
          hitem.looseEq_eq hr hsought]
    dsimp only
    rw [List.any_toArray, List.any_toArray, hany]
  | @map as bs hkeys _ =>
    have hcontains : ∀ key, Entries.contains key as = Entries.contains key bs := by
      intro key
      apply Bool.eq_iff_iff.mpr
      rw [← Entries.mem_keys_iff, ← Entries.mem_keys_iff, hkeys]
    cases hsought with
    | @atom sought _ =>
      cases sought with
      | str key =>
        dsimp only
        rw [hcontains]
      | _ => rfl
    | _ => rfl
  | closure => rfl

theorem range_eq :
  range args = range args'
  := by
  unfold range
  rw [Args.arityRange_eq h, h.length_eq, Args.int_eq h, Args.int_eq h]

omit h

/-- Related values are the same number or none. -/
theorem number?_eq {v v' : Value} (hv : v.Related r v') :
  v.number? = v'.number?
  := by
  cases hv <;> rfl

/-- A number is related to nothing but itself. -/
theorem eq_of_number? {v v' : Value} (hv : v.Related r v') {x : Float}
    (hx : v.number? = some x) :
  v = v'
  := by
  cases hv with
  | atom => rfl
  | _ => cases hx

include h

/-- The best of related numbers is the same. -/
theorem bestOf_eq (better : Float → Float → Bool) (best : Value) (x : Float) (index : Nat) :
  bestOf better best x index args = bestOf better best x index args'
  := by
  induction h generalizing best x index with
  | nil => rfl
  | @cons v v' _ _ hv _ ih =>
    rw [bestOf, bestOf, ← number?_eq hv]
    cases hnumber : v.number? with
    | none =>
      dsimp only
      rw [BuiltinError.wrongArgument, BuiltinError.wrongArgument, hv.kind_eq]
    | some y =>
      obtain rfl := eq_of_number? hv hnumber
      dsimp only
      rw [ih, ih]

theorem extremum_eq (better : Float → Float → Bool) :
  extremum better args = extremum better args'
  := by
  unfold extremum
  rw [Args.arityRange_eq h]
  congr 1
  funext _
  have htail : List.Forall₂ (Value.Related r) args.tail args'.tail := by
    cases h with
    | nil => exact .nil
    | cons _ hrest => exact hrest
  have hfirst := Args.agree_get h 0
  unfold Args.number
  generalize Args.get args 0 = x, Args.get args' 0 = y at hfirst
  cases hfirst with
  | error e => rfl
  | @ok v v' hv =>
    dsimp only [bind, Except.bind]
    rw [← number?_eq hv]
    cases hnumber : v.number? with
    | none =>
      dsimp only
      rw [BuiltinError.wrongArgument, BuiltinError.wrongArgument, hv.kind_eq]
    | some z =>
      obtain rfl := eq_of_number? hv hnumber
      apply bestOf_eq htail

end

/-- The standard built-ins are uniform. -/
theorem uniform :
  builtins.Uniform
  := by
  unfold Builtins.Uniform builtins
  simp only [List.forall_mem_cons, List.not_mem_nil, false_imp_iff, implies_true, and_true]
  refine ⟨uniform_print, .of_isAtom (fun _ _ _ _ => len_eq) fun _ _ => isAtom_len,
    .of_isAtom (fun _ hr _ _ h => str_eq h hr) fun _ _ => isAtom_str,
    .of_isAtom (fun _ _ _ _ => int_eq) fun _ _ => isAtom_int,
    .of_isAtom (fun _ _ _ _ => float_eq) fun _ _ => isAtom_float,
    .of_isAtom (fun _ _ _ _ => typeOf_eq) fun _ _ => isAtom_typeOf,
    .ofFunction fun _ _ _ _ => agree_push,
    .of_eq (fun _ _ _ _ => keys_eq) fun _ _ => not_mentions_keys,
    .of_isAtom (fun _ hr _ _ h => contains_eq h hr) fun _ _ => isAtom_contains,
    .of_eq (fun _ _ _ _ => range_eq) fun _ _ => not_mentions_range,
    .of_isAtom (fun _ _ _ _ => abs_eq) fun _ _ => isAtom_abs,
    .of_isAtom (fun _ _ _ _ h => extremum_eq h _) fun _ _ => isAtom_extremum,
    .of_isAtom (fun _ _ _ _ h => extremum_eq h _) fun _ _ => isAtom_extremum⟩

end Standard

end StoryScript
