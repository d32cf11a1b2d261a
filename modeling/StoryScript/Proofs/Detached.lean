import StoryScript.Builtin.Standard
import StoryScript.Proofs.Ranges
import StoryScript.Proofs.Related
import StoryScript.Run

/-!
# Detached built-ins

A built-in is detached when it sees nothing but its arguments, does nothing but print, and
answers with no scope that was not mentioned in its arguments.  Main statement: the standard
built-ins are detached.
-/

namespace StoryScript

/-! ### Scopes in values -/

namespace Value

/-- A value mentions the scopes of the closures in it, at any depth. -/
inductive Mentions (x : ScopeId) : Value → Prop where
  | scope {f : Closure} (h : f.scope = x) : Mentions x (closure f)
  | global {f : Closure} (h : f.global = x) : Mentions x (closure f)
  | item {items : Array Value} {v : Value} (hv : v ∈ items) (h : Mentions x v) :
    Mentions x (list items)
  | entry {entries : List (String × Value)} {key : String} {v : Value}
    (hv : (key, v) ∈ entries) (h : Mentions x v) : Mentions x (map entries)

/-- A value without parts that refers to no scope mentions none. -/
theorem not_mentions_of_isAtom {v : Value} (h : v.isAtom = true) (x : ScopeId) :
  ¬ Mentions x v
  := by
  intro hx
  cases hx <;> cases h

/-- A list of values without parts mentions no scope. -/
theorem not_mentions_of_atoms {items : Array Value} (h : ∀ v ∈ items, v.isAtom = true)
    (x : ScopeId) :
  ¬ Mentions x (list items)
  := by
  intro hx
  cases hx with
  | item hv hx => exact not_mentions_of_isAtom (h _ hv) x hx

end Value

/-! ### Detached built-ins -/

namespace Scene

/-- The scene after some lines are printed. -/
def printAll (s : Scene) (lines : List String) : Scene :=
  { s with host.console := lines.foldl Console.print s.host.console }

/-- The action that prints some lines and has a fixed answer. -/
def answer {ε : Type} (x : Except ε Value) (lines : List String) : Action Scene ε Value :=
  fun s =>
  match x with
  | .ok v => .done v (s.printAll lines)
  | .error e => .failed e (s.printAll lines)

end Scene

/-- A built-in that sees nothing but its arguments, does nothing but print, and brings no scopes
of its own. -/
def Builtin.Detached (f : Builtin) : Prop :=
  ∀ args, ∃ x lines, f args = Scene.answer x lines ∧
    ∀ v y, x = .ok v → v.Mentions y → ∃ a ∈ args, a.Mentions y

/-- All built-ins are detached. -/
def Builtins.Detached (table : Builtins) : Prop := ∀ entry ∈ table, Builtin.Detached entry.2

/-- A built-in that is a function has the answer of the function and prints nothing. -/
theorem Builtin.ofFunction_apply (f : List Value → Except BuiltinError Value)
    (args : List Value) :
  Builtin.ofFunction f args = Scene.answer (f args) []
  := by
  funext s
  unfold Builtin.ofFunction Scene.answer
  cases f args <;> rfl

/-- A built-in that is a function is detached if its results mention only what its arguments do. -/
theorem Builtin.Detached.ofFunction {f : List Value → Except BuiltinError Value}
    (h : ∀ args v x, f args = .ok v → v.Mentions x → ∃ a ∈ args, a.Mentions x) :
  Detached (Builtin.ofFunction f)
  := by
  intro args
  use f args, []
  use ofFunction_apply f args
  intro v y hv
  exact h args v y hv

/-- A function whose results have no parts and refer to no scope is detached, whatever its
arguments. -/
theorem Builtin.Detached.of_isAtom {f : List Value → Except BuiltinError Value}
    (h : ∀ args v, f args = .ok v → v.isAtom = true) :
  Detached (Builtin.ofFunction f)
  := by
  apply Detached.ofFunction
  intro args v x hv hx
  exact absurd hx (Value.not_mentions_of_isAtom (h args v hv) x)

/-- A fixed answer with other errors is the answer with those errors; the same lines are printed. -/
theorem Scene.mapError_answer {ε δ : Type} (g : ε → δ) (x : Except ε Value)
    (lines : List String) :
  (answer x lines).mapError (fun _ e => g e) = answer (x.mapError g) lines
  := by
  funext s
  cases x <;> rfl

/-- The call of a detached built-in, or of one that is missing, has an answer that does not
depend on the scene. -/
theorem Builtins.Detached.exists_answer {table : Builtins} (h : table.Detached) (name : String)
    (args : List Value) :
  ∃ x lines, table.dispatch name args = Scene.answer x lines ∧
    ∀ v y, x = .ok v → v.Mentions y → ∃ a ∈ args, a.Mentions y
  := by
  unfold dispatch
  cases hf : Entries.get? name table with
  | none =>
    use .error (Error.ofCause (.undefinedFunction name)), []
    constructor
    · rfl
    · intro v y hv
      cases hv
  | some f =>
    have hdetached : Builtin.Detached f := h _ (Entries.mem_of_get? hf)
    obtain ⟨x, lines, hx, hmentions⟩ := hdetached args
    use x.mapError (Error.ofBuiltin name), lines
    constructor
    · dsimp only
      rw [hx, Scene.mapError_answer]
    · intro v y hv
      cases x with
      | error e => cases hv
      | ok w =>
        cases hv
        exact hmentions v y rfl

namespace Standard

/-- `print` prints one line and answers `null`. -/
theorem detached_print :
  Builtin.Detached print
  := by
  intro args
  use .ok .null, [String.intercalate " " (args.map Value.text)]
  constructor
  · rfl
  · intro v y hv hy
    cases hv
    exact absurd hy (Value.not_mentions_of_isAtom rfl y)

/-- A length is a number, which has no parts. -/
theorem isAtom_len {args : List Value} {v : Value} (h : len args = .ok v) :
  v.isAtom = true
  := by
  obtain ⟨_, -, h⟩ := Except.exists_of_bind h
  obtain ⟨a, -, h⟩ := Except.exists_of_bind h
  split at h <;> cases h <;> rfl

/-- A text has no parts. -/
theorem isAtom_str {args : List Value} {v : Value} (h : str args = .ok v) :
  v.isAtom = true
  := by
  obtain ⟨_, -, h⟩ := Except.exists_of_bind h
  obtain ⟨a, -, h⟩ := Except.exists_of_bind h
  cases h
  rfl

/-- What a numeral is read as is a number. -/
theorem isAtom_readNumber {s : String} {v : Value} (h : readNumber s = .ok v) :
  v.isAtom = true
  := by
  unfold readNumber at h
  dsimp only at h
  split at h
  · cases h
    rfl
  · split at h <;> cases h
    rfl

/-- A truncated float is an integer. -/
theorem isAtom_truncate {x : Float} {v : Value} (h : truncate x = .ok v) :
  v.isAtom = true
  := by
  unfold truncate at h
  split at h <;> cases h
  rfl

/-- The conversion to an integer answers with an integer, as it is, truncated or read. -/
theorem isAtom_toInt {a v : Value} (h : toInt a = .ok v) :
  v.isAtom = true
  := by
  unfold toInt at h
  split at h
  · cases h; rfl
  · cases h; rfl
  · exact isAtom_truncate h
  · obtain ⟨n, hn, h⟩ := Except.exists_of_bind h
    split at h
    · exact isAtom_truncate h
    · cases h
      exact isAtom_readNumber hn
  · cases h

/-- The conversion to a float answers with a float. -/
theorem isAtom_toFloat {a v : Value} (h : toFloat a = .ok v) :
  v.isAtom = true
  := by
  unfold toFloat at h
  split at h
  · cases h; rfl
  · obtain ⟨n, hn, h⟩ := Except.exists_of_bind h
    split at h
    · cases h; rfl
    · cases h
      exact isAtom_readNumber hn
  · cases h; rfl
  · cases h; rfl
  · cases h

/-- `int` answers with an integer. -/
theorem isAtom_int {args : List Value} {v : Value} (h : int args = .ok v) :
  v.isAtom = true
  := by
  obtain ⟨_, -, h⟩ := Except.exists_of_bind h
  obtain ⟨a, -, h⟩ := Except.exists_of_bind h
  exact isAtom_toInt h

/-- `float` answers with a float. -/
theorem isAtom_float {args : List Value} {v : Value} (h : float args = .ok v) :
  v.isAtom = true
  := by
  obtain ⟨_, -, h⟩ := Except.exists_of_bind h
  obtain ⟨a, -, h⟩ := Except.exists_of_bind h
  exact isAtom_toFloat h

/-- The name of a type is a text. -/
theorem isAtom_typeOf {args : List Value} {v : Value} (h : typeOf args = .ok v) :
  v.isAtom = true
  := by
  obtain ⟨_, -, h⟩ := Except.exists_of_bind h
  obtain ⟨a, -, h⟩ := Except.exists_of_bind h
  cases h
  rfl

/-- `contains` answers with a truth value, for a text, a list and a map. -/
theorem isAtom_contains {args : List Value} {v : Value} (h : contains args = .ok v) :
  v.isAtom = true
  := by
  obtain ⟨_, -, h⟩ := Except.exists_of_bind h
  obtain ⟨sought, -, h⟩ := Except.exists_of_bind h
  obtain ⟨a, -, h⟩ := Except.exists_of_bind h
  split at h
  · cases h; rfl
  · split at h <;> cases h
    rfl
  · split at h <;> cases h
    rfl
  · cases h

/-- An absolute value is a number. -/
theorem isAtom_abs {args : List Value} {v : Value} (h : abs args = .ok v) :
  v.isAtom = true
  := by
  obtain ⟨_, -, h⟩ := Except.exists_of_bind h
  obtain ⟨a, -, h⟩ := Except.exists_of_bind h
  split at h
  · split at h <;> cases h
    rfl
  · cases h; rfl
  · cases h

/-- Only numbers are taken for numbers, and these have no parts. -/
theorem isAtom_of_number? {a : Value} {x : Float} (h : a.number? = some x) :
  a.isAtom = true
  := by
  cases a <;> first | rfl | cases h

/-- The best of some numbers is one of them or the best one before, so it has no parts. -/
theorem isAtom_bestOf {better : Float → Float → Bool} {best v : Value} {x : Float} {index : Nat}
    {args : List Value} (hbest : best.isAtom = true)
    (h : bestOf better best x index args = .ok v) :
  v.isAtom = true
  := by
  induction args generalizing best x index with
  | nil =>
    cases h
    exact hbest
  | cons a rest ih =>
    rw [bestOf] at h
    cases ha : a.number? with
    | none =>
      rw [ha] at h
      cases h
    | some y =>
      rw [ha] at h
      dsimp only at h
      split at h
      · exact ih (isAtom_of_number? ha) h
      · exact ih hbest h

/-- `min` and `max` answer with a number, whether the numbers are in a list or not. -/
theorem isAtom_extremum {better : Float → Float → Bool} {args : List Value} {v : Value}
    (h : extremum better args = .ok v) :
  v.isAtom = true
  := by
  obtain ⟨_, -, h⟩ := Except.exists_of_bind h
  obtain ⟨first, hfirst, h⟩ := Except.exists_of_bind h
  obtain ⟨x, hx, h⟩ := Except.exists_of_bind h
  apply isAtom_bestOf _ h
  obtain ⟨first', hfirst', hx⟩ := Except.exists_of_bind hx
  cases hfirst.symm.trans hfirst'
  split at hx
  · rename_i y hy
    exact isAtom_of_number? hy
  · cases hx

/-- The keys of a map are texts, and a list of texts mentions no scope. -/
theorem not_mentions_keys {args : List Value} {v : Value} (h : keys args = .ok v) (x : ScopeId) :
  ¬ v.Mentions x
  := by
  obtain ⟨_, -, h⟩ := Except.exists_of_bind h
  obtain ⟨a, -, h⟩ := Except.exists_of_bind h
  split at h <;> cases h
  apply Value.not_mentions_of_atoms
  intro v hv
  rw [List.mem_toArray, List.mem_map] at hv
  obtain ⟨key, -, rfl⟩ := hv
  rfl

/-- A list of integers mentions no scope. -/
theorem not_mentions_between {start stop : Whole} {v : Value} (h : between start stop = .ok v)
    (x : ScopeId) :
  ¬ v.Mentions x
  := by
  obtain ⟨ns, heq, -, -⟩ := countUp_spec start stop #[]
  unfold between at h
  rw [heq, Array.empty_append] at h
  split at h <;> cases h
  apply Value.not_mentions_of_atoms
  intro v hv
  rw [List.mem_toArray, List.mem_map] at hv
  obtain ⟨n, -, rfl⟩ := hv
  rfl

/-- `range` answers with a list of integers. -/
theorem not_mentions_range {args : List Value} {v : Value} (h : range args = .ok v)
    (x : ScopeId) :
  ¬ v.Mentions x
  := by
  obtain ⟨_, -, h⟩ := Except.exists_of_bind h
  split at h
  · obtain ⟨stop, -, h⟩ := Except.exists_of_bind h
    exact not_mentions_between h x
  · obtain ⟨start, -, h⟩ := Except.exists_of_bind h
    obtain ⟨stop, -, h⟩ := Except.exists_of_bind h
    exact not_mentions_between h x

/-- An argument that is taken out is one of the arguments. -/
theorem mem_of_get {args : List Value} {index : Nat} {a : Value} (h : Args.get args index = .ok a) :
  a ∈ args
  := by
  unfold Args.get at h
  split at h
  · rename_i hv
    cases h
    exact List.mem_of_getElem? hv
  · cases h

/-- A list that is taken out of the arguments is one of them. -/
theorem mem_of_list {args : List Value} {index : Nat} {items : Array Value}
    (h : Args.list args index = .ok items) :
  Value.list items ∈ args
  := by
  obtain ⟨a, ha, h⟩ := Except.exists_of_bind h
  split at h <;> cases h
  exact mem_of_get ha

/-- A list with one more item mentions what the list or the item does, and both are arguments. -/
theorem mentions_push {args : List Value} {v : Value} {x : ScopeId} (h : push args = .ok v)
    (hx : v.Mentions x) :
  ∃ a ∈ args, a.Mentions x
  := by
  obtain ⟨_, -, h⟩ := Except.exists_of_bind h
  obtain ⟨items, hitems, h⟩ := Except.exists_of_bind h
  obtain ⟨last, hlast, h⟩ := Except.exists_of_bind h
  cases h
  cases hx with
  | item hv hx =>
    obtain hv | rfl := Array.mem_push.mp hv
    · exact ⟨_, mem_of_list hitems, .item hv hx⟩
    · exact ⟨_, mem_of_get hlast, hx⟩

/-- The standard built-ins are detached. -/
theorem detached :
  builtins.Detached
  := by
  unfold Builtins.Detached builtins
  simp only [List.forall_mem_cons, List.not_mem_nil, false_imp_iff, implies_true, and_true]
  refine ⟨detached_print, .of_isAtom fun _ _ => isAtom_len,
    .of_isAtom fun _ _ => isAtom_str, .of_isAtom fun _ _ => isAtom_int,
    .of_isAtom fun _ _ => isAtom_float, .of_isAtom fun _ _ => isAtom_typeOf,
    .ofFunction fun _ _ _ => mentions_push, ?keys,
    .of_isAtom fun _ _ => isAtom_contains, ?range,
    .of_isAtom fun _ _ => isAtom_abs, .of_isAtom fun _ _ => isAtom_extremum,
    .of_isAtom fun _ _ => isAtom_extremum⟩
  case keys =>
    apply Builtin.Detached.ofFunction
    intro args v x hv hx
    exact absurd hx (not_mentions_keys hv x)
  case range =>
    apply Builtin.Detached.ofFunction
    intro args v x hv hx
    exact absurd hx (not_mentions_range hv x)

/-- The standard built-ins under some limits, with a clock that stands still. -/
def setting (limits : Limits) : Setting := ⟨builtins, .log, limits, fun _ => 0⟩

/-- The start of a run on a new context of a new host. -/
def start (limits : Limits) : State :=
  State.start (Scene.enter (Host.initial .buffer) "main") limits none

end Standard

end StoryScript
