import Mathlib.Data.List.Induction
import Mathlib.Data.List.Nodup
import StoryScript.Proofs.Detached
import StoryScript.Proofs.Parts

/-!
# Map literals

The entries of a map literal are evaluated one after the other.  A key that is repeated keeps its
first place and takes its last value.  Main statement: what is evaluated of a literal, which entries
its map has, how it fails, and that all ways of looking into a map with distinct keys agree.
-/

namespace StoryScript

open Eval

/-! ### Entries from pairs with repeated keys -/

namespace Entries

variable {α : Type}

/-- A key after others is a new one exactly if it is not among them. -/
theorem eraseDups_concat (ks : List String) (k : String) :
  (ks ++ [k]).eraseDups = if k ∈ ks then ks.eraseDups else ks.eraseDups ++ [k]
  := by
  rw [List.eraseDups_append]
  by_cases h : k ∈ ks <;> simp [List.removeAll, List.eraseDups_cons, h]

/-- One more pair is put into the entries of those before. -/
theorem ofPairs_concat (pairs : List (String × α)) (p : String × α) :
  ofPairs (pairs ++ [p]) = (ofPairs pairs).insert p.1 p.2
  := List.foldl_concat _ _ _ _

/-- The keys are the distinct ones among the pairs, each where it first occurs. -/
theorem keys_ofPairs (pairs : List (String × α)) :
  keys (ofPairs pairs) = (keys pairs).eraseDups
  := by
  -- One more pair changes the keys only if its key is new, and then it comes last.
  induction pairs using List.reverseRecOn with
  | nil => rfl
  | append_singleton pairs p ih =>
    have hkeys : keys (pairs ++ [p]) = keys pairs ++ [p.1] := List.map_append
    have hknown : (ofPairs pairs).contains p.1 = true ↔ p.1 ∈ keys pairs := by
      rw [← mem_keys_iff, ih, List.mem_eraseDups]
    rw [ofPairs_concat, keys_insert, hkeys, eraseDups_concat, ih]
    simp only [hknown]

/-- Putting a value under a key repeats no key. -/
theorem nodup_keys_insert {es : Entries α} (h : es.keys.Nodup) (key : String) (a : α) :
  (es.insert key a).keys.Nodup
  := by
  rw [keys_insert]
  split
  · exact h
  · rename_i hnew
    rw [← mem_keys_iff] at hnew
    exact h.append (List.nodup_singleton key) (List.disjoint_singleton.mpr hnew)

/-- Pairs become entries in which no key is repeated. -/
theorem nodup_keys_ofPairs (pairs : List (String × α)) :
  (keys (ofPairs pairs)).Nodup
  := by
  induction pairs using List.reverseRecOn with
  | nil => exact List.nodup_nil
  | append_singleton pairs p ih =>
    rw [ofPairs_concat]
    exact nodup_keys_insert ih p.1 p.2

/-- Pairs with other keys leave the value under a key as it is. -/
theorem get?_insertAll_of_notMem {key : String} {pairs : List (String × α)}
    (h : key ∉ keys pairs) (es : Entries α) :
  get? key (insertAll es pairs) = get? key es
  := by
  induction pairs generalizing es with
  | nil => rfl
  | cons p rest ih =>
    obtain ⟨hne, hrest⟩ := not_or.mp (List.mem_cons.not.mp h)
    exact (ih hrest _).trans (get?_insert_of_ne hne p.2 es)

/-- Under a key is the value of the last pair with this key. -/
theorem get?_ofPairs_last (before : List (String × α)) (key : String) (a : α)
    {after : List (String × α)} (h : key ∉ keys after) :
  get? key (ofPairs (before ++ (key, a) :: after)) = some a
  := by
  have hsplit : ofPairs (before ++ (key, a) :: after)
      = insertAll ((ofPairs before).insert key a) after := List.foldl_append
  rw [hsplit, get?_insertAll_of_notMem h, get?_insert_self]

end Entries

/-! ### Entries in turn -/

/-- Entries that are evaluated in turn, each once: every one begins in the state in which the one
before it ended. -/
inductive InTurn (eval : Expr → Eval Value) :
    List (String × Expr) → State → List (String × Value) → State → Prop where
  | nil {s : State} : InTurn eval [] s [] s
  | cons {key : String} {x : Expr} {rest : List (String × Expr)} {v : Value}
      {vs : List (String × Value)} {s t u : State} (hx : eval x s = .done v t)
      (hrest : InTurn eval rest t vs u) : InTurn eval ((key, x) :: rest) s ((key, v) :: vs) u

variable {eval : Expr → Eval Value} {pairs : List (String × Expr)} {vs : List (String × Value)}
  {e : Error} {s t u : State}

/-- The keys of the values are those of the literal, as they are evaluated one by one. -/
theorem InTurn.keys_eq (h : InTurn eval pairs s vs t) :
  Entries.keys vs = Entries.keys pairs
  := by
  induction h with
  | nil => rfl
  | cons _ _ ih => exact congrArg (List.cons _) ih

/-- The value of one entry, with its key. -/
def entry (eval : Expr → Eval Value) (p : String × Expr) : Eval (String × Value) := do
  return (p.1, ← eval p.2)

/-- All entries are done exactly if each of them is, in turn. -/
theorem entries_done_iff :
  Action.each (entry eval) pairs s = .done vs t ↔ InTurn eval pairs s vs t
  := by
  constructor
  · intro h
    induction pairs generalizing s vs with
    | nil =>
      cases h
      exact .nil
    | cons p rest ih =>
      obtain ⟨⟨key, v⟩, s', hfirst, hrest⟩ := Action.exists_of_bind_done h
      obtain ⟨w, _, hx, hpair⟩ := Action.exists_of_bind_done hfirst
      cases hpair
      obtain ⟨ws, _, hrest, hend⟩ := Action.exists_of_bind_done hrest
      cases hend
      exact .cons hx (ih hrest)
  · intro h
    induction h with
    | nil => rfl
    | @cons key x rest v vs s s' u hx _ ih =>
      have hfirst : entry eval (key, x) s = .done (key, v) s' := Action.bind_of_done hx
      exact (Action.bind_of_done hfirst).trans (Action.bind_of_done ih)

/-- An expression that fails after some entries are done. -/
def FailsAfter (eval : Expr → Eval Value) (before : List (String × Expr)) (x : Expr) (s : State)
    (e : Error) (t : State) : Prop :=
  ∃ vs u, InTurn eval before s vs u ∧ eval x u = .failed e t

/-- The entries fail with the error of the first one that fails. -/
theorem entries_failed_iff :
  Action.each (entry eval) pairs s = .failed e t
    ↔ ∃ before key x after, pairs = before ++ (key, x) :: after ∧ FailsAfter eval before x s e t
  := by
  constructor
  · intro h
    obtain ⟨before, ⟨key, x⟩, after, vs, u, hsplit, hbefore, hfails⟩ :=
      Action.split_of_each_failed h
    obtain hx | ⟨v, u', -, hpair⟩ := Action.failed_of_bind hfails
    · exact ⟨before, key, x, after, hsplit, vs, u, entries_done_iff.mp hbefore, hx⟩
    · cases hpair
  · rintro ⟨before, key, x, after, rfl, vs, u, hbefore, hx⟩
    have hfails : entry eval (key, x) u = .failed e t := Action.bind_of_failed hx
    exact Action.each_failed (entries_done_iff.mpr hbefore) hfails after

/-! ### Literals -/

namespace Task

/-- After items that are done come the parts of the other ones. -/
theorem eachParts_append {α β : Type} {f : α → Eval β} {before : List α} {bs : List β}
    (h : Action.each f before s = .done bs t) (part : α → Task) (after : List α) :
  (eachParts f part (before ++ after) s).map Prod.fst
    = before.map part ++ (eachParts f part after t).map Prod.fst
  := by
  induction before generalizing s bs with
  | nil =>
    cases h
    rfl
  | cons x rest ih =>
    obtain ⟨b, s', hx, hrest⟩ := Action.exists_of_bind_done h
    obtain ⟨cs, _, hrest, hend⟩ := Action.exists_of_bind_done hrest
    cases hend
    rw [List.cons_append, eachParts, hx, List.map_cons, List.map_cons, List.cons_append]
    exact congrArg (List.cons _) (ih hrest)

/-- Nothing after an entry that fails is evaluated. -/
theorem eachParts_of_failed {α β : Type} {f : α → Eval β} {x : α} (h : f x s = .failed e t)
    (part : α → Task) (after : List α) :
  eachParts f part (x :: after) s = [(part x, s)]
  := by
  rw [eachParts, h]
  rfl

end Task

variable {S : Setting} {n : Nat} {span : Span}

/-- A literal evaluates its entries and puts them together. -/
theorem evalExpr_map (S : Setting) (n : Nat) (span : Span) (pairs : List (String × Expr)) :
  evalExpr S (n + 1) (.map span pairs) = located span (do
    let vs ← Action.each (entry (evalExpr S n)) pairs
    pure (.map (Entries.ofPairs vs)))
  := by
  rw [evalExpr]
  rfl

/-- A literal that has a value has evaluated its entries in turn. -/
theorem exists_of_map_done {v : Value} (h : evalExpr S (n + 1) (.map span pairs) s = .done v t) :
  ∃ vs, InTurn (evalExpr S n) pairs s vs t ∧ v = .map (Entries.ofPairs vs)
  := by
  rw [evalExpr_map] at h
  obtain ⟨vs, u, hentries, hmap⟩ := Action.exists_of_bind_done (of_located_done h)
  cases hmap
  exact ⟨vs, entries_done_iff.mp hentries, rfl⟩

/-- A literal fails exactly if its entries do, and gives its place to an error without one. -/
theorem map_failed_iff :
  evalExpr S (n + 1) (.map span pairs) s = .failed e t
    ↔ ∃ e', Action.each (entry (evalExpr S n)) pairs s = .failed e' t ∧ e = e'.orSpan span
  := by
  rw [evalExpr_map]
  constructor
  · intro h
    obtain ⟨e', hliteral, rfl⟩ := failed_of_located h
    obtain hentries | ⟨vs, u, -, hmap⟩ := Action.failed_of_bind hliteral
    · exact ⟨e', hentries, rfl⟩
    · cases hmap
  · rintro ⟨e', hentries, rfl⟩
    exact located_failed (Action.bind_of_failed hentries)

/-- The parts of a literal are its entries, as far as they are reached. -/
theorem parts_map (S : Setting) (n : Nat) (span : Span) (pairs : List (String × Expr)) (s : State) :
  Task.parts S (.expr (n + 1) (.map span pairs)) s
    = Task.eachParts (entry (evalExpr S n)) (fun p => .expr n p.2) pairs s
  := rfl

/-- A literal that has a value has evaluated each of its entries once, from left to right. -/
theorem parts_of_map_done (h : InTurn (evalExpr S n) pairs s vs t) :
  (Task.parts S (.expr (n + 1) (.map span pairs)) s).map Prod.fst
    = pairs.map fun p => .expr n p.2
  := by
  rw [parts_map, ← List.append_nil pairs, Task.eachParts_append (entries_done_iff.mpr h)]
  simp [Task.eachParts]

/-- A literal that fails has evaluated no entry after the one that failed. -/
theorem parts_of_map_failed {before after : List (String × Expr)} {key : String} {x : Expr}
    (h : FailsAfter (evalExpr S n) before x s e t) :
  (Task.parts S (.expr (n + 1) (.map span (before ++ (key, x) :: after))) s).map Prod.fst
    = (before ++ [(key, x)]).map fun p => .expr n p.2
  := by
  obtain ⟨vs, u, hbefore, hx⟩ := h
  have hfails : entry (evalExpr S n) (key, x) u = .failed e t := Action.bind_of_failed hx
  rw [parts_map, Task.eachParts_append (entries_done_iff.mpr hbefore),
    Task.eachParts_of_failed hfails, List.map_append]
  rfl

/-! ### Looking into maps -/

/-- A member of a map is the value under its name, and null without one. -/
theorem evalExpr_member {target : Expr} {es : Entries Value}
    (h : evalExpr S n target s = .done (.map es) t) (place : Span) (key : String) :
  evalExpr S (n + 1) (.member place target key) s = .done ((Entries.get? key es).getD .null) t
  := by
  have hmember : (do
      let v ← evalExpr S n target
      ofExcept (v.member key)) s = .done ((Entries.get? key es).getD .null) t :=
    Action.bind_of_done h
  rw [evalExpr, located_apply, hmember]
  rfl

/-- A member that is there is the value of its entry. -/
theorem evalExpr_member_of_mem {target : Expr} {es : Entries Value} {key : String} {v : Value}
    (hkeys : es.keys.Nodup) (hv : (key, v) ∈ es)
    (h : evalExpr S n target s = .done (.map es) t) (place : Span) :
  evalExpr S (n + 1) (.member place target key) s = .done v t
  := by
  rw [evalExpr_member h, (Entries.get?_eq_some_iff hkeys).mpr hv]
  rfl

/-- A member that is not there is null. -/
theorem evalExpr_member_of_not_contains {target : Expr} {es : Entries Value} {key : String}
    (hkey : es.contains key = false) (h : evalExpr S n target s = .done (.map es) t)
    (place : Span) :
  evalExpr S (n + 1) (.member place target key) s = .done .null t
  := by
  rw [Entries.contains_eq_isSome, Option.isSome_eq_false_iff, Option.isNone_iff_eq_none] at hkey
  rw [evalExpr_member h, hkey]
  rfl

namespace Standard

/-- Strings as a list of a script. -/
def strings (ss : List String) : Value := .list (ss.map .str).toArray

/-- The built-in `keys` lists the keys in order. -/
theorem dispatch_keys (es : Entries Value) (scene : Scene) :
  builtins.dispatch "keys" [.map es] scene = .done (strings es.keys) scene
  := Builtins.dispatch_ofFunction (f := keys) rfl [.map es] scene

/-- The built-in `len` counts the entries of a map. -/
theorem dispatch_len_map (es : Entries Value) (scene : Scene) :
  builtins.dispatch "len" [.map es] scene = .done (count es.length) scene
  := Builtins.dispatch_ofFunction (f := len) rfl [.map es] scene

/-- The built-in `len` counts the items of a list. -/
theorem dispatch_len_strings (ss : List String) (scene : Scene) :
  builtins.dispatch "len" [strings ss] scene = .done (count ss.length) scene
  := by
  have hlen : len [strings ss] = .ok (count (ss.map Value.str).toArray.size) := rfl
  rw [Builtins.dispatch_ofFunction (f := len) rfl, hlen, List.size_toArray, List.length_map]

/-- The built-in `contains` looks for a key in a map. -/
theorem dispatch_contains_map (es : Entries Value) (key : String) (scene : Scene) :
  builtins.dispatch "contains" [.map es, .str key] scene
    = .done (.bool (Entries.contains key es)) scene
  := Builtins.dispatch_ofFunction (f := contains) rfl [.map es, .str key] scene

/-- Strings are loosely equal only if they are the same. -/
theorem any_looseEq_str (ss : List String) (s : String) :
  (ss.map Value.str).toArray.any (fun v => v.looseEq (.str s)) = decide (s ∈ ss)
  := by
  rw [List.any_toArray, List.any_map, Bool.eq_iff_iff, List.any_eq_true, decide_eq_true_iff]
  simp [Value.looseEq]

/-- The built-in `contains` looks for a text in a list. -/
theorem dispatch_contains_strings (ss : List String) (s : String) (scene : Scene) :
  builtins.dispatch "contains" [strings ss, .str s] scene = .done (.bool (decide (s ∈ ss))) scene
  := by
  have hcontains : contains [strings ss, .str s]
      = .ok (.bool ((ss.map Value.str).toArray.any fun v => v.looseEq (.str s))) := rfl
  rw [Builtins.dispatch_ofFunction (f := contains) rfl, hcontains, any_looseEq_str]

/-- The keys that `keys` lists are pairwise different also as scripts compare them. -/
theorem pairwise_keys {es : Entries Value} (h : es.keys.Nodup) :
  (es.keys.map Value.str).Pairwise fun v w => v.looseEq w = false
  := by
  apply List.pairwise_map.mpr
  apply h.imp
  intro k l hne
  simp [Value.looseEq, hne]

/-- A map literal that has a value has evaluated each of its entries once, from left to right.  The
keys of the map are the distinct ones in the order in which they first occur, and under each of them
is the value of its last entry.  If an entry fails, the literal fails with its error, which gets the
place of the literal only if it has none, and the entries after it are not evaluated; the literal
fails in no other way.  If the keys of a map are distinct, `keys` lists them without repetition,
`len` counts as many keys as entries, `contains` finds the same keys in the map as in the list, and
the member under a key is the value under it, or null if `contains` does not find the key. -/
theorem map_literals_keep_first_place_and_last_value (S : Setting) (n : Nat) (span : Span)
    (pairs : List (String × Expr)) (s : State) :
  (∀ v t, evalExpr S (n + 1) (.map span pairs) s = .done v t →
      ∃ vs es, v = .map es ∧ InTurn (evalExpr S n) pairs s vs t
        ∧ (Task.parts S (.expr (n + 1) (.map span pairs)) s).map Prod.fst
          = pairs.map (fun p => .expr n p.2)
        ∧ Entries.keys es = (Entries.keys pairs).eraseDups ∧ (Entries.keys es).Nodup
        ∧ ∀ before key w after, vs = before ++ (key, w) :: after → key ∉ Entries.keys after →
          (key, w) ∈ es)
    ∧ (∀ before key x after e t, pairs = before ++ (key, x) :: after →
      FailsAfter (evalExpr S n) before x s e t →
        evalExpr S (n + 1) (.map span pairs) s = .failed (e.orSpan span) t
        ∧ (Task.parts S (.expr (n + 1) (.map span pairs)) s).map Prod.fst
          = (before ++ [(key, x)]).map fun p => .expr n p.2)
    ∧ (∀ e t, evalExpr S (n + 1) (.map span pairs) s = .failed e t →
      ∃ before key x after e', pairs = before ++ (key, x) :: after
        ∧ FailsAfter (evalExpr S n) before x s e' t ∧ e = e'.orSpan span)
    ∧ ∀ (es : Entries Value) (scene : Scene), es.keys.Nodup →
      builtins.dispatch "keys" [.map es] scene = .done (strings es.keys) scene
      ∧ ((es.keys.map Value.str).Pairwise fun v w => v.looseEq w = false)
      ∧ builtins.dispatch "len" [.map es] scene = .done (count es.length) scene
      ∧ builtins.dispatch "len" [strings es.keys] scene = .done (count es.length) scene
      ∧ ∀ key, ∃ known,
        builtins.dispatch "contains" [.map es, .str key] scene = .done (.bool known) scene
        ∧ builtins.dispatch "contains" [strings es.keys, .str key] scene
          = .done (.bool known) scene
        ∧ (known = true ↔ key ∈ es.keys)
        ∧ ∀ target place s t, evalExpr S n target s = .done (.map es) t →
          (∀ v, (key, v) ∈ es →
            evalExpr S (n + 1) (.member place target key) s = .done v t)
          ∧ (known = false → evalExpr S (n + 1) (.member place target key) s = .done .null t)
  := by
  refine ⟨?done, ?fails, ?failed, ?readers⟩
  case done =>
    intro v t h
    obtain ⟨vs, hturn, rfl⟩ := exists_of_map_done h
    refine ⟨vs, Entries.ofPairs vs, rfl, hturn, parts_of_map_done hturn, ?_,
      Entries.nodup_keys_ofPairs vs, ?_⟩
    · rw [Entries.keys_ofPairs, hturn.keys_eq]
    · rintro before key w after rfl hlast
      exact Entries.mem_of_get? (Entries.get?_ofPairs_last before key w hlast)
  case fails =>
    rintro before key x after e t rfl h
    have hentries := entries_failed_iff.mpr ⟨before, key, x, after, rfl, h⟩
    exact ⟨map_failed_iff.mpr ⟨e, hentries, rfl⟩, parts_of_map_failed h⟩
  case failed =>
    intro e t h
    obtain ⟨e', hentries, rfl⟩ := map_failed_iff.mp h
    obtain ⟨before, key, x, after, hsplit, hfails⟩ := entries_failed_iff.mp hentries
    exact ⟨before, key, x, after, e', hsplit, hfails, rfl⟩
  case readers =>
    intro es scene hkeys
    refine ⟨dispatch_keys es scene, pairwise_keys hkeys, dispatch_len_map es scene, ?_, ?_⟩
    · rw [dispatch_len_strings, Entries.keys, List.length_map]
    · intro key
      have hknown : decide (key ∈ es.keys) = Entries.contains key es := by
        rw [Bool.eq_iff_iff, decide_eq_true_iff, Entries.mem_keys_iff]
      refine ⟨Entries.contains key es, dispatch_contains_map es key scene, ?_,
        (Entries.mem_keys_iff key es).symm, ?_⟩
      · rw [dispatch_contains_strings, hknown]
      · intro target place s t htarget
        exact ⟨fun v hv => evalExpr_member_of_mem hkeys hv htarget place,
          fun hunknown => evalExpr_member_of_not_contains hunknown htarget place⟩

/-- The literal `{a: 1, b: 2, a: 3}`. -/
def repeating : List (String × Expr) :=
  [("a", .literal .dummy (.int 1)), ("b", .literal .dummy (.int 2)),
    ("a", .literal .dummy (.int 3))]

/-- The literal `{a: 1, b: null.c, a: 3}`. -/
def broken : List (String × Expr) :=
  [("a", .literal .dummy (.int 1)), ("b", .member ⟨4, 5⟩ (.literal .dummy .null) "c"),
    ("a", .literal .dummy (.int 3))]

/-- The first literal has two entries, of which the first one has the value that comes last; the
second literal fails with the error of its second entry, and the third one is not evaluated. -/
theorem repeated_and_broken_literals :
  (∃ es, evalExpr (setting .standard) 3 (.map .dummy repeating) (start .standard)
        = .done (.map es) (start .standard)
      ∧ Entries.keys es = ["a", "b"] ∧ ("a", .int 3) ∈ es
      ∧ evalExpr (setting .standard) 4 (.member .dummy (.map .dummy repeating) "a")
        (start .standard) = .done (.int 3) (start .standard))
    ∧ evalExpr (setting .standard) 3 (.map .dummy broken) (start .standard)
      = .failed ((Error.ofCause (.nullAccess "access member `c`")).orSpan ⟨4, 5⟩) (start .standard)
    ∧ (Task.parts (setting .standard) (.expr 3 (.map .dummy broken)) (start .standard)).map Prod.fst
      = (broken.take 2).map fun p => .expr 2 p.2
  := by
  have hvalue : evalExpr (setting .standard) 3 (.map .dummy repeating) (start .standard)
      = .done (.map [("a", .int 3), ("b", .int 2)]) (start .standard) := rfl
  have hfails : FailsAfter (evalExpr (setting .standard) 2) (broken.take 1)
      (.member ⟨4, 5⟩ (.literal .dummy .null) "c") (start .standard)
      ((Error.ofCause (.nullAccess "access member `c`")).orSpan ⟨4, 5⟩) (start .standard) :=
    ⟨_, _, .cons rfl .nil, rfl⟩
  obtain ⟨hdone, -, -, -⟩ :=
    map_literals_keep_first_place_and_last_value (setting .standard) 2 .dummy repeating
      (start .standard)
  obtain ⟨-, hfail, -, -⟩ :=
    map_literals_keep_first_place_and_last_value (setting .standard) 2 .dummy broken
      (start .standard)
  obtain ⟨-, -, -, hread⟩ :=
    map_literals_keep_first_place_and_last_value (setting .standard) 3 .dummy [] (start .standard)
  refine ⟨?_, hfail (broken.take 1) "b" _ _ _ _ rfl hfails⟩
  obtain ⟨vs, es, hes, hturn, -, hkeys, hnodup, hlast⟩ := hdone _ _ hvalue
  cases hes
  have hentries : Action.each (entry (evalExpr (setting .standard) 2)) repeating (start .standard)
      = .done [("a", .int 1), ("b", .int 2), ("a", .int 3)] (start .standard) := rfl
  cases hentries.symm.trans (entries_done_iff.mpr hturn)
  have hmem := hlast [("a", .int 1), ("b", .int 2)] "a" (.int 3) [] rfl List.not_mem_nil
  obtain ⟨-, -, -, -, hreaders⟩ := hread _ (start .standard).scene hnodup
  obtain ⟨known, -, -, -, hmember⟩ := hreaders "a"
  exact ⟨_, hvalue, hkeys, hmem, (hmember _ .dummy _ _ hvalue).1 _ hmem⟩

end Standard

end StoryScript
