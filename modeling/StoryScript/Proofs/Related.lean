import Mathlib.Data.List.Forall2
import StoryScript.Value.Operators

/-!
# Related values

Two values are related when they differ at most in their closures, and these are related.
A relation of closures under which scripts cannot tell related closures apart, neither by
their names nor by comparing them, is a matching.  Along a matching related values have the
same kind, truth and text, and the operators of the language keep them related: they fail for
the same cause, or have related results.
-/

namespace StoryScript

/-- A value that may be missing is related to itself if the value is. -/
theorem Option.rel_same {α : Type} {r : α → α → Prop} {o : Option α} (h : ∀ a, o = some a → r a a) :
  Option.Rel r o o
  := by
  cases o with
  | none => exact .none
  | some a => exact .some (h a rfl)

/-! ### Related entries -/

namespace Entries

variable {α β : Type} {P : α → β → Prop}

/-- Entries with the same keys in the same order, and related values under them. -/
def Pointwise (P : α → β → Prop) (as : Entries α) (bs : Entries β) : Prop :=
  List.Forall₂ (fun a b => a.1 = b.1 ∧ P a.2 b.2) as bs

namespace Pointwise

/-- The same keys are found in entries that correspond, with values that do. -/
theorem get? {as : Entries α} {bs : Entries β} (h : Pointwise P as bs) (key : String) :
  Option.Rel P (Entries.get? key as) (Entries.get? key bs)
  := by
  induction h with
  | nil => exact .none
  | cons hab _ ih =>
    obtain ⟨hkey, hvalue⟩ := hab
    rw [Entries.get?, Entries.get?, hkey]
    split
    · exact .some hvalue
    · exact ih

/-- Entries still correspond after values that do are put under the same key. -/
theorem insert {as : Entries α} {bs : Entries β} (h : Pointwise P as bs) (key : String)
    {a : α} {b : β} (hab : P a b) :
  Pointwise P (Entries.insert key a as) (Entries.insert key b bs)
  := by
  induction h with
  | nil => exact .cons ⟨rfl, hab⟩ .nil
  | cons hfirst hrest ih =>
    obtain ⟨hkey, hvalue⟩ := hfirst
    rw [Entries.insert, Entries.insert, hkey]
    split
    · exact .cons ⟨rfl, hab⟩ hrest
    · exact .cons ⟨rfl, hvalue⟩ ih

/-- Entries still correspond after pairs that do are put in. -/
theorem insertAll {as : Entries α} {bs : Entries β} (h : Pointwise P as bs)
    {ps : List (String × α)} {qs : List (String × β)} (hpairs : Pointwise P ps qs) :
  Pointwise P (Entries.insertAll as ps) (Entries.insertAll bs qs)
  := by
  induction hpairs generalizing as bs with
  | nil => exact h
  | @cons p q _ _ hpair _ ih =>
    obtain ⟨hkey, hvalue⟩ := hpair
    apply ih
    show Pointwise P (Entries.insert p.1 p.2 as) (Entries.insert q.1 q.2 bs)
    rw [hkey]
    exact h.insert q.1 hvalue

/-- Pairs that correspond become entries that do. -/
theorem ofPairs {ps : List (String × α)} {qs : List (String × β)} (h : Pointwise P ps qs) :
  Pointwise P (Entries.ofPairs ps) (Entries.ofPairs qs)
  := by
  apply insertAll .nil h

/-- Entries correspond if they have the same keys in the same order and values that do. -/
theorem iff_keys_and_values (as : Entries α) (bs : Entries β) :
  Pointwise P as bs ↔ keys as = keys bs ∧ List.Forall₂ P (as.map Prod.snd) (bs.map Prod.snd)
  := by
  unfold Pointwise keys
  rw [List.forall₂_map_left_iff, List.forall₂_map_right_iff, ← List.forall₂_eq_eq_eq,
    List.forall₂_map_left_iff, List.forall₂_map_right_iff]
  constructor
  · intro h
    exact ⟨h.imp fun _ _ hab => hab.1, h.imp fun _ _ hab => hab.2⟩
  · rintro ⟨hkeys, hvalues⟩
    exact List.Forall₂.mp (fun _ _ hk hv => ⟨hk, hv⟩) hkeys hvalues

end Pointwise

/-- What is found under a key is one of the entries. -/
theorem mem_of_get? {key : String} {a : α} {es : Entries α}
    (h : Entries.get? key es = some a) :
  (key, a) ∈ es
  := by
  induction es with
  | nil => cases h
  | cons e rest ih =>
    rw [Entries.get?] at h
    split at h
    · rename_i hkey
      cases h
      rw [← hkey]
      exact List.mem_cons_self
    · exact List.mem_cons_of_mem _ (ih h)

/-- Under keys that are pairwise different every value is found. -/
theorem get?_eq_some_iff {key : String} {a : α} {es : Entries α} (h : es.keys.Nodup) :
  es.get? key = some a ↔ (key, a) ∈ es
  := by
  constructor
  · exact mem_of_get?
  · intro ha
    induction es with
    | nil => cases ha
    | cons e rest ih =>
      obtain ⟨hnew, hrest⟩ := List.nodup_cons.mp h
      obtain rfl | ha := List.mem_cons.mp ha
      · simp [get?]
      · have hne : e.1 ≠ key := by
          rintro rfl
          exact hnew (List.mem_map.mpr ⟨_, ha, rfl⟩)
        rw [get?, if_neg hne]
        exact ih hrest ha

end Entries

/-! ### Related values -/

namespace Value

/-- Values are built from values without parts, by lists and maps. -/
@[elab_as_elim]
theorem induct {motive : Value → Prop} (null : motive null) (bool : ∀ b, motive (bool b))
    (int : ∀ n, motive (int n)) (float : ∀ x, motive (float x)) (str : ∀ s, motive (str s))
    (list : ∀ items, (∀ v ∈ items, motive v) → motive (list ⟨items⟩))
    (map : ∀ entries, (∀ e ∈ entries, motive e.2) → motive (map entries))
    (builtin : ∀ name, motive (builtin name)) (closure : ∀ f, motive (closure f)) :
    ∀ v, motive v
  | .null => null
  | .bool b => bool b
  | .int n => int n
  | .float x => float x
  | .str s => str s
  | .list ⟨items⟩ => by
    apply list
    intro v hv
    have hsize := List.sizeOf_lt_of_mem hv
    exact induct null bool int float str list map builtin closure v
  | .map entries => by
    apply map
    rintro ⟨key, v⟩ he
    have hsize := List.sizeOf_lt_of_mem he
    exact induct null bool int float str list map builtin closure v
  | .builtin name => builtin name
  | .closure f => closure f
termination_by v => sizeOf v
decreasing_by
  · simp_wf
    omega
  · simp_wf
    simp only [Prod.mk.sizeOf_spec] at hsize
    omega

/-- Whether a value has no parts and refers to no scope. -/
def isAtom : Value → Bool
  | list _ | map _ | closure _ => false
  | _ => true

/-- Values that differ at most in their closures, which are related. -/
inductive Related (r : Closure → Closure → Prop) : Value → Value → Prop where
  | atom {v : Value} (h : v.isAtom = true) : Related r v v
  | list {as bs : List Value} (h : List.Forall₂ (Related r) as bs) :
    Related r (list ⟨as⟩) (list ⟨bs⟩)
  | map {as bs : List (String × Value)} (hkeys : Entries.keys as = Entries.keys bs)
    (hvalues : List.Forall₂ (Related r) (as.map Prod.snd) (bs.map Prod.snd)) :
    Related r (map as) (map bs)
  | closure {f g : Closure} (h : r f g) : Related r (closure f) (closure g)

namespace Related

variable {r r' : Closure → Closure → Prop} {v w v' w' : Value}

/-- Maps are related if their entries correspond. -/
theorem ofEntries {as bs : List (String × Value)} (h : Entries.Pointwise (Related r) as bs) :
  Related r (.map as) (.map bs)
  := by
  obtain ⟨hkeys, hvalues⟩ := (Entries.Pointwise.iff_keys_and_values as bs).mp h
  exact .map hkeys hvalues

/-- Related maps have entries that correspond. -/
theorem entries {as bs : List (String × Value)} (h : Related r (.map as) (.map bs)) :
  Entries.Pointwise (Related r) as bs
  := by
  cases h with
  | atom h => cases h
  | map hkeys hvalues => exact (Entries.Pointwise.iff_keys_and_values as bs).mpr ⟨hkeys, hvalues⟩

/-- Related lists have related items. -/
theorem items {as bs : List Value} (h : Related r (.list ⟨as⟩) (.list ⟨bs⟩)) :
  List.Forall₂ (Related r) as bs
  := by
  cases h with
  | atom h => cases h
  | list h => exact h

/-- Related values are built alike. -/
@[elab_as_elim]
theorem induct {motive : (v w : Value) → Related r v w → Prop}
    (atom : ∀ v hv, motive v v (.atom hv))
    (list : ∀ as bs hitems, List.Forall₂ (fun a b => ∃ h, motive a b h) as bs →
      motive (.list ⟨as⟩) (.list ⟨bs⟩) hitems)
    (map : ∀ as bs hentries, Entries.Pointwise (fun a b => ∃ h, motive a b h) as bs →
      motive (.map as) (.map bs) hentries)
    (closure : ∀ f g hf, motive (.closure f) (.closure g) (.closure hf)) (h : Related r v w) :
  motive v w h
  := by
  refine @Related.rec r motive
    (fun as bs _ => List.Forall₂ (fun a b => ∃ h, motive a b h) as bs)
    ?atom ?list ?map ?closure .nil ?cons v w h
  case atom => exact fun {v} hv => atom v hv
  case list => exact fun {as bs} hitems ih => list as bs (.list hitems) ih
  case map =>
    intro as bs hkeys hvalues ih
    apply map as bs (.map hkeys hvalues)
    exact (Entries.Pointwise.iff_keys_and_values as bs).mpr ⟨hkeys, ih⟩
  case closure => exact fun {f g} hf => closure f g hf
  case cons => exact fun hab _ ihab ih => .cons ⟨hab, ihab⟩ ih

/-- Every value is related to itself if every closure is. -/
theorem refl (h : ∀ f, r f f) (v : Value) :
  Related r v v
  := by
  induction v using Value.induct with
  | list items ih => exact .list (List.forall₂_same.mpr ih)
  | map entries ih =>
    apply ofEntries
    apply List.forall₂_same.mpr
    intro e he
    exact ⟨rfl, ih e he⟩
  | closure f => exact .closure (h f)
  | _ => exact .atom rfl

/-- Values that are related stay so under a weaker relation of closures. -/
theorem mono (h : ∀ f g, r f g → r' f g) (hv : Related r v w) :
  Related r' v w
  := by
  induction hv using Related.induct with
  | atom v hv => exact .atom hv
  | list as bs _ ih => exact .list (ih.imp fun _ _ ⟨_, hab⟩ => hab)
  | map as bs _ ih => exact ofEntries (ih.imp fun _ _ ⟨hkey, _, hab⟩ => ⟨hkey, hab⟩)
  | closure f g hf => exact .closure (h f g hf)

/-- Values whose closures are equal are equal. -/
theorem eq (h : ∀ f g, r f g → f = g) (hv : Related r v w) :
  v = w
  := by
  induction hv using Related.induct with
  | atom v hv => rfl
  | list as bs _ ih =>
    have hitems := ih.imp (S := Eq) fun _ _ ⟨_, hab⟩ => hab
    rw [List.forall₂_eq_eq_eq] at hitems
    rw [hitems]
  | map as bs _ ih =>
    have hentries := ih.imp (S := Eq) fun _ _ ⟨hkey, _, hab⟩ => Prod.ext hkey hab
    rw [List.forall₂_eq_eq_eq] at hentries
    rw [hentries]
  | closure f g hf => rw [h f g hf]

/-- Lists of values whose closures are equal are equal. -/
theorem lists_eq (h : ∀ f g, r f g → f = g) {vs ws : List Value}
    (hvs : List.Forall₂ (Related r) vs ws) :
  vs = ws
  := by
  rw [← List.forall₂_eq_eq_eq]
  exact hvs.imp fun _ _ hv => hv.eq h

/-! ### What scripts see of a value -/

/-- Related values are of the same kind. -/
theorem kind_eq (h : Related r v w) :
  v.kind = w.kind
  := by
  cases h <;> rfl

/-- Related values are true or false alike. -/
theorem truthy_eq (h : Related r v w) :
  v.truthy = w.truthy
  := by
  cases h with
  | atom => rfl
  | list h => cases h <;> rfl
  | @map as bs hkeys _ => cases as <;> cases bs <;> first | rfl | cases hkeys
  | closure => rfl

/-- Related values are the same text or no text. -/
theorem string?_eq (h : Related r v w) :
  v.string? = w.string?
  := by
  cases h <;> rfl

/-- Related values are the same operand of an operator. -/
theorem operand_eq (h : Related r v w) :
  Operand.ofValue? v = Operand.ofValue? w
  := by
  cases h <;> rfl

/-- Related values are the same place in a list or none. -/
theorem place?_eq (h : Related r v w) :
  v.place? = w.place?
  := by
  cases h <;> rfl

end Related

end Value

/-- A relation of closures that scripts cannot tell apart. -/
structure Closure.Matching (r : Closure → Closure → Prop) : Prop where
  /-- Related closures have the same name. -/
  name : ∀ {f g}, r f g → f.name = g.name
  /-- Related closures are the same as related ones. -/
  same : ∀ {f g f' g'}, r f g → r f' g' → f.same f' = g.same g'

namespace Value.Related

variable {r : Closure → Closure → Prop} {v w v' w' : Value}

/-- Items that render alike make lists that do. -/
theorem renderItems_eq {as bs : List Value}
    (h : List.Forall₂ (fun a b => a.render true = b.render true) as bs) :
  renderItems as = renderItems bs
  := by
  induction h with
  | nil => rfl
  | cons hab _ ih => rw [renderItems, renderItems, hab, ih]

/-- Entries that render alike make maps that do. -/
theorem renderEntries_eq {as bs : List (String × Value)}
    (h : Entries.Pointwise (fun a b => a.render true = b.render true) as bs) :
  renderEntries as = renderEntries bs
  := by
  induction h with
  | nil => rfl
  | cons hab _ ih =>
    obtain ⟨hkey, hvalue⟩ := hab
    rw [renderEntries, renderEntries, hkey, hvalue, ih]

/-- Related values have the same text, quoted or not, if scripts cannot tell the closures apart. -/
theorem render_eq (hr : Closure.Matching r) (quoted : Bool) (h : Related r v w) :
  v.render quoted = w.render quoted
  := by
  induction h using Related.induct generalizing quoted with
  | atom v hv => rfl
  | list as bs _ ih =>
    have hitems := renderItems_eq (ih.imp fun _ _ ⟨_, hab⟩ => hab true)
    rw [render, render, hitems]
  | map as bs _ ih =>
    have hentries := renderEntries_eq (ih.imp fun _ _ ⟨hkey, _, hab⟩ => ⟨hkey, hab true⟩)
    rw [render, render, hentries]
  | closure f g hf => rw [render, render, hr.name hf]

/-- Related values have the same text when they are converted. -/
theorem text_eq (hr : Closure.Matching r) (h : Related r v w) :
  v.text = w.text
  := by
  apply h.render_eq hr

/-- Lists compare like related lists if each of their items does. -/
theorem looseItems_eq {as bs as' bs' : List Value}
    (h : List.Forall₂ (fun a b => ∀ a' b', Related r a' b' → a.looseEq a' = b.looseEq b') as bs)
    (h' : List.Forall₂ (Related r) as' bs') :
  looseItems as as' = looseItems bs bs'
  := by
  induction h generalizing as' bs' with
  | nil => cases h' <;> rfl
  | cons hab _ ih =>
    cases h' with
    | nil => rfl
    | cons hab' hrest => rw [looseItems, looseItems, hab _ _ hab', ih hrest]

/-- Maps compare like related maps if each of their values does. -/
theorem looseEntries_eq {as bs as' bs' : List (String × Value)}
    (h : Entries.Pointwise (fun a b => ∀ a' b', Related r a' b' → a.looseEq a' = b.looseEq b')
      as bs)
    (h' : Entries.Pointwise (Related r) as' bs') :
  looseEntries as as' = looseEntries bs bs'
  := by
  induction h with
  | nil => rfl
  | @cons a b _ _ hab _ ih =>
    obtain ⟨hkey, hvalue⟩ := hab
    have hget := h'.get? b.1
    rw [looseEntries, looseEntries, hkey, ih]
    generalize Entries.get? b.1 as' = x at hget
    generalize Entries.get? b.1 bs' = y at hget
    cases hget with
    | none => rfl
    | some hxy => simp only [hvalue _ _ hxy]

/-- Related values compare alike with related values, in the sense that scripts use. -/
theorem looseEq_eq (hr : Closure.Matching r) (h : Related r v w) (h' : Related r v' w') :
  v.looseEq v' = w.looseEq w'
  := by
  induction h using Related.induct generalizing v' w' with
  | atom v hv =>
    cases h' with
    | atom hv' => rfl
    | list => cases v <;> first | rfl | cases hv
    | map => cases v <;> first | rfl | cases hv
    | closure => cases v <;> first | rfl | cases hv
  | list as bs _ ih =>
    cases h' with
    | @atom v' hv' => cases v' <;> first | rfl | cases hv'
    | list hitems => exact looseItems_eq (ih.imp fun _ _ ⟨_, hab⟩ _ _ hab' => hab hab') hitems
    | map => rfl
    | closure => rfl
  | map as bs hentries ih =>
    cases h' with
    | @atom v' hv' => cases v' <;> first | rfl | cases hv'
    | list => rfl
    | map hkeys hvalues =>
      have hentries' := entries (.map hkeys hvalues)
      rw [looseEq, looseEq, ih.length_eq, hentries'.length_eq, looseEntries_eq
        (ih.imp fun _ _ ⟨hkey, _, hab⟩ => ⟨hkey, fun _ _ hab' => hab hab'⟩) hentries']
    | closure => rfl
  | closure f g hf =>
    cases h' with
    | @atom v' hv' => cases v' <;> first | rfl | cases hv'
    | list => rfl
    | map => rfl
    | closure hf' => exact hr.same hf hf'

end Value.Related

/-! ### Operators -/

/-- Two computations that fail for the same reason, or have related values. -/
inductive Agree {ε α β : Type} (P : α → β → Prop) : Except ε α → Except ε β → Prop where
  | ok {a : α} {b : β} (h : P a b) : Agree P (.ok a) (.ok b)
  | error (e : ε) : Agree P (.error e) (.error e)

/-- Equal computations agree if their value is related to itself. -/
theorem Agree.of_eq {ε α : Type} {P : α → α → Prop} {x y : Except ε α} (hxy : x = y)
    (h : ∀ a, x = .ok a → P a a) :
  Agree P x y
  := by
  subst hxy
  cases x with
  | ok a => exact .ok (h a rfl)
  | error e => exact .error e

/-- A computation in two parts has a value when both parts have one. -/
theorem Except.exists_of_bind {ε α β : Type} {x : Except ε α} {f : α → Except ε β} {b : β}
    (h : x >>= f = .ok b) :
  ∃ a, x = .ok a ∧ f a = .ok b
  := by
  cases x with
  | error e => cases h
  | ok a => exact ⟨a, rfl, h⟩

namespace BinaryOp

variable {rel : Closure → Closure → Prop} {l l' r r' v : Value}

/-- The operands of an operator are the same for related values, and so is the error about their
kinds. -/
theorem operands_eq (op : BinaryOp) (hl : l.Related rel l') (hr : r.Related rel r') :
  op.operands l r = op.operands l' r'
  := by
  rw [operands, operands, hl.operand_eq, hr.operand_eq, mismatch, mismatch, hl.kind_eq, hr.kind_eq]

/-- A result that is in range is an integer. -/
theorem isAtom_of_inRange {operation : String} {n : Option Whole}
    (h : inRange operation n = .ok v) :
  v.isAtom = true
  := by
  cases n with
  | none => cases h
  | some n => cases h; rfl

/-- The results of arithmetic are numbers. -/
theorem isAtom_of_arithmetic {op : BinaryOp} (h : op.arithmetic l r = .ok v) :
  v.isAtom = true
  := by
  obtain ⟨ops, -, h⟩ := Except.exists_of_bind h
  split at h
  · split at h
    · exact isAtom_of_inRange h
    · exact isAtom_of_inRange h
    · exact isAtom_of_inRange h
    · split at h
      · cases h
      · exact isAtom_of_inRange h
  · split at h
    · cases h; rfl
    · cases h; rfl
    · cases h; rfl
    · split at h
      · cases h
      · cases h; rfl

/-- A quotient is a number. -/
theorem isAtom_of_divide (h : divide l r = .ok v) :
  v.isAtom = true
  := by
  obtain ⟨ops, -, h⟩ := Except.exists_of_bind h
  dsimp only at h
  split at h
  · cases h
  · cases h; rfl

/-- A comparison has a truth value. -/
theorem isAtom_of_compare {op : BinaryOp} (h : op.compare l r = .ok v) :
  v.isAtom = true
  := by
  obtain ⟨ops, -, h⟩ := Except.exists_of_bind h
  split at h <;> cases h <;> rfl

/-- Arithmetic does the same on related values. -/
theorem agree_arithmetic (op : BinaryOp) (hl : l.Related rel l') (hr : r.Related rel r') :
  Agree (Value.Related rel) (op.arithmetic l r) (op.arithmetic l' r')
  := by
  apply Agree.of_eq
  · rw [arithmetic, arithmetic, operands_eq op hl hr]
  · intro v h
    exact .atom (isAtom_of_arithmetic h)

/-- Division does the same on related values. -/
theorem agree_divide (hl : l.Related rel l') (hr : r.Related rel r') :
  Agree (Value.Related rel) (divide l r) (divide l' r')
  := by
  apply Agree.of_eq
  · rw [divide, divide, operands_eq .div hl hr]
  · intro v h
    exact .atom (isAtom_of_divide h)

/-- Comparisons do the same on related values. -/
theorem agree_compare (op : BinaryOp) (hl : l.Related rel l') (hr : r.Related rel r') :
  Agree (Value.Related rel) (op.compare l r) (op.compare l' r')
  := by
  apply Agree.of_eq
  · rw [compare, compare, operands_eq op hl hr]
  · intro v h
    exact .atom (isAtom_of_compare h)

/-- A sum with a text on one side is a text, and the other side is converted; else it is a sum of
numbers. -/
theorem plus_eq (l r : Value) :
  plus l r = match l.string?, r.string? with
    | some s, _ => .ok (.str (s ++ r.text))
    | none, some t => .ok (.str (l.text ++ t))
    | none, none => arithmetic .add l r
  := by
  cases l <;> cases r <;> rfl

/-- Sums of related values agree, although they may contain the texts of closures. -/
theorem agree_plus (hrel : Closure.Matching rel) (hl : l.Related rel l') (hr : r.Related rel r') :
  Agree (Value.Related rel) (plus l r) (plus l' r')
  := by
  rw [plus_eq, plus_eq, hl.string?_eq, hr.string?_eq, hl.text_eq hrel, hr.text_eq hrel]
  split
  · exact .ok (.atom rfl)
  · exact .ok (.atom rfl)
  · exact agree_arithmetic .add hl hr

/-- Operators keep values related. -/
theorem agree_apply (op : BinaryOp) (hrel : Closure.Matching rel) (hl : l.Related rel l')
    (hr : r.Related rel r') :
  Agree (Value.Related rel) (op.apply l r) (op.apply l' r')
  := by
  cases op with
  | add => exact agree_plus hrel hl hr
  | div => exact agree_divide hl hr
  | eq =>
    rw [apply, apply, hl.looseEq_eq hrel hr]
    exact .ok (.atom rfl)
  | notEq =>
    rw [apply, apply, hl.looseEq_eq hrel hr]
    exact .ok (.atom rfl)
  | and =>
    rw [apply, apply, hl.truthy_eq, hr.truthy_eq]
    exact .ok (.atom rfl)
  | or =>
    rw [apply, apply, hl.truthy_eq, hr.truthy_eq]
    exact .ok (.atom rfl)
  | sub => exact agree_arithmetic .sub hl hr
  | mul => exact agree_arithmetic .mul hl hr
  | mod => exact agree_arithmetic .mod hl hr
  | lt => exact agree_compare .lt hl hr
  | ltEq => exact agree_compare .ltEq hl hr
  | gt => exact agree_compare .gt hl hr
  | gtEq => exact agree_compare .gtEq hl hr

end BinaryOp

/-- Operators keep values related. -/
theorem UnaryOp.agree_apply (op : UnaryOp) {rel : Closure → Closure → Prop} {v w : Value}
    (h : v.Related rel w) :
  Agree (Value.Related rel) (op.apply v) (op.apply w)
  := by
  cases op with
  | not =>
    rw [apply, apply, h.truthy_eq]
    exact .ok (.atom rfl)
  | neg =>
    cases h with
    | @atom v hv =>
      apply Agree.of_eq rfl
      intro u hu
      cases v with
      | int n => exact .atom (BinaryOp.isAtom_of_inRange hu)
      | float x => cases hu; exact .atom rfl
      | _ => cases hu
    | list => exact .error _
    | map => exact .error _
    | closure => exact .error _

namespace Value.Related

variable {r : Closure → Closure → Prop} {v w i j : Value}

/-- The same place of lists that correspond holds items that do. -/
theorem getElem?_of_forall₂ {P : Value → Value → Prop} {as bs : List Value}
    (h : List.Forall₂ P as bs) (k : Nat) :
  Option.Rel P as[k]? bs[k]?
  := by
  induction h generalizing k with
  | nil => exact .none
  | cons hab _ ih =>
    cases k with
    | zero => exact .some hab
    | succ k => exact ih k

/-- Related lists have related elements. -/
theorem agree_element (hv : Related r v w) (hi : Related r i j) :
  Agree (Related r) (v.element i) (w.element j)
  := by
  cases hv with
  | @atom v hatom =>
    cases v <;> first | exact .error _ | cases hatom
  | @list as bs hitems =>
    rw [element, element, hi.place?_eq, hi.kind_eq]
    cases j.place? with
    | none => exact .error _
    | some n =>
      have hsize : (⟨as⟩ : Array Value).size = (⟨bs⟩ : Array Value).size := hitems.length_eq
      have helem := getElem?_of_forall₂ hitems n.toInt.toNat
      simp only [hsize, List.getElem?_toArray]
      by_cases hn : 0 ≤ n.toInt
      · rw [if_pos hn, if_pos hn]
        generalize as[n.toInt.toNat]? = a at helem ⊢
        generalize bs[n.toInt.toNat]? = b at helem ⊢
        cases helem with
        | none => exact .error _
        | some h => exact .ok h
      · rw [if_neg hn, if_neg hn]
        exact .error _
  | map => exact .error _
  | closure => exact .error _

/-- Related maps have related entries. -/
theorem agree_member (h : Related r v w) (name : String) :
  Agree (Related r) (v.member name) (w.member name)
  := by
  cases h with
  | @atom v hatom =>
    cases v <;> first | exact .error _ | cases hatom
  | list => exact .error _
  | map hkeys hvalues =>
    have hget := (entries (.map hkeys hvalues)).get? name
    rw [member, member]
    generalize Entries.get? name _ = a at hget ⊢
    generalize Entries.get? name _ = b at hget ⊢
    cases hget with
    | none => exact .ok (.atom rfl)
    | some h => exact .ok h
  | closure => exact .error _

end Value.Related

end StoryScript
