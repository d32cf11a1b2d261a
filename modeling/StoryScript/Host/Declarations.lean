import Std.Data.TreeMap
import StoryScript.Context

/-!
# Declarations handed off

What scripts handed off to their host is kept by script, and for each script by kind.  Next to it
there is the list of all declarations in the order in which they were made.  It says what is kept:
of each script what it declared, sorted by kind.
-/

namespace StoryScript

/-- A declaration together with the span of its statement. -/
structure HandedOff where
  /-- The span. -/
  span : Span
  /-- The declaration. -/
  what : Declaration Stmt

/-- An event handler that a script declared. -/
structure Handler where
  /-- The event. -/
  event : String
  /-- The names of the parameters. -/
  params : List String
  /-- The statements. -/
  body : List Stmt
  /-- The span of the declaration. -/
  span : Span

namespace HandedOff

/-- The name, the body and the span of a dialogue. -/
def dialogue? (d : HandedOff) : Option (String × List Stmt × Span) :=
  match d.what with
  | .dialogue name body => some (name, body, d.span)
  | _ => none

/-- The name, the body and the span of a quest. -/
def quest? (d : HandedOff) : Option (String × List Stmt × Span) :=
  match d.what with
  | .quest name body => some (name, body, d.span)
  | _ => none

/-- The kind, the name, the body and the span of a node. -/
def node? (d : HandedOff) : Option (String × String × List Stmt × Span) :=
  match d.what with
  | .node kind name body => some (kind, name, body, d.span)
  | _ => none

/-- The handler that a declaration is. -/
def handler? (d : HandedOff) : Option Handler :=
  match d.what with
  | .handler event params body => some ⟨event, params, body, d.span⟩
  | _ => none

/-- The text of host code. -/
def code? (d : HandedOff) : Option String :=
  match d.what with
  | .hostCode code => some code
  | _ => none

end HandedOff

/-! ### One script -/

/-- Everything that one script declared, by kind; in each kind the latest one is the first. -/
structure ScriptDeclarations where
  /-- The names, bodies and spans of the dialogues. -/
  dialogues : List (String × List Stmt × Span)
  /-- The names, bodies and spans of the quests. -/
  quests : List (String × List Stmt × Span)
  /-- The kinds, names, bodies and spans of the nodes. -/
  nodes : List (String × String × List Stmt × Span)
  /-- The event handlers. -/
  handlers : List Handler
  /-- The host code. -/
  hostCode : List String

namespace ScriptDeclarations

/-- Nothing declared. -/
def empty : ScriptDeclarations := ⟨[], [], [], [], []⟩

/-- The declarations with one more, which is now the latest of its kind. -/
def add (ds : ScriptDeclarations) (d : HandedOff) : ScriptDeclarations :=
  match d.what with
  | .dialogue name body => { ds with dialogues := (name, body, d.span) :: ds.dialogues }
  | .quest name body => { ds with quests := (name, body, d.span) :: ds.quests }
  | .node kind name body => { ds with nodes := (kind, name, body, d.span) :: ds.nodes }
  | .handler event params body =>
    { ds with handlers := ⟨event, params, body, d.span⟩ :: ds.handlers }
  | .hostCode code => { ds with hostCode := code :: ds.hostCode }

/-- Declarations sorted by kind. -/
def sort (ds : List HandedOff) : ScriptDeclarations where
  dialogues := (ds.filterMap HandedOff.dialogue?).reverse
  quests := (ds.filterMap HandedOff.quest?).reverse
  nodes := (ds.filterMap HandedOff.node?).reverse
  handlers := (ds.filterMap HandedOff.handler?).reverse
  hostCode := (ds.filterMap HandedOff.code?).reverse

/-- Sorting declarations is adding them one after the other. -/
theorem sort_concat (ds : List HandedOff) (d : HandedOff) :
  sort (ds ++ [d]) = (sort ds).add d
  := by
  obtain ⟨span, what⟩ := d
  cases what <;> simp [sort, add, HandedOff.dialogue?, HandedOff.quest?, HandedOff.node?,
    HandedOff.handler?, HandedOff.code?]

/-- Declarations sorted by kind, if there are any. -/
def sort? (ds : List HandedOff) : Option ScriptDeclarations :=
  if ds.isEmpty then none else some (sort ds)

/-- Where there are no declarations, none are sorted. -/
theorem getD_sort? (ds : List HandedOff) :
  (sort? ds).getD empty = sort ds
  := by
  cases ds with
  | nil => rfl
  | cons d rest => rfl

/-- With one more declaration there are some, and it is the latest of its kind. -/
theorem sort?_concat (ds : List HandedOff) (d : HandedOff) :
  sort? (ds ++ [d]) = some ((sort ds).add d)
  := by
  rw [sort?, List.isEmpty_eq_false_iff.mpr (List.concat_ne_nil d ds), ← sort_concat]
  rfl

end ScriptDeclarations

/-! ### The log -/

/-- What a script declared, in order, in a list of declarations of which the latest one is the
first. -/
def declaredBy (script : ScriptId) (entries : List (ScriptId × HandedOff)) : List HandedOff :=
  ((entries.filter fun e => e.1 = script).map Prod.snd).reverse

/-- A new declaration comes last in what its script declared. -/
theorem declaredBy_cons_self (script : ScriptId) (d : HandedOff)
    (entries : List (ScriptId × HandedOff)) :
  declaredBy script ((script, d) :: entries) = declaredBy script entries ++ [d]
  := by
  simp [declaredBy]

/-- A new declaration is nothing that other scripts declared. -/
theorem declaredBy_cons_of_ne {script other : ScriptId} (h : other ≠ script) (d : HandedOff)
    (entries : List (ScriptId × HandedOff)) :
  declaredBy other ((script, d) :: entries) = declaredBy other entries
  := by
  simp [declaredBy, Ne.symm h]

/-- Without the declarations of a script it declared nothing. -/
theorem declaredBy_filter_self (script : ScriptId) (entries : List (ScriptId × HandedOff)) :
  declaredBy script (entries.filter fun e => e.1 ≠ script) = []
  := by
  simp [declaredBy]

/-- Without the declarations of a script the others declared what they did. -/
theorem declaredBy_filter_of_ne {script other : ScriptId} (h : other ≠ script)
    (entries : List (ScriptId × HandedOff)) :
  declaredBy other (entries.filter fun e => e.1 ≠ script) = declaredBy other entries
  := by
  simp only [declaredBy, List.filter_filter]
  congr 2
  apply List.filter_congr
  intro e _
  by_cases he : e.1 = other
  · simp [he, h]
  · simp [he]

/-! ### All scripts -/

/-- The declarations of all scripts. -/
structure DeclarationLog where
  /-- What each script declared; a script that declared nothing is not there. -/
  scripts : Std.TreeMap ScriptId ScriptDeclarations
  /-- The declarations, each with the script that made it, the latest one first. -/
  entries : List (ScriptId × HandedOff)
  /-- What is kept of a script is what it declared, sorted by kind. -/
  sorted : ∀ script : ScriptId,
    scripts[script]? = ScriptDeclarations.sort? (declaredBy script entries)

namespace DeclarationLog

/-- The log with nothing in it. -/
def empty : DeclarationLog where
  scripts := ∅
  entries := []
  sorted _ := Std.TreeMap.getElem?_emptyc

/-- The log after one more declaration. -/
def record (log : DeclarationLog) (script : ScriptId) (d : HandedOff) : DeclarationLog where
  scripts := log.scripts.insert script ((log.scripts[script]?.getD .empty).add d)
  entries := (script, d) :: log.entries
  sorted := by
    intro other
    simp only [Std.TreeMap.getElem?_insert, Std.LawfulEqCmp.compare_eq_iff_eq]
    split
    · next h =>
      rw [← h, declaredBy_cons_self, ScriptDeclarations.sort?_concat, log.sorted,
        ScriptDeclarations.getD_sort?]
    · next h => rw [declaredBy_cons_of_ne (Ne.symm h), log.sorted]

/-- The log without what a script declared. -/
def clear (log : DeclarationLog) (script : ScriptId) : DeclarationLog where
  scripts := log.scripts.erase script
  entries := log.entries.filter fun e => e.1 ≠ script
  sorted := by
    intro other
    simp only [Std.TreeMap.getElem?_erase, Std.LawfulEqCmp.compare_eq_iff_eq]
    split
    · next h =>
      rw [← h, declaredBy_filter_self]
      rfl
    · next h => rw [declaredBy_filter_of_ne (Ne.symm h), log.sorted]

/-- A part of what is kept of a script, in order; nothing if the script is not there. -/
def query {α : Type} (log : DeclarationLog) (script : ScriptId)
    (part : ScriptDeclarations → List α) : List α :=
  ((log.scripts[script]?.map part).getD []).reverse

/-- The dialogues of a script, in order: their names, bodies and spans. -/
def dialogues (log : DeclarationLog) (script : ScriptId) : List (String × List Stmt × Span) :=
  log.query script ScriptDeclarations.dialogues

/-- The quests of a script, in order: their names, bodies and spans. -/
def quests (log : DeclarationLog) (script : ScriptId) : List (String × List Stmt × Span) :=
  log.query script ScriptDeclarations.quests

/-- The nodes of a script, in order: their kinds, names, bodies and spans. -/
def nodes (log : DeclarationLog) (script : ScriptId) :
    List (String × String × List Stmt × Span) :=
  log.query script ScriptDeclarations.nodes

/-- All handlers of a script, in order. -/
def handlers (log : DeclarationLog) (script : ScriptId) : List Handler :=
  log.query script ScriptDeclarations.handlers

/-- The handlers of a script for one event, in order. -/
def handlersFor (log : DeclarationLog) (script : ScriptId) (event : String) : List Handler :=
  log.query script fun ds => ds.handlers.filter fun h => h.event = event

/-- The host code of a script, in order. -/
def hostCode (log : DeclarationLog) (script : ScriptId) : List String :=
  log.query script ScriptDeclarations.hostCode

/-- Whether there is anything to clear of a script. -/
def hasAny (log : DeclarationLog) (script : ScriptId) : Bool := log.scripts.contains script

/-! ### The part of one script -/

/-- What a script declared, in order. -/
def ofScript (log : DeclarationLog) (script : ScriptId) : List HandedOff :=
  declaredBy script log.entries

/-- What is recorded for a script comes last in what it declared. -/
theorem ofScript_record_self (log : DeclarationLog) (script : ScriptId) (d : HandedOff) :
  (log.record script d).ofScript script = log.ofScript script ++ [d]
  := by
  apply declaredBy_cons_self

/-- What is recorded for a script does not concern the others. -/
theorem ofScript_record_of_ne (log : DeclarationLog) {script other : ScriptId} (d : HandedOff)
    (h : other ≠ script) :
  (log.record script d).ofScript other = log.ofScript other
  := by
  apply declaredBy_cons_of_ne h

/-- A script that is cleared declared nothing. -/
theorem ofScript_clear_self (log : DeclarationLog) (script : ScriptId) :
  (log.clear script).ofScript script = []
  := by
  apply declaredBy_filter_self

/-- Clearing a script does not concern the others. -/
theorem ofScript_clear_of_ne (log : DeclarationLog) {script other : ScriptId}
    (h : other ≠ script) :
  (log.clear script).ofScript other = log.ofScript other
  := by
  apply declaredBy_filter_of_ne h

/-- A part of what is kept of a script is that part of what it declared. -/
theorem query_eq {α : Type} {part : ScriptDeclarations → List α} {f : HandedOff → Option α}
    (hpart : ∀ ds, part (.sort ds) = (ds.filterMap f).reverse) (log : DeclarationLog)
    (script : ScriptId) :
  log.query script part = (log.ofScript script).filterMap f
  := by
  rw [query, log.sorted, ← List.reverse_reverse ((log.ofScript script).filterMap f), ← hpart,
    ← ScriptDeclarations.getD_sort?, ofScript]
  cases ScriptDeclarations.sort? (declaredBy script log.entries) with
  | none => exact congrArg List.reverse (hpart []).symm
  | some ds => rfl

/-- The dialogues kept of a script are those that it declared. -/
theorem dialogues_eq (log : DeclarationLog) (script : ScriptId) :
  log.dialogues script = (log.ofScript script).filterMap HandedOff.dialogue?
  := query_eq (fun _ => rfl) log script

/-- The quests kept of a script are those that it declared. -/
theorem quests_eq (log : DeclarationLog) (script : ScriptId) :
  log.quests script = (log.ofScript script).filterMap HandedOff.quest?
  := query_eq (fun _ => rfl) log script

/-- The nodes kept of a script are those that it declared. -/
theorem nodes_eq (log : DeclarationLog) (script : ScriptId) :
  log.nodes script = (log.ofScript script).filterMap HandedOff.node?
  := query_eq (fun _ => rfl) log script

/-- The handlers kept of a script are those that it declared. -/
theorem handlers_eq (log : DeclarationLog) (script : ScriptId) :
  log.handlers script = (log.ofScript script).filterMap HandedOff.handler?
  := query_eq (fun _ => rfl) log script

/-- The handlers for an event are the handlers with that event, in the same order. -/
theorem handlersFor_eq (log : DeclarationLog) (script : ScriptId) (event : String) :
  log.handlersFor script event = (log.handlers script).filter fun h => h.event = event
  := by
  rw [handlersFor, handlers, query, query, List.filter_reverse]
  cases log.scripts[script]? <;> rfl

/-- The host code kept of a script is what it declared. -/
theorem hostCode_eq (log : DeclarationLog) (script : ScriptId) :
  log.hostCode script = (log.ofScript script).filterMap HandedOff.code?
  := query_eq (fun _ => rfl) log script

/-- There is something to clear of a script exactly when it declared anything. -/
theorem hasAny_eq (log : DeclarationLog) (script : ScriptId) :
  log.hasAny script = !(log.ofScript script).isEmpty
  := by
  rw [hasAny, ← Std.TreeMap.isSome_getElem?_eq_contains, log.sorted, ScriptDeclarations.sort?,
    ofScript]
  cases (declaredBy script log.entries).isEmpty <;> rfl

end DeclarationLog

/-! ### Sinks -/

/-- What is left of a log without places and statements: which script declared what, the latest
declaration first. -/
def DeclarationLog.headings (log : DeclarationLog) : List (ScriptId × Declaration Unit) :=
  log.entries.map fun e => (e.1, e.2.what.heading)

/-- What a host does with declarations.  It may go by the script, by the declaration and by what
it was handed before.  Only host code can be refused.  Neither places nor the statements inside of
a declaration make a difference. -/
structure Sink where
  /-- Whether a declaration of a script is recorded. -/
  records : DeclarationLog → ScriptId → Declaration Stmt → Bool
  /-- How the host code of a script ends. -/
  runs : DeclarationLog → ScriptId → String → Except BuiltinError Unit
  records_eq : ∀ {log log' : DeclarationLog} {what what' : Declaration Stmt} (script : ScriptId),
    log.headings = log'.headings → what.heading = what'.heading →
      records log script what = records log' script what'
  runs_eq : ∀ {log log' : DeclarationLog} (script : ScriptId) (code : String),
    log.headings = log'.headings → runs log script code = runs log' script code

namespace Sink

/-- Declarations are recorded, host code too. -/
def log : Sink where
  records _ _ _ := true
  runs _ _ _ := .ok ()
  records_eq _ _ _ := rfl
  runs_eq _ _ _ := rfl

/-- Declarations are dropped, host code too. -/
def discard : Sink where
  records _ _ _ := false
  runs _ _ _ := .ok ()
  records_eq _ _ _ := rfl
  runs_eq _ _ _ := rfl

/-- Declarations are dropped, and host code is run. -/
def hostCode (run : String → Except BuiltinError Unit) : Sink where
  records _ _ _ := false
  runs _ _ code := run code
  records_eq _ _ _ := rfl
  runs_eq _ _ _ := rfl

/-- How a declaration of a script ends. -/
def answer (sink : Sink) (log : DeclarationLog) (script : ScriptId) :
    Declaration Stmt → Except BuiltinError Unit
  | .hostCode code => sink.runs log script code
  | _ => .ok ()

/-- The log and the outcome after a declaration is handed off. -/
def receive (sink : Sink) (script : ScriptId) (d : HandedOff) (log : DeclarationLog) :
    DeclarationLog × Except BuiltinError Unit :=
  (if sink.records log script d.what then log.record script d else log,
    sink.answer log script d.what)

/-- Where everything is recorded, nothing is refused. -/
theorem receive_log (script : ScriptId) (d : HandedOff) (log : DeclarationLog) :
  Sink.log.receive script d log = (log.record script d, .ok ())
  := by
  obtain ⟨span, what⟩ := d
  cases what <;> rfl

end Sink

end StoryScript
