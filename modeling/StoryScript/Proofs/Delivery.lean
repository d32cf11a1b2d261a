import Mathlib.Algebra.Group.Nat.Defs
import Mathlib.Data.List.Perm.Basic
import Mathlib.Data.List.Range
import StoryScript.Host.Timers

/-!
# Deliveries

A history of a queue is what happens when requests are made to it one after the other.  Two
things hold of every history of an empty queue, wherever its clock is told to go.  All calls
that it ever hands over come in one order, by their times and then by their numbers.  And every
timer that was ever scheduled is accounted for: it is waiting, or it was handed over once and as
it was scheduled, or it was cancelled once.
-/

namespace StoryScript

/-- The first call is due earlier, or at the same time and scheduled earlier. -/
def Timer.Earlier (s t : TimerId × Timer) : Prop :=
  s.2.due < t.2.due ∨ (s.2.due = t.2.due ∧ s.1 < t.1)

namespace Timer

theorem before_iff (s t : TimerId × Timer) :
  before s t = true ↔ s.2.due < t.2.due ∨ (s.2.due = t.2.due ∧ s.1 ≤ t.1)
  := by
  simp [before]

theorem before_trans (s t u : TimerId × Timer) (hst : before s t = true)
    (htu : before t u = true) :
  before s u = true
  := by
  rw [before_iff] at hst htu ⊢
  grind

theorem before_total (s t : TimerId × Timer) :
  (before s t || before t s) = true
  := by
  rw [Bool.or_eq_true, before_iff, before_iff]
  grind

theorem earlier_of_before {s t : TimerId × Timer} (h : before s t = true) (hne : s.1 ≠ t.1) :
  Earlier s t
  := by
  rw [before_iff] at h
  unfold Earlier
  grind

end Timer

namespace TimerQueue

/-! ### Histories -/

/-- Whether a call is to be scheduled. -/
def Request.isSchedule : Request → Bool
  | schedule _ _ _ => true
  | _ => false

/-- The numbers of the waiting timers. -/
def ids (q : TimerQueue) : List TimerId := q.pending.keys

/-- A request, and the queue that it is made to. -/
structure Event where
  /-- The queue. -/
  before : TimerQueue
  /-- The request. -/
  request : Request

namespace Event

/-- The reply. -/
def reply (e : Event) : Reply := (e.before.perform e.request).1

/-- The queue after the request. -/
def after (e : Event) : TimerQueue := (e.before.perform e.request).2

/-- The number of the timer that is scheduled, if one is. -/
def issued (e : Event) : List TimerId :=
  match e.reply with
  | .issued id => [id]
  | _ => []

/-- The calls that are handed over. -/
def delivered (e : Event) : List (TimerId × Timer) :=
  match e.reply with
  | .due calls => calls
  | _ => []

/-- The numbers of the timers that are cancelled: they waited before and do not wait after. -/
def removed (e : Event) : List TimerId :=
  match e.request with
  | .cancel _ | .cancelScript _ => e.before.ids.filter fun id => !e.after.isPending id
  | _ => []

/-- A call is scheduled under a number; its time is that of the clock and the delay, or the
greatest count. -/
def Schedules (e : Event) (id : TimerId) (t : Timer) : Prop :=
  ∃ delay script call, e.request = .schedule delay script call ∧ e.reply = .issued id
    ∧ t = ⟨min (2 ^ 64 - 1) (e.before.now + delay), script, call⟩

/-- The reply is right, and the request does what it says and nothing else. -/
def Exact (e : Event) : Prop :=
  match e.request, e.reply with
  | .setTime _, .quiet => ∀ id : TimerId, e.after.pending[id]? = e.before.pending[id]?
  | .schedule _ _ _, .issued id =>
    id ∉ e.before.ids
      ∧ ∀ other : TimerId, other ≠ id → e.after.pending[other]? = e.before.pending[other]?
  | .cancel id, .cancelled waiting =>
    (waiting = true ↔ id ∈ e.before.ids)
      ∧ ∀ other : TimerId,
        e.after.pending[other]? = if other = id then none else e.before.pending[other]?
  | .cancelScript script, .removed count =>
    e.removed.length = count
      ∧ (∀ id, id ∈ e.removed ↔ ∃ t, e.before.pending[id]? = some t ∧ t.script = script)
      ∧ ∀ id : TimerId,
        e.after.pending[id]? = if id ∈ e.removed then none else e.before.pending[id]?
  | .takeDue now, .due calls =>
    (∀ (id : TimerId) (t : Timer), (id, t) ∈ calls
        ↔ e.before.pending[id]? = some t ∧ t.due ≤ max e.before.now now)
      ∧ ∀ (id : TimerId) (t : Timer), e.after.pending[id]? = some t
        ↔ e.before.pending[id]? = some t ∧ max e.before.now now < t.due
  | _, _ => False

end Event

/-- What happens when requests are made one after the other. -/
def history (q : TimerQueue) : List Request → List Event
  | [] => []
  | r :: rest => ⟨q, r⟩ :: history (q.perform r).2 rest

/-- The queue after requests are made one after the other. -/
def afterAll (q : TimerQueue) : List Request → TimerQueue
  | [] => q
  | r :: rest => afterAll (q.perform r).2 rest

/-- An event of a history divides it: what came before led to the queue of the event. -/
theorem exists_of_history_eq {q : TimerQueue} {requests : List Request} {past future : List Event}
    {e : Event} (h : q.history requests = past ++ e :: future) :
  ∃ earlier, past = q.history earlier ∧ e.before = q.afterAll earlier
  := by
  induction past generalizing q requests with
  | nil =>
    cases requests with
    | nil => cases h
    | cons r rest =>
      obtain ⟨rfl, -⟩ := List.cons.inj h
      exact ⟨[], rfl, rfl⟩
  | cons first past ih =>
    cases requests with
    | nil => cases h
    | cons r rest =>
      obtain ⟨rfl, hrest⟩ := List.cons.inj h
      obtain ⟨earlier, rfl, hbefore⟩ := ih hrest
      exact ⟨r :: earlier, rfl, hbefore⟩

/-! ### One request -/

theorem mem_ids_iff (q : TimerQueue) (id : TimerId) :
  id ∈ q.ids ↔ ∃ t, q.pending[id]? = some t
  := by
  rw [ids, Std.TreeMap.mem_keys, Std.TreeMap.mem_iff_isSome_getElem?, Option.isSome_iff_exists]

theorem nodup_ids (q : TimerQueue) :
  q.ids.Nodup
  := by
  exact Std.TreeMap.nodup_keys

theorem now_le_now_perform (q : TimerQueue) (r : Request) :
  q.now ≤ (q.perform r).2.now
  := by
  cases r with
  | setTime now => exact q.now_le_now_setTime now
  | takeDue now => exact q.now_le_now_setTime now
  | _ => exact le_rfl

theorem issued_le_issued_perform (q : TimerQueue) (r : Request) :
  q.issued ≤ (q.perform r).2.issued
  := by
  cases r with
  | schedule delay script call => exact Nat.le_succ q.issued
  | _ => exact le_rfl

/-- Unless a call is to be scheduled, no timer starts to wait. -/
theorem pending_of_pending_perform {q : TimerQueue} {r : Request} (hr : r.isSchedule = false)
    {id : TimerId} {t : Timer} (h : (q.perform r).2.pending[id]? = some t) :
  q.pending[id]? = some t
  := by
  cases r with
  | setTime now => exact h
  | schedule delay script call => cases hr
  | cancel other =>
    have h' : (q.cancel other).pending[id]? = some t := h
    rw [pending_cancel] at h'
    split at h'
    · cases h'
    · exact h'
  | cancelScript script =>
    have h' : (q.cancelScript script).pending[id]? = some t := h
    rw [pending_cancelScript, Option.filter_eq_some_iff] at h'
    exact h'.1
  | takeDue now =>
    have h' : (q.setTime now).dropDue.pending[id]? = some t := h
    rw [pending_dropDue_eq_some_iff] at h'
    exact h'.1

/-- A timer that waits has waited before, or has just been scheduled. -/
theorem pending_perform_cases {q : TimerQueue} {r : Request} {id : TimerId} {t : Timer}
    (h : (q.perform r).2.pending[id]? = some t) :
  q.pending[id]? = some t
    ∨ id = q.issued + 1 ∧ ∃ delay script call,
        r = .schedule delay script call ∧ t = ⟨q.dueAfter delay, script, call⟩
  := by
  cases hr : r.isSchedule with
  | false => exact .inl (pending_of_pending_perform hr h)
  | true =>
    cases r with
    | schedule delay script call =>
      have h' : (q.schedule delay script call).pending[id]? = some t := h
      rw [pending_schedule] at h'
      split at h'
      · rename_i hid
        cases h'
        exact .inr ⟨hid, delay, script, call, rfl, rfl⟩
      · exact .inl h'
    | _ => cases hr

/-- The timers that wait have numbers that were issued, and times that are counts. -/
structure Regular (q : TimerQueue) : Prop where
  issued : ∀ (id : TimerId) (t : Timer), q.pending[id]? = some t → id ≤ q.issued
  due : ∀ (id : TimerId) (t : Timer), q.pending[id]? = some t → t.due ≤ greatestCount

theorem regular_empty :
  empty.Regular
  := by
  constructor
  · intro id t h
    cases h
  · intro id t h
    cases h

theorem Regular.perform {q : TimerQueue} (hq : q.Regular) (r : Request) :
  (q.perform r).2.Regular
  := by
  constructor
  · intro id t h
    obtain h | ⟨rfl, delay, script, call, rfl, rfl⟩ := pending_perform_cases h
    · exact (hq.issued id t h).trans (q.issued_le_issued_perform r)
    · exact le_rfl
  · intro id t h
    obtain h | ⟨rfl, delay, script, call, rfl, rfl⟩ := pending_perform_cases h
    · exact hq.due id t h
    · exact Nat.min_le_right _ _

theorem Regular.afterAll {q : TimerQueue} (hq : q.Regular) (requests : List Request) :
  (q.afterAll requests).Regular
  := by
  induction requests generalizing q with
  | nil => exact hq
  | cons r rest ih => exact ih (hq.perform r)

theorem Regular.of_mem_history {q : TimerQueue} (hq : q.Regular) {requests : List Request}
    {e : Event} (he : e ∈ q.history requests) :
  e.before.Regular
  := by
  obtain ⟨past, future, h⟩ := List.append_of_mem he
  obtain ⟨earlier, -, hbefore⟩ := exists_of_history_eq h
  rw [hbefore]
  exact hq.afterAll earlier

/-- A number that is not issued yet does not wait. -/
theorem Regular.not_mem_ids {q : TimerQueue} (hq : q.Regular) :
  q.issued + 1 ∉ q.ids
  := by
  intro h
  obtain ⟨t, ht⟩ := (q.mem_ids_iff _).mp h
  exact Nat.not_succ_le_self _ (hq.issued _ t ht)

/-! ### The order of deliveries -/

/-- The calls that are due have different numbers. -/
theorem nodup_due (q : TimerQueue) :
  (q.due.map Prod.fst).Nodup
  := by
  have hkeys : (q.pending.toList.map Prod.fst).Nodup := by
    rw [Std.TreeMap.map_fst_toList_eq_keys]
    exact q.nodup_ids
  have hperm := (List.mergeSort_perm (q.pending.toList.filter fun e => e.2.due ≤ q.now)
    Timer.before).map Prod.fst
  apply hperm.nodup_iff.mpr
  exact hkeys.sublist (List.filter_sublist.map Prod.fst)

/-- The calls that are due come in order. -/
theorem pairwise_due (q : TimerQueue) :
  q.due.Pairwise Timer.Earlier
  := by
  have hsorted := List.pairwise_mergeSort Timer.before_trans Timer.before_total
    (q.pending.toList.filter fun e => e.2.due ≤ q.now)
  have hne := List.pairwise_map.mp q.nodup_due
  refine (hsorted.and hne).imp ?_
  rintro s t ⟨hbefore, hdistinct⟩
  exact Timer.earlier_of_before hbefore hdistinct

theorem pairwise_delivered (e : Event) :
  e.delivered.Pairwise Timer.Earlier
  := by
  obtain ⟨q, r⟩ := e
  cases r with
  | takeDue now => exact (q.setTime now).pairwise_due
  | _ => exact .nil

/-- A call is in the past of a queue: its time has come, its number is issued, and everything
that waits is later. -/
structure Past (q : TimerQueue) (e : TimerId × Timer) : Prop where
  due : e.2.due ≤ min q.now greatestCount
  issued : e.1 ≤ q.issued
  waiting : ∀ (id : TimerId) (t : Timer), q.pending[id]? = some t → Timer.Earlier e (id, t)

/-- What is past stays past: what is scheduled later is due later, or at the same time under a
greater number. -/
theorem Past.perform {q : TimerQueue} {e : TimerId × Timer} (h : q.Past e) (r : Request) :
  (q.perform r).2.Past e
  := by
  have hdue := h.due
  have hissued := h.issued
  have hnow := q.now_le_now_perform r
  constructor
  · omega
  · exact hissued.trans (q.issued_le_issued_perform r)
  · intro id t hpending
    obtain hpending | ⟨rfl, delay, script, call, rfl, rfl⟩ := pending_perform_cases hpending
    · exact h.waiting id t hpending
    · have hlater : e.2.due ≤ q.dueAfter delay := by
        rw [dueAfter]
        omega
      obtain hlater | hlater := Nat.lt_or_eq_of_le hlater
      · exact .inl hlater
      · exact .inr ⟨hlater, Nat.lt_succ_of_le hissued⟩

/-- The calls handed over by a request waited before it and are due after it. -/
theorem of_mem_delivered {e : Event} {id : TimerId} {t : Timer} (h : (id, t) ∈ e.delivered) :
  e.before.pending[id]? = some t ∧ t.due ≤ e.after.now
    ∧ ∀ (other : TimerId) (u : Timer), e.after.pending[other]? = some u → e.after.now < u.due
  := by
  obtain ⟨q, r⟩ := e
  cases r with
  | takeDue now =>
    obtain ⟨hpending, hdue⟩ := ((q.setTime now).mem_due_iff id t).mp h
    refine ⟨hpending, hdue, ?_⟩
    intro other u hother
    exact (((q.setTime now).pending_dropDue_eq_some_iff other u).mp hother).2
  | _ => cases h

theorem past_of_delivered {e : Event} (hq : e.before.Regular) {d : TimerId × Timer}
    (h : d ∈ e.delivered) :
  e.after.Past d
  := by
  obtain ⟨hpending, hdue, hlater⟩ := of_mem_delivered h
  constructor
  · exact le_min hdue (hq.due _ _ hpending)
  · exact (hq.issued _ _ hpending).trans (e.before.issued_le_issued_perform e.request)
  · intro other u hother
    exact .inl (hdue.trans_lt (hlater other u hother))

/-- Whatever is past is earlier than all that is handed over from now on. -/
theorem Past.earlier {q : TimerQueue} {e : TimerId × Timer} (h : q.Past e)
    (requests : List Request) :
  ∀ d ∈ (q.history requests).flatMap Event.delivered, Timer.Earlier e d
  := by
  induction requests generalizing q with
  | nil =>
    intro d hd
    cases hd
  | cons r rest ih =>
    intro d hd
    obtain hd | hd := List.mem_append.mp hd
    · obtain ⟨hpending, -, -⟩ := of_mem_delivered hd
      exact h.waiting _ _ hpending
    · exact ih (h.perform r) d hd

theorem Regular.pairwise_history {q : TimerQueue} (hq : q.Regular) (requests : List Request) :
  ((q.history requests).flatMap Event.delivered).Pairwise Timer.Earlier
  := by
  induction requests generalizing q with
  | nil => exact .nil
  | cons r rest ih =>
    apply List.pairwise_append.mpr
    refine ⟨pairwise_delivered ⟨q, r⟩, ih (hq.perform r), ?_⟩
    intro d hd
    have hpast : (q.perform r).2.Past d := past_of_delivered (e := ⟨q, r⟩) hq hd
    exact hpast.earlier rest

/-- Whatever requests are made to an empty queue, all that it hands over comes in one order, by
time and then by number. -/
theorem deliveries_are_in_order (requests : List Request) :
  ((empty.history requests).flatMap Event.delivered).Pairwise Timer.Earlier
  := by
  exact regular_empty.pairwise_history requests

/-! ### The account of timers -/

/-- When timers only stop to wait, the ones that wait before are those that wait after and those
that do not. -/
theorem perm_ids_of_pending {q q' : TimerQueue}
    (h : ∀ (id : TimerId) (t : Timer), q'.pending[id]? = some t → q.pending[id]? = some t) :
  (q'.ids ++ q.ids.filter fun id => !q'.isPending id).Perm q.ids
  := by
  have hkept : q'.ids.Perm (q.ids.filter fun id => q'.isPending id) := by
    apply (List.perm_ext_iff_of_nodup q'.nodup_ids (q.nodup_ids.filter _)).mpr
    intro id
    rw [List.mem_filter, isPending_iff, mem_ids_iff, mem_ids_iff]
    constructor
    · rintro ⟨t, ht⟩
      exact ⟨⟨t, h id t ht⟩, t, ht⟩
    · rintro ⟨-, ht⟩
      exact ht
  exact (hkept.append_right _).trans (List.filter_append_perm (fun id => q'.isPending id) q.ids)

/-- The calls handed over are those of the timers that do not wait any more. -/
theorem perm_ids_of_takeDue (q : TimerQueue) (now : Nat) :
  ((q.takeDue now).1.map Prod.fst).Perm
    (q.ids.filter fun id => !(q.takeDue now).2.isPending id)
  := by
  apply (List.perm_ext_iff_of_nodup (q.setTime now).nodup_due (q.nodup_ids.filter _)).mpr
  intro id
  have hdrop : (q.takeDue now).2 = (q.setTime now).dropDue := rfl
  rw [List.mem_filter, mem_ids_iff, Bool.not_eq_true', ← Bool.not_eq_true, isPending_iff, hdrop]
  constructor
  · intro hid
    obtain ⟨⟨_, t⟩, hdue, rfl⟩ := List.mem_map.mp hid
    obtain ⟨hpending, ht⟩ := ((q.setTime now).mem_due_iff _ t).mp hdue
    refine ⟨⟨t, hpending⟩, ?_⟩
    rintro ⟨u, hu⟩
    obtain ⟨hpending', hu⟩ := ((q.setTime now).pending_dropDue_eq_some_iff _ u).mp hu
    cases hpending.symm.trans hpending'
    exact absurd ht (Nat.not_le.mpr hu)
  · rintro ⟨⟨t, hpending⟩, hgone⟩
    apply List.mem_map_of_mem (f := Prod.fst) (a := (id, t))
    apply ((q.setTime now).mem_due_iff id t).mpr
    refine ⟨hpending, Nat.not_lt.mp fun ht => hgone ⟨t, ?_⟩⟩
    exact ((q.setTime now).pending_dropDue_eq_some_iff id t).mpr ⟨hpending, ht⟩

/-- The timers that wait before a request, and the one that it schedules, are those that wait
after it, are handed over by it or are cancelled by it. -/
theorem Regular.perm_event {e : Event} (he : e.before.Regular) :
  (e.after.ids ++ e.delivered.map Prod.fst ++ e.removed).Perm (e.before.ids ++ e.issued)
  := by
  obtain ⟨q, r⟩ := e
  cases r with
  | setTime now =>
    show (q.ids ++ [] ++ []).Perm (q.ids ++ [])
    rw [List.append_nil, List.append_nil]
  | schedule delay script call =>
    show ((q.schedule delay script call).ids ++ [] ++ []).Perm (q.ids ++ [q.issued + 1])
    rw [List.append_nil, List.append_nil]
    have hnodup : (q.ids ++ [q.issued + 1]).Nodup := by
      apply List.nodup_append.mpr
      refine ⟨q.nodup_ids, List.pairwise_singleton _ _, ?_⟩
      rintro id hid _ hlast rfl
      rw [List.mem_singleton] at hlast
      exact he.not_mem_ids (hlast ▸ hid)
    apply (List.perm_ext_iff_of_nodup (nodup_ids _) hnodup).mpr
    intro id
    rw [mem_ids_iff, pending_schedule, List.mem_append, mem_ids_iff, List.mem_singleton]
    by_cases hid : id = q.issued + 1
    · simp [hid]
    · simp [hid]
  | cancel id =>
    show ((q.cancel id).ids ++ [] ++ q.ids.filter _).Perm (q.ids ++ [])
    rw [List.append_nil, List.append_nil]
    exact perm_ids_of_pending fun _ _ => pending_of_pending_perform (r := .cancel id) rfl
  | cancelScript script =>
    show ((q.cancelScript script).ids ++ [] ++ q.ids.filter _).Perm (q.ids ++ [])
    rw [List.append_nil, List.append_nil]
    exact perm_ids_of_pending fun _ _ => pending_of_pending_perform (r := .cancelScript script) rfl
  | takeDue now =>
    show ((q.takeDue now).2.ids ++ (q.takeDue now).1.map Prod.fst ++ []).Perm (q.ids ++ [])
    rw [List.append_nil, List.append_nil]
    have hkept := perm_ids_of_pending fun _ _ =>
      pending_of_pending_perform (q := q) (r := .takeDue now) rfl
    exact ((q.perm_ids_of_takeDue now).append_left _).trans hkept

/-- Over a history, the timers that waited first and those that were scheduled are those that
wait last, were handed over or were cancelled. -/
theorem Regular.perm_history {q : TimerQueue} (hq : q.Regular) (requests : List Request) :
  ((q.afterAll requests).ids ++ ((q.history requests).flatMap Event.delivered).map Prod.fst
      ++ (q.history requests).flatMap Event.removed).Perm
    (q.ids ++ (q.history requests).flatMap Event.issued)
  := by
  induction requests generalizing q with
  | nil => simp [history, TimerQueue.afterAll]
  | cons r rest ih =>
    have hevent : ((q.perform r).2.ids ++ (Event.delivered ⟨q, r⟩).map Prod.fst
        ++ Event.removed ⟨q, r⟩).Perm (q.ids ++ Event.issued ⟨q, r⟩) :=
      Regular.perm_event (e := ⟨q, r⟩) hq
    have hrest := ih (hq.perform r)
    simp only [history, TimerQueue.afterAll, List.flatMap_cons, List.map_append] at hrest ⊢
    rw [List.perm_iff_count] at hevent hrest ⊢
    intro id
    have hevent := hevent id
    have hrest := hrest id
    simp only [List.count_append] at hevent hrest ⊢
    omega

/-- The numbers are issued one after the other. -/
theorem issued_history (q : TimerQueue) (requests : List Request) :
  (q.history requests).flatMap Event.issued
    = List.range' (q.issued + 1) (requests.countP Request.isSchedule)
  := by
  induction requests generalizing q with
  | nil => rfl
  | cons r rest ih =>
    rw [history, List.flatMap_cons, ih]
    cases r with
    | schedule delay script call =>
      rw [List.countP_cons_of_pos rfl, List.range'_succ]
      rfl
    | _ =>
      rw [List.countP_cons_of_neg Bool.false_ne_true]
      rfl

/-- A timer that waits after a history waited before it, or was scheduled in it as it is. -/
theorem schedules_of_pending {q : TimerQueue} {requests : List Request} {id : TimerId} {t : Timer}
    (h : (q.afterAll requests).pending[id]? = some t) :
  q.pending[id]? = some t ∨ ∃ e ∈ q.history requests, e.Schedules id t
  := by
  induction requests generalizing q with
  | nil => exact .inl h
  | cons r rest ih =>
    obtain h | ⟨e, he, hschedules⟩ := ih h
    · obtain h | ⟨rfl, delay, script, call, rfl, rfl⟩ := pending_perform_cases h
      · exact .inl h
      · refine .inr ⟨_, List.mem_cons_self, delay, script, call, rfl, rfl, ?_⟩
        rw [dueAfter, min_comm]
        rfl
    · exact .inr ⟨e, List.mem_cons_of_mem _ he, hschedules⟩

theorem mem_removed_cancelScript (q : TimerQueue) (script : ScriptId) (id : TimerId) :
  id ∈ Event.removed ⟨q, .cancelScript script⟩
    ↔ ∃ t, q.pending[id]? = some t ∧ t.script = script
  := by
  show id ∈ q.ids.filter (fun id => !(q.cancelScript script).isPending id) ↔ _
  rw [List.mem_filter, mem_ids_iff, Bool.not_eq_true', ← Bool.not_eq_true, isPending_iff,
    pending_cancelScript]
  cases hpending : q.pending[id]? with
  | none => simp
  | some t => by_cases hscript : t.script = script <;> simp [hscript]

theorem length_removed_cancelScript (q : TimerQueue) (script : ScriptId) :
  (Event.removed ⟨q, .cancelScript script⟩).length = (q.ofScript script).length
  := by
  have hnodup : ((q.ofScript script).map Prod.fst).Nodup := by
    have hkeys : (q.pending.toList.map Prod.fst).Nodup := by
      rw [Std.TreeMap.map_fst_toList_eq_keys]
      exact q.nodup_ids
    exact hkeys.sublist (List.filter_sublist.map Prod.fst)
  have hperm : (Event.removed ⟨q, .cancelScript script⟩).Perm
      ((q.ofScript script).map Prod.fst) := by
    apply (List.perm_ext_iff_of_nodup (q.nodup_ids.filter _) hnodup).mpr
    intro id
    refine (q.mem_removed_cancelScript script id).trans ?_
    simp [ofScript, Std.TreeMap.mem_toList_iff_getElem?_eq_some]
  rw [hperm.length_eq, List.length_map]

theorem Regular.exact_event {e : Event} (he : e.before.Regular) :
  e.Exact
  := by
  obtain ⟨q, r⟩ := e
  cases r with
  | setTime now =>
    intro id
    rfl
  | schedule delay script call =>
    refine ⟨he.not_mem_ids, ?_⟩
    intro other hother
    exact (q.pending_schedule delay script call other).trans (if_neg hother)
  | cancel id =>
    refine ⟨?_, q.pending_cancel id⟩
    rw [q.cancels_eq, q.isPending_iff, q.mem_ids_iff]
  | cancelScript script =>
    refine ⟨?_, q.mem_removed_cancelScript script, ?_⟩
    · rw [q.length_removed_cancelScript, q.cancelsOf_eq]
    · intro id
      show (q.cancelScript script).pending[id]? = _
      rw [pending_cancelScript]
      simp only [mem_removed_cancelScript]
      cases hpending : q.pending[id]? with
      | none => simp
      | some t => by_cases hscript : t.script = script <;> simp [hscript]
  | takeDue now => exact ⟨(q.setTime now).mem_due_iff, (q.setTime now).pending_dropDue_eq_some_iff⟩

/-- Whatever requests are made to an empty queue: the numbers issued are `1`, `2`, `3` and so on;
each of them waits, or was handed over once, or was cancelled once; what is handed over is what
was scheduled before; every reply is right; and the clock never goes back. -/
theorem timers_are_accounted_for (requests : List Request) :
  (empty.history requests).flatMap Event.issued
      = List.range' 1 (requests.countP Request.isSchedule)
    ∧ ((empty.afterAll requests).ids
        ++ ((empty.history requests).flatMap Event.delivered).map Prod.fst
        ++ (empty.history requests).flatMap Event.removed).Perm
      ((empty.history requests).flatMap Event.issued)
    ∧ (∀ past e future, empty.history requests = past ++ e :: future →
        ∀ id t, (id, t) ∈ e.delivered → ∃ e' ∈ past, e'.Schedules id t)
    ∧ (∀ e ∈ empty.history requests, e.Exact)
    ∧ ∀ e ∈ empty.history requests, e.before.now ≤ e.after.now
  := by
  refine ⟨empty.issued_history requests, regular_empty.perm_history requests, ?_, ?_, ?_⟩
  · intro past e future h id t ht
    obtain ⟨earlier, rfl, hbefore⟩ := exists_of_history_eq h
    obtain ⟨hpending, -, -⟩ := of_mem_delivered ht
    rw [hbefore] at hpending
    obtain hpending | hschedules := schedules_of_pending hpending
    · cases hpending
    · exact hschedules
  · intro e he
    exact (regular_empty.of_mem_history he).exact_event
  · intro e he
    exact e.before.now_le_now_perform e.request

end TimerQueue

end StoryScript
