import Std.Data.TreeMap
import StoryScript.Context
import StoryScript.Host.Callback
import StoryScript.Limits

/-!
# Timers

Calls that wait for their time.  Nothing happens by itself: the host moves the clock and
takes out the calls that are due, the earliest first, and of two with the same time the one
that was scheduled first.
-/

namespace StoryScript

/-- The number of a timer; later ones have greater numbers. -/
abbrev TimerId := Nat

/-- A call that waits. -/
structure Timer where
  /-- The time at which the call is due, in milliseconds. -/
  due : Nat
  /-- The script that scheduled the call. -/
  script : ScriptId
  /-- The call. -/
  call : DeferredCall

/-- The order in which calls are taken out. -/
def Timer.before (s t : TimerId × Timer) : Bool :=
  s.2.due < t.2.due || (s.2.due == t.2.due && s.1 ≤ t.1)

/-- All waiting calls, and the clock. -/
structure TimerQueue where
  /-- The time as last told, in milliseconds. -/
  now : Nat
  /-- The number of timers ever scheduled, which is also the number of the last one. -/
  issued : Nat
  /-- The waiting calls by the numbers of their timers. -/
  pending : Std.TreeMap TimerId Timer

namespace TimerQueue

/-- The queue at time zero with no calls. -/
def empty : TimerQueue := ⟨0, 0, ∅⟩

/-- The queue with its clock moved on.  The clock never goes back. -/
def setTime (q : TimerQueue) (now : Nat) : TimerQueue := { q with now := max q.now now }

/-- The time after a delay.  Times stay at the greatest count. -/
def dueAfter (q : TimerQueue) (delay : Nat) : Nat := min (q.now + delay) greatestCount

/-- The queue with one more call, which is due after a delay; its number is `q.issued + 1`. -/
def schedule (q : TimerQueue) (delay : Nat) (script : ScriptId) (call : DeferredCall) :
    TimerQueue :=
  { q with
    issued := q.issued + 1
    pending := q.pending.insert (q.issued + 1) ⟨q.dueAfter delay, script, call⟩ }

/-- Whether a timer is waiting. -/
def isPending (q : TimerQueue) (id : TimerId) : Bool := q.pending.contains id

/-- The queue without a timer. -/
def cancel (q : TimerQueue) (id : TimerId) : TimerQueue :=
  { q with pending := q.pending.erase id }

/-- Whether fewer calls wait once a timer is cancelled. -/
def cancels (q : TimerQueue) (id : TimerId) : Bool := (q.cancel id).pending.size != q.pending.size

/-- The waiting calls of a script, in the order in which they were scheduled. -/
def ofScript (q : TimerQueue) (script : ScriptId) : List (TimerId × Timer) :=
  q.pending.toList.filter fun e => e.2.script == script

/-- The queue without the timers of a script. -/
def cancelScript (q : TimerQueue) (script : ScriptId) : TimerQueue :=
  { q with pending := q.pending.filter fun _ t => t.script != script }

/-- How many fewer calls wait once the timers of a script are cancelled. -/
def cancelsOf (q : TimerQueue) (script : ScriptId) : Nat :=
  q.pending.size - (q.cancelScript script).pending.size

/-- The calls that are due, in order. -/
def due (q : TimerQueue) : List (TimerId × Timer) :=
  (q.pending.toList.filter fun e => e.2.due ≤ q.now).mergeSort Timer.before

/-- The queue without the calls that are due. -/
def dropDue (q : TimerQueue) : TimerQueue :=
  { q with pending := q.pending.filter fun _ t => !(t.due ≤ q.now) }

/-- The calls that are due once the clock is moved on, and the queue without them. -/
def takeDue (q : TimerQueue) (now : Nat) : List (TimerId × Timer) × TimerQueue :=
  ((q.setTime now).due, (q.setTime now).dropDue)

/-- The earliest time at which a waiting call is due. -/
def next? (q : TimerQueue) : Option Nat := (q.pending.toList.map fun e => e.2.due).min?

/-! ### Requests -/

/-- What a host asks of a queue. -/
inductive Request where
  /-- To move the clock on. -/
  | setTime (now : Nat)
  /-- To schedule a call after a delay. -/
  | schedule (delay : Nat) (script : ScriptId) (call : DeferredCall)
  /-- To cancel a timer. -/
  | cancel (id : TimerId)
  /-- To cancel the timers of a script. -/
  | cancelScript (script : ScriptId)
  /-- To move the clock on and hand over the calls that are due. -/
  | takeDue (now : Nat)

/-- What a queue replies. -/
inductive Reply where
  /-- Nothing. -/
  | quiet
  /-- The number of a new timer. -/
  | issued (id : TimerId)
  /-- Whether the timer was waiting. -/
  | cancelled (waiting : Bool)
  /-- How many timers were cancelled. -/
  | removed (count : Nat)
  /-- The calls that are due. -/
  | due (calls : List (TimerId × Timer))

/-- The reply to a request, and the queue after it. -/
def perform (q : TimerQueue) : Request → Reply × TimerQueue
  | .setTime now => (.quiet, q.setTime now)
  | .schedule delay script call =>
    let after := q.schedule delay script call
    (.issued after.issued, after)
  | .cancel id => (.cancelled (q.cancels id), q.cancel id)
  | .cancelScript script => (.removed (q.cancelsOf script), q.cancelScript script)
  | .takeDue now =>
    let (calls, after) := q.takeDue now
    (.due calls, after)

/-! ### The waiting calls -/

/-- The clock never goes back. -/
theorem now_le_now_setTime (q : TimerQueue) (now : Nat) :
  q.now ≤ (q.setTime now).now
  := by
  apply Nat.le_max_left

/-- A scheduled call waits under the next number, and the others go on waiting. -/
theorem pending_schedule (q : TimerQueue) (delay : Nat) (script : ScriptId)
    (call : DeferredCall) (id : TimerId) :
  (q.schedule delay script call).pending[id]?
    = if id = q.issued + 1 then some ⟨q.dueAfter delay, script, call⟩ else q.pending[id]?
  := by
  simp [schedule, Std.TreeMap.getElem?_insert, eq_comm (a := id)]

/-- A cancelled timer does not wait any more, and the others do. -/
theorem pending_cancel (q : TimerQueue) (id other : TimerId) :
  (q.cancel id).pending[other]? = if other = id then none else q.pending[other]?
  := by
  simp [cancel, Std.TreeMap.getElem?_erase, eq_comm (a := other)]

/-- The timers of a cancelled script do not wait any more, and the others do. -/
theorem pending_cancelScript (q : TimerQueue) (script : ScriptId) (id : TimerId) :
  (q.cancelScript script).pending[id]? = q.pending[id]?.filter fun t => t.script != script
  := by
  simp [cancelScript]

/-- The calls that are due do not wait any more, and the others do. -/
theorem pending_dropDue (q : TimerQueue) (id : TimerId) :
  q.dropDue.pending[id]? = q.pending[id]?.filter fun t => !(t.due ≤ q.now)
  := by
  simp [dropDue]

/-- A timer is pending exactly if a call waits under its number. -/
theorem isPending_iff (q : TimerQueue) (id : TimerId) :
  q.isPending id = true ↔ ∃ t, q.pending[id]? = some t
  := by
  rw [isPending, ← Std.TreeMap.isSome_getElem?_eq_contains, Option.isSome_iff_exists]

/-- Fewer calls wait exactly if the cancelled timer was waiting. -/
theorem cancels_eq (q : TimerQueue) (id : TimerId) :
  q.cancels id = q.isPending id
  := by
  rw [cancels, isPending, cancel, Std.TreeMap.size_erase]
  cases hwaiting : q.pending.contains id with
  | false => simp
  | true =>
    have hsome : q.pending.isEmpty = false :=
      Std.TreeMap.isEmpty_eq_false_iff_exists_contains_eq_true.mpr ⟨id, hwaiting⟩
    rw [Std.TreeMap.isEmpty_eq_size_eq_zero, beq_eq_false_iff_ne] at hsome
    rw [if_pos rfl, bne_iff_ne]
    omega

/-- There are as many fewer calls as the script has timers. -/
theorem cancelsOf_eq (q : TimerQueue) (script : ScriptId) :
  q.cancelsOf script = (q.ofScript script).length
  := by
  have hsplit : q.pending.toList.length
      = (q.ofScript script).length + (q.cancelScript script).pending.toList.length := by
    rw [q.pending.toList.length_eq_countP_add_countP fun e => e.2.script == script,
      List.countP_eq_length_filter, List.countP_eq_length_filter, cancelScript,
      Std.TreeMap.toList_filter, ofScript]
    simp only [Bool.not_eq_true, Bool.decide_eq_false, bne]
  rw [cancelsOf, ← Std.TreeMap.length_toList, ← Std.TreeMap.length_toList, hsplit]
  exact Nat.add_sub_cancel ..

/-- Exactly the waiting calls whose time has come are due. -/
theorem mem_due_iff (q : TimerQueue) (id : TimerId) (t : Timer) :
  (id, t) ∈ q.due ↔ q.pending[id]? = some t ∧ t.due ≤ q.now
  := by
  simp [due, List.mem_mergeSort, Std.TreeMap.mem_toList_iff_getElem?_eq_some]

/-- Exactly the other waiting calls stay. -/
theorem pending_dropDue_eq_some_iff (q : TimerQueue) (id : TimerId) (t : Timer) :
  q.dropDue.pending[id]? = some t ↔ q.pending[id]? = some t ∧ q.now < t.due
  := by
  rw [pending_dropDue, Option.filter_eq_some_iff]
  simp

end TimerQueue

end StoryScript
