/-
# Common.CallbackQueue -- immediate callbacks are a bounded queue

In every run, also where callbacks schedule callbacks and the loop breaks off for
the radio, what has been accepted is what has been called, in this order, and then
what waits (`callbackQueue_of_run`).  The callback that is running keeps its slot
until it returns: it counts for the capacity, and nothing is written over it.
-/
import Mathlib
import Zboss.Theory.Run
import Zboss.Common.Scheduler

namespace Zboss.Common.CallbackQueue

open Zboss.Theory.Run
open Zboss.Common.Types
open Zboss.Common.RingBuffer
open Zboss.Common.Scheduler

set_option autoImplicit false

variable {F : Type}

/-- What a call of `zb_schedule_callback` that returns `RET_OK` takes in. -/
def accepted (s : SchedState F) : SchedCall F → List (ZbCbQEnt F)
  | .callback func param =>
      match zbScheduleCallback func param s.sched.cbQ with
      | some (_, .ok ()) => [⟨func, param⟩]
      | _ => []
  | _ => []

/-- The callback that the loop goes into. -/
def called (s : SchedState F) : SchedCall F → List (ZbCbQEnt F)
  | .loop brk => if (schedLoop brk s).loopAt = .calling then s.sched.cbQ.peek.toList else []
  | _ => []

/-- What the queue holds, the callback that is running included. -/
def queued (s : SchedState F) : List (ZbCbQEnt F) := s.sched.cbQ.entries

/-- What has not been called yet. -/
def waiting (s : SchedState F) : List (ZbCbQEnt F) :=
  if s.loopAt = .calling then (queued s).tail else queued s

/-- **The invariant**: while a callback runs it is still counted as written. -/
structure QueueOk (s : SchedState F) : Prop where
  ring : RingOk s.sched.cbQ
  running : s.loopAt = .calling → s.sched.cbQ.isEmpty = false

section Steps

variable {s t : SchedState F} {func : F} {param : UInt8} {cbQ : ZbCbQ F} {ret : Except ZbRet Unit}

/-! ## One call -/

/-- What a call returns and does. -/
theorem scheduleCallback_spec (ring : RingOk cbQ) {cbQ' : ZbCbQ F}
    (called : zbScheduleCallback func param cbQ = some (cbQ', ret)) :
    RingOk cbQ' ∧
      ((ret = .error .overflow ∧ cbQ.entries.length = zbSchedulerQSize ∧ cbQ' = cbQ) ∨
        (ret = .ok () ∧ cbQ.entries.length < zbSchedulerQSize ∧
          cbQ'.entries = cbQ.entries ++ [⟨func, param⟩])) := by
  unfold zbScheduleCallback at called
  split at called
  · rename_i full
    obtain ⟨rfl, rfl⟩ := Prod.mk.inj (Option.some.inj called)
    have holds := isFull_iff.1 full
    have fits := ring.fits
    rw [← entries_length] at fits
    exact ⟨ring, .inl ⟨rfl, Nat.le_antisymm fits holds, rfl⟩⟩
  · rename_i room
    have room : cbQ.isFull = false := Bool.eq_false_iff.2 room
    split at called
    · obtain ⟨rfl, rfl⟩ := Prod.mk.inj (Option.some.inj called)
      refine ⟨ringOk_put ring room _, .inr ⟨rfl, ?_, entries_put ring room _⟩⟩
      rw [← Nat.not_le, ← isFull_iff]
      simp [room]
    · cases called

/-! ## One step -/

/-- The rest of the scheduler does not touch the callback queue. -/
theorem cancelScan_cbQ [DecidableEq F] {n : Nat} {ent : Option Nat} {g g' : ZbSchedGlobals F}
    {ret' : Except ZbRet Unit} (scanned : cancelScan func param n ent ret g = some (g', ret')) :
    g'.cbQ = g.cbQ := by
  induction n generalizing ent ret g with
  | zero =>
      cases ent with
      | none => cases scanned; rfl
      | some ent => cases scanned
  | succ n ih =>
      cases ent with
      | none => cases scanned; rfl
      | some ent =>
          rw [cancelScan] at scanned
          split at scanned
          · obtain ⟨⟨links, queue⟩, -, scanned⟩ := Option.bind_eq_some_iff.1 scanned
            dsimp only at scanned
            split at scanned
            · cases scanned; rfl
            · have kept := ih scanned
              exact kept
          · exact ih scanned

theorem scheduleAlarm_cbQ {runAfter time : ZbTime} {g g' : ZbSchedGlobals F}
    (scheduled : zbScheduleAlarm func param runAfter time g = some (g', ret)) :
    g'.cbQ = g.cbQ := by
  unfold zbScheduleAlarm at scheduled
  split at scheduled
  · obtain ⟨⟨links, queue⟩, -, scheduled⟩ := Option.bind_eq_some_iff.1 scheduled
    cases scheduled
    rfl
  · cases scheduled
    rfl

theorem toAlarms_not_calling : (toAlarms s).loopAt ≠ .calling := by
  unfold toAlarms
  split <;> simp

/-- A stretch of the loop, as far as the callback queue is concerned. -/
theorem schedLoop_cases (brk : Bool) :
    (s.loopAt ≠ .calling ∧ (schedLoop brk s).loopAt ≠ .calling ∧
        (schedLoop brk s).sched.cbQ = s.sched.cbQ) ∨
      (s.loopAt = .callbacks ∧ (schedLoop brk s).loopAt = .calling ∧
        s.sched.cbQ.isEmpty = false ∧ (schedLoop brk s).sched.cbQ = s.sched.cbQ) ∨
      (s.loopAt = .calling ∧ (schedLoop brk s).loopAt ≠ .calling ∧
        (schedLoop brk s).sched.cbQ = s.sched.cbQ.flushGet) := by
  unfold schedLoop
  cases place : s.loopAt with
  | callbacks =>
      cases peeked : s.sched.cbQ.peek with
      | none => exact .inl ⟨by simp, toAlarms_not_calling, rfl⟩
      | some ent =>
          cases brk with
          | true => exact .inl ⟨by simp, toAlarms_not_calling, rfl⟩
          | false =>
              refine .inr (.inl ⟨rfl, rfl, ?_, rfl⟩)
              unfold ZbRingBuffer.peek at peeked
              split at peeked
              · cases peeked
              · rename_i some_
                exact Bool.eq_false_iff.2 some_
  | calling => exact .inr (.inr ⟨rfl, by simp, rfl⟩)
  | alarms time =>
      refine .inl ⟨by simp, ?_⟩
      dsimp only
      split
      · split
        · split <;> exact ⟨by simp, rfl⟩
        · exact ⟨by simp, rfl⟩
      · exact ⟨by simp, rfl⟩
  | firing time ent => exact .inl ⟨by simp, by simp, rfl⟩

variable [DecidableEq F] {call : SchedCall F}

/-- The steps that are neither a call nor a stretch of the loop. -/
theorem step_frame (taken : schedStep s call = some t) :
    (∃ func param cbQ ret, call = .callback func param ∧
        zbScheduleCallback func param s.sched.cbQ = some (cbQ, ret) ∧
        t.sched.cbQ = cbQ ∧ t.loopAt = s.loopAt) ∨
      (∃ brk, call = .loop brk ∧ t = schedLoop brk s) ∨
      (accepted s call = [] ∧ called s call = [] ∧ t.sched.cbQ = s.sched.cbQ ∧
        t.loopAt = s.loopAt) := by
  cases call with
  | callback func param =>
      obtain ⟨⟨cbQ, ret⟩, is, rfl⟩ := Option.map_eq_some_iff.1 taken
      exact .inl ⟨func, param, cbQ, ret, rfl, is, rfl, rfl⟩
  | alarm func param runAfter =>
      obtain ⟨⟨sched, ret⟩, is, rfl⟩ := Option.map_eq_some_iff.1 taken
      exact .inr (.inr ⟨rfl, rfl, scheduleAlarm_cbQ is, rfl⟩)
  | cancel func param =>
      obtain ⟨⟨sched, ret⟩, is, rfl⟩ := Option.map_eq_some_iff.1 taken
      exact .inr (.inr ⟨rfl, rfl, cancelScan_cbQ is, rfl⟩)
  | tick ticks =>
      cases taken
      exact .inr (.inr ⟨rfl, rfl, rfl, rfl⟩)
  | loop brk =>
      cases taken
      exact .inr (.inl ⟨brk, rfl, rfl⟩)

theorem queueOk_step (ok : QueueOk s) (taken : schedStep s call = some t) : QueueOk t := by
  obtain ⟨func, param, cbQ, ret, rfl, is, ring, place⟩ | ⟨brk, rfl, rfl⟩ | ⟨-, -, ring, place⟩ :=
    step_frame taken
  · obtain ⟨ringOk, effect⟩ := scheduleCallback_spec ok.ring is
    refine ⟨ring ▸ ringOk, fun calling => ?_⟩
    have some_ := ok.running (place ▸ calling)
    rw [ring]
    rcases effect with ⟨-, -, rfl⟩ | ⟨-, -, more⟩
    · exact some_
    · have length := congrArg List.length more
      simp only [entries_length, List.length_append, List.length_singleton] at length
      simp [ZbRingBuffer.isEmpty, length]
  · rcases schedLoop_cases (s := s) brk with ⟨-, after, ring⟩ | ⟨-, -, some_, ring⟩ |
      ⟨before, after, ring⟩
    · exact ⟨ring ▸ ok.ring, fun calling => absurd calling after⟩
    · exact ⟨ring ▸ ok.ring, fun _ => ring ▸ some_⟩
    · exact ⟨ring ▸ ringOk_flushGet ok.ring (ok.running before), fun calling => absurd calling after⟩
  · exact ⟨ring ▸ ok.ring, fun calling => ring ▸ ok.running (place ▸ calling)⟩

/-- **What waits and is accepted is what is called and still waits.** -/
theorem waiting_step (ok : QueueOk s) (taken : schedStep s call = some t) :
    waiting s ++ accepted s call = called s call ++ waiting t := by
  obtain ⟨func, param, cbQ, ret, rfl, is, ring, place⟩ | ⟨brk, rfl, rfl⟩ |
    ⟨noneIn, noneOut, ring, place⟩ := step_frame taken
  · obtain ⟨-, effect⟩ := scheduleCallback_spec ok.ring is
    simp only [waiting, queued, accepted, called, is, ring, place, List.nil_append]
    rcases effect with ⟨rfl, -, rfl⟩ | ⟨rfl, -, more⟩
    · simp
    · rw [more]
      split
      · rename_i calling
        have some_ : s.sched.cbQ.entries ≠ [] := by
          have := ok.running calling
          rw [← List.length_pos_iff, entries_length]
          simpa [ZbRingBuffer.isEmpty, Nat.pos_iff_ne_zero] using this
        simp [List.tail_append_of_ne_nil some_]
      · rfl
  · simp only [accepted, called, List.append_nil]
    rcases schedLoop_cases (s := s) brk with ⟨before, after, ring⟩ | ⟨before, after, some_, ring⟩ |
      ⟨before, after, ring⟩
    · simp only [waiting, queued, if_neg before, if_neg after, ring, List.nil_append]
    · have before : s.loopAt ≠ .calling := by simp [before]
      simp only [waiting, queued, if_pos after, if_neg before, ring, peek_eq,
        entries_flushGet some_]
      rfl
    · simp only [waiting, queued, if_pos before, if_neg after, ring, List.nil_append,
        entries_flushGet (ok.running before), List.tail_cons]
  · simp only [waiting, queued, noneIn, noneOut, ring, place, List.append_nil, List.nil_append]

end Steps

/-! ## Runs -/

theorem zbSchedInit_cbQ (g : ZbSchedGlobals F) : (zbSchedInit g).cbQ = g.cbQ := by
  unfold zbSchedInit
  induction List.range zbSchedulerQSize generalizing g with
  | nil => rfl
  | cons i l ih => exact ih (freeTmEnt i g)

theorem start_cbQ (null : F) (timer : ZbTime) :
    (SchedState.start null timer).sched.cbQ = .init fun _ => ⟨null, 0⟩ :=
  zbSchedInit_cbQ _

theorem queueOk_start (null : F) (timer : ZbTime) : QueueOk (.start null timer) where
  ring := by
    rw [start_cbQ]
    exact ringOk_init _ (by decide)
  running calling := nomatch calling

/-- A call at a state: it returns `RET_OVERFLOW` exactly if the queue holds its
capacity, and changes nothing then; else it appends. -/
def BoundedPut (s : SchedState F) : Prop :=
  ∀ func param cbQ ret, zbScheduleCallback func param s.sched.cbQ = some (cbQ, ret) →
    (ret = .error .overflow ↔ (queued s).length = zbSchedulerQSize) ∧
      (ret ≠ .ok () → cbQ = s.sched.cbQ) ∧
      (ret = .ok () → cbQ.entries = queued s ++ [⟨func, param⟩])

/-- The loop, when it comes to the callbacks, calls the first that waits. -/
def CallsFirst (s : SchedState F) : Prop :=
  s.loopAt = .callbacks → ∀ ent rest, waiting s = ent :: rest → called s (.loop false) = [ent]

theorem boundedPut {s : SchedState F} (ok : QueueOk s) : BoundedPut s := by
  intro func param cbQ ret called
  obtain ⟨-, ⟨rfl, full, rfl⟩ | ⟨rfl, room, more⟩⟩ := scheduleCallback_spec ok.ring called
  · exact ⟨by simpa [queued] using full, by simp, by simp⟩
  · refine ⟨?_, by simp, fun _ => more⟩
    exact iff_of_false (by simp) room.ne

theorem callsFirst (s : SchedState F) : CallsFirst s := by
  intro place ent rest first
  have first : s.sched.cbQ.entries = ent :: rest := by simpa [waiting, place, queued] using first
  have peeked : s.sched.cbQ.peek = some ent := by rw [peek_eq, first]; rfl
  simp [called, schedLoop, place, peeked]

/-- **The callback queue is a bounded FIFO.** -/
theorem callbackQueue_of_run [DecidableEq F] {null : F} {timer : ZbTime} {calls : List (SchedCall F)}
    {s : SchedState F} (ran : run schedStep (.start null timer) calls = some s) :
    trace schedStep accepted (.start null timer) calls =
        trace schedStep called (.start null timer) calls ++ waiting s ∧
      BoundedPut s ∧ CallsFirst s := by
  have keeps : ∀ s call t, QueueOk s → schedStep s call = some t → QueueOk (F := F) t :=
    fun _ _ _ ok taken => queueOk_step ok taken
  have start := queueOk_start null timer
  have balance := trace_balance_of_step keeps (fun _ _ _ ok taken => waiting_step ok taken) start ran
  have empty : waiting (.start null timer) = [] := by
    simp only [waiting, queued, start_cbQ]
    rfl
  rw [empty, List.nil_append] at balance
  exact ⟨balance, boundedPut (run_invariant_of_step keeps start ran), callsFirst s⟩

/-- A callback that schedules another one, with the loop broken off in between. -/
def reschedule : List (SchedCall Nat) :=
  [.callback 1 0, .callback 2 5, .loop false, .callback 3 7, .loop false, .loop true, .tick 9,
    .loop false, .callback 4 2, .loop false]

theorem callbackQueue_of_reschedule :
    ∃ s, run schedStep (.start 0 0) reschedule = some s ∧
      trace schedStep accepted (.start 0 0) reschedule =
        trace schedStep called (.start 0 0) reschedule ++ waiting s ∧ BoundedPut s ∧ CallsFirst s :=
  have ran := (Option.some_get (x := run schedStep (.start 0 0) reschedule) (by decide)).symm
  ⟨_, ran, callbackQueue_of_run ran⟩

/-- Two have been called, and two wait. -/
example : trace schedStep called (.start 0 0) reschedule = [⟨1, 0⟩, ⟨2, 5⟩] := by decide

end Zboss.Common.CallbackQueue
