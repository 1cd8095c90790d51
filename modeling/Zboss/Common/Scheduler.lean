/-
# Common.Scheduler -- immediate callbacks, alarms and the main loop

A callback is called with one byte.  Immediate ones wait in a ring buffer; alarms
wait in a list ordered by the time they run at, whose entries come from a stack of
free ones.  `zb_sched_loop_iteration` is cut where it gives way to a callback:
`LoopAt` is the place it has come to, `schedLoop` goes on to the next one.  Its
do-while loop and the endless loop it is called from are one loop here.  What a
callback does is up to it, so the calls of `SchedCall` can come at any place.

The timer is only read here; the hardware timer that is started and stopped for the
next alarm is left out, and the ticks come from outside.
-/
import Mathlib
import Zboss.Common.Types
import Zboss.Common.RingBuffer
import Zboss.Common.ListMacros

namespace Zboss.Common.Scheduler

open Zboss.Common.Types
open Zboss.Common.RingBuffer
open Zboss.Common.ListMacros

set_option autoImplicit false

def zbSchedulerQSize : Nat := 16
def zbIobufPoolSize : Nat := 16

/-! ## Time -/

abbrev ZbTime := UInt16

/-- `ZB_MAX_TIME_VAL / 2`. -/
def zbHalfMaxTimeVal : ZbTime := 32767

/-- Compare modulo the range of the timer. -/
def zbTimeGe (a b : ZbTime) : Prop := a - b < zbHalfMaxTimeVal

instance (a b : ZbTime) : Decidable (zbTimeGe a b) := inferInstanceAs (Decidable (_ < _))

/-! ## Immediate callbacks -/

variable {F : Type}

structure ZbCbQEnt (F : Type) where
  func : F
  param : UInt8
  deriving DecidableEq

abbrev ZbCbQ (F : Type) := ZbRingBuffer (ZbCbQEnt F) zbSchedulerQSize

/-- The assertion on the parameter comes after the put. -/
def zbScheduleCallback (func : F) (param : UInt8) (cbQ : ZbCbQ F) :
    Option (ZbCbQ F × Except ZbRet Unit) :=
  if cbQ.isFull then some (cbQ, .error .overflow)
  else if param.toNat ≤ zbIobufPoolSize then some (cbQ.put ⟨func, param⟩, .ok ())
  else none

/-! ## Alarms -/

/-- A timer queue entry; its link fields are in `tmLinks`. -/
structure ZbTmQEnt (F : Type) where
  func : F
  param : UInt8
  runTime : ZbTime
  deriving DecidableEq

structure ZbSchedGlobals (F : Type) where
  cbQ : ZbCbQ F
  tmBuffer : Nat → ZbTmQEnt F
  tmLinks : ZbLinks Nat
  tmQueue : Option Nat
  tmFreelist : Option Nat

/-- The zero-initialised context. -/
def ZbSchedGlobals.zero (null : F) : ZbSchedGlobals F where
  cbQ := .init fun _ => ⟨null, 0⟩
  tmBuffer _ := ⟨null, 0, 0⟩
  tmLinks := ⟨fun _ => none, fun _ => none⟩
  tmQueue := none
  tmFreelist := none

/-- Put an entry to the freelist. -/
def freeTmEnt (ent : Nat) (s : ZbSchedGlobals F) : ZbSchedGlobals F :=
  let (links, list) := zbStkPush s.tmLinks s.tmFreelist ent
  { s with tmLinks := links, tmFreelist := list }

def zbSchedInit (s : ZbSchedGlobals F) : ZbSchedGlobals F :=
  (List.range zbSchedulerQSize).foldl (fun s i => freeTmEnt i s) s

/-- The loop over the entries that are not later; more entries than there are is a
loop that does not end. -/
def alarmScan (s : ZbSchedGlobals F) (runTime : ZbTime) : Nat → Option Nat → Option (Option Nat)
  | _, none => some none
  | 0, some _ => none
  | n + 1, some ent =>
      if zbTimeGe runTime (s.tmBuffer ent).runTime then
        alarmScan s runTime n (s.tmLinks.next ent)
      else some (some ent)

/-- Where `zb_schedule_alarm` links the new entry in. -/
def insertTmq (nent : Nat) (s : ZbSchedGlobals F) : Option (ZbLinks Nat × Option Nat) :=
  let runTime := (s.tmBuffer nent).runTime
  match s.tmQueue with
  | none => some (zbListInsertHead s.tmLinks s.tmQueue nent)
  | some head =>
      if zbTimeGe (s.tmBuffer head).runTime runTime then
        some (zbListInsertHead s.tmLinks s.tmQueue nent)
      else do
        match ← alarmScan s runTime zbSchedulerQSize (some head) with
        | some ent =>
            match s.tmLinks.prev ent with
            | some before => zbListInsertAfter s.tmLinks s.tmQueue before nent
            | none => some (zbListInsertHead s.tmLinks s.tmQueue nent)
        | none => zbListInsertTail s.tmLinks s.tmQueue nent

def zbScheduleAlarm (func : F) (param : UInt8) (runAfter t : ZbTime) (s : ZbSchedGlobals F) :
    Option (ZbSchedGlobals F × Except ZbRet Unit) :=
  match zbStkPop s.tmLinks s.tmFreelist with
  | (some nent, rest) => do
      let s := { s with
        tmFreelist := rest
        tmBuffer := Function.update s.tmBuffer nent ⟨func, param, t + runAfter⟩ }
      let (links, queue) ← insertTmq nent s
      return ({ s with tmLinks := links, tmQueue := queue }, .ok ())
  | (none, _) => some (s, .error .overflow)

def zbAlarmAnyParam : UInt8 := 255
def zbAlarmAllCb : UInt8 := 254

/-- The entry is one that a cancel names. -/
def Cancels (func : F) (param : UInt8) (ent : ZbTmQEnt F) : Prop :=
  ent.func = func ∧ (param = zbAlarmAnyParam ∨ param = zbAlarmAllCb ∨ param = ent.param)

variable [DecidableEq F]

instance (func : F) (param : UInt8) (ent : ZbTmQEnt F) : Decidable (Cancels func param ent) :=
  inferInstanceAs (Decidable (_ ∧ _))

/-- The loop of `zb_schedule_alarm_cancel` over the queue, from `ent`. -/
def cancelScan (func : F) (param : UInt8) :
    Nat → Option Nat → Except ZbRet Unit → ZbSchedGlobals F →
      Option (ZbSchedGlobals F × Except ZbRet Unit)
  | _, none, ret, s => some (s, ret)
  | 0, some _, _, _ => none
  | n + 1, some ent, ret, s =>
      let next := s.tmLinks.next ent
      if Cancels func param (s.tmBuffer ent) then do
        let (links, queue) ← zbListRemove s.tmLinks s.tmQueue ent
        let s := freeTmEnt ent { s with tmLinks := links, tmQueue := queue }
        if param ≠ zbAlarmAllCb then return (s, .ok ())
        else cancelScan func param n next (.ok ()) s
      else cancelScan func param n next ret s

def zbScheduleAlarmCancel (func : F) (param : UInt8) (s : ZbSchedGlobals F) :
    Option (ZbSchedGlobals F × Except ZbRet Unit) :=
  cancelScan func param zbSchedulerQSize s.tmQueue (.error .notFound) s

/-! ## The main loop -/

/-- Where the main loop is. -/
inductive LoopAt where
  /-- Before it looks at the callback queue, with the MAC loop behind it. -/
  | callbacks
  /-- In the callback at the read index. -/
  | calling
  /-- Before it looks at the head of the timer queue; `t` is the time it has read. -/
  | alarms (t : ZbTime)
  /-- In the callback of an alarm. -/
  | firing (t : ZbTime) (ent : Nat)
  deriving DecidableEq

structure SchedState (F : Type) where
  sched : ZbSchedGlobals F
  timer : ZbTime
  loopAt : LoopAt

/-- After `zb_sched_init`, with any time on the timer. -/
def SchedState.start (null : F) (timer : ZbTime) : SchedState F :=
  ⟨zbSchedInit (.zero null), timer, .callbacks⟩

/-- Go on from the callback queue to the timer queue. -/
def toAlarms (s : SchedState F) : SchedState F :=
  { s with loopAt := if s.sched.tmQueue ≠ none then .alarms s.timer else .callbacks }

/-- The next stretch of the loop; `brk` is what the check for a pending radio
interrupt, with room for a packet, comes out as. -/
def schedLoop (brk : Bool) (s : SchedState F) : SchedState F :=
  match s.loopAt with
  | .callbacks =>
      match s.sched.cbQ.peek with
      | some _ => if brk then toAlarms s else { s with loopAt := .calling }
      | none => toAlarms s
  | .calling =>
      { s with sched := { s.sched with cbQ := s.sched.cbQ.flushGet }, loopAt := .callbacks }
  | .alarms t =>
      match s.sched.tmQueue with
      | some ent =>
          if zbTimeGe t (s.sched.tmBuffer ent).runTime then
            if brk then { s with loopAt := .callbacks }
            else
              let (links, queue) := zbListCutHead s.sched.tmLinks s.sched.tmQueue
              { s with
                sched := { s.sched with tmLinks := links, tmQueue := queue }
                loopAt := .firing t ent }
          else { s with loopAt := .callbacks }
      | none => { s with loopAt := .callbacks }
  | .firing t ent => { s with sched := freeTmEnt ent s.sched, loopAt := .alarms t }

/-! ## Histories -/

inductive SchedCall (F : Type) where
  | callback (func : F) (param : UInt8)
  | alarm (func : F) (param : UInt8) (runAfter : ZbTime)
  | cancel (func : F) (param : UInt8)
  | tick (ticks : Nat)
  | loop (brk : Bool)

def schedStep (s : SchedState F) : SchedCall F → Option (SchedState F)
  | .callback func param =>
      (zbScheduleCallback func param s.sched.cbQ).map fun (cbQ, _) =>
        { s with sched := { s.sched with cbQ } }
  | .alarm func param runAfter =>
      (zbScheduleAlarm func param runAfter s.timer s.sched).map fun (sched, _) => { s with sched }
  | .cancel func param =>
      (zbScheduleAlarmCancel func param s.sched).map fun (sched, _) => { s with sched }
  | .tick ticks => some { s with timer := s.timer + UInt16.ofNat ticks }
  | .loop brk => some (schedLoop brk s)

end Zboss.Common.Scheduler
