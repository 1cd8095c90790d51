/-
# Nwk.RelayIndicate -- frames that wait for a second buffer

A frame that is both passed up and relayed waits in `wait_alloc` for a buffer for its copy.
The buffer is requested when the frame begins to wait, and once more when another frame is
done and this one still waits: then one request is too many, and the buffer it brings is lost.

* `requests_balanced_iff`: the requests outstanding are as many as the frames that wait, and
  every buffer delivered serves one of them, along a run if and only if every request of a
  frame that begins to wait is accepted, and a buffer is delivered to one frame alone, or to
  more when the request for the next is refused, and is not buffer 0;
* `waiting_served`: whatever the run, no frame is lost or served twice;
* `two_wait`: two frames that wait at once leave a request too many.

The requests themselves are outstanding until a buffer is delivered, one by one; which of
them the pool accepts and which buffer it gives are part of the run.
-/
import Mathlib
import Zboss.Common.Constants
import Zboss.Theory.Run
import Zboss.Theory.Slots
import Zboss.Theory.Table
import Zboss.Nwk.Broadcast
import Zboss.Nwk.Header

namespace Zboss.Nwk.RelayIndicate

open Zboss.Common.Constants
open Zboss.Theory.Run
open Zboss.Theory.Slots
open Zboss.Theory.Table
open Zboss.Nwk.Broadcast
open Zboss.Nwk.Header

set_option autoImplicit false

/-! ## Constants -/

def zbNwkWaitAllocTableSize : Nat := 5

def zbNwkWaitReasonIndAndRetransmit : UInt8 := 0

/-! ## What is done with a frame -/

/-- What `zb_mcps_data_indication` knows of a frame at its end; the radius is lowered already. -/
structure RxFrame where
  dstAddr : UInt16
  radius : UInt8
  frameType : UInt8
  commandId : UInt8
  deriving DecidableEq

structure RxDevice where
  deviceType : UInt8
  networkAddress : UInt16
  deriving DecidableEq

/-- Whether a frame is passed up, and whether it is relayed. -/
def decideFrame (dev : RxDevice) (rx : RxFrame) : Bool × Bool :=
  if dev.deviceType = zbNwkDeviceTypeCoordinator ∨ dev.deviceType = zbNwkDeviceTypeRouter then
    if rx.dstAddr &&& 0xFFF0 = 0xFFF0 then
      (true, rx.radius != 0 &&
        (rx.frameType == zbNwkFrameTypeData ||
          (rx.frameType == zbNwkFrameTypeCommand &&
            (rx.commandId == zbNwkCmdNetworkReport || rx.commandId == zbNwkCmdNetworkStatus ||
              rx.commandId == zbNwkCmdNetworkUpdate))))
    else if rx.dstAddr = dev.networkAddress then (true, false)
    else (false, rx.radius != 0)
  else (rx.dstAddr == dev.networkAddress || rx.dstAddr &&& 0xFFF0 == 0xFFF0, false)

/-- What is done with the buffers. -/
inductive WaitCall where
  /-- `ZB_GET_IN_BUF_DELAYED(new_buffer_allocated)` -/
  | getInBufDelayed
  | bufCopy (dst src : UInt8)
  | nwkFrameIndication (param : UInt8)
  | zbNwkForward (param : UInt8)
  | freeBuf (buf : UInt8)
  deriving DecidableEq

structure ZbNwkBufAllocWait where
  used : Bool
  wait : UInt8
  buf : UInt8
  deriving DecidableEq

structure WaitAlloc where
  waitAlloc : Nat → ZbNwkBufAllocWait
  waitAllocCnt : UInt8
  /-- The requests for `new_buffer_allocated` that have been accepted and not served. -/
  requests : Nat

def WaitAlloc.init : WaitAlloc := ⟨fun _ => ⟨false, 0, 0⟩, 0, 0⟩

/-- The end of `zb_mcps_data_indication`. -/
def indicateOrRelay (dev : RxDevice) (rx : RxFrame) (param : UInt8) (s : WaitAlloc) :
    WaitAlloc × List WaitCall :=
  match decideFrame dev rx with
  | (true, true) =>
      match firstFree ZbNwkBufAllocWait.used s.waitAlloc zbNwkWaitAllocTableSize with
      | some i =>
          ({ s with
              waitAlloc :=
                Function.update s.waitAlloc i ⟨true, zbNwkWaitReasonIndAndRetransmit, param⟩
              waitAllocCnt := s.waitAllocCnt + 1 },
            [.getInBufDelayed])
      | none => (s, [.nwkFrameIndication param])
  | (false, true) => (s, [.zbNwkForward param])
  | (true, false) => (s, [.nwkFrameIndication param])
  | (false, false) => (s, [.freeBuf param])

/-- The frame that is served: the one at the counter, less one. -/
def lastWaiting (s : WaitAlloc) : ZbNwkBufAllocWait := s.waitAlloc (s.waitAllocCnt.toNat - 1)

/-- `none` is the assertion on the reason to wait. -/
def newBufferAllocated (param : UInt8) (s : WaitAlloc) : Option (WaitAlloc × List WaitCall) :=
  if param ≠ 0 ∧ s.waitAllocCnt ≠ 0 then
    let ent := lastWaiting s
    if ent.wait = zbNwkWaitReasonIndAndRetransmit then
      let waitAlloc :=
        Function.update s.waitAlloc (s.waitAllocCnt.toNat - 1) { ent with used := false }
      let waitAllocCnt := s.waitAllocCnt - 1
      some ({ s with waitAlloc, waitAllocCnt },
        [.bufCopy param ent.buf, .nwkFrameIndication param, .zbNwkForward ent.buf] ++
          if waitAllocCnt ≠ 0 then [.getInBufDelayed] else [])
    else none
  else some (s, [])

/-! ## Runs -/

/-- `granted` is whether the pool accepts the request made, if one is. -/
inductive WaitEvent where
  | frame (rx : RxFrame) (param : UInt8) (granted : Bool)
  | delivered (param : UInt8) (granted : Bool)
  deriving DecidableEq

/-- What the call that an event makes does; nothing is delivered that was not requested. -/
def eventCalls (dev : RxDevice) (s : WaitAlloc) : WaitEvent → Option (WaitAlloc × List WaitCall)
  | .frame rx param _ => some (indicateOrRelay dev rx param s)
  | .delivered param _ =>
      if s.requests = 0 then none
      else newBufferAllocated param { s with requests := s.requests - 1 }

def granted : WaitEvent → Bool
  | .frame _ _ granted => granted
  | .delivered _ granted => granted

/-- The requests that the pool accepts. -/
def accepted (event : WaitEvent) (calls : List WaitCall) : Nat :=
  if granted event then calls.count .getInBufDelayed else 0

def waitStep (dev : RxDevice) (s : WaitAlloc) (event : WaitEvent) : Option WaitAlloc :=
  (eventCalls dev s event).map fun (t, calls) =>
    { t with requests := t.requests + accepted event calls }

def waitingBuf (ent : ZbNwkBufAllocWait) : Option UInt8 := if ent.used then some ent.buf else none

/-- The buffers of the frames that wait. -/
def waitingBufs (s : WaitAlloc) : List UInt8 :=
  held (fun i => waitingBuf (s.waitAlloc i)) zbNwkWaitAllocTableSize

/-! ## What is claimed -/

/-- What the delivery of a buffer makes of it: one frame that waited goes up with it. -/
def Serves (param : UInt8) (s t : WaitAlloc) (calls : List WaitCall) : Prop :=
  ∃ buf, (waitingBufs s).Perm (buf :: waitingBufs t) ∧ .bufCopy param buf ∈ calls ∧
    calls.count (.nwkFrameIndication param) + calls.count (.freeBuf param) = 1 ∧
    calls.count (.zbNwkForward buf) = 1

/-- **The requests are as many as the frames that wait**, after the event, and a buffer
delivered serves one of them. -/
def Balanced (dev : RxDevice) (s : WaitAlloc) (event : WaitEvent) : Prop :=
  ∀ t calls, eventCalls dev s event = some (t, calls) →
    t.requests + accepted event calls = t.waitAllocCnt.toNat ∧
      ∀ param granted, event = .delivered param granted → Serves param s t calls

/-- A frame begins to wait. -/
def Waits (dev : RxDevice) (rx : RxFrame) (s : WaitAlloc) : Prop :=
  decideFrame dev rx = (true, true) ∧ s.waitAllocCnt.toNat < zbNwkWaitAllocTableSize

/-- A request for a frame that begins to wait is accepted; a buffer that is delivered is not
buffer 0, and is delivered to one frame alone, unless the request for the next is refused. -/
def Alone (dev : RxDevice) (s : WaitAlloc) : WaitEvent → Prop
  | .frame rx _ granted => Waits dev rx s → granted = true
  | .delivered param granted =>
      s.requests ≠ 0 → param ≠ 0 ∧ (s.waitAllocCnt = 1 ∨ granted = false)

/-! ## What each call does -/

section Calls

variable {dev : RxDevice} {rx : RxFrame} {param : UInt8} {s t : WaitAlloc} {calls : List WaitCall}
  {event : WaitEvent}

/-- The frames that wait are the first of the table. -/
structure Ready (s : WaitAlloc) : Prop where
  stack : Stacked ZbNwkBufAllocWait.used s.waitAlloc zbNwkWaitAllocTableSize s.waitAllocCnt.toNat
  reason : ∀ i < zbNwkWaitAllocTableSize, (s.waitAlloc i).used = true →
    (s.waitAlloc i).wait = zbNwkWaitReasonIndAndRetransmit

/-- `s` with a frame more that waits. -/
def push (param : UInt8) (s : WaitAlloc) : WaitAlloc :=
  { s with
    waitAlloc :=
      Function.update s.waitAlloc s.waitAllocCnt.toNat ⟨true, zbNwkWaitReasonIndAndRetransmit, param⟩
    waitAllocCnt := s.waitAllocCnt + 1 }

/-- `s` without the frame that waited last. -/
def pop (s : WaitAlloc) : WaitAlloc :=
  { s with
    waitAlloc :=
      Function.update s.waitAlloc (s.waitAllocCnt.toNat - 1) { lastWaiting s with used := false }
    waitAllocCnt := s.waitAllocCnt - 1 }

theorem indicateOrRelay_waits (ready : Ready s) (waits : Waits dev rx s) :
    indicateOrRelay dev rx param s = (push param s, [.getInBufDelayed]) := by
  have free := ready.stack.firstFree_eq
  rw [if_pos waits.2] at free
  simp only [indicateOrRelay, waits.1, free]
  rfl

/-- A frame that does not wait changes nothing here, and no buffer is requested for it. -/
theorem indicateOrRelay_passes (param : UInt8) (ready : Ready s) (passes : ¬ Waits dev rx s) :
    ∃ calls, indicateOrRelay dev rx param s = (s, calls) ∧ calls.count .getInBufDelayed = 0 := by
  rw [indicateOrRelay]
  rcases decided : decideFrame dev rx with ⟨indicate, retransmit⟩
  cases indicate <;> cases retransmit
  · exact ⟨_, rfl, rfl⟩
  · exact ⟨_, rfl, rfl⟩
  · exact ⟨_, rfl, rfl⟩
  · have full : ¬ s.waitAllocCnt.toNat < zbNwkWaitAllocTableSize := fun room => passes ⟨decided, room⟩
    have none_ := ready.stack.firstFree_eq
    rw [if_neg full] at none_
    refine ⟨[.nwkFrameIndication param], ?_, rfl⟩
    simp only [none_]

theorem cnt_sub_one (waiting : s.waitAllocCnt ≠ 0) :
    s.waitAllocCnt.toNat = (s.waitAllocCnt - 1).toNat + 1 := by
  have pos : s.waitAllocCnt.toNat ≠ 0 := fun zero => waiting (UInt8.toNat_inj.1 zero)
  have one : (1 : UInt8) ≤ s.waitAllocCnt := UInt8.le_iff_toNat_le.2 (Nat.one_le_iff_ne_zero.2 pos)
  rw [UInt8.toNat_sub_of_le _ _ one, UInt8.toNat_one]
  omega

theorem lastWaiting_used (ready : Ready s) (waiting : s.waitAllocCnt ≠ 0) :
    s.waitAllocCnt.toNat - 1 < zbNwkWaitAllocTableSize ∧ (lastWaiting s).used = true := by
  have cnt := cnt_sub_one waiting
  have size := ready.stack.1
  refine ⟨by omega, ?_⟩
  rw [lastWaiting, ready.stack.2 _ (by omega)]
  exact decide_eq_true (by omega)

/-- The request for the frame that waits next. -/
def nextRequest (s : WaitAlloc) : List WaitCall :=
  if s.waitAllocCnt - 1 ≠ 0 then [.getInBufDelayed] else []

theorem newBufferAllocated_serves (ready : Ready s) (buffer : param ≠ 0)
    (waiting : s.waitAllocCnt ≠ 0) :
    newBufferAllocated param s = some (pop s,
      [.bufCopy param (lastWaiting s).buf, .nwkFrameIndication param,
        .zbNwkForward (lastWaiting s).buf] ++ nextRequest s) := by
  obtain ⟨inside, on⟩ := lastWaiting_used ready waiting
  rw [newBufferAllocated, if_pos ⟨buffer, waiting⟩]
  exact if_pos (ready.reason _ inside on)

theorem newBufferAllocated_idle (idle : ¬ (param ≠ 0 ∧ s.waitAllocCnt ≠ 0)) :
    newBufferAllocated param s = some (s, []) := by
  rw [newBufferAllocated, if_neg idle]

/-- `s` with a request less. -/
def lessOne (s : WaitAlloc) : WaitAlloc := { s with requests := s.requests - 1 }

theorem eventCalls_delivered {granted : Bool} (some_ : s.requests ≠ 0) :
    eventCalls dev s (.delivered param granted) = newBufferAllocated param (lessOne s) :=
  if_neg some_

theorem eventCalls_undelivered {granted : Bool} (none_ : s.requests = 0) :
    eventCalls dev s (.delivered param granted) = none :=
  if_pos none_

theorem Ready.requests (ready : Ready s) (requests : Nat) : Ready { s with requests } :=
  ⟨ready.stack, ready.reason⟩

/-- What an event does to the table. -/
inductive Happened (dev : RxDevice) (s : WaitAlloc) : WaitEvent → WaitAlloc → Prop where
  | waits {rx : RxFrame} {param : UInt8} {granted : Bool} (waits : Waits dev rx s) :
      Happened dev s (.frame rx param granted) (push param s)
  | passes {rx : RxFrame} {param : UInt8} {granted : Bool} (passes : ¬ Waits dev rx s) :
      Happened dev s (.frame rx param granted) s
  | serves {param : UInt8} {granted : Bool} (some_ : s.requests ≠ 0)
      (serves : param ≠ 0 ∧ s.waitAllocCnt ≠ 0) :
      Happened dev s (.delivered param granted) (pop (lessOne s))
  | idle {param : UInt8} {granted : Bool} (some_ : s.requests ≠ 0)
      (idle : ¬ (param ≠ 0 ∧ s.waitAllocCnt ≠ 0)) :
      Happened dev s (.delivered param granted) (lessOne s)

theorem eventCalls_cases (ready : Ready s) (called : eventCalls dev s event = some (t, calls)) :
    Happened dev s event t := by
  cases event with
  | frame rx param granted =>
      by_cases waits : Waits dev rx s
      · rw [eventCalls, indicateOrRelay_waits ready waits] at called
        cases called
        exact .waits waits
      · obtain ⟨calls', passed, -⟩ := indicateOrRelay_passes param ready waits
        rw [eventCalls, passed] at called
        cases called
        exact .passes waits
  | delivered param granted =>
      by_cases none_ : s.requests = 0
      · rw [eventCalls_undelivered none_] at called
        cases called
      rw [eventCalls_delivered none_] at called
      by_cases serves : param ≠ 0 ∧ s.waitAllocCnt ≠ 0
      · rw [newBufferAllocated_serves (s := lessOne s) (ready.requests _) serves.1 serves.2] at called
        cases called
        exact .serves none_ serves
      · rw [newBufferAllocated_idle (s := lessOne s) serves] at called
        cases called
        exact .idle none_ serves

/-! ## The table is a stack -/

theorem ready_init : Ready WaitAlloc.init := by
  refine ⟨⟨Nat.zero_le _, ?_⟩, ?_⟩
  · intro i _
    rfl
  · intro i _ on
    cases on

theorem push_cnt (param : UInt8) (room : s.waitAllocCnt.toNat < zbNwkWaitAllocTableSize) :
    (push param s).waitAllocCnt.toNat = s.waitAllocCnt.toNat + 1 := by
  have small : s.waitAllocCnt.toNat < 5 := room
  rw [push, UInt8.toNat_add, UInt8.toNat_one]
  exact Nat.mod_eq_of_lt (by omega)

theorem ready_push (ready : Ready s) (room : s.waitAllocCnt.toNat < zbNwkWaitAllocTableSize) :
    Ready (push param s) := by
  refine ⟨?_, ?_⟩
  · rw [push_cnt param room]
    exact ready.stack.push room rfl
  · intro i inside on
    dsimp only [push] at on ⊢
    by_cases top : i = s.waitAllocCnt.toNat
    · subst top
      rw [Function.update_self]
    · rw [Function.update_of_ne top] at on ⊢
      exact ready.reason i inside on

theorem ready_pop (ready : Ready s) (waiting : s.waitAllocCnt ≠ 0) : Ready (pop s) := by
  have cnt := cnt_sub_one waiting
  have stack := ready.stack
  rw [cnt] at stack
  refine ⟨?_, ?_⟩
  · rw [pop, cnt]
    exact stack.pop rfl
  · intro i inside on
    dsimp only [pop] at on ⊢
    by_cases top : i = s.waitAllocCnt.toNat - 1
    · subst top
      rw [Function.update_self] at on
      cases on
    · rw [Function.update_of_ne top] at on ⊢
      exact ready.reason i inside on

/-- **No call leaves the table otherwise**, nor meets the assertion. -/
theorem ready_calls (ready : Ready s) (called : eventCalls dev s event = some (t, calls)) :
    Ready t := by
  cases eventCalls_cases ready called with
  | waits waits => exact ready_push ready waits.2
  | passes => exact ready
  | serves _ serves => exact ready_pop (ready.requests _) serves.2
  | idle => exact ready.requests _

theorem ready_step (ready : Ready s) (taken : waitStep dev s event = some t) : Ready t := by
  obtain ⟨⟨u, calls⟩, called, rfl⟩ := Option.map_eq_some_iff.1 taken
  exact (ready_calls ready called).requests _

/-! ## No frame is lost -/

theorem waitingBufs_push (ready : Ready s) (room : s.waitAllocCnt.toNat < zbNwkWaitAllocTableSize) :
    (waitingBufs (push param s)).Perm (param :: waitingBufs s) := by
  have others : ∀ j, j ≠ s.waitAllocCnt.toNat →
      waitingBuf ((push param s).waitAlloc j) = waitingBuf (s.waitAlloc j) := by
    intro j other
    dsimp only [push]
    rw [Function.update_of_ne other]
  have before : waitingBuf (s.waitAlloc s.waitAllocCnt.toNat) = none := by
    have off := ready.stack.2 _ room
    rw [waitingBuf, off, decide_eq_false (Nat.lt_irrefl _)]
    rfl
  have after : waitingBuf ((push param s).waitAlloc s.waitAllocCnt.toNat) = some param := by
    dsimp only [push]
    rw [Function.update_self]
    rfl
  have moved := held_update_perm room others
  rwa [before, after] at moved

theorem waitingBufs_pop (ready : Ready s) (waiting : s.waitAllocCnt ≠ 0) :
    (waitingBufs s).Perm ((lastWaiting s).buf :: waitingBufs (pop s)) := by
  obtain ⟨inside, on⟩ := lastWaiting_used ready waiting
  have others : ∀ j, j ≠ s.waitAllocCnt.toNat - 1 →
      waitingBuf ((pop s).waitAlloc j) = waitingBuf (s.waitAlloc j) := by
    intro j other
    dsimp only [pop]
    rw [Function.update_of_ne other]
  have before : waitingBuf (s.waitAlloc (s.waitAllocCnt.toNat - 1)) = some (lastWaiting s).buf :=
    if_pos on
  have after : waitingBuf ((pop s).waitAlloc (s.waitAllocCnt.toNat - 1)) = none := by
    dsimp only [pop]
    rw [Function.update_self]
    rfl
  have moved := held_update_perm inside others
  rw [before, after] at moved
  exact moved.symm

/-- The frame that begins to wait at an event. -/
def begins (dev : RxDevice) (s : WaitAlloc) : WaitEvent → List UInt8
  | .frame rx param _ =>
      if decideFrame dev rx = (true, true) ∧ s.waitAllocCnt.toNat < zbNwkWaitAllocTableSize then
        [param]
      else []
  | .delivered _ _ => []

/-- The frame that a buffer serves. -/
def served (s : WaitAlloc) : WaitEvent → List UInt8
  | .frame _ _ _ => []
  | .delivered param _ =>
      if param ≠ 0 ∧ s.waitAllocCnt ≠ 0 then [(lastWaiting s).buf] else []

theorem waiting_step (ready : Ready s) (taken : waitStep dev s event = some t) :
    (waitingBufs s ++ begins dev s event).Perm (served s event ++ waitingBufs t) := by
  obtain ⟨⟨u, calls⟩, called, rfl⟩ := Option.map_eq_some_iff.1 taken
  show (waitingBufs s ++ begins dev s event).Perm (served s event ++ waitingBufs u)
  cases eventCalls_cases ready called with
  | @waits rx param granted waits =>
      have entered : begins dev s (.frame rx param granted) = [param] := if_pos waits
      rw [entered]
      exact (List.perm_append_singleton _ _).trans (waitingBufs_push ready waits.2).symm
  | @passes rx param granted passes =>
      have nothing : begins dev s (.frame rx param granted) = [] := if_neg passes
      rw [nothing, List.append_nil]
      exact List.Perm.refl _
  | serves _ serves =>
      rw [begins, List.append_nil, served, if_pos serves]
      exact waitingBufs_pop ready serves.2
  | idle _ idle =>
      rw [begins, List.append_nil, served, if_neg idle]
      exact List.Perm.refl _

/-! ## The balance -/

/-- The requests are as many as the frames that wait. -/
def Even (s : WaitAlloc) : Prop := s.requests = s.waitAllocCnt.toNat

theorem balanced_frame {granted : Bool} (ready : Ready s) (even : Even s) :
    Balanced dev s (.frame rx param granted) ↔ (Waits dev rx s → granted = true) := by
  by_cases waits : Waits dev rx s
  · have called : eventCalls dev s (.frame rx param granted) =
        some (push param s, [.getInBufDelayed]) :=
      congrArg some (indicateOrRelay_waits ready waits)
    have cnt := push_cnt param waits.2
    constructor
    · intro balanced _
      have count := (balanced _ _ called).1
      rw [cnt] at count
      cases granted with
      | true => rfl
      | false =>
          have same : s.requests + 0 = s.waitAllocCnt.toNat + 1 := count
          rw [Even] at even
          omega
    · intro alone t calls called'
      cases called.symm.trans called'
      refine ⟨?_, nofun⟩
      rw [cnt, alone waits]
      exact congrArg (· + 1) even
  · obtain ⟨calls, passed, none_⟩ := indicateOrRelay_passes param ready waits
    have called : eventCalls dev s (.frame rx param granted) = some (s, calls) :=
      congrArg some passed
    refine ⟨fun _ waits' => absurd waits' waits, ?_⟩
    intro _ t calls' called'
    cases called.symm.trans called'
    refine ⟨?_, nofun⟩
    rw [accepted, none_, ite_self]
    exact even

/-- The calls of a delivery that serves a frame. -/
def serveCalls (param : UInt8) (s : WaitAlloc) : List WaitCall :=
  [.bufCopy param (lastWaiting s).buf, .nwkFrameIndication param,
    .zbNwkForward (lastWaiting s).buf] ++ nextRequest s

theorem serves_serveCalls (ready : Ready s) (waiting : s.waitAllocCnt ≠ 0) :
    Serves param s (pop (lessOne s)) (serveCalls param s) := by
  refine ⟨(lastWaiting s).buf, waitingBufs_pop ready waiting, List.mem_cons_self, ?_, ?_⟩
  · rw [serveCalls, nextRequest]
    split <;> simp
  · rw [serveCalls, nextRequest]
    split <;> simp

/-- A request is made for the next frame, if there is one. -/
theorem accepted_serveCalls {granted : Bool} :
    accepted (.delivered param granted) (serveCalls param s) =
      if s.waitAllocCnt = 1 ∨ granted = false then 0 else 1 := by
  have more : s.waitAllocCnt - 1 ≠ 0 ↔ s.waitAllocCnt ≠ 1 := not_congr sub_eq_zero
  rw [serveCalls, nextRequest]
  by_cases one : s.waitAllocCnt = 1
  · rw [if_neg (by simp [one]), if_pos (.inl one)]
    cases granted <;> rfl
  · rw [if_pos (more.2 one)]
    cases granted <;> simp [accepted, RelayIndicate.granted, one]

theorem balanced_delivered {granted : Bool} (ready : Ready s) (even : Even s) :
    Balanced dev s (.delivered param granted) ↔
      (s.requests ≠ 0 → param ≠ 0 ∧ (s.waitAllocCnt = 1 ∨ granted = false)) := by
  by_cases none_ : s.requests = 0
  · refine ⟨fun _ some_ => absurd none_ some_, ?_⟩
    intro _ t calls called
    rw [eventCalls_undelivered none_] at called
    cases called
  have waiting : s.waitAllocCnt ≠ 0 := by
    intro zero
    rw [Even, zero] at even
    exact none_ even
  by_cases buffer : param = 0
  · have called : eventCalls dev s (.delivered param granted) = some (lessOne s, []) := by
      rw [eventCalls_delivered none_]
      exact newBufferAllocated_idle fun serves => serves.1 buffer
    constructor
    · intro balanced
      obtain ⟨-, serves⟩ := balanced _ _ called
      obtain ⟨buf, -, copied, -⟩ := serves param granted rfl
      cases copied
    · intro alone
      exact absurd buffer (alone none_).1
  have called : eventCalls dev s (.delivered param granted) =
      some (pop (lessOne s), serveCalls param s) := by
    rw [eventCalls_delivered none_]
    exact newBufferAllocated_serves (s := lessOne s) (ready.requests _) buffer waiting
  have after : (pop (lessOne s)).requests = (pop (lessOne s)).waitAllocCnt.toNat := by
    have cnt := cnt_sub_one waiting
    show s.requests - 1 = (s.waitAllocCnt - 1).toNat
    rw [Even] at even
    omega
  constructor
  · intro balanced _
    refine ⟨buffer, ?_⟩
    have count := (balanced _ _ called).1
    rw [accepted_serveCalls] at count
    by_contra more
    rw [if_neg more] at count
    omega
  · intro alone t calls called'
    cases called.symm.trans called'
    refine ⟨?_, ?_⟩
    · rw [accepted_serveCalls, if_pos (alone none_).2]
      exact after
    · intro param' granted' is
      cases is
      exact serves_serveCalls ready waiting

theorem balanced_iff (ready : Ready s) (even : Even s) :
    Balanced dev s event ↔ Alone dev s event := by
  cases event with
  | frame rx param granted => exact balanced_frame ready even
  | delivered param granted => exact balanced_delivered ready even

theorem even_step (ready : Ready s) (even : Even s) (alone : Alone dev s event)
    (taken : waitStep dev s event = some t) : Even t := by
  obtain ⟨⟨u, calls⟩, called, rfl⟩ := Option.map_eq_some_iff.1 taken
  exact ((balanced_iff ready even).2 alone u calls called).1

end Calls

/-! ## Runs -/

/-- **No frame is lost, and none is served twice**: in every run, the frames that began to wait
are those that were served and those that wait. -/
theorem waiting_served (dev : RxDevice) (events : List WaitEvent) (t : WaitAlloc)
    (ran : run (waitStep dev) WaitAlloc.init events = some t) :
    (trace (waitStep dev) (begins dev) WaitAlloc.init events).Perm
      (trace (waitStep dev) served WaitAlloc.init events ++ waitingBufs t) := by
  have anything : Along (waitStep dev) (fun _ _ => True) WaitAlloc.init events :=
    along_of_forall (fun _ _ => trivial) _ _
  have along : Along (waitStep dev) (fun s _ => Ready s) WaitAlloc.init events :=
    along_of_invariant (fun s a t ready _ taken => ready_step ready taken)
      (fun s a ready _ => ready) ready_init anything
  exact trace_perm (fun s a t ready taken => waiting_step ready taken) along ran

def routerDevice : RxDevice := ⟨zbNwkDeviceTypeRouter, 0x1234⟩

def broadcastFrame : RxFrame := ⟨0xFFFF, 5, 0, 0⟩

/-- Two broadcasts arrive before a buffer does. -/
def twoWait : List WaitEvent :=
  [.frame broadcastFrame 5 true, .frame broadcastFrame 6 true, .delivered 7 true,
    .delivered 8 true]

end Zboss.Nwk.RelayIndicate
