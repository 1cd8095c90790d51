/-
# Aps.GroupUp -- group packets go up, one endpoint at a time

A packet to a group, received or of the device itself, is copied up once for each endpoint
of the group.  `zb_aps_pass_group_msg_up` makes one copy, into a buffer it has waited for,
and asks for the next; the packet it is at is `active_pass_up_buf`, with its place in the
group in the handle, and those behind it wait in `pass_up_q`.

A buffer is its reference and what is in it: nobody else writes to one that is held.  What
the scheduler and the pool have room for is set by the rest of the program (`Call.others`),
callbacks run in any order, and a waiting request gets its buffer when the environment says,
so also just before the call that frees one.  A request that is refused is lost: no caller
looks at the result.
-/
import Mathlib
import Zboss.Theory.Run
import Zboss.Common.RingBuffer
import Zboss.Aps.ApsFrame
import Zboss.Aps.GroupTable

namespace Zboss.Aps.GroupUp

open Zboss.Common.RingBuffer
open Zboss.Theory.Run
open Zboss.Aps.ApsFrame
open Zboss.Aps.GroupTable

set_option autoImplicit false

/-! ## Buffers, and the work that waits -/

/-- A buffer with an APS frame, and its parsed header in the tail. -/
structure GroupBuf where
  ref : UInt8
  hdr : ZbApsHdr
  data : List UInt8
  handle : UInt8
  deriving DecidableEq

/-- The callbacks that wait for a buffer. -/
inductive Func where
  | passLocalGroupPktUp
  | passGroupMsgUp
  deriving DecidableEq

/-- A callback in the queue. -/
inductive Job where
  | passLocalGroupPktUp (param : UInt8)
  | passUpGroupBuf (buf : GroupBuf)
  | passGroupMsgUp (param : UInt8)
  | apsdeDataIndication (buf : GroupBuf)
  | nldeDataRequest (ref : UInt8)
  deriving DecidableEq

def Func.job : Func → UInt8 → Job
  | .passLocalGroupPktUp => .passLocalGroupPktUp
  | .passGroupMsgUp => .passGroupMsgUp

def Job.func : Job → Option Func
  | .passLocalGroupPktUp _ => some .passLocalGroupPktUp
  | .passGroupMsgUp _ => some .passGroupMsgUp
  | _ => none

/-- What the rest of the program leaves: places in the callback queue, an IN buffer that is
free, and spare entries for those who wait for one. -/
structure Room where
  cbQ : Nat
  inBuf : Option UInt8
  delayedEnts : Nat

def zbApsGroupUpQSize : Nat := 8

structure GroupState where
  groups : List ZbApsGroupTableEnt
  passUpQ : ZbRingBuffer GroupBuf zbApsGroupUpQSize
  localDupQ : ZbRingBuffer GroupBuf zbApsGroupUpQSize
  activePassUpBuf : Option GroupBuf
  cbQ : List Job
  inbufQueue : List Func
  room : Room
  /-- What has been passed up of the active packet; no step reads it. -/
  passed : List (ZbApsHdr × List UInt8)

def emptyBuf : GroupBuf := ⟨0, ⟨0, 0, 0, 0, 0, 0, 0, 0, 0⟩, [], 0⟩

def GroupState.init : GroupState where
  groups := []
  passUpQ := .init fun _ => emptyBuf
  localDupQ := .init fun _ => emptyBuf
  activePassUpBuf := none
  cbQ := []
  inbufQueue := []
  room := ⟨0, none, 0⟩
  passed := []

/-- `ZB_SCHEDULE_CALLBACK`; the error code is not looked at. -/
def scheduleCallback (job : Job) (s : GroupState) : GroupState :=
  if 0 < s.room.cbQ then { s with cbQ := s.cbQ ++ [job], room := { s.room with cbQ := s.room.cbQ - 1 } }
  else s

/-- `zb_get_in_buf_delayed`; neither is that of it. -/
def zbGetInBufDelayed (func : Func) (s : GroupState) : GroupState :=
  match s.room.inBuf with
  | some param => scheduleCallback (func.job param) { s with room := { s.room with inBuf := none } }
  | none =>
      if 0 < s.room.delayedEnts then
        { s with
          inbufQueue := s.inbufQueue ++ [func]
          room := { s.room with delayedEnts := s.room.delayedEnts - 1 } }
      else s

/-! ## The work -/

/-- The group branch of `zb_apsde_data_request`. -/
def groupDataRequest (buf : GroupBuf) (s : GroupState) : GroupState :=
  if 0 < s.groups.length ∧ s.localDupQ.isFull = false ∧ s.passUpQ.isFull = false then
    zbGetInBufDelayed .passLocalGroupPktUp { s with localDupQ := s.localDupQ.put buf }
  else scheduleCallback (.nldeDataRequest buf.ref) s

/-- The packet goes to NWK and a copy of it, from the device to itself, goes up. -/
def zbApsPassLocalGroupPktUp (nibNetworkAddress : UInt16) (param : UInt8) (s : GroupState) :
    Option GroupState :=
  if s.localDupQ.isEmpty then none
  else
    let out := s.localDupQ.get
    let s := scheduleCallback (.nldeDataRequest out.ref) { s with localDupQ := s.localDupQ.flushGet }
    let hdr := (zbApsHdrParse out.hdr 0 0 out.data).1
    some (scheduleCallback
      (.passUpGroupBuf { out with ref := param, hdr := { hdr with srcAddr := nibNetworkAddress } }) s)

def zbApsPassUpGroupBuf (buf : GroupBuf) (s : GroupState) : GroupState :=
  if s.passUpQ.isFull then s
  else
    let buf := { buf with handle := 0 }
    match s.activePassUpBuf with
    | none => zbGetInBufDelayed .passGroupMsgUp { s with activePassUpBuf := some buf, passed := [] }
    | some _ => { s with passUpQ := s.passUpQ.put buf }

/-- The endpoint the packet is at, if it is not done with its group. -/
def nextEndpoint (groups : List ZbApsGroupTableEnt) (buf : GroupBuf) : Option UInt8 :=
  (endpointsOf groups buf.hdr.groupAddr)[buf.handle.toNat]?

/-- The copy of a packet for an endpoint. -/
def copyFor (buf : GroupBuf) (endpoint : UInt8) : ZbApsHdr × List UInt8 :=
  ({ buf.hdr with dstEndpoint := endpoint }, buf.data)

def zbApsPassGroupMsgUp (param : UInt8) (s : GroupState) : Option GroupState :=
  match s.activePassUpBuf with
  | none => none
  | some active =>
      match nextEndpoint s.groups active with
      | none =>
          -- done with this buffer
          if s.passUpQ.isEmpty then some { s with activePassUpBuf := none, passed := [] }
          else
            some (scheduleCallback (.passGroupMsgUp param)
              { s with
                activePassUpBuf := some s.passUpQ.get
                passUpQ := s.passUpQ.flushGet
                passed := [] })
      | some endpoint =>
          let copy := copyFor active endpoint
          let s := { s with
            activePassUpBuf := some { active with handle := active.handle + 1 }
            passed := if 0 < s.room.cbQ then s.passed ++ [copy] else s.passed }
          some (zbGetInBufDelayed .passGroupMsgUp
            (scheduleCallback (.apsdeDataIndication ⟨param, copy.1, copy.2, 0⟩) s))

inductive Call where
  /-- The rest of the program schedules, runs, allocates and frees. -/
  | others (room : Room)
  | addGroup (req : ZbApsmeAddGroupReq)
  | dataRequest (buf : GroupBuf)
  /-- A group packet has been received. -/
  | dataIndication (buf : GroupBuf)
  /-- A buffer goes to the first of this work that waits for one. -/
  | bufFreed (param : UInt8)
  | run (i : Nat)

section Machine

variable (nibNetworkAddress : UInt16)

def runJob (job : Job) (s : GroupState) : Option GroupState :=
  match job with
  | .passLocalGroupPktUp param => zbApsPassLocalGroupPktUp nibNetworkAddress param s
  | .passUpGroupBuf buf => some (zbApsPassUpGroupBuf buf s)
  | .passGroupMsgUp param => zbApsPassGroupMsgUp param s
  | .apsdeDataIndication _ | .nldeDataRequest _ => some s

def groupStep (s : GroupState) : Call → Option GroupState
  | .others room => some { s with room }
  | .addGroup req => some { s with groups := (zbApsmeAddGroupRequest req s.groups).1 }
  | .dataRequest buf => some (groupDataRequest buf s)
  | .dataIndication buf => some (scheduleCallback (.passUpGroupBuf buf) s)
  | .bufFreed param =>
      match s.inbufQueue with
      | [] => none
      | func :: rest => some (scheduleCallback (func.job param) { s with
          inbufQueue := rest
          room := { s.room with delayedEnts := s.room.delayedEnts + 1 } })
  | .run i =>
      match s.cbQ[i]? with
      | none => none
      | some job => runJob nibNetworkAddress job { s with cbQ := s.cbQ.eraseIdx i }

end Machine

/-! ## What is claimed -/

/-- The packet a call accepts. -/
def accepted (s : GroupState) : Call → List GroupBuf
  | .run i =>
      match s.cbQ[i]? with
      | some (.passUpGroupBuf buf) => if s.passUpQ.isFull then [] else [{ buf with handle := 0 }]
      | _ => []
  | _ => []

/-- The packet a call frees; its handle is where it has got to. -/
def finished (s : GroupState) : Call → List GroupBuf
  | .run i =>
      match s.cbQ[i]?, s.activePassUpBuf with
      | some (.passGroupMsgUp _), some active => if nextEndpoint s.groups active = none then [active] else []
      | _, _ => []
  | _ => []

/-- A packet as it was accepted. -/
def GroupBuf.unread (buf : GroupBuf) : GroupBuf := { buf with handle := 0 }

/-- How often this work waits, for a buffer or in the callback queue. -/
def pending (func : Func) (s : GroupState) : Nat :=
  s.cbQ.countP (fun job => job.func == some func) + s.inbufQueue.count func

/-- **Each endpoint once**: a packet that is freed has been passed to all the endpoints its
group has, each once; to none, if the device is not in the group. -/
def EachEndpointOnce (s : GroupState) (call : Call) : Prop :=
  ∀ buf ∈ finished s call,
    s.passed = (endpointsOf s.groups buf.hdr.groupAddr).map (copyFor buf) ∧
      (endpointsOf s.groups buf.hdr.groupAddr).Nodup

/-- A request for a buffer is not refused, with so many callbacks scheduled before it. -/
def Room.grants (room : Room) (before : Nat) : Bool :=
  match room.inBuf with
  | some _ => before < room.cbQ
  | none => 0 < room.delayedEnts

/-- What the work asks for is there: a place in the callback queue, and a free buffer or a
spare entry to wait for one. -/
def granted (s : GroupState) : Call → Bool
  | .bufFreed _ => s.inbufQueue.head? != some .passGroupMsgUp || decide (0 < s.room.cbQ)
  | .run i =>
      match s.cbQ[i]?, s.activePassUpBuf with
      | some (.passUpGroupBuf _), none => s.passUpQ.isFull || s.room.grants 0
      | some (.passGroupMsgUp _), some active =>
          if (nextEndpoint s.groups active).isSome then decide (0 < s.room.cbQ) && s.room.grants 1
          else s.passUpQ.isEmpty || decide (0 < s.room.cbQ)
      | _, _ => true
  | _ => true

def Granted (s : GroupState) (call : Call) : Prop := granted s call = true

instance (s : GroupState) (call : Call) : Decidable (Granted s call) :=
  inferInstanceAs (Decidable (granted s call = true))

end Zboss.Aps.GroupUp
