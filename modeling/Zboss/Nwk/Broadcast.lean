/-
# Nwk.Broadcast -- the retransmission of broadcast frames

`nwk_broadcast_transmition` of a router.  What a function of the stack asks of the
rest of it is data, a list of `StackCall`s in the order of the source; whoever runs
the function carries them out.

A frame to be repeated keeps its buffer in `brrt`.  Each repetition is a copy in a
buffer of its own, which the allocator hands over as `param`; `param` 0 means that
there is none.
-/
import Mathlib
import Zboss.Common.Constants
import Zboss.Common.Scheduler
import Zboss.Nwk.Neighbor

namespace Zboss.Nwk.Broadcast

open Zboss.Common.Constants
open Zboss.Common.Types
open Zboss.Common.Scheduler
open Zboss.Common.Address
open Zboss.Nwk.Neighbor

set_option autoImplicit false

/-! ## Calls -/

/-- The callbacks by name. -/
inductive StackFn where
  | nwkBroadcastTransmition
  | zbMcpsDataRequest
  | zbZdoPollParent
  | zbNlmeSyncRequest
  | zdoSendDeviceAnnce
  | zbApsdeDataRequest
  | zbSecurSendNwkKeySwitch
  | zbApsmeSwitchKeyRequest
  | zbApsdeDataConfirm
  | zbZdoStartupComplete
  | zbApsdeDataAcknowledged
  | other
  deriving DecidableEq

inductive StackCall where
  | schedule (func : StackFn) (param : UInt8)
  | alarm (func : StackFn) (param : UInt8) (runAfter : ZbTime)
  | alarmCancel (func : StackFn) (param : UInt8)
  | getOutBufDelayed (func : StackFn)
  | freeBuf (buf : UInt8)
  /-- `ZB_BUF_COPY`; the copy gets `ZB_NWK_INTERNAL_NSDU_HANDLE`. -/
  | copy (dst src : UInt8)
  /-- The frame goes to one child, indirectly and acknowledged. -/
  | unicast (buf : UInt8) (dstAddr : UInt16)
  /-- `zb_address_by_short` of the own address, to be created and locked. -/
  | lockOwnAddress
  | securNwkKeySwitch
  | mgmtLeaveComplete (buf : UInt8)
  deriving DecidableEq

/-! ## The table -/

def zbNwkBrrTableSize : Nat := 8
def zbNwkMaxBroadcastRetries : UInt8 := 2
/-- 254 ms and 64 ms in beacon intervals. -/
def zbNwkRreqRetryInterval : ZbTime := 16
def zbNwkMaxBroadcastJitterInterval : ZbTime := 4
def zbNwkBroadcastAllDevices : UInt16 := 0xFFFF
structure ZbNwkBroadcastRetransmit where
  used : Bool
  /-- Six bits. -/
  retries : UInt8
  buf : UInt8
  /-- The next child to send to; all ones is none. -/
  neighborTableIterator : Option Nat
  nextRetransmit : ZbTime
  srcAddr : UInt16
  dstAddr : UInt16
  passiveAck : UInt8

structure ZbNwkBrrt where
  brrt : Nat → ZbNwkBroadcastRetransmit
  brrtCnt : UInt8

def ZbNwkBrrt.setEnt (t : ZbNwkBrrt) (i : Nat) (ent : ZbNwkBroadcastRetransmit) : ZbNwkBrrt :=
  { t with brrt := Function.update t.brrt i ent }

/-- What the functions read of the rest of the stack. -/
structure NwkEnv where
  timer : ZbTime
  pibShortAddress : UInt16
  neighbor : ZbNeighborTbl
  addr : ZbAddrGlobals
  /-- The source address in the network header of a buffer. -/
  nwkSrcAddr : UInt8 → UInt16
  joined : Bool
  /-- The status in the header of a buffer is success, or no acknowledgement. -/
  sent : UInt8 → Bool
  /-- A leave waits for the confirm of this buffer. -/
  leaveWaits : UInt8 → Bool

def zbAddressShortByRef (ref : Nat) (env : NwkEnv) : UInt16 := (env.addr.addrMap ref).addr

/-- The end device children that `addr` is for, from `i` on. -/
def zbNwkNeighborNextZeChildrenI (env : NwkEnv) (addr : UInt16) (i : Nat) : Option Nat :=
  (List.range' i (env.neighbor.baseNeighborUsed - i)).find? fun i =>
    let ent := env.neighbor.baseNeighbor i
    ent.used && (ent.relationship == .child || ent.relationship == .unauthenticatedChild) &&
      ent.deviceType == zbNwkDeviceTypeEd &&
      (addr == zbNwkBroadcastAllDevices ||
        (addr == zbNwkBroadcastRxOnWhenIdle && ent.rxOnWhenIdle))

/-- `ZB_NWK_GET_PASSIVE_ACK_DEV_NUM`. -/
def passiveAckDevNum (env : NwkEnv) : UInt8 :=
  UInt8.ofNat ((List.range env.neighbor.baseNeighborSize).countP fun i =>
    let ent := env.neighbor.baseNeighbor i
    ent.used && (ent.deviceType == zbNwkDeviceTypeRouter ||
      ent.deviceType == zbNwkDeviceTypeCoordinator))

def magicBitcount8 (b : UInt8) : UInt8 :=
  let bits (mask : UInt8) (shift : UInt8) (b : UInt8) : UInt8 := (b &&& mask) + (b >>> shift &&& mask)
  bits 0x0f 4 (bits 0x33 2 (bits 0x55 1 b))

/-! ## The entry to send -/

/-- The second loop: the first entry with a child to send to, which is not the
originator.  The iterators of those passed over go on. -/
def toUnicast (env : NwkEnv) : List Nat → ZbNwkBrrt → ZbNwkBrrt × Option (Nat × Nat)
  | [], t => (t, none)
  | i :: is, t =>
      let ent := t.brrt i
      match ent.used, ent.neighborTableIterator with
      | true, some child =>
          if zbAddressShortByRef (env.neighbor.baseNeighbor child).addrRef env =
              env.nwkSrcAddr ent.buf then
            toUnicast env is (t.setEnt i { ent with
              neighborTableIterator := zbNwkNeighborNextZeChildrenI env ent.dstAddr (child + 1) })
          else (t, some (i, child))
      | _, _ => toUnicast env is t

/-- The three loops: the entry, and the child it goes to if it is not broadcast. -/
def selectEnt (env : NwkEnv) (t : ZbNwkBrrt) : ZbNwkBrrt × Option (Nat × Option Nat) :=
  let all := List.range zbNwkBrrTableSize
  match all.find? fun i => (t.brrt i).used && (t.brrt i).retries == 0 with
  | some i => (t, some (i, none))
  | none =>
      match toUnicast env all t with
      | (t, some (i, child)) => (t, some (i, some child))
      | (t, none) =>
          match all.find? fun i =>
              (t.brrt i).used && decide (zbTimeGe env.timer (t.brrt i).nextRetransmit) with
          | some i => (t, some (i, none))
          | none => (t, none)

/-- What `i` holds after the three loops.  Each sets it to 0 and steps it once more past
the entry it stops at, so that only an entry of the last loop leaves its place. -/
def loopCounter (env : NwkEnv) (t : ZbNwkBrrt) : Nat :=
  let all := List.range zbNwkBrrTableSize
  match all.find? fun i => (t.brrt i).used && (t.brrt i).retries == 0 with
  | some _ => 0
  | none =>
      match toUnicast env all t with
      | (_, some _) => 0
      | (t, none) =>
          match all.find? fun i =>
              (t.brrt i).used && decide (zbTimeGe env.timer (t.brrt i).nextRetransmit) with
          | some i => i + 1
          | none => zbNwkBrrTableSize

section Send

variable (spill : Nat → Nat → ZbNwkBrrt → ZbNwkBrrt)

/-- `ZB_SET_BIT_IN_BIT_VECTOR`.  The vector has one byte, whatever the size of the
neighbour table is; a bit beyond is `spill`ed behind the entry. -/
def setPassiveAck (i child : Nat) (t : ZbNwkBrrt) : ZbNwkBrrt :=
  if child < 8 then
    t.setEnt i { t.brrt i with passiveAck := (t.brrt i).passiveAck ||| 1 <<< UInt8.ofNat child }
  else spill i child t

/-- What has been sent is noted in the entry. -/
def markSent (env : NwkEnv) (i : Nat) (nent : Option Nat) (t : ZbNwkBrrt) : ZbNwkBrrt :=
  match nent with
  | some child =>
      let t := setPassiveAck spill i child t
      let ent := t.brrt i
      t.setEnt i { ent with
        neighborTableIterator := zbNwkNeighborNextZeChildrenI env ent.dstAddr
          ((ent.neighborTableIterator.map (· + 1)).getD 0) }
  | none =>
      let ent := t.brrt i
      t.setEnt i { ent with
        nextRetransmit := env.timer + zbNwkRreqRetryInterval
        retries := (ent.retries + 1) % 64 }

/-- All children are served, and the frame has been repeated often enough or `i` is the
number of the neighbours that should have it.  `ZB_CALC_NONE_ZERO_BITS_IN_BIT_VECTOR` is
to leave the number of marks in `i`, but declares an `i` of its own, which hides it: the
marks are counted nowhere, and `i` is still what the loops left. -/
def isLast (env : NwkEnv) (i : Nat) (ent : ZbNwkBroadcastRetransmit) : Bool :=
  let num := (passiveAckDevNum env).toNat
  ent.neighborTableIterator.isNone &&
    (decide (zbNwkMaxBroadcastRetries ≤ ent.retries) ||
      (i == num && ent.srcAddr == env.pibShortAddress) ||
      (num != 0 && i == num - 1 && ent.srcAddr != env.pibShortAddress))

/-- When to look again. -/
def nextExecution (env : NwkEnv) (t : ZbNwkBrrt) : ZbTime :=
  (List.range zbNwkBrrTableSize).foldl (fun next i =>
    let ent := t.brrt i
    if ent.used && decide (ent.retries < zbNwkMaxBroadcastRetries) &&
        decide (ent.nextRetransmit < next) then ent.nextRetransmit
    else next) (env.timer + zbNwkMaxBroadcastJitterInterval)

def nwkBroadcastTransmition (env : NwkEnv) (param : UInt8) (t : ZbNwkBrrt) :
    ZbNwkBrrt × List StackCall :=
  let counter := loopCounter env t
  match selectEnt env t with
  | (t, some (i, nent)) =>
      -- check we have buffer to be sent
      if param = 0 then (t, [.getOutBufDelayed .nwkBroadcastTransmition])
      else
        let t := markSent spill env i nent t
        let ent := t.brrt i
        let last := isLast env counter ent
        let t :=
          if last then { t.setEnt i { ent with used := false } with brrtCnt := t.brrtCnt - 1 } else t
        let buf := if last then ent.buf else param
        (t,
          (if last then [.freeBuf param] else []) ++
          (if buf ≠ ent.buf then [.copy buf ent.buf] else []) ++
          (match nent with
            | some child =>
                [.unicast buf (zbAddressShortByRef (env.neighbor.baseNeighbor child).addrRef env)]
            | none => []) ++
          [.schedule .zbMcpsDataRequest buf] ++
          (if t.brrtCnt ≠ 0 then [.schedule .nwkBroadcastTransmition 0] else []))
  | (t, none) =>
      (t,
        (if param ≠ 0 then [.freeBuf param] else []) ++
        (if t.brrtCnt ≠ 0 then
          [.alarmCancel .nwkBroadcastTransmition 0,
            .alarm .nwkBroadcastTransmition 0 (nextExecution env t - env.timer)]
        else []))

/-- The callback has a frame to send that is not its last transmission. -/
def mustSend (env : NwkEnv) (t : ZbNwkBrrt) : Bool :=
  let counter := loopCounter env t
  match selectEnt env t with
  | (t, some (i, nent)) => !isLast env counter ((markSent spill env i nent t).brrt i)
  | (_, none) => false

end Send

end Zboss.Nwk.Broadcast
