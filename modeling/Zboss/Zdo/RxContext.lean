/-
# Zdo.RxContext -- a frame that has come in, and what its handler finds

A frame of ZDO stands in its buffer behind the APS header, and its indication in the tail of the
same buffer.  The handlers read both where they stand, and the tables of the device
(`ZdoRxContext`); what they do with the buffer is a `BufferEnd`.

A message that is sent is what stands in the buffer when it is given to APS (`packetOf`).
-/
import Mathlib
import Zboss.Common.Constants
import Zboss.Zdo.ChannelChange
import Zboss.Zdo.DeviceInfo
import Zboss.Zdo.EndDeviceBind
import Zboss.Zdo.RequestDecode
import Zboss.Zdo.Transactions

namespace Zboss.Zdo.RxContext

open Zboss.Common.Constants
open Zboss.Common.Types
open Zboss.Common.PacketBuf (uint16Bytes)
open Zboss.Theory.ByteMemory
open Zboss.Zdo.BodyMemory
open Zboss.Zdo.SendByShort
open Zboss.Zdo.ChannelChange (ChannelManager)
open Zboss.Zdo.DeviceInfo (LockContext)
open Zboss.Zdo.EndDeviceBind (EndDeviceBindCtx zbUndefinedBuffer)
open Zboss.Zdo.MatchDesc (SimpleDesc)
open Zboss.Zdo.RequestDecode (Switches zbConfig)
open Zboss.Zdo.SimpleDescResp (ZbAfSimpleDesc DescContext inputs outputs zdoSimpleDesc)
open Zboss.Zdo.Transactions (ZbCallback ZdoCtx)

set_option autoImplicit false

/-! ## Frames -/

/-- A frame behind its APS header, in the buffer `param`, with its indication in the tail.  `macSrc`
is the short source address in the MAC header, when it has one. -/
structure ZdoFrame extends Body where
  param : UInt8
  macSrc : Option UInt16
  given : param ≠ zbUndefinedBuffer
  received : len + begin_ + apsdeDataIndicationSize.toNat ≤ zbIoBufSize

namespace ZdoFrame

variable (frame : ZdoFrame)

/-- The frame control of the APS header: it is in the indication too. -/
def fc : UInt8 := frame.mem indicationAt

def srcAddr : UInt16 := word frame.mem (indicationAt + 1)

def clusterid : UInt16 := word frame.mem (indicationAt + 9)

/-- `ZB_APS_FC_GET_DELIVERY_MODE` -/
def deliveryMode : UInt8 := frame.fc >>> 2 &&& 3

/-- The transaction number. -/
def tsn : UInt8 := frame.at_ 0

/-- The device that the frame asks about. -/
def nwkAddr : UInt16 := word frame.mem (frame.begin_ + 1)

/-- The same frame with another byte at one of its places. -/
def asking (place : Nat) (val : UInt8) : ZdoFrame :=
  { frame with mem := put (frame.begin_ + place) [val] frame.mem }

end ZdoFrame

/-! ## What is done with a buffer -/

/-- What is given to APS. -/
structure Packet where
  clusterid : UInt16
  dstAddr : UInt16
  bytes : List UInt8
  deriving DecidableEq

/-- The message in a buffer, with the parameters of its data request. -/
def packetOf (b : Body) : Packet where
  clusterid := word b.mem (zbIoBufSize - apsdeDataReqSize.toNat + 10)
  dstAddr := word b.mem (zbIoBufSize - apsdeDataReqSize.toNat)
  bytes := b.bytes

/-- Callbacks of this stack that are given the buffer. -/
inductive NextLayer where
  | zbNlmeEdScanRequest
  | zbNlmeLeaveRequest
  | zbNlmePermitJoiningRequest (permitDuration : UInt8)
  deriving DecidableEq

/-- What is done with a buffer. -/
inductive BufferEnd where
  | freed
  /-- `zb_free_buf` of a place inside the buffer. -/
  | freedInside
  /-- `zdo_send_resp_by_short` -/
  | responded (packet : Packet)
  /-- `zdo_send_req_by_short` -/
  | requested (packet : Packet)
  /-- The first request of an end device bind waits for the second one. -/
  | keptForEndDeviceBind
  | passed (next : NextLayer)
  /-- `zb_schedule_callback`; `none` is `NULL`. -/
  | callback (cb : Option ZbCallback)
  deriving DecidableEq

/-- Neither a place inside the buffer is freed, nor is `NULL` called. -/
def BufferEnd.Sound : BufferEnd → Prop
  | .freedInside => False
  | .callback none => False
  | _ => True

/-- Why the frame is not done with. -/
inductive ZdoStop where
  /-- A failed assertion, or a fault. -/
  | assertion
  /-- More is written than there is room for. -/
  | overrun
  /-- The search for a channel does not end. -/
  | endless
  deriving DecidableEq

/-- Go on, where no assertion has failed. -/
def asserted {α : Type} : Option α → Except ZdoStop α
  | some val => .ok val
  | none => .error .assertion

/-- A response goes out. -/
def respond (packet : Option Body) : Except ZdoStop (List BufferEnd) := do
  let packet ← asserted packet
  return [.responded (packetOf packet)]

/-- An answer of `size` bytes in the middle of the buffer.  The address it goes to stands behind all
answers that go out. -/
def answered (clusterid : UInt16) (size : UInt8) (bytes : List UInt8) (frame : ZdoFrame) :
    Except ZdoStop (List BufferEnd) :=
  respond (answerByShort clusterid frame.tsn frame.srcAddr size bytes frame.toBody)

/-- What is written from a place on stays in the buffer. -/
def inBuffer (at_ n : Nat) (rest : Except ZdoStop (List BufferEnd)) :
    Except ZdoStop (List BufferEnd) :=
  if at_ + n ≤ zbIoBufSize then rest else .error .overrun

/-! ## State -/

/-- The bind that waits for a second request, with the first one. -/
structure PendingBind where
  ctx : EndDeviceBindCtx
  first : ZdoFrame

def zbMaxEpNumber : Nat := 1

/-- What the handlers read.  The first four are how the stack is built. -/
structure ZdoRxContext where
  routerRole : Bool
  coordinatorRole : Bool
  build : Switches
  /-- What `1l << i` is for `i` from 32 on. -/
  beyond : UInt8 → UInt32
  joinedPro : Bool
  deviceType : UInt8
  /-- `ZB_PIB_SHORT_ADDRESS` -/
  shortAddress : UInt16
  extendedAddress : ZbIeeeAddr
  extPanId : ZbIeeeAddr
  /-- `zb_af_node_desc_t` -/
  nodeDesc : Vector UInt8 13
  /-- `zb_af_node_power_desc_t` -/
  powerDesc : Vector UInt8 2
  zdoSimpleDesc : ZbAfSimpleDesc
  simpleDescList : List ZbAfSimpleDesc
  few : simpleDescList.length ≤ zbMaxEpNumber
  /-- What stands where the list of the endpoints that match will. -/
  epSlots : Nat → UInt8
  locks : LockContext
  /-- The used slots of the list of pending leaves. -/
  leaveUsed : Nat → Bool
  endDeviceBind : PendingBind
  zdo : ZdoCtx
  sendWithAck : Bool
  channelChanged : Bool
  updateId : UInt8
  logicalChannel : UInt8

namespace ZdoRxContext

variable (c : ZdoRxContext)

/-- `ZB_NIB_NETWORK_ADDRESS` -/
def networkAddress : UInt16 := c.locks.nwk.networkAddress

def descContext : DescContext where
  networkAddress := c.networkAddress
  zdoSimpleDesc := c.zdoSimpleDesc
  simpleDescList := c.simpleDescList
  coordinatorRole := c.coordinatorRole

/-- The descriptors, as far as they are compared with a request. -/
def simpleDescs : List SimpleDesc :=
  c.simpleDescList.map fun d => ⟨d.endpoint, d.appProfileId, inputs d, outputs d⟩

theorem length_simpleDescs : c.simpleDescs.length ≤ zbMaxEpNumber := by
  rw [simpleDescs, List.length_map]
  exact c.few

def isParent : Bool :=
  c.deviceType == zbNwkDeviceTypeCoordinator || c.deviceType == zbNwkDeviceTypeRouter

/-- What a change of the channel reads and counts. -/
def channelManager : ChannelManager := ⟨c.channelChanged, c.updateId, c.zdo.tsn, c.logicalChannel⟩

end ZdoRxContext

section Sound

variable {frame : ZdoFrame}

/-- The indication has room behind the frame, -/
theorem indication_room : zbGetBufTail apsdeDataIndicationSize frame.toBody = some indicationAt :=
  if_pos frame.received

/-- A short answer goes out. -/
theorem answered_ok {clusterid : UInt16} {size : UInt8} {bytes : List UInt8}
    (few : size.toNat ≤ maxAnswer) :
    answered clusterid size bytes frame =
      .ok [.responded (packetOf (sent clusterid frame.srcAddr frame.tsn
        (answerBody size bytes frame.toBody)))] := by
  rw [answered, answerByShort_eq few]
  rfl

theorem asking_at {place : Nat} {val : UInt8} : (frame.asking place val).at_ place = val := by
  rw [Body.at_, ZdoFrame.asking]
  exact @put_inside _ (frame.begin_ + place) [val] frame.mem 0 Nat.one_pos

theorem asking_other {place a : Nat} {val : UInt8} (other : a ≠ frame.begin_ + place) :
    (frame.asking place val).mem a = frame.mem a := by
  rw [ZdoFrame.asking]
  rcases Nat.lt_or_ge a (frame.begin_ + place) with before | behind
  · exact put_before before
  · exact put_behind (by rw [List.length_singleton]; omega)

end Sound

/-! ## Poles -/

/-- A unicast from the coordinator in buffer 1, with transaction number 5. -/
def fromCoordinator (clusterid : UInt16) (data : List UInt8) (short : data.length ≤ 60) : ZdoFrame where
  mem := put indicationAt ([0, 0, 0, 0, 0, 0, 0, 0, 0] ++ uint16Bytes clusterid)
    (put 40 (5 :: data) fun _ => 0)
  begin_ := 40
  len := data.length + 1
  param := 1
  macSrc := some 0
  given := by decide
  received := by
    have size : apsdeDataIndicationSize.toNat = 14 := rfl
    have bufSize : zbIoBufSize = 148 := rfl
    omega

/-- The descriptor of an endpoint with one cluster of each kind. -/
def oneEndpoint : ZbAfSimpleDesc where
  endpoint := 1
  appProfileId := 0x0104
  appDeviceId := 0
  appDeviceVersion := zdoSimpleDesc.appDeviceVersion
  reserved := zdoSimpleDesc.reserved
  appInputClusterCount := 1
  appOutputClusterCount := 1
  appClusterList := [6, 8]
  whole := rfl

theorem oneEndpoint_few : [oneEndpoint].length ≤ zbMaxEpNumber := le_refl 1

/-- A router in its network, with one endpoint, that waits for nothing. -/
def quietRouter : ZdoRxContext where
  routerRole := true
  coordinatorRole := false
  build := zbConfig
  beyond _ := 0
  joinedPro := false
  deviceType := zbNwkDeviceTypeRouter
  shortAddress := 1
  extendedAddress := #v[1, 1, 1, 1, 1, 1, 1, 1]
  extPanId := Vector.replicate 8 0
  nodeDesc := Vector.replicate 13 0
  powerDesc := Vector.replicate 2 0
  zdoSimpleDesc := zdoSimpleDesc
  simpleDescList := [oneEndpoint]
  few := oneEndpoint_few
  epSlots _ := 0
  locks := .init 1 1
  leaveUsed _ := false
  endDeviceBind := ⟨⟨.init, .init, 0⟩, fromCoordinator zdoEndDeviceBindReqClid [] (Nat.zero_le 60)⟩
  zdo := .init
  sendWithAck := false
  channelChanged := false
  updateId := 0
  logicalChannel := 14

end Zboss.Zdo.RxContext
