/-
# Mac.Receive -- what becomes of the buffer a frame was received in

`zb_mac_parse_recv_data` looks at the header of a received frame and calls, or schedules, what
handles a frame of its type: `zb_handle_data_frame`, `zb_mlme_command_accept` or
`zb_mlme_ack_accept`.  Each is a function of the MAC context, and puts out what it does with
buffers; the two queues of callbacks have so much room.  A frame is the bytes of its buffer from
the MAC header on.

* `dispatch_one`, `command_one`, `data_one`: what becomes of the buffer by the type of the frame;
* `Owned`: the condition, on the frame and on the contexts that it meets;
* `one_owner_iff`: the buffer ends in exactly one place if and only if it is `Owned`.

Pole: `realignment_lost`, a frame whose buffer nobody has in the end.
-/
import Mathlib
import Zboss.Common.Constants
import Zboss.Mac.Header

namespace Zboss.Mac.Receive

open Zboss.Common.Constants
open Zboss.Common.Types
open Zboss.Common.PacketBuf
open Zboss.Mac.Header

set_option autoImplicit false

/-! ## Constants -/

def macCmdAssociationRequest : UInt8 := 1

def macCmdAssociationResponse : UInt8 := 2

def macCmdDataRequest : UInt8 := 4

def macCmdOrphanNotification : UInt8 := 6

def macCmdBeaconRequest : UInt8 := 7

def macCmdCoordinatorRealignment : UInt8 := 8

def macFrameIeee802154 : UInt8 := 1

def orphanScan : UInt8 := 3

section FrameControl

variable (fcf : UInt8 × UInt8)

def fcfGetFrameType : UInt8 := fcf.1 &&& 0x07

def fcfGetSecurityBit : Bool := fcf.1 &&& 0x08 != 0

def fcfGetFramePendingBit : Bool := fcf.1 &&& 0x10 != 0

def fcfGetAckRequestBit : Bool := fcf.1 &&& 0x20 != 0

def fcfGetFrameVersion : UInt8 := (fcf.2 &&& 0x30) >>> 4

end FrameControl

/-! ## The context -/

/-- What is compiled: the roles of the device, and the variants of the MAC. -/
structure MacBuild where
  routerRole : Bool
  coordinatorRole : Bool
  limitedFeatures : Bool
  limitVisibility : Bool
  /-- `ZB_NS_BUILD`, with `ZB_MANUAL_ACK`. -/
  nsBuild : Bool

/-- `rt_ctx`, as it is laid out for indirect data.  The scans use its first bytes, the
callback type among them. -/
structure RtCtx where
  cbType : UInt32
  cbStatus : UInt32
  bufRef : UInt8
  deriving DecidableEq

/-- `active_scan.beacon_found = 1` -/
def RtCtx.setBeaconFound (c : RtCtx) : RtCtx := { c with cbType := c.cbType &&& 0xFFFF00FF ||| 0x0100 }

/-- `orphan_scan.got_realignment = ZB_TRUE` -/
def RtCtx.setGotRealignment (c : RtCtx) : RtCtx := { c with cbType := c.cbType &&& 0xFFFFFF00 ||| 0x01 }

/-- What receiving reads and writes, of the PIB and of the MAC context. -/
structure MacCtx where
  macShortAddress : UInt16
  macExtendedAddress : ZbIeeeAddr
  macPanId : UInt16
  macCoordShortAddress : UInt16
  phyCurrentChannel : UInt8
  macRxOnWhenIdle : Bool
  joinedPro : Bool
  visibleAddresses : List ZbIeeeAddr
  invisibleShortAddresses : List UInt16
  /-- `zb_address_ieee_by_short` -/
  ieeeByShort : UInt16 → Option ZbIeeeAddr
  indirectDataRequest : Bool
  pollRequest : Bool
  assRequest : Bool
  pendingData : Bool
  ackOk : Bool
  macStatus : UInt8
  ackDsn : UInt8
  mlmeScanInProgress : Bool
  pendingBuf : Option UInt8
  /-- `zb_mlme_scan_params_t` in a buffer: the scan type. -/
  scanTypeOf : UInt8 → UInt8
  rtCtx : RtCtx
  /-- The parameters that `zb_mac_indirect_data_timeout` is scheduled with, as the timer queue has
  them. -/
  indirectDataTimeout : List UInt8
  ackTimeout : Bool
  /-- Free entries of `cb_q` and of `mac_tx_q`. -/
  cbRoom : Nat
  txRoom : Nat

/-! ## Calls -/

/-- `zb_mlme_associate_confirm_t`. -/
structure ZbMlmeAssociateConfirm where
  parentAddress : ZbIeeeAddr
  assocShortAddress : UInt16
  status : UInt8
  deriving DecidableEq

/-- The callbacks of a received buffer, with what is put in it for them. -/
inductive MacCallback where
  | zbHandleDataFrame
  | zbMlmeBeaconNotifyIndication
  | zbMlmeAckAccept
  | zbMlmeCommandAccept
  | zbMcpsDataIndication
  | zbAcceptAssRequestCmd
  | zbMlmeAssociateConfirm (confirm : ZbMlmeAssociateConfirm)
  | zbMlmeOrphanIndication (orphanAddr : ZbIeeeAddr)
  deriving DecidableEq

inductive MacCall where
  | freeBuf (param : UInt8)
  | callback (cb : MacCallback) (param : UInt8)
  /-- `ZB_SCHEDULE_TX_CB(zb_accept_data_request_cmd)` -/
  | txAcceptDataRequest (param : UInt8)
  /-- `ZB_SCHEDULE_TX_CB(zb_handle_beacon_req, 0)` -/
  | txHandleBeaconReq
  /-- The buffer of a poll is confirmed. -/
  | pollConfirm (bufRef : UInt8) (status : UInt8)
  | sendAck (ackDsn : UInt8)
  deriving DecidableEq

/-- The buffer of the frame is given away. -/
def MacCall.ends : MacCall → Bool
  | .freeBuf _ | .callback .. | .txAcceptDataRequest _ => true
  | .txHandleBeaconReq | .pollConfirm .. | .sendAck _ => false

/-- `ZB_SCHEDULE_CALLBACK`: a full queue is not noticed. -/
def scheduleCallback (call : MacCall) (s : MacCtx) : MacCtx × List MacCall :=
  if s.cbRoom = 0 then (s, []) else ({ s with cbRoom := s.cbRoom - 1 }, [call])

/-- `ZB_SCHEDULE_TX_CB` -/
def scheduleTxCb (call : MacCall) (s : MacCtx) : MacCtx × List MacCall :=
  if s.txRoom = 0 then (s, []) else ({ s with txRoom := s.txRoom - 1 }, [call])

/-! ## Acceptance -/

def macIsFrameVisible (mhr : ZbMacMhr) (s : MacCtx) : Bool :=
  let mode := fcfGetSrcAddressingMode mhr.frameControl
  if mode = zbAddr16bitDevOrBroadcast ∧ addrShort mhr.srcAddr ∈ s.invisibleShortAddresses then false
  else if s.visibleAddresses = [] ∨ fcfGetFrameType mhr.frameControl = macFrameBeacon then true
  else if mode = zbAddr16bitDevOrBroadcast then
    s.visibleAddresses.any fun long => s.ieeeByShort (addrShort mhr.srcAddr) == some long
  else if mode = zbAddr64bitDev then s.visibleAddresses.any fun long => mhr.srcAddr == long
  else true

def canAcceptFrame (build : MacBuild) (mhr : ZbMacMhr) (s : MacCtx) : Bool :=
  if build.limitVisibility && !macIsFrameVisible mhr s then false
  else if !s.macRxOnWhenIdle && addrShort mhr.dstAddr == 0xFFFF then false
  else !(fcfGetSecurityBit mhr.frameControl &&
    decide (fcfGetFrameVersion mhr.frameControl < macFrameIeee802154))

/-- The frame is sent directly to this device. -/
def checkFrameDstAddr (mhr : ZbMacMhr) (s : MacCtx) : Bool :=
  if fcfGetDstAddressingMode mhr.frameControl = zbAddr16bitDevOrBroadcast then
    addrShort mhr.dstAddr == s.macShortAddress
  else mhr.dstAddr == s.macExtendedAddress

/-! ## The three functions -/

/-- The poll that waits for the frame is confirmed. -/
def confirmPoll (mhr : ZbMacMhr) (s : MacCtx) : MacCtx × List MacCall :=
  if s.pollRequest ∧ fcfGetFrameType mhr.frameControl = macFrameData ∧ s.rtCtx.bufRef ≠ 0 then
    scheduleCallback (.pollConfirm s.rtCtx.bufRef s.macStatus) { s with pollRequest := false }
  else (s, [])

/-- The frame ends an indirect transfer: of its alarms the first one is cancelled. -/
def indirectDataReceived (mhr : ZbMacMhr) (s : MacCtx) : MacCtx × List MacCall :=
  confirmPoll mhr
    { s with
      indirectDataTimeout := s.indirectDataTimeout.tail
      indirectDataRequest := false
      pendingData := fcfGetFramePendingBit mhr.frameControl || s.pendingData }

/-- If there is an indirect request, the frame may be the response to it. -/
def checkIndirect (mhr : ZbMacMhr) (s : MacCtx) : MacCtx × List MacCall :=
  if s.indirectDataRequest && checkFrameDstAddr mhr s then indirectDataReceived mhr s else (s, [])

def zbMlmeAckAccept (build : MacBuild) (param : UInt8) (mhr : ZbMacMhr) (s : MacCtx) :
    MacCtx × List MacCall :=
  if build.nsBuild ∧ s.ackDsn = mhr.seqNumber then
    ({ s with
      ackOk := true
      pendingData := fcfGetFramePendingBit mhr.frameControl
      ackTimeout := false }, [.freeBuf param])
  else (s, [.freeBuf param])

/-- The frame by its type: the reserved types have no case. -/
def dispatchFrame (build : MacBuild) (param : UInt8) (mhr : ZbMacMhr) (s : MacCtx) :
    MacCtx × List MacCall :=
  let type := fcfGetFrameType mhr.frameControl
  if type = macFrameData then scheduleCallback (.callback .zbHandleDataFrame param) s
  else if type = macFrameBeacon then
    let (s, calls) := scheduleCallback (.callback .zbMlmeBeaconNotifyIndication param) s
    (if s.mlmeScanInProgress then { s with rtCtx := s.rtCtx.setBeaconFound } else s, calls)
  else if type = macFrameAcknowledgment then
    if build.nsBuild then zbMlmeAckAccept build param mhr s
    else scheduleCallback (.callback .zbMlmeAckAccept param) s
  else if type = macFrameCommand then scheduleCallback (.callback .zbMlmeCommandAccept param) s
  else (s, [])

def zbMacParseRecvData (build : MacBuild) (param : UInt8) (frame : List UInt8) (s : MacCtx) :
    MacCtx × List MacCall :=
  let mhr := (zbParseMhr frame).1
  if canAcceptFrame build mhr s then
    let (s, confirmed) := checkIndirect mhr s
    let (s, calls) := dispatchFrame build param mhr s
    (s, confirmed ++ calls)
  else (s, [.freeBuf param])

/-- The command identifier behind the header. -/
def cmdId (frame : List UInt8) : UInt8 := frame.getD (zbParseMhr frame).2 0

/-- MAC_CMD_ASSOCIATION_RESPONSE: the address and the status of the response. -/
def acceptAssociationResponse (build : MacBuild) (param : UInt8) (frame : List UInt8) (s : MacCtx) :
    MacCtx × List MacCall :=
  let (mhr, at_) := zbParseMhr frame
  let acks := if build.nsBuild && fcfGetAckRequestBit mhr.frameControl then
    [MacCall.sendAck mhr.seqNumber] else []
  if s.assRequest then
    let confirm : ZbMlmeAssociateConfirm :=
      { parentAddress :=
          if fcfGetSrcAddressingMode mhr.frameControl = zbAddr64bitDev then mhr.srcAddr
          else Vector.replicate 8 0
        assocShortAddress := uint16At (at_ + 1) frame
        status := frame.getD (at_ + 3) 0 }
    let s := { s with macShortAddress := confirm.assocShortAddress }
    let (s, calls) := scheduleCallback (.callback (.zbMlmeAssociateConfirm confirm) param) s
    ({ s with assRequest := false }, acks ++ calls)
  else (s, acks ++ [.freeBuf param])

/-- MAC_CMD_COORDINATOR_REALIGNMENT; `none` is a read through a null pointer. -/
def acceptCoordinatorRealignment (frame : List UInt8) (s : MacCtx) : Option MacCtx :=
  if s.mlmeScanInProgress then
    s.pendingBuf.map fun buf =>
      if s.scanTypeOf buf = orphanScan then
        let at_ := (zbParseMhr frame).2 + 1
        { s with
          rtCtx := s.rtCtx.setGotRealignment
          macPanId := uint16At at_ frame
          macCoordShortAddress := uint16At (at_ + 2) frame
          phyCurrentChannel := frame.getD (at_ + 4) 0
          macShortAddress := uint16At (at_ + 5) frame }
      else s
  else some s

def zbMlmeCommandAccept (build : MacBuild) (param : UInt8) (frame : List UInt8) (s : MacCtx) :
    Option (MacCtx × List MacCall) :=
  let mhr := (zbParseMhr frame).1
  let cmd := cmdId frame
  if build.routerRole ∧ cmd = macCmdBeaconRequest ∧ s.joinedPro = false then
    let (s, calls) := scheduleTxCb .txHandleBeaconReq s
    some (s, calls ++ [.freeBuf param])
  else if build.routerRole ∧ cmd = macCmdAssociationRequest then
    some (scheduleCallback (.callback .zbAcceptAssRequestCmd param) s)
  else if cmd = macCmdAssociationResponse then some (acceptAssociationResponse build param frame s)
  else if cmd = macCmdDataRequest then
    if build.coordinatorRole then some (scheduleTxCb (.txAcceptDataRequest param) s)
    else some (s, [])
  else if cmd = macCmdCoordinatorRealignment then
    (acceptCoordinatorRealignment frame s).map fun s => (s, [])
  else if build.limitedFeatures = false ∧ cmd = macCmdOrphanNotification then
    if fcfGetSrcAddressingMode mhr.frameControl = zbAddr64bitDev then
      some (scheduleCallback (.callback (.zbMlmeOrphanIndication mhr.srcAddr) param) s)
    -- a malformed packet
    else some (s, [])
  else some (s, [])

/-- What sending an acknowledgement returns. -/
inductive TxRet where
  | ok
  | blocked
  | error
  deriving DecidableEq

/-- `sent` is what sending an acknowledgement returns, and waiting for its end. -/
def zbHandleDataFrame (build : MacBuild) (sent : TxRet) (param : UInt8) (frame : List UInt8)
    (s : MacCtx) : MacCtx × List MacCall :=
  let mhr := (zbParseMhr frame).1
  let s := { s with pendingBuf := some param }
  let acked := build.nsBuild && fcfGetAckRequestBit mhr.frameControl
  let acks := if acked then [MacCall.sendAck mhr.seqNumber] else []
  match if acked then sent else .ok with
  | .ok =>
      let (s, calls) := scheduleCallback (.callback .zbMcpsDataIndication param) s
      (s, acks ++ calls)
  | .blocked => (s, acks)
  | .error => ({ s with pendingBuf := none }, acks ++ [.freeBuf param])

/-! ## The buffer of a frame -/

/-- What a frame meets: the context it is received in, the one that the function scheduled for it
is called in, and what sending an acknowledgement there returns. -/
structure Meeting where
  received : MacCtx
  called : MacCtx
  sent : TxRet

/-- A call scheduled by `zb_mac_parse_recv_data` that is one of the other two functions is made. -/
def settle (build : MacBuild) (m : Meeting) (frame : List UInt8) : MacCall → Option (List MacCall)
  | .callback .zbHandleDataFrame param =>
      some (zbHandleDataFrame build m.sent param frame m.called).2
  | .callback .zbMlmeCommandAccept param =>
      (zbMlmeCommandAccept build param frame m.called).map Prod.snd
  | call => some [call]

/-- Where the buffer goes, after all that is done with it. -/
def bufferEnds (build : MacBuild) (m : Meeting) (param : UInt8) (frame : List UInt8) :
    Option (List MacCall) :=
  ((zbMacParseRecvData build param frame m.received).2.mapM (settle build m frame)).map fun calls =>
    calls.flatten.filter MacCall.ends

/-- **The buffer ends in exactly one place.** -/
def OneOwner (build : MacBuild) (m : Meeting) (param : UInt8) (frame : List UInt8) : Prop :=
  ∃ place, bufferEnds build m param frame = some [place]

/-! ## The condition -/

/-- The frame ends a transfer that a poll waits for, and takes an entry of the queue for it. -/
def pollTaken (mhr : ZbMacMhr) (s : MacCtx) : Bool :=
  s.indirectDataRequest && checkFrameDstAddr mhr s && s.pollRequest &&
    fcfGetFrameType mhr.frameControl == macFrameData && s.rtCtx.bufRef != 0

/-- A data frame can be handed on, unless its acknowledgement fails. -/
def DataOwned (build : MacBuild) (m : Meeting) (mhr : ZbMacMhr) : Prop :=
  if build.nsBuild = true ∧ fcfGetAckRequestBit mhr.frameControl = true then
    m.sent ≠ .blocked ∧ (m.sent = .ok → m.called.cbRoom ≠ 0)
  else m.called.cbRoom ≠ 0

/-- A command has a branch that gives its buffer away. -/
def CommandOwned (build : MacBuild) (frame : List UInt8) (s : MacCtx) : Prop :=
  cmdId frame = macCmdBeaconRequest ∧ build.routerRole = true ∧ s.joinedPro = false ∨
    cmdId frame = macCmdAssociationRequest ∧ build.routerRole = true ∧ s.cbRoom ≠ 0 ∨
    cmdId frame = macCmdAssociationResponse ∧ (s.assRequest = true → s.cbRoom ≠ 0) ∨
    cmdId frame = macCmdDataRequest ∧ build.coordinatorRole = true ∧ s.txRoom ≠ 0 ∨
    cmdId frame = macCmdOrphanNotification ∧ build.limitedFeatures = false ∧
      fcfGetSrcAddressingMode (zbParseMhr frame).1.frameControl = zbAddr64bitDev ∧ s.cbRoom ≠ 0

/-- **The condition**: a frame that is not accepted, or one of a type and a command that are
handled, with room in the queues. -/
def Owned (build : MacBuild) (m : Meeting) (frame : List UInt8) : Prop :=
  let mhr := (zbParseMhr frame).1
  canAcceptFrame build mhr m.received = true →
    (fcfGetFrameType mhr.frameControl = macFrameData ∧
        (pollTaken mhr m.received).toNat < m.received.cbRoom ∧ DataOwned build m mhr ∨
      fcfGetFrameType mhr.frameControl = macFrameBeacon ∧ m.received.cbRoom ≠ 0 ∨
      fcfGetFrameType mhr.frameControl = macFrameAcknowledgment ∧
        (build.nsBuild = true ∨ m.received.cbRoom ≠ 0) ∨
      fcfGetFrameType mhr.frameControl = macFrameCommand ∧ m.received.cbRoom ≠ 0 ∧
        CommandOwned build frame m.called)

/-! ## What each function does with the buffer -/

section Calls

variable {build : MacBuild} {m : Meeting} {param : UInt8} {frame : List UInt8} {mhr : ZbMacMhr}
  {s : MacCtx} {call : MacCall}

/-- One place is left of the calls. -/
def OneEnd (calls : List MacCall) : Prop := ∃ place, calls.filter MacCall.ends = [place]

theorem oneEnd_single (takes : call.ends = true) : OneEnd [call] :=
  ⟨call, by rw [List.filter_cons_of_pos takes, List.filter_nil]⟩

@[simp] theorem not_oneEnd_nil : ¬ OneEnd [] := by
  rintro ⟨place, is⟩
  cases is

/-- An acknowledgement is not an end. -/
theorem oneEnd_acks {acked : Bool} {ackDsn : UInt8} {calls : List MacCall} :
    OneEnd ((if acked = true then [MacCall.sendAck ackDsn] else []) ++ calls) ↔ OneEnd calls := by
  cases acked <;> simp [OneEnd, MacCall.ends]

@[simp] theorem oneEnd_free : OneEnd [MacCall.freeBuf param] := oneEnd_single rfl

@[simp] theorem oneEnd_callback {cb : MacCallback} : OneEnd [MacCall.callback cb param] :=
  oneEnd_single rfl

@[simp] theorem schedule_one {cb : MacCallback} :
    OneEnd (scheduleCallback (.callback cb param) s).2 ↔ s.cbRoom ≠ 0 := by
  rw [scheduleCallback]
  split
  · rename_i full
    exact iff_of_false not_oneEnd_nil (not_not.2 full)
  · rename_i room
    exact iff_of_true (oneEnd_single rfl) room

@[simp] theorem scheduleTx_one :
    OneEnd (scheduleTxCb (.txAcceptDataRequest param) s).2 ↔ s.txRoom ≠ 0 := by
  rw [scheduleTxCb]
  split
  · rename_i full
    exact iff_of_false not_oneEnd_nil (not_not.2 full)
  · rename_i room
    exact iff_of_true (oneEnd_single rfl) room

/-- A beacon request is freed, whether or not there is room for the beacon. -/
theorem beaconReq_one : OneEnd ((scheduleTxCb .txHandleBeaconReq s).2 ++ [.freeBuf param]) := by
  rw [scheduleTxCb]
  split
  · exact oneEnd_free
  · exact oneEnd_free

/-- **A data frame** that is handled. -/
theorem data_one : OneEnd (zbHandleDataFrame build m.sent param frame m.called).2 ↔
    DataOwned build m (zbParseMhr frame).1 := by
  rw [zbHandleDataFrame, DataOwned]
  cases acked : build.nsBuild && fcfGetAckRequestBit (zbParseMhr frame).1.frameControl with
  | false =>
      have notAcked : ¬ (build.nsBuild = true ∧
          fcfGetAckRequestBit (zbParseMhr frame).1.frameControl = true) := by
        rw [← Bool.and_eq_true, acked]
        exact Bool.false_ne_true
      rw [if_neg notAcked]
      exact schedule_one
  | true =>
      rw [if_pos (Bool.and_eq_true_iff.1 acked)]
      cases sent : m.sent with
      | ok =>
          refine oneEnd_acks.trans (schedule_one.trans ?_)
          simp
      | blocked =>
          refine iff_of_false ?_ (by simp)
          simp [OneEnd, MacCall.ends]
      | error =>
          refine iff_of_true ?_ (by simp)
          exact oneEnd_acks.2 oneEnd_free

/-- An association response is confirmed, or freed. -/
theorem associationResponse_one :
    OneEnd (acceptAssociationResponse build param frame s).2 ↔ (s.assRequest = true → s.cbRoom ≠ 0) := by
  rw [acceptAssociationResponse]
  dsimp only
  split
  · rename_i waits
    rw [oneEnd_acks, schedule_one]
    exact ⟨fun room _ => room, fun room => room waits⟩
  · rename_i idle
    refine iff_of_true ?_ fun waits => absurd waits idle
    exact oneEnd_acks.2 oneEnd_free

/-- **A command** that is accepted. -/
theorem command_one :
    (∃ done, zbMlmeCommandAccept build param frame s = some done ∧ OneEnd done.2) ↔
      CommandOwned build frame s := by
  have one : ∀ done : MacCtx × List MacCall,
      (∃ done', some done = some done' ∧ OneEnd done'.2) ↔ OneEnd done.2 := by
    intro done
    constructor
    · rintro ⟨_, ⟨⟩, one⟩
      exact one
    · intro one
      exact ⟨done, rfl, one⟩
  rw [zbMlmeCommandAccept, CommandOwned]
  dsimp only
  by_cases beacon : cmdId frame = macCmdBeaconRequest
  · by_cases answers : build.routerRole = true ∧ s.joinedPro = false
    · rw [if_pos ⟨answers.1, beacon, answers.2⟩, one]
      exact iff_of_true beaconReq_one (.inl ⟨beacon, answers⟩)
    · simp [beacon, answers, macCmdBeaconRequest, macCmdAssociationRequest,
        macCmdAssociationResponse, macCmdDataRequest, macCmdOrphanNotification,
        macCmdCoordinatorRealignment]
  by_cases request : cmdId frame = macCmdAssociationRequest
  · cases router : build.routerRole <;>
      simp [request, macCmdBeaconRequest, macCmdAssociationRequest, macCmdAssociationResponse,
        macCmdDataRequest, macCmdOrphanNotification, macCmdCoordinatorRealignment]
  by_cases response : cmdId frame = macCmdAssociationResponse
  · simp [response, associationResponse_one, macCmdBeaconRequest, macCmdAssociationRequest,
      macCmdAssociationResponse, macCmdDataRequest, macCmdOrphanNotification]
  by_cases data : cmdId frame = macCmdDataRequest
  · cases coordinator : build.coordinatorRole <;>
      simp [data, macCmdBeaconRequest, macCmdAssociationRequest, macCmdAssociationResponse,
        macCmdDataRequest, macCmdOrphanNotification]
  by_cases orphan : cmdId frame = macCmdOrphanNotification
  · cases limited : build.limitedFeatures
    · by_cases long : fcfGetSrcAddressingMode (zbParseMhr frame).1.frameControl = zbAddr64bitDev <;>
        simp [orphan, long, macCmdBeaconRequest, macCmdAssociationRequest,
          macCmdAssociationResponse, macCmdDataRequest, macCmdOrphanNotification,
          macCmdCoordinatorRealignment]
    · simp [orphan, macCmdBeaconRequest, macCmdAssociationRequest, macCmdAssociationResponse,
        macCmdDataRequest, macCmdOrphanNotification, macCmdCoordinatorRealignment]
  · -- a realignment, or a command that is not supported
    simp only [beacon, request, response, data, orphan, false_and, and_false, or_false, iff_false,
      if_false]
    rintro ⟨done, is, one'⟩
    have none_ : done.2 = [] := by
      split at is
      · obtain ⟨t, -, rfl⟩ := Option.map_eq_some_iff.1 is
        rfl
      · cases is
        rfl
    rw [none_] at one'
    exact not_oneEnd_nil one'

/-! ### The three together -/

/-- One place is left of the calls of `zb_mac_parse_recv_data`, when those that are scheduled have
been made. -/
def Settled (build : MacBuild) (m : Meeting) (frame : List UInt8) (calls : List MacCall) : Prop :=
  ∃ place, ((calls.mapM (settle build m frame)).map fun calls =>
    calls.flatten.filter MacCall.ends) = some [place]

@[simp] theorem not_settled_nil : ¬ Settled build m frame [] := by
  rintro ⟨place, is⟩
  cases is

theorem settled_single : Settled build m frame [call] ↔
    ∃ done, settle build m frame call = some done ∧ OneEnd done := by
  cases is : settle build m frame call with
  | none => simp [Settled, is]
  | some done => simp [Settled, OneEnd, is]

theorem settled_free : Settled build m frame [.freeBuf param] :=
  settled_single.2 ⟨_, rfl, oneEnd_free⟩

theorem settled_schedule {cb : MacCallback} :
    Settled build m frame (scheduleCallback (.callback cb param) s).2 ↔
      s.cbRoom ≠ 0 ∧ ∃ done, settle build m frame (.callback cb param) = some done ∧ OneEnd done := by
  rw [scheduleCallback]
  split
  · rename_i full
    exact iff_of_false not_settled_nil fun owned => owned.1 full
  · rename_i room
    rw [settled_single]
    exact ⟨fun done => ⟨room, done⟩, And.right⟩

/-- A confirm of a poll is about another buffer. -/
theorem settled_confirmed {confirmed calls : List MacCall}
    (polls : ∀ call ∈ confirmed, ∃ bufRef status, call = .pollConfirm bufRef status) :
    Settled build m frame (confirmed ++ calls) ↔ Settled build m frame calls := by
  induction confirmed with
  | nil => rfl
  | cons call rest ih =>
      obtain ⟨bufRef, status, rfl⟩ := polls call List.mem_cons_self
      rw [← ih fun call mem => polls call (List.mem_cons_of_mem _ mem), Settled, Settled,
        List.cons_append, List.mapM_cons]
      cases (rest ++ calls).mapM (settle build m frame) with
      | none => simp [settle]
      | some done => simp [settle, MacCall.ends]

/-- A poll takes an entry of the queue. -/
theorem confirmPoll_spec :
    (confirmPoll mhr s).1.cbRoom = s.cbRoom - (s.pollRequest &&
        fcfGetFrameType mhr.frameControl == macFrameData && s.rtCtx.bufRef != 0).toNat ∧
      ∀ call ∈ (confirmPoll mhr s).2, ∃ bufRef status, call = .pollConfirm bufRef status := by
  rw [confirmPoll]
  by_cases taken : s.pollRequest = true ∧ fcfGetFrameType mhr.frameControl = macFrameData ∧
      s.rtCtx.bufRef ≠ 0
  · rw [if_pos taken, scheduleCallback]
    dsimp only
    split
    · rename_i full
      refine ⟨?_, nofun⟩
      rw [full, Nat.zero_sub]
    · refine ⟨?_, ?_⟩
      · simp [taken.1, taken.2.1, bne_iff_ne.2 taken.2.2]
      · intro call mem
        exact ⟨_, _, List.mem_singleton.1 mem⟩
  · rw [if_neg taken]
    refine ⟨?_, nofun⟩
    have not_ : (s.pollRequest && fcfGetFrameType mhr.frameControl == macFrameData &&
        s.rtCtx.bufRef != 0) = false := by
      rw [Bool.eq_false_iff]
      intro all
      simp only [Bool.and_eq_true, beq_iff_eq, bne_iff_ne] at all
      exact taken ⟨all.1.1, all.1.2, all.2⟩
    rw [not_]
    rfl

/-- **What the end of an indirect transfer does to the rest.** -/
theorem checkIndirect_spec :
    (checkIndirect mhr s).1.cbRoom = s.cbRoom - (pollTaken mhr s).toNat ∧
      ∀ call ∈ (checkIndirect mhr s).2, ∃ bufRef status, call = .pollConfirm bufRef status := by
  rw [checkIndirect, pollTaken]
  cases ends : s.indirectDataRequest && checkFrameDstAddr mhr s with
  | false => exact ⟨rfl, nofun⟩
  | true => exact confirmPoll_spec

/-- Where the dispatch leaves the buffer. -/
theorem dispatch_one : Settled build m frame (dispatchFrame build param (zbParseMhr frame).1 s).2 ↔
    (fcfGetFrameType (zbParseMhr frame).1.frameControl = macFrameData ∧ s.cbRoom ≠ 0 ∧
        DataOwned build m (zbParseMhr frame).1 ∨
      fcfGetFrameType (zbParseMhr frame).1.frameControl = macFrameBeacon ∧ s.cbRoom ≠ 0 ∨
      fcfGetFrameType (zbParseMhr frame).1.frameControl = macFrameAcknowledgment ∧
        (build.nsBuild = true ∨ s.cbRoom ≠ 0) ∨
      fcfGetFrameType (zbParseMhr frame).1.frameControl = macFrameCommand ∧ s.cbRoom ≠ 0 ∧
        CommandOwned build frame m.called) := by
  rw [dispatchFrame]
  dsimp only
  by_cases data : fcfGetFrameType (zbParseMhr frame).1.frameControl = macFrameData
  · rw [if_pos data, settled_schedule]
    simp [settle, data, data_one, macFrameData, macFrameBeacon, macFrameAcknowledgment,
      macFrameCommand]
  by_cases beacon : fcfGetFrameType (zbParseMhr frame).1.frameControl = macFrameBeacon
  · rw [if_neg data, if_pos beacon, settled_schedule]
    simp [settle, beacon, macFrameData, macFrameBeacon,
      macFrameAcknowledgment, macFrameCommand]
  by_cases ack : fcfGetFrameType (zbParseMhr frame).1.frameControl = macFrameAcknowledgment
  · rw [if_neg data, if_neg beacon, if_pos ack]
    cases ns : build.nsBuild with
    | true =>
        refine iff_of_true ?_ (.inr (.inr (.inl ⟨ack, .inl rfl⟩)))
        rw [if_pos rfl, zbMlmeAckAccept]
        split
        · exact settled_free
        · exact settled_free
    | false =>
        rw [if_neg Bool.false_ne_true, settled_schedule]
        simp [settle, ack, macFrameData, macFrameBeacon,
          macFrameAcknowledgment, macFrameCommand]
  by_cases command : fcfGetFrameType (zbParseMhr frame).1.frameControl = macFrameCommand
  · rw [if_neg data, if_neg beacon, if_neg ack, if_pos command, settled_schedule]
    have called : (∃ done, settle build m frame (.callback .zbMlmeCommandAccept param) = some done ∧
        OneEnd done) ↔ CommandOwned build frame m.called := by
      have one : (∃ done, zbMlmeCommandAccept build param frame m.called = some done ∧
          OneEnd done.2) ↔ _ := command_one
      rw [← one]
      constructor
      · rintro ⟨_, is, one⟩
        obtain ⟨done, accepted, rfl⟩ := Option.map_eq_some_iff.1 is
        exact ⟨done, accepted, one⟩
      · rintro ⟨done, is, one⟩
        exact ⟨done.2, Option.map_eq_some_iff.2 ⟨done, is, rfl⟩, one⟩
    simp [called, command, macFrameData, macFrameBeacon, macFrameAcknowledgment, macFrameCommand]
  · rw [if_neg data, if_neg beacon, if_neg ack, if_neg command]
    simp [data, beacon, ack, command]

end Calls

/-! ## The buffer of a frame -/

/-- Only a data frame is what a poll waits for. -/
theorem pollTaken_data {mhr : ZbMacMhr} {s : MacCtx}
    (other : fcfGetFrameType mhr.frameControl ≠ macFrameData) : pollTaken mhr s = false := by
  rw [pollTaken, beq_false_of_ne other, Bool.and_false, Bool.false_and]

/-- **A buffer ends in exactly one place** if and only if the frame is owned. -/
theorem one_owner_iff (build : MacBuild) (m : Meeting) (param : UInt8) (frame : List UInt8) :
    OneOwner build m param frame ↔ Owned build m frame := by
  have parsed : OneOwner build m param frame ↔ Settled build m frame
      (zbMacParseRecvData build param frame m.received).2 := Iff.rfl
  rw [Owned, parsed]
  cases accepted : canAcceptFrame build (zbParseMhr frame).1 m.received with
  | false =>
      have freed : (zbMacParseRecvData build param frame m.received).2 = [.freeBuf param] := by
        rw [zbMacParseRecvData, accepted]
        rfl
      rw [freed]
      exact iff_of_true settled_free nofun
  | true =>
      have both : (zbMacParseRecvData build param frame m.received).2 =
          (checkIndirect (zbParseMhr frame).1 m.received).2 ++
            (dispatchFrame build param (zbParseMhr frame).1
              (checkIndirect (zbParseMhr frame).1 m.received).1).2 := by
        rw [zbMacParseRecvData, accepted]
        rfl
      obtain ⟨room, polls⟩ := @checkIndirect_spec (zbParseMhr frame).1 m.received
      rw [both, settled_confirmed polls, dispatch_one]
      rw [room]
      refine Iff.trans ?_ (forall_prop_of_true rfl).symm
      by_cases data : fcfGetFrameType (zbParseMhr frame).1.frameControl = macFrameData
      · rw [data, Nat.sub_ne_zero_iff_lt]
        simp [macFrameData, macFrameBeacon, macFrameAcknowledgment, macFrameCommand]
      · rw [pollTaken_data data]
        simp [data]

/-! ## Poles -/

section Poles

/-- A router and coordinator, on the simulator. -/
def poleBuild : MacBuild := ⟨true, true, false, false, true⟩

def poleCtx : MacCtx where
  macShortAddress := 0x0001
  macExtendedAddress := #v[1, 1, 2, 2, 3, 3, 4, 4]
  macPanId := 0x1AAA
  macCoordShortAddress := 0x0000
  phyCurrentChannel := 14
  macRxOnWhenIdle := true
  joinedPro := false
  visibleAddresses := []
  invisibleShortAddresses := []
  ieeeByShort := fun _ => none
  indirectDataRequest := false
  pollRequest := false
  assRequest := false
  pendingData := false
  ackOk := false
  macStatus := 0
  ackDsn := 0
  mlmeScanInProgress := false
  pendingBuf := none
  scanTypeOf := fun _ => 0
  rtCtx := ⟨0, 0, 0⟩
  indirectDataTimeout := []
  ackTimeout := false
  cbRoom := 4
  txRoom := 4

/-- A realignment, to the short address of the router. -/
def realignment : List UInt8 := [0x03, 0x88, 0x2A, 0xAA, 0x1A, 0x01, 0x00, 0xAA, 0x1A, 0x00, 0x00, 0x08]

/-- **Its buffer is lost**: the branch of a realignment does not free it. -/
theorem realignment_lost : ¬ ∀ build m param frame, OneOwner build m param frame := by
  intro always
  obtain ⟨place, is⟩ := always poleBuild ⟨poleCtx, poleCtx, .ok⟩ 1 realignment
  have lost : bufferEnds poleBuild ⟨poleCtx, poleCtx, .ok⟩ 1 realignment = some [] := by decide
  rw [lost] at is
  cases is

/-- A frame of a reserved type is lost as well. -/
example : bufferEnds poleBuild ⟨poleCtx, poleCtx, .ok⟩ 1 [0x04, 0x00, 0x2A] = some [] := by decide

end Poles

end Zboss.Mac.Receive
