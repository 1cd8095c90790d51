/-
# Mac.Transmit -- the transmitter of the MAC, and its queue of indirect frames

`zb_mac_main_loop` gives the transmitter to one procedure of `mac_tx_q` at a time.  The procedure
sends a frame and leaves in `tx_wait_cb` what is called when `tx_cnt` says that a frame was sent;
until then the queue waits.  Indirect frames are kept in `pending_data_queue` until their device
asks for them, or their alarm runs out.

The builds with a transceiver, other than CC25XX, such as Linux on ARM with the UZ2400: it
acknowledges by itself, sending returns at once and an interrupt counts `tx_cnt`.  The build for the
simulator on a PC has `ZB_MANUAL_ACK` and is another one.  `air` has, of each frame sent and not counted yet, the
callback that is meant for it.  What is in a buffer goes with its reference, and the lengths of
frames are left out.

* `txCall`: one event, and what it puts out.
-/
import Mathlib
import Zboss.Common.Constants
import Zboss.Common.Scheduler
import Zboss.Mac.DataRequest
import Zboss.Mac.Receive
import Zboss.Theory.Run
import Zboss.Theory.Slots

namespace Zboss.Mac.Transmit

open Zboss.Common.Constants
open Zboss.Common.Types
open Zboss.Common.Scheduler (zbIobufPoolSize)
open Zboss.Mac.Header
open Zboss.Mac.DataRequest (macTxOptionIndirectTransmissionBit)
open Zboss.Mac.Receive (macCmdAssociationResponse)
open Zboss.Theory.Slots

set_option autoImplicit false

/-! ## Constants -/

def zbMacQueueSize : Nat := 4

def zbMacMaxRequests : Nat := 10

def zbMacPendingQueueSize : Nat := zbIobufPoolSize / 4

def macCounterError : UInt8 := 0xdb

def macTransactionExpired : UInt8 := 0xf0

def macTransactionOverflow : UInt8 := 0xf1

/-- What is compiled: MAC security, and the role that has indirect frames. -/
structure TxBuild where
  macSecurity : Bool
  routerRole : Bool

def routerBuild : TxBuild := ⟨false, true⟩

/-! ## Buffers -/

inductive EncryptType where
  | noEncr
  | nwkEncr
  | apsEncr
  | macEncr
  deriving DecidableEq

/-- `zb_mcps_data_req_params_t`, and the type of encryption of its buffer. -/
structure McpsDataReq where
  dstAddrMode : UInt8
  dstAddr : ZbIeeeAddr
  txOptions : UInt8
  securityLevel : UInt8
  encryptType : EncryptType

/-- A frame with its header: the command identifier is that of a command. -/
structure Frame where
  frameType : UInt8
  cmdId : UInt8
  encryptType : EncryptType
  deriving DecidableEq

/-- `zb_mac_pending_data_t`, with the frame in the buffer. -/
structure PendingData where
  pendingData : UInt8
  dstAddrMode : UInt8
  dstAddr : ZbIeeeAddr
  frame : Frame
  deriving DecidableEq

/-! ## The context -/

inductive TxWaitCb where
  | handleMcpsDataReqContinue
  | handleDataRequestCmdContinue
  | sendAssociationReqContinue
  | handleOrphanResponseContinue
  deriving DecidableEq

/-- The entries of `mac_tx_q`, with what is in their buffers. -/
inductive TxCb where
  | handleMcpsDataReq (param : UInt8) (req : McpsDataReq)
  | acceptDataRequestCmd (param : UInt8) (mhr : ZbMacMhr)
  | handleBeaconReq
  | sendAssociationReqCmd (param : UInt8)
  | handleOrphanResponse (param : UInt8)
  | handlePollRequest (param : UInt8)

/-- A frame that was sent: what is meant to be called when it is counted, and with which argument;
`none` is for a frame that nobody waits for. -/
abbrev Tx : Type := Option (TxWaitCb × UInt8)

/-- `zb_mac_data_req_storage_t`: `fcf` and `cmd_ptr` point into the buffer `fcf`; of `mhr_pend`
the frame type. -/
structure MacDataReqStorage where
  dataFoundIndex : Nat
  fcf : UInt8
  mhrPend : UInt8
  deriving DecidableEq

structure MacTx where
  macTxQ : List TxCb
  txWaitCb : Option TxWaitCb
  txWaitCbArg : UInt8
  txCnt : UInt8
  air : List Tx
  pendingDataQueue : Nat → Option PendingData
  /-- The parameters that `zb_mac_pending_data_timeout` is scheduled with. -/
  pendingDataTimeout : List Nat
  /-- `out`: requests put back for later. -/
  out : List UInt8
  macDataReq : MacDataReqStorage
  pendingBuf : Option UInt8
  macStatus : UInt8
  macFrameCounter : UInt32
  /-- Free entries of `cb_q`. -/
  cbRoom : Nat

/-- A MAC with nothing to do. -/
def idleTx : MacTx where
  macTxQ := []
  txWaitCb := none
  txWaitCbArg := 0
  txCnt := 0
  air := []
  pendingDataQueue := fun _ => none
  pendingDataTimeout := []
  out := []
  macDataReq := ⟨0, 0, 0⟩
  pendingBuf := none
  macStatus := 0
  macFrameCounter := 0
  cbRoom := 8

/-- What a procedure meets: what sending returns, and securing; whether beacons are sent; how many
frames are counted while it waits, and the status of a transmission that failed; and what is in the
buffer `fcf` where that was given away. -/
structure Radio where
  sent : Bool
  secured : Bool
  beacons : Bool
  counted : Nat
  channelError : Option UInt8
  stale : Frame

/-- What a step puts out.  The status of a confirmed buffer is what is written in it, if anything
is. -/
inductive TxCall where
  | send (tx : Tx) (buf : Option UInt8)
  | report (tx : Tx)
  /-- `tx_wait_cb = cb` -/
  | wait (cb : TxWaitCb) (arg : UInt8)
  | call (cb : TxWaitCb) (arg : UInt8)
  /-- A slot of the pending queue is taken. -/
  | queue (buf : UInt8)
  | mcpsDataConfirm (param : UInt8) (status : Option UInt8)
  | commStatusIndication (param : UInt8) (status : UInt8)
  | freeBuf (param : UInt8)
  /-- `ZB_SCHEDULE_ALARM(zb_mac_resp_timeout)` -/
  | respTimeout
  deriving DecidableEq

/-! ## Sending -/

/-- An interrupt: the frame that was sent first is counted. -/
def countSent (s : MacTx) : MacTx × List TxCall :=
  match s.air with
  | [] => (s, [])
  | tx :: air => ({ s with air, txCnt := s.txCnt + 1 }, [.report tx])

def countSentTimes : Nat → MacTx → MacTx × List TxCall
  | 0, s => (s, [])
  | n + 1, s =>
      let (s, calls) := countSent s
      let (s, more) := countSentTimes n s
      (s, calls ++ more)

/-- `ZB_TRANS_SEND_COMMAND`; the start of a transmission clears `tx_cnt`. -/
def transSendCommand (radio : Radio) (tx : Tx) (buf : Option UInt8) (s : MacTx) :
    MacTx × List TxCall :=
  if radio.sent then ({ s with txCnt := 0, air := s.air ++ [tx] }, [.send tx buf]) else (s, [])

/-- `ZB_WAIT_FOR_TX`; `none` is to wait forever. -/
def waitForTx (radio : Radio) (s : MacTx) : Option (MacTx × List TxCall) :=
  let r := countSentTimes radio.counted s
  if r.1.txCnt = 0 then none else some r

def waitForTxIf (waits : Bool) (radio : Radio) (s : MacTx) : Option (MacTx × List TxCall) :=
  if waits then waitForTx radio s else some (s, [])

/-- `zb_check_cmd_tx_status`, after `ZB_SKIP_TX_CHK`. -/
def checkCmdTxStatus (radio : Radio) (s : MacTx) : MacTx × Bool :=
  match radio.channelError with
  | some status => ({ s with macStatus := status }, false)
  | none => (s, true)

/-- `ZB_SCHEDULE_CALLBACK`: a full queue is not noticed. -/
def scheduleCallback (call : TxCall) (s : MacTx) : MacTx × List TxCall :=
  if s.cbRoom = 0 then (s, []) else ({ s with cbRoom := s.cbRoom - 1 }, [call])

/-- `zb_schedule_tx_cb`: the callers do not notice a full queue. -/
def scheduleTxCb (cb : TxCb) (s : MacTx) : MacTx :=
  if s.macTxQ.length = zbMacQueueSize then s else { s with macTxQ := s.macTxQ ++ [cb] }

/-- What follows a transmission that failed. -/
def failedStatus (s : MacTx) : UInt8 :=
  if s.macStatus ≠ macSuccess then s.macStatus else macInvalidParameter

/-! ## Indirect frames -/

/-- `RET_PENDING`, or `RET_ERROR`. -/
def putDataToPendingQueue (data : PendingData) (s : MacTx) : MacTx × Bool :=
  match firstFree Option.isSome s.pendingDataQueue zbMacPendingQueueSize with
  | none => ({ s with macStatus := macTransactionOverflow }, false)
  | some i =>
      ({ s with
        pendingDataQueue := Function.update s.pendingDataQueue i (some data)
        pendingDataTimeout := s.pendingDataTimeout ++ [i] }, true)

/-- `none` is its assertion. -/
def putRequestToQueue (request : UInt8) (s : MacTx) : Option MacTx :=
  if s.out.length = zbMacMaxRequests then none else some { s with out := s.out ++ [request] }

/-- The slot holds a frame for the device that sent this. -/
def isFor (mhr : ZbMacMhr) (data : PendingData) : Bool :=
  let srcAddrMode := fcfGetSrcAddressingMode mhr.frameControl
  srcAddrMode == data.dstAddrMode &&
    (if srcAddrMode = zbAddr64bitDev then data.dstAddr == mhr.srcAddr
    else if srcAddrMode = zbAddr16bitDevOrBroadcast then
      addrShort mhr.srcAddr == addrShort data.dstAddr
    else false)

def checkPendingData (mhr : ZbMacMhr) (s : MacTx) : Option Nat :=
  (List.range zbMacPendingQueueSize).find? fun i => (s.pendingDataQueue i).any (isFor mhr)

/-- `ZB_CLEAR_PENDING_QUEUE_SLOT` -/
def clearPendingQueueSlot (i : Nat) (s : MacTx) : MacTx :=
  { s with pendingDataQueue := Function.update s.pendingDataQueue i none }

/-- The alarm must be scheduled; `none` is a null pointer. -/
def zbMacPendingDataTimeout (param : Nat) (s : MacTx) : Option (MacTx × List TxCall) := do
  if param ∈ s.pendingDataTimeout then
    let s := { s with pendingDataTimeout := s.pendingDataTimeout.erase param }
    let data ← s.pendingDataQueue param
    let (s, calls) := scheduleCallback (.commStatusIndication data.pendingData macTransactionExpired) s
    return (clearPendingQueueSlot param s, calls)
  else none

/-- `zb_mlme_associate_response`, `zb_handle_associate_response` -/
def zbMlmeAssociateResponse (joinedPro : Bool) (param : UInt8) (deviceAddress : ZbIeeeAddr)
    (s : MacTx) : MacTx × List TxCall :=
  if joinedPro then (s, [.freeBuf param])
  else
    let s := { s with macStatus := macSuccess, pendingBuf := some param }
    let (s, queued) := putDataToPendingQueue
      ⟨param, zbAddr64bitDev, deviceAddress, ⟨macFrameCommand, macCmdAssociationResponse, .noEncr⟩⟩ s
    if queued then (s, [.queue param])
    else
      let (s, calls) := scheduleCallback (.commStatusIndication param s.macStatus) s
      ({ s with pendingBuf := none }, calls)

/-! ## Data requests -/

section Procedures

variable (build : TxBuild) (radio : Radio)

def securedReq (req : McpsDataReq) : Bool := build.macSecurity && req.securityLevel != 0

def indirectReq (req : McpsDataReq) : Bool :=
  build.routerRole && req.txOptions &&& macTxOptionIndirectTransmissionBit != 0

/-- The encryption of the buffer once its header is filled. -/
def encryptTypeOf (req : McpsDataReq) : EncryptType :=
  if securedReq build req then .macEncr else req.encryptType

/-- The frame counter of a secured frame is written, and is counted. -/
def countSecured (req : McpsDataReq) (s : MacTx) : MacTx :=
  { s with
    macFrameCounter := if securedReq build req then s.macFrameCounter + 1 else s.macFrameCounter }

inductive FillRet where
  | ok
  | pending
  | error
  deriving DecidableEq

def zbMcpsDataRequestFillHdr (param : UInt8) (req : McpsDataReq) (s : MacTx) :
    Option (MacTx × List TxCall × FillRet) :=
  if securedReq build req = true ∧ s.macFrameCounter = 0xFFFFFFFF then
    some ({ s with macStatus := macCounterError }, [], .error)
  else if indirectReq build req then
    let (s, queued) := putDataToPendingQueue
      ⟨param, req.dstAddrMode, req.dstAddr, ⟨macFrameData, 0, encryptTypeOf build req⟩⟩ s
    if queued then some (countSecured build req s, [.queue param], .pending)
    else
      (putRequestToQueue param { s with macStatus := macSuccess }).map fun s => (s, [], .pending)
  else some (countSecured build req s, [], .ok)

/-- What securing a frame of the network layer, or the MAC, returns counts; that of APS does not. -/
def zbMacCheckSecurity (encryptType : EncryptType) : Bool :=
  match encryptType with
  | .noEncr => true
  | .nwkEncr => radio.secured
  | .macEncr => !build.macSecurity || radio.secured
  | .apsEncr => true

def zbHandleMcpsDataReq (param : UInt8) (req : McpsDataReq) (s : MacTx) :
    Option (MacTx × List TxCall) := do
  let s := { s with pendingBuf := some param, macStatus := macSuccess }
  let (s, calls, ret) ← zbMcpsDataRequestFillHdr build param req s
  if ret = .ok ∧ zbMacCheckSecurity build radio (encryptTypeOf build req) = true then
    let s := { s with txWaitCb := some .handleMcpsDataReqContinue, txWaitCbArg := param }
    let (s, sends) :=
      transSendCommand radio (some (.handleMcpsDataReqContinue, param)) (some param) s
    return (s, calls ++ .wait .handleMcpsDataReqContinue param :: sends)
  else return (s, calls)

def zbHandleMcpsDataReqContinue (param : UInt8) (s : MacTx) : MacTx × List TxCall :=
  let (s, ok) := checkCmdTxStatus radio { s with pendingBuf := some param, txCnt := 1 }
  let s := if ok = false ∧ s.macStatus = macSuccess then { s with macStatus := macInvalidParameter } else s
  let (s, calls) := scheduleCallback (.mcpsDataConfirm param (some s.macStatus)) s
  ({ s with pendingBuf := none }, calls)

/-! ## Data request commands -/

/-- `zb_accept_data_request_cmd`, `zb_handle_data_request_cmd` -/
def zbHandleDataRequestCmd (param : UInt8) (mhr : ZbMacMhr) (s : MacTx) : MacTx × List TxCall :=
  let s := { s with pendingBuf := some param, macStatus := macSuccess }
  match (checkPendingData mhr s).bind fun i => (s.pendingDataQueue i).map (i, ·) with
  | none => ({ s with pendingBuf := none }, [.freeBuf param])
  | some (i, data) =>
      let (s, sends) :=
        if zbMacCheckSecurity build radio data.frame.encryptType then
          transSendCommand radio (some (.handleDataRequestCmdContinue, param)) (some data.pendingData) s
        else (s, [])
      ({ s with
        macDataReq := ⟨i, data.pendingData, data.frame.frameType⟩
        txWaitCb := some .handleDataRequestCmdContinue },
        sends ++ [.wait .handleDataRequestCmdContinue s.txWaitCbArg])

/-- What `fcf` and `cmd_ptr` point to. -/
def fcfFrame (data : PendingData) (s : MacTx) : Frame :=
  if data.pendingData = s.macDataReq.fcf then data.frame else radio.stale

/-- The status of an association response, in the buffer of the request; `none` is a null pointer. -/
def sendAssociationStatus (frame : Frame) (ok : Bool) (s : MacTx) : Option (MacTx × List TxCall) :=
  if frame.frameType = macFrameCommand ∧ frame.cmdId = macCmdAssociationResponse then do
    let buffer ← s.pendingBuf
    let status := if ok then macSuccess else failedStatus s
    let (s, calls) := scheduleCallback (.commStatusIndication buffer status) s
    return ({ s with pendingBuf := none }, calls)
  else some (s, [])

/-- The buffer of the slot is freed, or confirmed. -/
def endPendingData (data : PendingData) (s : MacTx) : MacTx × List TxCall :=
  if s.macDataReq.mhrPend = macFrameCommand then (s, [.freeBuf data.pendingData])
  else scheduleCallback (.mcpsDataConfirm data.pendingData none) s

def freePendingBuf (s : MacTx) : MacTx × List TxCall :=
  match s.pendingBuf with
  | some buffer => ({ s with pendingBuf := none }, [.freeBuf buffer])
  | none => (s, [])

/-- `none` is a null pointer. -/
def zbHandleDataRequestCmdContinue (s : MacTx) : Option (MacTx × List TxCall) := do
  let (s, ok) := checkCmdTxStatus radio { s with txCnt := 1 }
  let i := s.macDataReq.dataFoundIndex
  let data ← s.pendingDataQueue i
  let (s, status) ← sendAssociationStatus (fcfFrame radio data s) ok s
  let (s, ended) := endPendingData data s
  let s := clearPendingQueueSlot i { s with pendingDataTimeout := s.pendingDataTimeout.erase i }
  let (s, freed) := freePendingBuf s
  return (s, status ++ ended ++ freed)

/-! ## The other procedures -/

def zbHandleBeaconReq (s : MacTx) : MacTx × List TxCall :=
  if radio.beacons then transSendCommand radio none none s else (s, [])

/-- What sending returns is not looked at, and the argument is left as it was. -/
def zbMlmeSendAssociationReqCmd (param : UInt8) (s : MacTx) : MacTx × List TxCall :=
  let (s, sends) := transSendCommand radio (some (.sendAssociationReqContinue, param)) none s
  ({ s with txWaitCb := some .sendAssociationReqContinue },
    sends ++ [.wait .sendAssociationReqContinue s.txWaitCbArg])

def zbMlmeSendAssociationReqContinue (s : MacTx) : MacTx × List TxCall :=
  let (s, ok) := checkCmdTxStatus radio { s with txCnt := 1 }
  (s, if ok then [.respTimeout] else [])

def zbMlmeHandleOrphanResponse (param : UInt8) (s : MacTx) : MacTx × List TxCall :=
  let s := { s with
    pendingBuf := some param
    txWaitCb := some .handleOrphanResponseContinue
    txWaitCbArg := param }
  let (s, sends) := transSendCommand radio (some (.handleOrphanResponseContinue, param)) none s
  (s, .wait .handleOrphanResponseContinue param :: sends)

/-- `none` is a null pointer. -/
def zbMlmeHandleOrphanResponseContinue (s : MacTx) : Option (MacTx × List TxCall) := do
  let (s, ok) := checkCmdTxStatus radio { s with txCnt := 1 }
  let buffer ← s.pendingBuf
  return if ok then scheduleCallback (.commStatusIndication buffer macSuccess) s else (s, [])

/-- As far as it sends: its request is sent while the procedure waits. -/
def zbHandlePollRequest (param : UInt8) (s : MacTx) : Option (MacTx × List TxCall) := do
  let s := { s with pendingBuf := some param }
  let (s, before) ← waitForTxIf (s.txWaitCb.isSome && s.txCnt == 0) radio s
  let (s, sends) := transSendCommand radio none none s
  let (s, after) ← waitForTxIf radio.sent radio s
  return ({ s with pendingBuf := none }, before ++ sends ++ after)

/-! ## The loop -/

def callTxCb (s : MacTx) : TxCb → Option (MacTx × List TxCall)
  | .handleMcpsDataReq param req => zbHandleMcpsDataReq build radio param req s
  | .acceptDataRequestCmd param mhr => some (zbHandleDataRequestCmd build radio param mhr s)
  | .handleBeaconReq => some (zbHandleBeaconReq radio s)
  | .sendAssociationReqCmd param => some (zbMlmeSendAssociationReqCmd radio param s)
  | .handleOrphanResponse param => some (zbMlmeHandleOrphanResponse radio param s)
  | .handlePollRequest param => zbHandlePollRequest radio param s

def callTxWaitCb (arg : UInt8) (s : MacTx) : TxWaitCb → Option (MacTx × List TxCall)
  | .handleMcpsDataReqContinue => some (zbHandleMcpsDataReqContinue radio arg s)
  | .handleDataRequestCmdContinue => zbHandleDataRequestCmdContinue radio s
  | .sendAssociationReqContinue => some (zbMlmeSendAssociationReqContinue radio s)
  | .handleOrphanResponseContinue => zbMlmeHandleOrphanResponseContinue radio s

def zbMacMainLoop (s : MacTx) : Option (MacTx × List TxCall) :=
  match s.txWaitCb with
  | some cb =>
      if s.txCnt ≠ 0 then
        (callTxWaitCb radio s.txWaitCbArg { s with txCnt := 0 } cb).map fun r =>
          ({ r.1 with txWaitCb := none }, .call cb s.txWaitCbArg :: r.2)
      else some (s, [])
  | none =>
      match s.macTxQ with
      | [] => some (s, [])
      | cb :: _ =>
          (callTxCb build radio s cb).map fun r => ({ r.1 with macTxQ := r.1.macTxQ.tail }, r.2)

end Procedures

/-! ## Events -/

inductive TxEvent where
  /-- `zb_mcps_data_request`, a received command, or whatever else schedules for the transmitter. -/
  | schedule (cb : TxCb)
  | mainLoop (radio : Radio)
  /-- An interrupt of the transceiver. -/
  | counted
  | associateResponse (joinedPro : Bool) (param : UInt8) (deviceAddress : ZbIeeeAddr)
  | pendingDataTimeout (param : Nat)
  /-- A scan or a start sends a frame without the queue. -/
  | sendOutside (radio : Radio)
  /-- Whatever else runs. -/
  | elsewhere (pendingBuf : Option UInt8) (macStatus : UInt8) (macFrameCounter : UInt32)
      (cbRoom : Nat)

variable (build : TxBuild)

/-- One event; `none` where the program stops, or where it cannot happen. -/
def txCall (s : MacTx) : TxEvent → Option (MacTx × List TxCall)
  | .schedule cb => some (scheduleTxCb cb s, [])
  | .mainLoop radio => zbMacMainLoop build radio s
  | .counted => some (countSent s)
  | .associateResponse joinedPro param deviceAddress =>
      some (zbMlmeAssociateResponse joinedPro param deviceAddress s)
  | .pendingDataTimeout param => zbMacPendingDataTimeout param s
  | .sendOutside radio => some (transSendCommand radio none none s)
  | .elsewhere pendingBuf macStatus macFrameCounter cbRoom =>
      some ({ s with pendingBuf, macStatus, macFrameCounter, cbRoom }, [])

def txStep (s : MacTx) (event : TxEvent) : Option MacTx := (txCall build s event).map Prod.fst

/-- What an event puts out. -/
def txOut (s : MacTx) (event : TxEvent) : List TxCall := (txCall build s event).elim [] Prod.snd

theorem txStep_eq_some {build : TxBuild} {s t : MacTx} {event : TxEvent}
    (taken : txStep build s event = some t) : txCall build s event = some (t, txOut build s event) := by
  obtain ⟨r, is, rfl⟩ := Option.map_eq_some_iff.1 taken
  rw [txOut, is]
  rfl

/-! ## What each procedure does -/

section Procedures

variable {build : TxBuild} {radio : Radio} {s : MacTx} {param : UInt8} {req : McpsDataReq}
  {r : MacTx × List TxCall}

@[simp] theorem scheduleCallback_fst {call : TxCall} :
    (scheduleCallback call s).1 = { s with cbRoom := s.cbRoom - 1 } := by
  rw [scheduleCallback]
  split
  · rename_i full
    have none_ : s.cbRoom - 1 = s.cbRoom := by rw [full]
    rw [none_]
  · rfl

/-- What is scheduled takes room. -/
theorem scheduleCallback_room {call : TxCall} :
    s.cbRoom - 1 = s.cbRoom - (scheduleCallback call s).2.length := by
  rw [scheduleCallback]
  split
  · rename_i full
    rw [full]
    rfl
  · rfl

theorem scheduleCallback_length {call : TxCall} : (scheduleCallback call s).2.length ≤ 1 := by
  rw [scheduleCallback]
  split
  · exact Nat.zero_le 1
  · exact Nat.le_refl 1

theorem scheduleCallback_mem {call other : TxCall} (mem : other ∈ (scheduleCallback call s).2) :
    other = call := by
  rw [scheduleCallback] at mem
  split at mem
  · cases mem
  · exact List.mem_singleton.1 mem

@[simp] theorem checkCmdTxStatus_fst :
    (checkCmdTxStatus radio s).1 = { s with macStatus := radio.channelError.getD s.macStatus } := by
  rw [checkCmdTxStatus]
  cases radio.channelError with
  | none => rfl
  | some status => rfl

/-- As many frames as were sent can be counted. -/
theorem countSentTimes_eq (n : Nat) :
    (countSentTimes n s).1.air = s.air.drop n ∧
      (countSentTimes n s).2 = (s.air.take n).map .report ∧
      ∃ txCnt, (countSentTimes n s).1 = { s with air := s.air.drop n, txCnt } := by
  induction n generalizing s with
  | zero => exact ⟨rfl, rfl, s.txCnt, rfl⟩
  | succ n ih =>
      rw [countSentTimes, countSent]
      cases sent : s.air with
      | nil =>
          obtain ⟨air, calls, txCnt, same⟩ := ih (s := s)
          rw [sent, List.drop_nil] at air
          rw [sent, List.take_nil] at calls
          rw [sent, List.drop_nil] at same
          exact ⟨air, calls, txCnt, same⟩
      | cons tx air =>
          obtain ⟨left, calls, txCnt, same⟩ := ih (s := { s with air, txCnt := s.txCnt + 1 })
          exact ⟨left, congrArg (TxCall.report tx :: ·) calls, txCnt, same⟩

/-- Where a request is sent at once: its header is filled, and its frame is secured. -/
def goesOut (build : TxBuild) (radio : Radio) (req : McpsDataReq) (s : MacTx) : Bool :=
  !(securedReq build req && s.macFrameCounter == 0xFFFFFFFF) && !indirectReq build req &&
    zbMacCheckSecurity build radio (encryptTypeOf build req)

theorem goesOut_eq (counter : ¬ (securedReq build req = true ∧ s.macFrameCounter = 0xFFFFFFFF))
    (direct : indirectReq build req = false) :
    goesOut build radio req s = zbMacCheckSecurity build radio (encryptTypeOf build req) := by
  rw [goesOut, direct]
  cases secured : securedReq build req with
  | false => rfl
  | true =>
      have below : (s.macFrameCounter == 0xFFFFFFFF) = false := by
        rw [beq_eq_false_iff_ne]
        exact fun is => counter ⟨secured, is⟩
      rw [below]
      rfl

/-- **What a data request does**: it is queued, put back, sent, or nothing at all. -/
inductive Requested (build : TxBuild) (radio : Radio) (param : UInt8) (req : McpsDataReq)
    (s : MacTx) : MacTx × List TxCall → Prop where
  | counterError (is : securedReq build req = true ∧ s.macFrameCounter = 0xFFFFFFFF) :
      Requested build radio param req s
        ({ s with pendingBuf := some param, macStatus := macCounterError }, [])
  | queued (i : Nat) (indirect : indirectReq build req = true)
      (free : firstFree Option.isSome s.pendingDataQueue zbMacPendingQueueSize = some i)
      (macFrameCounter : UInt32) :
      Requested build radio param req s
        ({ s with
          pendingBuf := some param
          macStatus := macSuccess
          macFrameCounter
          pendingDataQueue := Function.update s.pendingDataQueue i
            (some ⟨param, req.dstAddrMode, req.dstAddr, ⟨macFrameData, 0, encryptTypeOf build req⟩⟩)
          pendingDataTimeout := s.pendingDataTimeout ++ [i] }, [.queue param])
  | putBack (indirect : indirectReq build req = true)
      (full : firstFree Option.isSome s.pendingDataQueue zbMacPendingQueueSize = none) :
      Requested build radio param req s
        ({ s with pendingBuf := some param, macStatus := macSuccess, out := s.out ++ [param] }, [])
  | insecure (direct : indirectReq build req = false) (stays : goesOut build radio req s = false)
      (macFrameCounter : UInt32) :
      Requested build radio param req s
        ({ s with pendingBuf := some param, macStatus := macSuccess, macFrameCounter }, [])
  | unsent (out : goesOut build radio req s = true) (fails : radio.sent = false)
      (macFrameCounter : UInt32) :
      Requested build radio param req s
        ({ s with
          pendingBuf := some param
          macStatus := macSuccess
          macFrameCounter
          txWaitCb := some .handleMcpsDataReqContinue
          txWaitCbArg := param }, [.wait .handleMcpsDataReqContinue param])
  | sent (out : goesOut build radio req s = true) (sent : radio.sent = true)
      (macFrameCounter : UInt32) :
      Requested build radio param req s
        ({ s with
          pendingBuf := some param
          macStatus := macSuccess
          macFrameCounter
          txWaitCb := some .handleMcpsDataReqContinue
          txWaitCbArg := param
          txCnt := 0
          air := s.air ++ [some (.handleMcpsDataReqContinue, param)] },
          [.wait .handleMcpsDataReqContinue param,
            .send (some (.handleMcpsDataReqContinue, param)) (some param)])

theorem handleMcpsDataReq_cases (ran : zbHandleMcpsDataReq build radio param req s = some r) :
    Requested build radio param req s r := by
  rw [zbHandleMcpsDataReq] at ran
  obtain ⟨⟨t, calls, ret⟩, filled, ran⟩ := Option.bind_eq_some_iff.1 ran
  rw [zbMcpsDataRequestFillHdr] at filled
  by_cases counter : securedReq build req = true ∧ s.macFrameCounter = 0xFFFFFFFF
  · rw [if_pos counter] at filled
    cases filled
    cases ran
    exact .counterError counter
  rw [if_neg counter] at filled
  cases indirect : indirectReq build req with
  | true =>
      rw [if_pos indirect] at filled
      cases free : firstFree Option.isSome s.pendingDataQueue zbMacPendingQueueSize with
      | none =>
          simp only [putDataToPendingQueue, free, Bool.false_eq_true, if_false,
            Option.map_eq_some_iff] at filled
          obtain ⟨u, put, is⟩ := filled
          cases is
          rw [putRequestToQueue] at put
          split at put
          · cases put
          · cases put
            cases ran
            exact .putBack indirect free
      | some i =>
          simp only [putDataToPendingQueue, free, if_true] at filled
          cases filled
          cases ran
          exact .queued i indirect free _
  | false =>
      rw [if_neg (by rw [indirect]; exact Bool.false_ne_true)] at filled
      cases filled
      have out := @goesOut_eq build radio s req counter indirect
      dsimp only at ran
      cases checks : zbMacCheckSecurity build radio (encryptTypeOf build req) with
      | false =>
          rw [if_neg (by rw [checks]; simp)] at ran
          cases ran
          exact .insecure indirect (out.trans checks) _
      | true =>
          rw [if_pos ⟨rfl, checks⟩] at ran
          rw [transSendCommand] at ran
          cases sent : radio.sent with
          | false =>
              rw [sent] at ran
              cases ran
              exact .unsent (out.trans checks) sent _
          | true =>
              rw [sent] at ran
              cases ran
              exact .sent (out.trans checks) sent _

/-- **The alarm of a slot**: its buffer goes to the comm-status, if there is room. -/
theorem pendingDataTimeout_cases {i : Nat} (ran : zbMacPendingDataTimeout i s = some r) :
    i ∈ s.pendingDataTimeout ∧ ∃ data, s.pendingDataQueue i = some data ∧
      r = ({ s with
        pendingDataTimeout := s.pendingDataTimeout.erase i
        cbRoom := s.cbRoom - 1
        pendingDataQueue := Function.update s.pendingDataQueue i none },
        if s.cbRoom = 0 then [] else [.commStatusIndication data.pendingData macTransactionExpired]) := by
  rw [zbMacPendingDataTimeout] at ran
  split at ran
  · rename_i alarm
    obtain ⟨data, slot, is⟩ := Option.bind_eq_some_iff.1 ran
    dsimp only at is slot
    rw [scheduleCallback_fst] at is
    cases is
    refine ⟨alarm, data, slot, Prod.ext rfl ?_⟩
    rw [scheduleCallback]
    split
    · rfl
    · rfl
  · cases ran

/-- **What an association response does**: it is freed, queued, or reported to have no room. -/
inductive Responded (param : UInt8) (s : MacTx) : MacTx × List TxCall → Prop where
  | freed : Responded param s (s, [.freeBuf param])
  | queued (i : Nat) (data : PendingData) (is : data.pendingData = param)
      (command : data.frame.frameType = macFrameCommand)
      (free : firstFree Option.isSome s.pendingDataQueue zbMacPendingQueueSize = some i) :
      Responded param s
        ({ s with
          pendingBuf := some param
          macStatus := macSuccess
          pendingDataQueue := Function.update s.pendingDataQueue i (some data)
          pendingDataTimeout := s.pendingDataTimeout ++ [i] }, [.queue param])
  | overflow (full : firstFree Option.isSome s.pendingDataQueue zbMacPendingQueueSize = none) :
      Responded param s
        ({ s with pendingBuf := none, macStatus := macTransactionOverflow, cbRoom := s.cbRoom - 1 },
          if s.cbRoom = 0 then [] else [.commStatusIndication param macTransactionOverflow])

theorem associateResponse_cases {joinedPro : Bool} {deviceAddress : ZbIeeeAddr} :
    Responded param s (zbMlmeAssociateResponse joinedPro param deviceAddress s) := by
  rw [zbMlmeAssociateResponse]
  cases joinedPro with
  | true => exact .freed
  | false =>
      rw [if_neg Bool.false_ne_true]
      cases free : firstFree Option.isSome s.pendingDataQueue zbMacPendingQueueSize with
      | some i =>
          simp only [putDataToPendingQueue, free, if_true]
          exact .queued i _ rfl rfl free
      | none =>
          simp only [putDataToPendingQueue, free, Bool.false_eq_true, if_false, scheduleCallback_fst]
          have reported := @Responded.overflow param s free
          rw [scheduleCallback]
          split
          · rename_i room
            rw [if_pos room] at reported
            exact reported
          · rename_i room
            rw [if_neg room] at reported
            exact reported

/-- **The end of a data request**: its buffer is confirmed, if there is room. -/
theorem handleMcpsDataReqContinue_eq : ∃ macStatus,
    zbHandleMcpsDataReqContinue radio param s =
      ({ s with pendingBuf := none, txCnt := 1, macStatus, cbRoom := s.cbRoom - 1 },
        if s.cbRoom = 0 then [] else [.mcpsDataConfirm param (some macStatus)]) := by
  rw [zbHandleMcpsDataReqContinue, checkCmdTxStatus]
  cases radio.channelError with
  | none =>
      refine ⟨s.macStatus, ?_⟩
      dsimp only
      rw [if_neg (fun failed => Bool.noConfusion failed.1), scheduleCallback_fst, scheduleCallback]
      split
      · rfl
      · rfl
  | some status =>
      dsimp only
      by_cases success : status = macSuccess
      · refine ⟨macInvalidParameter, ?_⟩
        rw [if_pos ⟨rfl, success⟩, scheduleCallback_fst, scheduleCallback]
        split
        · rfl
        · rfl
      · refine ⟨status, ?_⟩
        rw [if_neg (fun failed => success failed.2), scheduleCallback_fst, scheduleCallback]
        split
        · rfl
        · rfl

/-- **What a data request command does**: nothing is there, or the frame of the slot found is
chosen, and sent if it can be. -/
inductive Answered (build : TxBuild) (radio : Radio) (param : UInt8) (mhr : ZbMacMhr) (s : MacTx) :
    MacTx × List TxCall → Prop where
  | nothing (none_ : checkPendingData mhr s = none) :
      Answered build radio param mhr s
        ({ s with pendingBuf := none, macStatus := macSuccess }, [.freeBuf param])
  | unsent (i : Nat) (data : PendingData) (found : checkPendingData mhr s = some i)
      (slot : s.pendingDataQueue i = some data)
      (stays : (zbMacCheckSecurity build radio data.frame.encryptType && radio.sent) = false) :
      Answered build radio param mhr s
        ({ s with
          pendingBuf := some param
          macStatus := macSuccess
          macDataReq := ⟨i, data.pendingData, data.frame.frameType⟩
          txWaitCb := some .handleDataRequestCmdContinue },
          [.wait .handleDataRequestCmdContinue s.txWaitCbArg])
  | sent (i : Nat) (data : PendingData) (found : checkPendingData mhr s = some i)
      (slot : s.pendingDataQueue i = some data)
      (goes : (zbMacCheckSecurity build radio data.frame.encryptType && radio.sent) = true) :
      Answered build radio param mhr s
        ({ s with
          pendingBuf := some param
          macStatus := macSuccess
          macDataReq := ⟨i, data.pendingData, data.frame.frameType⟩
          txWaitCb := some .handleDataRequestCmdContinue
          txCnt := 0
          air := s.air ++ [some (.handleDataRequestCmdContinue, param)] },
          [.send (some (.handleDataRequestCmdContinue, param)) (some data.pendingData),
            .wait .handleDataRequestCmdContinue s.txWaitCbArg])

/-- The slot found holds a frame for the device. -/
theorem checkPendingData_eq_some {mhr : ZbMacMhr} {i : Nat}
    (found : checkPendingData mhr s = some i) :
    i < zbMacPendingQueueSize ∧ ∃ data, s.pendingDataQueue i = some data ∧ isFor mhr data = true := by
  obtain ⟨is, mem, -⟩ := List.find?_range_eq_some.1 found
  obtain ⟨data, slot, for_⟩ := (Option.any_eq_true _ _).1 is
  exact ⟨List.mem_range.1 mem, data, slot, for_⟩

theorem handleDataRequestCmd_cases {mhr : ZbMacMhr} :
    Answered build radio param mhr s (zbHandleDataRequestCmd build radio param mhr s) := by
  have same : checkPendingData mhr { s with pendingBuf := some param, macStatus := macSuccess } =
      checkPendingData mhr s := rfl
  rw [zbHandleDataRequestCmd]
  dsimp only
  rw [same]
  cases found : checkPendingData mhr s with
  | none => exact .nothing found
  | some i =>
      obtain ⟨-, data, slot, -⟩ := checkPendingData_eq_some found
      rw [Option.bind_some, slot, Option.map_some]
      dsimp only
      cases checks : zbMacCheckSecurity build radio data.frame.encryptType with
      | false =>
          rw [if_neg Bool.false_ne_true]
          exact .unsent i data found slot (by rw [checks]; rfl)
      | true =>
          rw [if_pos rfl, transSendCommand]
          cases sent : radio.sent with
          | false =>
              rw [if_neg Bool.false_ne_true]
              exact .unsent i data found slot (by rw [checks, sent]; rfl)
          | true =>
              rw [if_pos rfl]
              exact .sent i data found slot (by rw [checks, sent]; rfl)

/-- What becomes of the buffer in the slot. -/
def endCalls (mhrPend : UInt8) (data : PendingData) (room : Nat) : List TxCall :=
  if mhrPend = macFrameCommand then [.freeBuf data.pendingData]
  else if room = 0 then [] else [.mcpsDataConfirm data.pendingData none]

/-- **What the continuation of a data request command does**: it ends the frame in the slot, and
gives away `pending_buf`. -/
inductive Continued (radio : Radio) (s : MacTx) : MacTx × List TxCall → Prop where
  | mk (data : PendingData) (status freed : List TxCall) (macStatus : UInt8) (cbRoom : Nat)
      (slot : s.pendingDataQueue s.macDataReq.dataFoundIndex = some data)
      (about : ∀ call ∈ status ++ freed, ∃ buffer, s.pendingBuf = some buffer ∧
        (call = .freeBuf buffer ∨ ∃ status, call = .commStatusIndication buffer status))
      (association : (fcfFrame radio data s).frameType ≠ macFrameCommand → status = [])
      (once : (status ++ freed).length ≤ 1) :
      Continued radio s
        ({ s with
          txCnt := 1
          macStatus
          cbRoom
          pendingBuf := none
          pendingDataTimeout := s.pendingDataTimeout.erase s.macDataReq.dataFoundIndex
          pendingDataQueue := Function.update s.pendingDataQueue s.macDataReq.dataFoundIndex none },
          status ++ endCalls s.macDataReq.mhrPend data (s.cbRoom - status.length) ++ freed)

theorem endPendingData_eq (data : PendingData) (s : MacTx) : ∃ cbRoom,
    endPendingData data s = ({ s with cbRoom }, endCalls s.macDataReq.mhrPend data s.cbRoom) := by
  rw [endPendingData, endCalls]
  split
  · exact ⟨s.cbRoom, rfl⟩
  · rw [scheduleCallback]
    split
    · exact ⟨s.cbRoom, rfl⟩
    · exact ⟨s.cbRoom - 1, rfl⟩

/-- The status of an association is told with `pending_buf`, or there is none to tell. -/
theorem sendAssociationStatus_cases {frame : Frame} {ok : Bool} {t : MacTx} {status : List TxCall}
    (told : sendAssociationStatus frame ok s = some (t, status)) :
    (frame.frameType = macFrameCommand ∧ ∃ buffer, s.pendingBuf = some buffer ∧
        t = { s with cbRoom := s.cbRoom - status.length, pendingBuf := none } ∧
        status.length ≤ 1 ∧ ∀ call ∈ status, ∃ status, call = .commStatusIndication buffer status) ∨
      (t = s ∧ status = []) := by
  rw [sendAssociationStatus] at told
  split at told
  · rename_i command
    obtain ⟨buffer, has, is⟩ := Option.bind_eq_some_iff.1 told
    dsimp only at is
    rw [scheduleCallback_fst] at is
    cases is
    refine .inl ⟨command.1, buffer, has, ?_, scheduleCallback_length,
      fun call mem => ⟨_, scheduleCallback_mem mem⟩⟩
    rw [← scheduleCallback_room]
  · cases told
    exact .inr ⟨rfl, rfl⟩

theorem handleDataRequestCmdContinue_cases (ran : zbHandleDataRequestCmdContinue radio s = some r) :
    Continued radio s r := by
  rw [zbHandleDataRequestCmdContinue] at ran
  have checked := @checkCmdTxStatus_fst radio { s with txCnt := 1 }
  generalize checkCmdTxStatus radio { s with txCnt := 1 } = c at ran checked
  obtain ⟨t, ok⟩ := c
  dsimp only at ran checked
  subst checked
  obtain ⟨data, slot, ran⟩ := Option.bind_eq_some_iff.1 ran
  obtain ⟨⟨u, status⟩, associated, ran⟩ := Option.bind_eq_some_iff.1 ran
  obtain ⟨room, ended⟩ := endPendingData_eq data u
  dsimp only at slot ran
  rw [ended, freePendingBuf] at ran
  rcases sendAssociationStatus_cases associated with
    ⟨command, buffer, has, rfl, once, told⟩ | ⟨rfl, rfl⟩
  · cases ran
    refine .mk data status [] _ _ slot ?_ (fun other => absurd command other)
      (by rwa [List.append_nil])
    intro call mem
    rw [List.append_nil] at mem
    exact ⟨buffer, has, .inr (told call mem)⟩
  · dsimp only at ran
    cases has : s.pendingBuf with
    | none =>
        rw [has] at ran
        cases ran
        exact .mk data [] [] _ _ slot nofun (fun _ => rfl) (Nat.zero_le 1)
    | some buffer =>
        rw [has] at ran
        cases ran
        refine .mk data [] [.freeBuf buffer] _ _ slot ?_ (fun _ => rfl) (Nat.le_refl 1)
        intro call mem
        exact ⟨buffer, has, .inl (List.mem_singleton.1 mem)⟩

theorem sendAssociationReqContinue_eq : ∃ macStatus,
    (zbMlmeSendAssociationReqContinue radio s).1 = { s with txCnt := 1, macStatus } ∧
      ∀ call ∈ (zbMlmeSendAssociationReqContinue radio s).2, call = .respTimeout := by
  rw [zbMlmeSendAssociationReqContinue]
  refine ⟨_, checkCmdTxStatus_fst, fun call mem => ?_⟩
  dsimp only at mem
  split at mem
  · exact List.mem_singleton.1 mem
  · cases mem

/-- The orphan is reported with what is in `pending_buf`. -/
theorem handleOrphanResponseContinue_cases
    (ran : zbMlmeHandleOrphanResponseContinue radio s = some r) :
    ∃ buffer macStatus cbRoom, s.pendingBuf = some buffer ∧
      r.1 = { s with txCnt := 1, macStatus, cbRoom } ∧ r.2.length ≤ 1 ∧
      ∀ call ∈ r.2, call = .commStatusIndication buffer macSuccess := by
  rw [zbMlmeHandleOrphanResponseContinue] at ran
  have checked := @checkCmdTxStatus_fst radio { s with txCnt := 1 }
  generalize checkCmdTxStatus radio { s with txCnt := 1 } = c at ran checked
  obtain ⟨t, ok⟩ := c
  dsimp only at ran checked
  subst checked
  obtain ⟨buffer, has, is⟩ := Option.bind_eq_some_iff.1 ran
  cases is
  split
  · exact ⟨buffer, _, _, has, scheduleCallback_fst, scheduleCallback_length,
      fun call mem => scheduleCallback_mem mem⟩
  · exact ⟨buffer, _, s.cbRoom, has, rfl, Nat.zero_le 1, nofun⟩

/-- Waiting counts frames that were sent. -/
theorem waitForTxIf_cases {waits : Bool} (ran : waitForTxIf waits radio s = some r) :
    ∃ air txCnt, r.1 = { s with air, txCnt } ∧ air ⊆ s.air ∧
      ∀ call ∈ r.2, ∃ tx ∈ s.air, call = .report tx := by
  rw [waitForTxIf, waitForTx] at ran
  obtain ⟨air, calls, txCnt, same⟩ := @countSentTimes_eq s radio.counted
  split at ran
  · split at ran
    · cases ran
    · cases ran
      refine ⟨_, txCnt, same, List.drop_subset _ _, fun call mem => ?_⟩
      rw [calls] at mem
      obtain ⟨tx, sent, rfl⟩ := List.mem_map.1 mem
      exact ⟨tx, List.mem_of_mem_take sent, rfl⟩
  · cases ran
    exact ⟨s.air, s.txCnt, rfl, List.Subset.refl _, nofun⟩

theorem transSendCommand_cases {tx : Tx} {buf : Option UInt8} :
    ∃ air txCnt, (transSendCommand radio tx buf s).1 = { s with air, txCnt } ∧
      air ⊆ s.air ++ [tx] ∧ ∀ call ∈ (transSendCommand radio tx buf s).2, call = .send tx buf := by
  rw [transSendCommand]
  split
  · exact ⟨_, 0, rfl, List.Subset.refl _, fun call mem => List.mem_singleton.1 mem⟩
  · exact ⟨s.air, s.txCnt, rfl, List.subset_append_left _ _, nofun⟩

theorem handleBeaconReq_cases :
    ∃ air txCnt, (zbHandleBeaconReq radio s).1 = { s with air, txCnt } ∧
      ∀ call ∈ (zbHandleBeaconReq radio s).2, call = .send none none := by
  rw [zbHandleBeaconReq]
  split
  · obtain ⟨air, txCnt, is, -, sent⟩ := @transSendCommand_cases radio s none none
    exact ⟨air, txCnt, is, sent⟩
  · exact ⟨s.air, s.txCnt, rfl, nofun⟩

theorem sendAssociationReqCmd_cases :
    ∃ air txCnt, (zbMlmeSendAssociationReqCmd radio param s).1 =
        { s with air, txCnt, txWaitCb := some .sendAssociationReqContinue } ∧
      ∀ call ∈ (zbMlmeSendAssociationReqCmd radio param s).2,
        call = .send (some (.sendAssociationReqContinue, param)) none ∨
          call = .wait .sendAssociationReqContinue s.txWaitCbArg := by
  obtain ⟨air, txCnt, is, -, sent⟩ :=
    @transSendCommand_cases radio s (some (.sendAssociationReqContinue, param)) none
  rw [zbMlmeSendAssociationReqCmd]
  dsimp only
  rw [is]
  refine ⟨air, txCnt, rfl, fun call mem => ?_⟩
  cases List.mem_append.1 mem with
  | inl sends => exact .inl (sent call sends)
  | inr waits => exact .inr (List.mem_singleton.1 waits)

theorem handleOrphanResponse_cases :
    ∃ air txCnt, (zbMlmeHandleOrphanResponse radio param s).1 =
        { s with
          air
          txCnt
          pendingBuf := some param
          txWaitCb := some .handleOrphanResponseContinue
          txWaitCbArg := param } ∧
      ∀ call ∈ (zbMlmeHandleOrphanResponse radio param s).2,
        call = .send (some (.handleOrphanResponseContinue, param)) none ∨
          call = .wait .handleOrphanResponseContinue param := by
  rw [zbMlmeHandleOrphanResponse]
  dsimp only
  obtain ⟨air, txCnt, is, -, sent⟩ := @transSendCommand_cases radio
    { s with
      pendingBuf := some param
      txWaitCb := some .handleOrphanResponseContinue
      txWaitCbArg := param } (some (.handleOrphanResponseContinue, param)) none
  refine ⟨air, txCnt, is, fun call mem => ?_⟩
  cases List.mem_cons.1 mem with
  | inl waits => exact .inr waits
  | inr sends => exact .inl (sent call sends)

/-- **A poll** sends a frame that nobody is meant by, and waits. -/
theorem handlePollRequest_cases (ran : zbHandlePollRequest radio param s = some r) :
    ∃ air txCnt, r.1 = { s with pendingBuf := none, air, txCnt } ∧ air ⊆ s.air ++ [none] ∧
      ∀ call ∈ r.2, call = .send none none ∨ ∃ tx ∈ s.air ++ [none], call = .report tx := by
  rw [zbHandlePollRequest] at ran
  obtain ⟨⟨t, before⟩, first, ran⟩ := Option.bind_eq_some_iff.1 ran
  have sending := @transSendCommand_cases radio t none none
  dsimp only at ran
  generalize transSendCommand radio none none t = c at ran sending
  obtain ⟨v, sends⟩ := c
  obtain ⟨⟨u, after⟩, second, ran⟩ := Option.bind_eq_some_iff.1 ran
  cases ran
  obtain ⟨air, txCnt, is, fromBefore, reported⟩ := waitForTxIf_cases first
  obtain ⟨airSent, cntSent, isSent, fromSent, sent⟩ := sending
  obtain ⟨airAfter, cntAfter, isAfter, fromAfter, reportedAfter⟩ := waitForTxIf_cases second
  have airs : airSent ⊆ s.air ++ [none] := by
    intro tx mem
    have old := fromSent mem
    rw [show t.air = air from congrArg MacTx.air is] at old
    cases List.mem_append.1 old with
    | inl left => exact List.mem_append_left _ (fromBefore left)
    | inr right => exact List.mem_append_right _ right
  dsimp only at is isSent isAfter fromAfter reportedAfter
  subst is isSent isAfter
  refine ⟨airAfter, cntAfter, rfl, fun tx mem => airs (fromAfter mem), fun call mem => ?_⟩
  cases List.mem_append.1 mem with
  | inl early =>
      cases List.mem_append.1 early with
      | inl first =>
          obtain ⟨tx, old, is⟩ := reported call first
          exact .inr ⟨tx, List.mem_append_left _ old, is⟩
      | inr middle => exact .inl (sent call middle)
  | inr late =>
      obtain ⟨tx, old, is⟩ := reportedAfter call late
      exact .inr ⟨tx, airs old, is⟩

/-- **One turn of the loop**: it does nothing, calls the continuation that waits, or takes what is
first in the queue. -/
inductive Turned (build : TxBuild) (radio : Radio) (s : MacTx) : MacTx × List TxCall → Prop where
  | nothing : Turned build radio s (s, [])
  | calls (cb : TxWaitCb) (called : MacTx × List TxCall) (waits : s.txWaitCb = some cb)
      (counted : s.txCnt ≠ 0)
      (ran : callTxWaitCb radio s.txWaitCbArg { s with txCnt := 0 } cb = some called) :
      Turned build radio s
        ({ called.1 with txWaitCb := none }, .call cb s.txWaitCbArg :: called.2)
  | takes (entry : TxCb) (rest : List TxCb) (called : MacTx × List TxCall)
      (idle : s.txWaitCb = none) (queue : s.macTxQ = entry :: rest)
      (ran : callTxCb build radio s entry = some called) :
      Turned build radio s ({ called.1 with macTxQ := called.1.macTxQ.tail }, called.2)

theorem mainLoop_cases (ran : zbMacMainLoop build radio s = some r) : Turned build radio s r := by
  unfold zbMacMainLoop at ran
  split at ran
  · rename_i cb waits
    split at ran
    · rename_i counted
      obtain ⟨called, went, rfl⟩ := Option.map_eq_some_iff.1 ran
      exact .calls cb called waits counted went
    · cases ran
      exact .nothing
  · rename_i idle
    split at ran
    · cases ran
      exact .nothing
    · rename_i entry rest queue
      obtain ⟨called, took, rfl⟩ := Option.map_eq_some_iff.1 ran
      exact .takes entry rest called idle queue took

end Procedures

end Zboss.Mac.Transmit
