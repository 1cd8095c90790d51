/-
# Mac.PendingBuf -- whether a procedure that is resumed finds its own buffer

`pending_buf` is one pointer for all procedures of the MAC.  A scan, an association and the answer
to a data request command wait for an alarm or a transmission, and read it again when they are
resumed; any request, and any frame that is received, may have written it meanwhile.

With each procedure that waits goes the buffer with which it was started, until that is handed on:
`Owner`.  The transmitter is that of `Mac.Transmit`; the builds are those with all scans.

* `resumed`: who reads `pending_buf` in an event, and which buffer is its own;
* `procCall_lands`: what one event that `Fits` leaves;
* `own_buffer_of_run`: along every run that `Fits`, each finds its own buffer.

Poles: `refused_scan_confirms_other`, a scan that is refused with the buffer of another one.
-/
import Mathlib
import Zboss.Common.Constants
import Zboss.Mac.IndirectQueue
import Zboss.Mac.ScanStep

namespace Zboss.Mac.PendingBuf

open Zboss.Common.Constants
open Zboss.Common.Types
open Zboss.Theory.Run
open Zboss.Mac.Header
open Zboss.Mac.Transmit
open Zboss.Mac.Receive (orphanScan)
open Zboss.Mac.IndirectQueue (handsOn transceiver)
open Zboss.Mac.ScanStep (clearChannel hasChannel loopChannels)

set_option autoImplicit false

/-! ## Constants -/

def zbMaxScanDurationValue : UInt8 := 14

def zbTurnOffOrder : UInt8 := 15

def zbMacShortAddrNoValue : UInt16 := 0xFFFF

structure MlmeScanParams where
  scanType : UInt8
  channels : UInt32
  scanDuration : UInt8

structure MlmeStartReq where
  beaconOrder : UInt8
  superframeOrder : UInt8
  coordRealignment : Bool

/-! ## The procedures that wait -/

/-- The buffer with which a procedure was started; none once it was handed on. -/
abbrev Owner : Type := Option UInt8

/-- The callbacks of scans that are scheduled. -/
inductive ScanCb where
  | handleScanRequest (param : UInt8) (params : MlmeScanParams)
  | mlmeScanStep (owner : Owner)

structure MacProcs where
  tx : MacTx
  callbacks : List ScanCb
  /-- The alarms of `zb_mlme_scan_step`. -/
  scanSteps : List Owner
  /-- The alarms of `zb_mac_resp_timeout`. -/
  respTimeouts : List Owner
  mlmeScanInProgress : Bool
  unscannedChannels : UInt32
  /-- Of the scan in progress. -/
  scanOwner : Owner
  /-- Of `tx_wait_cb`. -/
  waitOwner : Owner

inductive ProcCall where
  | tx (call : TxCall)
  | scanConfirm (param : UInt8)
  | startConfirm (param : UInt8)
  | associateConfirm (param : UInt8)
  | dataIndication (param : UInt8)
  | associateIndication (param : UInt8)

/-- The buffer that is handed to another layer, or freed. -/
def gives : ProcCall → Option UInt8
  | .tx call => handsOn call
  | .scanConfirm param => some param
  | .startConfirm param => some param
  | .associateConfirm param => some param
  | .dataIndication param => some param
  | .associateIndication param => some param

def MacProcs.setPendingBuf (s : MacProcs) (buf : Option UInt8) : MacProcs :=
  { s with tx := { s.tx with pendingBuf := buf } }

def MacProcs.setMacStatus (s : MacProcs) (macStatus : UInt8) : MacProcs :=
  { s with tx := { s.tx with macStatus } }

/-- `ZB_SCHEDULE_CALLBACK`: a full queue is not noticed. -/
def scheduleProc (call : ProcCall) (s : MacProcs) : MacProcs × List ProcCall :=
  if s.tx.cbRoom = 0 then (s, [])
  else ({ s with tx := { s.tx with cbRoom := s.tx.cbRoom - 1 } }, [call])

def scheduleScanCb (cb : ScanCb) (s : MacProcs) : MacProcs :=
  if s.tx.cbRoom = 0 then s
  else { s with callbacks := s.callbacks ++ [cb], tx := { s.tx with cbRoom := s.tx.cbRoom - 1 } }

/-! ## Sending without the queue -/

/-- The frame is sent, and waited for; `none` is to wait forever. -/
def sendAndWait (always : Bool) (radio : Radio) (s : MacProcs) : Option (MacProcs × List ProcCall) :=
  let (tx, sends) := transSendCommand radio none none s.tx
  (waitForTxIf (always || radio.sent) radio tx).map fun r =>
    ({ s with tx := r.1 }, (sends ++ r.2).map .tx)

/-- The same, and `zb_check_cmd_tx_status`. -/
def sendChecked (radio : Radio) (s : MacProcs) : Option (MacProcs × List ProcCall × Bool) :=
  (sendAndWait false radio s).map fun r =>
    let (tx, ok) := checkCmdTxStatus radio r.1.tx
    if radio.sent then ({ r.1 with tx }, r.2, ok) else (r.1, r.2, false)

/-- `ZB_WAIT_FOR_TX`, after a frame that is sent, if any is. -/
def waitAfter (sends : Bool) (radio : Radio) (s : MacProcs) : Option (MacProcs × List ProcCall) :=
  if sends then sendAndWait true radio s
  else (waitForTx radio s.tx).map fun r => ({ s with tx := r.1 }, r.2.map .tx)

/-- `zb_realign_pan`: there is a beacon first in the beacon mode, and no command if that failed. -/
def zbRealignPan (beaconMode : Bool) (first second : Radio) (s : MacProcs) :
    Option (MacProcs × List ProcCall) := do
  let (s, before) ← waitAfter beaconMode first s
  let (s, after) ← waitAfter (!beaconMode || first.sent) second s
  return (s, before ++ after)

/-! ## Scans -/

def wrongDuration (params : MlmeScanParams) : Bool :=
  decide (zbMaxScanDurationValue < params.scanDuration) && params.scanType != orphanScan

def scanStatus (params : MlmeScanParams) : UInt8 :=
  if wrongDuration params then macInvalidParameter else macSuccess

/-- A scan is not started: its duration is wrong, or there is a scan. -/
def refusedScan (params : MlmeScanParams) (s : MacProcs) : Bool :=
  wrongDuration params || s.mlmeScanInProgress

/-- What a scan that is refused confirms is `pending_buf`; `none` is a null pointer. -/
def zbMlmeScanRequest (param : UInt8) (params : MlmeScanParams) (s : MacProcs) :
    Option (MacProcs × List ProcCall) :=
  let s := s.setMacStatus (scanStatus params)
  if refusedScan params s then
    s.tx.pendingBuf.map fun buffer => scheduleProc (.scanConfirm buffer) s
  else
    some (scheduleScanCb (.handleScanRequest param params) (s.setPendingBuf (some param)), [])

def zbHandleScanRequest (param : UInt8) (params : MlmeScanParams) (s : MacProcs) : MacProcs :=
  let s := s.setPendingBuf (some param)
  if params.scanType = activeScan then
    scheduleScanCb (.mlmeScanStep (some param)) { s with unscannedChannels := params.channels }
  else if params.scanType = edScan ∨ params.scanType = orphanScan then
    { s with
      unscannedChannels := params.channels
      scanSteps := s.scanSteps ++ [some param] }
  else s.setMacStatus macInvalidParameter

/-- What a step reads in `pending_buf`, what it meets, and which alarm is cancelled. -/
structure Step where
  scanType : UInt8
  radio : Radio
  cancelled : Nat
  /-- what `1l << i` is for an `i` from 32 on -/
  beyond : UInt8 → UInt32

def sendScan (step : Step) (s : MacProcs) : Option (MacProcs × List ProcCall) :=
  if step.scanType = activeScan then
    (sendChecked step.radio s).map fun r => (r.1, r.2.1)
  else if step.scanType = orphanScan then sendAndWait true step.radio s
  else some (s, [])

/-- `none` is a null pointer, or to wait forever. -/
def zbMlmeScanStep (owner : Owner) (step : Step) (s : MacProcs) :
    Option (MacProcs × List ProcCall) := do
  let buffer ← s.tx.pendingBuf
  let s := { s with mlmeScanInProgress := true, scanOwner := owner }
  match loopChannels.find? (hasChannel step.beyond s.unscannedChannels) with
  | some channel =>
      let s := { s with
        unscannedChannels := clearChannel step.beyond s.unscannedChannels channel }
      let (s, calls) ← sendScan step s
      let alarms := if step.scanType = edScan then s.scanSteps ++ [owner] else s.scanSteps
      return ({ s with
        scanSteps := alarms.eraseIdx (step.cancelled % alarms.length) ++ [owner] }, calls)
  | none => return scheduleProc (.scanConfirm buffer) { s with mlmeScanInProgress := false }

/-- As far as it reads `pending_buf`. -/
def coordinatorRealignment (s : MacProcs) : Option (MacProcs × List ProcCall) :=
  if s.mlmeScanInProgress then s.tx.pendingBuf.map fun _ => (s, []) else some (s, [])

/-! ## The other procedures -/

/-- Whether data is pending is what the acknowledgement says; `none` is a null pointer, or to wait
forever. -/
def zbMacRespTimeout (radio : Radio) (pendingData : Bool) (s : MacProcs) :
    Option (MacProcs × List ProcCall) := do
  let buffer ← s.tx.pendingBuf
  let (s, calls, ok) ← sendChecked radio s
  if ok && pendingData then
    return (s.setPendingBuf none, calls ++ [.tx (.freeBuf buffer)])
  else
    let s := if ok then s.setMacStatus macNoData else s
    let (s, confirmed) := scheduleProc (.associateConfirm buffer) s
    return (s, calls ++ confirmed)

def startValid (req : MlmeStartReq) (shortAddress : UInt16) : Bool :=
  !(decide (zbTurnOffOrder < req.beaconOrder) ||
    (decide (req.beaconOrder < req.superframeOrder) && req.superframeOrder != zbTurnOffOrder)) &&
    shortAddress != zbMacShortAddrNoValue

/-- `zb_mlme_start_request`, `zb_mac_process_mlme_start` -/
def zbMlmeStartRequest (param : UInt8) (req : MlmeStartReq) (shortAddress : UInt16)
    (joinedPro beaconMode : Bool) (first second : Radio) (s : MacProcs) :
    Option (MacProcs × List ProcCall) :=
  if startValid req shortAddress then
    let s := s.setPendingBuf (some param)
    if joinedPro then some (s, [])
    else do
      let s := s.setMacStatus macSuccess
      let (s, calls) ←
        (if req.coordRealignment then zbRealignPan beaconMode first second s else some (s, []))
      let (s, confirmed) := scheduleProc (.startConfirm param) s
      return (s, calls ++ confirmed)
  else some (s, [])

def zbHandleDataFrame (param : UInt8) (unsecured : Bool) (s : MacProcs) :
    MacProcs × List ProcCall :=
  if unsecured then scheduleProc (.dataIndication param) (s.setPendingBuf (some param))
  else (s.setPendingBuf none, [.tx (.freeBuf param)])

def zbAcceptAssRequestCmd (param : UInt8) (s : MacProcs) : MacProcs × List ProcCall :=
  scheduleProc (.associateIndication param) (s.setPendingBuf (some param))

/-! ## Events -/

inductive ProcEvent where
  /-- The transmitter.  Whatever else runs does not write `pending_buf`. -/
  | tx (event : TxEvent)
  | scanRequest (param : UInt8) (params : MlmeScanParams)
  /-- The next callback of a scan. -/
  | callback (step : Step)
  /-- One of the alarms. -/
  | scanStep (i : Nat) (step : Step)
  | respTimeout (i : Nat) (radio : Radio) (pendingData : Bool)
  | coordinatorRealignment
  | startRequest (param : UInt8) (req : MlmeStartReq) (shortAddress : UInt16)
      (joinedPro beaconMode : Bool) (first second : Radio)
  | handleDataFrame (param : UInt8) (unsecured : Bool)
  | acceptAssRequestCmd (param : UInt8)

/-- The buffer of the procedure that the loop starts, if that waits and reads `pending_buf`. -/
def startedBy (s : MacTx) : TxEvent → Owner
  | .mainLoop _ =>
      match s.txWaitCb, s.macTxQ.head? with
      | none, some (.sendAssociationReqCmd param) => some param
      | none, some (.acceptDataRequestCmd param _) => some param
      | _, _ => none
  | _ => none

def keepsPendingBuf (s : MacTx) : TxEvent → Prop
  | .elsewhere pendingBuf _ _ _ => pendingBuf = s.pendingBuf
  | _ => True

instance (s : MacTx) (event : TxEvent) : Decidable (keepsPendingBuf s event) :=
  match event with
  | .elsewhere .. => inferInstanceAs (Decidable (_ = _))
  | .schedule _ | .mainLoop _ | .counted | .associateResponse .. | .pendingDataTimeout _
  | .sendOutside _ => inferInstanceAs (Decidable True)

variable (build : TxBuild)

def txProc (event : TxEvent) (s : MacProcs) : Option (MacProcs × List ProcCall) :=
  if keepsPendingBuf s.tx event then
    (txCall build s.tx event).map fun r =>
      ({ s with
        tx := r.1
        waitOwner := (startedBy s.tx event).or s.waitOwner
        respTimeouts := s.respTimeouts ++ (r.2.filter (· = .respTimeout)).map fun _ => s.waitOwner },
        r.2.map .tx)
  else none

def procCall (s : MacProcs) : ProcEvent → Option (MacProcs × List ProcCall)
  | .tx event => txProc build event s
  | .scanRequest param params => zbMlmeScanRequest param params s
  | .callback step =>
      match s.callbacks with
      | [] => none
      | .handleScanRequest param params :: callbacks =>
          some (zbHandleScanRequest param params { s with callbacks }, [])
      | .mlmeScanStep owner :: callbacks => zbMlmeScanStep owner step { s with callbacks }
  | .scanStep i step => do
      let owner ← s.scanSteps[i]?
      zbMlmeScanStep owner step { s with scanSteps := s.scanSteps.eraseIdx i }
  | .respTimeout i radio pendingData =>
      if i < s.respTimeouts.length then
        zbMacRespTimeout radio pendingData { s with respTimeouts := s.respTimeouts.eraseIdx i }
      else none
  | .coordinatorRealignment => coordinatorRealignment s
  | .startRequest param req shortAddress joinedPro beaconMode first second =>
      zbMlmeStartRequest param req shortAddress joinedPro beaconMode first second s
  | .handleDataFrame param unsecured => some (zbHandleDataFrame param unsecured s)
  | .acceptAssRequestCmd param => some (zbAcceptAssRequestCmd param s)

/-- Still its own, when these buffers are handed on. -/
def keepOwner (bufs : List UInt8) (owner : Owner) : Owner := owner.filter (· ∉ bufs)

def ScanCb.keepOwner (bufs : List UInt8) : ScanCb → ScanCb
  | .handleScanRequest param params => .handleScanRequest param params
  | .mlmeScanStep owner => .mlmeScanStep (PendingBuf.keepOwner bufs owner)

/-- A buffer that is handed on is nobody's. -/
def MacProcs.handOn (bufs : List UInt8) (s : MacProcs) : MacProcs :=
  { s with
    callbacks := s.callbacks.map (ScanCb.keepOwner bufs)
    scanSteps := s.scanSteps.map (keepOwner bufs)
    respTimeouts := s.respTimeouts.map (keepOwner bufs)
    scanOwner := keepOwner bufs s.scanOwner
    waitOwner := keepOwner bufs s.waitOwner }

/-- One event; `none` where the program stops, or where it cannot happen. -/
def procStep (s : MacProcs) (event : ProcEvent) : Option MacProcs :=
  (procCall build s event).map fun r => r.1.handOn (r.2.filterMap gives)

/-! ## What is claimed -/

def stepOwner : ScanCb → Option Owner
  | .handleScanRequest .. => none
  | .mlmeScanStep owner => some owner

/-- The scan in progress. -/
def inScan (s : MacProcs) : List Owner := if s.mlmeScanInProgress then [s.scanOwner] else []

/-- Who reads `pending_buf` in an event, after it was started with a buffer. -/
def resumed (s : MacProcs) : ProcEvent → List Owner
  | .tx (.mainLoop _) =>
      if s.tx.txWaitCb = some .handleDataRequestCmdContinue ∧ s.tx.txCnt ≠ 0 then [s.waitOwner] else []
  | .scanRequest param params => if refusedScan params s then [some param] else []
  | .callback _ => (s.callbacks.head?.bind stepOwner).toList
  | .scanStep i _ => s.scanSteps[i]?.toList
  | .respTimeout i _ _ => s.respTimeouts[i]?.toList
  | .coordinatorRealignment => inScan s
  | _ => []

/-- **What is claimed of an event.** -/
def OwnBuffer (s : MacProcs) (event : ProcEvent) : Prop :=
  ∀ owner ∈ resumed s event, ∃ buf, owner = some buf ∧ s.tx.pendingBuf = some buf

/-! ## The condition -/

/-- The steps of scans that are scheduled. -/
def scans (s : MacProcs) : List Owner := s.callbacks.filterMap stepOwner ++ s.scanSteps

/-- Who waits for a transmission, and then reads `pending_buf` or sets an alarm to do so. -/
def waits (s : MacProcs) : List Owner :=
  if s.tx.txWaitCb = some .handleDataRequestCmdContinue ∨
      s.tx.txWaitCb = some .sendAssociationReqContinue then [s.waitOwner] else []

/-- **Who will read `pending_buf`.** -/
def outstanding (s : MacProcs) : List Owner := scans s ++ inScan s ++ waits s ++ s.respTimeouts

/-- Nobody will. -/
abbrev Calm (s : MacProcs) : Prop := outstanding s = []

/-- A continuation that hands on `pending_buf` is called when nobody will read it. -/
def FitsCalled (s : MacProcs) : TxWaitCb → Prop
  | .handleMcpsDataReqContinue => s.tx.txCnt ≠ 0 → Calm s
  | .handleOrphanResponseContinue => s.tx.txCnt ≠ 0 → Calm s
  | .handleDataRequestCmdContinue => True
  | .sendAssociationReqContinue => True

/-- A procedure that writes `pending_buf` is started when nobody will read it, and an association
with its buffer there. -/
def FitsTaken (s : MacProcs) : TxCb → Prop
  | .handleBeaconReq => True
  | .sendAssociationReqCmd param => Calm s ∧ s.tx.pendingBuf = some param
  | .handleMcpsDataReq .. => Calm s
  | .acceptDataRequestCmd .. => Calm s
  | .handleOrphanResponse _ => Calm s
  | .handlePollRequest _ => Calm s

def FitsLoop (s : MacProcs) : Prop :=
  (∀ cb ∈ s.tx.txWaitCb, FitsCalled s cb) ∧
    (s.tx.txWaitCb = none → ∀ entry ∈ s.tx.macTxQ.head?, FitsTaken s entry)

/-- The same of any event of the transmitter: what expires, or is freed, is not such a buffer. -/
def FitsTx (s : MacProcs) : TxEvent → Prop
  | .mainLoop _ => FitsLoop s
  | .associateResponse joinedPro param _ =>
      if joinedPro then some param ∉ outstanding s else Calm s
  | .pendingDataTimeout i => ∀ data ∈ s.tx.pendingDataQueue i, some data.pendingData ∉ outstanding s
  | .schedule _ => True
  | .counted => True
  | .sendOutside _ => True
  | .elsewhere .. => True

/-- **The condition**, on what comes and the state it meets. -/
def Fits (s : MacProcs) : ProcEvent → Prop
  | .tx event => FitsTx s event
  | .scanRequest param params => Calm s ∧ (refusedScan params s = true → s.tx.pendingBuf = some param)
  | .callback _ => (s.callbacks.head?.bind stepOwner).isNone → Calm s
  | .startRequest _ req shortAddress _ _ _ _ => startValid req shortAddress = true → Calm s
  | .handleDataFrame .. => Calm s
  | .acceptAssRequestCmd _ => Calm s
  | .scanStep .. => True
  | .respTimeout .. => True
  | .coordinatorRealignment => True

instance (s : MacProcs) (cb : TxWaitCb) : Decidable (FitsCalled s cb) :=
  match cb with
  | .handleMcpsDataReqContinue | .handleOrphanResponseContinue =>
      inferInstanceAs (Decidable (_ ≠ _ → _ = _))
  | .handleDataRequestCmdContinue | .sendAssociationReqContinue => inferInstanceAs (Decidable True)

instance (s : MacProcs) (entry : TxCb) : Decidable (FitsTaken s entry) :=
  match entry with
  | .handleBeaconReq => inferInstanceAs (Decidable True)
  | .sendAssociationReqCmd _ => inferInstanceAs (Decidable (_ = _ ∧ _ = _))
  | .handleMcpsDataReq .. | .acceptDataRequestCmd .. | .handleOrphanResponse _
  | .handlePollRequest _ => inferInstanceAs (Decidable (_ = _))

instance (s : MacProcs) (event : TxEvent) : Decidable (FitsTx s event) :=
  match event with
  | .mainLoop _ => inferInstanceAs (Decidable ((∀ cb ∈ _, FitsCalled s cb) ∧
      (_ → ∀ entry ∈ s.tx.macTxQ.head?, FitsTaken s entry)))
  | .associateResponse joinedPro param _ =>
      inferInstanceAs (Decidable (if joinedPro then some param ∉ outstanding s else Calm s))
  | .pendingDataTimeout i =>
      inferInstanceAs (Decidable (∀ data ∈ s.tx.pendingDataQueue i, some data.pendingData ∉ _))
  | .schedule _ | .counted | .sendOutside _ | .elsewhere .. => inferInstanceAs (Decidable True)

instance (s : MacProcs) (event : ProcEvent) : Decidable (Fits s event) :=
  match event with
  | .tx event => inferInstanceAs (Decidable (FitsTx s event))
  | .scanRequest .. => inferInstanceAs (Decidable (_ = _ ∧ (_ → _)))
  | .callback _ | .startRequest .. => inferInstanceAs (Decidable (_ = true → _ = _))
  | .handleDataFrame .. | .acceptAssRequestCmd _ => inferInstanceAs (Decidable (_ = _))
  | .scanStep .. | .respTimeout .. | .coordinatorRealignment => inferInstanceAs (Decidable True)

/-! ## One procedure at a time -/

/-- **The invariant**: nobody will read `pending_buf`, or one procedure, whose buffer is there. -/
inductive Sole (s : MacProcs) : Prop
  | calm (none_ : Calm s)
  | scan (buf : UInt8) (holds : s.tx.pendingBuf = some buf) (steps : scans s = [some buf])
      (own : ∀ owner ∈ inScan s, owner = some buf) (others : waits s ++ s.respTimeouts = [])
  | waits (buf : UInt8) (holds : s.tx.pendingBuf = some buf) (others : scans s ++ inScan s = [])
      (one : waits s ++ s.respTimeouts = [some buf])

section Sole

variable {s t : MacProcs} {bufs : List UInt8} {owner : Owner} {r : MacProcs × List ProcCall}

theorem calm_iff : Calm s ↔ scans s = [] ∧ inScan s = [] ∧ waits s = [] ∧ s.respTimeouts = [] := by
  rw [Calm, outstanding]
  simp only [List.append_eq_nil_iff, and_assoc]

/-- Whoever will read `pending_buf` finds its own buffer. -/
theorem Sole.own (sole : Sole s) (mem : owner ∈ outstanding s) :
    ∃ buf, owner = some buf ∧ s.tx.pendingBuf = some buf := by
  cases sole with
  | calm none_ =>
      rw [none_] at mem
      cases mem
  | scan buf holds steps own others =>
      rw [outstanding, List.append_assoc, others, List.append_nil, steps] at mem
      refine ⟨buf, ?_, holds⟩
      cases List.mem_append.1 mem with
      | inl step => exact List.mem_singleton.1 step
      | inr scan => exact own owner scan
  | waits buf holds others one =>
      rw [outstanding, List.append_assoc, others, one] at mem
      exact ⟨buf, List.mem_singleton.1 mem, holds⟩

theorem keepOwner_some {buf : UInt8} (other : buf ∉ bufs) : keepOwner bufs (some buf) = some buf := by
  simp [keepOwner, Option.filter, other]

theorem handOn_scans : scans (s.handOn bufs) = (scans s).map (keepOwner bufs) := by
  have callbacks : ∀ cbs : List ScanCb, (cbs.map (ScanCb.keepOwner bufs)).filterMap stepOwner =
      (cbs.filterMap stepOwner).map (keepOwner bufs) := by
    intro cbs
    induction cbs with
    | nil => rfl
    | cons cb cbs ih =>
        cases cb with
        | handleScanRequest => exact ih
        | mlmeScanStep owner => exact congrArg (keepOwner bufs owner :: ·) ih
  rw [scans, scans, List.map_append, ← callbacks]
  rfl

theorem handOn_inScan : inScan (s.handOn bufs) = (inScan s).map (keepOwner bufs) := by
  rw [inScan, inScan, apply_ite (List.map (keepOwner bufs))]
  rfl

theorem handOn_waits : waits (s.handOn bufs) = (waits s).map (keepOwner bufs) := by
  rw [waits, waits, apply_ite (List.map (keepOwner bufs))]
  rfl

/-- What is handed on is nobody's. -/
theorem Sole.handOn (sole : Sole s) (apart : ∀ buf ∈ bufs, some buf ∉ outstanding s) :
    Sole (s.handOn bufs) := by
  cases sole with
  | calm none_ =>
      obtain ⟨steps, scan, waiting, timeouts⟩ := calm_iff.1 none_
      refine .calm (calm_iff.2 ⟨?_, ?_, ?_, ?_⟩)
      · rw [handOn_scans, steps, List.map_nil]
      · rw [handOn_inScan, scan, List.map_nil]
      · rw [handOn_waits, waiting, List.map_nil]
      · exact (congrArg (List.map (keepOwner bufs)) timeouts)
  | scan buf holds steps own others =>
      have kept : buf ∉ bufs := by
        intro mem
        refine apart buf mem ?_
        rw [outstanding, steps]
        simp
      obtain ⟨waiting, timeouts⟩ := List.append_eq_nil_iff.1 others
      refine .scan buf holds ?_ (fun owner mem => ?_) ?_
      · rw [handOn_scans, steps, List.map_singleton, keepOwner_some kept]
      · rw [handOn_inScan] at mem
        obtain ⟨old, there, rfl⟩ := List.mem_map.1 mem
        rw [own old there, keepOwner_some kept]
      · rw [handOn_waits, waiting]
        exact (congrArg (List.map (keepOwner bufs)) timeouts)
  | waits buf holds others one =>
      have kept : buf ∉ bufs := by
        intro mem
        refine apart buf mem ?_
        rw [outstanding, List.append_assoc, one]
        simp
      obtain ⟨steps, scan⟩ := List.append_eq_nil_iff.1 others
      refine .waits buf holds ?_ ?_
      · rw [handOn_scans, handOn_inScan, steps, scan]
        rfl
      · rw [handOn_waits]
        show List.map _ (PendingBuf.waits s) ++ List.map _ s.respTimeouts = _
        rw [← List.map_append, one, List.map_singleton, keepOwner_some kept]

/-- Nothing that matters has changed. -/
theorem Sole.still (sole : Sole s) (scans_ : scans t = scans s) (scan_ : inScan t = inScan s)
    (waits_ : PendingBuf.waits t = PendingBuf.waits s) (timeouts_ : t.respTimeouts = s.respTimeouts)
    (same : t.tx.pendingBuf = s.tx.pendingBuf) : Sole t := by
  cases sole with
  | calm none_ =>
      refine .calm (calm_iff.2 ?_)
      rw [scans_, scan_, waits_, timeouts_]
      exact calm_iff.1 none_
  | scan buf holds steps own others =>
      refine .scan buf (same.trans holds) (scans_.trans steps) ?_ ?_
      · rw [scan_]
        exact own
      · rw [waits_, timeouts_]
        exact others
  | waits buf holds others one =>
      refine .waits buf (same.trans holds) ?_ ?_
      · rw [scans_, scan_]
        exact others
      · rw [waits_, timeouts_]
        exact one

/-- **What an event leaves**: the invariant, and nobody's buffer handed on. -/
structure Lands (r : MacProcs × List ProcCall) : Prop where
  sole : Sole r.1
  apart : ∀ buf ∈ r.2.filterMap gives, some buf ∉ outstanding r.1

/-- Where nobody waits, any buffer may be handed on. -/
theorem Lands.calm (none_ : Calm r.1) : Lands r := by
  refine ⟨.calm none_, fun buf _ mem => ?_⟩
  rw [none_] at mem
  cases mem

theorem Lands.quiet (sole : Sole r.1) (quiet : ∀ call ∈ r.2, gives call = none) : Lands r := by
  refine ⟨sole, fun buf mem => ?_⟩
  rw [List.filterMap_eq_nil_iff.2 quiet] at mem
  cases mem

end Sole

/-! ## Scans, and what is done at once -/

section Procedures

variable {s : MacProcs} {r : MacProcs × List ProcCall} {radio : Radio} {param : UInt8}

theorem scheduleProc_fst {call : ProcCall} : (scheduleProc call s).1 =
    { s with tx := { s.tx with cbRoom := s.tx.cbRoom - 1 } } := by
  rw [scheduleProc]
  split
  · rename_i full
    have none_ : s.tx.cbRoom - 1 = s.tx.cbRoom := by rw [full]
    rw [none_]
  · rfl

/-- Frames are sent, and counted, and nothing else happens. -/
def Sent (s : MacProcs) (r : MacProcs × List ProcCall) : Prop :=
  (∃ air txCnt macStatus, r.1 = { s with tx := { s.tx with air, txCnt, macStatus } }) ∧
    ∀ call ∈ r.2, gives call = none

theorem Sent.trans {next : MacProcs × List ProcCall} (first : Sent s r) (second : Sent r.1 next) :
    Sent s (next.1, r.2 ++ next.2) := by
  obtain ⟨⟨_, _, _, is⟩, quiet⟩ := first
  obtain ⟨⟨air, txCnt, macStatus, now⟩, after⟩ := second
  refine ⟨⟨air, txCnt, macStatus, ?_⟩, fun call mem => ?_⟩
  · rw [now, is]
  · cases List.mem_append.1 mem with
    | inl left => exact quiet call left
    | inr right => exact after call right

theorem waitForTx_sent {waits : Bool} {tx : MacTx × List TxCall}
    (ran : waitForTxIf waits radio s.tx = some tx) : Sent s ({ s with tx := tx.1 }, tx.2.map .tx) := by
  obtain ⟨air, txCnt, is, -, reports⟩ := waitForTxIf_cases ran
  refine ⟨⟨air, txCnt, s.tx.macStatus, by rw [is]⟩, fun call mem => ?_⟩
  obtain ⟨call, there, rfl⟩ := List.mem_map.1 mem
  obtain ⟨tx, -, rfl⟩ := reports call there
  rfl

theorem sendAndWait_sent {always : Bool} (ran : sendAndWait always radio s = some r) : Sent s r := by
  rw [sendAndWait] at ran
  have sending := @transSendCommand_cases radio s.tx none none
  generalize transSendCommand radio none none s.tx = c at ran sending
  obtain ⟨tx, sends⟩ := c
  obtain ⟨air, txCnt, is, -, out⟩ := sending
  obtain ⟨waited, wait, rfl⟩ := Option.map_eq_some_iff.1 ran
  dsimp only at is
  have first : Sent s ({ s with tx }, sends.map .tx) := by
    refine ⟨⟨air, txCnt, s.tx.macStatus, by rw [is]⟩, fun call mem => ?_⟩
    obtain ⟨call, there, rfl⟩ := List.mem_map.1 mem
    rw [out call there]
    rfl
  have both := first.trans (waitForTx_sent (s := { s with tx }) wait)
  rw [List.map_append]
  exact both

theorem sendChecked_sent {ok : Bool} {calls : List ProcCall} {t : MacProcs}
    (ran : sendChecked radio s = some (t, calls, ok)) : Sent s (t, calls) := by
  obtain ⟨waited, wait, is⟩ := Option.map_eq_some_iff.1 ran
  have sent := sendAndWait_sent wait
  dsimp only at is
  split at is
  · cases is
    obtain ⟨⟨air, txCnt, macStatus, now⟩, quiet⟩ := sent
    rw [checkCmdTxStatus_fst]
    exact ⟨⟨air, txCnt, _, by rw [now]⟩, quiet⟩
  · cases is
    exact sent

theorem sendScan_sent {step : Step} (ran : sendScan step s = some r) : Sent s r := by
  rw [sendScan] at ran
  split at ran
  · obtain ⟨⟨t, calls, ok⟩, checked, rfl⟩ := Option.map_eq_some_iff.1 ran
    exact sendChecked_sent checked
  · split at ran
    · exact sendAndWait_sent ran
    · cases ran
      exact ⟨⟨s.tx.air, s.tx.txCnt, s.tx.macStatus, rfl⟩, nofun⟩

theorem waitAfter_sent {sends : Bool} (ran : waitAfter sends radio s = some r) : Sent s r := by
  rw [waitAfter] at ran
  split at ran
  · exact sendAndWait_sent ran
  · obtain ⟨waited, wait, rfl⟩ := Option.map_eq_some_iff.1 ran
    exact @waitForTx_sent s radio true waited wait

theorem realignPan_sent {beaconMode : Bool} {first second : Radio}
    (ran : zbRealignPan beaconMode first second s = some r) : Sent s r := by
  rw [zbRealignPan] at ran
  obtain ⟨⟨t, before⟩, one, ran⟩ := Option.bind_eq_some_iff.1 ran
  obtain ⟨⟨u, after⟩, two, ran⟩ := Option.bind_eq_some_iff.1 ran
  cases ran
  exact (waitAfter_sent one).trans (waitAfter_sent two)

/-- **One step of a scan**, of the only procedure there is. -/
theorem mlmeScanStep_lands {step : Step} (holds : s.tx.pendingBuf = some param)
    (steps : scans s = []) (others : waits s ++ s.respTimeouts = [])
    (ran : zbMlmeScanStep (some param) step s = some r) : Lands r := by
  obtain ⟨callbacks, alarms⟩ := List.append_eq_nil_iff.1 steps
  rw [zbMlmeScanStep, holds] at ran
  obtain ⟨buffer, is, ran⟩ := Option.bind_eq_some_iff.1 ran
  cases is
  dsimp only at ran
  split at ran
  · obtain ⟨⟨t, calls⟩, sends, ran⟩ := Option.bind_eq_some_iff.1 ran
    obtain ⟨⟨air, txCnt, macStatus, rfl⟩, quiet⟩ := sendScan_sent sends
    cases ran
    refine .quiet (.scan param holds ?_ (fun owner mem => List.mem_singleton.1 mem) others) quiet
    show s.callbacks.filterMap stepOwner ++ _ = _
    rw [callbacks, alarms]
    split
    · simp [Nat.mod_one]
    · rfl
  · cases ran
    refine .calm (calm_iff.2 ?_)
    rw [scheduleProc_fst]
    obtain ⟨waiting, timeouts⟩ := List.append_eq_nil_iff.1 others
    exact ⟨steps, rfl, waiting, timeouts⟩

/-- A scan is begun. -/
theorem handleScanRequest_sole {params : MlmeScanParams} (calm : Calm s) :
    Sole (zbHandleScanRequest param params s) := by
  obtain ⟨steps, scan, waiting, timeouts⟩ := calm_iff.1 calm
  obtain ⟨callbacks, alarms⟩ := List.append_eq_nil_iff.1 steps
  have others : waits s ++ s.respTimeouts = [] := List.append_eq_nil_iff.2 ⟨waiting, timeouts⟩
  have own : ∀ owner ∈ inScan s, owner = some param := by
    rw [scan]
    nofun
  rw [zbHandleScanRequest]
  split
  · rw [scheduleScanCb]
    split
    · exact .calm calm
    · refine .scan param rfl ?_ own others
      show (s.callbacks ++ [_]).filterMap stepOwner ++ s.scanSteps = _
      rw [List.filterMap_append, callbacks, alarms]
      rfl
  · split
    · refine .scan param rfl ?_ own others
      show s.callbacks.filterMap stepOwner ++ (s.scanSteps ++ [_]) = _
      rw [callbacks, alarms]
      rfl
    · exact .calm calm

theorem mlmeScanRequest_lands {params : MlmeScanParams} (calm : Calm s)
    (ran : zbMlmeScanRequest param params s = some r) : Lands r := by
  rw [zbMlmeScanRequest] at ran
  split at ran
  · obtain ⟨buffer, -, rfl⟩ := Option.map_eq_some_iff.1 ran
    refine .calm ?_
    rw [scheduleProc_fst]
    exact calm
  · cases ran
    refine .quiet (.calm ?_) nofun
    rw [scheduleScanCb]
    split
    · exact calm
    · rw [calm_iff] at calm ⊢
      refine ⟨?_, calm.2⟩
      show (s.callbacks ++ [_]).filterMap stepOwner ++ s.scanSteps = []
      rw [List.filterMap_append]
      simpa [scans, stepOwner] using calm.1

/-- Whoever waited for the alarm was the only one. -/
theorem macRespTimeout_lands {pendingData : Bool} (calm : Calm s)
    (ran : zbMacRespTimeout radio pendingData s = some r) : Lands r := by
  rw [zbMacRespTimeout] at ran
  obtain ⟨buffer, holds, ran⟩ := Option.bind_eq_some_iff.1 ran
  obtain ⟨⟨t, calls, ok⟩, sends, ran⟩ := Option.bind_eq_some_iff.1 ran
  obtain ⟨⟨air, txCnt, macStatus, rfl⟩, -⟩ := sendChecked_sent sends
  refine .calm ?_
  dsimp only at ran
  by_cases got : (ok && pendingData) = true
  · rw [if_pos got] at ran
    cases ran
    exact calm
  · rw [if_neg got] at ran
    cases ran
    rw [scheduleProc_fst]
    split
    · exact calm
    · exact calm

theorem mlmeStartRequest_lands {req : MlmeStartReq} {shortAddress : UInt16}
    {joinedPro beaconMode : Bool} {first second : Radio} (sole : Sole s)
    (calm : startValid req shortAddress = true → Calm s)
    (ran : zbMlmeStartRequest param req shortAddress joinedPro beaconMode first second s = some r) :
    Lands r := by
  rw [zbMlmeStartRequest] at ran
  split at ran
  · rename_i valid
    have calm := calm valid
    refine .calm ?_
    dsimp only at ran
    split at ran
    · cases ran
      exact calm
    · obtain ⟨⟨t, calls⟩, sends, ran⟩ := Option.bind_eq_some_iff.1 ran
      cases ran
      rw [scheduleProc_fst]
      split at sends
      · obtain ⟨⟨air, txCnt, macStatus, rfl⟩, -⟩ := realignPan_sent sends
        exact calm
      · cases sends
        exact calm
  · cases ran
    exact .quiet sole nofun

end Procedures

/-! ## The transmitter -/

section Transmitter

variable {build : TxBuild} {s : MacProcs} {r : MacTx × List TxCall} {q : MacProcs × List ProcCall}
  {radio : Radio} {event : TxEvent}

/-- What an event of the transmitter makes of the procedures. -/
def afterTx (event : TxEvent) (s : MacProcs) (r : MacTx × List TxCall) : MacProcs × List ProcCall :=
  ({ s with
    tx := r.1
    waitOwner := (startedBy s.tx event).or s.waitOwner
    respTimeouts := s.respTimeouts ++ (r.2.filter (· = .respTimeout)).map fun _ => s.waitOwner },
    r.2.map .tx)

/-- No alarm is set for an association. -/
def NoAlarm (r : MacTx × List TxCall) : Prop := ∀ call ∈ r.2, call ≠ .respTimeout

theorem NoAlarm.timeouts (none_ : NoAlarm r) :
    (afterTx event s r).1.respTimeouts = s.respTimeouts := by
  have nothing : r.2.filter (· = .respTimeout) = [] :=
    List.filter_eq_nil_iff.2 fun call mem => by simpa using none_ call mem
  rw [afterTx, nothing]
  exact List.append_nil _

theorem waits_nil (other : s.tx.txWaitCb ≠ some .handleDataRequestCmdContinue ∧
    s.tx.txWaitCb ≠ some .sendAssociationReqContinue) : waits s = [] := by
  rw [waits, if_neg (not_or.2 other)]

theorem calm_idle (calm : Calm s) : s.tx.txWaitCb ≠ some .handleDataRequestCmdContinue ∧
    s.tx.txWaitCb ≠ some .sendAssociationReqContinue := by
  have nobody := (calm_iff.1 calm).2.2.1
  rw [waits] at nobody
  split at nobody
  · cases nobody
  · rename_i idle
    exact not_or.1 idle

/-- **Nobody waits**, and the event starts nobody. -/
theorem afterTx_calm (calm : Calm s) (none_ : NoAlarm r)
    (idle : r.1.txWaitCb ≠ some .handleDataRequestCmdContinue ∧
      r.1.txWaitCb ≠ some .sendAssociationReqContinue) : Lands (afterTx event s r) := by
  obtain ⟨steps, scan, -, timeouts⟩ := calm_iff.1 calm
  exact .calm (calm_iff.2 ⟨steps, scan, waits_nil idle, none_.timeouts.trans timeouts⟩)

/-- **Nobody waits**, and a procedure is started with its buffer. -/
theorem afterTx_starts {buf : UInt8} (calm : Calm s) (none_ : NoAlarm r)
    (begins : r.1.txWaitCb = some .handleDataRequestCmdContinue ∨
      r.1.txWaitCb = some .sendAssociationReqContinue) (starts : startedBy s.tx event = some buf)
    (holds : r.1.pendingBuf = some buf) (quiet : ∀ call ∈ r.2, handsOn call = none) :
    Lands (afterTx event s r) := by
  obtain ⟨steps, scan, -, timeouts⟩ := calm_iff.1 calm
  refine .quiet (.waits buf holds (List.append_eq_nil_iff.2 ⟨steps, scan⟩) ?_) fun call mem => ?_
  · have begins : (afterTx event s r).1.tx.txWaitCb = some .handleDataRequestCmdContinue ∨
        (afterTx event s r).1.tx.txWaitCb = some .sendAssociationReqContinue := begins
    rw [none_.timeouts, timeouts, waits, if_pos begins, afterTx, starts]
    rfl
  · obtain ⟨call, there, rfl⟩ := List.mem_map.1 mem
    exact quiet call there

/-- Nobody is started while the transmitter waits. -/
theorem startedBy_none (waiting : s.tx.txWaitCb ≠ none) : startedBy s.tx event = none := by
  cases event with
  | mainLoop radio =>
      rw [startedBy]
      cases is : s.tx.txWaitCb with
      | none => exact absurd is waiting
      | some cb => rfl
  | schedule => rfl
  | counted => rfl
  | associateResponse => rfl
  | pendingDataTimeout => rfl
  | sendOutside => rfl
  | elsewhere => rfl

theorem afterTx_waits (cb : r.1.txWaitCb = s.tx.txWaitCb) :
    waits (afterTx event s r).1 = waits s := by
  have same : (afterTx event s r).1.tx.txWaitCb = s.tx.txWaitCb := cb
  rw [waits, waits, same]
  split
  · rename_i waiting
    have busy : s.tx.txWaitCb ≠ none := by
      obtain is | is := waiting
      · rw [is]
        nofun
      · rw [is]
        nofun
    rw [afterTx, startedBy_none busy]
    rfl
  · rfl

/-- **The event does not touch** what matters. -/
theorem afterTx_sole (sole : Sole s) (none_ : NoAlarm r) (cb : r.1.txWaitCb = s.tx.txWaitCb)
    (same : r.1.pendingBuf = s.tx.pendingBuf) : Sole (afterTx event s r).1 :=
  sole.still rfl rfl (afterTx_waits cb) none_.timeouts same

theorem afterTx_outstanding (none_ : NoAlarm r) (cb : r.1.txWaitCb = s.tx.txWaitCb) :
    outstanding (afterTx event s r).1 = outstanding s := by
  rw [outstanding, afterTx_waits cb, none_.timeouts]
  rfl

theorem afterTx_quiet (sole : Sole s) (cb : r.1.txWaitCb = s.tx.txWaitCb)
    (same : r.1.pendingBuf = s.tx.pendingBuf)
    (quiet : ∀ call ∈ r.2, call ≠ .respTimeout ∧ handsOn call = none) : Lands (afterTx event s r) := by
  refine .quiet (afterTx_sole sole (fun call mem => (quiet call mem).1) cb same) fun call mem => ?_
  obtain ⟨call, there, rfl⟩ := List.mem_map.1 mem
  exact (quiet call there).2

/-- A buffer that nobody will read is handed on. -/
theorem afterTx_gives {buf : UInt8} (sole : Sole s) (cb : r.1.txWaitCb = s.tx.txWaitCb)
    (same : r.1.pendingBuf = s.tx.pendingBuf) (apart : some buf ∉ outstanding s)
    (gives_ : ∀ call ∈ r.2, call ≠ .respTimeout ∧ handsOn call = some buf) :
    Lands (afterTx event s r) := by
  have none_ : NoAlarm r := fun call mem => (gives_ call mem).1
  refine ⟨afterTx_sole sole none_ cb same, fun other mem => ?_⟩
  rw [afterTx_outstanding none_ cb]
  obtain ⟨put, there, is⟩ := List.mem_filterMap.1 mem
  obtain ⟨call, from_, rfl⟩ := List.mem_map.1 there
  have is : handsOn call = some other := is
  rw [(gives_ call from_).2] at is
  exact Option.some.inj is ▸ apart

/-- The only procedure there is waits for a transmission. -/
theorem Sole.only (sole : Sole s) (is : PendingBuf.waits s = [s.waitOwner]) :
    scans s = [] ∧ inScan s = [] ∧ s.respTimeouts = [] ∧
      ∃ buf, s.waitOwner = some buf ∧ s.tx.pendingBuf = some buf := by
  cases sole with
  | calm none_ =>
      have nobody := (calm_iff.1 none_).2.2.1
      rw [is] at nobody
      cases nobody
  | scan buf holds steps own others =>
      rw [is] at others
      cases others
  | waits buf holds others one =>
      obtain ⟨steps, scan⟩ := List.append_eq_nil_iff.1 others
      rw [is] at one
      obtain ⟨own, timeouts⟩ := List.cons.inj one
      exact ⟨steps, scan, timeouts, buf, own, holds⟩

/-! ## The loop -/

theorem endCalls_alarm {mhrPend : UInt8} {data : PendingData} {room : Nat} :
    ∀ call ∈ endCalls mhrPend data room, call ≠ .respTimeout := by
  intro call mem
  rw [endCalls] at mem
  split at mem
  · rw [List.mem_singleton.1 mem]
    simp
  · split at mem
    · cases mem
    · rw [List.mem_singleton.1 mem]
      simp

theorem sendAssociationReqContinue_alarm (t : MacTx) :
    (zbMlmeSendAssociationReqContinue radio t).2 = [] ∨
      (zbMlmeSendAssociationReqContinue radio t).2 = [.respTimeout] := by
  rw [zbMlmeSendAssociationReqContinue]
  dsimp only
  split
  · exact .inr rfl
  · exact .inl rfl

/-- **What the loop calls.** -/
theorem callTxWaitCb_lands {cb : TxWaitCb} (sole : Sole s) (is : s.tx.txWaitCb = some cb)
    (counted : s.tx.txCnt ≠ 0) (fits : FitsLoop s)
    (ran : callTxWaitCb radio s.tx.txWaitCbArg { s.tx with txCnt := 0 } cb = some r) :
    Lands (afterTx event s ({ r.1 with txWaitCb := none }, .call cb s.tx.txWaitCbArg :: r.2)) := by
  have idle {cb : TxWaitCb} : (none : Option TxWaitCb) ≠ some cb := nofun
  have fits := fits.1 cb is
  cases cb with
  | handleMcpsDataReqContinue =>
      cases ran
      obtain ⟨macStatus, same⟩ :=
        @handleMcpsDataReqContinue_eq radio { s.tx with txCnt := 0 } s.tx.txWaitCbArg
      rw [same]
      refine afterTx_calm (fits counted) (fun call mem => ?_) ⟨idle, idle⟩
      cases mem with
      | head => nofun
      | tail _ mem =>
          dsimp only at mem
          split at mem
          · cases mem
          · rw [List.mem_singleton.1 mem]
            nofun
  | handleDataRequestCmdContinue =>
      obtain ⟨steps, scan, timeouts, -⟩ := sole.only (if_pos (.inl is))
      have alarms : NoAlarm ({ r.1 with txWaitCb := none },
          .call .handleDataRequestCmdContinue s.tx.txWaitCbArg :: r.2) := by
        intro call mem
        cases handleDataRequestCmdContinue_cases ran with
        | mk data status freed macStatus cbRoom slot about =>
            cases mem with
            | head => nofun
            | tail _ mem =>
                have other : call ∈ status ++ freed → call ≠ .respTimeout := by
                  intro mem
                  obtain ⟨buffer, -, rfl | ⟨_, rfl⟩⟩ := about call mem
                  · nofun
                  · nofun
                cases List.mem_append.1 mem with
                | inl mem =>
                    cases List.mem_append.1 mem with
                    | inl mem => exact other (List.mem_append_left _ mem)
                    | inr mem => exact endCalls_alarm call mem
                | inr mem => exact other (List.mem_append_right _ mem)
      exact .calm (calm_iff.2 ⟨steps, scan, waits_nil ⟨idle, idle⟩, alarms.timeouts.trans timeouts⟩)
  | sendAssociationReqContinue =>
      obtain ⟨steps, scan, timeouts, buf, own, holds⟩ := sole.only (if_pos (.inr is))
      cases ran
      obtain ⟨macStatus, same, -⟩ := @sendAssociationReqContinue_eq radio { s.tx with txCnt := 0 }
      rw [same]
      have nobody : waits (afterTx event s ({ { s.tx with txCnt := 1, macStatus } with
          txWaitCb := none }, .call .sendAssociationReqContinue s.tx.txWaitCbArg ::
            (zbMlmeSendAssociationReqContinue radio { s.tx with txCnt := 0 }).2)).1 = [] :=
        waits_nil ⟨idle, idle⟩
      rcases sendAssociationReqContinue_alarm { s.tx with txCnt := 0 } with none_ | alarm
      · rw [none_] at nobody ⊢
        refine .calm (calm_iff.2 ⟨steps, scan, nobody, ?_⟩)
        exact (congrArg (· ++ []) timeouts)
      · rw [alarm] at nobody ⊢
        refine .quiet (.waits buf holds (List.append_eq_nil_iff.2 ⟨steps, scan⟩) ?_) ?_
        · rw [nobody]
          exact congrArg₂ (· ++ [·]) timeouts own
        · simp [afterTx, gives, handsOn]
  | handleOrphanResponseContinue =>
      obtain ⟨buffer, macStatus, cbRoom, has, same, -, out⟩ := handleOrphanResponseContinue_cases ran
      refine afterTx_calm (fits counted) (fun call mem => ?_) ⟨idle, idle⟩
      cases mem with
      | head => nofun
      | tail _ mem =>
          rw [out call mem]
          nofun

theorem transSendCommand_quiet {tx : Tx} {buf : Option UInt8} {t : MacTx} :
    ∀ call ∈ (transSendCommand radio tx buf t).2, call ≠ .respTimeout ∧ handsOn call = none := by
  intro call mem
  obtain ⟨air, txCnt, -, -, sends⟩ := @transSendCommand_cases radio t tx buf
  rw [sends call mem]
  exact ⟨nofun, rfl⟩

/-- **What the loop takes from its queue.** -/
theorem callTxCb_lands {entry : TxCb} {rest : List TxCb} (sole : Sole s)
    (idle : s.tx.txWaitCb = none) (queue : s.tx.macTxQ = entry :: rest) (fits : FitsLoop s)
    (ran : callTxCb build radio s.tx entry = some r) :
    Lands (afterTx (.mainLoop radio) s ({ r.1 with macTxQ := r.1.macTxQ.tail }, r.2)) := by
  have nobody {cb : TxWaitCb} : s.tx.txWaitCb ≠ some cb := by
    rw [idle]
    simp
  have fits := fits.2 idle entry (by rw [queue]; rfl)
  cases entry with
  | handleMcpsDataReq param req =>
      cases handleMcpsDataReq_cases ran with
      | counterError => exact afterTx_calm fits (by simp [NoAlarm]) ⟨nobody, nobody⟩
      | queued => exact afterTx_calm fits (by simp [NoAlarm]) ⟨nobody, nobody⟩
      | putBack => exact afterTx_calm fits (by simp [NoAlarm]) ⟨nobody, nobody⟩
      | insecure => exact afterTx_calm fits (by simp [NoAlarm]) ⟨nobody, nobody⟩
      | unsent => exact afterTx_calm fits (by simp [NoAlarm]) ⟨by simp, by simp⟩
      | sent => exact afterTx_calm fits (by simp [NoAlarm]) ⟨by simp, by simp⟩
  | acceptDataRequestCmd param mhr =>
      have starts : startedBy s.tx (.mainLoop radio) = some param := by
        rw [startedBy, idle, queue]
        rfl
      have answered := @handleDataRequestCmd_cases build radio s.tx param mhr
      cases ran
      generalize zbHandleDataRequestCmd build radio param mhr s.tx = r at answered ⊢
      cases answered with
      | nothing => exact afterTx_calm fits (by simp [NoAlarm]) ⟨nobody, nobody⟩
      | unsent => exact afterTx_starts fits (by simp [NoAlarm]) (.inl rfl) starts rfl (by simp [handsOn])
      | sent => exact afterTx_starts fits (by simp [NoAlarm]) (.inl rfl) starts rfl (by simp [handsOn])
  | handleBeaconReq =>
      cases ran
      obtain ⟨air, txCnt, is, out⟩ := @handleBeaconReq_cases radio s.tx
      rw [is]
      refine afterTx_quiet sole rfl rfl fun call mem => ?_
      rw [out call mem]
      exact ⟨by simp, rfl⟩
  | sendAssociationReqCmd param =>
      have starts : startedBy s.tx (.mainLoop radio) = some param := by
        rw [startedBy, idle, queue]
        rfl
      obtain ⟨calm, holds⟩ := fits
      cases ran
      obtain ⟨air, txCnt, is, out⟩ := @sendAssociationReqCmd_cases radio s.tx param
      rw [is]
      have all : ∀ call ∈ (zbMlmeSendAssociationReqCmd radio param s.tx).2,
          call ≠ .respTimeout ∧ handsOn call = none := by
        intro call mem
        obtain rfl | rfl := out call mem
        · exact ⟨by simp, rfl⟩
        · exact ⟨by simp, rfl⟩
      exact afterTx_starts calm (fun call mem => (all call mem).1) (.inr rfl) starts holds
        fun call mem => (all call mem).2
  | handleOrphanResponse param =>
      cases ran
      obtain ⟨air, txCnt, is, out⟩ := @handleOrphanResponse_cases radio s.tx param
      rw [is]
      refine afterTx_calm fits (fun call mem => ?_) ⟨by simp, by simp⟩
      obtain rfl | rfl := out call mem
      · simp
      · simp
  | handlePollRequest param =>
      obtain ⟨air, txCnt, is, -, out⟩ := handlePollRequest_cases ran
      rw [is]
      refine afterTx_calm fits (fun call mem => ?_) ⟨nobody, nobody⟩
      obtain rfl | ⟨tx, -, rfl⟩ := out call mem
      · simp
      · simp

/-- **One event of the transmitter** that fits. -/
theorem txProc_lands (sole : Sole s) (fits : FitsTx s event)
    (ran : txProc build event s = some q) : Lands q := by
  rw [txProc] at ran
  split at ran
  case isFalse => cases ran
  rename_i keeps
  obtain ⟨r, called, is⟩ := Option.map_eq_some_iff.1 ran
  obtain rfl : afterTx event s r = q := is
  cases event with
  | schedule cb =>
      cases called
      rw [scheduleTxCb]
      split
      · exact afterTx_quiet sole rfl rfl (by simp)
      · exact afterTx_quiet sole rfl rfl (by simp)
  | mainLoop radio =>
      cases mainLoop_cases called with
      | nothing => exact afterTx_quiet sole rfl rfl (by simp)
      | calls cb called waits counted went => exact callTxWaitCb_lands sole waits counted fits went
      | takes entry rest called idle queue took => exact callTxCb_lands sole idle queue fits took
  | counted =>
      cases called
      rw [countSent]
      split
      · exact afterTx_quiet sole rfl rfl (by simp)
      · exact afterTx_quiet sole rfl rfl (by simp [handsOn])
  | associateResponse joinedPro param deviceAddress =>
      have responded := @associateResponse_cases s.tx param joinedPro deviceAddress
      cases called
      cases joinedPro with
      | true => exact afterTx_gives sole rfl rfl fits (by simp [zbMlmeAssociateResponse, handsOn])
      | false =>
          have calm : Calm s := fits
          have idle := calm_idle calm
          generalize zbMlmeAssociateResponse false param deviceAddress s.tx = r at responded ⊢
          cases responded with
          | freed => exact afterTx_calm calm (by simp [NoAlarm]) idle
          | queued => exact afterTx_calm calm (by simp [NoAlarm]) idle
          | overflow =>
              refine afterTx_calm calm (fun call mem => ?_) idle
              dsimp only at mem
              split at mem
              · cases mem
              · rw [List.mem_singleton.1 mem]
                simp
  | pendingDataTimeout i =>
      obtain ⟨alarm, data, slot, rfl⟩ := pendingDataTimeout_cases called
      refine afterTx_gives sole rfl rfl (fits data slot) fun call mem => ?_
      dsimp only at mem
      split at mem
      · cases mem
      · rw [List.mem_singleton.1 mem]
        exact ⟨by simp, rfl⟩
  | sendOutside radio =>
      cases called
      obtain ⟨air, txCnt, is, -⟩ := @transSendCommand_cases radio s.tx none none
      have quiet := @transSendCommand_quiet radio none none s.tx
      exact afterTx_quiet sole (by rw [is]) (by rw [is]) quiet
  | elsewhere pendingBuf macStatus macFrameCounter cbRoom =>
      cases called
      exact afterTx_quiet sole rfl keeps (by simp)

end Transmitter

/-! ## Runs -/

section Runs

variable {build : TxBuild} {s u : MacProcs} {r : MacProcs × List ProcCall} {event : ProcEvent}
  {events : List ProcEvent}

/-- The only procedure there is has a step scheduled. -/
theorem Sole.scanning {owner : Owner} {rest : List Owner} (sole : Sole s)
    (is : scans s = owner :: rest) : rest = [] ∧ PendingBuf.waits s ++ s.respTimeouts = [] ∧
      ∃ buf, owner = some buf ∧ s.tx.pendingBuf = some buf := by
  cases sole with
  | calm none_ =>
      have nobody := (calm_iff.1 none_).1
      rw [is] at nobody
      cases nobody
  | scan buf holds steps own others =>
      obtain ⟨first, last⟩ := List.cons.inj (is.symm.trans steps)
      exact ⟨last, others, buf, first, holds⟩
  | waits buf holds others one =>
      rw [is] at others
      cases others

/-- The only procedure there is waits for a response. -/
theorem Sole.responding (sole : Sole s) (some_ : s.respTimeouts ≠ []) :
    scans s = [] ∧ inScan s = [] ∧ PendingBuf.waits s = [] ∧ s.respTimeouts.length = 1 := by
  cases sole with
  | calm none_ => exact absurd (calm_iff.1 none_).2.2.2 some_
  | scan buf holds steps own others => exact absurd (List.append_eq_nil_iff.1 others).2 some_
  | waits buf holds others one =>
      obtain ⟨steps, scan⟩ := List.append_eq_nil_iff.1 others
      obtain ⟨nobody, timeouts⟩ | ⟨-, timeouts⟩ := List.append_eq_singleton_iff.1 one
      · exact ⟨steps, scan, nobody, by rw [timeouts]; rfl⟩
      · exact absurd timeouts some_

/-- The next callback of a scan. -/
theorem callback_lands {step : Step} (sole : Sole s) (fits : Fits s (.callback step))
    (ran : procCall build s (.callback step) = some r) : Lands r := by
  rw [procCall] at ran
  cases callbacks : s.callbacks with
  | nil =>
      rw [callbacks] at ran
      cases ran
  | cons cb rest =>
      rw [callbacks] at ran
      have front : scans s = (stepOwner cb).toList ++ (rest.filterMap stepOwner ++ s.scanSteps) := by
        rw [scans, callbacks, List.filterMap_cons]
        cases stepOwner cb <;> rfl
      cases cb with
      | handleScanRequest param params =>
          cases ran
          have calm : Calm s := fits (by rw [callbacks]; rfl)
          refine .quiet (handleScanRequest_sole (calm_iff.2 ?_)) nofun
          obtain ⟨steps, others⟩ := calm_iff.1 calm
          exact ⟨front.symm.trans steps, others⟩
      | mlmeScanStep owner =>
          obtain ⟨nobody, others, buf, rfl, holds⟩ := sole.scanning front
          exact mlmeScanStep_lands (s := { s with callbacks := rest }) holds nobody others ran

/-- The alarm of a scan. -/
theorem scanStep_lands {i : Nat} {step : Step} (sole : Sole s)
    (ran : procCall build s (.scanStep i step) = some r) : Lands r := by
  rw [procCall] at ran
  obtain ⟨owner, is, ran⟩ := Option.bind_eq_some_iff.1 ran
  obtain ⟨inside, there⟩ := List.getElem?_eq_some_iff.1 is
  cases callbacks : s.callbacks.filterMap stepOwner with
  | cons other more =>
      obtain ⟨nobody, -⟩ := sole.scanning
        (show scans s = other :: (more ++ s.scanSteps) by rw [scans, callbacks]; rfl)
      rw [(List.append_eq_nil_iff.1 nobody).2] at inside
      cases inside
  | nil =>
      cases alarms : s.scanSteps with
      | nil =>
          rw [alarms] at inside
          cases inside
      | cons first rest =>
          obtain ⟨rfl, others, buf, rfl, holds⟩ := sole.scanning
            (show scans s = first :: rest by rw [scans, callbacks, alarms]; rfl)
          obtain rfl : i = 0 := by simpa [alarms] using inside
          obtain rfl : some buf = owner := by simpa [alarms] using there
          refine mlmeScanStep_lands (s := { s with scanSteps := s.scanSteps.eraseIdx 0 }) holds ?_
            others ran
          show s.callbacks.filterMap stepOwner ++ s.scanSteps.eraseIdx 0 = []
          rw [callbacks, alarms]
          rfl

/-- **One event** that `Fits`. -/
theorem procCall_lands (sole : Sole s) (fits : Fits s event)
    (ran : procCall build s event = some r) : Lands r := by
  cases event with
  | tx event => exact txProc_lands sole fits ran
  | scanRequest param params => exact mlmeScanRequest_lands fits.1 ran
  | callback step => exact callback_lands sole fits ran
  | scanStep i step => exact scanStep_lands sole ran
  | respTimeout i radio pendingData =>
      rw [procCall] at ran
      split at ran
      case isFalse => cases ran
      rename_i inside
      have some_ : s.respTimeouts ≠ [] := List.ne_nil_of_length_pos (Nat.zero_lt_of_lt inside)
      obtain ⟨steps, scan, nobody, one⟩ := sole.responding some_
      have last : s.respTimeouts.eraseIdx i = [] := by
        apply List.eq_nil_of_length_eq_zero
        rw [List.length_eraseIdx_of_lt inside, one]
      exact macRespTimeout_lands (s := { s with respTimeouts := s.respTimeouts.eraseIdx i })
        (calm_iff.2 ⟨steps, scan, nobody, last⟩) ran
  | coordinatorRealignment =>
      rw [procCall, coordinatorRealignment] at ran
      split at ran
      · obtain ⟨buffer, -, rfl⟩ := Option.map_eq_some_iff.1 ran
        exact .quiet sole nofun
      · cases ran
        exact .quiet sole nofun
  | startRequest => exact mlmeStartRequest_lands sole fits ran
  | handleDataFrame param unsecured =>
      cases ran
      refine .calm ?_
      rw [zbHandleDataFrame]
      split
      · rw [scheduleProc_fst]
        exact fits
      · exact fits
  | acceptAssRequestCmd param =>
      cases ran
      refine .calm ?_
      rw [zbAcceptAssRequestCmd, scheduleProc_fst]
      exact fits

/-- Who is resumed waits, or is refused. -/
theorem resumed_cases {owner : Owner} (mem : owner ∈ resumed s event) :
    owner ∈ outstanding s ∨
      ∃ param params, event = .scanRequest param params ∧ refusedScan params s = true ∧
        owner = some param := by
  have step (mem : owner ∈ scans s) : owner ∈ outstanding s := by
    rw [outstanding]
    simp [mem]
  cases event with
  | tx event =>
      cases event with
      | mainLoop radio =>
          rw [resumed] at mem
          split at mem
          · rename_i waiting
            have own : owner ∈ waits s := by
              rw [waits, if_pos (.inl waiting.1)]
              exact mem
            exact .inl (by rw [outstanding]; simp [own])
          · cases mem
      | schedule => cases mem
      | counted => cases mem
      | associateResponse => cases mem
      | pendingDataTimeout => cases mem
      | sendOutside => cases mem
      | elsewhere => cases mem
  | scanRequest param params =>
      rw [resumed] at mem
      split at mem
      · rename_i refused
        exact .inr ⟨param, params, rfl, refused, List.mem_singleton.1 mem⟩
      · cases mem
  | callback _ =>
      obtain ⟨cb, head, is⟩ := Option.bind_eq_some_iff.1 (Option.mem_toList.1 mem)
      have there : owner ∈ s.callbacks.filterMap stepOwner :=
        List.mem_filterMap.2 ⟨cb, List.mem_of_mem_head? head, is⟩
      exact .inl (step (List.mem_append_left _ there))
  | scanStep i _ =>
      have there : owner ∈ s.scanSteps := List.mem_of_getElem? (Option.mem_toList.1 mem)
      exact .inl (step (List.mem_append_right _ there))
  | respTimeout i _ _ =>
      have there : owner ∈ s.respTimeouts := List.mem_of_getElem? (Option.mem_toList.1 mem)
      exact .inl (List.mem_append_right _ there)
  | coordinatorRealignment =>
      have own : owner ∈ inScan s := mem
      exact .inl (by rw [outstanding]; simp [own])
  | startRequest => cases mem
  | handleDataFrame => cases mem
  | acceptAssRequestCmd => cases mem

theorem ownBuffer_of_fits (sole : Sole s) (fits : Fits s event) : OwnBuffer s event := by
  intro owner mem
  obtain waits | ⟨param, params, rfl, refused, rfl⟩ := resumed_cases mem
  · exact sole.own waits
  · exact ⟨param, rfl, fits.2 refused⟩

/-- **Whoever is resumed finds its own buffer**, along every run that `Fits`. -/
theorem own_buffer_of_run (calm : Calm s) (along : Along (procStep build) Fits s events) :
    Along (procStep build) OwnBuffer s events := by
  have keeps (s : MacProcs) (event : ProcEvent) (t : MacProcs) (sole : Sole s)
      (fits : Fits s event) (taken : procStep build s event = some t) : Sole t := by
    obtain ⟨r, ran, rfl⟩ := Option.map_eq_some_iff.1 taken
    have lands := procCall_lands sole fits ran
    exact lands.sole.handOn lands.apart
  exact along_of_invariant keeps (fun s event sole fits => ownBuffer_of_fits sole fits)
    (.calm calm) along

end Runs

/-! ## Poles -/

section Poles

def restingProcs : MacProcs := ⟨idleTx, [], [], [], false, 0, none, none⟩

/-- An active scan of one channel. -/
def oneChannel : MlmeScanParams := ⟨activeScan, 0x800, 3⟩

/-- What a step of it finds. -/
def ownStep : Step := ⟨activeScan, transceiver, 0, fun _ => 0⟩

/-- A scan is done, and then a frame is received and a data request command answered. -/
def oneAfterTheOther : List ProcEvent :=
  [.scanRequest 3 oneChannel, .callback ownStep, .callback ownStep, .coordinatorRealignment,
    .scanStep 0 ownStep, .handleDataFrame 4 true,
    .tx (.schedule (.acceptDataRequestCmd 5 ⟨(0x63, 0x88), 1, 0x1AAA, ofAddrShort 0, 0x1AAA,
      ofAddrShort 0x1234⟩)), .tx (.mainLoop transceiver)]

theorem scan_finds_own_buffer : Along (procStep routerBuild) OwnBuffer restingProcs oneAfterTheOther := by
  exact own_buffer_of_run rfl (by decide +kernel)

/-- **A scan that is refused**, because there is one, is confirmed with the buffer of that one. -/
theorem refused_scan_confirms_other : ¬ ∀ build s events u, Calm s →
    run (procStep build) s events = some u → Along (procStep build) OwnBuffer s events := by
  intro always
  have started : ∃ t, run (procStep routerBuild) restingProcs
      [.scanRequest 3 oneChannel, .callback ownStep, .callback ownStep] = some t ∧
      refusedScan oneChannel t = true ∧ t.tx.pendingBuf = some 3 :=
    ⟨_, rfl, by decide +kernel, by decide +kernel⟩
  obtain ⟨t, ran, refused, holds⟩ := started
  have ends : ∃ u, run (procStep routerBuild) restingProcs
      ([.scanRequest 3 oneChannel, .callback ownStep, .callback ownStep] ++
        [.scanRequest 4 oneChannel]) = some u := ⟨_, rfl⟩
  obtain ⟨u, whole⟩ := ends
  have own := (along_append.1 (always routerBuild restingProcs _ u rfl whole)).2 t ran
  obtain ⟨buf, is, there⟩ := own.1 (some 4) (by rw [resumed, if_pos refused]; exact List.mem_singleton_self _)
  rw [holds, ← is] at there
  exact absurd there (by decide)

end Poles

end Zboss.Mac.PendingBuf
