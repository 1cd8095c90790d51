/-
# Zdo.ScanContext -- energy scans, interference checks, and what they share

The channel manager checks for interference with an energy scan of its own; other
devices ask for energy scans with `Mgmt_NWK_Update_req`; APS looks up short addresses
of peers.  All three keep what they need in the union `zdo_ctx`, two bits of `aps.flags`
say whose the next scan confirm is, and three bits of `zdo.flags` belong to the
checks, to the notify, and to the change of the channel.

The masks of `zdo.flags` are token sequences: `1`, `1 << 1`, `1 << 2`.  After `~` these
read `(~1) << 1` and `(~1) << 2`, which have the lower bits clear as well.

The machine (`scanStep`) has the globals, what is scheduled, and for each scheduled
callback the operation it belongs to.  A callback runs in any order; what the radio has
measured and what stands in other buffers is given with the step.
-/
import Mathlib
import Zboss.Common.Constants
import Zboss.Zdo.ChannelChange

namespace Zboss.Zdo.ScanContext

open Zboss.Common.Constants
open Zboss.Common.Types
open Zboss.Common.PacketBuf
open Zboss.Secur.NwkFrame
open Zboss.Zdo.ChannelChange

set_option autoImplicit false

/-! ## Constants -/

def zbTxTotalThreshold : UInt16 := 20

def zbFailsPercentage : UInt16 := 4

def zbDefaultApsChannelMask : UInt32 := (1 : UInt32) <<< 14

def zbTransceiverAllChannelsMask : UInt32 := 0x07FFF800

/-- In minutes. -/
def zbZdoApsChanelTimer : UInt8 := 60

/-! ## The flags -/

inductive ZdoFlag where
  | checkFails
  | sendWithAck
  | channelChanged
  deriving DecidableEq

/-- The `n` of the mask `1 << n`. -/
def ZdoFlag.shift : ZdoFlag → UInt8
  | .checkFails => 0
  | .sendWithAck => 1
  | .channelChanged => 2

/-- `flags |= 1 << n` -/
def setFlag (flag : ZdoFlag) (flags : UInt8) : UInt8 := flags ||| (1 : UInt8) <<< flag.shift

/-- `flags &= ~1 << n`, where `~` comes first. -/
def clearFlag (flag : ZdoFlag) (flags : UInt8) : UInt8 := flags &&& (~~~(1 : UInt8)) <<< flag.shift

/-- `flags & 1 << n` -/
def getFlag (flag : ZdoFlag) (flags : UInt8) : Bool := flags &&& (1 : UInt8) <<< flag.shift != 0

def zbZdoSetCheckFails : UInt8 → UInt8 := setFlag .checkFails
def zbZdoClearCheckFails : UInt8 → UInt8 := clearFlag .checkFails
def zbZdoGetCheckFails : UInt8 → Bool := getFlag .checkFails
def zbZdoSetSendWithAck : UInt8 → UInt8 := setFlag .sendWithAck
def zbZdoClearSendWithAck : UInt8 → UInt8 := clearFlag .sendWithAck
def zbZdoGetSendWithAck : UInt8 → Bool := getFlag .sendWithAck
def zbZdoSetChannelChanged : UInt8 → UInt8 := setFlag .channelChanged
def zbZdoClearChannelChanged : UInt8 → UInt8 := clearFlag .channelChanged
def zbZdoGetChannelChanged : UInt8 → Bool := getFlag .channelChanged

/-! ## The union -/

/-- `zdo_ctx`, as its first nine bytes: those of `nwk_upd_req`. -/
structure ZdoCtxUnion where
  scanChannels : UInt32
  scanDuration : UInt8
  scanCount : UInt8
  dstAddr : UInt16
  tsn : UInt8
  deriving DecidableEq

/- On the 32-bit platform `get_short_addr_ctx` has its reference, an `unsigned` of four bytes, in
those of `scan_channels`, its callback in those of `scan_duration`, `scan_count` and `dst_addr`,
and its parameter in that of `tsn`. -/

def ZdoCtxUnion.dstAddrRef (ctx : ZdoCtxUnion) : UInt32 := ctx.scanChannels

def ZdoCtxUnion.cb (ctx : ZdoCtxUnion) : UInt32 :=
  UInt32.ofNat (ctx.scanDuration.toNat + 2 ^ 8 * ctx.scanCount.toNat + 2 ^ 16 * ctx.dstAddr.toNat)

def ZdoCtxUnion.param (ctx : ZdoCtxUnion) : UInt8 := ctx.tsn

/-- The three fields of `get_short_addr_ctx` are all of the nine bytes. -/
def ZdoCtxUnion.ofGetShortAddrCtx (dstAddrRef cb : UInt32) (param : UInt8) : ZdoCtxUnion where
  scanChannels := dstAddrRef
  scanDuration := UInt8.ofNat (cb.toNat % 2 ^ 8)
  scanCount := UInt8.ofNat (cb.toNat / 2 ^ 8 % 2 ^ 8)
  dstAddr := UInt16.ofNat (cb.toNat / 2 ^ 16)
  tsn := param

section Union

variable (dstAddrRef cb : UInt32) (param : UInt8)

@[simp] theorem dstAddrRef_ofGetShortAddrCtx :
    (ZdoCtxUnion.ofGetShortAddrCtx dstAddrRef cb param).dstAddrRef = dstAddrRef := rfl

@[simp] theorem cb_ofGetShortAddrCtx : (ZdoCtxUnion.ofGetShortAddrCtx dstAddrRef cb param).cb = cb := by
  have large := cb.toNat_lt
  rw [← UInt32.toNat_inj]
  simp only [ZdoCtxUnion.cb, ZdoCtxUnion.ofGetShortAddrCtx, UInt32.toNat_ofNat', UInt8.toNat_ofNat',
    UInt16.toNat_ofNat']
  omega

@[simp] theorem param_ofGetShortAddrCtx :
    (ZdoCtxUnion.ofGetShortAddrCtx dstAddrRef cb param).param = param := rfl

end Union

/-! ## The globals -/

structure ZdoGlobals where
  flags : UInt8
  /-- The two bits of `aps.flags`. -/
  zdoEdScan : Bool
  channelManagerEdScan : Bool
  zdoCtx : ZdoCtxUnion
  longTimer : UInt8
  /-- `long_timer_cb` is not null; it is `zb_zdo_channel_change_timer_cb` then. -/
  longTimerCb : Bool
  tsn : UInt8
  nwkTxTotal : UInt16
  nwkTxFail : UInt16
  nwkManagerAddr : UInt16
  updateId : UInt8
  logicalChannel : UInt8
  deriving DecidableEq

structure ZbNlmeEdScanRequest where
  scanChannels : UInt32
  scanDuration : UInt8
  deriving DecidableEq

structure ZbMacScanConfirm where
  status : UInt8
  unscannedChannels : UInt32
  energyDetect : Vector UInt8 zbMacSupportedChannels
  deriving DecidableEq

structure ZbZdoMgmtNwkUpdateNotifyParam where
  notify : ZbZdoMgmtNwkUpdateNotify
  tsn : UInt8
  dstAddr : UInt16
  deriving DecidableEq

/-! ## Energy scans -/

def zbStartEdScan (g : ZdoGlobals) : ZdoGlobals × ZbNlmeEdScanRequest :=
  ({ g with zdoCtx := { g.zdoCtx with scanCount := g.zdoCtx.scanCount - 1 } },
    ⟨g.zdoCtx.scanChannels, g.zdoCtx.scanDuration⟩)

/-- One turn of the loop that lists the energies: the mask moves on where a channel is in it. -/
def listEnergy (mask : UInt32) (confirm : ZbMacScanConfirm) (r : UInt32 × List UInt8) (k : Nat) :
    UInt32 × List UInt8 :=
  if mask &&& r.1 ≠ 0 then (r.1 * 2, r.2 ++ [confirm.energyDetect.toList.getD k 0]) else r

/-- What `zb_nlme_ed_scan_confirm` schedules. -/
inductive EdScanConfirmed where
  | updNotify (param : ZbZdoMgmtNwkUpdateNotifyParam)
  | checkScanResult
  | nothing
  deriving DecidableEq

def zbNlmeEdScanConfirm (confirm : ZbMacScanConfirm) (g : ZdoGlobals) : EdScanConfirmed :=
  if g.zdoEdScan then
    let mask := g.zdoCtx.scanChannels &&& ~~~confirm.unscannedChannels
    let energyValues :=
      ((List.range zbMacSupportedChannels).foldl (listEnergy mask confirm) (0x800, [])).2
    .updNotify ⟨⟨confirm.status, mask, g.nwkTxTotal, g.nwkTxFail, UInt8.ofNat energyValues.length,
      energyValues⟩, g.zdoCtx.tsn, g.zdoCtx.dstAddr⟩
  else if g.channelManagerEdScan then .checkScanResult
  else .nothing

/-- The notify that is sent, and whether the next scan is. -/
structure UpdNotified where
  withAck : Bool
  notify : ZbZdoMgmtNwkUpdateNotify
  tsn : UInt8
  dstAddr : UInt16
  again : Bool
  deriving DecidableEq

def zbZdoNwkUpdNotify (param : ZbZdoMgmtNwkUpdateNotifyParam) (g : ZdoGlobals) :
    ZdoGlobals × UpdNotified :=
  let withAck := zbZdoGetSendWithAck g.flags
  -- a request takes a transaction number of its own
  let tsn := if withAck then g.tsn + 1 else g.tsn
  let again := param.notify.status == zbZdpStatusSuccess && g.zdoCtx.scanCount != 0
  ({ g with
      zdoEdScan := again
      flags := if withAck then zbZdoClearSendWithAck g.flags else g.flags
      tsn },
    ⟨withAck, param.notify, if withAck then tsn else param.tsn, param.dstAddr, again⟩)

/-! ## Interference checks -/

/-- The counters call for a check, and none is in progress. -/
def checkDue (g : ZdoGlobals) : Bool :=
  decide (g.nwkTxTotal > zbTxTotalThreshold) && !zbZdoGetCheckFails g.flags &&
    decide (g.nwkTxFail > g.nwkTxTotal / zbFailsPercentage)

/-- With a check, the alarm of `zb_zdo_channel_check_timer_cb` and `zb_start_ed_scan` are
scheduled. -/
def zbZdoCheckFails (g : ZdoGlobals) : ZdoGlobals :=
  if checkDue g then
    { g with
      flags := zbZdoSetCheckFails g.flags
      zdoCtx := ⟨zbDefaultApsChannelMask, zbDefaultScanDuration, 1, 0, 0⟩
      channelManagerEdScan := true }
  else g

def zbZdoChannelCheckTimerCb (g : ZdoGlobals) : ZdoGlobals :=
  { g with flags := zbZdoClearCheckFails g.flags }

/-- The current channel has been measured as busy. -/
def channelBusy (scanResult : ZbMacScanConfirm) (g : ZdoGlobals) : Bool :=
  scanResult.status == macSuccess &&
    scanResult.unscannedChannels &&& (1 <<< g.logicalChannel.toUInt32) == 0 &&
    decide (scanResult.energyDetect.toList.getD (g.logicalChannel - zbMacStartChannelNumber).toNat 0 >
      zbChannelBusyEdValue)

/-- `scanResult` stands in the pending buffer of the MAC, `confirm` in the buffer passed; without
a result the buffer is freed. -/
def zbZdoChannelCheckScanResult (scanResult confirm : ZbMacScanConfirm) (g : ZdoGlobals) :
    ZdoGlobals × Option EdScanConfirmed :=
  let g := { g with channelManagerEdScan := false }
  if channelBusy scanResult g then
    let g := { g with
      zdoEdScan := true
      zdoCtx := { g.zdoCtx with
        scanCount := 0
        scanChannels := zbTransceiverAllChannelsMask
        tsn := 0
        dstAddr := g.nwkManagerAddr }
      flags := zbZdoSetSendWithAck g.flags }
    (g, some (zbNlmeEdScanConfirm confirm g))
  else (g, none)

/-! ## The change of the channel -/

/-- `none` when the assertion that the long timer is free fails. -/
def zbZdoStartLongTimer (longTimer : UInt8) (g : ZdoGlobals) : Option ZdoGlobals :=
  if g.longTimerCb then none else some { g with longTimer, longTimerCb := true }

/-- And whether the minute is over another time. -/
def zbZdoLongTimerCb (g : ZdoGlobals) : ZdoGlobals × Bool :=
  let g := { g with longTimer := g.longTimer - 1 }
  if g.longTimer ≠ 0 then (g, true) else ({ g with longTimerCb := false }, false)

def zbZdoChannelChangeTimerCb (g : ZdoGlobals) : ZdoGlobals :=
  { g with flags := zbZdoClearChannelChanged g.flags }

def channelManager (g : ZdoGlobals) : ChannelManager :=
  ⟨zbZdoGetChannelChanged g.flags, g.updateId, g.tsn, g.logicalChannel⟩

/-- `none` when the search for the channel does not end, or an assertion fails. -/
def changeChannel (beyond : UInt8 → UInt32) (param : ZbZdoMgmtNwkUpdateReq)
    (notify : ZbZdoMgmtNwkUpdateNotify) (g : ZdoGlobals) : Option (ZdoGlobals × ChangeOutcome) := do
  let (mgr, outcome) ← zdoChangeChannel beyond param notify (channelManager g)
  match outcome with
  | .freed => return (g, .freed)
  | .sent req =>
      let g ← zbZdoStartLongTimer zbZdoApsChanelTimer { g with
        updateId := mgr.updateId
        tsn := mgr.tsn
        flags := zbZdoSetChannelChanged g.flags }
      return (g, .sent req)

/-- What a report does to the globals. -/
theorem changeChannel_cases {beyond : UInt8 → UInt32} {param : ZbZdoMgmtNwkUpdateReq}
    {notify : ZbZdoMgmtNwkUpdateNotify} {g g' : ZdoGlobals} {outcome : ChangeOutcome}
    (changed : changeChannel beyond param notify g = some (g', outcome)) :
    g' = g ∨ ∃ updateId tsn, g' = { g with
      updateId, tsn
      flags := zbZdoSetChannelChanged g.flags
      longTimer := zbZdoApsChanelTimer
      longTimerCb := true } := by
  obtain ⟨⟨mgr, outcome'⟩, -, changed⟩ := Option.bind_eq_some_iff.1 changed
  cases outcome' with
  | freed =>
      cases changed
      exact .inl rfl
  | sent req =>
      obtain ⟨g'', started, is⟩ := Option.bind_eq_some_iff.1 changed
      cases is
      unfold zbZdoStartLongTimer at started
      split at started
      · cases started
      · cases started
        exact .inr ⟨_, _, rfl⟩

def zbZdoNewChannelCb (channel : UInt8) (g : ZdoGlobals) : ZdoGlobals :=
  { g with logicalChannel := channel, nwkTxTotal := 0, nwkTxFail := 0, updateId := g.updateId + 1 }

/-! ## Looking up a peer -/

def zbStartGetPeerShortAddr (dstAddrRef cb : UInt32) (param : UInt8) (g : ZdoGlobals) :
    ZdoGlobals :=
  { g with zdoCtx := .ofGetShortAddrCtx dstAddrRef cb param }

/-- The device that `zb_get_peer_short_addr` asks for. -/
def zbGetPeerShortAddr (g : ZdoGlobals) : UInt32 := g.zdoCtx.dstAddrRef

/-- The callback that `zb_get_peer_short_addr_cb` schedules. -/
def zbGetPeerShortAddrCb (g : ZdoGlobals) : Option (UInt32 × UInt8) :=
  if g.zdoCtx.cb ≠ 0 then some (g.zdoCtx.cb, g.zdoCtx.param) else none

/-! ## The machine -/

/-- An energy scan asked for by a device, or a check: what it was started with, and the number of
scans started. -/
structure ScanOp where
  check : Bool
  scanChannels : UInt32
  scanDuration : UInt8
  scanCount : UInt8
  dstAddr : UInt16
  tsn : UInt8
  ran : Nat
  deriving DecidableEq

/-- A lookup, and what it was started with. -/
structure Lookup where
  dstAddrRef : UInt32
  cb : UInt32
  param : UInt8
  deriving DecidableEq

/-- What is scheduled. -/
inductive ZdoTask where
  | longTimer
  | channelChangeTimer
  | newChannel (channel : UInt8)
  /-- waits for a buffer -/
  | startEdScan (op : ScanOp)
  /-- from `zb_nlme_ed_scan_request` to the confirm -/
  | edScan (op : ScanOp) (rq : ZbNlmeEdScanRequest)
  | checkScanResult (op : ScanOp) (confirm : ZbMacScanConfirm)
  | updNotify (op : ScanOp) (param : ZbZdoMgmtNwkUpdateNotifyParam)
  /-- waits for a buffer -/
  | getPeerShortAddr (lookup : Lookup)
  /-- waits for the response -/
  | nwkAddrReq (lookup : Lookup)
  deriving DecidableEq

/-- What the others see. -/
inductive ScanOut where
  | scans (op : ScanOp) (rq : ZbNlmeEdScanRequest)
  | confirms (op : ScanOp) (confirmed : EdScanConfirmed)
  /-- a check has found the channel busy -/
  | reports (op : ScanOp) (confirmed : EdScanConfirmed)
  | answers (op : ScanOp) (notified : UpdNotified)
  | asks (lookup : Lookup) (dstAddrRef : UInt32)
  | calls (lookup : Lookup) (callback : Option (UInt32 × UInt8))
  deriving DecidableEq

structure Effect where
  globals : ZdoGlobals
  tasks : List ZdoTask
  outs : List ScanOut

/-- Send the notify of an operation. -/
def notifyEffect (op : ScanOp) (param : ZbZdoMgmtNwkUpdateNotifyParam) (g : ZdoGlobals) : Effect :=
  let (g, notified) := zbZdoNwkUpdNotify param g
  ⟨g, if notified.again then [.startEdScan op] else [], [.answers op notified]⟩

/-- What the confirm of an operation has scheduled. -/
def confirmTasks (op : ScanOp) (confirm : ZbMacScanConfirm) : EdScanConfirmed → List ZdoTask
  | .updNotify param => [.updNotify op param]
  | .checkScanResult => [.checkScanResult op confirm]
  | .nothing => []

/-- Start the scans that the context asks for. -/
def startEffect (op : ScanOp) (g : ZdoGlobals) : Effect :=
  let (g, rq) := zbStartEdScan g
  let op := { op with ran := op.ran + 1 }
  ⟨g, [.edScan op rq], [.scans op rq]⟩

/-- A scheduled callback; `scanned` is what the radio has measured. -/
def runTask (scanned : ZbMacScanConfirm) (g : ZdoGlobals) : ZdoTask → Effect
  | .longTimer =>
      let (g, again) := zbZdoLongTimerCb g
      ⟨g, [if again then .longTimer else .channelChangeTimer], []⟩
  | .channelChangeTimer => ⟨zbZdoChannelChangeTimerCb g, [], []⟩
  | .newChannel channel => ⟨zbZdoNewChannelCb channel g, [], []⟩
  | .startEdScan op => startEffect op g
  | .edScan op _ =>
      let confirmed := zbNlmeEdScanConfirm scanned g
      ⟨g, confirmTasks op scanned confirmed, [.confirms op confirmed]⟩
  | .checkScanResult op confirm =>
      match zbZdoChannelCheckScanResult scanned confirm g with
      | (g', some confirmed) =>
          -- from here on the check is a report to the manager
          let op := { op with dstAddr := g.nwkManagerAddr }
          ⟨g', confirmTasks op confirm confirmed, [.reports op confirmed]⟩
      | (g', none) => ⟨g', [], []⟩
  | .updNotify op param => notifyEffect op param g
  | .getPeerShortAddr lookup =>
      ⟨g, [.nwkAddrReq lookup], [.asks lookup (zbGetPeerShortAddr g)]⟩
  | .nwkAddrReq lookup => ⟨g, [], [.calls lookup (zbGetPeerShortAddrCb g)]⟩

/-- What a request asks for. -/
def requestOp (ind : UpdateInd) (apsBody : List UInt8) : ScanOp :=
  ⟨false, uint32At 1 apsBody, apsBody.getD 5 0, apsBody.getD 6 0, ind.srcAddr, apsBody.getD 0 0, 0⟩

/-- What a check is started with. -/
def checkOp : ScanOp := ⟨true, zbDefaultApsChannelMask, zbDefaultScanDuration, 1, 0, 0, 0⟩

/-- What `zb_zdo_mgmt_nwk_update_handler` does with the request of `op`. -/
def updateEffect (op : ScanOp) (g : ZdoGlobals) : UpdateHandled → Effect
  | .newChannel i => ⟨g, [.newChannel i], []⟩
  | .newMask _ nwkManagerAddr => ⟨{ g with nwkManagerAddr }, [], []⟩
  | .edScan req scanCount dstAddr tsn =>
      startEffect op { g with
        zdoCtx := ⟨req.scanChannels, req.scanDuration, scanCount, dstAddr, tsn⟩
        zdoEdScan := true }
  | .updNotify status tsn dstAddr =>
      notifyEffect op ⟨⟨status, 0, 0, 0, 0, []⟩, tsn, dstAddr⟩ g
  | .nothing => ⟨g, [], []⟩

/-- The alarms of a change of the channel. -/
def changeTasks : ChangeOutcome → List ZdoTask
  | .freed => []
  | .sent req => req.newChannel.toList.map .newChannel ++ [.longTimer]

/-- `checkAlarms` are the checks whose alarm is pending, `unfired` those whose timer callback has
not been called. -/
structure ZdoScan where
  globals : ZdoGlobals
  checkAlarms : List Nat
  pending : List ZdoTask
  checks : Nat
  unfired : List Nat
  deriving DecidableEq

inductive ZdoCall where
  | transmissions (total fail : UInt16)
  /-- the alarm queue has an entry for the alarm, or has not -/
  | checkFails (alarm : Bool)
  | checkTimer (i : Nat)
  | updateReq (ind : UpdateInd) (apsBody : List UInt8)
  | updateNotify (param : ZbZdoMgmtNwkUpdateReq) (notify : ZbZdoMgmtNwkUpdateNotify)
  | startGetPeerShortAddr (lookup : Lookup)
  | run (i : Nat) (scanned : ZbMacScanConfirm)
  /-- a response is lost -/
  | lost (i : Nat)

section Machine

variable (beyond : UInt8 → UInt32)

/-- The effect on the globals, the tasks to come, and what the others see. -/
def effect (s : ZdoScan) : ZdoCall → Option Effect
  | .transmissions nwkTxTotal nwkTxFail => some ⟨{ s.globals with nwkTxTotal, nwkTxFail }, [], []⟩
  | .checkFails _ =>
      some ⟨zbZdoCheckFails s.globals,
        if checkDue s.globals then [.startEdScan checkOp] else [], []⟩
  | .checkTimer i => s.checkAlarms[i]?.map fun _ => ⟨zbZdoChannelCheckTimerCb s.globals, [], []⟩
  | .updateReq ind apsBody =>
      (zbZdoMgmtNwkUpdateHandler beyond ind apsBody).map
        (updateEffect (requestOp ind apsBody) s.globals)
  | .updateNotify param notify =>
      (changeChannel beyond param notify s.globals).map fun (g, outcome) =>
        ⟨g, changeTasks outcome, []⟩
  | .startGetPeerShortAddr lookup =>
      some ⟨zbStartGetPeerShortAddr lookup.dstAddrRef lookup.cb lookup.param s.globals,
        [.getPeerShortAddr lookup], []⟩
  | .run i scanned => s.pending[i]?.map (runTask scanned s.globals)
  | .lost i =>
      match s.pending[i]? with
      | some (.nwkAddrReq _) => some ⟨s.globals, [], []⟩
      | _ => none

/-- What stays scheduled. -/
def left (s : ZdoScan) : ZdoCall → List ZdoTask
  | .run i _ => s.pending.eraseIdx i
  | .lost i => s.pending.eraseIdx i
  | _ => s.pending

/-- The alarms after a call. -/
def alarms (s : ZdoScan) : ZdoCall → List Nat
  | .checkFails alarm =>
      if checkDue s.globals && alarm then s.checkAlarms ++ [s.checks] else s.checkAlarms
  | .checkTimer i => s.checkAlarms.eraseIdx i
  | _ => s.checkAlarms

/-- The checks whose timer callback has not been called, after a call. -/
def waiting (s : ZdoScan) : ZdoCall → List Nat
  | .checkFails _ => if checkDue s.globals then s.unfired ++ [s.checks] else s.unfired
  | .checkTimer i => s.checkAlarms[i]?.elim s.unfired s.unfired.erase
  | _ => s.unfired

/-- The checks there have been, after a call. -/
def checked (s : ZdoScan) : ZdoCall → Nat
  | .checkFails _ => if checkDue s.globals then s.checks + 1 else s.checks
  | _ => s.checks

def scanStep (s : ZdoScan) (call : ZdoCall) : Option ZdoScan :=
  (effect beyond s call).map fun effect =>
    ⟨effect.globals, alarms s call, left s call ++ effect.tasks, checked s call, waiting s call⟩

end Machine

def ZdoGlobals.init : ZdoGlobals :=
  ⟨0, false, false, ⟨0, 0, 0, 0, 0⟩, 0, false, 0, 0, 0, 0, 0, zbMacStartChannelNumber⟩

def ZdoScan.init : ZdoScan := ⟨.init, [], [], 0, []⟩

end Zboss.Zdo.ScanContext
