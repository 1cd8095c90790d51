/-
# Zdo.MgmtLeave -- a device leaves when it is told to

A request to leave comes from the application or over the air, and is noted in a list of four
places; the NWK layer sends a LEAVE and confirms it; the confirm is answered, by a callback or by a
response; and when the answer has gone, the device leaves, if it was asked to.  What decides is one
flag, `leave_after_mgmt_leave_rsp_conf`, and the buffer by which the place is found again.

Every buffer of a request is at one `Place` at a time, and the steps may come in any order.  A place
carries, for the statements only, whether the device has been `told` to leave: the request asked it
to and its LEAVE was sent, or a LEAVE came from its parent.  The claimed behaviour is
`LeavesWhenTold`.

* `leaves_when_told`: it holds along every run whose steps meet `LeaveFits`;
* `left_with_the_child`: a device that removes a child at its own request leaves after it.
-/
import Mathlib
import Zboss.Common.Constants
import Zboss.Theory.Run
import Zboss.Aps.ApsFrame
import Zboss.Nwk.Broadcast
import Zboss.Nwk.Forget

namespace Zboss.Zdo.MgmtLeave

open Zboss.Common.Constants
open Zboss.Theory.Run
open Zboss.Common.Types
open Zboss.Common.Address
open Zboss.Aps.ApsFrame (zbNwkIsAddressBroadcast)
open Zboss.Nwk.Neighbor
open Zboss.Nwk.Broadcast (zbNwkBroadcastAllDevices)
open Zboss.Nwk.Forget (zbIeeeAddrIsZero)

set_option autoImplicit false

/-! ## State -/

def zbNwkStatusUnknownDevice : UInt8 := 0xC8

def zbIeeeAddrZero : ZbIeeeAddr := Vector.replicate 8 0

/-- An empty address stands for the device itself. -/
structure LeaveRequest where
  deviceAddress : ZbIeeeAddr
  rejoin : Bool
  deriving DecidableEq

/-- The payload of a LEAVE command. -/
structure LeavePayload where
  request : Bool
  removeChildren : Bool
  rejoin : Bool

/-- What the confirm of a LEAVE's transmission leads to. -/
inductive LeaveHandle where
  | confirmAtDataConfirm
  | indAtDataConfirm
  deriving DecidableEq

/-- Where a buffer is, and what it carries there. -/
inductive Place where
  | request (r : LeaveRequest)
  | forward (handle : LeaveHandle) (dst : UInt16) (told : Bool)
  | mac (handle : LeaveHandle) (macDst : UInt16) (told : Bool)
  | confirm (status : UInt8) (deviceAddress : ZbIeeeAddr) (told : Bool)
  | response (told : Bool)
  | indication (deviceAddress : ZbIeeeAddr) (rejoin : Bool) (told : Bool)
  /-- The announcement of the device, or a frame after which the key is switched. -/
  | other
  deriving DecidableEq

structure Pending where
  used : Bool
  bufRef : Nat
  tsn : UInt8
  srcAddr : UInt16

/-- `func` is that there is a callback. -/
structure ZdoCb where
  func : Bool
  tsn : UInt8
  respCounter : UInt8

/-- `localWaits` are the callbacks of `zb_nwk_do_leave_local` that wait for a buffer, `left` the
calls of `zb_nwk_do_leave`, the last one first: each with its `told`. -/
structure LeaveState where
  joined : Bool
  shortAddress : UInt16
  pendingList : Nat → Pending
  pendingListSize : Nat
  rejoinAfterLeave : Bool
  leaveAfterMgmtLeaveRspConf : Bool
  leaveIndPrnt : Nat × Bool
  prntWaits : Nat
  localWaits : List Bool
  tsn : UInt8
  zdoCb : Nat → ZdoCb
  devAnnce : Nat
  keySw : Nat
  place : Nat → Option Place
  left : List Bool

def LeaveState.init (shortAddress : UInt16) : LeaveState where
  joined := true
  shortAddress := shortAddress
  pendingList _ := ⟨false, 0, 0, 0⟩
  pendingListSize := 0
  rejoinAfterLeave := false
  leaveAfterMgmtLeaveRspConf := false
  leaveIndPrnt := (0, false)
  prntWaits := 0
  localWaits := []
  tsn := 0
  zdoCb _ := ⟨false, 0, 0⟩
  devAnnce := 0
  keySw := 0
  place _ := none
  left := []

/-- `routerRole` is that `ZB_ROUTER_ROLE` is defined, `nullFaults` that the platform stops when the
null pointer is read. -/
structure LeaveConfig where
  routerRole : Bool
  nullFaults : Bool

/-- What a step reads of the tables.  `lastUnicast` is the child the last copy of a broadcast goes
to, where it goes to one; `ieeeByShort` is what is in the buffer, where the address is not known. -/
structure LeaveEnv where
  deviceType : UInt8
  rejoining : Bool
  parentShort : UInt16
  neighborByIeee : ZbIeeeAddr → Option (ZbNwkRelationship × UInt16)
  sender : Option (ZbNwkRelationship × Nat)
  ieeeByRef : Nat → ZbIeeeAddr
  ieeeByShort : UInt16 → ZbIeeeAddr
  nextHop : UInt16 → UInt16
  lastUnicast : Option UInt16

def LeaveState.put (param : Nat) (place : Option Place) (s : LeaveState) : LeaveState :=
  { s with place := Function.update s.place param place }

/-! ## The callbacks of the ZDO -/

/-- `ZB_TSN_HASH`. -/
def zbTsnHash (tsn : UInt8) : Nat := (5381 * 32 + 5381 + tsn.toNat) % zdoTranTableSize

/-- The places of the table in the order of the search. -/
def zdoCbPlaces (tsn : UInt8) : List Nat :=
  (List.range zdoTranTableSize).map fun k => (zbTsnHash tsn + k) % zdoTranTableSize

def registerZdoCb (tsn : UInt8) (cb : Bool) (respCounter : UInt8) (zdoCb : Nat → ZdoCb) :
    Nat → ZdoCb :=
  if cb then
    match (zdoCbPlaces tsn).find? fun i => !(zdoCb i).func with
    | some i => Function.update zdoCb i ⟨true, tsn, respCounter⟩
    | none => zdoCb
  else zdoCb

/-- `none` is `RET_NOT_FOUND`; otherwise the callback is scheduled with the buffer. -/
def zdoAfResp (tsn : UInt8) (zdoCb : Nat → ZdoCb) : Option (Nat → ZdoCb) :=
  ((zdoCbPlaces tsn).find? fun i => (zdoCb i).tsn == tsn && (zdoCb i).func).map fun i =>
    let respCounter := (zdoCb i).respCounter - 1
    Function.update zdoCb i ⟨decide (respCounter ≠ 0), tsn, respCounter⟩

/-! ## The list of requests -/

def freePlace (s : LeaveState) : Option Nat :=
  (List.range zbZdoPendingLeaveSize).find? fun i => !(s.pendingList i).used

def remember (i : Nat) (p : Pending) (s : LeaveState) : LeaveState :=
  { s with
    pendingListSize := max s.pendingListSize (i + 1)
    pendingList := Function.update s.pendingList i p }

/-- The place of the request in the buffer. -/
def pendingOf (param : Nat) (s : LeaveState) : Option Nat :=
  (List.range s.pendingListSize).find? fun i =>
    (s.pendingList i).used && (s.pendingList i).bufRef == param

def release (i : Nat) (s : LeaveState) : LeaveState :=
  { s with
    pendingList := Function.update s.pendingList i { s.pendingList i with used := false }
    pendingListSize := if s.pendingListSize = i + 1 then i else s.pendingListSize }

/-- A request of the application.  Where the list is full, the callback gets the buffer at once. -/
def zdoMgmtLeaveCli (param : Nat) (cb : Bool) (r : LeaveRequest) (s : LeaveState) : LeaveState :=
  match freePlace s with
  | none => s
  | some i =>
      let tsn := s.tsn + 1
      let s := { s with tsn, zdoCb := registerZdoCb tsn cb 1 s.zdoCb }
      (remember i ⟨true, param, tsn, s.shortAddress⟩ s).put param (some (.request r))

/-- A request from `srcAddr`.  Where the list is full, the response goes out at once. -/
def zdoMgmtLeaveSrv (param : Nat) (tsn : UInt8) (srcAddr : UInt16) (r : LeaveRequest)
    (s : LeaveState) : LeaveState :=
  match freePlace s with
  | none => s.put param (some (.response false))
  | some i => (remember i ⟨true, param, tsn, srcAddr⟩ s).put param (some (.request r))

/-! ## Leaving -/

/-- The list is forgotten, but not its places. -/
def zbNwkDoLeave (rejoin told : Bool) (s : LeaveState) : LeaveState :=
  { s with
    leaveAfterMgmtLeaveRspConf := false
    joined := false
    pendingListSize := 0
    shortAddress := if rejoin then s.shortAddress else 0xFFFF
    left := told :: s.left }

/-- For a request of the device itself, the leave waits for another buffer. -/
def zdoTryMgmtLeaveComplete (param : Nat) (told : Bool) (s : LeaveState) : Option LeaveState :=
  (pendingOf param s).map fun i =>
    let src := (s.pendingList i).srcAddr
    let s := release i s
    if src = s.shortAddress then { s with localWaits := s.localWaits ++ [told] }
    else zbNwkDoLeave s.rejoinAfterLeave told s

/-- The answer to the request in the buffer: the callback, or a response. -/
def sendAnswer (i param : Nat) (told : Bool) (s : LeaveState) : LeaveState :=
  if (s.pendingList i).srcAddr = s.shortAddress then
    match zdoAfResp (s.pendingList i).tsn s.zdoCb with
    | some zdoCb =>
        let s := { s with zdoCb }.put param none
        (zdoTryMgmtLeaveComplete param told s).getD s
    | none => s.put param none
  else s.put param (some (.response told))

def zdoTrySendMgmtLeaveRsp (param : Nat) (status : UInt8) (willLeave told : Bool) (s : LeaveState) :
    Option LeaveState :=
  (pendingOf param s).map fun i =>
    let s := sendAnswer i param told s
    if status ≠ 0 ∨ willLeave = false then release i s else s

/-- The confirm says that this device is the one, and that it worked. -/
def willLeave (status : UInt8) (deviceAddress : ZbIeeeAddr) : Bool :=
  status == 0 && zbIeeeAddrIsZero deviceAddress

/-- Without a request to answer, the device that is named is dropped from the neighbour table; where
it is not in there, its entry is read all the same. -/
def zbNlmeLeaveConfirm (cfg : LeaveConfig) (env : LeaveEnv) (param : Nat) (status : UInt8)
    (deviceAddress : ZbIeeeAddr) (told : Bool) (s : LeaveState) : Option LeaveState :=
  let will := willLeave status deviceAddress
  match zdoTrySendMgmtLeaveRsp param status will told s with
  | some s => some { s with leaveAfterMgmtLeaveRspConf := will }
  | none =>
      if will then some ((zbNwkDoLeave s.rejoinAfterLeave told s).put param none)
      else if (env.neighborByIeee deviceAddress).isNone ∧ cfg.nullFaults then none
      else some (s.put param none)

/-- What the confirm of a frame of the APS is taken for; then the buffer is given away. -/
def dataConfirmed (cfg : LeaveConfig) (param : Nat) (told : Bool) (s : LeaveState) : LeaveState :=
  if s.devAnnce = param then { s with devAnnce := 0 }
  else if cfg.routerRole ∧ s.keySw = param then { s with keySw := 0 }
  else if s.leaveAfterMgmtLeaveRspConf then (zdoTryMgmtLeaveComplete param told s).getD s
  else s

/-- A buffer that is on its way elsewhere is not confirmed. -/
def zbApsdeDataConfirm (cfg : LeaveConfig) (param : Nat) (s : LeaveState) : Option LeaveState :=
  match s.place param with
  | some (.response told) => some ((dataConfirmed cfg param told s).put param none)
  | some .other | none => some ((dataConfirmed cfg param false s).put param none)
  | some (.request _) | some (.forward _ _ _) | some (.mac _ _ _) | some (.confirm _ _ _)
  | some (.indication _ _ _) => none

/-! ## The NWK layer -/

/-- Only routers and the coordinator look for the device named; without an entry, the LEAVE is that
of the device itself, and the entry is read all the same. -/
def zbNlmeLeaveRequest (cfg : LeaveConfig) (env : LeaveEnv) (param : Nat) (r : LeaveRequest)
    (s : LeaveState) : Option LeaveState :=
  let own := zbIeeeAddrIsZero r.deviceAddress
  let failed (status : UInt8) : Option LeaveState :=
    some (s.put param (some (.confirm status r.deviceAddress false)))
  if s.joined = false then failed zbNwkStatusInvalidRequest
  else if cfg.routerRole ∧ own = false ∧
      (env.deviceType = zbNwkDeviceTypeCoordinator ∨ env.deviceType = zbNwkDeviceTypeRouter) then
    match env.neighborByIeee r.deviceAddress with
    | none => failed zbNwkStatusUnknownDevice
    | some (.unauthenticatedChild, _) => failed zbNwkStatusSuccess
    | some (.child, addr) => some (s.put param (some (.forward .confirmAtDataConfirm addr false)))
    | some _ => failed zbNwkStatusUnknownDevice
  else if cfg.routerRole ∧ cfg.nullFaults then none
  else
    some ({ s with rejoinAfterLeave := r.rejoin }.put param
      (some (.forward .confirmAtDataConfirm zbNwkBroadcastRxOnWhenIdle own)))

/-- Where the MAC sends a frame to: an end device sends all to its parent, but not during rejoin. -/
def macDst (cfg : LeaveConfig) (env : LeaveEnv) (dst : UInt16) : UInt16 :=
  if cfg.routerRole = false ∨ env.deviceType = zbNwkDeviceTypeEd then
    if env.rejoining then dst else env.parentShort
  else if zbNwkIsAddressBroadcast dst then env.lastUnicast.getD zbNwkBroadcastAllDevices
  else env.nextHop dst

/-- A frame that does not pass is freed. -/
def zbNwkForward (cfg : LeaveConfig) (env : LeaveEnv) (param : Nat) (handle : LeaveHandle)
    (dst : UInt16) (told passes : Bool) (s : LeaveState) : LeaveState :=
  s.put param (if passes then some (.mac handle (macDst cfg env dst) told) else none)

/-- Whom the confirm of a LEAVE names: the destination of the frame, and this device when the frame
was broadcast. -/
def confirmedAddress (env : LeaveEnv) (dst : UInt16) : ZbIeeeAddr :=
  if dst ≠ zbNwkBroadcastAllDevices then env.ieeeByShort dst else zbIeeeAddrZero

/-- The header is cleared before its status is copied. -/
def zbMcpsDataConfirm (env : LeaveEnv) (param : Nat) (status : UInt8) (handle : LeaveHandle)
    (dst : UInt16) (told : Bool) (s : LeaveState) : LeaveState :=
  match handle with
  | .indAtDataConfirm => s.put param (some (.indication zbIeeeAddrZero s.rejoinAfterLeave told))
  | .confirmAtDataConfirm =>
      s.put param (some (.confirm 0 (confirmedAddress env dst) (told && status == 0)))

/-- A LEAVE command from the network. -/
def zbNwkLeaveHandler (cfg : LeaveConfig) (env : LeaveEnv) (param : Nat) (lp : LeavePayload)
    (s : LeaveState) : LeaveState :=
  match env.sender with
  | none => s
  | some (relationship, ref) =>
      let ed := decide (env.deviceType = zbNwkDeviceTypeEd)
      if relationship = .parent then
        let s := if lp.request then s
          else { s with leaveIndPrnt := (ref, lp.rejoin), prntWaits := s.prntWaits + 1 }
        if cfg.routerRole ∧ (lp.request ∨ lp.removeChildren) ∧ ed = false then
          { s with rejoinAfterLeave := lp.rejoin }.put param
            (some (.forward .indAtDataConfirm zbNwkBroadcastRxOnWhenIdle true))
        else if cfg.routerRole = false ∨ ed then
          s.put param (some (.indication zbIeeeAddrZero lp.rejoin true))
        else s.put param (some (.indication (env.ieeeByRef ref) lp.rejoin true))
      else if lp.request ∨ (cfg.routerRole ∧ ed) then s
      else s.put param (some (.indication (env.ieeeByRef ref) lp.rejoin false))

/-- An empty address stands for the device itself; any other device is forgotten. -/
def zbNlmeLeaveIndication (param : Nat) (deviceAddress : ZbIeeeAddr) (rejoin told : Bool)
    (s : LeaveState) : LeaveState :=
  if zbIeeeAddrIsZero deviceAddress then (zbNwkDoLeave rejoin told s).put param none
  else s.put param none

/-! ## Histories -/

/-- The steps, each with the tables it finds.  Those of a layer name the buffer they are called
with; the requests and frames come in buffers that are free. -/
inductive LeaveEvent where
  | mgmtLeaveCli (param : Nat) (cb : Bool) (r : LeaveRequest)
  | mgmtLeaveSrv (param : Nat) (tsn : UInt8) (srcAddr : UInt16) (r : LeaveRequest)
  /-- A request of the stack itself, without an entry in the list. -/
  | nlmeLeave (param : Nat) (r : LeaveRequest)
  | leaveFrame (param : Nat) (env : LeaveEnv) (lp : LeavePayload)
  | leaveRequest (param : Nat) (env : LeaveEnv)
  | forward (param : Nat) (env : LeaveEnv) (passes : Bool)
  | mcpsDataConfirm (param : Nat) (env : LeaveEnv) (status : UInt8)
  | leaveConfirm (param : Nat) (env : LeaveEnv)
  | apsdeDataConfirm (param : Nat)
  | leaveIndication (param : Nat)
  | doLeaveLocal
  | leaveIndPrnt (param : Nat) (env : LeaveEnv)
  | otherRequest (cb : Bool) (respCounter : UInt8)
  | otherResponse (tsn : UInt8)
  | deviceAnnce (param : Nat)
  | keySwitch (param : Nat)
  | join
  | setShortAddress (addr : UInt16)

def LeaveState.free (param : Nat) (s : LeaveState) : Prop := s.place param = none

instance (param : Nat) (s : LeaveState) : Decidable (s.free param) :=
  inferInstanceAs (Decidable (s.place param = none))

def leaveStep (cfg : LeaveConfig) (s : LeaveState) : LeaveEvent → Option LeaveState
  | .mgmtLeaveCli param cb r => if s.free param then some (zdoMgmtLeaveCli param cb r s) else none
  | .mgmtLeaveSrv param tsn srcAddr r =>
      if s.free param then some (zdoMgmtLeaveSrv param tsn srcAddr r s) else none
  | .nlmeLeave param r => if s.free param then some (s.put param (some (.request r))) else none
  | .leaveFrame param env lp =>
      if s.free param then some (zbNwkLeaveHandler cfg env param lp s) else none
  | .leaveRequest param env =>
      match s.place param with
      | some (.request r) => zbNlmeLeaveRequest cfg env param r s
      | _ => none
  | .forward param env passes =>
      match s.place param with
      | some (.forward handle dst told) => some (zbNwkForward cfg env param handle dst told passes s)
      | _ => none
  | .mcpsDataConfirm param env status =>
      match s.place param with
      | some (.mac handle dst told) => some (zbMcpsDataConfirm env param status handle dst told s)
      | _ => none
  | .leaveConfirm param env =>
      match s.place param with
      | some (.confirm status deviceAddress told) =>
          zbNlmeLeaveConfirm cfg env param status deviceAddress told s
      | _ => none
  | .apsdeDataConfirm param => zbApsdeDataConfirm cfg param s
  | .leaveIndication param =>
      match s.place param with
      | some (.indication deviceAddress rejoin told) =>
          some (zbNlmeLeaveIndication param deviceAddress rejoin told s)
      | _ => none
  | .doLeaveLocal =>
      match s.localWaits with
      | told :: rest => some (zbNwkDoLeave s.rejoinAfterLeave told { s with localWaits := rest })
      | [] => none
  | .leaveIndPrnt param env =>
      if s.free param ∧ s.prntWaits ≠ 0 then
        some ({ s with prntWaits := s.prntWaits - 1 }.put param
          (some (.indication (env.ieeeByRef s.leaveIndPrnt.1) s.leaveIndPrnt.2 true)))
      else none
  | .otherRequest cb respCounter =>
      some { s with tsn := s.tsn + 1, zdoCb := registerZdoCb (s.tsn + 1) cb respCounter s.zdoCb }
  | .otherResponse tsn => some { s with zdoCb := (zdoAfResp tsn s.zdoCb).getD s.zdoCb }
  | .deviceAnnce param =>
      if s.free param then some ({ s with devAnnce := param }.put param (some .other)) else none
  | .keySwitch param =>
      if s.free param then some ({ s with keySw := param }.put param (some .other)) else none
  | .join => some { s with joined := true }
  | .setShortAddress addr => some { s with shortAddress := addr }

/-! ## The claimed behaviour, and when a step keeps it -/

/-- The leaves that were made or are on their way. -/
def LeaveState.leaves (s : LeaveState) : Nat := s.left.length + s.localWaits.length

/-- The step in which the answer to a request that told the device to leave has gone: the response
is confirmed, or the callback is scheduled, or there is nobody to answer. -/
def Answered (s : LeaveState) : LeaveEvent → Prop
  | .apsdeDataConfirm param => s.place param = some (.response true)
  | .leaveConfirm param _ =>
      (∃ status deviceAddress, s.place param = some (.confirm status deviceAddress true)) ∧
        ∀ i ∈ pendingOf param s, (s.pendingList i).srcAddr = s.shortAddress
  | _ => False

/-- The request in a buffer has not been completed. -/
def UnderWay : Option Place → Prop
  | some (.request _) | some (.forward .confirmAtDataConfirm _ _)
  | some (.mac .confirmAtDataConfirm _ _) | some (.confirm _ _ _) | some (.response true) => True
  | some (.forward .indAtDataConfirm _ _) | some (.mac .indAtDataConfirm _ _)
  | some (.response false) | some (.indication _ _ _) | some .other | none => False

/-- **A device leaves only when it is told to, and then does**; and a place of the list is used for
no longer than its request is under way. -/
structure LeavesWhenTold (cfg : LeaveConfig) (start : LeaveState) (events : List LeaveEvent) :
    Prop where
  told : ∀ s, run (leaveStep cfg) start events = some s → ∀ told ∈ s.left, told = true
  follows : Along (leaveStep cfg) (fun s event => Answered s event →
    ∀ t, leaveStep cfg s event = some t → t.leaves = s.leaves + 1) start events
  released : ∀ s, run (leaveStep cfg) start events = some s → ∀ i < zbZdoPendingLeaveSize,
    (s.pendingList i).used = true → UnderWay (s.place (s.pendingList i).bufRef)

/-- No place of the list is used. -/
def NoneUsed (s : LeaveState) : Prop :=
  ∀ i < zbZdoPendingLeaveSize, (s.pendingList i).used = false

/-- The destination of the LEAVE in a buffer, and whether it is the device's own. -/
def sentLeave : Option Place → Option (UInt16 × Bool)
  | some (.mac .confirmAtDataConfirm dst told) => some (dst, told)
  | _ => none

/-- Whether the confirm in a buffer makes the device leave. -/
def confirmsLeave : Option Place → Option Bool
  | some (.confirm status deviceAddress _) => some (willLeave status deviceAddress)
  | _ => none

def indicatedAddress : Option Place → Option ZbIeeeAddr
  | some (.indication deviceAddress _ _) => some deviceAddress
  | _ => none

/-- A response is on its way after which the device is to leave. -/
def Awaited (s : LeaveState) : Prop :=
  ∃ i < zbZdoPendingLeaveSize, (s.pendingList i).used = true ∧
    s.place (s.pendingList i).bufRef = some (.response true)

/-- **When a step keeps the behaviour.** -/
def LeaveFits (cfg : LeaveConfig) (s : LeaveState) : LeaveEvent → Prop
  | .forward param _ passes => passes = true ∨ ∀ i < zbZdoPendingLeaveSize,
      (s.pendingList i).used = true → (s.pendingList i).bufRef ≠ param
  | .mcpsDataConfirm param env status => ∀ sent ∈ sentLeave (s.place param),
      zbIeeeAddrIsZero (confirmedAddress env sent.1) = (sent.2 && status == 0)
  | .leaveConfirm param _ => ∀ will ∈ confirmsLeave (s.place param),
      (∀ i ∈ pendingOf param s,
        ((s.pendingList i).srcAddr = s.shortAddress →
          (zdoAfResp (s.pendingList i).tsn s.zdoCb).isSome = will) ∧
        (will = false → ¬ Awaited s)) ∧
      (pendingOf param s = none → will = true → NoneUsed s)
  | .apsdeDataConfirm param => s.place param = some (.response true) →
      s.devAnnce ≠ param ∧ (cfg.routerRole = true → s.keySw ≠ param) ∧
        ∀ i < zbZdoPendingLeaveSize, (s.pendingList i).used = true →
          (s.pendingList i).bufRef = param
  | .leaveIndication param => ∀ deviceAddress ∈ indicatedAddress (s.place param),
      zbIeeeAddrIsZero deviceAddress = true → NoneUsed s
  | .doLeaveLocal => NoneUsed s
  | .leaveFrame _ env _ => ∀ sender ∈ env.sender, sender.1 ≠ .parent →
      zbIeeeAddrIsZero (env.ieeeByRef sender.2) = false
  | .mgmtLeaveCli _ _ _ | .mgmtLeaveSrv _ _ _ _ | .nlmeLeave _ _ | .leaveRequest _ _
  | .leaveIndPrnt _ _ | .otherRequest _ _ | .otherResponse _ | .deviceAnnce _ | .keySwitch _
  | .join | .setShortAddress _ => True

/-! ## The invariant -/

/-- What is carried agrees with what will be done. -/
def PlaceOk : Place → Prop
  | .confirm status deviceAddress told => willLeave status deviceAddress = told
  | .indication deviceAddress _ told => zbIeeeAddrIsZero deviceAddress = true → told = true
  | .forward .indAtDataConfirm _ told | .mac .indAtDataConfirm _ told => told = true
  | .request _ | .forward .confirmAtDataConfirm _ _ | .mac .confirmAtDataConfirm _ _ | .response _
  | .other => True

/-- The list and the buffers belong together, and the flag is set as long as the response to a
request that told the device to leave is on its way. -/
structure Kept (s : LeaveState) : Prop where
  small : s.pendingListSize ≤ zbZdoPendingLeaveSize
  listed : ∀ i < zbZdoPendingLeaveSize, (s.pendingList i).used = true → i < s.pendingListSize
  holds : ∀ i < zbZdoPendingLeaveSize, (s.pendingList i).used = true →
    UnderWay (s.place (s.pendingList i).bufRef)
  apart : ∀ i < zbZdoPendingLeaveSize, ∀ j < zbZdoPendingLeaveSize,
    (s.pendingList i).used = true → (s.pendingList j).used = true →
    (s.pendingList i).bufRef = (s.pendingList j).bufRef → i = j
  answered : ∀ p, s.place p = some (.response true) → s.leaveAfterMgmtLeaveRspConf = true ∧
    ∃ i < zbZdoPendingLeaveSize, (s.pendingList i).used = true ∧ (s.pendingList i).bufRef = p
  places : ∀ p pl, s.place p = some pl → PlaceOk pl
  waits : ∀ told ∈ s.localWaits, told = true
  logged : ∀ told ∈ s.left, told = true

/-- The buffer belongs to the request at `i`. -/
structure Holds (s : LeaveState) (i p : Nat) : Prop where
  inside : i < zbZdoPendingLeaveSize
  used : (s.pendingList i).used = true
  is : (s.pendingList i).bufRef = p

section Invariant

variable {s t : LeaveState} {i p : Nat} {place : Option Place} {told : Bool}

theorem pendingOf_holds (ok : Kept s) (found : pendingOf p s = some i) : Holds s i p := by
  have is := List.find?_some found
  have inside := List.mem_of_find?_eq_some found
  rw [Bool.and_eq_true, beq_iff_eq] at is
  rw [List.mem_range] at inside
  exact ⟨Nat.lt_of_lt_of_le inside ok.small, is.1, is.2⟩

theorem pendingOf_none (ok : Kept s) (none_ : pendingOf p s = none) : ¬ Holds s i p := by
  rintro ⟨inside, used, is⟩
  have not := List.find?_eq_none.1 none_ i (List.mem_range.2 (ok.listed i inside used))
  simp [used, is] at not

theorem pendingOf_eq (ok : Kept s) (holds : Holds s i p) : pendingOf p s = some i := by
  cases found : pendingOf p s with
  | none => exact absurd holds (pendingOf_none ok found)
  | some j =>
      have other := pendingOf_holds ok found
      rw [ok.apart j other.inside i holds.inside other.used holds.used
        (other.is.trans holds.is.symm)]

theorem Kept.not_holds (ok : Kept s) (not : ¬ UnderWay (s.place p)) : ¬ Holds s i p := by
  rintro ⟨inside, used, rfl⟩
  exact not (ok.holds i inside used)

/-- What the invariant does not see. -/
theorem Kept.congr (ok : Kept s) (list : t.pendingList = s.pendingList)
    (size : t.pendingListSize = s.pendingListSize) (place : t.place = s.place)
    (flag : t.leaveAfterMgmtLeaveRspConf = s.leaveAfterMgmtLeaveRspConf)
    (waits : t.localWaits = s.localWaits) (left : t.left = s.left) : Kept t := by
  constructor <;> simp only [list, size, place, flag, waits, left]
  · exact ok.small
  · exact ok.listed
  · exact ok.holds
  · exact ok.apart
  · exact ok.answered
  · exact ok.places
  · exact ok.waits
  · exact ok.logged

theorem put_place_of_ne {q : Nat} (other : q ≠ p) : (s.put p place).place q = s.place q :=
  Function.update_of_ne other _ _

@[simp] theorem put_place_self : (s.put p place).place p = place := Function.update_self _ _ _

/-- All places are right, where the one that is written is. -/
theorem Kept.places_put (ok : Kept s) (carried : ∀ pl ∈ place, PlaceOk pl) (q : Nat) (pl : Place)
    (at_ : (s.put p place).place q = some pl) : PlaceOk pl := by
  by_cases here : q = p
  · subst here
    rw [put_place_self] at at_
    exact carried pl at_
  · rw [put_place_of_ne here] at at_
    exact ok.places q pl at_

/-- A response that is not the one put in its place was there before. -/
theorem put_response {q : Nat} (not : place ≠ some (.response true))
    (response : (s.put p place).place q = some (.response true)) :
    q ≠ p ∧ s.place q = some (.response true) := by
  by_cases here : q = p
  · subst here
    rw [put_place_self] at response
    exact absurd response not
  · rw [put_place_of_ne here] at response
    exact ⟨here, response⟩

/-- A buffer goes to another place. -/
theorem Kept.put (ok : Kept s) (carried : ∀ pl ∈ place, PlaceOk pl)
    (not : place ≠ some (.response true)) (under : ∀ i, Holds s i p → UnderWay place) :
    Kept (s.put p place) := by
  refine ⟨ok.small, ok.listed, ?_, ok.apart, ?_, ok.places_put carried, ok.waits, ok.logged⟩
  · intro i inside used
    by_cases here : (s.pendingList i).bufRef = p
    · have way := under i ⟨inside, used, here⟩
      rwa [show (s.put p place).pendingList = s.pendingList from rfl, here, put_place_self]
    · have way := ok.holds i inside used
      rwa [show (s.put p place).pendingList = s.pendingList from rfl, put_place_of_ne here]
  · intro q response
    exact ok.answered q (put_response not response).2

/-- A buffer that belongs to no request is given away. -/
theorem Kept.gone (ok : Kept s) (not : ∀ i, ¬ Holds s i p) : Kept (s.put p none) :=
  ok.put nofun nofun fun i holds => absurd holds (not i)

/-- A buffer that was free begins its way. -/
theorem Kept.arrive {pl : Place} (ok : Kept s) (free : s.free p) (carried : PlaceOk pl)
    (not : pl ≠ .response true) : Kept (s.put p (some pl)) := by
  apply ok.put
  · rintro _ ⟨⟩
    exact carried
  · rintro ⟨⟩
    exact not rfl
  · exact fun i holds => absurd holds (ok.not_holds (by rw [free]; exact id))

/-- A request is noted in a free place of the list. -/
theorem Kept.remember {tsn : UInt8} {src : UInt16} {r : LeaveRequest} (ok : Kept s)
    (found : freePlace s = some i) (free : s.free p) :
    Kept ((remember i ⟨true, p, tsn, src⟩ s).put p (some (.request r))) := by
  have unused := List.find?_some found
  have inside := List.mem_range.1 (List.mem_of_find?_eq_some found)
  rw [Bool.not_eq_true'] at unused
  have fresh : ∀ j, ¬ Holds s j p := fun j => ok.not_holds (by rw [free]; exact id)
  have noted : ∀ j, j ≠ i →
      ((MgmtLeave.remember i ⟨true, p, tsn, src⟩ s).put p (some (.request r))).pendingList j =
        s.pendingList j := fun j other => Function.update_of_ne other _ _
  have self : ((MgmtLeave.remember i ⟨true, p, tsn, src⟩ s).put p
      (some (.request r))).pendingList i = ⟨true, p, tsn, src⟩ := Function.update_self _ _ _
  refine ⟨max_le ok.small inside, ?_, ?_, ?_, ?_, ?_, ok.waits, ok.logged⟩
  · intro j inside' used
    by_cases here : j = i
    · exact here ▸ Nat.lt_of_lt_of_le (Nat.lt_succ_self j) (here ▸ le_max_right _ _)
    · rw [noted j here] at used
      exact Nat.lt_of_lt_of_le (ok.listed j inside' used) (le_max_left _ _)
  · intro j inside' used
    by_cases here : j = i
    · subst here
      rw [self, put_place_self]
      trivial
    · rw [noted j here] at used ⊢
      have other : (s.pendingList j).bufRef ≠ p := fun is => fresh j ⟨inside', used, is⟩
      rw [put_place_of_ne other]
      exact ok.holds j inside' used
  · intro j inside' k inside'' used used' same
    by_cases here : j = i
    · by_cases there : k = i
      · rw [here, there]
      · rw [here, self, noted k there] at same
        rw [noted k there] at used'
        exact absurd ⟨inside'', used', same.symm⟩ (fresh k)
    · rw [noted j here] at used same
      by_cases there : k = i
      · rw [there, self] at same
        exact absurd ⟨inside', used, same⟩ (fresh j)
      · rw [noted k there] at used' same
        exact ok.apart j inside' k inside'' used used' same
  · intro q response
    have not : some (Place.request r) ≠ some (.response true) := nofun
    obtain ⟨-, before⟩ := put_response not response
    obtain ⟨flag, j, inside', used, is⟩ := ok.answered q before
    have other : j ≠ i := by
      rintro rfl
      rw [unused] at used
      cases used
    refine ⟨flag, j, inside', ?_⟩
    rw [noted j other]
    exact ⟨used, is⟩
  · apply ok.places_put
    rintro _ ⟨⟩
    trivial

/-- The places that stay in use, when one is released. -/
theorem release_used {j : Nat}
    (used : (((release i s).put p place).pendingList j).used = true) :
    j ≠ i ∧ ((release i s).put p place).pendingList j = s.pendingList j := by
  have other : j ≠ i := by
    rintro rfl
    simp [LeaveState.put, release] at used
  exact ⟨other, Function.update_of_ne other _ _⟩

/-- **A request is completed**: its place is released, and its buffer goes elsewhere. -/
theorem Kept.finish (ok : Kept s) (holds : Holds s i p) (carried : ∀ pl ∈ place, PlaceOk pl)
    (not : place ≠ some (.response true)) : Kept ((release i s).put p place) := by
  refine ⟨?_, ?_, ?_, ?_, ?_, ?_, ok.waits, ok.logged⟩
  · have small := ok.small
    have inside := holds.inside
    simp only [LeaveState.put, release]
    split <;> omega
  · intro j inside used
    obtain ⟨other, same⟩ := release_used used
    rw [same] at used
    have lt := ok.listed j inside used
    simp only [LeaveState.put, release]
    split <;> omega
  · intro j inside used
    obtain ⟨other, same⟩ := release_used used
    rw [same] at used ⊢
    have elsewhere : (s.pendingList j).bufRef ≠ p := fun is =>
      other (ok.apart j inside i holds.inside used holds.used (is.trans holds.is.symm))
    rw [put_place_of_ne elsewhere]
    exact ok.holds j inside used
  · intro j inside k inside' used used' same
    obtain ⟨other, kept⟩ := release_used used
    obtain ⟨other', kept'⟩ := release_used used'
    rw [kept] at used same
    rw [kept'] at used' same
    exact ok.apart j inside k inside' used used' same
  · intro q response
    obtain ⟨here, before⟩ := put_response not response
    obtain ⟨flag, j, inside, used, is⟩ := ok.answered q before
    have other : j ≠ i := by
      rintro rfl
      exact here (is.symm.trans holds.is)
    have same : ((release i s).put p place).pendingList j = s.pendingList j :=
      Function.update_of_ne other _ _
    refine ⟨flag, j, inside, ?_⟩
    rw [same]
    exact ⟨used, is⟩
  · exact ok.places_put carried

/-- The flag is set, or cleared where no response needs it. -/
theorem Kept.flag {flag : Bool} (ok : Kept s)
    (needed : flag = false → ¬ Awaited s) :
    Kept { s with leaveAfterMgmtLeaveRspConf := flag } := by
  refine ⟨ok.small, ok.listed, ok.holds, ok.apart, ?_, ok.places, ok.waits, ok.logged⟩
  intro q response
  obtain ⟨_, i, inside, used, rfl⟩ := ok.answered q response
  cases flag with
  | true => exact ⟨rfl, i, inside, used, rfl⟩
  | false => exact absurd ⟨i, inside, used, response⟩ (needed rfl)

/-- A request that does not tell the device to leave is completed, while no response needs the
flag. -/
theorem Kept.finish_quiet (ok : Kept s) (holds : Holds s i p) (carried : ∀ pl ∈ place, PlaceOk pl)
    (not : place ≠ some (.response true))
    (quiet : ¬ Awaited s) :
    Kept { (release i s).put p place with leaveAfterMgmtLeaveRspConf := false } := by
  apply (ok.finish holds carried not).flag
  rintro _ ⟨j, inside, used, response⟩
  obtain ⟨_, same⟩ := release_used used
  rw [same] at used response
  by_cases here : (s.pendingList j).bufRef = p
  · rw [here, put_place_self] at response
    exact not response
  · rw [put_place_of_ne here] at response
    exact quiet ⟨j, inside, used, response⟩

/-- The response to a request that told the device to leave is sent. -/
theorem Kept.respond (ok : Kept s) (holds : Holds s i p) :
    Kept { s.put p (some (.response true)) with leaveAfterMgmtLeaveRspConf := true } := by
  refine ⟨ok.small, ok.listed, ?_, ok.apart, ?_, ?_, ok.waits, ok.logged⟩
  · intro j inside used
    by_cases here : (s.pendingList j).bufRef = p
    · simp only [LeaveState.put] at here ⊢
      rw [here, Function.update_self]
      trivial
    · simp only [LeaveState.put] at here ⊢
      rw [Function.update_of_ne here]
      exact ok.holds j inside used
  · intro q response
    by_cases here : q = p
    · subst here
      exact ⟨rfl, i, holds.inside, holds.used, holds.is⟩
    · simp only [LeaveState.put, Function.update_of_ne here] at response
      exact ⟨rfl, (ok.answered q response).2⟩
  · apply ok.places_put
    rintro _ ⟨⟩
    trivial

/-- **The device leaves**, while no place of the list is used. -/
theorem Kept.leave (ok : Kept s) (none_ : NoneUsed s) (was : told = true) (rejoin : Bool) :
    Kept (zbNwkDoLeave rejoin told s) := by
  refine ⟨Nat.zero_le _, ?_, ok.holds, ok.apart, ?_, ok.places, ok.waits, ?_⟩
  · intro i inside used
    rw [zbNwkDoLeave, none_ i inside] at used
    cases used
  · intro q response
    obtain ⟨_, i, inside, used, _⟩ := ok.answered q response
    rw [none_ i inside] at used
    cases used
  · intro d logged
    cases logged with
    | head => exact was
    | tail _ before => exact ok.logged d before

theorem Kept.wait (ok : Kept s) (was : told = true) :
    Kept { s with localWaits := s.localWaits ++ [told] } := by
  refine ⟨ok.small, ok.listed, ok.holds, ok.apart, ok.answered, ok.places, ?_, ok.logged⟩
  intro d waits
  rcases List.mem_append.1 waits with before | last
  · exact ok.waits d before
  · rw [List.mem_singleton.1 last]
    exact was

end Invariant

/-! ## Each step -/

section Steps

variable {cfg : LeaveConfig} {env : LeaveEnv} {s t : LeaveState} {i p : Nat} {told : Bool}

theorem willLeave_status {status : UInt8} {deviceAddress : ZbIeeeAddr}
    (will : willLeave status deviceAddress = true) : status = 0 := by
  rw [willLeave, Bool.and_eq_true, beq_iff_eq] at will
  exact will.1

/-- The answer that is a callback, of a request that told the device to leave. -/
theorem sendAnswer_callback {zdoCb : Nat → ZdoCb} (ok : Kept s) (holds : Holds s i p)
    (own : (s.pendingList i).srcAddr = s.shortAddress)
    (found : zdoAfResp (s.pendingList i).tsn s.zdoCb = some zdoCb) :
    sendAnswer i p told s =
      { (release i { s with zdoCb }).put p none with localWaits := s.localWaits ++ [told] } := by
  have same : pendingOf p (({ s with zdoCb } : LeaveState).put p none) = pendingOf p s := rfl
  have listed := same.trans (pendingOf_eq ok holds)
  rw [sendAnswer, if_pos own, found]
  dsimp only
  rw [zdoTryMgmtLeaveComplete, listed, Option.map_some, Option.getD_some]
  exact if_pos own

/-- **The confirm of a leave**: it keeps the invariant, and where it answers a request that told
the device to leave, the leave follows. -/
theorem leaveConfirm_spec {status : UInt8} {deviceAddress : ZbIeeeAddr} (ok : Kept s)
    (at_ : s.place p = some (.confirm status deviceAddress told))
    (fits : LeaveFits cfg s (.leaveConfirm p env))
    (taken : zbNlmeLeaveConfirm cfg env p status deviceAddress told s = some t) :
    Kept t ∧ (Answered s (.leaveConfirm p env) → t.leaves = s.leaves + 1) := by
  have was : willLeave status deviceAddress = told := ok.places p _ at_
  obtain ⟨answer, alone⟩ := fits _ (by rw [at_]; rfl)
  rw [was] at answer alone
  rw [zbNlmeLeaveConfirm, zdoTrySendMgmtLeaveRsp] at taken
  cases found : pendingOf p s with
  | none =>
      have fresh : ∀ i, ¬ Holds s i p := fun i => pendingOf_none ok found
      simp only [found, Option.map_none, was] at taken
      cases told with
      | true =>
          cases taken
          refine ⟨(ok.leave (alone found rfl) rfl _).gone fun i holds =>
            fresh i ⟨holds.inside, holds.used, holds.is⟩, fun _ => ?_⟩
          simp only [LeaveState.leaves, zbNwkDoLeave, LeaveState.put, List.length_cons]
          omega
      | false =>
          have same : t = s.put p none := by
            simp only [Bool.false_eq_true, if_false] at taken
            split at taken
            · cases taken
            · exact (Option.some.inj taken).symm
          subst same
          refine ⟨ok.gone fresh, ?_⟩
          rintro ⟨⟨_, _, other⟩, _⟩
          rw [at_] at other
          cases other
  | some i =>
      have holds := pendingOf_holds ok found
      simp only [found, Option.map_some, was] at taken
      obtain ⟨callback, quiet⟩ := answer i found
      by_cases own : (s.pendingList i).srcAddr = s.shortAddress
      · have callback := callback own
        cases responded : zdoAfResp (s.pendingList i).tsn s.zdoCb with
        | some zdoCb =>
            rw [responded] at callback
            obtain rfl : told = true := callback.symm
            have zero := willLeave_status was
            rw [sendAnswer_callback ok holds own responded, if_neg (by simp [zero])] at taken
            cases taken
            have done : Kept ((release i { s with zdoCb }).put p none) :=
              (ok.congr rfl rfl rfl rfl rfl rfl : Kept { s with zdoCb }).finish
                ⟨holds.inside, holds.used, holds.is⟩ nofun nofun
            refine ⟨(done.wait rfl).flag nofun, fun _ => ?_⟩
            simp only [LeaveState.leaves, LeaveState.put, release, List.length_append,
              List.length_singleton]
            omega
        | none =>
            rw [responded] at callback
            obtain rfl : told = false := callback.symm
            rw [sendAnswer, if_pos own, responded, if_pos (by simp)] at taken
            cases taken
            refine ⟨ok.finish_quiet holds nofun nofun (quiet rfl), ?_⟩
            rintro ⟨⟨_, _, other⟩, _⟩
            rw [at_] at other
            cases other
      · rw [sendAnswer, if_neg own] at taken
        refine ⟨?_, fun answered => absurd (answered.2 i found) own⟩
        cases told with
        | true =>
            have zero := willLeave_status was
            rw [if_neg (by simp [zero])] at taken
            cases taken
            exact ok.respond holds
        | false =>
            rw [if_pos (by simp)] at taken
            cases taken
            have done : Kept { (release i s).put p (some (.response false)) with
                leaveAfterMgmtLeaveRspConf := false } :=
              ok.finish_quiet holds (by rintro _ ⟨⟩; trivial) nofun (quiet rfl)
            exact done

/-- A frame that belongs to no request is confirmed. -/
theorem dataConfirmed_fresh (ok : Kept s) (fresh : ∀ i, ¬ Holds s i p) :
    Kept ((dataConfirmed cfg p told s).put p none) := by
  rw [dataConfirmed]
  split
  · exact (ok.gone fresh).congr rfl rfl rfl rfl rfl rfl
  · split
    · exact (ok.gone fresh).congr rfl rfl rfl rfl rfl rfl
    · split
      · have none_ : pendingOf p s = none := by
          cases found : pendingOf p s with
          | none => rfl
          | some i => exact absurd (pendingOf_holds ok found) (fresh i)
        rw [zdoTryMgmtLeaveComplete, none_]
        exact ok.gone fresh
      · exact ok.gone fresh

/-- **The confirm of a response**: it keeps the invariant, and the leave follows where the device
was told to. -/
theorem apsdeDataConfirm_spec (ok : Kept s) (fits : LeaveFits cfg s (.apsdeDataConfirm p))
    (taken : zbApsdeDataConfirm cfg p s = some t) :
    Kept t ∧ (Answered s (.apsdeDataConfirm p) → t.leaves = s.leaves + 1) := by
  by_cases answered : s.place p = some (.response true)
  · obtain ⟨noAnnce, noKey, alone⟩ := fits answered
    obtain ⟨flag, i, inside, used, is⟩ := ok.answered p answered
    have holds : Holds s i p := ⟨inside, used, is⟩
    simp only [zbApsdeDataConfirm, answered] at taken
    have complete : dataConfirmed cfg p true s =
        (zdoTryMgmtLeaveComplete p true s).getD s := by
      rw [dataConfirmed, if_neg noAnnce, if_neg (fun both => noKey both.1 both.2), if_pos flag]
    rw [complete, zdoTryMgmtLeaveComplete, pendingOf_eq ok holds, Option.map_some,
      Option.getD_some] at taken
    have done : Kept ((release i s).put p none) := ok.finish holds nofun nofun
    have none_ : NoneUsed ((release i s).put p none) := by
      intro j inside'
      rw [Bool.eq_false_iff]
      intro used'
      obtain ⟨other, same⟩ := release_used used'
      rw [same] at used'
      exact other (ok.apart j inside' i inside used' used ((alone j inside' used').trans is.symm))
    dsimp only at taken
    split at taken
    · cases taken
      refine ⟨done.wait rfl, fun _ => ?_⟩
      simp only [LeaveState.leaves, LeaveState.put, release, List.length_append,
        List.length_singleton]
      omega
    · cases taken
      refine ⟨done.leave none_ rfl s.rejoinAfterLeave, fun _ => ?_⟩
      simp only [LeaveState.leaves, LeaveState.put, release, zbNwkDoLeave, List.length_cons]
      omega
  · refine ⟨?_, fun confirmed => absurd confirmed answered⟩
    rw [zbApsdeDataConfirm] at taken
    have fresh : ¬ UnderWay (s.place p) → ∀ i, ¬ Holds s i p := fun not i => ok.not_holds not
    split at taken
    · rename_i told at_
      cases taken
      apply dataConfirmed_fresh ok
      apply fresh
      cases told with
      | true => exact absurd at_ answered
      | false => rw [at_]; exact id
    · rename_i at_
      cases taken
      exact dataConfirmed_fresh ok (fresh (by rw [at_]; exact id))
    · rename_i at_
      cases taken
      exact dataConfirmed_fresh ok (fresh (by rw [at_]; exact id))
    all_goals cases taken

/-- The request reaches the NWK layer. -/
theorem leaveRequest_kept {r : LeaveRequest} (ok : Kept s)
    (taken : zbNlmeLeaveRequest cfg env p r s = some t) : Kept t := by
  have failed : ∀ status, willLeave status r.deviceAddress = false →
      Kept (s.put p (some (.confirm status r.deviceAddress false))) := by
    intro status not
    apply ok.put
    · rintro _ ⟨⟩
      exact not
    · nofun
    · exact fun _ _ => trivial
  have sent : ∀ dst told, Kept (s.put p (some (.forward .confirmAtDataConfirm dst told))) := by
    intro dst told
    apply ok.put
    · rintro _ ⟨⟩
      trivial
    · nofun
    · exact fun _ _ => trivial
  rw [zbNlmeLeaveRequest] at taken
  dsimp only at taken
  split at taken
  · cases taken
    exact failed _ rfl
  · split at taken
    · rename_i looked
      split at taken
      · cases taken
        exact failed _ rfl
      · cases taken
        apply failed
        rw [willLeave, looked.2.1, Bool.and_false]
      · cases taken
        exact sent _ _
      · cases taken
        exact failed _ rfl
    · split at taken
      · cases taken
      · cases taken
        exact (sent _ _).congr rfl rfl rfl rfl rfl rfl

theorem forward_kept {handle : LeaveHandle} {dst : UInt16} {passes : Bool} (ok : Kept s)
    (at_ : s.place p = some (.forward handle dst told))
    (fits : LeaveFits cfg s (.forward p env passes)) :
    Kept (zbNwkForward cfg env p handle dst told passes s) := by
  have carried := ok.places p _ at_
  rw [zbNwkForward]
  cases passes with
  | true =>
      apply ok.put
      · rintro _ ⟨⟩
        cases handle with
        | confirmAtDataConfirm => trivial
        | indAtDataConfirm => exact carried
      · nofun
      · intro i holds
        have way := ok.holds i holds.inside holds.used
        rw [holds.is, at_] at way
        cases handle with
        | confirmAtDataConfirm => trivial
        | indAtDataConfirm => exact way
  | false =>
      rcases fits with passes | fresh
      · cases passes
      · exact ok.gone fun i holds => fresh i holds.inside holds.used holds.is

/-- The LEAVE has been sent. -/
theorem mcpsDataConfirm_kept {status : UInt8} {handle : LeaveHandle} {dst : UInt16} (ok : Kept s)
    (at_ : s.place p = some (.mac handle dst told))
    (fits : LeaveFits cfg s (.mcpsDataConfirm p env status)) :
    Kept (zbMcpsDataConfirm env p status handle dst told s) := by
  have carried := ok.places p _ at_
  cases handle with
  | indAtDataConfirm =>
      apply ok.put
      · rintro _ ⟨⟩
        exact fun _ => carried
      · nofun
      · intro i holds
        exact absurd holds (ok.not_holds (by rw [at_]; exact id))
  | confirmAtDataConfirm =>
      have named := fits (dst, told) (by rw [at_]; rfl)
      apply ok.put
      · rintro _ ⟨⟩
        simp only [PlaceOk, willLeave, named, beq_self_eq_true, Bool.true_and]
      · nofun
      · exact fun _ _ => trivial

theorem indication_kept {deviceAddress : ZbIeeeAddr} {rejoin : Bool} (ok : Kept s)
    (fresh : ∀ i, ¬ Holds s i p)
    (carried : zbIeeeAddrIsZero deviceAddress = true → told = true) :
    Kept (s.put p (some (.indication deviceAddress rejoin told))) := by
  apply ok.put
  · rintro _ ⟨⟩
    exact carried
  · nofun
  · exact fun i holds => absurd holds (fresh i)

/-- **A LEAVE from the network** tells the device to leave only when it is its parent's. -/
theorem leaveHandler_kept {lp : LeavePayload} (ok : Kept s) (free : s.free p)
    (fits : LeaveFits cfg s (.leaveFrame p env lp)) : Kept (zbNwkLeaveHandler cfg env p lp s) := by
  have fresh : ∀ i, ¬ Holds s i p := fun i => ok.not_holds (by rw [free]; exact id)
  rw [zbNwkLeaveHandler]
  cases sent : env.sender with
  | none => exact ok
  | some sender =>
      obtain ⟨relationship, ref⟩ := sender
      dsimp only
      split
      · have noted : Kept (if lp.request = true then s
            else { s with leaveIndPrnt := (ref, lp.rejoin), prntWaits := s.prntWaits + 1 }) := by
          split
          · exact ok
          · exact ok.congr rfl rfl rfl rfl rfl rfl
        have fresh' : ∀ i, ¬ Holds (if lp.request = true then s
            else { s with leaveIndPrnt := (ref, lp.rejoin), prntWaits := s.prntWaits + 1 }) i p := by
          intro i
          split
          · exact fresh i
          · rintro ⟨inside, used, is⟩
            exact fresh i ⟨inside, used, is⟩
        split
        · have relayed : Kept (LeaveState.put p
              (some (.forward .indAtDataConfirm zbNwkBroadcastRxOnWhenIdle true)) _) :=
            noted.put (by rintro _ ⟨⟩; rfl) nofun fun i holds => absurd holds (fresh' i)
          exact relayed.congr rfl rfl rfl rfl rfl rfl
        · split
          · exact indication_kept noted fresh' fun _ => rfl
          · exact indication_kept noted fresh' fun _ => rfl
      · rename_i stranger
        split
        · exact ok
        · apply indication_kept ok fresh
          intro zero
          rw [fits _ sent stranger] at zero
          cases zero

theorem leaveIndication_kept {deviceAddress : ZbIeeeAddr} {rejoin : Bool} (ok : Kept s)
    (at_ : s.place p = some (.indication deviceAddress rejoin told))
    (fits : LeaveFits cfg s (.leaveIndication p)) :
    Kept (zbNlmeLeaveIndication p deviceAddress rejoin told s) := by
  have fresh : ∀ i, ¬ Holds s i p := fun i => ok.not_holds (by rw [at_]; exact id)
  rw [zbNlmeLeaveIndication]
  split
  · rename_i zero
    exact (ok.leave (fits _ (by rw [at_]; rfl) zero) (ok.places p _ at_ zero) rejoin).gone fun i holds =>
      fresh i ⟨holds.inside, holds.used, holds.is⟩
  · exact ok.gone fresh

theorem kept_init (shortAddress : UInt16) : Kept (.init shortAddress) where
  small := Nat.zero_le _
  listed := nofun
  holds := nofun
  apart := nofun
  answered := nofun
  places := nofun
  waits := nofun
  logged := nofun

/-! ### All steps -/

/-- A step with a guard is taken under it. -/
theorem of_guard {c : Prop} [Decidable c] {u : LeaveState}
    (taken : (if c then some u else none) = some t) : c ∧ t = u := by
  split at taken
  · rename_i holds
    cases taken
    exact ⟨holds, rfl⟩
  · cases taken

theorem mgmtLeaveCli_kept {cb : Bool} {r : LeaveRequest} (ok : Kept s) (free : s.free p) :
    Kept (zdoMgmtLeaveCli p cb r s) := by
  rw [zdoMgmtLeaveCli]
  cases found : freePlace s with
  | none => exact ok
  | some i =>
      have counted : Kept { s with
          tsn := s.tsn + 1, zdoCb := registerZdoCb (s.tsn + 1) cb 1 s.zdoCb } :=
        ok.congr rfl rfl rfl rfl rfl rfl
      exact counted.remember found free

theorem mgmtLeaveSrv_kept {tsn : UInt8} {srcAddr : UInt16} {r : LeaveRequest} (ok : Kept s)
    (free : s.free p) : Kept (zdoMgmtLeaveSrv p tsn srcAddr r s) := by
  rw [zdoMgmtLeaveSrv]
  cases found : freePlace s with
  | none => exact ok.arrive free trivial nofun
  | some i => exact ok.remember found free

/-- The first of those that wait leaves. -/
theorem doLeaveLocal_kept {rejoin : Bool} {rest : List Bool} (ok : Kept s) (none_ : NoneUsed s)
    (waiting : s.localWaits = told :: rest) :
    Kept (zbNwkDoLeave rejoin told { s with localWaits := rest }) := by
  have was : told = true := ok.waits told (by rw [waiting]; exact List.mem_cons_self)
  have left : Kept { s with localWaits := rest } := by
    refine ⟨ok.small, ok.listed, ok.holds, ok.apart, ok.answered, ok.places, ?_, ok.logged⟩
    intro d mem
    exact ok.waits d (by rw [waiting]; exact List.mem_cons_of_mem told mem)
  exact left.leave none_ was rejoin

/-- A buffer of another procedure. -/
theorem other_kept (ok : Kept s) (free : s.free p) : Kept (s.put p (some .other)) :=
  ok.arrive free trivial nofun

/-- **Every step that fits keeps the invariant**; -/
theorem leave_kept {event : LeaveEvent} (ok : Kept s) (fits : LeaveFits cfg s event)
    (taken : leaveStep cfg s event = some t) : Kept t := by
  cases event with
  | mgmtLeaveCli param cb r =>
      obtain ⟨free, rfl⟩ := of_guard taken
      exact mgmtLeaveCli_kept ok free
  | mgmtLeaveSrv param tsn srcAddr r =>
      obtain ⟨free, rfl⟩ := of_guard taken
      exact mgmtLeaveSrv_kept ok free
  | nlmeLeave param r =>
      obtain ⟨free, rfl⟩ := of_guard taken
      exact ok.arrive free trivial nofun
  | leaveFrame param env lp =>
      obtain ⟨free, rfl⟩ := of_guard taken
      exact leaveHandler_kept ok free fits
  | leaveRequest param env =>
      rw [leaveStep] at taken
      split at taken
      · exact leaveRequest_kept ok taken
      · cases taken
  | forward param env passes =>
      rw [leaveStep] at taken
      split at taken
      · rename_i at_
        cases taken
        exact forward_kept ok at_ fits
      · cases taken
  | mcpsDataConfirm param env status =>
      rw [leaveStep] at taken
      split at taken
      · rename_i at_
        cases taken
        exact mcpsDataConfirm_kept ok at_ fits
      · cases taken
  | leaveConfirm param env =>
      rw [leaveStep] at taken
      split at taken
      · rename_i at_
        exact (leaveConfirm_spec ok at_ fits taken).1
      · cases taken
  | apsdeDataConfirm param => exact (apsdeDataConfirm_spec ok fits taken).1
  | leaveIndication param =>
      rw [leaveStep] at taken
      split at taken
      · rename_i at_
        cases taken
        exact leaveIndication_kept ok at_ fits
      · cases taken
  | doLeaveLocal =>
      rw [leaveStep] at taken
      split at taken
      · rename_i told rest waiting
        cases taken
        exact doLeaveLocal_kept ok fits waiting
      · cases taken
  | leaveIndPrnt param env =>
      obtain ⟨granted, rfl⟩ := of_guard taken
      have waits : Kept { s with prntWaits := s.prntWaits - 1 } := ok.congr rfl rfl rfl rfl rfl rfl
      exact waits.arrive granted.1 (fun _ => rfl) nofun
  | deviceAnnce param =>
      obtain ⟨free, rfl⟩ := of_guard taken
      exact (other_kept ok free).congr rfl rfl rfl rfl rfl rfl
  | keySwitch param =>
      obtain ⟨free, rfl⟩ := of_guard taken
      exact (other_kept ok free).congr rfl rfl rfl rfl rfl rfl
  | otherRequest _ _ | otherResponse _ | join | setShortAddress _ =>
      cases taken
      exact ok.congr rfl rfl rfl rfl rfl rfl

/-- and a leave follows where it should. -/
theorem leave_follows {event : LeaveEvent} (ok : Kept s) (fits : LeaveFits cfg s event)
    (taken : leaveStep cfg s event = some t) (answered : Answered s event) :
    t.leaves = s.leaves + 1 := by
  cases event with
  | leaveConfirm param env =>
      rw [leaveStep] at taken
      split at taken
      · rename_i at_
        exact (leaveConfirm_spec ok at_ fits taken).2 answered
      · cases taken
  | apsdeDataConfirm param => exact (apsdeDataConfirm_spec ok fits taken).2 answered
  | _ => exact absurd answered id

end Steps

/-- **A device leaves only when it is told to, and then does**, along every run whose steps fit. -/
theorem leaves_when_told {cfg : LeaveConfig} {shortAddress : UInt16} {events : List LeaveEvent}
    (along : Along (leaveStep cfg) (LeaveFits cfg) (.init shortAddress) events) :
    LeavesWhenTold cfg (.init shortAddress) events := by
  have keeps : ∀ s event t, Kept s → LeaveFits cfg s event → leaveStep cfg s event = some t →
      Kept t := fun _ _ _ ok fits taken => leave_kept ok fits taken
  have start := kept_init shortAddress
  refine ⟨?_, ?_, ?_⟩
  · intro s ran
    exact (run_invariant keeps start along ran).logged
  · apply along_of_invariant keeps ?_ start along
    intro s event ok fits answered t taken
    exact leave_follows ok fits taken answered
  · intro s ran
    exact (run_invariant keeps start along ran).holds

/-! ## Poles -/

instance (s : LeaveState) : Decidable (NoneUsed s) :=
  inferInstanceAs (Decidable (∀ i < zbZdoPendingLeaveSize, _ = _))

instance (s : LeaveState) : Decidable (Awaited s) :=
  inferInstanceAs (Decidable (∃ i < zbZdoPendingLeaveSize, _ ∧ _))

instance decidableLeaveFits (cfg : LeaveConfig) (s : LeaveState) :
    (event : LeaveEvent) → Decidable (LeaveFits cfg s event)
  | .forward _ _ _ => inferInstanceAs (Decidable (_ = _ ∨ ∀ i < zbZdoPendingLeaveSize, _ → _))
  | .mcpsDataConfirm param _ _ => Option.decidableForallMem (sentLeave (s.place param))
  | .leaveConfirm param _ => inferInstanceAs (Decidable
      (∀ will ∈ confirmsLeave (s.place param), (∀ i ∈ pendingOf param s, (_ → _) ∧ (_ → ¬ _)) ∧
        (_ → _ → NoneUsed s)))
  | .apsdeDataConfirm _ => inferInstanceAs (Decidable
      (_ = _ → _ ≠ _ ∧ (_ → _ ≠ _) ∧ ∀ i < zbZdoPendingLeaveSize, _ → _))
  | .leaveIndication param => inferInstanceAs (Decidable
      (∀ deviceAddress ∈ indicatedAddress (s.place param), _ → NoneUsed s))
  | .doLeaveLocal => inferInstanceAs (Decidable (NoneUsed s))
  | .leaveFrame _ env _ => inferInstanceAs (Decidable (∀ sender ∈ env.sender, _ → _ = _))
  | .mgmtLeaveCli _ _ _ | .mgmtLeaveSrv _ _ _ _ | .nlmeLeave _ _ | .leaveRequest _ _
  | .leaveIndPrnt _ _ | .otherRequest _ _ | .otherResponse _ | .deviceAnnce _ | .keySwitch _
  | .join | .setShortAddress _ => isTrue trivial

def someChild : ZbIeeeAddr := #v[1, 2, 3, 4, 4, 3, 2, 1]

/-- A router whose only neighbour is the child 0x14. -/
def routerEnv : LeaveEnv where
  deviceType := zbNwkDeviceTypeRouter
  rejoining := false
  parentShort := 0
  neighborByIeee ieee := if ieee = someChild then some (.child, 0x14) else none
  sender := none
  ieeeByRef _ := someChild
  ieeeByShort _ := someChild
  nextHop dst := dst
  lastUnicast := none

/-- A platform on which the null pointer can be read. -/
def routerConfig : LeaveConfig := ⟨true, false⟩

/-- The request in a buffer reaches the MAC, and its LEAVE is sent and confirmed. -/
def carriedOut (param : Nat) : List LeaveEvent :=
  [.leaveRequest param routerEnv, .forward param routerEnv true,
    .mcpsDataConfirm param routerEnv 0, .leaveConfirm param routerEnv]

/-- The coordinator has the child removed, and then the router. -/
def removedByCoordinator : List LeaveEvent :=
  .mgmtLeaveSrv 1 5 0 ⟨someChild, false⟩ :: carriedOut 1 ++
    .apsdeDataConfirm 1 :: .mgmtLeaveSrv 2 6 0 ⟨zbIeeeAddrZero, true⟩ :: carriedOut 2 ++
      [.apsdeDataConfirm 2]

theorem leaves_when_told_removedByCoordinator :
    LeavesWhenTold routerConfig (.init 1) removedByCoordinator :=
  leaves_when_told (by decide +kernel)

/-- The application of a router removes the child. -/
def removesChild : List LeaveEvent :=
  .mgmtLeaveCli 1 true ⟨someChild, false⟩ :: carriedOut 1 ++ [.doLeaveLocal]

/-- **The router leaves with its child.** -/
theorem left_with_the_child :
    ¬ ∀ events : List LeaveEvent, LeavesWhenTold routerConfig (.init 1) events := by
  intro claim
  obtain ⟨s, ran, left⟩ : ∃ s,
      run (leaveStep routerConfig) (.init 1) removesChild = some s ∧ s.left = [false] :=
    ⟨_, rfl, rfl⟩
  have told := (claim removesChild).told s ran false (by rw [left]; exact List.mem_cons_self)
  cases told

/-- Both of two requests to leave are answered, and the second one keeps its place of the list. -/
example : (run (leaveStep routerConfig) (.init 1)
    (.mgmtLeaveSrv 1 5 0 ⟨zbIeeeAddrZero, true⟩ :: .mgmtLeaveSrv 2 6 9 ⟨zbIeeeAddrZero, true⟩ ::
      carriedOut 1 ++ carriedOut 2 ++ [.apsdeDataConfirm 1, .apsdeDataConfirm 2])).map
    (fun s => ((s.pendingList 0).used, (s.pendingList 1).used)) = some (false, true) := by
  decide +kernel

end Zboss.Zdo.MgmtLeave
