/-
# Nwk.MeshRouting -- routes on demand

A frame without a route waits in `pending_table` until a route to its destination is found.
The discovery is a request that is broadcast (`zb_nwk_mesh_rreq_handler`, also for a request of
one's own) and a reply that goes back along it (`zb_nwk_mesh_rrep_handler`); the two keep an
entry in `route_disc_table` and one in `routing_table`, and the frames that wait are sent when
the reply is for this device.  Both tables and the list are aged by alarms.

A buffer passed to a handler leaves it in the calls made.  Of the frames made here, what the
routing reads of them is modelled; the next hop of the tree, the neighbours and what they cost
are read from elsewhere (`MeshEnv`).  Broadcasts have tables of their own.

* `meshCounted_forward`, `meshCounted_rreq`, `meshCounted_rrep`, and the others of this name:
  no call leaves a counter that is not the number of entries in use.
-/
import Mathlib
import Zboss.Common.Constants
import Zboss.Theory.Slots
import Zboss.Nwk.Broadcast

namespace Zboss.Nwk.MeshRouting

open Zboss.Common.Constants
open Zboss.Theory.Slots
open Zboss.Nwk.Broadcast

set_option autoImplicit false

/-! ## Constants -/

def zbNwkRoutingTableSize : Nat := 5

def zbNwkRouteDiscoveryTableSize : Nat := 5

def zbNwkPendingTableSize : Nat := 5

def zbNwkRouteDiscoveryExpiry : UInt16 := 10

def zbNwkPendingEntryExpiry : UInt8 := 20

def zbNwkStaticPathCost : UInt8 := 7

def zbNwkStatusRouteError : UInt8 := 0xD1

def zbNwkCommandStatusNoRouteAvailable : UInt8 := 0

def zbNwkCommandStatusTreeLinkFailure : UInt8 := 1

def zbNwkCommandStatusNoRoutingCapacity : UInt8 := 4

/-! ## The tables -/

inductive ZbNwkRouteState where
  | active
  | discoveryUnderway
  | discoveryFailed
  | discoveryInactive
  | validationUnderway
  deriving DecidableEq

structure ZbNwkRouting where
  used : Bool
  status : ZbNwkRouteState
  destAddr : UInt16
  nextHopAddr : UInt16
  deriving DecidableEq

structure ZbNwkRouteDiscovery where
  used : Bool
  requestId : UInt8
  sourceAddr : UInt16
  senderAddr : UInt16
  destAddr : UInt16
  forwardCost : UInt8
  residualCost : UInt8
  expirationTime : UInt16
  deriving DecidableEq

structure ZbNwkPend where
  used : Bool
  buf : UInt8
  handle : UInt8
  destAddr : UInt16
  /-- Six bits. -/
  expiry : UInt8
  waitingBuf : Bool
  deriving DecidableEq

structure MeshNib where
  routingTable : Nat → ZbNwkRouting
  routingTableCnt : UInt8
  routeDiscTable : Nat → ZbNwkRouteDiscovery
  routeDiscTableCnt : UInt8
  pendingTable : Nat → ZbNwkPend
  pendingTableCnt : UInt8
  rreqId : UInt8
  apsRreqAddr : UInt16
  statusIndAddr : UInt16

/-- After `zb_nwk_nib_init` of the zero-initialised context. -/
def MeshNib.init : MeshNib where
  routingTable _ := ⟨false, .active, 0, 0⟩
  routingTableCnt := 0
  routeDiscTable _ := ⟨false, 0, 0, 0, 0, 0, 0, 0⟩
  routeDiscTableCnt := 0
  pendingTable _ := ⟨false, 0, 0, 0, 0, false⟩
  pendingTableCnt := 0
  rreqId := 0
  apsRreqAddr := 0xFFFF
  statusIndAddr := 0

/-- What the routing reads of the rest of the device. -/
structure MeshEnv where
  networkAddress : UInt16
  deviceType : UInt8
  maxDepth : UInt8
  nwkReportConstantCost : Bool
  useTreeRouting : Bool
  /-- The short address of the parent, unless the device rejoins. -/
  parentAddr : Option UInt16
  /-- The quality of the link to the neighbour with a short address. -/
  neighborLqi : UInt16 → Option UInt8
  /-- `zb_nwk_tree_routing_route` -/
  treeHop : UInt16 → Option UInt16

/-! ## Frames and calls -/

structure ZbNwkCmdRreq where
  rreqId : UInt8
  destAddr : UInt16
  pathCost : UInt8
  deriving DecidableEq

structure ZbNwkCmdRrep where
  rreqId : UInt8
  originator : UInt16
  responder : UInt16
  pathCost : UInt8
  deriving DecidableEq

/-- A request as it is handled: its NWK header, and who sent it last (`nwk_get_mac_source_addr`). -/
structure RreqFrame where
  srcAddr : UInt16
  seqNum : UInt8
  radius : UInt8
  macSrc : UInt16
  cmd : ZbNwkCmdRreq
  deriving DecidableEq

structure RrepFrame where
  srcAddr : UInt16
  macSrc : UInt16
  cmd : ZbNwkCmdRrep
  deriving DecidableEq

/-- What is done with the buffers. -/
inductive MeshCall where
  /-- `zb_nwk_mesh_send_rreq` -/
  | sendRreq (buf : UInt8) (cmd : ZbNwkCmdRreq) (srcAddr : UInt16) (seqNum radius : UInt8)
  /-- `zb_nwk_mesh_send_rrep` -/
  | sendRrep (buf : UInt8) (cmd : ZbNwkCmdRrep) (senderAddr : UInt16)
  | zbNwkForward (buf handle : UInt8)
  | freeBuf (buf : UInt8)
  /-- `NWK_ROUTE_DISCOVERY_CONFIRM` -/
  | routeDiscoveryConfirm (buf : UInt8) (status networkStatus : UInt8)
  /-- `ZB_GET_OUT_BUF_DELAYED(zb_nwk_mesh_initiate_route_discovery)` -/
  | getBufInitiateRouteDiscovery
  /-- `ZB_GET_OUT_BUF_DELAYED(nwk_route_disc_failed)` -/
  | getBufRouteDiscFailed
  | statusIndication (buf : UInt8) (status : UInt8) (networkAddr : UInt16)
  deriving DecidableEq

/-! ## Costs -/

/-- `i` of the loop of `NWK_CALC_PATH_COST`: the least with `lqi ≤ 32 * (i + 1)`. -/
def lqiSteps (lqi : UInt8) : Nat := (lqi.toNat - 1) / 32

def linkCost (lqi : UInt8) : UInt8 :=
  if lqiSteps lqi = 7 then 1 else UInt8.ofNat (7 - lqiSteps lqi)

def nwkCalcPathCost (env : MeshEnv) (srcAddr : UInt16) : UInt8 :=
  if env.nwkReportConstantCost then zbNwkStaticPathCost
  else
    match env.neighborLqi srcAddr with
    | some lqi => linkCost lqi
    | none => if srcAddr = env.networkAddress then 0 else zbNwkStaticPathCost

/-! ## The entries -/

def findRoute (destAddr : UInt16) (s : MeshNib) : Option Nat :=
  findUsed ZbNwkRouting.used (fun ent => ent.destAddr == destAddr) s.routingTable
    zbNwkRoutingTableSize

def findDisc (requestId : UInt8) (sourceAddr : UInt16) (s : MeshNib) : Option Nat :=
  findUsed ZbNwkRouteDiscovery.used
    (fun ent => ent.requestId == requestId && ent.sourceAddr == sourceAddr) s.routeDiscTable
    zbNwkRouteDiscoveryTableSize

/-- `zb_nwk_mesh_find_route_discovery_entry` -/
def findDiscByDest (destAddr : UInt16) (s : MeshNib) : Option Nat :=
  findUsed ZbNwkRouteDiscovery.used (fun ent => ent.destAddr == destAddr) s.routeDiscTable
    zbNwkRouteDiscoveryTableSize

/-- Write an entry that stays in use. -/
def setRoute (i : Nat) (ent : ZbNwkRouting) (s : MeshNib) : MeshNib :=
  { s with routingTable := Function.update s.routingTable i ent }

def setDisc (i : Nat) (ent : ZbNwkRouteDiscovery) (s : MeshNib) : MeshNib :=
  { s with routeDiscTable := Function.update s.routeDiscTable i ent }

/-- `NWK_ARRAY_PUT_ENT` of the three tables. -/
def putRoute (i : Nat) (s : MeshNib) : MeshNib :=
  { s with
    routingTable := Function.update s.routingTable i { s.routingTable i with used := false }
    routingTableCnt := s.routingTableCnt - 1 }

def putDisc (i : Nat) (s : MeshNib) : MeshNib :=
  { s with
    routeDiscTable := Function.update s.routeDiscTable i { s.routeDiscTable i with used := false }
    routeDiscTableCnt := s.routeDiscTableCnt - 1 }

def putPend (i : Nat) (s : MeshNib) : MeshNib :=
  { s with
    pendingTable := Function.update s.pendingTable i { s.pendingTable i with used := false }
    pendingTableCnt := s.pendingTableCnt - 1 }

/-! ## A route request -/

/-- The route that is sought: found, or new; `none` when the table is full. -/
def routeSought (destAddr : UInt16) (s : MeshNib) : Option (Nat × MeshNib) :=
  match findRoute destAddr s with
  | some i =>
      let ent := s.routingTable i
      if ent.status ≠ .active ∧ ent.status ≠ .validationUnderway then
        some (i, setRoute i { ent with status := .discoveryUnderway } s)
      else some (i, s)
  | none =>
      (firstFree ZbNwkRouting.used s.routingTable zbNwkRoutingTableSize).map fun i =>
        (i, { s with
          routingTable := Function.update s.routingTable i
            { s.routingTable i with used := true, destAddr, status := .discoveryUnderway }
          routingTableCnt := s.routingTableCnt + 1 })

/-- What comes of the discovery entry of a request. -/
inductive DiscSought where
  /-- A new one, or one that cost more. -/
  | goOn (s : MeshNib)
  | skip
  | full

def discSought (rreq : RreqFrame) (pathCost : UInt8) (s : MeshNib) : DiscSought :=
  match findDisc rreq.cmd.rreqId rreq.srcAddr s with
  | some i =>
      let ent := s.routeDiscTable i
      if pathCost < ent.forwardCost then
        .goOn (setDisc i { ent with senderAddr := rreq.macSrc, forwardCost := pathCost } s)
      else .skip
  | none =>
      match firstFree ZbNwkRouteDiscovery.used s.routeDiscTable zbNwkRouteDiscoveryTableSize with
      | some i =>
          .goOn { s with
            routeDiscTable := Function.update s.routeDiscTable i
              { used := true
                requestId := rreq.cmd.rreqId
                sourceAddr := rreq.srcAddr
                senderAddr := rreq.macSrc
                destAddr := rreq.cmd.destAddr
                forwardCost := pathCost
                residualCost := 0xff
                expirationTime := zbNwkRouteDiscoveryExpiry }
            routeDiscTableCnt := s.routeDiscTableCnt + 1 }
      | none => .full

/-- No room: a request that APS waits for is confirmed. -/
def rreqFailed (buf : UInt8) (rreq : RreqFrame) (s : MeshNib) : List MeshCall :=
  if s.apsRreqAddr ≠ 0 ∧ s.apsRreqAddr = rreq.cmd.destAddr then
    [.routeDiscoveryConfirm buf zbNwkStatusRouteError zbNwkCommandStatusNoRouteAvailable]
  else [.freeBuf buf]

/-- The request is answered or goes on. -/
def rreqPassed (env : MeshEnv) (buf : UInt8) (rreq : RreqFrame) (pathCost : UInt8) : MeshCall :=
  if rreq.cmd.destAddr = env.networkAddress ∨ (env.neighborLqi rreq.cmd.destAddr).isSome then
    .sendRrep buf ⟨rreq.cmd.rreqId, rreq.srcAddr, rreq.cmd.destAddr, pathCost⟩ rreq.macSrc
  else
    .sendRreq buf ⟨rreq.cmd.rreqId, rreq.cmd.destAddr, pathCost⟩ rreq.srcAddr rreq.seqNum rreq.radius

def zbNwkMeshRreqHandler (env : MeshEnv) (buf : UInt8) (rreq : RreqFrame) (s : MeshNib) :
    MeshNib × List MeshCall :=
  let pathCost := nwkCalcPathCost env rreq.srcAddr + rreq.cmd.pathCost
  match routeSought rreq.cmd.destAddr s with
  | none => (s, rreqFailed buf rreq s)
  | some (routing, s) =>
      match discSought rreq pathCost s with
      | .goOn s => (s, [rreqPassed env buf rreq pathCost])
      | .skip => (s, [.freeBuf buf])
      -- the route goes, also one that was there before
      | .full => (putRoute routing s, rreqFailed buf rreq s)

/-- `zb_nwk_mesh_route_discovery` with a buffer; its header has no MAC source. -/
def zbNwkMeshRouteDiscovery (env : MeshEnv) (buf : UInt8) (destAddr : UInt16) (radius : UInt8)
    (macSrc : UInt16) (seqNum : UInt8) (s : MeshNib) : MeshNib × List MeshCall :=
  let s := { s with rreqId := s.rreqId + 1 }
  zbNwkMeshRreqHandler env buf
    { srcAddr := env.networkAddress
      seqNum
      radius := if radius ≠ 0 then radius else env.maxDepth <<< 1
      macSrc
      cmd := ⟨s.rreqId, destAddr, 0⟩ } s

/-- The first frame that waits for a buffer. -/
def findWaiting (s : MeshNib) : Option Nat :=
  findUsed ZbNwkPend.used ZbNwkPend.waitingBuf s.pendingTable zbNwkPendingTableSize

/-- `none` is the assertion: no frame waits, and the buffer is freed before. -/
def zbNwkMeshInitiateRouteDiscovery (env : MeshEnv) (param : UInt8) (macSrc : UInt16)
    (seqNum : UInt8) (s : MeshNib) : Option (MeshNib × List MeshCall) :=
  (findWaiting s).map fun i =>
    let (s, calls) := zbNwkMeshRouteDiscovery env param (s.pendingTable i).destAddr 0 macSrc seqNum s
    ({ s with
      pendingTable := Function.update s.pendingTable i { s.pendingTable i with waitingBuf := false } },
      calls)

/-! ## A route reply -/

/-- One turn of the loop over the frames that wait for a route. -/
def sendPend (destAddr : UInt16) (done : MeshNib × List MeshCall) (i : Nat) :
    MeshNib × List MeshCall :=
  let (s, calls) := done
  let ent := s.pendingTable i
  if ent.used ∧ ent.destAddr = destAddr then
    (putPend i s, calls ++ [.zbNwkForward ent.buf ent.handle])
  else (s, calls)

def sendPending (destAddr : UInt16) (s : MeshNib) : MeshNib × List MeshCall :=
  (List.range zbNwkPendingTableSize).foldl (sendPend destAddr) (s, [])

/-- The two entries of an accepted reply. -/
def replyEntries (disc routing : Nat) (rrep : RrepFrame) (pathCost : UInt8) (s : MeshNib) : MeshNib :=
  let s := setDisc disc
    { s.routeDiscTable disc with
      residualCost := pathCost, expirationTime := zbNwkRouteDiscoveryExpiry } s
  let ent := s.routingTable routing
  setRoute routing
    { ent with
      nextHopAddr := rrep.macSrc
      status := if ent.status = .discoveryUnderway then .validationUnderway else ent.status } s

/-- The reply is for this device.  Where APS waits for it, the buffer is used for the confirm and
freed as well. -/
def replyArrived (buf : UInt8) (rrep : RrepFrame) (s : MeshNib) : MeshNib × List MeshCall :=
  let (s, calls) := sendPending rrep.cmd.responder s
  if s.apsRreqAddr = rrep.cmd.responder then
    ({ s with apsRreqAddr := 0xFFFF },
      calls ++ [.routeDiscoveryConfirm buf zbNwkStatusSuccess 0xff, .freeBuf buf])
  else (s, calls ++ [.freeBuf buf])

def zbNwkMeshRrepHandler (env : MeshEnv) (buf : UInt8) (rrep : RrepFrame) (s : MeshNib) :
    MeshNib × List MeshCall :=
  let pathCost := nwkCalcPathCost env rrep.srcAddr + rrep.cmd.pathCost
  match findDisc rrep.cmd.rreqId rrep.cmd.originator s, findRoute rrep.cmd.responder s with
  | some disc, some routing =>
      if pathCost > (s.routeDiscTable disc).residualCost then (s, [.freeBuf buf])
      else
        let s := replyEntries disc routing rrep pathCost s
        if rrep.cmd.originator = env.networkAddress then replyArrived buf rrep s
        else
          (s, [.sendRrep buf { rrep.cmd with pathCost } (s.routeDiscTable disc).senderAddr])
  | some disc, none => (putDisc disc s, [.freeBuf buf])
  | none, some routing => (putRoute routing s, [.freeBuf buf])
  | none, none => (s, [.freeBuf buf])

/-! ## The alarms -/

/-- The route that goes with an expired discovery, whichever that is: `i` in the condition is the
`i` of `NWK_ARRAY_FIND_ENT` itself, so each route is compared with the discovery of its own place,
in use or not. -/
def findStaleRoute (s : MeshNib) : Option Nat :=
  (List.range zbNwkRoutingTableSize).find? fun i =>
    (s.routingTable i).used && ((s.routingTable i).destAddr == (s.routeDiscTable i).destAddr &&
      (s.routingTable i).status != .active)

/-- The loop of `zb_nwk_mesh_expiry_route_disc` from an entry on: it is left at the first entry
that takes a route with it. -/
def expireDisc : List Nat → MeshNib → MeshNib × List MeshCall
  | [], s => (s, [])
  | i :: rest, s =>
      let ent := s.routeDiscTable i
      if ent.used then
        if ent.expirationTime ≠ 0 then
          expireDisc rest (setDisc i { ent with expirationTime := ent.expirationTime - 1 } s)
        else
          match findStaleRoute s with
          | some route =>
              ({ putRoute route (putDisc i s) with
                  statusIndAddr := (s.routingTable route).destAddr },
                [.getBufRouteDiscFailed])
          | none => expireDisc rest (putDisc i s)
      else expireDisc rest s

def zbNwkMeshExpiryRouteDisc (s : MeshNib) : MeshNib × List MeshCall :=
  if s.routeDiscTableCnt ≠ 0 then expireDisc (List.range zbNwkRouteDiscoveryTableSize) s else (s, [])

/-- One turn of the loop of `zb_nwk_mesh_expiry_pending`. -/
def expirePend (done : MeshNib × List MeshCall) (i : Nat) : MeshNib × List MeshCall :=
  let (s, calls) := done
  let ent := s.pendingTable i
  if ent.used then
    if ent.expiry = 0 then (putPend i s, calls ++ [.freeBuf ent.buf])
    else
      ({ s with
        pendingTable := Function.update s.pendingTable i { ent with expiry := ent.expiry - 1 } }, calls)
  else (s, calls)

def zbNwkMeshExpiryPending (s : MeshNib) : MeshNib × List MeshCall :=
  if s.pendingTableCnt ≠ 0 then (List.range zbNwkPendingTableSize).foldl expirePend (s, [])
  else (s, [])

/-! ## A frame to be sent -/

/-- What `nwk_calc_destination` reads of a frame. -/
structure NwkPacket where
  dstAddr : UInt16
  discoverRoute : Bool
  /-- The neighbour table has the destination, by the address that the frame names. -/
  isNeighbor : Bool
  deriving DecidableEq

inductive CalcRet where
  | ok (macDst : UInt16)
  | busy
  | error (cmdStatus : UInt8)
  deriving DecidableEq

/-- `zb_nwk_mesh_add_buf_to_pending`; `none` when the list is full. -/
def zbNwkMeshAddBufToPending (buf handle : UInt8) (destAddr : UInt16) (s : MeshNib) :
    Option MeshNib :=
  (firstFree ZbNwkPend.used s.pendingTable zbNwkPendingTableSize).map fun i =>
    { s with
      pendingTable := Function.update s.pendingTable i
        ⟨true, buf, handle, destAddr, zbNwkPendingEntryExpiry, true⟩
      pendingTableCnt := s.pendingTableCnt + 1 }

/-- The discovery of a route is underway, for this device. -/
def ownDiscovery (env : MeshEnv) (destAddr : UInt16) (s : MeshNib) : Bool :=
  match findDiscByDest destAddr s with
  | some i => (s.routeDiscTable i).sourceAddr == env.networkAddress
  | none => false

/-- The frame waits; a buffer is requested for the discovery unless one is underway. -/
def waitForRoute (buf handle : UInt8) (destAddr : UInt16) (underway : Bool) (s : MeshNib) :
    MeshNib × List MeshCall × CalcRet :=
  match zbNwkMeshAddBufToPending buf handle destAddr s with
  | some s => (s, if underway then [] else [.getBufInitiateRouteDiscovery], .busy)
  | none => (s, [], .error zbNwkCommandStatusNoRouteAvailable)

/-- What is left when there is no route to wait for. -/
def treeDestination (env : MeshEnv) (pkt : NwkPacket) : CalcRet :=
  if pkt.discoverRoute ∧ env.useTreeRouting then
    match env.treeHop pkt.dstAddr with
    | some hop => .ok hop
    | none => .error zbNwkCommandStatusTreeLinkFailure
  else .error zbNwkCommandStatusNoRoutingCapacity

def nwkCalcDestination (env : MeshEnv) (buf handle : UInt8) (pkt : NwkPacket) (s : MeshNib) :
    MeshNib × List MeshCall × CalcRet :=
  if env.deviceType = zbNwkDeviceTypeEd then (s, [], .ok (env.parentAddr.getD pkt.dstAddr))
  else if pkt.dstAddr &&& 0xFFF0 = 0xFFF0 then (s, [], .ok zbNwkBroadcastAllDevices)
  else if pkt.isNeighbor then (s, [], .ok pkt.dstAddr)
  else if pkt.discoverRoute then
    match findRoute pkt.dstAddr s with
    | some i =>
        let ent := s.routingTable i
        match ent.status with
        | .active | .validationUnderway =>
            (setRoute i { ent with status := .active } s, [], .ok ent.nextHopAddr)
        | .discoveryUnderway =>
            waitForRoute buf handle pkt.dstAddr (ownDiscovery env pkt.dstAddr s) s
        | _ => (s, [], treeDestination env pkt)
    | none => waitForRoute buf handle pkt.dstAddr false s
  else (s, [], treeDestination env pkt)

/-! ## Other calls -/

structure ZbNlmeRouteDiscoveryRequest where
  addressMode : UInt8
  networkAddr : UInt16
  radius : UInt8
  deriving DecidableEq

/-- A route that APS asks for. -/
def zbNlmeRouteDiscoveryRequest (env : MeshEnv) (buf : UInt8) (request : ZbNlmeRouteDiscoveryRequest)
    (macSrc : UInt16) (seqNum : UInt8) (s : MeshNib) : MeshNib × List MeshCall :=
  if ¬ (env.deviceType = zbNwkDeviceTypeCoordinator ∨ env.deviceType = zbNwkDeviceTypeRouter) then
    (s, [.routeDiscoveryConfirm buf zbNwkStatusInvalidRequest zbNwkCommandStatusNoRouteAvailable])
  else if request.addressMode ≠ zbAddrNoAddr ∧ request.networkAddr &&& 0xFFF0 = 0xFFF0 then
    (s, [.routeDiscoveryConfirm buf zbNwkStatusInvalidRequest zbNwkCommandStatusNoRouteAvailable])
  else if request.addressMode = zbAddr16bitDevOrBroadcast ∧
      request.networkAddr = env.networkAddress then
    (s, [.routeDiscoveryConfirm buf zbNwkStatusSuccess 0xff])
  else if (env.neighborLqi request.networkAddr).isSome then
    (s, [.routeDiscoveryConfirm buf zbNwkStatusSuccess 0xff])
  else if request.addressMode = zbAddr16bitDevOrBroadcast then
    zbNwkMeshRouteDiscovery env buf request.networkAddr request.radius macSrc seqNum
      { s with apsRreqAddr := request.networkAddr }
  else (s, [.routeDiscoveryConfirm buf zbNwkStatusInvalidRequest zbNwkCommandStatusNoRouteAvailable])

/-- The buffer requested when a route expired. -/
def nwkRouteDiscFailed (param : UInt8) (s : MeshNib) : List MeshCall :=
  [.statusIndication param zbNwkCommandStatusNoRouteAvailable s.statusIndAddr]

/-! ## The counters -/

/-- The counters are right. -/
structure MeshCounted (s : MeshNib) : Prop where
  routing : Counted ZbNwkRouting.used s.routingTable zbNwkRoutingTableSize s.routingTableCnt
  disc : Counted ZbNwkRouteDiscovery.used s.routeDiscTable zbNwkRouteDiscoveryTableSize
    s.routeDiscTableCnt
  pending : Counted ZbNwkPend.used s.pendingTable zbNwkPendingTableSize s.pendingTableCnt

section Counters

variable {env : MeshEnv} {s t : MeshNib} {calls : List MeshCall} {i : Nat} {destAddr : UInt16}

theorem meshCounted_init : MeshCounted MeshNib.init :=
  ⟨Counted.clear fun _ _ => rfl, Counted.clear fun _ _ => rfl, Counted.clear fun _ _ => rfl⟩

theorem findRoute_some (found : findRoute destAddr s = some i) :
    i < zbNwkRoutingTableSize ∧ (s.routingTable i).used = true ∧
      (s.routingTable i).destAddr = destAddr := by
  obtain ⟨inside, on, is⟩ := findUsed_eq_some found
  exact ⟨inside, on, beq_iff_eq.1 is⟩

theorem findDisc_some {requestId : UInt8} {sourceAddr : UInt16}
    (found : findDisc requestId sourceAddr s = some i) :
    i < zbNwkRouteDiscoveryTableSize ∧ (s.routeDiscTable i).used = true := by
  obtain ⟨inside, on, -⟩ := findUsed_eq_some found
  exact ⟨inside, on⟩

theorem meshCounted_setRoute {ent : ZbNwkRouting} (counted : MeshCounted s)
    (inside : i < zbNwkRoutingTableSize) (same : ent.used = (s.routingTable i).used) :
    MeshCounted (setRoute i ent s) :=
  ⟨counted.routing.keep inside same, counted.disc, counted.pending⟩

theorem meshCounted_setDisc {ent : ZbNwkRouteDiscovery} (counted : MeshCounted s)
    (inside : i < zbNwkRouteDiscoveryTableSize) (same : ent.used = (s.routeDiscTable i).used) :
    MeshCounted (setDisc i ent s) :=
  ⟨counted.routing, counted.disc.keep inside same, counted.pending⟩

theorem meshCounted_putRoute (counted : MeshCounted s) (inside : i < zbNwkRoutingTableSize)
    (on : (s.routingTable i).used = true) : MeshCounted (putRoute i s) :=
  ⟨counted.routing.free inside on rfl, counted.disc, counted.pending⟩

theorem meshCounted_putDisc (counted : MeshCounted s) (inside : i < zbNwkRouteDiscoveryTableSize)
    (on : (s.routeDiscTable i).used = true) : MeshCounted (putDisc i s) :=
  ⟨counted.routing, counted.disc.free inside on rfl, counted.pending⟩

theorem meshCounted_putPend (counted : MeshCounted s) (inside : i < zbNwkPendingTableSize)
    (on : (s.pendingTable i).used = true) : MeshCounted (putPend i s) :=
  ⟨counted.routing, counted.disc, counted.pending.free inside on rfl⟩

/-! ### A route request -/

/-- The route that is sought is in use, and nothing but the routes changed. -/
theorem routeSought_spec (sought : routeSought destAddr s = some (i, t)) :
    i < zbNwkRoutingTableSize ∧ (t.routingTable i).used = true ∧ t.pendingTable = s.pendingTable ∧
      (MeshCounted s → MeshCounted t) := by
  rw [routeSought] at sought
  cases found : findRoute destAddr s with
  | some j =>
      obtain ⟨inside, on, -⟩ := findRoute_some found
      rw [found] at sought
      dsimp only at sought
      split at sought
      · cases sought
        refine ⟨inside, ?_, rfl, fun counted => meshCounted_setRoute counted inside rfl⟩
        rw [setRoute]
        dsimp only
        rw [Function.update_self]
        exact on
      · cases sought
        exact ⟨inside, on, rfl, id⟩
  | none =>
      rw [found] at sought
      obtain ⟨j, free, is⟩ := Option.map_eq_some_iff.1 sought
      cases is
      obtain ⟨inside, off, -⟩ := firstFree_eq_some free
      refine ⟨inside, ?_, rfl, ?_⟩
      · dsimp only
        rw [Function.update_self]
      · intro counted
        exact ⟨counted.routing.take (by decide) inside off rfl, counted.disc, counted.pending⟩

theorem discSought_spec {rreq : RreqFrame} {pathCost : UInt8}
    (sought : discSought rreq pathCost s = .goOn t) :
    t.routingTable = s.routingTable ∧ t.pendingTable = s.pendingTable ∧
      (MeshCounted s → MeshCounted t) := by
  rw [discSought] at sought
  cases found : findDisc rreq.cmd.rreqId rreq.srcAddr s with
  | some j =>
      obtain ⟨inside, -⟩ := findDisc_some found
      rw [found] at sought
      dsimp only at sought
      split at sought
      · cases sought
        exact ⟨rfl, rfl, fun counted => meshCounted_setDisc counted inside rfl⟩
      · cases sought
  | none =>
      rw [found] at sought
      dsimp only at sought
      split at sought
      · rename_i j free
        cases sought
        obtain ⟨inside, off, -⟩ := firstFree_eq_some free
        refine ⟨rfl, rfl, ?_⟩
        intro counted
        exact ⟨counted.routing, counted.disc.take (by decide) inside off rfl, counted.pending⟩
      · cases sought

/-- **A request keeps the counters**, also where it finds no room, and the frames that wait. -/
theorem rreqHandler_spec (env : MeshEnv) (buf : UInt8) (rreq : RreqFrame) (s : MeshNib) :
    (zbNwkMeshRreqHandler env buf rreq s).1.pendingTable = s.pendingTable ∧
      (MeshCounted s → MeshCounted (zbNwkMeshRreqHandler env buf rreq s).1) := by
  rw [zbNwkMeshRreqHandler]
  cases route : routeSought rreq.cmd.destAddr s with
  | none => exact ⟨rfl, id⟩
  | some sought =>
      obtain ⟨i, u⟩ := sought
      obtain ⟨inside, on, pending, keeps⟩ := routeSought_spec route
      dsimp only
      split
      · rename_i v disc
        obtain ⟨-, pending', keeps'⟩ := discSought_spec disc
        exact ⟨pending'.trans pending, fun counted => keeps' (keeps counted)⟩
      · exact ⟨pending, keeps⟩
      · exact ⟨pending, fun counted => meshCounted_putRoute (keeps counted) inside on⟩

theorem meshCounted_rreq {buf : UInt8} {rreq : RreqFrame} (counted : MeshCounted s) :
    MeshCounted (zbNwkMeshRreqHandler env buf rreq s).1 :=
  (rreqHandler_spec env buf rreq s).2 counted

theorem routeDiscovery_pending {buf : UInt8} {radius : UInt8} {macSrc : UInt16} {seqNum : UInt8} :
    (zbNwkMeshRouteDiscovery env buf destAddr radius macSrc seqNum s).1.pendingTable =
      s.pendingTable := by
  rw [zbNwkMeshRouteDiscovery]
  exact (rreqHandler_spec env buf _ _).1

theorem meshCounted_routeDiscovery {buf : UInt8} {radius : UInt8} {macSrc : UInt16}
    {seqNum : UInt8} (counted : MeshCounted s) :
    MeshCounted (zbNwkMeshRouteDiscovery env buf destAddr radius macSrc seqNum s).1 := by
  rw [zbNwkMeshRouteDiscovery]
  exact meshCounted_rreq ⟨counted.routing, counted.disc, counted.pending⟩

theorem meshCounted_nlmeRouteDiscovery {buf : UInt8} {request : ZbNlmeRouteDiscoveryRequest}
    {macSrc : UInt16} {seqNum : UInt8} (counted : MeshCounted s) :
    MeshCounted (zbNlmeRouteDiscoveryRequest env buf request macSrc seqNum s).1 := by
  rw [zbNlmeRouteDiscoveryRequest]
  split
  · exact counted
  · split
    · exact counted
    · split
      · exact counted
      · split
        · exact counted
        · split
          · exact meshCounted_routeDiscovery ⟨counted.routing, counted.disc, counted.pending⟩
          · exact counted

theorem meshCounted_initiate {param : UInt8} {macSrc : UInt16} {seqNum : UInt8}
    (counted : MeshCounted s)
    (started : zbNwkMeshInitiateRouteDiscovery env param macSrc seqNum s = some (t, calls)) :
    MeshCounted t := by
  obtain ⟨i, found, is⟩ := Option.map_eq_some_iff.1 started
  obtain ⟨inside, -, -⟩ := findUsed_eq_some found
  have counted' : MeshCounted
      (zbNwkMeshRouteDiscovery env param (s.pendingTable i).destAddr 0 macSrc seqNum s).1 :=
    meshCounted_routeDiscovery counted
  cases is
  exact ⟨counted'.routing, counted'.disc, counted'.pending.keep inside rfl⟩

/-! ### A route reply -/

theorem meshCounted_sendPend {done : MeshNib × List MeshCall} (counted : MeshCounted done.1)
    (inside : i < zbNwkPendingTableSize) : MeshCounted (sendPend destAddr done i).1 := by
  rw [sendPend]
  split
  · rename_i mine
    exact meshCounted_putPend counted inside mine.1
  · exact counted

theorem meshCounted_sendPending (counted : MeshCounted s) :
    MeshCounted (sendPending destAddr s).1 := by
  rw [sendPending]
  apply List.foldlRecOn (motive := fun done : MeshNib × List MeshCall => MeshCounted done.1)
  · exact counted
  · intro done counted i mem
    exact meshCounted_sendPend counted (List.mem_range.1 mem)

theorem meshCounted_replyEntries {disc routing : Nat} {rrep : RrepFrame} {pathCost : UInt8}
    (counted : MeshCounted s) (discIn : disc < zbNwkRouteDiscoveryTableSize)
    (routeIn : routing < zbNwkRoutingTableSize) :
    MeshCounted (replyEntries disc routing rrep pathCost s) :=
  meshCounted_setRoute (meshCounted_setDisc counted discIn rfl) routeIn rfl

theorem meshCounted_replyArrived {buf : UInt8} {rrep : RrepFrame} (counted : MeshCounted s) :
    MeshCounted (replyArrived buf rrep s).1 := by
  have sent : MeshCounted (sendPending rrep.cmd.responder s).1 := meshCounted_sendPending counted
  rw [replyArrived]
  dsimp only
  split
  · exact ⟨sent.routing, sent.disc, sent.pending⟩
  · exact sent

theorem meshCounted_rrep {buf : UInt8} {rrep : RrepFrame} (counted : MeshCounted s) :
    MeshCounted (zbNwkMeshRrepHandler env buf rrep s).1 := by
  rw [zbNwkMeshRrepHandler]
  cases disc : findDisc rrep.cmd.rreqId rrep.cmd.originator s with
  | none =>
      cases route : findRoute rrep.cmd.responder s with
      | none => exact counted
      | some j =>
          obtain ⟨inside, on, -⟩ := findRoute_some route
          exact meshCounted_putRoute counted inside on
  | some i =>
      obtain ⟨inside, on⟩ := findDisc_some disc
      cases route : findRoute rrep.cmd.responder s with
      | none => exact meshCounted_putDisc counted inside on
      | some j =>
          obtain ⟨inside', -, -⟩ := findRoute_some route
          have entries : MeshCounted (replyEntries i j rrep
              (nwkCalcPathCost env rrep.srcAddr + rrep.cmd.pathCost) s) :=
            meshCounted_replyEntries counted inside inside'
          dsimp only
          split
          · exact counted
          · split
            · exact meshCounted_replyArrived entries
            · exact entries

/-! ### The alarms -/

theorem findStaleRoute_eq_some (found : findStaleRoute s = some i) :
    i < zbNwkRoutingTableSize ∧ (s.routingTable i).used = true := by
  obtain ⟨stale, mem, -⟩ := List.find?_range_eq_some.1 found
  rw [Bool.and_eq_true] at stale
  exact ⟨List.mem_range.1 mem, stale.1⟩

theorem meshCounted_expireDisc {places : List Nat} (counted : MeshCounted s)
    (inside : ∀ i ∈ places, i < zbNwkRouteDiscoveryTableSize) :
    MeshCounted (expireDisc places s).1 := by
  induction places generalizing s with
  | nil => exact counted
  | cons i rest ih =>
      have here := inside i List.mem_cons_self
      have later : ∀ j ∈ rest, j < zbNwkRouteDiscoveryTableSize := by
        intro j mem
        exact inside j (List.mem_cons_of_mem i mem)
      rw [expireDisc]
      dsimp only
      split
      · rename_i on
        split
        · exact ih (meshCounted_setDisc counted here rfl) later
        · split
          · rename_i route found
            obtain ⟨routeIn, routeOn⟩ := findStaleRoute_eq_some found
            have freed := meshCounted_putRoute (meshCounted_putDisc counted here on) routeIn routeOn
            exact ⟨freed.routing, freed.disc, freed.pending⟩
          · exact ih (meshCounted_putDisc counted here on) later
      · exact ih counted later

theorem meshCounted_expiryRouteDisc (counted : MeshCounted s) :
    MeshCounted (zbNwkMeshExpiryRouteDisc s).1 := by
  rw [zbNwkMeshExpiryRouteDisc]
  split
  · exact meshCounted_expireDisc counted fun i mem => List.mem_range.1 mem
  · exact counted

theorem meshCounted_expirePend {done : MeshNib × List MeshCall} (counted : MeshCounted done.1)
    (inside : i < zbNwkPendingTableSize) : MeshCounted (expirePend done i).1 := by
  rw [expirePend]
  split
  · rename_i on
    split
    · exact meshCounted_putPend counted inside on
    · exact ⟨counted.routing, counted.disc, counted.pending.keep inside rfl⟩
  · exact counted

theorem meshCounted_expiryPending (counted : MeshCounted s) :
    MeshCounted (zbNwkMeshExpiryPending s).1 := by
  rw [zbNwkMeshExpiryPending]
  split
  · apply List.foldlRecOn (motive := fun done : MeshNib × List MeshCall => MeshCounted done.1)
    · exact counted
    · intro done counted i mem
      exact meshCounted_expirePend counted (List.mem_range.1 mem)
  · exact counted

/-! ### A frame to be sent -/

theorem addBufToPending_spec {buf handle : UInt8}
    (added : zbNwkMeshAddBufToPending buf handle destAddr s = some t) :
    ∃ i < zbNwkPendingTableSize, (s.pendingTable i).used = false ∧
      t = { s with
        pendingTable := Function.update s.pendingTable i
          ⟨true, buf, handle, destAddr, zbNwkPendingEntryExpiry, true⟩
        pendingTableCnt := s.pendingTableCnt + 1 } := by
  obtain ⟨i, free, is⟩ := Option.map_eq_some_iff.1 added
  obtain ⟨inside, off, -⟩ := firstFree_eq_some free
  exact ⟨i, inside, off, is.symm⟩

theorem meshCounted_waitForRoute {buf handle : UInt8} {underway : Bool} (counted : MeshCounted s) :
    MeshCounted (waitForRoute buf handle destAddr underway s).1 := by
  rw [waitForRoute]
  split
  · rename_i t added
    obtain ⟨i, inside, off, rfl⟩ := addBufToPending_spec added
    exact ⟨counted.routing, counted.disc, counted.pending.take (by decide) inside off rfl⟩
  · exact counted

theorem meshCounted_forward {buf handle : UInt8} {pkt : NwkPacket} (counted : MeshCounted s) :
    MeshCounted (nwkCalcDestination env buf handle pkt s).1 := by
  rw [nwkCalcDestination]
  split
  · exact counted
  · split
    · exact counted
    · split
      · exact counted
      · split
        · split
          · rename_i i found
            obtain ⟨inside, -, -⟩ := findRoute_some found
            dsimp only
            split
            · exact meshCounted_setRoute counted inside rfl
            · exact meshCounted_setRoute counted inside rfl
            · exact meshCounted_waitForRoute counted
            · exact counted
          · exact meshCounted_waitForRoute counted
        · exact counted

end Counters

end Zboss.Nwk.MeshRouting
