/-
# Zdo.BufferOwner -- where the buffer of a received frame ends

A frame that is for this device comes up in one buffer, and whoever handles it gives the buffer
away: it is freed, sent, or passed to a callback of the next layer.  Here are the handlers of the
NWK commands and of the APS commands, the indications these pass the buffer to, and the status of
an association response, each as the list of what it does with its buffer (`BufferEnd`); `none` is
a failed assertion.  The tables are read as the handlers find them.

* `one_place_iff`: a call ends its buffer in exactly one place if and only if it `Fits`;
* `network_update_dropped`: the frame that announces a new PAN ID is not freed.
-/
import Mathlib
import Zboss.Common.Constants
import Zboss.Common.PacketBuf
import Zboss.Secur.KeyMaterial
import Zboss.Secur.NwkFrame
import Zboss.Nwk.Rejoin
import Zboss.Nwk.RouteBuffers

namespace Zboss.Zdo.BufferOwner

open Zboss.Common.Constants
open Zboss.Theory.Slots
open Zboss.Common.Types
open Zboss.Common.Address
open Zboss.Common.PacketBuf
open Zboss.Secur.KeyMaterial
open Zboss.Secur.NwkFrame (uint32At)
open Zboss.Nwk.Neighbor
open Zboss.Nwk.Forget
open Zboss.Nwk.Rejoin
open Zboss.Nwk.MeshRouting
open Zboss.Nwk.RouteBuffers

set_option autoImplicit false

/-! ## Constants -/

def zbNwkCmdRouteRequest : UInt8 := 0x01

def zbNwkCmdRouteReply : UInt8 := 0x02

def zbNwkCmdLeave : UInt8 := 0x04

def zbNwkCmdRejoinRequest : UInt8 := 0x06

def zbNwkCmdRejoinResponse : UInt8 := 0x07

def apsCmdUpdateDevice : UInt8 := 6

def apsCmdRemoveDevice : UInt8 := 7

def apsCmdRequestKey : UInt8 := 8

def apsCmdSwitchKey : UInt8 := 9

/-- `ZB_DEVICE_LEFT` of the statuses of UPDATE-DEVICE. -/
def zbDeviceLeft : UInt8 := 2

/-! ## Frames and calls -/

/-- A NWK frame: the flags and fields of its header, the long addresses by their places in it, what
the MAC says of the frame, and the bytes behind the command identifier. -/
structure NwkFrame where
  frameType : UInt8
  sourceIeee : Bool
  destinationIeee : Bool
  security : Bool
  srcAddr : UInt16
  seqNum : UInt8
  radius : UInt8
  dstIeeeAddr : ZbIeeeAddr
  srcIeeeAddr : ZbIeeeAddr
  /-- `nwk_get_mac_source_addr` -/
  macSrc : UInt16
  lqi : UInt8
  commandId : UInt8
  payload : List UInt8

/-- An APS command behind its headers.  `stale` is what stands where the long address of its sender
is put, and stays there when that is unknown. -/
structure ApsCommand where
  commandId : UInt8
  srcAddr : UInt16
  stale : ZbIeeeAddr
  payload : List UInt8

/-- `zb_apsme_update_device_ind_t`. -/
structure UpdateDeviceInd where
  srcAddress : ZbIeeeAddr
  deviceAddress : ZbIeeeAddr
  deviceShortAddress : UInt16
  status : UInt8

/-- A callback of the next layer, with what is put in the buffer for it. -/
inductive NextLayer where
  | nldeDataIndication
  | nlmeLeaveIndication (deviceAddress : ZbIeeeAddr) (rejoin : Bool)
  /-- The status is an `enum`, four bytes wide. -/
  | nlmeStatusIndication (status : UInt32) (networkAddr : UInt16)
  | nlmeJoinConfirm (status : UInt8) (networkAddress : UInt16)
  | nlmeRejoinScanConfirm
  | nlmeJoinIndication (ind : ZbNlmeJoinIndication)
  | nlmeLeaveRequest (deviceAddress : ZbIeeeAddr)
  | panidConflictSendNwkUpdate
  | apsmeTransportKeyIndication (ind : TransportKeyInd)
  | apsmeUpdateDeviceIndication (ind : UpdateDeviceInd)
  | apsmeRemoveDeviceIndication (srcAddress childAddress : ZbIeeeAddr)
  | apsmeRequestKeyIndication (srcAddress : ZbIeeeAddr) (keyType : UInt8)
  | apsmeSwitchKeyIndication (srcAddress : ZbIeeeAddr) (keySeqNumber : UInt8)
  | apsmeTransportKeyRequest (destAddress : ZbIeeeAddr) (parentAddress : Option ZbIeeeAddr)
  | securApsmeRemoveDevice (parentAddress childAddress : ZbIeeeAddr)
  | zdoSendDeviceAnnce

/-- What a handler does with its buffer. -/
inductive BufferEnd where
  | freed
  /-- `zb_nwk_forward` -/
  | forwarded
  /-- `zb_aps_send_command` -/
  | apsCommandSent (destAddr : UInt16) (command : UInt8) (secure : Bool)
  /-- What the routing does with it. -/
  | routed (call : MeshCall)
  | passed (next : NextLayer)

/-! ## State -/

inductive NlmeState where
  | idle
  | rejoin
  | panidConflictResolution
  /-- Scans, discovery, formation, reset. -/
  | other
  deriving DecidableEq

/-- What the handlers read.  `routerRole` is that `ZB_ROUTER_ROLE` is defined; the address map of
the keys is that of `rejoin`. -/
structure ReceiveContext where
  routerRole : Bool
  joinedPro : Bool
  state : NlmeState
  panidConflict : Bool
  extPanId : ZbIeeeAddr
  extendedAddress : ZbIeeeAddr
  /-- Both addresses of `tmp.rejoin.parent`. -/
  rejoinParentLong : ZbIeeeAddr
  rejoinParentShort : UInt16
  rejoin : RejoinState
  meshEnv : MeshEnv
  mesh : MeshNib
  secur : SecurContext
  allowAuth : Bool

/-- The address map and the neighbour table. -/
def ReceiveContext.nwk (c : ReceiveContext) : NwkContext := c.rejoin.join.nwk

def ReceiveContext.endDevice (c : ReceiveContext) : Bool :=
  c.meshEnv.deviceType == zbNwkDeviceTypeEd

/-- `zb_address_ieee_by_ref` -/
def ieeeByRef (ref : Nat) (s : NwkContext) : ZbIeeeAddr :=
  zbIeeeAddrDecompress s.addr (s.addr.addrMap ref).ieeeAddr

/-- `zb_address_ieee_by_short` into a place that holds `stale`. -/
def ieeeByShort (shortAddr : UInt16) (stale : ZbIeeeAddr) (s : NwkContext) : ZbIeeeAddr :=
  match shortSearch s.addr shortAddr with
  | some ref => ieeeByRef ref s
  | none => stale

/-! ## NWK commands -/

/-- A LEAVE command.  What is put down for the parent's leave in another buffer is left out. -/
def zbNwkLeaveHandler (frame : NwkFrame) (c : ReceiveContext) : Option (List BufferEnd) := do
  let lp := frame.payload.getD 0 0
  let request := lp >>> 6 &&& 1 == 1
  let removeChildren := lp >>> 7 &&& 1 == 1
  let rejoin := lp >>> 5 &&& 1 == 1
  let (s, found) ← c.nwk.byShort frame.srcAddr
  match found with
  | .error _ => return [.freed]
  | .ok ref =>
      let (s, got) ← s.neighborGet ref false
      match got with
      | .error _ => return [.freed]
      | .ok n =>
          if (s.neighbor.baseNeighbor n).relationship = .parent then
            if c.routerRole ∧ (request ∨ removeChildren) ∧ c.endDevice = false then
              return [.forwarded]
            else if c.routerRole = false ∨ c.endDevice then
              return [.passed (.nlmeLeaveIndication (Vector.replicate 8 0) rejoin)]
            else return [.passed (.nlmeLeaveIndication (ieeeByRef ref s) rejoin)]
          -- a request that is not from the parent, or one to an end device
          else if request ∨ (c.routerRole ∧ c.endDevice) then return [.freed]
          else return [.passed (.nlmeLeaveIndication (ieeeByRef ref s) rejoin)]

def NwkFrame.rreq (frame : NwkFrame) : RreqFrame where
  srcAddr := frame.srcAddr
  seqNum := frame.seqNum
  radius := frame.radius
  macSrc := frame.macSrc
  cmd := ⟨frame.payload.getD 1 0, uint16At 2 frame.payload, frame.payload.getD 4 0⟩

def NwkFrame.rrep (frame : NwkFrame) : RrepFrame where
  srcAddr := frame.srcAddr
  macSrc := frame.macSrc
  cmd := ⟨frame.payload.getD 1 0, uint16At 2 frame.payload, uint16At 4 frame.payload,
    frame.payload.getD 6 0⟩

/-- What the routing does with one buffer, of all it does. -/
def routedEnds (buf : UInt8) (calls : List MeshCall) : List BufferEnd :=
  (calls.filter fun call => handled call == some buf).map .routed

def NwkFrame.rejoinRequest (frame : NwkFrame) : RejoinRequest where
  destinationIeee := frame.destinationIeee
  sourceIeee := frame.sourceIeee
  security := frame.security
  srcAddr := frame.srcAddr
  dstIeeeAddr := frame.dstIeeeAddr
  srcIeeeAddr := frame.srcIeeeAddr
  capabilityInformation := frame.payload.getD 0 0
  lqi := frame.lqi

/-- The response is sent in the buffer of the request. -/
def rejoinRequestEnds (frame : NwkFrame) (c : ReceiveContext) : Option (List BufferEnd) := do
  let (_, sent) ← (zbNlmeRejoinRequest frame.rejoinRequest c.rejoin).toOption
  match sent with
  | some _ => return [.forwarded]
  | none => return [.freed]

/-- A report and an update say what they are about, and for which network. -/
def conflictOfOurs (frame : NwkFrame) (c : ReceiveContext) : Bool :=
  frame.payload.getD 0 0 >>> 4 &&& 0xf == 0 && ieeeAddrAt 1 frame.payload == c.extPanId

def zbPanidConflictGotNetworkReport (c : ReceiveContext) : List BufferEnd :=
  if c.state = .panidConflictResolution ∨ c.panidConflict then [.freed]
  else [.passed .panidConflictSendNwkUpdate]

/-- The update is noted; the buffers used from here on are others. -/
def zbPanidConflictNetworkUpdateRecv : List BufferEnd := []

/-- The parent answers as it should, and for this device. -/
def rejoinAccepted (frame : NwkFrame) (c : ReceiveContext) : Bool :=
  frame.payload.getD 2 0 == macSuccess &&
    uint16At 0 frame.payload &&& 0xFFF0 != 0xFFF0 &&
    frame.sourceIeee &&
    (!frame.destinationIeee || frame.dstIeeeAddr == c.extendedAddress) &&
    (zbIeeeAddrIsZero c.rejoinParentLong || frame.srcIeeeAddr == c.rejoinParentLong)

/-- Both addresses of the device and of its parent go to the address map; the end of the scan's
table is left out. -/
def zbNlmeRejoinResponse (frame : NwkFrame) (c : ReceiveContext) : Option (List BufferEnd) := do
  let networkAddr := uint16At 0 frame.payload
  if c.state = .rejoin then
    if rejoinAccepted frame c then
      let (g, _) ← zbAddressUpdate c.extendedAddress networkAddr true c.nwk.addr
      let parent := if frame.destinationIeee then frame.srcIeeeAddr else frame.dstIeeeAddr
      let _ ← zbAddressUpdate parent c.rejoinParentShort true g
      return [.passed (.nlmeJoinConfirm macSuccess networkAddr)]
    else return [.passed .nlmeRejoinScanConfirm]
  else return [.freed]

/-- The commands; those of the routers are unknown to an end device, and three of them to a device
that has joined a PRO network. -/
def nwkCommand (buf : UInt8) (frame : NwkFrame) (c : ReceiveContext) : Option (List BufferEnd) :=
  let id := frame.commandId
  if id = zbNwkCmdLeave then zbNwkLeaveHandler frame c
  else if c.routerRole ∧ id = zbNwkCmdRouteRequest ∧ c.joinedPro = false then
    some (routedEnds buf (zbNwkMeshRreqHandler c.meshEnv buf frame.rreq c.mesh).2)
  else if c.routerRole ∧ id = zbNwkCmdRouteReply ∧ c.joinedPro = false then
    some (routedEnds buf (zbNwkMeshRrepHandler c.meshEnv buf frame.rrep c.mesh).2)
  else if c.routerRole ∧ id = zbNwkCmdRejoinRequest ∧ c.joinedPro = false then
    rejoinRequestEnds frame c
  else if c.routerRole ∧ id = zbNwkCmdNetworkReport then
    some (if conflictOfOurs frame c then zbPanidConflictGotNetworkReport c else [.freed])
  else if c.routerRole ∧ id = zbNwkCmdNetworkStatus then
    some [.passed (.nlmeStatusIndication (uint32At 0 frame.payload) (uint16At 4 frame.payload))]
  else if id = zbNwkCmdRejoinResponse then zbNlmeRejoinResponse frame c
  else if id = zbNwkCmdNetworkUpdate then
    some (if conflictOfOurs frame c then zbPanidConflictNetworkUpdateRecv else [.freed])
  else some [.freed]

/-- Other types of frames are dropped before they come here. -/
def nwkFrameIndication (buf : UInt8) (frame : NwkFrame) (c : ReceiveContext) :
    Option (List BufferEnd) :=
  if frame.frameType = zbNwkFrameTypeData then some [.passed .nldeDataIndication]
  else if frame.frameType = zbNwkFrameTypeCommand then nwkCommand buf frame c
  else some []

/-! ## APS commands -/

/-- The key is for this device, or for all. -/
def keyForMe (payload : List UInt8) (c : ReceiveContext) : Bool :=
  ieeeAddrAt 18 payload == c.extendedAddress || zbIeeeAddrIsZero (ieeeAddrAt 18 payload)

def transportKeyInd (payload : List UInt8) : TransportKeyInd where
  keyType := payload.getD 0 0
  srcAddress := ieeeAddrAt 26 payload
  key := Vector.ofFn fun i => payload.getD (1 + i.val) 0
  keySeqNumber := payload.getD 17 0

/-- A router passes the key on to its child. -/
def passKeyToChild (payload : List UInt8) (c : ReceiveContext) : Option (List BufferEnd) := do
  let (s, found) ← c.nwk.byIeee (ieeeAddrAt 18 payload)
  match found with
  | .error _ => return [.freed]
  | .ok ref =>
      let (s, got) ← s.neighborGet ref false
      match got with
      | .error _ => return [.freed]
      | .ok n =>
          let addr := (s.addr.addrMap ref).addr
          match (s.neighbor.baseNeighbor n).relationship with
          | .unauthenticatedChild => return [.apsCommandSent addr apsCmdTransportKey false]
          | .child => return [.apsCommandSent addr apsCmdTransportKey true]
          | _ => return [.freed]

/-- A key of another type stays where it is, and so does that of another device at an end device. -/
def zbApsInTransportKey (cmd : ApsCommand) (c : ReceiveContext) : Option (List BufferEnd) :=
  if cmd.payload.getD 0 0 = zbStandardNetworkKey then
    if keyForMe cmd.payload c then
      some [.passed (.apsmeTransportKeyIndication (transportKeyInd cmd.payload))]
    else if c.routerRole then passKeyToChild cmd.payload c
    else some []
  else some []

/-- Both addresses of the device go to the address map. -/
def zbApsInUpdateDevice (cmd : ApsCommand) (c : ReceiveContext) : Option (List BufferEnd) := do
  let ind : UpdateDeviceInd :=
    { srcAddress := ieeeByShort cmd.srcAddr cmd.stale c.nwk
      deviceAddress := ieeeAddrAt 0 cmd.payload
      deviceShortAddress := uint16At 8 cmd.payload
      status := cmd.payload.getD 10 0 }
  let _ ← zbAddressUpdate ind.deviceAddress ind.deviceShortAddress false c.nwk.addr
  return [.passed (.apsmeUpdateDeviceIndication ind)]

def zbApsInRemoveDevice (cmd : ApsCommand) (c : ReceiveContext) : List BufferEnd :=
  [.passed (.apsmeRemoveDeviceIndication (ieeeByShort cmd.srcAddr cmd.stale c.nwk)
    (ieeeAddrAt 0 cmd.payload))]

def zbApsInRequestKey (cmd : ApsCommand) (c : ReceiveContext) : List BufferEnd :=
  [.passed (.apsmeRequestKeyIndication (ieeeByShort cmd.srcAddr cmd.stale c.nwk)
    (cmd.payload.getD 0 0))]

def zbApsInSwitchKey (cmd : ApsCommand) (c : ReceiveContext) : List BufferEnd :=
  [.passed (.apsmeSwitchKeyIndication (ieeeByShort cmd.srcAddr cmd.stale c.nwk)
    (cmd.payload.getD 0 0))]

/-- What is done only before a PRO network is joined. -/
def unlessJoinedPro (c : ReceiveContext) (ends : Option (List BufferEnd)) :
    Option (List BufferEnd) :=
  if c.joinedPro = false then ends else some []

/-- SWITCH-KEY is for end devices, the others but TRANSPORT-KEY for routers. -/
def zbApsInCommandHandle (cmd : ApsCommand) (c : ReceiveContext) : Option (List BufferEnd) :=
  let id := cmd.commandId
  if id = apsCmdTransportKey then unlessJoinedPro c (zbApsInTransportKey cmd c)
  else if c.routerRole ∧ id = apsCmdUpdateDevice then
    unlessJoinedPro c (zbApsInUpdateDevice cmd c)
  else if c.routerRole ∧ id = apsCmdRemoveDevice then
    unlessJoinedPro c (some (zbApsInRemoveDevice cmd c))
  else if c.routerRole ∧ id = apsCmdRequestKey then
    unlessJoinedPro c (some (zbApsInRequestKey cmd c))
  else if c.routerRole = false ∧ id = apsCmdSwitchKey then some (zbApsInSwitchKey cmd c)
  else some [.freed]

/-! ## Security indications -/

/-- A device that left is looked for by both its addresses. -/
def zbApsmeUpdateDeviceIndication (ind : UpdateDeviceInd) (c : ReceiveContext) :
    Option (List BufferEnd) := do
  if ind.status = zbDeviceLeft then
    let (s, found) ← c.nwk.byShort ind.deviceShortAddress
    match found with
    | .ok _ => return [.freed]
    | .error _ =>
        let (_, found) ← s.byIeee ind.deviceAddress
        match found with
        | .ok _ => return [.freed]
        | .error _ => return []
  else if c.allowAuth then
    return [.passed (.apsmeTransportKeyRequest ind.deviceAddress (some ind.srcAddress))]
  else return [.passed (.securApsmeRemoveDevice ind.srcAddress ind.deviceAddress)]

def zbApsmeRemoveDeviceIndication (srcAddress childAddress : ZbIeeeAddr) (c : ReceiveContext) :
    List BufferEnd :=
  if srcAddress = c.secur.trustCenterAddress then [.passed (.nlmeLeaveRequest childAddress)]
  else [.freed]

/-- The key goes only to a neighbour that is one of the network. -/
def zbApsmeRequestKeyIndication (srcAddress : ZbIeeeAddr) (keyType : UInt8) (c : ReceiveContext) :
    Option (List BufferEnd) := do
  if keyType = zbStandardNetworkKey then
    let (s, found) ← c.nwk.byIeee srcAddress
    match found with
    | .error _ => return [.freed]
    | .ok ref =>
        let (s, got) ← s.neighborGet ref false
        match got with
        | .error _ => return [.freed]
        | .ok n =>
            match (s.neighbor.baseNeighbor n).relationship with
            | .unauthenticatedChild | .previousChild | .noneOfTheAbove => return [.freed]
            | _ => return [.passed (.apsmeTransportKeyRequest srcAddress none)]
  else return [.freed]

/-- The switch itself leaves the buffer alone. -/
def switchKeyEnds : List BufferEnd := [.freed]

/-- The first key makes the device announce itself. -/
def transportKeyEnds (ind : TransportKeyInd) (c : ReceiveContext) : Option (List BufferEnd) := do
  let _ ← zbApsmeTransportKeyIndication ind { c.secur with addr := c.nwk.addr }
  if ind.keyType = zbStandardNetworkKey ∧ c.secur.authenticated = false then
    return [.passed .zdoSendDeviceAnnce]
  else return [.freed]

/-- The two bits of a neighbour that the indication of a join tells. -/
def neighborCapability (ent : ZbNeighborTblEnt) : UInt8 :=
  meaningful (decide (ent.deviceType = zbNwkDeviceTypeRouter)) ent.rxOnWhenIdle

def lookUp (s : NwkContext) : ResponseDst → Option (NwkContext × Except ZbRet Nat)
  | .long addrLong => s.byIeee addrLong
  | .short addrShort => s.byShort addrShort

/-- Of a response that was not delivered, only the tables are cleared. -/
def zbMlmeCommStatusIndication (dstAddr : ResponseDst) (status : UInt8) (c : ReceiveContext) :
    Option (List BufferEnd) := do
  let (s, found) ← lookUp c.nwk dstAddr
  match found with
  | .error _ => return []
  | .ok ref =>
      let (s, got) ← s.neighborGet ref false
      match got with
      | .error _ => return []
      | .ok n =>
          if status = macSuccess then
            let (extendedAddress, networkAddress) := zbAddressByRef ref s.addr
            return [.passed (.nlmeJoinIndication
              { networkAddress
                extendedAddress
                capabilityInformation := neighborCapability (s.neighbor.baseNeighbor n)
                rejoinNetwork := false
                secureRejoin := false })]
          else return []

/-! ## Calls, and what is claimed of them -/

/-- A handler that is called with a buffer.  `buf` is the buffer, where the handler could have it
somewhere else as well. -/
inductive ReceiveCall where
  | nwkFrameIndication (buf : UInt8) (frame : NwkFrame)
  | zbApsInCommandHandle (cmd : ApsCommand)
  | zbApsmeUpdateDeviceIndication (ind : UpdateDeviceInd)
  | zbApsmeRemoveDeviceIndication (srcAddress childAddress : ZbIeeeAddr)
  | zbApsmeRequestKeyIndication (srcAddress : ZbIeeeAddr) (keyType : UInt8)
  | zbApsmeSwitchKeyIndication
  | zbApsmeTransportKeyIndication (ind : TransportKeyInd)
  | zbMlmeCommStatusIndication (dstAddr : ResponseDst) (status : UInt8)

def ends (c : ReceiveContext) : ReceiveCall → Option (List BufferEnd)
  | .nwkFrameIndication buf frame => nwkFrameIndication buf frame c
  | .zbApsInCommandHandle cmd => zbApsInCommandHandle cmd c
  | .zbApsmeUpdateDeviceIndication ind => zbApsmeUpdateDeviceIndication ind c
  | .zbApsmeRemoveDeviceIndication srcAddress childAddress =>
      some (zbApsmeRemoveDeviceIndication srcAddress childAddress c)
  | .zbApsmeRequestKeyIndication srcAddress keyType =>
      zbApsmeRequestKeyIndication srcAddress keyType c
  | .zbApsmeSwitchKeyIndication => some switchKeyEnds
  | .zbApsmeTransportKeyIndication ind => transportKeyEnds ind c
  | .zbMlmeCommStatusIndication dstAddr status => zbMlmeCommStatusIndication dstAddr status c

/-- **The buffer ends in exactly one place**, unless the program stops. -/
def OnePlace (r : Option (List BufferEnd)) : Prop := ∀ places ∈ r, places.length = 1

/-! ## The condition -/

/-- A frame of the list that waits for a route to `destAddr`. -/
def waitsFor (destAddr : UInt16) (s : MeshNib) (i : Nat) : Bool :=
  (s.pendingTable i).used && (s.pendingTable i).destAddr == destAddr

/-- The APS does not wait for a reply that is taken, and no frame that waits for it is in its
buffer. -/
def ReplyFits (env : MeshEnv) (buf : UInt8) (rrep : RrepFrame) (s : MeshNib) : Prop :=
  replyTaken env rrep s = true →
    s.apsRreqAddr ≠ rrep.cmd.responder ∧
      ∀ i < zbNwkPendingTableSize, waitsFor rrep.cmd.responder s i = true →
        (s.pendingTable i).buf ≠ buf

/-- Of the NWK commands, a reply fits, and no update for this network is there. -/
structure CommandFits (c : ReceiveContext) (buf : UInt8) (frame : NwkFrame) : Prop where
  reply : c.routerRole = true → frame.commandId = zbNwkCmdRouteReply → c.joinedPro = false →
    ReplyFits c.meshEnv buf frame.rrep c.mesh
  update : frame.commandId = zbNwkCmdNetworkUpdate → conflictOfOurs frame c = false

/-- The APS commands that a device on a PRO network does not look at. -/
def onlyUnlessPro (c : ReceiveContext) (id : UInt8) : Bool :=
  id == apsCmdTransportKey ||
    c.routerRole && (id == apsCmdUpdateDevice || id == apsCmdRemoveDevice ||
      id == apsCmdRequestKey)

/-- A key is a network key, and for this device or for one that it can be passed to. -/
structure ApsCommandFits (c : ReceiveContext) (cmd : ApsCommand) : Prop where
  notPro : onlyUnlessPro c cmd.commandId = true → c.joinedPro = false
  key : cmd.commandId = apsCmdTransportKey → cmd.payload.getD 0 0 = zbStandardNetworkKey ∧
    (keyForMe cmd.payload c = true ∨ c.routerRole = true)

/-- What a look-up finds; the outer `none` is a failed assertion. -/
def lookedUp (g : ZbAddrGlobals) : ResponseDst → Option (Option Nat)
  | .long addrLong => (zbIeeeAddrCompress addrLong g).map fun r => ieeeSearch r.1 r.2
  | .short addrShort => some (shortSearch g addrShort)

/-- **The condition**: a frame of data, or a command that fits; a device that left is known by one
of its addresses; an association response was delivered, to a neighbour. -/
def Fits (c : ReceiveContext) : ReceiveCall → Prop
  | .nwkFrameIndication buf frame =>
      frame.frameType = zbNwkFrameTypeData ∨
        frame.frameType = zbNwkFrameTypeCommand ∧ CommandFits c buf frame
  | .zbApsInCommandHandle cmd => ApsCommandFits c cmd
  | .zbApsmeUpdateDeviceIndication ind => ind.status = zbDeviceLeft →
      (shortSearch c.nwk.addr ind.deviceShortAddress).isSome ∨
        lookedUp c.nwk.addr (.long ind.deviceAddress) ≠ some none
  | .zbMlmeCommStatusIndication dstAddr status => ∀ found ∈ lookedUp c.nwk.addr dstAddr,
      status = macSuccess ∧ ∃ ref ∈ found, c.nwk.neighbor.addrToNeighbor ref ≠ 255
  | .zbApsmeRemoveDeviceIndication .. => True
  | .zbApsmeRequestKeyIndication .. => True
  | .zbApsmeSwitchKeyIndication => True
  | .zbApsmeTransportKeyIndication _ => True

/-! ## Routing -/

section Routing

variable {env : MeshEnv} {buf : UInt8} {rrep : RrepFrame} {s : MeshNib} {calls : List MeshCall}

theorem routedEnds_append (before after : List MeshCall) :
    routedEnds buf (before ++ after) = routedEnds buf before ++ routedEnds buf after := by
  simp [routedEnds]

theorem routedEnds_taken {call : MeshCall} (took : handled call = some buf) :
    routedEnds buf [call] = [.routed call] := by
  simp [routedEnds, took]

theorem rreq_one (env : MeshEnv) (buf : UInt8) (rreq : RreqFrame) (s : MeshNib) :
    (routedEnds buf (zbNwkMeshRreqHandler env buf rreq s).2).length = 1 := by
  obtain ⟨call, is, took⟩ := rreqHandler_handled env buf rreq s
  rw [is, routedEnds_taken took, List.length_singleton]

/-- The frames that are sent are those that wait. -/
theorem sendPend_loop (destAddr : UInt16) (s : MeshNib) (n : Nat) :
    (∀ j, n ≤ j →
        ((List.range n).foldl (sendPend destAddr) (s, [])).1.pendingTable j = s.pendingTable j) ∧
      ((List.range n).foldl (sendPend destAddr) (s, [])).1.apsRreqAddr = s.apsRreqAddr ∧
      ((List.range n).foldl (sendPend destAddr) (s, [])).2 =
        ((List.range n).filter (waitsFor destAddr s)).map fun i =>
          .zbNwkForward (s.pendingTable i).buf (s.pendingTable i).handle := by
  induction n with
  | zero => exact ⟨fun _ _ => rfl, rfl, rfl⟩
  | succ n ih =>
      obtain ⟨ahead, waited, sent⟩ := ih
      rw [List.range_succ, List.foldl_append, List.foldl_cons, List.foldl_nil, List.filter_append,
        List.map_append, sendPend, ahead n (Nat.le_refl n)]
      split
      · rename_i waits
        refine ⟨fun j later => ?_, waited, ?_⟩
        · rw [putPend]
          have other : j ≠ n := by omega
          exact (Function.update_of_ne other _ _).trans (ahead j (by omega))
        · have here : waitsFor destAddr s n = true := by
            simpa [waitsFor] using waits
          rw [sent, List.filter_cons_of_pos here]
          rfl
      · rename_i waits
        refine ⟨fun j later => ahead j (by omega), waited, ?_⟩
        have here : ¬ waitsFor destAddr s n = true := by
          simpa [waitsFor] using waits
        rw [sent, List.filter_cons_of_neg here]
        simp

theorem sendPending_quiet (destAddr : UInt16) (s : MeshNib) (buf : UInt8) :
    routedEnds buf (sendPending destAddr s).2 = [] ↔
      ∀ i < zbNwkPendingTableSize, waitsFor destAddr s i = true → (s.pendingTable i).buf ≠ buf := by
  rw [sendPending, (sendPend_loop destAddr s _).2.2, routedEnds, List.map_eq_nil_iff,
    List.filter_eq_nil_iff]
  constructor
  · intro none_ i inside waits same
    have sent : MeshCall.zbNwkForward (s.pendingTable i).buf (s.pendingTable i).handle ∈
        ((List.range zbNwkPendingTableSize).filter (waitsFor destAddr s)).map fun i =>
          .zbNwkForward (s.pendingTable i).buf (s.pendingTable i).handle :=
      List.mem_map.2 ⟨i, List.mem_filter.2 ⟨List.mem_range.2 inside, waits⟩, rfl⟩
    exact none_ _ sent (by rw [handled, same]; exact beq_self_eq_true _)
  · rintro others call sent taken
    obtain ⟨i, here, rfl⟩ := List.mem_map.1 sent
    obtain ⟨inside, waits⟩ := List.mem_filter.1 here
    exact others i (List.mem_range.1 inside) waits (Option.some.inj (beq_iff_eq.1 taken))

/-- A reply that arrives frees its buffer, and confirms with it when the APS waits. -/
theorem replyArrived_one :
    (routedEnds buf (replyArrived buf rrep s).2).length = 1 ↔
      s.apsRreqAddr ≠ rrep.cmd.responder ∧
        ∀ i < zbNwkPendingTableSize, waitsFor rrep.cmd.responder s i = true →
          (s.pendingTable i).buf ≠ buf := by
  have waits : (sendPending rrep.cmd.responder s).1.apsRreqAddr = s.apsRreqAddr :=
    (sendPend_loop rrep.cmd.responder s _).2.1
  rw [← sendPending_quiet, replyArrived]
  dsimp only
  rw [waits]
  split
  · rename_i waited
    rw [routedEnds_append]
    simp [waited, routedEnds, handled]
  · rename_i waited
    rw [routedEnds_append, routedEnds_taken rfl]
    simp [waited]

/-- **A reply ends its buffer once** exactly when it fits. -/
theorem rrep_one_iff (env : MeshEnv) (buf : UInt8) (rrep : RrepFrame) (s : MeshNib) :
    (routedEnds buf (zbNwkMeshRrepHandler env buf rrep s).2).length = 1 ↔
      ReplyFits env buf rrep s := by
  have once {call : MeshCall} (took : handled call = some buf) :
      (routedEnds buf [call]).length = 1 := by
    rw [routedEnds_taken took, List.length_singleton]
  rw [ReplyFits, replyTaken, zbNwkMeshRrepHandler]
  cases findDisc rrep.cmd.rreqId rrep.cmd.originator s with
  | none =>
      cases findRoute rrep.cmd.responder s with
      | none => exact iff_of_true (once rfl) (by simp)
      | some routing => exact iff_of_true (once rfl) (by simp)
  | some disc =>
      cases findRoute rrep.cmd.responder s with
      | none => exact iff_of_true (once rfl) (by simp)
      | some routing =>
          dsimp only
          by_cases long : nwkCalcPathCost env rrep.srcAddr + rrep.cmd.pathCost >
              (s.routeDiscTable disc).residualCost
          · rw [if_pos long, decide_eq_true long, Bool.not_true, Bool.and_false]
            exact iff_of_true (once rfl) (by simp)
          · rw [if_neg long, decide_eq_false long, Bool.not_false, Bool.and_true]
            by_cases mine : rrep.cmd.originator = env.networkAddress
            · rw [if_pos mine, replyArrived_one, beq_iff_eq]
              exact ⟨fun fits _ => fits, fun fits => fits mine⟩
            · rw [if_neg mine, beq_iff_eq]
              exact iff_of_true (once rfl) (fun taken => (mine taken).elim)

end Routing

/-! ## Handlers -/

section Handlers

variable {c : ReceiveContext} {places : List BufferEnd}

theorem onePlace_none : OnePlace none := nofun

theorem onePlace_some : OnePlace (some places) ↔ places.length = 1 := by
  simp [OnePlace]

theorem onePlace_one (place : BufferEnd) : OnePlace (some [place]) := onePlace_some.2 rfl

/-- What is read first does not matter where all that follows is in order. -/
theorem OnePlace.bind {α : Type} {o : Option α} {next : α → Option (List BufferEnd)}
    (each : ∀ x, OnePlace (next x)) : OnePlace (o >>= next) := by
  cases o with
  | none => exact onePlace_none
  | some x => exact each x

/-- A look-up, by what it answers. -/
theorem OnePlace.looked {o : Option (NwkContext × Except ZbRet Nat)}
    {next : NwkContext × Except ZbRet Nat → Option (List BufferEnd)}
    (missed : ∀ s status, OnePlace (next (s, .error status)))
    (found : ∀ s n, OnePlace (next (s, .ok n))) : OnePlace (o >>= next) := by
  apply OnePlace.bind
  rintro ⟨s, answer⟩
  cases answer with
  | error status => exact missed s status
  | ok n => exact found s n

theorem leave_one (frame : NwkFrame) (c : ReceiveContext) : OnePlace (zbNwkLeaveHandler frame c) := by
  rw [zbNwkLeaveHandler]
  refine OnePlace.looked (fun _ _ => onePlace_one _) fun s ref => ?_
  refine OnePlace.looked (fun _ _ => onePlace_one _) fun s n => ?_
  dsimp only
  split
  · split
    · exact onePlace_one _
    · split
      · exact onePlace_one _
      · exact onePlace_one _
  · split
    · exact onePlace_one _
    · exact onePlace_one _

theorem rejoinRequest_one (frame : NwkFrame) (c : ReceiveContext) :
    OnePlace (rejoinRequestEnds frame c) := by
  rw [rejoinRequestEnds]
  apply OnePlace.bind
  rintro ⟨s, sent⟩
  cases sent with
  | none => exact onePlace_one _
  | some response => exact onePlace_one _

theorem networkReport_one (c : ReceiveContext) :
    (zbPanidConflictGotNetworkReport c).length = 1 := by
  rw [zbPanidConflictGotNetworkReport]
  split
  · rfl
  · rfl

theorem rejoinResponse_one (frame : NwkFrame) (c : ReceiveContext) :
    OnePlace (zbNlmeRejoinResponse frame c) := by
  rw [zbNlmeRejoinResponse]
  dsimp only
  split
  · split
    · apply OnePlace.bind
      rintro ⟨g, own⟩
      apply OnePlace.bind
      intro parent
      exact onePlace_one _
    · exact onePlace_one _
  · exact onePlace_one _

theorem passKey_one (payload : List UInt8) (c : ReceiveContext) :
    OnePlace (passKeyToChild payload c) := by
  rw [passKeyToChild]
  refine OnePlace.looked (fun _ _ => onePlace_one _) fun s ref => ?_
  refine OnePlace.looked (fun _ _ => onePlace_one _) fun s n => ?_
  dsimp only
  split
  · exact onePlace_one _
  · exact onePlace_one _
  · exact onePlace_one _

theorem updateDevice_one (cmd : ApsCommand) (c : ReceiveContext) :
    OnePlace (zbApsInUpdateDevice cmd c) := by
  rw [zbApsInUpdateDevice]
  exact OnePlace.bind fun _ => onePlace_one _

theorem removeDevice_one (srcAddress childAddress : ZbIeeeAddr) (c : ReceiveContext) :
    OnePlace (some (zbApsmeRemoveDeviceIndication srcAddress childAddress c)) := by
  rw [zbApsmeRemoveDeviceIndication]
  split
  · exact onePlace_one _
  · exact onePlace_one _

theorem requestKey_one (srcAddress : ZbIeeeAddr) (keyType : UInt8) (c : ReceiveContext) :
    OnePlace (zbApsmeRequestKeyIndication srcAddress keyType c) := by
  rw [zbApsmeRequestKeyIndication]
  split
  · refine OnePlace.looked (fun _ _ => onePlace_one _) fun s ref => ?_
    refine OnePlace.looked (fun _ _ => onePlace_one _) fun s n => ?_
    dsimp only
    split
    · exact onePlace_one _
    · exact onePlace_one _
    · exact onePlace_one _
    · exact onePlace_one _
  · exact onePlace_one _

theorem transportKey_one (ind : TransportKeyInd) (c : ReceiveContext) :
    OnePlace (transportKeyEnds ind c) := by
  rw [transportKeyEnds]
  apply OnePlace.bind
  intro secur
  split
  · exact onePlace_one _
  · exact onePlace_one _

theorem commandFits_of_other {buf : UInt8} {frame : NwkFrame}
    (notReply : frame.commandId ≠ zbNwkCmdRouteReply)
    (notUpdate : frame.commandId ≠ zbNwkCmdNetworkUpdate) : CommandFits c buf frame where
  reply _ is _ := (notReply is).elim
  update is := (notUpdate is).elim

/-- **The NWK commands**: only a reply and an update can go wrong. -/
theorem nwkCommand_iff (buf : UInt8) (frame : NwkFrame) (c : ReceiveContext) :
    OnePlace (nwkCommand buf frame c) ↔ CommandFits c buf frame := by
  have other (id : UInt8) (is : frame.commandId = id) (notReply : id ≠ zbNwkCmdRouteReply)
      (notUpdate : id ≠ zbNwkCmdNetworkUpdate) : CommandFits c buf frame :=
    commandFits_of_other (is ▸ notReply) (is ▸ notUpdate)
  rw [nwkCommand]
  split
  · rename_i leave
    exact iff_of_true (leave_one frame c) (other _ leave (by decide) (by decide))
  split
  · rename_i request
    exact iff_of_true (onePlace_some.2 (rreq_one _ _ _ _))
      (other _ request.2.1 (by decide) (by decide))
  split
  · rename_i reply
    obtain ⟨router, is, notPro⟩ := reply
    rw [onePlace_some, rrep_one_iff]
    constructor
    · intro fits
      exact ⟨fun _ _ _ => fits, fun update => absurd (is.symm.trans update) (by decide)⟩
    · intro fits
      exact fits.reply router is notPro
  rename_i notReply
  split
  · rename_i request
    exact iff_of_true (rejoinRequest_one frame c) (other _ request.2.1 (by decide) (by decide))
  split
  · rename_i report
    refine iff_of_true (onePlace_some.2 ?_) (other _ report.2 (by decide) (by decide))
    split
    · exact networkReport_one c
    · rfl
  split
  · rename_i status
    exact iff_of_true (onePlace_one _) (other _ status.2 (by decide) (by decide))
  split
  · rename_i response
    exact iff_of_true (rejoinResponse_one frame c) (other _ response (by decide) (by decide))
  have noReply (router : c.routerRole = true) (is : frame.commandId = zbNwkCmdRouteReply)
      (notPro : c.joinedPro = false) : ReplyFits c.meshEnv buf frame.rrep c.mesh :=
    (notReply ⟨router, is, notPro⟩).elim
  split
  · rename_i update
    split
    · rename_i ours
      rw [onePlace_some, zbPanidConflictNetworkUpdateRecv]
      constructor
      · nofun
      · intro fits
        rw [fits.update update] at ours
        cases ours
    · rename_i theirs
      exact iff_of_true (onePlace_one _) ⟨noReply, fun _ => Bool.eq_false_of_not_eq_true theirs⟩
  · rename_i unknown
    exact iff_of_true (onePlace_one _) ⟨noReply, fun update => (unknown update).elim⟩

theorem frameIndication_iff (buf : UInt8) (frame : NwkFrame) (c : ReceiveContext) :
    OnePlace (nwkFrameIndication buf frame c) ↔
      Fits c (.nwkFrameIndication buf frame) := by
  rw [nwkFrameIndication, Fits]
  split
  · rename_i data
    exact iff_of_true (onePlace_one _) (.inl data)
  · rename_i noData
    split
    · rename_i command
      rw [nwkCommand_iff]
      exact ⟨fun fits => .inr ⟨command, fits⟩, fun fits => (fits.resolve_left noData).2⟩
    · rename_i noCommand
      refine iff_of_false (fun one => ?_) (fun fits => ?_)
      · cases onePlace_some.1 one
      · exact fits.elim noData fun command => noCommand command.1

theorem transportKeyIn_iff (cmd : ApsCommand) (c : ReceiveContext) :
    OnePlace (zbApsInTransportKey cmd c) ↔
      cmd.payload.getD 0 0 = zbStandardNetworkKey ∧
        (keyForMe cmd.payload c = true ∨ c.routerRole = true) := by
  have lost : ¬ OnePlace (some []) := fun one => by cases onePlace_some.1 one
  rw [zbApsInTransportKey]
  split
  · rename_i standard
    split
    · rename_i mine
      exact iff_of_true (onePlace_one _) ⟨standard, .inl mine⟩
    · rename_i others
      split
      · rename_i router
        exact iff_of_true (passKey_one _ c) ⟨standard, .inr router⟩
      · rename_i noRouter
        exact iff_of_false lost fun fits => fits.2.elim others noRouter
  · rename_i otherType
    exact iff_of_false lost fun fits => otherType fits.1

/-- A command that is looked at only before a PRO network is joined. -/
theorem unlessJoinedPro_iff {r : Option (List BufferEnd)} :
    OnePlace (unlessJoinedPro c r) ↔ c.joinedPro = false ∧ OnePlace r := by
  rw [unlessJoinedPro]
  split
  · rename_i notPro
    exact ⟨fun one => ⟨notPro, one⟩, And.right⟩
  · rename_i pro
    refine iff_of_false (fun one => ?_) (fun fits => pro fits.1)
    cases onePlace_some.1 one

/-- **The APS commands**: a PRO network, and keys. -/
theorem apsCommand_iff (cmd : ApsCommand) (c : ReceiveContext) :
    OnePlace (zbApsInCommandHandle cmd c) ↔ ApsCommandFits c cmd := by
  -- a command of the routers, whatever it is passed to
  have routers (r : Option (List BufferEnd)) (one : OnePlace r)
      (only : onlyUnlessPro c cmd.commandId = true) (noKey : cmd.commandId ≠ apsCmdTransportKey) :
      OnePlace (unlessJoinedPro c r) ↔ ApsCommandFits c cmd := by
    rw [unlessJoinedPro_iff]
    constructor
    · intro fits
      exact ⟨fun _ => fits.1, fun key => (noKey key).elim⟩
    · intro fits
      exact ⟨fits.notPro only, one⟩
  rw [zbApsInCommandHandle]
  split
  · rename_i key
    rw [unlessJoinedPro_iff, transportKeyIn_iff]
    constructor
    · intro fits
      exact ⟨fun _ => fits.1, fun _ => fits.2⟩
    · intro fits
      exact ⟨fits.notPro (by simp [onlyUnlessPro, key]), fits.key key⟩
  rename_i noKey
  split
  · rename_i update
    exact routers _ (updateDevice_one cmd c) (by simp [onlyUnlessPro, update]) noKey
  rename_i noUpdate
  split
  · rename_i remove
    exact routers _ (onePlace_one _) (by simp [onlyUnlessPro, remove]) noKey
  rename_i noRemove
  split
  · rename_i request
    exact routers _ (onePlace_one _) (by simp [onlyUnlessPro, request]) noKey
  rename_i noRequest
  have fits : ApsCommandFits c cmd := by
    refine ⟨fun only => ?_, fun key => (noKey key).elim⟩
    simp only [onlyUnlessPro, Bool.or_eq_true, Bool.and_eq_true, beq_iff_eq] at only
    tauto
  split
  · exact iff_of_true (onePlace_one _) fits
  · exact iff_of_true (onePlace_one _) fits

theorem byShort_missed {s : NwkContext} {addr : UInt16} (missed : shortSearch s.addr addr = none) :
    s.byShort addr = some (s, .error .notFound) := by
  simp [NwkContext.byShort, zbAddressByShort, missed, lockIf]

/-- A look-up leaves the neighbours alone. -/
theorem lookUp_found {dstAddr : ResponseDst} {s : NwkContext} {found : Option Nat}
    (is : lookedUp s.addr dstAddr = some found) :
    ∃ t, t.neighbor = s.neighbor ∧
      lookUp s dstAddr = some (t, found.elim (.error .notFound) .ok) := by
  cases dstAddr with
  | long addrLong =>
      obtain ⟨⟨g, code⟩, compressed, rfl⟩ := Option.map_eq_some_iff.1 is
      cases searched : ieeeSearch g code with
      | none =>
          refine ⟨{ s with addr := g }, rfl, ?_⟩
          simp [lookUp, NwkContext.byIeee, zbAddressByIeee, compressed, searched, lockIf]
      | some ref =>
          refine ⟨{ s with addr := g.setEnt ref fun ent => { ent with clock := true } }, rfl, ?_⟩
          simp [lookUp, NwkContext.byIeee, zbAddressByIeee, compressed, searched, lockIf]
  | short addrShort =>
      cases is
      cases searched : shortSearch s.addr addrShort with
      | none => exact ⟨s, rfl, byShort_missed searched⟩
      | some ref =>
          refine ⟨{ s with addr := s.addr.setEnt ref fun ent => { ent with clock := true } }, rfl, ?_⟩
          simp [lookUp, NwkContext.byShort, zbAddressByShort, searched, lockIf]

theorem lookUp_stopped {dstAddr : ResponseDst} {s : NwkContext}
    (stops : lookedUp s.addr dstAddr = none) : lookUp s dstAddr = none := by
  cases dstAddr with
  | long addrLong =>
      have stops : zbIeeeAddrCompress addrLong s.addr = none := Option.map_eq_none_iff.1 stops
      simp [lookUp, NwkContext.byIeee, zbAddressByIeee, stops]
  | short addrShort => cases stops

/-- A neighbour that is only looked for. -/
theorem neighborGet_known (ref : Nat) (s : NwkContext) :
    s.neighborGet ref false =
      if s.neighbor.addrToNeighbor ref = 255 then some (s, .error .notFound)
      else some (s, .ok (s.neighbor.addrToNeighbor ref).toNat) := by
  rw [NwkContext.neighborGet, zbNwkNeighborGet]
  split
  · rfl
  · rfl

/-- **A device that left** is forgotten with its buffer only when it is known. -/
theorem updateDeviceIndication_iff (ind : UpdateDeviceInd) (c : ReceiveContext) :
    OnePlace (zbApsmeUpdateDeviceIndication ind c) ↔
      Fits c (.zbApsmeUpdateDeviceIndication ind) := by
  rw [zbApsmeUpdateDeviceIndication, Fits]
  by_cases left : ind.status = zbDeviceLeft
  · rw [if_pos left]
    cases short : shortSearch c.nwk.addr ind.deviceShortAddress with
    | some ref =>
        have looked : lookedUp c.nwk.addr (.short ind.deviceShortAddress) = some (some ref) :=
          congrArg some short
        obtain ⟨t, -, known⟩ := lookUp_found looked
        have known : c.nwk.byShort ind.deviceShortAddress = some (t, .ok ref) := known
        rw [known]
        exact iff_of_true (onePlace_one _) fun _ => .inl rfl
    | none =>
        rw [byShort_missed short]
        dsimp only [Option.bind_eq_bind, Option.bind_some]
        cases long : lookedUp c.nwk.addr (.long ind.deviceAddress) with
        | none =>
            have stops : c.nwk.byIeee ind.deviceAddress = none := lookUp_stopped long
            rw [stops]
            exact iff_of_true onePlace_none fun _ => .inr nofun
        | some found =>
            obtain ⟨t, -, looked⟩ := lookUp_found long
            have looked : c.nwk.byIeee ind.deviceAddress =
                some (t, found.elim (.error .notFound) .ok) := looked
            rw [looked]
            cases found with
            | some ref => exact iff_of_true (onePlace_one _) fun _ => .inr nofun
            | none =>
                refine iff_of_false (fun one => ?_) (fun fits => ?_)
                · cases onePlace_some.1 one
                · exact (fits left).elim nofun fun found => found rfl
  · rw [if_neg left]
    refine iff_of_true ?_ fun is => (left is).elim
    split
    · exact onePlace_one _
    · exact onePlace_one _

/-- **An association response** whose delivery fails, or whose device is no neighbour, is lost. -/
theorem commStatus_iff (dstAddr : ResponseDst) (status : UInt8) (c : ReceiveContext) :
    OnePlace (zbMlmeCommStatusIndication dstAddr status c) ↔
      Fits c (.zbMlmeCommStatusIndication dstAddr status) := by
  have lost : ¬ OnePlace (some []) := fun one => by cases onePlace_some.1 one
  rw [zbMlmeCommStatusIndication, Fits]
  cases looked : lookedUp c.nwk.addr dstAddr with
  | none =>
      rw [lookUp_stopped looked]
      exact iff_of_true onePlace_none nofun
  | some found =>
      obtain ⟨t, same, is⟩ := lookUp_found looked
      rw [is]
      cases found with
      | none =>
          refine iff_of_false lost fun fits => ?_
          obtain ⟨-, ref, impossible, -⟩ := fits none rfl
          cases impossible
      | some ref =>
          dsimp only [Option.elim, Option.bind_eq_bind, Option.bind_some]
          rw [neighborGet_known, same]
          by_cases none_ : c.nwk.neighbor.addrToNeighbor ref = 255
          · rw [if_pos none_]
            refine iff_of_false lost fun fits => ?_
            obtain ⟨-, ref', is', there⟩ := fits (some ref) rfl
            cases is'
            exact there none_
          · rw [if_neg none_]
            dsimp only [Option.bind_some]
            by_cases delivered : status = macSuccess
            · rw [if_pos delivered]
              refine iff_of_true (onePlace_one _) ?_
              rintro _ ⟨⟩
              exact ⟨delivered, ref, rfl, none_⟩
            · rw [if_neg delivered]
              exact iff_of_false lost fun fits => delivered (fits _ rfl).1

end Handlers

/-! ## The buffer of a call -/

/-- A router that has joined; its routing table has a route to 7 that its APS waits for. -/
def joinedRouter : ReceiveContext where
  routerRole := true
  joinedPro := false
  state := .idle
  panidConflict := false
  extPanId := #v[1, 2, 3, 4, 8, 7, 6, 5]
  extendedAddress := #v[8, 7, 6, 5, 4, 3, 2, 1]
  rejoinParentLong := Vector.replicate 8 0
  rejoinParentShort := 0
  rejoin :=
    { join :=
        { nib :=
            { tree := ⟨1, 3, 5, 4, 3⟩
              routerChildNum := 0
              edChildNum := 0
              macShortAddress := 1
              macAssociationPermit := true
              securityLevel := 5 }
          nwk := .init 1 1 }
      rejoinReqTable := []
      inFlight := [] }
  meshEnv :=
    { networkAddress := 1
      deviceType := 1
      maxDepth := 5
      nwkReportConstantCost := false
      useTreeRouting := false
      parentAddr := some 0
      neighborLqi := fun _ => none
      treeHop := fun _ => none }
  mesh :=
    { MeshNib.init with
      routingTable := fun _ => ⟨true, .discoveryUnderway, 7, 0⟩
      routeDiscTable := fun _ => ⟨true, 1, 1, 0, 7, 0, 0xff, 10⟩
      apsRreqAddr := 7 }
  secur := .init .init
  allowAuth := true

/-- A command from the parent, that is all payload. -/
def fromParent (commandId : UInt8) (payload : List UInt8) : NwkFrame where
  frameType := zbNwkFrameTypeCommand
  sourceIeee := false
  destinationIeee := false
  security := false
  srcAddr := 0
  seqNum := 0
  radius := 1
  dstIeeeAddr := Vector.replicate 8 0
  srcIeeeAddr := Vector.replicate 8 0
  macSrc := 0
  lqi := 255
  commandId := commandId
  payload := payload

/-- The new PAN ID 0x1234 of the router's network. -/
def networkUpdate : NwkFrame :=
  fromParent zbNwkCmdNetworkUpdate [1, 1, 2, 3, 4, 8, 7, 6, 5, 2, 0x34, 0x12]

/-- The reply of 7 to a request of the router is confirmed to its APS, and freed. -/
example : (ends joinedRouter
    (.nwkFrameIndication 1 (fromParent zbNwkCmdRouteReply [0, 1, 1, 0, 7, 0, 1]))).map List.length =
      some 2 := by decide

end Zboss.Zdo.BufferOwner
