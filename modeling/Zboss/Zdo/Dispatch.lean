/-
# Zdo.Dispatch -- who gets a ZDO frame, and where its buffer ends

`zb_zdo_data_indication` is a chain of tests on the cluster, written in place of a switch that is
still there, disabled.  Here is the chain with every handler it calls, each as what it does with
the buffer of the frame (`BufferEnd`), with what it sends.

* `complete_iff`: a frame is handled once, by its handler, and its buffer ends in one sound place,
  if and only if the frame `Fits`;
* `node_desc_unheard`: a request for the node descriptor never reaches `zdo_send_desc_resp`: the
  two labels of the switch have become one `&&`.

A failed assertion stops the device, and so the frame is not handled (`ZdoStop`).  These are the
assertions on the room in the buffer, on the message that is cut, and in the address and binding
tables.  Taken as met are those of the scheduler, of its alarms and of the delayed buffers, which
queue what is given to them; that of the cut of the APS header, behind which a frame begins; those
on the references of the neighbour table; and that of `zb_zdo_start_long_timer`, whose timer is free
when no change of the channel is on its way.
-/
import Mathlib
import Zboss.Common.Constants
import Zboss.Mac.Beacon
import Zboss.Zdo.AddressList
import Zboss.Zdo.EndDeviceBindWalk
import Zboss.Zdo.LqiPaging
import Zboss.Zdo.RxContext

namespace Zboss.Zdo.Dispatch

open Zboss.Common.Constants
open Zboss.Common.Types
open Zboss.Common.PacketBuf (uint16At uint16Bytes)
open Zboss.Secur.NwkFrame (uint32At)
open Zboss.Mac.Beacon (ieeeNumber)
open Zboss.Aps.Bind
open Zboss.Theory.ByteMemory
open Zboss.Theory.Probe
open Zboss.Zdo.AddressList
open Zboss.Zdo.BodyMemory
open Zboss.Zdo.ChannelChange
open Zboss.Zdo.DeviceInfo (zdoDeviceInfoUpd)
open Zboss.Zdo.EndDeviceBind (EndDeviceBindReq matchRequests validEndpoint zbUndefinedBuffer)
open Zboss.Zdo.MatchDesc (numIn numOut matchDescRespSize)
open Zboss.Zdo.RequestDecode
open Zboss.Zdo.RxContext
open Zboss.Zdo.SendByShort
open Zboss.Zdo.SimpleDescResp (srcDesc clusters wireBytes)
open Zboss.Zdo.Transactions (ZbCallback ZdoCtx zdoAfResp findZdoCb waitsFor_iff)

set_option autoImplicit false

/-! ## What is done with a frame -/

inductive ServerHandler where
  | zdoSendDescResp
  | zdoSendSimpleDescResp
  | zdoDeviceNwkAddrRes
  | zdoDeviceIeeeAddrRes
  | zdoActiveEpRes
  | zdoMatchDescRes
  | zbZdoMgmtNwkUpdateHandler
  | zdoSystemServerDiscoveryRes
  | zdoLqiResp
  | zdoMgmtLeaveSrv
  | zbZdoBindUnbindRes (bind : Bool)
  | zbZdoEndDeviceBindHandler
  | zbZdoMgmtPermitJoiningHandle
  | zdoDeviceAnnceSrv
  deriving DecidableEq

/-- `ends` is what is done with the buffer of the frame, `others` with other buffers. -/
structure ZdoDone where
  ran : List ServerHandler
  ends : List BufferEnd
  others : List (UInt8 × BufferEnd)
  deriving DecidableEq

/-- A handler that works on the buffer of the frame only. -/
def ranOn (handler : ServerHandler) (ends : List BufferEnd) : ZdoDone := ⟨[handler], ends, []⟩

/-- No handler of a request has run. -/
def noneRan (ends : List BufferEnd) : ZdoDone := ⟨[], ends, []⟩

variable (c : ZdoRxContext) (frame : ZdoFrame)

/-! ## Discovery -/

/-- `sizeof(zb_af_node_desc_t)` -/
def nodeDescSize : UInt8 := 13

/-- `sizeof(zb_af_node_power_desc_t)` -/
def powerDescSize : UInt8 := 2

/-- The descriptor for this device; all bytes of the first but the last are copied. -/
def zdoSendDescResp : Except ZdoStop (List BufferEnd) := do
  let resp ← asserted (zbBufInitialAlloc 3 frame.toBody)
  let (resp, respId) ←
    if c.networkAddress = frame.nwkAddr then
      let resp := resp.write resp.begin_ [zbZdpStatusSuccess]
      if frame.clusterid = zdoNodeDescReqClid then do
        let (resp, descBody) ← asserted (zbBufSmartAllocRight nodeDescSize resp)
        .ok (resp.write descBody (c.nodeDesc.toList.take 12), zdoNodeDescRespClid)
      else if frame.clusterid = zdoPowerDescReqClid then do
        let (resp, descBody) ← asserted (zbBufSmartAllocRight powerDescSize resp)
        .ok (resp.write descBody c.powerDesc.toList, zdoPowerDescRespClid)
      else .error .assertion
    else
      let status :=
        if c.coordinatorRole then zbZdpStatusDeviceNotFound else zbZdpStatusInvRequesttype
      .ok (resp.write resp.begin_ [status], 0)
  respond (zdoSendRespByShort respId frame.tsn frame.srcAddr
    (resp.write (resp.begin_ + 1) (uint16Bytes frame.nwkAddr)))

/-- The descriptor is copied behind the header of the response. -/
def zdoSendSimpleDescResp : Except ZdoStop (List BufferEnd) :=
  let resp := respond (SimpleDescResp.zdoSendSimpleDescResp c.descContext frame.toBody)
  if c.networkAddress = frame.nwkAddr then
    match srcDesc c.descContext (frame.at_ 3) with
    | some d => inBuffer 76 (wireBytes d).length resp
    | none => resp
  else resp

/-- The answer is about the first endpoint, whatever there are. -/
def zdoActiveEpRes : Except ZdoStop (List BufferEnd) :=
  let refused (status : UInt8) : Except ZdoStop (List BufferEnd) :=
    answered zdoActiveEpRespClid 4 (status :: (uint16Bytes frame.nwkAddr ++ [0])) frame
  if c.shortAddress = frame.nwkAddr then
    match c.simpleDescList with
    | [] => .error .assertion
    | desc :: _ =>
        answered zdoActiveEpRespClid 5
          (zbZdpStatusSuccess :: (uint16Bytes frame.nwkAddr ++ [1, desc.endpoint])) frame
  else if c.deviceType = zbNwkDeviceTypeEd then refused zbZdpStatusInvRequesttype
  else refused zbZdpStatusDeviceNotFound

/-- The bytes of all clusters of a `Match_Desc_req`. -/
def clusterBytes : Nat := 2 * (numIn frame.toBody + numOut frame.toBody)

/-- The clusters are copied into the tail; its size goes into eight bits. -/
def zdoMatchDescRes : Except ZdoStop (List BufferEnd) := do
  let (l, resp) ← asserted
    (MatchDesc.zdoMatchDescRes frame.toBody c.shortAddress c.simpleDescs c.epSlots)
  inBuffer (zbIoBufSize - (UInt8.ofNat (clusterBytes frame)).toNat) (clusterBytes frame)
    (answered zdoMatchDescRespClid (UInt8.ofNat (matchDescRespSize + l.num))
      (resp.status :: (uint16Bytes resp.nwkAddr ++ resp.matchLen :: resp.matchList)) frame)

/-- Without a server of the mask there is no response. -/
def zdoSystemServerDiscoveryRes : Except ZdoStop (List BufferEnd) :=
  let serverMask := word frame.mem (frame.begin_ + 1) &&& uint16At 8 c.nodeDesc.toList
  if serverMask ≠ 0 then
    answered zdoSystemServerDiscoveryRespClid 3 (zbZdpStatusSuccess :: uint16Bytes serverMask) frame
  else .ok [.freed]

/-! ## Management -/

def updateInd : UpdateInd where
  srcAddr := frame.srcAddr
  unicast := frame.deliveryMode == zbApsDeliveryUnicast

/-- `sizeof(zb_zdo_mgmt_nwk_update_notify_param_t)` -/
def updNotifyParamSize : UInt8 := 30

/-- A report without energies; where it is to be acknowledged it goes out as a request. -/
def zbZdoNwkUpdNotify (status tsn : UInt8) (dstAddr : UInt16) :
    Except ZdoStop (List BufferEnd) := do
  let _ ← asserted (zbGetBufTail updNotifyParamSize frame.toBody)
  let resp ← asserted (zbBufInitialAlloc 10 frame.toBody)
  let resp := resp.write resp.begin_ (status :: List.replicate 9 0)
  if c.sendWithAck then
    let packet ← asserted (zdoSendReqByShort zdoMgmtNwkUpdateNotifyClid dstAddr c.zdo.tsn resp)
    return [.requested (packetOf packet)]
  else respond (zdoSendRespByShort zdoMgmtNwkUpdateNotifyClid tsn dstAddr resp)

/-- A change of the channel or of the mask leaves the buffer where it is. -/
def mgmtNwkUpdateHandler : Except ZdoStop (List BufferEnd) :=
  match zbZdoMgmtNwkUpdateHandler c.beyond (updateInd frame) (cellsAt frame.begin_ 9 frame.mem) with
  | none => .error .endless
  | some (.newChannel _) => .ok []
  | some (.newMask _ _) => .ok []
  | some (.edScan _ _ _ _) => .ok [.passed .zbNlmeEdScanRequest]
  | some (.updNotify status tsn dstAddr) => zbZdoNwkUpdNotify c frame status tsn dstAddr
  | some .nothing => .ok []

/-- The records are written behind the header of the response. -/
def zdoLqiResp : Except ZdoStop (List BufferEnd) := do
  let resp ← asserted (LqiPaging.zdoLqiResp c frame.toBody)
  inBuffer (resp.packet.begin_ + 1 + LqiPaging.lqiRespSize)
    (LqiPaging.neighborTableRecordSize * resp.slots.length)
    (.ok [.responded (packetOf resp.packet)])

/-- With a free slot the request is remembered there, and goes on.  Without one the transaction
number is read where the request stands, when the status has been written. -/
def zdoMgmtLeaveSrv : Except ZdoStop (List BufferEnd) :=
  if ∃ i < zbZdoPendingLeaveSize, c.leaveUsed i = false then .ok [.passed .zbNlmeLeaveRequest]
  else do
    let resp ← asserted (zbBufInitialAlloc 1 frame.toBody)
    let resp := resp.write resp.begin_ [zbZdpStatusInsufficientSpace]
    respond (zdoSendRespByShort zdoMgmtLeaveRespClid (resp.mem frame.begin_) frame.srcAddr resp)

def zbZdoMgmtPermitJoiningHandle : Except ZdoStop (List BufferEnd) :=
  .ok [.passed (.zbNlmePermitJoiningRequest (frame.at_ 1))]

/-- The report of a frame; what stands behind its energies is read too. -/
def updateNotify : ZbZdoMgmtNwkUpdateNotify :=
  let bytes := cellsAt frame.begin_ 27 frame.mem
  { status := bytes.getD 1 0
    scannedChannels := uint32At 2 bytes
    totalTransmissions := uint16At 6 bytes
    transmissionFailures := uint16At 8 bytes
    scannedChannelsListCount := bytes.getD 10 0
    energyValues := bytes.drop 11 }

/-- What stands where the parameter of a request for a new channel is put. -/
def channelParam : ZbZdoMgmtNwkUpdateReq :=
  let bytes := cellsAt (zbIoBufSize - 11) 11 frame.mem
  ⟨⟨uint32At 0 bytes, bytes.getD 4 0⟩, bytes.getD 5 0, bytes.getD 6 0, uint16At 7 bytes,
    uint16At 9 bytes⟩

/-- A report that nobody waits for may change the channel. -/
def changeChannelEnds : Except ZdoStop (List BufferEnd) :=
  match zdoChangeChannel c.beyond (channelParam frame) (updateNotify frame) c.channelManager with
  | none => .error .endless
  | some (_, .freed) => .ok [.freed]
  | some (_, .sent sent) =>
      .ok [.requested ⟨zdoMgmtNwkUpdateReqClid, sent.dstAddr, sent.body⟩]

/-! ## Binding -/

/-- The byte of a status in the answer. -/
def bindStatus : Except ZbRet Unit → UInt8
  | .ok _ => zbZdpStatusSuccess
  | .error .error => 0xFF
  | .error .notFound => 0xE4
  | .error .overflow => 0xE3
  | .error .noMemory => 0xEA
  | .error .invalidBinding => zbZdpStatusNoEntry
  | .error .tableFull => zbZdpStatusTableFull
  | .error .illegalRequest => 0xC2

/-- What a binding leaves in the tables, and the status of the answer; nothing is asked for where
the stack is built without it. -/
def bindTables (bind : Bool) : Option ZbApsmeBindingReq → Except Stop (BindContext × UInt8)
  | none => .ok (⟨c.locks.nwk.addr, c.locks.binding⟩, zbZdpStatusNotSupported)
  | some req =>
      (bindCall ⟨c.locks.nwk.addr, c.locks.binding⟩ (if bind then .bind req else .unbind req)).map
        fun left => (left.1, bindStatus left.2)

def zbZdoBindUnbindRes (bind : Bool) : Except ZdoStop (List BufferEnd) := do
  let req ← asserted (readBinding c.build frame.toBody).result
  let (_, status) ← asserted (bindTables c bind req).toOption
  answered (if bind then zdoBindRespClid else zdoUnbindRespClid) 1 [status] frame

def zbZdoEndDeviceBindResp (frame : ZdoFrame) (status : UInt8) :
    Except ZdoStop (List BufferEnd) :=
  answered zdoEndDeviceBindRespClid 1 [status] frame

/-- The parameters of a request, as they are matched. -/
def endDeviceBindReq (fields : EndDeviceBindFields) : EndDeviceBindReq where
  bindingTarget := fields.bindingTarget
  srcIeeeAddr := ieeeNumber fields.srcIeeeAddr
  srcEndp := fields.srcEndp
  profileId := fields.profileId
  inClusters := fields.inClusters
  outClusters := fields.outClusters

/-- The request that waits for a second one. -/
def firstReq : EndDeviceBindReq := endDeviceBindReq (endDeviceBindFields c.endDeviceBind.first.toBody)

/-- Two requests are matched, and both devices are answered. -/
def matchBind (req : EndDeviceBindReq) : Except ZdoStop ZdoDone :=
  let pending := c.endDeviceBind
  match matchRequests (firstReq c) req pending.ctx with
  | none => .error .overrun
  | some (_, status) => do
      let ends ← zbZdoEndDeviceBindResp frame status
      let others ← zbZdoEndDeviceBindResp pending.first status
      return ⟨[.zbZdoEndDeviceBindHandler], ends,
        others.map fun end_ => (pending.ctx.dev1.endDeviceBindParam, end_)⟩

def zbZdoEndDeviceBindHandler : Except ZdoStop ZdoDone :=
  let answer (status : UInt8) : Except ZdoStop ZdoDone :=
    (zbZdoEndDeviceBindResp frame status).map (ranOn .zbZdoEndDeviceBindHandler)
  match readEndDeviceBind c.build frame.toBody with
  | none => answer zbZdpStatusNotSupported
  | some fields =>
      let req := endDeviceBindReq fields
      let ctx := c.endDeviceBind.ctx
      if ¬ validEndpoint req then answer zbZdpStatusInvalidEp
      else if ctx.dev1.endDeviceBindParam = zbUndefinedBuffer then
        .ok (ranOn .zbZdoEndDeviceBindHandler [.keptForEndDeviceBind])
      else if ctx.dev2.endDeviceBindParam ≠ zbUndefinedBuffer then answer zbZdpStatusTimeout
      else matchBind c frame req

/-! ## The dispatcher -/

/-- The announcement goes to the address map and to the neighbour table. -/
def zdoDeviceAnnceSrv : Except ZdoStop (List BufferEnd) := do
  let _ ← asserted (zdoDeviceInfoUpd (ieeeAt (frame.begin_ + 3) frame.mem) frame.nwkAddr
    frame.macSrc c.locks.nwk).toOption
  return [.freed]

/-- `zb_buf_cut_left` of the transaction number, before the rest. -/
def cutTsn (rest : Except ZdoStop (List BufferEnd)) : Except ZdoStop (List BufferEnd) :=
  if frame.len = 0 then .error .assertion else rest

/-- A response of those that `zdo_af_resp` knows; `missed` is done when nobody waits for it. -/
def afResp (missed : Except ZdoStop (List BufferEnd)) : Except ZdoStop (List BufferEnd) :=
  cutTsn frame <|
    match (zdoAfResp frame.tsn c.zdo).2 with
    | some cb => .ok [.callback (some cb)]
    | none => missed

/-- The cut leaves `asdu` at the data of the buffer, and it is `asdu` that is freed. -/
def systemServerDiscoveryResp : Except ZdoStop (List BufferEnd) :=
  cutTsn frame <|
    if frame.tsn = c.zdo.systemServerDiscoveryTsn then
      .ok [.callback c.zdo.systemServerDiscoveryCb]
    else .ok [.freedInside]

def isAfResp (id : UInt16) : Bool :=
  id == zdoNodeDescRespClid || id == zdoPowerDescRespClid || id == zdoSimpleDescRespClid ||
    id == zdoNwkAddrRespClid || id == zdoIeeeAddrRespClid || id == zdoActiveEpRespClid ||
    id == zdoMatchDescRespClid || id == zdoMgmtLeaveRespClid || id == zdoMgmtLqiRespClid ||
    id == zdoBindRespClid || id == zdoUnbindRespClid || id == zdoEndDeviceBindRespClid

def zbZdoDataIndication : Except ZdoStop ZdoDone :=
  let id := frame.clusterid
  let handled (handler : ServerHandler) (ends : Except ZdoStop (List BufferEnd)) :=
    ends.map (ranOn handler)
  let noHandler (ends : Except ZdoStop (List BufferEnd)) := ends.map noneRan
  if c.routerRole ∧ id = zdoDeviceAnnceClid ∧ c.joinedPro = false then
    handled .zdoDeviceAnnceSrv (zdoDeviceAnnceSrv c frame)
  else if id = zdoNodeDescReqClid ∧ id = zdoPowerDescReqClid then
    handled .zdoSendDescResp (zdoSendDescResp c frame)
  else if id = zdoSimpleDescReqClid then
    handled .zdoSendSimpleDescResp (zdoSendSimpleDescResp c frame)
  else if id = zdoNwkAddrReqClid then
    handled .zdoDeviceNwkAddrRes (zdoDeviceNwkAddrRes c frame)
  else if id = zdoIeeeAddrReqClid then
    handled .zdoDeviceIeeeAddrRes (zdoDeviceIeeeAddrRes c frame)
  else if id = zdoActiveEpReqClid then handled .zdoActiveEpRes (zdoActiveEpRes c frame)
  else if id = zdoMatchDescReqClid then handled .zdoMatchDescRes (zdoMatchDescRes c frame)
  else if id = zdoMgmtNwkUpdateReqClid then
    handled .zbZdoMgmtNwkUpdateHandler (mgmtNwkUpdateHandler c frame)
  else if id = zdoSystemServerDiscoveryReqClid then
    handled .zdoSystemServerDiscoveryRes (zdoSystemServerDiscoveryRes c frame)
  else if id = zdoMgmtLqiReqClid then handled .zdoLqiResp (zdoLqiResp c frame)
  else if id = zdoMgmtLeaveReqClid then handled .zdoMgmtLeaveSrv (zdoMgmtLeaveSrv c frame)
  else if id = zdoBindReqClid then
    handled (.zbZdoBindUnbindRes true) (zbZdoBindUnbindRes c frame true)
  else if id = zdoUnbindReqClid then
    handled (.zbZdoBindUnbindRes false) (zbZdoBindUnbindRes c frame false)
  else if id = zdoEndDeviceBindReqClid then zbZdoEndDeviceBindHandler c frame
  else if id = zdoMgmtPermitJoiningClid then
    -- not for a router: the branch is empty
    if c.routerRole = false then noHandler (.ok [])
    else if c.joinedPro then noHandler (.ok [.freed])
    else handled .zbZdoMgmtPermitJoiningHandle (zbZdoMgmtPermitJoiningHandle frame)
  else if isAfResp id then noHandler (afResp c frame (.ok [.freed]))
  else if id = zdoSystemServerDiscoveryRespClid then noHandler (systemServerDiscoveryResp c frame)
  else if id = zdoMgmtNwkUpdateNotifyClid then
    noHandler (afResp c frame (changeChannelEnds c frame))
  else noHandler (.ok [.freed])

/-! ## What is claimed of it -/

/-- The handler that a cluster is for. -/
def serverHandler (c : ZdoRxContext) (id : UInt16) : Option ServerHandler :=
  if id = zdoNodeDescReqClid ∨ id = zdoPowerDescReqClid then some .zdoSendDescResp
  else if id = zdoSimpleDescReqClid then some .zdoSendSimpleDescResp
  else if id = zdoNwkAddrReqClid then some .zdoDeviceNwkAddrRes
  else if id = zdoIeeeAddrReqClid then some .zdoDeviceIeeeAddrRes
  else if id = zdoActiveEpReqClid then some .zdoActiveEpRes
  else if id = zdoMatchDescReqClid then some .zdoMatchDescRes
  else if id = zdoSystemServerDiscoveryReqClid then some .zdoSystemServerDiscoveryRes
  else if id = zdoMgmtLqiReqClid then some .zdoLqiResp
  else if id = zdoMgmtLeaveReqClid then some .zdoMgmtLeaveSrv
  else if id = zdoMgmtNwkUpdateReqClid then some .zbZdoMgmtNwkUpdateHandler
  else if id = zdoBindReqClid then some (.zbZdoBindUnbindRes true)
  else if id = zdoUnbindReqClid then some (.zbZdoBindUnbindRes false)
  else if id = zdoEndDeviceBindReqClid then some .zbZdoEndDeviceBindHandler
  else if id = zdoMgmtPermitJoiningClid ∧ c.routerRole ∧ c.joinedPro = false then
    some .zbZdoMgmtPermitJoiningHandle
  else none

structure DoneOnce (handler : Option ServerHandler) (done : ZdoDone) : Prop where
  ran : ∀ h ∈ handler, done.ran = [h]
  ends : ∃ place, done.ends = [place] ∧ place.Sound

/-- **The handler runs once, and the buffer ends in one sound place.** -/
def Complete (handler : Option ServerHandler) : Except ZdoStop ZdoDone → Prop
  | .ok done => DoneOnce handler done
  | .error _ => False

section Fits

/-- A descriptor that is asked for has not too many clusters. -/
def SimpleDescFits : Prop :=
  c.networkAddress = frame.nwkAddr →
    ∀ d ∈ srcDesc c.descContext (frame.at_ 3), clusters d ≤ 23

/-- A request for a list that is sent back, by a device that makes none, has room behind it. -/
def NwkAddrFits : Prop :=
  nwkReqType frame = zbZdoExtendedResponse → c.isParent = false →
    frame.deliveryMode ≠ zbApsDeliveryUnicast → SendRoom frame.toBody

/-- So has one for the long address of another device, which is not broadcast. -/
def IeeeAddrFits : Prop :=
  if c.shortAddress = frame.nwkAddr then
    ieeeReqType frame = zbZdoExtendedResponse → c.isParent = false → SendRoom frame.toBody
  else
    frame.deliveryMode = zbApsDeliveryUnicast ∨
      frame.deliveryMode ≠ zbApsDeliveryBroadcast ∧ SendRoom frame.toBody

/-- A device that has endpoints is asked for them. -/
def ActiveEpFits : Prop := c.shortAddress = frame.nwkAddr → c.simpleDescList ≠ []

/-- The clusters have room in the tail. -/
def MatchDescFits : Prop := frame.len + frame.begin_ + clusterBytes frame ≤ zbIoBufSize

/-- A request to scan, or one that is answered, with room for the parameters of the answer. -/
def UpdateFits : Prop :=
  scans (frame.at_ 5) (frame.at_ 6) = true ∨
    notifies (updateInd frame) (frame.at_ 5) (frame.at_ 6) = true ∧
      frame.len + frame.begin_ + updNotifyParamSize.toNat ≤ zbIoBufSize

/-- A router has a page that fits. -/
def LqiFits : Prop := c.routerRole = true → LqiPaging.PageFits c (frame.at_ 1)

/-- The parameters of the binding have room behind the request, and the tables take it. -/
def BindFits (bind : Bool) : Prop :=
  ∃ req, (readBinding c.build frame.toBody).result = some req ∧
    ∃ left, bindTables c bind req = .ok left

/-- Two requests that are matched have room for the clusters they share, both ways. -/
def PairFits (req1 req2 : EndDeviceBindReq) : Prop :=
  req1.profileId = req2.profileId →
    EndDeviceBind.fits req1.outClusters req2.inClusters = true ∧
      EndDeviceBind.fits req1.inClusters req2.outClusters = true

def EndDeviceBindFits : Prop :=
  ∀ fields ∈ readEndDeviceBind c.build frame.toBody,
    validEndpoint (endDeviceBindReq fields) = true →
      c.endDeviceBind.ctx.dev1.endDeviceBindParam ≠ zbUndefinedBuffer →
        c.endDeviceBind.ctx.dev2.endDeviceBindParam = zbUndefinedBuffer →
          PairFits (firstReq c) (endDeviceBindReq fields)

/-- The tables take the announced device. -/
def AnnceFits : Prop :=
  c.routerRole = true → c.joinedPro = false →
    ∃ left, zdoDeviceInfoUpd (ieeeAt (frame.begin_ + 3) frame.mem) frame.nwkAddr frame.macSrc
      c.locks.nwk = .ok left

/-- The servers have been asked for, with a callback. -/
def DiscoveryRespFits : Prop :=
  frame.len ≠ 0 ∧ frame.tsn = c.zdo.systemServerDiscoveryTsn ∧
    c.zdo.systemServerDiscoveryCb.isSome = true

/-- A report that changes the channel names one that is found again. -/
def ReportFits : Prop :=
  ∀ channel ∈ decides c.channelManager (updateNotify frame),
    (firstChannel c.beyond channel.toUInt32).isSome = true

/-- **The condition**, cluster by cluster. -/
def Fits : Prop :=
  let id := frame.clusterid
  if id = zdoNodeDescReqClid ∨ id = zdoPowerDescReqClid then False
  else if id = zdoDeviceAnnceClid then AnnceFits c frame
  else if id = zdoSimpleDescReqClid then SimpleDescFits c frame
  else if id = zdoNwkAddrReqClid then NwkAddrFits c frame
  else if id = zdoIeeeAddrReqClid then IeeeAddrFits c frame
  else if id = zdoActiveEpReqClid then ActiveEpFits c frame
  else if id = zdoMatchDescReqClid then MatchDescFits frame
  else if id = zdoMgmtNwkUpdateReqClid then UpdateFits frame
  else if id = zdoMgmtLqiReqClid then LqiFits c frame
  else if id = zdoBindReqClid then BindFits c frame true
  else if id = zdoUnbindReqClid then BindFits c frame false
  else if id = zdoEndDeviceBindReqClid then EndDeviceBindFits c frame
  else if id = zdoMgmtPermitJoiningClid then c.routerRole = true
  else if isAfResp id then frame.len ≠ 0
  else if id = zdoSystemServerDiscoveryRespClid then DiscoveryRespFits c frame
  else if id = zdoMgmtNwkUpdateNotifyClid then
    frame.len ≠ 0 ∧ (findZdoCb frame.tsn c.zdo = none → ReportFits c frame)
  else True

end Fits

/-! ## Where a buffer ends -/

/-- It ends in one sound place. -/
def Ends (ends : Except ZdoStop (List BufferEnd)) : Prop :=
  ∃ place, ends = .ok [place] ∧ place.Sound

section Ends

variable {c : ZdoRxContext} {frame : ZdoFrame} {h : ServerHandler}
  {ends : Except ZdoStop (List BufferEnd)}

/-- A handler that works on the buffer of the frame only. -/
theorem complete_ran_iff : Complete (some h) (ends.map (ranOn h)) ↔ Ends ends := by
  cases ends with
  | error stop => exact iff_of_false id fun one => by cases one.choose_spec.1
  | ok places =>
      constructor
      · rintro ⟨-, place, is, sound⟩
        exact ⟨place, congrArg _ is, sound⟩
      · rintro ⟨place, ⟨⟩, sound⟩
        exact ⟨fun _ is => by rw [Option.mem_some.1 is]; rfl, place, rfl, sound⟩

/-- What has no handler of requests. -/
theorem complete_none_iff {ran : List BufferEnd → ZdoDone} (same : ∀ places, (ran places).ends = places) :
    Complete none (ends.map ran) ↔ Ends ends := by
  cases ends with
  | error stop => exact iff_of_false id fun one => by cases one.choose_spec.1
  | ok places =>
      constructor
      · rintro ⟨-, place, is, sound⟩
        exact ⟨place, congrArg _ ((same places).symm.trans is), sound⟩
      · rintro ⟨place, ⟨⟩, sound⟩
        exact ⟨nofun, place, same _, sound⟩

theorem ends_one {place : BufferEnd} (sound : place.Sound) : Ends (.ok [place]) :=
  ⟨place, rfl, sound⟩

/-- What is left where it is. -/
theorem not_ends_nil : ¬ Ends (.ok []) := by
  rintro ⟨place, none_, -⟩
  cases none_

theorem not_ends_error {stop : ZdoStop} : ¬ Ends (.error stop) := by
  rintro ⟨place, none_, -⟩
  cases none_

theorem asserted_ends {α : Type} {val : Option α} {rest : α → Except ZdoStop (List BufferEnd)} :
    Ends (asserted val >>= rest) ↔ ∃ x, val = some x ∧ Ends (rest x) := by
  cases val with
  | none => exact iff_of_false not_ends_error nofun
  | some x =>
      constructor
      · exact fun one => ⟨x, rfl, one⟩
      · rintro ⟨_, ⟨⟩, one⟩
        exact one

theorem respond_ends {packet : Option Body} : Ends (respond packet) ↔ packet.isSome = true := by
  rw [respond, asserted_ends, Option.isSome_iff_exists]
  exact exists_congr fun packet => and_iff_left (ends_one trivial)

theorem inBuffer_ends {at_ n : Nat} :
    Ends (inBuffer at_ n ends) ↔ at_ + n ≤ zbIoBufSize ∧ Ends ends := by
  rw [inBuffer]
  by_cases inside : at_ + n ≤ zbIoBufSize
  · rw [if_pos inside, and_iff_right inside]
  · rw [if_neg inside]
    exact iff_of_false not_ends_error fun both => inside both.1

/-- A short answer always ends. -/
theorem answered_ends {clusterid : UInt16} {size : UInt8} {bytes : List UInt8}
    (few : size.toNat ≤ maxAnswer) : Ends (answered clusterid size bytes frame) := by
  rw [answered_ok few]
  exact ends_one trivial

/-- A message in the middle of the buffer goes out. -/
theorem sendResp_isSome {clusterid addr : UInt16} {tsn : UInt8} {resp : Body}
    (room : SendRoom resp) : (zdoSendRespByShort clusterid tsn addr resp).isSome = true :=
  sendByShort_isSome.2 room

end Ends

/-! ## Discovery -/

section Discovery

variable (c : ZdoRxContext) (frame : ZdoFrame)

/-- Without a descriptor the response is its header. -/
theorem refusal_sent (none_ : c.networkAddress = frame.nwkAddr →
    srcDesc c.descContext (frame.at_ 3) = none) :
    (SimpleDescResp.zdoSendSimpleDescResp c.descContext frame.toBody).isSome = true := by
  have hdr : SimpleDescResp.simpleDescRespHdrSize.toNat = 4 := rfl
  have bufSize : zbIoBufSize = 148 := rfl
  rw [SimpleDescResp.zdoSendSimpleDescResp, indication_room]
  simp only [Option.bind_eq_bind, Option.bind_some, zbBufInitialAlloc]
  rw [if_pos (by rw [hdr, bufSize]; omega)]
  simp only [Option.bind_some]
  by_cases own : c.descContext.networkAddress = word frame.mem (frame.begin_ + 1)
  · rw [if_pos own, none_ own]
    exact sendResp_isSome (show 4 + 72 + 18 ≤ 148 by decide)
  · rw [if_neg own]
    cases c.descContext.coordinatorRole <;> exact sendResp_isSome (show 4 + 72 + 18 ≤ 148 by decide)

theorem simpleDesc_ends : Ends (zdoSendSimpleDescResp c frame) ↔ SimpleDescFits c frame := by
  have bufSize : zbIoBufSize = 148 := rfl
  have data : apsdeDataReqSize.toNat = 18 := rfl
  rw [zdoSendSimpleDescResp, SimpleDescFits]
  by_cases own : c.networkAddress = frame.nwkAddr
  swap
  · rw [if_neg own, respond_ends]
    exact iff_of_true (refusal_sent c frame fun is => absurd is own) fun is => absurd is own
  rw [if_pos own, forall_prop_of_true own]
  cases found : srcDesc c.descContext (frame.at_ 3) with
  | none =>
      dsimp only
      rw [respond_ends]
      exact iff_of_true (refusal_sent c frame fun _ => found) nofun
  | some d =>
      dsimp only
      have length := SimpleDescResp.descLength_toNat d
      have sends (resp : Body) := @SimpleDescResp.zdoSendSimpleDescResp_some d frame.toBody
        c.descContext resp frame.received own found
      rw [inBuffer_ends, respond_ends, Option.isSome_iff_exists, SimpleDescResp.length_wireBytes]
      simp only [sends, exists_and_left, exists_eq, and_true, Option.mem_some_iff, forall_eq']
      rw [SendRoom, SimpleDescResp.message, length]
      dsimp only
      omega

section NwkAddr

variable {c : ZdoRxContext} {frame : ZdoFrame}

/-- A request for one address is not sent back, -/
theorem nwkAddrFits_short (short : zdoNwkAddrStatus c frame ≠ zbZdpStatusSuccess ∨
    nwkReqType frame = zbZdoSingleDevResponse) : NwkAddrFits c frame := by
  intro extended _ several
  have noSingle : zbZdoExtendedResponse ≠ zbZdoSingleDevResponse := by decide
  have noMore : ¬ zbZdoExtendedResponse > zbZdoExtendedResponse := by decide
  rcases short with wrong | single
  · refine absurd ?_ wrong
    rw [zdoNwkAddrStatus, if_neg fun both => several both.2, extended, if_neg noMore]
  · exact absurd (extended.symm.trans single) noSingle

/-- nor is one for a list that is made; -/
theorem nwkAddrFits_served (served : nwkServed c frame = true) : NwkAddrFits c frame := by
  intro _ noParent
  rw [nwkServed, noParent, Bool.and_false] at served
  cases served

/-- all others are. -/
theorem nwkAddrFits_back (short : ¬ (zdoNwkAddrStatus c frame ≠ zbZdpStatusSuccess ∨
    nwkReqType frame = zbZdoSingleDevResponse)) (served : nwkServed c frame = false) :
    NwkAddrFits c frame ↔ SendRoom frame.toBody := by
  obtain ⟨right, single⟩ := not_or.1 short
  have right := not_not.1 right
  obtain ⟨only, several⟩ : nwkReqType frame = zbZdoExtendedResponse ∧
      frame.deliveryMode ≠ zbApsDeliveryUnicast := by
    have status := right
    rw [zdoNwkAddrStatus] at status
    split at status
    · exact absurd status (by decide)
    rename_i found
    split at status
    · exact absurd status (by decide)
    rename_i noMore
    refine ⟨extended_of_other single noMore, fun unicast => found ⟨?_, unicast⟩⟩
    rw [foundShort, if_neg single]
  have noParent : c.isParent = false := by
    rw [nwkServed, right, only] at served
    exact served
  exact ⟨fun fits => fits only noParent several, fun room _ _ _ => room⟩

end NwkAddr

theorem nwkAddr_ends : Ends (zdoDeviceNwkAddrRes c frame) ↔ NwkAddrFits c frame := by
  have small : (UInt8.ofNat addrRespSize).toNat ≤ maxAnswer := by decide
  rw [zdoDeviceNwkAddrRes]
  dsimp only
  by_cases wrong : zdoNwkAddrStatus c frame ≠ zbZdpStatusSuccess
  · rw [if_pos wrong]
    exact iff_of_true (answered_ends small) (nwkAddrFits_short (.inl wrong))
  rw [if_neg wrong]
  by_cases single : nwkReqType frame = zbZdoSingleDevResponse
  · rw [if_pos single]
    exact iff_of_true (answered_ends small) (nwkAddrFits_short (.inr single))
  rw [if_neg single]
  cases served : nwkServed c frame with
  | true =>
      rw [if_pos rfl]
      refine iff_of_true ?_ (nwkAddrFits_served served)
      cases list : nwkAddrExtended c frame with
      | none => exact ends_one trivial
      | some resp =>
          obtain ⟨packet, -, sends, -⟩ :=
            @sendList_sends c frame resp zdoNwkAddrRespClid _ _ _ _ (by decide) list
          exact ⟨_, sends, trivial⟩
  | false =>
      rw [if_neg Bool.false_ne_true, respond_ends, zdoSendRespByShort, sendByShort_isSome]
      exact (nwkAddrFits_back (not_or.2 ⟨wrong, single⟩) served).symm

theorem ieeeAddr_ends : Ends (zdoDeviceIeeeAddrRes c frame) ↔ IeeeAddrFits c frame := by
  have small : (UInt8.ofNat addrRespSize).toNat ≤ maxAnswer := by decide
  rw [zdoDeviceIeeeAddrRes, IeeeAddrFits]
  dsimp only
  by_cases own : c.shortAddress = frame.nwkAddr
  swap
  · rw [if_pos own, if_neg own]
    by_cases unicast : frame.deliveryMode = zbApsDeliveryUnicast
    · rw [if_pos unicast]
      exact iff_of_true (answered_ends small) (.inl unicast)
    rw [if_neg unicast, or_iff_right unicast]
    by_cases broadcast : frame.deliveryMode = zbApsDeliveryBroadcast
    · rw [if_pos broadcast]
      exact iff_of_false not_ends_nil fun fits => fits.1 broadcast
    · rw [if_neg broadcast, respond_ends, zdoSendRespByShort, sendByShort_isSome,
        and_iff_right broadcast]
  rw [if_neg (not_not.2 own), if_pos own]
  by_cases more : ieeeReqType frame > zbZdoExtendedResponse
  · rw [if_pos more]
    refine iff_of_true (answered_ends small) fun extended => ?_
    rw [extended] at more
    exact absurd more (by decide)
  rw [if_neg more]
  by_cases single : ieeeReqType frame = zbZdoSingleDevResponse
  · rw [if_pos single]
    refine iff_of_true (answered_ends small) fun extended => ?_
    rw [single] at extended
    exact absurd extended (by decide)
  rw [if_neg single]
  have type_ := extended_of_other single more
  have served : ieeeServed c frame = c.isParent := by
    rw [ieeeServed, decide_eq_true own, decide_eq_true type_]
    rfl
  rw [forall_prop_of_true type_, served]
  cases parent : c.isParent with
  | true =>
      rw [if_pos rfl]
      refine iff_of_true ?_ fun not => by cases not
      cases list : ieeeAddrExtended c frame with
      | none => exact ends_one trivial
      | some resp =>
          obtain ⟨packet, -, sends, -⟩ :=
            @sendList_sends c frame resp zdoIeeeAddrRespClid _ _ _ _ (by decide) list
          exact ⟨_, sends, trivial⟩
  | false =>
      rw [if_neg Bool.false_ne_true, respond_ends, zdoSendRespByShort, sendByShort_isSome,
        forall_prop_of_true rfl]

theorem activeEp_ends : Ends (zdoActiveEpRes c frame) ↔ ActiveEpFits c frame := by
  rw [zdoActiveEpRes, ActiveEpFits]
  dsimp only
  by_cases own : c.shortAddress = frame.nwkAddr
  · rw [if_pos own, forall_prop_of_true own]
    cases c.simpleDescList with
    | nil => exact iff_of_false not_ends_error fun some_ => some_ rfl
    | cons desc rest => exact iff_of_true (answered_ends (by decide)) (List.cons_ne_nil _ _)
  · rw [if_neg own]
    refine iff_of_true ?_ fun is => absurd is own
    split
    · exact answered_ends (by decide)
    · exact answered_ends (by decide)

theorem matchDesc_ends : Ends (zdoMatchDescRes c frame) ↔ MatchDescFits frame := by
  have bufSize : zbIoBufSize = 148 := rfl
  have most : maxAnswer = 113 := rfl
  have one : zbMaxEpNumber = 1 := rfl
  have head : matchDescRespSize = 4 := rfl
  have bytes : clusterBytes frame = 2 * (numIn frame.toBody + numOut frame.toBody) := rfl
  have size : (UInt8.ofNat (clusterBytes frame)).toNat = clusterBytes frame % 256 :=
    UInt8.toNat_ofNat'
  have few := c.length_simpleDescs
  have answer := @MatchDesc.match_made frame.toBody c.shortAddress c.simpleDescs c.epSlots (by omega)
  rw [and_iff_right frame.received, ← bytes] at answer
  rw [zdoMatchDescRes, asserted_ends, MatchDescFits]
  simp only [inBuffer_ends, size]
  constructor
  · rintro ⟨made, is, inside, -⟩
    have room := answer.1 ⟨made, is⟩
    omega
  · intro fits
    have small : clusterBytes frame % 256 = clusterBytes frame := Nat.mod_eq_of_lt (by omega)
    obtain ⟨⟨l, resp⟩, made⟩ := answer.2 (by omega)
    have num := MatchDesc.num_made made
    have size : (UInt8.ofNat (matchDescRespSize + l.num)).toNat = matchDescRespSize + l.num := by
      rw [UInt8.toNat_ofNat', Nat.mod_eq_of_lt (by omega)]
    exact ⟨(l, resp), made, by omega, answered_ends (by dsimp only; omega)⟩

theorem discovery_ends : Ends (zdoSystemServerDiscoveryRes c frame) := by
  rw [zdoSystemServerDiscoveryRes]
  split
  · exact answered_ends (by decide)
  · exact ends_one trivial

end Discovery

/-! ## Management and binding -/

section Management

variable (c : ZdoRxContext) (frame : ZdoFrame)

theorem updNotify_ends (status tsn : UInt8) (dstAddr : UInt16) :
    Ends (zbZdoNwkUpdNotify c frame status tsn dstAddr) ↔
      frame.len + frame.begin_ + updNotifyParamSize.toNat ≤ zbIoBufSize := by
  have small : (10 : UInt8).toNat < zbIoBufSize := by decide
  rw [zbZdoNwkUpdNotify, asserted_ends, zbGetBufTail]
  by_cases room : frame.len + frame.begin_ + updNotifyParamSize.toNat ≤ zbIoBufSize
  swap
  · rw [if_neg room]
    exact iff_of_false (fun not => by cases not.choose_spec.1) room
  rw [if_pos room]
  refine iff_of_true ⟨_, rfl, asserted_ends.2 ⟨_, if_pos small, ?_⟩⟩ room
  have sendRoom : ∀ bytes, SendRoom (Body.write ((zbIoBufSize - (10 : UInt8).toNat) / 2) bytes
      { frame.toBody with begin_ := (zbIoBufSize - (10 : UInt8).toNat) / 2, len := (10 : UInt8).toNat }) :=
    fun _ => show 10 + 69 + 18 ≤ 148 by decide
  dsimp only
  cases c.sendWithAck with
  | true =>
      rw [if_pos rfl, asserted_ends]
      obtain ⟨packet, sends⟩ := Option.isSome_iff_exists.1 (@sendByShort_isSome
        zdoMgmtNwkUpdateNotifyClid dstAddr (c.zdo.tsn + 1) _ |>.2 (sendRoom _))
      exact ⟨packet, sends, ends_one trivial⟩
  | false =>
      rw [if_neg Bool.false_ne_true, respond_ends]
      exact sendResp_isSome (sendRoom _)

/-- **A request for an update** that changes something is not answered, and not freed. -/
theorem update_ends_iff : Ends (mgmtNwkUpdateHandler c frame) ↔ UpdateFits frame := by
  have duration : (cellsAt frame.begin_ 9 frame.mem).getD 5 0 = frame.at_ 5 :=
    getD_cellsAt (by decide) 0
  have count : (cellsAt frame.begin_ 9 frame.mem).getD 6 0 = frame.at_ 6 :=
    getD_cellsAt (by decide) 0
  obtain ⟨handled, ran, isScan, isNotify⟩ :=
    update_ends c.beyond (updateInd frame) (cellsAt frame.begin_ 9 frame.mem)
  rw [duration, count] at isScan isNotify
  rw [mgmtNwkUpdateHandler, ran, UpdateFits, ← isScan, ← isNotify]
  have kept (kind : handled.isScan = false ∧ handled.isNotify = false) :
      ¬ (handled.isScan = true ∨ handled.isNotify = true ∧
        frame.len + frame.begin_ + updNotifyParamSize.toNat ≤ zbIoBufSize) := by
    rw [kind.1, kind.2]
    rintro (not | ⟨not, -⟩) <;> cases not
  cases handled with
  | newChannel i => exact iff_of_false not_ends_nil (kept ⟨rfl, rfl⟩)
  | newMask mask addr => exact iff_of_false not_ends_nil (kept ⟨rfl, rfl⟩)
  | edScan req scanCount dstAddr tsn => exact iff_of_true (ends_one trivial) (.inl rfl)
  | updNotify status tsn dstAddr =>
      refine (updNotify_ends c frame status tsn dstAddr).trans ⟨fun room => .inr ⟨rfl, room⟩, ?_⟩
      rintro (not | ⟨-, room⟩)
      · cases not
      · exact room
  | nothing => exact iff_of_false not_ends_nil (kept ⟨rfl, rfl⟩)

theorem lqi_ends : Ends (zdoLqiResp c frame) ↔ LqiFits c frame := by
  have bufSize : zbIoBufSize = 148 := rfl
  have four : LqiPaging.lqiRespSize = 4 := rfl
  have sound (resp : LqiPaging.LqiResp) : Ends (.ok [.responded (packetOf resp.packet)]) :=
    ends_one trivial
  rw [zdoLqiResp, asserted_ends, LqiFits]
  simp only [inBuffer_ends, sound, and_true]
  cases router : c.routerRole with
  | false =>
      obtain ⟨resp, made, slots, -, -, -, begin_⟩ := @LqiPaging.lqiResp_endDevice c frame router
      refine iff_of_true ⟨resp, made, ?_⟩ nofun
      rw [slots, List.length_nil]
      omega
  | true =>
      rw [forall_prop_of_true rfl, LqiPaging.PageFits]
      obtain ⟨none_, over_⟩ | ⟨resp, made, page⟩ := @LqiPaging.lqiResp_router c frame router
      · rw [none_]
        exact iff_of_false (fun not => by cases not.choose_spec.1) fun fits => absurd fits.1 (by omega)
      · have length : resp.slots.length = min (LqiPaging.pageRecords c (frame.at_ 1))
            (LqiPaging.usedSlots c).length := by rw [page.slots, List.length_take]
        rw [made, and_iff_right page.size, ← page.begin_, ← length]
        simp only [Option.some.injEq, exists_eq_left']

theorem leave_ends : Ends (zdoMgmtLeaveSrv c frame) := by
  have small : (1 : UInt8).toNat < zbIoBufSize := by decide
  rw [zdoMgmtLeaveSrv]
  split
  · exact ends_one trivial
  · refine asserted_ends.2 ⟨_, if_pos small, ?_⟩
    rw [respond_ends]
    exact sendResp_isSome (show 1 + 73 + 18 ≤ 148 by decide)

theorem bind_ends (bind : Bool) : Ends (zbZdoBindUnbindRes c frame bind) ↔ BindFits c frame bind := by
  rw [zbZdoBindUnbindRes, asserted_ends, BindFits]
  refine exists_congr fun req => and_congr_right fun _ => ?_
  rw [asserted_ends]
  constructor
  · rintro ⟨left, took, -⟩
    exact ⟨left, DeviceInfo.toOption_eq_some.1 took⟩
  · rintro ⟨left, took⟩
    exact ⟨left, DeviceInfo.toOption_eq_some.2 took, answered_ends (by decide)⟩

/-- Two requests are matched when the clusters they share find room. -/
theorem matchRequests_isSome (req1 req2 : EndDeviceBindReq) (ctx : EndDeviceBind.EndDeviceBindCtx) :
    (matchRequests req1 req2 ctx).isSome = true ↔ PairFits req1 req2 := by
  rw [matchRequests, PairFits]
  by_cases same : req1.profileId = req2.profileId
  · rw [if_neg (not_not.2 same), forall_prop_of_true same, ← EndDeviceBind.checkClusterList_isSome,
      ← EndDeviceBind.checkClusterList_isSome]
    cases EndDeviceBind.checkClusterList req1.outClusters req2.inClusters with
    | none => exact iff_of_false Bool.false_ne_true fun both => Bool.false_ne_true both.1
    | some list1 =>
        cases EndDeviceBind.checkClusterList req1.inClusters req2.outClusters with
        | none => exact iff_of_false Bool.false_ne_true fun both => Bool.false_ne_true both.2
        | some list2 => exact iff_of_true rfl ⟨rfl, rfl⟩
  · rw [if_pos same]
    exact iff_of_true rfl fun is => absurd is same

theorem matchBind_complete (req : EndDeviceBindReq) :
    Complete (some .zbZdoEndDeviceBindHandler) (matchBind c frame req) ↔
      PairFits (firstReq c) req := by
  have small : (1 : UInt8).toNat ≤ maxAnswer := by decide
  rw [← matchRequests_isSome _ _ c.endDeviceBind.ctx, matchBind]
  cases matchRequests (firstReq c) req c.endDeviceBind.ctx with
  | none => exact iff_of_false id Bool.false_ne_true
  | some left =>
      refine iff_of_true ?_ rfl
      dsimp only
      rw [zbZdoEndDeviceBindResp, answered_ok small, zbZdoEndDeviceBindResp, answered_ok small]
      exact ⟨fun _ is => by rw [Option.mem_some.1 is], _, rfl, trivial⟩

theorem endDeviceBind_complete :
    Complete (some .zbZdoEndDeviceBindHandler) (zbZdoEndDeviceBindHandler c frame) ↔
      EndDeviceBindFits c frame := by
  have answer (status : UInt8) : Complete (some .zbZdoEndDeviceBindHandler)
      ((zbZdoEndDeviceBindResp frame status).map (ranOn .zbZdoEndDeviceBindHandler)) :=
    complete_ran_iff.2 (answered_ends (by decide))
  rw [zbZdoEndDeviceBindHandler, EndDeviceBindFits]
  cases readEndDeviceBind c.build frame.toBody with
  | none => exact iff_of_true (answer _) nofun
  | some fields =>
      simp only [Option.mem_some_iff, forall_eq']
      by_cases valid : validEndpoint (endDeviceBindReq fields) = true
      swap
      · rw [if_pos valid]
        exact iff_of_true (answer _) fun is => absurd is valid
      rw [if_neg (not_not.2 valid), forall_prop_of_true valid]
      by_cases waits : c.endDeviceBind.ctx.dev1.endDeviceBindParam = zbUndefinedBuffer
      · rw [if_pos waits]
        exact iff_of_true ⟨fun _ is => by rw [Option.mem_some.1 is]; rfl, _, rfl, trivial⟩
          fun some_ => absurd waits some_
      rw [if_neg waits, forall_prop_of_true waits]
      by_cases busy : c.endDeviceBind.ctx.dev2.endDeviceBindParam = zbUndefinedBuffer
      · rw [if_neg (not_not.2 busy), forall_prop_of_true busy]
        exact matchBind_complete c frame _
      · rw [if_pos busy]
        exact iff_of_true (answer _) fun is => absurd is busy

end Management

/-! ## Announcements and responses -/

section Responses

variable (c : ZdoRxContext) (frame : ZdoFrame)

theorem annce_ends : Ends (zdoDeviceAnnceSrv c frame) ↔
    ∃ left, zdoDeviceInfoUpd (ieeeAt (frame.begin_ + 3) frame.mem) frame.nwkAddr frame.macSrc
      c.locks.nwk = .ok left := by
  have freed : Ends (.ok [.freed]) := ends_one trivial
  rw [zdoDeviceAnnceSrv, asserted_ends]
  exact exists_congr fun left => (and_iff_left freed).trans DeviceInfo.toOption_eq_some

theorem cutTsn_ends {rest : Except ZdoStop (List BufferEnd)} :
    Ends (cutTsn frame rest) ↔ frame.len ≠ 0 ∧ Ends rest := by
  rw [cutTsn]
  by_cases empty : frame.len = 0
  · rw [if_pos empty]
    exact iff_of_false not_ends_error fun both => both.1 empty
  · rw [if_neg empty, and_iff_right empty]

/-- Nobody waits for a response exactly when no entry is found for it. -/
theorem afResp_missed (tsn : UInt8) (s : ZdoCtx) :
    (zdoAfResp tsn s).2 = none ↔ findZdoCb tsn s = none := by
  rw [zdoAfResp]
  cases found : findZdoCb tsn s with
  | none => simp
  | some i =>
      have waits := (probe_some found).2
      obtain ⟨func, there⟩ := Option.isSome_iff_exists.1 (waitsFor_iff.1 waits).2
      show (s.zdoCb i).func = none ↔ some i = none
      rw [there]
      exact iff_of_false (by simp) (by simp)

/-- The rest of a response, when nobody waits for it. -/
theorem afResp_ends {missed : Except ZdoStop (List BufferEnd)} :
    Ends (afResp c frame missed) ↔
      frame.len ≠ 0 ∧ (findZdoCb frame.tsn c.zdo = none → Ends missed) := by
  rw [afResp, cutTsn_ends, ← afResp_missed]
  refine and_congr_right fun _ => ?_
  cases (zdoAfResp frame.tsn c.zdo).2 with
  | none => exact ⟨fun one _ => one, fun one => one rfl⟩
  | some cb => exact iff_of_true (ends_one trivial) nofun

theorem discoveryResp_ends :
    Ends (systemServerDiscoveryResp c frame) ↔ DiscoveryRespFits c frame := by
  rw [systemServerDiscoveryResp, cutTsn_ends, DiscoveryRespFits]
  refine and_congr_right fun _ => ?_
  by_cases ours : frame.tsn = c.zdo.systemServerDiscoveryTsn
  · rw [if_pos ours, and_iff_right ours]
    cases c.zdo.systemServerDiscoveryCb with
    | none =>
        refine iff_of_false ?_ Bool.false_ne_true
        rintro ⟨place, ⟨⟩, sound⟩
        exact sound
    | some cb => exact iff_of_true (ends_one trivial) rfl
  · rw [if_neg ours]
    refine iff_of_false ?_ fun both => ours both.1
    rintro ⟨place, ⟨⟩, sound⟩
    exact sound

/-- **A report that changes the channel** goes on when the channel is found in its own number. -/
theorem changeChannel_ends : Ends (changeChannelEnds c frame) ↔ ReportFits c frame := by
  rw [changeChannelEnds, zdoChangeChannel, ReportFits]
  cases decides c.channelManager (updateNotify frame) with
  | none => exact iff_of_true (ends_one trivial) fun _ found => absurd found (Option.not_mem_none _)
  | some channel =>
      have long : ¬ zbZdoNewActiveChannel ≤ zbZdoMaxScanDuration := by decide
      have noMask : zbZdoNewActiveChannel ≠ zbZdoNewChannelMask := by decide
      simp only [zbZdoMgmtNwkUpdateReq, changeReq, if_neg long, if_neg noMask, if_true,
        Option.mem_some_iff, forall_eq']
      cases firstChannel c.beyond channel.toUInt32 with
      | none => exact iff_of_false not_ends_error Bool.false_ne_true
      | some i => exact iff_of_true (ends_one trivial) rfl

end Responses

/-! ## The dispatcher -/

section Dispatched

variable {c : ZdoRxContext} {frame : ZdoFrame}

/-- The requests that a server handler is for. -/
def serverClids : List UInt16 :=
  [zdoNodeDescReqClid, zdoPowerDescReqClid, zdoSimpleDescReqClid, zdoNwkAddrReqClid,
    zdoIeeeAddrReqClid, zdoActiveEpReqClid, zdoMatchDescReqClid, zdoSystemServerDiscoveryReqClid,
    zdoMgmtLqiReqClid, zdoMgmtLeaveReqClid, zdoMgmtNwkUpdateReqClid, zdoBindReqClid,
    zdoUnbindReqClid, zdoEndDeviceBindReqClid, zdoMgmtPermitJoiningClid]

theorem serverHandler_other {id : UInt16} (other : id ∉ serverClids) :
    serverHandler c id = none := by
  simp only [serverClids, List.mem_cons, List.not_mem_nil, or_false, not_or] at other
  simp [serverHandler, other]

/-- A handler that works on the buffer of the frame. -/
theorem heard_iff (h : ServerHandler) {ends : Except ZdoStop (List BufferEnd)} {cond : Prop}
    (one : Ends ends ↔ cond) (for_ : serverHandler c frame.clusterid = some h)
    (fits : Fits c frame ↔ cond) :
    Complete (serverHandler c frame.clusterid) (ends.map (ranOn h)) ↔ Fits c frame := by
  rw [for_, fits, ← one]
  exact complete_ran_iff

/-- A cluster without a handler. -/
theorem unheard_iff {ends : Except ZdoStop (List BufferEnd)} {cond : Prop}
    (one : Ends ends ↔ cond) (fits : Fits c frame ↔ cond) :
    Complete none (ends.map noneRan) ↔ Fits c frame := by
  rw [fits, ← one]
  exact complete_none_iff fun _ => rfl

/-- **Permit joining**, on a device that is no router, is left where it is. -/
theorem permit_iff (is : frame.clusterid = zdoMgmtPermitJoiningClid) :
    Complete (serverHandler c frame.clusterid)
      (if c.routerRole = false then (Except.ok []).map noneRan
      else if c.joinedPro = true then (Except.ok [.freed]).map noneRan
      else (zbZdoMgmtPermitJoiningHandle frame).map (ranOn .zbZdoMgmtPermitJoiningHandle)) ↔
        c.routerRole = true := by
  cases router : c.routerRole with
  | false =>
      refine iff_of_false ?_ Bool.false_ne_true
      rintro ⟨-, place, none_, -⟩
      cases none_
  | true =>
      rw [if_neg (Bool.noConfusion : ¬ true = false)]
      cases pro : c.joinedPro with
      | true =>
          have none_ : serverHandler c frame.clusterid = none := by
            simp +decide [serverHandler, is, pro]
          rw [none_, if_pos rfl]
          exact iff_of_true ((complete_none_iff fun _ => rfl).2 (ends_one trivial)) rfl
      | false =>
          have for_ : serverHandler c frame.clusterid = some .zbZdoMgmtPermitJoiningHandle := by
            simp +decide [serverHandler, is, pro, router]
          rw [for_]
          have one : Ends (zbZdoMgmtPermitJoiningHandle frame) := ends_one trivial
          exact iff_of_true (complete_ran_iff.2 one) rfl

/-- **The descriptors** are dropped with the clusters nobody knows. -/
theorem descriptor_iff
    (is : frame.clusterid = zdoNodeDescReqClid ∨ frame.clusterid = zdoPowerDescReqClid) :
    Complete (serverHandler c frame.clusterid)
      (if isAfResp frame.clusterid = true then (afResp c frame (.ok [.freed])).map noneRan
      else if frame.clusterid = zdoSystemServerDiscoveryRespClid then
        (systemServerDiscoveryResp c frame).map noneRan
      else if frame.clusterid = zdoMgmtNwkUpdateNotifyClid then
        (afResp c frame (changeChannelEnds c frame)).map noneRan
      else (Except.ok [.freed]).map noneRan) ↔ Fits c frame := by
  have for_ : serverHandler c frame.clusterid = some .zdoSendDescResp := by
    simp [serverHandler, is]
  have never : ¬ Fits c frame := by
    simp [Fits, is]
  have noResp : isAfResp frame.clusterid ≠ true ∧
      frame.clusterid ≠ zdoSystemServerDiscoveryRespClid ∧
        frame.clusterid ≠ zdoMgmtNwkUpdateNotifyClid := by
    rcases is with is | is
    · rw [is]
      decide
    · rw [is]
      decide
  obtain ⟨noResp, noDiscovery, noNotify⟩ := noResp
  rw [if_neg noResp, if_neg noDiscovery, if_neg noNotify, for_]
  refine iff_of_false ?_ never
  rintro ⟨ran, -⟩
  cases ran _ rfl

/-- **The clusters without a server handler**: the responses, and what is not known. -/
theorem response_iff (other : frame.clusterid ∉ serverClids)
    (noAnnce : frame.clusterid ≠ zdoDeviceAnnceClid) :
    Complete none
      (if isAfResp frame.clusterid = true then (afResp c frame (.ok [.freed])).map noneRan
      else if frame.clusterid = zdoSystemServerDiscoveryRespClid then
        (systemServerDiscoveryResp c frame).map noneRan
      else if frame.clusterid = zdoMgmtNwkUpdateNotifyClid then
        (afResp c frame (changeChannelEnds c frame)).map noneRan
      else (Except.ok [.freed]).map noneRan) ↔ Fits c frame := by
  -- the condition is that of the responses
  have fits : Fits c frame ↔
      if isAfResp frame.clusterid then frame.len ≠ 0
      else if frame.clusterid = zdoSystemServerDiscoveryRespClid then DiscoveryRespFits c frame
      else if frame.clusterid = zdoMgmtNwkUpdateNotifyClid then
        frame.len ≠ 0 ∧ (findZdoCb frame.tsn c.zdo = none → ReportFits c frame)
      else True := by
    simp only [serverClids, List.mem_cons, List.not_mem_nil, or_false, not_or] at other
    simp only [Fits, other, noAnnce, or_self, if_false]
  by_cases resp : isAfResp frame.clusterid = true
  · rw [if_pos resp] at fits ⊢
    exact unheard_iff ((afResp_ends c frame).trans (and_iff_left fun _ => ends_one trivial)) fits
  rw [if_neg resp] at fits ⊢
  by_cases discoveryResp : frame.clusterid = zdoSystemServerDiscoveryRespClid
  · rw [if_pos discoveryResp] at fits ⊢
    exact unheard_iff (discoveryResp_ends c frame) fits
  rw [if_neg discoveryResp] at fits ⊢
  by_cases notify : frame.clusterid = zdoMgmtNwkUpdateNotifyClid
  · rw [if_pos notify] at fits ⊢
    refine unheard_iff ((afResp_ends c frame).trans ?_) fits
    rw [changeChannel_ends]
  · rw [if_neg notify] at fits ⊢
    exact unheard_iff (iff_of_true (ends_one trivial) trivial) fits

/-- An announcement on a device that does not take it is dropped. -/
theorem annceOther_iff (is : frame.clusterid = zdoDeviceAnnceClid)
    (untaken : ¬ (c.routerRole = true ∧ frame.clusterid = zdoDeviceAnnceClid ∧ c.joinedPro = false)) :
    Complete none
      (if isAfResp frame.clusterid = true then (afResp c frame (.ok [.freed])).map noneRan
      else if frame.clusterid = zdoSystemServerDiscoveryRespClid then
        (systemServerDiscoveryResp c frame).map noneRan
      else if frame.clusterid = zdoMgmtNwkUpdateNotifyClid then
        (afResp c frame (changeChannelEnds c frame)).map noneRan
      else (Except.ok [.freed]).map noneRan) ↔ Fits c frame := by
  have fits : AnnceFits c frame := fun router noPro => absurd ⟨router, is, noPro⟩ untaken
  have noResp : isAfResp frame.clusterid ≠ true ∧
      frame.clusterid ≠ zdoSystemServerDiscoveryRespClid ∧
        frame.clusterid ≠ zdoMgmtNwkUpdateNotifyClid := by
    rw [is]
    decide
  rw [if_neg noResp.1, if_neg noResp.2.1, if_neg noResp.2.2]
  exact unheard_iff (iff_of_true (ends_one trivial) fits) (by simp +decide [Fits, is])

end Dispatched

/-- **A frame is handled once, and its buffer ends in one place**, if and only if it fits. -/
theorem complete_iff (c : ZdoRxContext) (frame : ZdoFrame) :
    Complete (serverHandler c frame.clusterid) (zbZdoDataIndication c frame) ↔ Fits c frame := by
  rw [zbZdoDataIndication]
  dsimp only
  by_cases annce : c.routerRole = true ∧ frame.clusterid = zdoDeviceAnnceClid ∧ c.joinedPro = false
  · have none_ : serverHandler c frame.clusterid = none := by
      simp +decide [serverHandler, annce.2.1]
    have fits : Fits c frame ↔ AnnceFits c frame := by simp +decide [Fits, annce.2.1]
    rw [if_pos annce, none_, fits, AnnceFits, forall_prop_of_true annce.1,
      forall_prop_of_true annce.2.2, ← annce_ends]
    exact complete_none_iff fun _ => rfl
  rw [if_neg annce]
  have notBoth : ¬ (frame.clusterid = zdoNodeDescReqClid ∧ frame.clusterid = zdoPowerDescReqClid) :=
    fun both => absurd (both.1.symm.trans both.2) (by decide)
  rw [if_neg notBoth]
  by_cases simpleDesc : frame.clusterid = zdoSimpleDescReqClid
  · rw [if_pos simpleDesc]
    exact heard_iff _ (simpleDesc_ends c frame) (by simp +decide [serverHandler, simpleDesc])
      (by simp +decide [Fits, simpleDesc])
  rw [if_neg simpleDesc]
  by_cases nwkAddr : frame.clusterid = zdoNwkAddrReqClid
  · rw [if_pos nwkAddr]
    exact heard_iff _ (nwkAddr_ends c frame) (by simp +decide [serverHandler, nwkAddr])
      (by simp +decide [Fits, nwkAddr])
  rw [if_neg nwkAddr]
  by_cases ieeeAddr : frame.clusterid = zdoIeeeAddrReqClid
  · rw [if_pos ieeeAddr]
    exact heard_iff _ (ieeeAddr_ends c frame) (by simp +decide [serverHandler, ieeeAddr])
      (by simp +decide [Fits, ieeeAddr])
  rw [if_neg ieeeAddr]
  by_cases activeEp : frame.clusterid = zdoActiveEpReqClid
  · rw [if_pos activeEp]
    exact heard_iff _ (activeEp_ends c frame) (by simp +decide [serverHandler, activeEp])
      (by simp +decide [Fits, activeEp])
  rw [if_neg activeEp]
  by_cases matchDesc : frame.clusterid = zdoMatchDescReqClid
  · rw [if_pos matchDesc]
    exact heard_iff _ (matchDesc_ends c frame) (by simp +decide [serverHandler, matchDesc])
      (by simp +decide [Fits, matchDesc])
  rw [if_neg matchDesc]
  by_cases update : frame.clusterid = zdoMgmtNwkUpdateReqClid
  · rw [if_pos update]
    exact heard_iff _ (update_ends_iff c frame) (by simp +decide [serverHandler, update])
      (by simp +decide [Fits, update])
  rw [if_neg update]
  by_cases discovery : frame.clusterid = zdoSystemServerDiscoveryReqClid
  · rw [if_pos discovery]
    exact heard_iff _ (iff_of_true (discovery_ends c frame) trivial)
      (by simp +decide [serverHandler, discovery]) (by simp +decide [Fits, isAfResp, discovery])
  rw [if_neg discovery]
  by_cases lqi : frame.clusterid = zdoMgmtLqiReqClid
  · rw [if_pos lqi]
    exact heard_iff _ (lqi_ends c frame) (by simp +decide [serverHandler, lqi])
      (by simp +decide [Fits, lqi])
  rw [if_neg lqi]
  by_cases leave : frame.clusterid = zdoMgmtLeaveReqClid
  · rw [if_pos leave]
    exact heard_iff _ (iff_of_true (leave_ends c frame) trivial)
      (by simp +decide [serverHandler, leave]) (by simp +decide [Fits, isAfResp, leave])
  rw [if_neg leave]
  by_cases bind : frame.clusterid = zdoBindReqClid
  · rw [if_pos bind]
    exact heard_iff _ (bind_ends c frame true) (by simp +decide [serverHandler, bind])
      (by simp +decide [Fits, bind])
  rw [if_neg bind]
  by_cases unbind : frame.clusterid = zdoUnbindReqClid
  · rw [if_pos unbind]
    exact heard_iff _ (bind_ends c frame false) (by simp +decide [serverHandler, unbind])
      (by simp +decide [Fits, unbind])
  rw [if_neg unbind]
  by_cases endDeviceBind : frame.clusterid = zdoEndDeviceBindReqClid
  · have for_ : serverHandler c frame.clusterid = some .zbZdoEndDeviceBindHandler := by
      simp +decide [serverHandler, endDeviceBind]
    have fits : Fits c frame ↔ EndDeviceBindFits c frame := by
      simp +decide [Fits, endDeviceBind]
    rw [if_pos endDeviceBind, for_, fits]
    exact endDeviceBind_complete c frame
  rw [if_neg endDeviceBind]
  by_cases permit : frame.clusterid = zdoMgmtPermitJoiningClid
  · have fits : Fits c frame ↔ c.routerRole = true := by simp +decide [Fits, permit]
    rw [if_pos permit, fits]
    exact permit_iff permit
  rw [if_neg permit]
  -- what is left has no handler, or one that is never called
  by_cases descriptor : frame.clusterid = zdoNodeDescReqClid ∨ frame.clusterid = zdoPowerDescReqClid
  · exact descriptor_iff descriptor
  have other : frame.clusterid ∉ serverClids := by
    simp only [serverClids, List.mem_cons, List.not_mem_nil, or_false]
    tauto
  rw [serverHandler_other other]
  by_cases annceOther : frame.clusterid = zdoDeviceAnnceClid
  · exact annceOther_iff annceOther annce
  · exact response_iff other annceOther

/-! ## Poles -/

/-- **The node descriptor is not heard of**: a request for it is dropped as one of an unknown
cluster. -/
theorem node_desc_unheard :
    ¬ ∀ c frame, Complete (serverHandler c frame.clusterid) (zbZdoDataIndication c frame) := by
  intro always
  have dropped : zbZdoDataIndication quietRouter
      (fromCoordinator zdoNodeDescReqClid [1, 0] (by decide)) = .ok ⟨[], [.freed], []⟩ := by
    decide +kernel
  have complete := always quietRouter (fromCoordinator zdoNodeDescReqClid [1, 0] (by decide))
  rw [dropped] at complete
  cases complete.ran _ rfl

/-- The endpoint is found by one of its input clusters. -/
example : zbZdoDataIndication quietRouter
    (fromCoordinator zdoMatchDescReqClid [1, 0, 4, 1, 1, 6, 0, 0] (by decide)) =
      .ok (ranOn .zdoMatchDescRes [.responded ⟨zdoMatchDescRespClid, 0, [5, 0, 1, 0, 1, 1]⟩]) := by
  decide +kernel

/-- Before this device has asked for servers itself, a response with number 0 calls `NULL`. -/
example : zbZdoDataIndication quietRouter
    ((fromCoordinator zdoSystemServerDiscoveryRespClid [0, 0, 0] (by decide)).asking 0 0) =
      .ok ⟨[], [.callback none], []⟩ := by
  decide +kernel

end Zboss.Zdo.Dispatch
