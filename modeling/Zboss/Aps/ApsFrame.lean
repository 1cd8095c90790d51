/-
# Aps.ApsFrame -- APS headers, and the table of frames that wait for their ACK

Four layouts are written by hand: a data header (`apsDataHdrFillDatareq`), a command
header, an acknowledgement (`apsAckSendHandle`), and the parser that reads all of them
(`zbApsHdrParse`).  A frame is the list of its bytes; a field the parser does not read
keeps what its memory held.  The request is a value: a payload so long that making room
for the header moves it over the request in the tail of the buffer is longer than any
frame.

The frame of an acknowledged request is recorded in `hash` until its acknowledgement
comes (`saveAckData`, `apsAckFrameHandle`).  The alarms, and the copy of a group frame for
the device itself, are left out.
-/
import Mathlib
import Zboss.Common.Constants
import Zboss.Common.PacketBuf
import Zboss.Aps.Bind
import Zboss.Aps.Dups

namespace Zboss.Aps.ApsFrame

open Zboss.Common.Constants
open Zboss.Common.Types
open Zboss.Common.Address
open Zboss.Common.PacketBuf
open Zboss.Aps.Bind
open Zboss.Aps.Dups hiding ZbApsHdr

set_option autoImplicit false

/-! ## Frame control -/

def zbApsFcGetAckFormat (fc : UInt8) : UInt8 := fc >>> 4 &&& 1
def zbApsFcGetSecurity (fc : UInt8) : UInt8 := fc >>> 5 &&& 1
def zbApsFcGetAckRequest (fc : UInt8) : UInt8 := fc >>> 6 &&& 1
def zbApsFcSetFrameType (fc t : UInt8) : UInt8 := fc ||| t
def zbApsFcSetDeliveryMode (fc m : UInt8) : UInt8 := fc ||| m <<< 2
def zbApsFcSetAckFormat (fc f : UInt8) : UInt8 := fc ||| f <<< 4
def zbApsFcSetAckRequest (fc f : UInt8) : UInt8 := fc ||| f <<< 6

/-- `ZB_APS_FC_SET_COMMAND`: frame type, ack request, ack format. -/
def zbApsFcSetCommand (fc needAck : UInt8) : UInt8 :=
  fc ||| (zbApsFrameCommand ||| needAck <<< 6 ||| (1 : UInt8) <<< 4)

def zbApsFrameAck : UInt8 := 2
/-- `ZB_APS_HDR_SIZE`. -/
def zbApsHdrSize (fc : UInt8) : Nat :=
  2 + if zbApsFcGetFrameType fc = zbApsFrameCommand then 0
    else 1 + (if zbApsFcGetDeliveryMode fc = zbApsDeliveryGroup then 1 else 0) + 2 + 2 + 1

/-! ## Reading a header -/

/-- Parsed APS header. -/
structure ZbApsHdr where
  fc : UInt8
  srcAddr : UInt16
  dstAddr : UInt16
  groupAddr : UInt16
  dstEndpoint : UInt8
  srcEndpoint : UInt8
  clusterid : UInt16
  profileid : UInt16
  apsCounter : UInt8
  deriving DecidableEq

/-- The header at the beginning of `p`, behind a NWK header with these addresses, and the
number of bytes it has been read from; `stack` is what the memory of the result held. -/
def zbApsHdrParse (stack : ZbApsHdr) (srcAddr dstAddr : UInt16) (p : List UInt8) : ZbApsHdr × Nat :=
  let fc := p.getD 0 0
  let hdr := { stack with fc := fc, srcAddr := srcAddr, dstAddr := dstAddr, srcEndpoint := 0xFF }
  let (hdr, at_) :=
    if zbApsFcGetAckFormat fc = 0 then
      let (hdr, at_) :=
        if zbApsFcGetDeliveryMode fc ≠ zbApsDeliveryGroup then
          ({ hdr with dstEndpoint := p.getD 1 0 }, 2)
        else ({ hdr with groupAddr := uint16At 1 p }, 3)
      ({ hdr with
          clusterid := uint16At at_ p
          profileid := uint16At (at_ + 2) p
          srcEndpoint := p.getD (at_ + 4) 0 }, at_ + 5)
    else (hdr, 1)
  ({ hdr with apsCounter := p.getD at_ 0 }, at_ + 1)

/-! ## Requests -/

inductive ZbApsAddrMode where
  | dstAddrEndpNotPresent
  | group16EndpNotPresent
  | endpPresent16
  | endpPresent64
  deriving DecidableEq

/-- `zb_apsde_data_req_t`; the union of addresses is its eight bytes. -/
structure ZbApsdeDataReq where
  dstAddr : ZbIeeeAddr
  profileid : UInt16
  clusterid : UInt16
  dstEndpoint : UInt8
  srcEndpoint : UInt8
  radius : UInt8
  addrMode : ZbApsAddrMode
  txOptions : UInt8

def ZbApsdeDataReq.addrShort (req : ZbApsdeDataReq) : UInt16 := uint16At 0 req.dstAddr.toList

/-- The short address is written over the first two bytes. -/
def ZbApsdeDataReq.setAddrShort (req : ZbApsdeDataReq) (addr : UInt16) : ZbApsdeDataReq :=
  { req with dstAddr := (req.dstAddr.setIfInBounds 0 addr.toUInt8).setIfInBounds 1 (addr >>> 8).toUInt8 }

def zbApsdeTxOptAckTx : UInt8 := 4

inductive RetransState where
  | free
  | sentMacNotConfirmed
  | sentMacNotConfirmedApsAcked
  | sentMacConfirmed
  deriving DecidableEq

structure ZbApsRetransEnt where
  addr : UInt16
  clusterid : UInt16
  apsCounter : UInt8
  srcEndpoint : UInt8
  dstEndpoint : UInt8
  buf : UInt8
  /-- Five bits. -/
  apsRetries : UInt8
  nwkInsecure : Bool
  state : RetransState
  deriving DecidableEq

def zbNApsRetransEntries : Nat := 10
def zbNApsMaxFrameEntries : UInt8 := 3

structure ApsState where
  apsCounter : UInt8
  hash : Nat → ZbApsRetransEnt
  addr : ZbAddrGlobals
  binding : ZbApsBindingTable

/-! ## Writing a header -/

/-- Fill APS header for data request. -/
def apsDataHdrFillDatareq (fc : UInt8) (req : ZbApsdeDataReq) (apsCounter : UInt8) : List UInt8 :=
  [fc] ++
    (if zbApsFcGetDeliveryMode fc = zbApsDeliveryGroup then uint16Bytes req.addrShort
      else [req.dstEndpoint]) ++
    uint16Bytes req.clusterid ++ uint16Bytes req.profileid ++ [req.srcEndpoint, apsCounter]

/-- The acknowledgement of a frame. -/
def apsAckSendHandle (hdr : ZbApsHdr) : List UInt8 :=
  let fc := zbApsFcSetFrameType 0 zbApsFrameAck
  if zbApsFcGetFrameType hdr.fc ≠ zbApsFrameCommand then
    [zbApsFcSetAckFormat fc 0, hdr.srcEndpoint] ++ uint16Bytes hdr.clusterid ++
      uint16Bytes hdr.profileid ++ [hdr.dstEndpoint, hdr.apsCounter]
  else [zbApsFcSetAckFormat fc 1, hdr.apsCounter]

/-- An APS command without APS security: header and command. -/
def apsCommandHdr (needAck apsCounter command : UInt8) : List UInt8 :=
  [zbApsFcSetCommand 0 needAck, apsCounter, command]

/-! ## The table -/

def setEnt (hash : Nat → ZbApsRetransEnt) (i : Nat) (ent : ZbApsRetransEnt) : Nat → ZbApsRetransEnt :=
  Function.update hash i ent

/-- The first free entry. -/
def freeEnt (hash : Nat → ZbApsRetransEnt) : Option Nat :=
  (List.range zbNApsRetransEntries).find? fun i => (hash i).state == .free

/-- What becomes of `ent` when a request is recorded in it; in a group mode the address
stays. -/
def recordReq (param : UInt8) (req : ZbApsdeDataReq) (apsCounter : UInt8) (ent : ZbApsRetransEnt) :
    ZbApsRetransEnt where
  addr := if req.addrMode = .group16EndpNotPresent then ent.addr else req.addrShort
  clusterid := req.clusterid
  apsCounter := apsCounter - 1
  srcEndpoint := req.srcEndpoint
  dstEndpoint := req.dstEndpoint
  buf := param
  nwkInsecure := false
  apsRetries := zbNApsMaxFrameEntries
  state := .sentMacNotConfirmed

/-- `save_ack_data`: the table, the entry if one was free, and the status.  The status is
that of a full table when the last entry has been taken, not when none was free. -/
def saveAckData (param : UInt8) (req : ZbApsdeDataReq) (s : ApsState) :
    ApsState × Option Nat × Except ZbRet Unit :=
  match freeEnt s.hash with
  | some i =>
      ({ s with hash := setEnt s.hash i (recordReq param req s.apsCounter (s.hash i)) }, some i,
        if i = zbNApsRetransEntries - 1 then .error .tableFull else .ok ())
  | none => (s, none, .ok ())

/-- The acknowledgement is for the frame of this entry. -/
def matchesAck (ent : ZbApsRetransEnt) (hdr : ZbApsHdr) : Bool :=
  ent.addr == hdr.srcAddr && ent.apsCounter == hdr.apsCounter &&
    (zbApsFcGetAckFormat hdr.fc != 0 ||
      (ent.clusterid == hdr.clusterid && ent.srcEndpoint == hdr.dstEndpoint &&
        ent.dstEndpoint == hdr.srcEndpoint))

/-- The entry `aps_ack_frame_handle` stops at. -/
def ackedEnt (hash : Nat → ZbApsRetransEnt) (hdr : ZbApsHdr) : Option Nat :=
  (List.range zbNApsRetransEntries).find? fun i => matchesAck (hash i) hdr

/-! ## Sending -/

/-- What becomes of a request. -/
inductive DataReqOutcome where
  /-- The short address of the peer is asked for. -/
  | waitsForPeer (ref : Nat)
  /-- Confirmed at once: there is no bound device. -/
  | noBoundDevice
  /-- Confirmed at once, with the header written and an entry taken. -/
  | refused (hdr : List UInt8) (recorded : Option Nat)
  /-- Passed to NWK; `recorded` is the entry that waits for the acknowledgement. -/
  | sent (hdr : List UInt8) (dstAddr : UInt16) (recorded : Option Nat)

/-- The scan of the destinations for the first one of a source. -/
def dstScan (t : ZbApsBindingTable) (ind : Nat) : Nat → Nat → Option ZbApsBindDstTable
  | 0, _ => none
  | fuel + 1, i =>
      if (t.dstTable i).srcTableIndex = ind then some (t.dstTable i)
      else if i + 1 < t.dstNElements then dstScan t ind fuel (i + 1)
      else none

/-- `zb_search_dst_in_binding_table`: the device and the endpoint the source is bound to. -/
def zbSearchDstInBindingTable (pibShortAddress : UInt16) (req : ZbApsdeDataReq) (s : ApsState) :
    Option (ApsState × Option (Nat × UInt8)) := do
  let (addr, found) ← zbAddressByShort pibShortAddress false false s.addr
  let s := { s with addr }
  match found with
  | .error _ => return (s, none)
  | .ok addrRef =>
      let ind := apsFindSrcRef s.binding ⟨addrRef, req.srcEndpoint, req.clusterid⟩
      if ind = 255 then return (s, none)
      else
        match dstScan s.binding ind 256 0 with
        | some ⟨.long ref dstEnd, _⟩ => return (s, some (ref, dstEnd))
        | _ => return (s, none)

def isBroadcast16 (addr : UInt16) : Bool :=
  addr == 0xFFFF || addr == 0xFFFD || addr == 0xFFFC || addr == 0xFFFB

/-- Where a request goes: the frame control so far, the NWK destination, and the request
as it is now. -/
inductive Route where
  | waitsForPeer (ref : Nat)
  | noBoundDevice
  | to (fc : UInt8) (dstAddr : UInt16) (req : ZbApsdeDataReq)

def routeReq (pibShortAddress : UInt16) (req : ZbApsdeDataReq) (s : ApsState) :
    Option (ApsState × Route) :=
  match req.addrMode with
  | .dstAddrEndpNotPresent => do
      let (s, bound) ← zbSearchDstInBindingTable pibShortAddress req s
      match bound with
      | none => return (s, .noBoundDevice)
      | some (ref, dstEnd) =>
          let dstAddr := (s.addr.addrMap ref).addr
          if dstAddr = zbUnknownShortAddr then return (s, .waitsForPeer ref)
          else return (s, .to (zbApsFcSetDeliveryMode 0 zbApsDeliveryUnicast) dstAddr
            ({ req with dstEndpoint := dstEnd }.setAddrShort dstAddr))
  | .group16EndpNotPresent =>
      some (s, .to (zbApsFcSetDeliveryMode 0 zbApsDeliveryGroup) 0xFFFD
        { req with txOptions := req.txOptions &&& ~~~zbApsdeTxOptAckTx })
  | .endpPresent16 =>
      some (s, .to (zbApsFcSetDeliveryMode 0
        (if isBroadcast16 req.addrShort then zbApsDeliveryBroadcast else zbApsDeliveryUnicast))
        req.addrShort req)
  | .endpPresent64 => do
      let (addr, dstAddr) ← zbAddressShortByIeee req.dstAddr s.addr
      return ({ s with addr }, .to (zbApsFcSetDeliveryMode 0 zbApsDeliveryUnicast) dstAddr
        (req.setAddrShort dstAddr))

/-- The header is written, and an acknowledged request recorded. -/
def sendReq (param fc : UInt8) (dstAddr : UInt16) (req : ZbApsdeDataReq) (s : ApsState) :
    ApsState × DataReqOutcome :=
  if req.txOptions &&& zbApsdeTxOptAckTx ≠ 0 then
    let hdr := apsDataHdrFillDatareq (zbApsFcSetAckRequest fc 1) req s.apsCounter
    let (s, recorded, ret) := saveAckData param req { s with apsCounter := s.apsCounter + 1 }
    match ret with
    | .error _ => (s, .refused hdr recorded)
    | .ok _ => (s, .sent hdr dstAddr recorded)
  else
    ({ s with apsCounter := s.apsCounter + 1 },
      .sent (apsDataHdrFillDatareq fc req s.apsCounter) dstAddr none)

def zbApsdeDataRequest (pibShortAddress : UInt16) (param : UInt8) (req : ZbApsdeDataReq)
    (s : ApsState) : Option (ApsState × DataReqOutcome) := do
  let (s, route) ← routeReq pibShortAddress req s
  match route with
  | .waitsForPeer ref => return (s, .waitsForPeer ref)
  | .noBoundDevice => return (s, .noBoundDevice)
  | .to fc dstAddr req => return sendReq param fc dstAddr req s

def zbNwkIsAddressBroadcast (addr : UInt16) : Bool := addr &&& 0xFFF0 == 0xFFF0

/-- What becomes of `ent` when a command is recorded in it. -/
def recordCommand (param : UInt8) (destAddr : UInt16) (secure : Bool) (apsCounter : UInt8)
    (ent : ZbApsRetransEnt) : ZbApsRetransEnt :=
  { ent with
    addr := destAddr
    apsCounter := apsCounter
    buf := param
    nwkInsecure := !secure
    apsRetries := zbNApsMaxFrameEntries
    state := .sentMacNotConfirmed }

/-- A command to a device asks for an acknowledgement, but no key transport does
(`ZB_DISABLE_APS_ACK_REQ`). -/
def needsAck (destAddr : UInt16) (command : UInt8) : Bool :=
  if command = apsCmdTransportKey then false else !zbNwkIsAddressBroadcast destAddr

/-- `zb_aps_send_command`: the header, and the entry that waits for the acknowledgement. -/
def zbApsSendCommand (param : UInt8) (destAddr : UInt16) (command : UInt8) (secure : Bool)
    (s : ApsState) : ApsState × List UInt8 × Option Nat :=
  let needAck := needsAck destAddr command
  let recorded := if needAck then freeEnt s.hash else none
  ({ s with
      apsCounter := s.apsCounter + 1
      hash := match recorded with
        | some i => setEnt s.hash i (recordCommand param destAddr secure s.apsCounter (s.hash i))
        | none => s.hash },
    apsCommandHdr (if needAck then 1 else 0) s.apsCounter command, recorded)

end Zboss.Aps.ApsFrame
