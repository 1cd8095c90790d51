/-
# Secur.ReceivePath -- a received frame through its headers

The way of a frame from `zb_mcps_data_indication` to what is behind its APS header, with a
check at each place where the source relies on the length of a header, on the length of a
payload, or on an address reference (`HeaderCheck`).  The source itself looks at none of
these, but for the four bytes of the MIC behind a secured NWK header.

* Every function is a step of its own.  A frame waits between two of them in its buffer,
  also where the source calls the next one directly (`RxTask`).
* Bytes are read from the memory behind the beginning of the data, whatever the length is.
* `zb_nwk_unsecure_frame` is that of `Secur.NwkFrame`, with its checks: `unsecureFrame_eq`.

Whether a broadcast is supported and new, whether a frame is a duplicate, and to which
endpoint a group frame goes are arguments of the steps.  What is relayed, the passive
acknowledgements, and the link quality are left out.  APS security is compiled in.
-/
import Mathlib
import Zboss.Common.Constants
import Zboss.Theory.Checks
import Zboss.Theory.Run
import Zboss.Common.PacketBufRun
import Zboss.Aps.ApsFrame
import Zboss.Nwk.RelayIndicate
import Zboss.Secur.NwkFrame

namespace Zboss.Secur.ReceivePath

open Zboss.Common.Constants
open Zboss.Theory.Checks
open Zboss.Theory.CcmStar
open Zboss.Common.Types
open Zboss.Common.Address
open Zboss.Common.PacketBuf
open Zboss.Common.PacketBufRun
open Zboss.Mac.Header
open Zboss.Nwk.Neighbor
open Zboss.Nwk.Header
open Zboss.Nwk.Broadcast
open Zboss.Nwk.RelayIndicate
open Zboss.Aps.ApsFrame
open Zboss.Aps.Dups hiding ZbApsHdr
open Zboss.Secur.KeyMaterial
open Zboss.Secur.NwkSecure
open Zboss.Secur.Ccm
open Zboss.Secur.NwkFrame

set_option autoImplicit false

/-- What the code relies on. -/
inductive HeaderCheck where
  /-- bytes are read at the end of headers of this size, or these are cut off -/
  | header (size remaining : Nat)
  /-- what is behind the headers is decrypted -/
  | payload (size remaining : Nat)
  /-- an address reference is used -/
  | addrRef (set : Bool)
  deriving DecidableEq

def HeaderCheck.Ok : HeaderCheck → Prop
  | .header size remaining => size ≤ remaining
  | .payload size remaining => size + zbCcmM ≤ remaining
  | .addrRef set => set = true

instance (c : HeaderCheck) : Decidable c.Ok :=
  match c with
  | .header size remaining => inferInstanceAs (Decidable (size ≤ remaining))
  | .payload size remaining => inferInstanceAs (Decidable (size + zbCcmM ≤ remaining))
  | .addrRef set => inferInstanceAs (Decidable (set = true))

abbrev Rx := Checked HeaderCheck

/-- The memory from the beginning of the data on. -/
def bytes (b : ZbBuf) : List UInt8 := b.buf.toList.drop b.begin_

/-- Write one byte behind the beginning of the data. -/
def setByte (at_ : Nat) (val : UInt8) (b : ZbBuf) : ZbBuf :=
  { b with buf := b.buf.setIfInBounds (b.begin_ + at_) val }

/-- Cut a header of a size that was calculated. -/
def cutHeader (size : Nat) (b : ZbBuf) : Rx ZbBuf := do
  check (.header size b.len.toNat)
  ofOption (zbBufCutLeft (UInt8.ofNat size) b)

/-! ## NWK -/

/-- `ZB_MAC_CUT_HDR`; the trailer has `tail` bytes. -/
def zbMacCutHdr (tail : UInt8) (hlen : Nat) (packet : ZbBuf) : Rx ZbBuf := do
  check (.header tail.toNat packet.len.toNat)
  let packet ← ofOption (zbBufCutRight tail packet)
  cutHeader hlen packet

section Unsecure

variable (aes128 : ZbKey → Block → Block) (stack : Vector UInt8 zbIoBufSize) (random : ZbKey)
  (mhr : ZbMacMhr) (mhrLen : Nat)

/-- `unsecureNeighborGet`. -/
def neighborGet (stackRef : Nat) (sourceAddress : ZbIeeeAddr) (srcAddr : UInt16) (s : RecvContext) :
    Rx (RecvContext × Except ZbRet Nat) := do
  let (addr, found) ← ofOption
    (if fcfGetSrcAddressingMode mhr.frameControl = zbAddr16bitDevOrBroadcast then
      zbAddressUpdate sourceAddress (addrShort mhr.srcAddr) false s.secur.addr
    else some (s.secur.addr, .ok stackRef))
  let s := { s with secur := { s.secur with addr } }
  match found with
  | .error e => return (s, .error e)
  | .ok addrRef => do
      -- with a long address nothing has been looked up
      check (.addrRef (fcfGetSrcAddressingMode mhr.frameControl == zbAddr16bitDevOrBroadcast))
      let (addr, neighbor, nbe) ← ofOption
        (zbNwkNeighborGet addrRef (srcAddr == addrShort mhr.srcAddr) s.depth s.secur.addr s.neighbor)
      return ({ s with secur := { s.secur with addr }, neighbor }, nbe)

/-- `ZB_BUF_LEN` less the headers, in 32 bits. -/
def payloadSize (nsdu : ZbBuf) (hdrSize : Nat) : Nat := (nsdu.len.toNat + 2 ^ 32 - hdrSize) % 2 ^ 32

/-- A frame whose sender is known. -/
def unsecureKnown (n hdrSize auxPos : Nat) (aux : ZbNwkAuxFrameHdr) (s : RecvContext) (nsdu : ZbBuf) :
    Rx (RecvContext × UnsecureOutcome) :=
  let checked := checkFreshness n aux.keySeqNumber aux.frameCounter s
  match checked.2 with
  | .error status => do
      let nsdu ← ofOption (zbSecurNwkStatus nsdu (addrShort mhr.srcAddr) status)
      return (checked.1, .failed nsdu [status])
  | .ok key => do
      if zbCcmM ≤ payloadSize nsdu hdrSize then check (.payload hdrSize nsdu.len.toNat)
      ofOption (unsecureDecrypt aes128 stack random mhr mhrLen n hdrSize auxPos key checked.1 nsdu)

/-- `zb_nwk_unsecure_frame`. -/
def unsecureFrame (stackRef : Nat) (s : RecvContext) (nsdu : ZbBuf) :
    Rx (RecvContext × UnsecureOutcome) :=
  if !s.secur.authenticated then return (s, .notAuthenticated)
  else do
    let nwkHdr ← ofOption (peek nsdu.buf nsdu.begin_ 8)
    let hdrSize := zbNwkHdrSize nwkHdr
    let auxPos := nsdu.begin_ + hdrSize - auxFrameHdrSize
    check (.header hdrSize nsdu.len.toNat)
    let aux ← ofOption (peek nsdu.buf auxPos auxFrameHdrSize)
    let (s, found) ← neighborGet mhr stackRef (auxAt aux).sourceAddress (nwhdrSrcAddr nwkHdr) s
    match found with
    | .error _ => do
        let nsdu ← ofOption (zbSecurNwkStatus nsdu (addrShort mhr.srcAddr) frameSecurityFailed)
        return (s, .failed nsdu [frameSecurityFailed])
    | .ok n => unsecureKnown aes128 stack random mhr mhrLen n hdrSize auxPos (auxAt aux) s nsdu

theorem neighborGet_eq (stackRef : Nat) (sourceAddress : ZbIeeeAddr) (srcAddr : UInt16)
    (s : RecvContext) : (neighborGet mhr stackRef sourceAddress srcAddr s).result =
      unsecureNeighborGet stackRef mhr sourceAddress srcAddr s := by
  simp only [neighborGet, unsecureNeighborGet, result_bind, result_ofOption, Option.bind_eq_bind]
  refine congrArg _ (funext fun r => ?_)
  obtain ⟨addr, found⟩ := r
  cases found with
  | error e => rfl
  | ok addrRef => simp

theorem unsecureKnown_eq (n hdrSize auxPos : Nat) (aux : ZbNwkAuxFrameHdr) (s : RecvContext)
    (nsdu : ZbBuf) :
    (unsecureKnown aes128 stack random mhr mhrLen n hdrSize auxPos aux s nsdu).result =
      (let checked := checkFreshness n aux.keySeqNumber aux.frameCounter s
      match checked.2 with
      | .error status => do
          let nsdu ← zbSecurNwkStatus nsdu (addrShort mhr.srcAddr) status
          return (checked.1, .failed nsdu [status])
      | .ok key =>
          unsecureDecrypt aes128 stack random mhr mhrLen n hdrSize auxPos key checked.1 nsdu) := by
  unfold unsecureKnown
  dsimp only
  cases (checkFreshness n aux.keySeqNumber aux.frameCounter s).2 with
  | error status => simp
  | ok key =>
      dsimp only
      split
      · rw [result_bind, result_check, Option.bind_some, result_ofOption]
      · rw [result_ofOption]

/-- **It is the function** of `Secur.NwkFrame`. -/
theorem unsecureFrame_eq (stackRef : Nat) (s : RecvContext) (nsdu : ZbBuf) :
    (unsecureFrame aes128 stack random mhr mhrLen stackRef s nsdu).result =
      zbNwkUnsecureFrame aes128 stack random mhr mhrLen stackRef s nsdu := by
  unfold unsecureFrame zbNwkUnsecureFrame
  cases s.secur.authenticated with
  | false => rfl
  | true =>
      simp only [Bool.not_true, Bool.false_eq_true, if_false, result_bind, result_check,
        result_ofOption, neighborGet_eq, Option.bind_eq_bind, Option.bind_some]
      refine congrArg _ (funext fun nwkHdr => congrArg _ (funext fun aux => congrArg _ ?_))
      funext r
      obtain ⟨s, found⟩ := r
      cases found with
      | error e => simp
      | ok n => exact unsecureKnown_eq aes128 stack random mhr mhrLen _ _ _ _ _ _

end Unsecure

/-! ## Tasks -/

/-- A frame that is delivered: the bytes of its headers and its trailer lie in the buffer. -/
structure ReceivedFrame where
  buf : ZbBuf
  inside : buf.begin_ + buf.len.toNat ≤ zbIoBufSize

/-- What the variables of the functions hold before they are set, and a key that may be drawn. -/
structure Locals where
  addrRef : Nat
  decryptedText : Vector UInt8 zbIoBufSize
  apsHdr : ZbApsHdr
  random : ZbKey

/-- What is done next with a frame. -/
inductive RxTask where
  | nwkFrameIndication (buf : ZbBuf)
  | nldeDataIndication (packet : ZbBuf)
  | nldeDataIndicationContinue (packet : ZbBuf)
  | apsUnsecureFrame (hdr : ZbApsHdr) (buf : ZbBuf)
  | apsInCommandHandle (packet : ZbBuf)
  | apsdeDataIndication (hdr : ZbApsHdr) (asdu : ZbBuf)

/-- `sizeof(zb_nwk_hdr_t)` without what is optional. -/
def nwkFixedHdrSize : Nat := 8

def isRouter (dev : RxDevice) : Bool :=
  dev.deviceType == zbNwkDeviceTypeCoordinator || dev.deviceType == zbNwkDeviceTypeRouter

/-- Radius and frame type; a broadcast goes on when it is `accepted`. -/
def goesOn (accepted : Bool) (nwkHdr : List UInt8) : Bool :=
  nwkHdr.getD 6 0 != 0 &&
    (frameCtlGetFrameType nwkHdr == zbNwkFrameTypeCommand ||
      frameCtlGetFrameType nwkHdr == zbNwkFrameTypeData) &&
    (accepted || !zbNwkIsAddressBroadcast (nwhdrDstAddr nwkHdr))

/-- The frame of a task. -/
def RxTask.buf : RxTask → ZbBuf
  | .nwkFrameIndication buf => buf
  | .nldeDataIndication packet => packet
  | .nldeDataIndicationContinue packet => packet
  | .apsUnsecureFrame _ buf => buf
  | .apsInCommandHandle packet => packet
  | .apsdeDataIndication _ asdu => asdu

section Tasks

variable (aes128 : ZbKey → Block → Block) (tail : UInt8) (dev : RxDevice)

/-- A frame that is in the clear; `nwkHdr` is its header as it came, of `hdrSize` bytes. -/
def indicateFrame (nwkHdr : List UInt8) (hdrSize : Nat) (buf : ZbBuf) : Rx (Option RxTask) := do
  let radius := (bytes buf).getD 6 0 - 1
  let buf := setByte 6 radius buf
  let dstAddr := nwhdrDstAddr nwkHdr
  if isRouter dev && zbNwkIsAddressBroadcast dstAddr then check (.header hdrSize buf.len.toNat)
  let commandId := (bytes buf).getD hdrSize 0
  let rx : RxFrame := ⟨dstAddr, radius, frameCtlGetFrameType nwkHdr, commandId⟩
  return if (decideFrame dev rx).1 then some (.nwkFrameIndication buf) else none

/-- `zb_mcps_data_indication`. -/
def zbMcpsDataIndication (buf : ZbBuf) (accepted : Bool) (locals : Locals) (s : RecvContext) :
    Rx (RecvContext × Option RxTask) := do
  let (macHdr, mhrSize) := zbParseMhr (bytes buf)
  let buf ← zbMacCutHdr tail mhrSize buf
  let nwkHdr := bytes buf
  let hdrSize := zbNwkHdrSize nwkHdr
  check (.header nwkFixedHdrSize buf.len.toNat)
  if !goesOn accepted nwkHdr then return (s, none)
  else if frameCtlGetSecurity nwkHdr ≠ 0 then do
    let (s, outcome) ← unsecureFrame aes128 locals.decryptedText locals.random macHdr mhrSize
      locals.addrRef s buf
    match outcome with
    | .unsecured buf _ => do
        let task ← indicateFrame dev nwkHdr hdrSize buf
        return (s, task)
    | _ => return (s, none)
  else do
    let task ← indicateFrame dev nwkHdr hdrSize buf
    return (s, task)

/-- The command handlers go on behind the identifier. -/
def nwkFrameIndication (buf : ZbBuf) : Rx (Option RxTask) := do
  let nwkHdr := bytes buf
  let hdrSize := zbNwkHdrSize nwkHdr
  if frameCtlGetFrameType nwkHdr = zbNwkFrameTypeData then return some (.nldeDataIndication buf)
  else if frameCtlGetFrameType nwkHdr = zbNwkFrameTypeCommand then do
    check (.header hdrSize buf.len.toNat)
    return none
  else return none

end Tasks

/-! ## APS -/

/-- `zb_aps_hdr_parse` behind a NWK header, which is cut off. -/
def apsHdrParse (stack : ZbApsHdr) (packet : ZbBuf) : Rx (ZbApsHdr × ZbBuf) := do
  let nwkHdr := bytes packet
  let packet ← cutHeader (zbNwkHdrSize nwkHdr) packet
  let (hdr, size) :=
    zbApsHdrParse stack (nwhdrSrcAddr nwkHdr) (nwhdrDstAddr nwkHdr) (bytes packet)
  check (.header size packet.len.toNat)
  return (hdr, packet)

/-- The acknowledgement that may be sent in between waits for a buffer. -/
def zbNldeDataIndication (stack : ZbApsHdr) (packet : ZbBuf) : Rx (Option RxTask) := do
  let hdrSize := zbNwkHdrSize (bytes packet)
  check (.header hdrSize packet.len.toNat)
  let fc := (bytes packet).getD hdrSize 0
  if zbApsFcGetFrameType fc = zbApsFrameAck then do
    let _ ← apsHdrParse stack packet
    return none
  else return some (.nldeDataIndicationContinue packet)

/-- `sizeof(zb_apsde_data_indication_t)`. -/
def zbApsdeDataIndicationSize : UInt8 := 14

/-- `zb_apsde_data_indication_t` in memory. -/
def apsdeDataIndicationBytes (hdr : ZbApsHdr) : Vector UInt8 zbApsdeDataIndicationSize.toNat :=
  ⟨([hdr.fc] ++ uint16Bytes hdr.srcAddr ++ uint16Bytes hdr.dstAddr ++ uint16Bytes hdr.groupAddr ++
    [hdr.dstEndpoint, hdr.srcEndpoint] ++ uint16Bytes hdr.clusterid ++ uint16Bytes hdr.profileid ++
    [hdr.apsCounter]).toArray, rfl⟩

/-- Where a frame goes behind its APS header. -/
def passUp (hdr : ZbApsHdr) (packet : ZbBuf) : RxTask :=
  if zbApsFcGetFrameType hdr.fc = zbApsFrameCommand then .apsInCommandHandle packet
  else .apsdeDataIndication hdr packet

def zbNldeDataIndicationContinue (stack : ZbApsHdr) (isDup : Bool) (packet : ZbBuf) :
    Rx (Option RxTask) := do
  let (hdr, packet) ← apsHdrParse stack packet
  if isDup then return none
  else do
    let packet ← ofOption (zbBufAssignParam zbApsdeDataIndicationSize (apsdeDataIndicationBytes hdr) packet)
    if zbApsFcGetSecurity hdr.fc ≠ 0 then return some (.apsUnsecureFrame hdr packet)
    else return some (passUp hdr packet)

def zbSecurAuxHdrGetKeyType (ctrl : UInt8) : UInt8 := ctrl >>> 3 &&& 3

def zbSecurDataKey : UInt8 := 0

def zbSecurNwkKey : UInt8 := 1

/-- `sizeof(zb_aps_data_aux_frame_hdr_t)`. -/
def apsDataAuxFrameHdrSize : Nat := 5

/-- `sizeof(zb_aps_nwk_aux_frame_hdr_t)`. -/
def apsNwkAuxFrameHdrSize : Nat := 6

/-- Security level 5, APS data key. -/
def zbApsDataStdSecurControl : UInt8 := 5

/-- Security level 5, NWK key. -/
def zbApsNwkStdSecurControl : UInt8 := 5 ||| ((1 : UInt8) <<< (3 : UInt8))

def zbAddressIeeeByRef (ref : Nat) (g : ZbAddrGlobals) : ZbIeeeAddr :=
  zbIeeeAddrDecompress g (g.addrMap ref).ieeeAddr

/-- The key for a frame from this device, unless its counter is behind. -/
def apsUnsecureKey (addrRef : Nat) (keySeqNumber : UInt8) (frameCounter : UInt32) (s : RecvContext) :
    Option (RecvContext × Option ZbKey) := do
  let key := securNwkKeyBySeq s.secur keySeqNumber
  let (addr, neighbor, found) ← zbNwkNeighborGet addrRef true s.depth s.secur.addr s.neighbor
  let s := { s with secur := { s.secur with addr }, neighbor }
  match found with
  | .error _ => return (s, none)
  | .ok n =>
      -- the peer now uses another key
      let s := if key.isSome then s.setNbe n (switchPeerKey keySeqNumber) else s
      if staleCounter frameCounter (s.neighbor.baseNeighbor n) then return (s, none)
      else return (s.setNbe n fun nbe => { nbe with incomingFrameCounter := frameCounter }, key)

section Aps

variable (aes128 : ZbKey → Block → Block)

/-- What is behind `aSize` bytes of headers is decrypted. -/
def apsDecrypt (decryptedText : Vector UInt8 zbIoBufSize) (key : ZbKey) (nonce : ZbSecurCcmNonce)
    (aSize : Nat) (buf : ZbBuf) : Rx (ZbBuf × Except ZbRet Unit) := do
  check (.payload aSize buf.len.toNat)
  ofOption (zbCcmDecryptNAuth aes128 key (nonceBytes nonce) decryptedText buf aSize
    (payloadSize buf aSize))

/-- A frame whose sender has an address: the NWK key, or a data key, of which there is none. -/
def apsUnsecureKnown (locals : Locals) (found : Except ZbRet Nat) (addrRef : Nat) (buf : ZbBuf)
    (s : RecvContext) : Rx (RecvContext × ZbBuf × Except ZbRet Unit) := do
  let apsHdr := bytes buf
  let hdrSize := zbApsHdrSize (apsHdr.getD 0 0)
  check (.header hdrSize buf.len.toNat)
  if zbSecurAuxHdrGetKeyType (apsHdr.getD hdrSize 0) = zbSecurDataKey then
    return (s, setByte hdrSize zbApsDataStdSecurControl buf, .error .error)
  else do
    let aSize := hdrSize + apsNwkAuxFrameHdrSize
    check (.header aSize buf.len.toNat)
    let buf := setByte hdrSize zbApsNwkStdSecurControl buf
    let frameCounter := uint32At (hdrSize + 1) apsHdr
    check (.addrRef found.isOk)
    let (s, key) ← ofOption (apsUnsecureKey addrRef (apsHdr.getD (hdrSize + 5) 0) frameCounter s)
    match key with
    | none => return (s, buf, .error .error)
    | some key => do
        check (.addrRef found.isOk)
        let nonce : ZbSecurCcmNonce :=
          ⟨zbAddressIeeeByRef addrRef s.secur.addr, frameCounter, zbApsNwkStdSecurControl⟩
        let (buf, ret) ← apsDecrypt aes128 locals.decryptedText key nonce aSize buf
        return (s, buf, ret)

def zbApsUnsecureFrame (locals : Locals) (srcAddr : UInt16) (buf : ZbBuf) (s : RecvContext) :
    Rx (RecvContext × ZbBuf × Except ZbRet Unit) := do
  let (addr, found) ← ofOption (zbAddressByShort srcAddr false false s.secur.addr)
  let s := { s with secur := { s.secur with addr } }
  match found with
  | .error e => return (s, buf, .error e)
  | .ok addrRef => apsUnsecureKnown aes128 locals found addrRef buf s

end Aps

/-- `zb_aps_secur_aux_size`; a key that is neither has the size -1. -/
def zbApsSecurAuxSize (p : List UInt8) : Nat :=
  let keyType := zbSecurAuxHdrGetKeyType (p.getD 0 0)
  if keyType = zbSecurDataKey then apsDataAuxFrameHdrSize
  else if keyType = zbSecurNwkKey then apsNwkAuxFrameHdrSize
  else 2 ^ 32 - 1

/-- `sizeof(zb_aps_command_pkt_header_t)`. -/
def apsCommandPktHeaderSize : Nat := 2

/-- The headers of a command, with its identifier. -/
def apsCommandHdrSize (p : List UInt8) : Nat :=
  (apsCommandPktHeaderSize + (if zbApsFcGetSecurity (p.getD 0 0) ≠ 0 then
    zbApsSecurAuxSize (p.drop apsCommandPktHeaderSize) else 0)) % 2 ^ 32 + 1

/-- The headers of `zb_aps_in_command_handle`. -/
def zbApsInCommandHandle (packet : ZbBuf) : Rx ZbBuf := do
  if zbApsFcGetSecurity ((bytes packet).getD 0 0) ≠ 0 then
    check (.header apsCommandPktHeaderSize packet.len.toNat)
  cutHeader (apsCommandHdrSize (bytes packet)) packet

/-- `zb_aps_full_hdr_size`. -/
def zbApsFullHdrSize (pkt : List UInt8) : Nat :=
  let size := zbApsHdrSize (pkt.getD 0 0)
  if zbApsFcGetSecurity (pkt.getD 0 0) ≠ 0 then
    if zbSecurAuxHdrGetKeyType (pkt.getD size 0) = zbSecurDataKey then size + apsDataAuxFrameHdrSize
    else size + apsNwkAuxFrameHdrSize
  else size

/-- `ZB_APS_HDR_CUT`. -/
def zbApsHdrCut (packet : ZbBuf) : Rx ZbBuf := do
  let pkt := bytes packet
  if zbApsFcGetSecurity (pkt.getD 0 0) ≠ 0 then
    check (.header (zbApsHdrSize (pkt.getD 0 0)) packet.len.toNat)
  cutHeader (zbApsFullHdrSize pkt) packet

/-- `zb_apsde_data_indication`; a frame for ZDP is cut there, one for another endpoint is the
application's. -/
def zbApsdeDataIndication (hdr : ZbApsHdr) (endpoint : UInt8) (asdu : ZbBuf) : Rx (Option ZbBuf) := do
  let isGroup := zbApsFcGetFrameType hdr.fc = zbApsFrameData ∧
    zbApsFcGetDeliveryMode hdr.fc = zbApsDeliveryGroup
  if (if isGroup then endpoint else hdr.dstEndpoint) = 0 then do
    let body ← zbApsHdrCut asdu
    return some body
  else return none

/-! ## The machine -/

structure RxState where
  recv : RecvContext
  pending : List RxTask

inductive RxCall where
  /-- `accepted`: a broadcast is one of those supported, and new -/
  | deliver (frame : ReceivedFrame) (accepted : Bool) (locals : Locals)
  /-- `endpoint`: where a group frame goes -/
  | run (i : Nat) (isDup : Bool) (endpoint : UInt8) (locals : Locals)

section Machine

variable (aes128 : ZbKey → Block → Block) (tail : UInt8) (dev : RxDevice)

/-- What one task does. -/
def runTask (isDup : Bool) (endpoint : UInt8) (locals : Locals) (s : RecvContext) :
    RxTask → Rx (RecvContext × Option RxTask)
  | .nwkFrameIndication buf => do
      let task ← nwkFrameIndication buf
      return (s, task)
  | .nldeDataIndication packet => do
      let task ← zbNldeDataIndication locals.apsHdr packet
      return (s, task)
  | .nldeDataIndicationContinue packet => do
      let task ← zbNldeDataIndicationContinue locals.apsHdr isDup packet
      return (s, task)
  | .apsUnsecureFrame hdr buf => do
      let (s, buf, ret) ← zbApsUnsecureFrame aes128 locals hdr.srcAddr buf s
      return (s, if ret.isOk then some (passUp hdr buf) else none)
  | .apsInCommandHandle packet => do
      let _ ← zbApsInCommandHandle packet
      return (s, none)
  | .apsdeDataIndication hdr asdu => do
      let _ ← zbApsdeDataIndication hdr endpoint asdu
      return (s, none)

/-- A step; a task that is not there is none. -/
def rxCall (s : RxState) : RxCall → Rx RxState
  | .deliver frame accepted locals => do
      let (recv, task) ← zbMcpsDataIndication aes128 tail dev frame.buf accepted locals s.recv
      return ⟨recv, s.pending ++ task.toList⟩
  | .run i isDup endpoint locals =>
      match s.pending[i]? with
      | none => ofOption none
      | some task => do
          let (recv, next) ← runTask aes128 isDup endpoint locals s.recv task
          return ⟨recv, s.pending.eraseIdx i ++ next.toList⟩

def rxStep (s : RxState) (call : RxCall) : Option RxState := (rxCall aes128 tail dev s call).result

end Machine

/-- No frame has come yet. -/
def RxState.start (recv : RecvContext) : RxState := ⟨recv, []⟩

end Zboss.Secur.ReceivePath
