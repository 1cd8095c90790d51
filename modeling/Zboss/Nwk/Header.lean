/-
# Nwk.Header -- the NWK header, built and read back

`nwk_alloc_and_fill_hdr`, `nwk_alloc_and_fill_cmd` and `zb_nlde_data_request` write
a header into the buffer; the macros of `zb_nwk.h` and `zb_nwk_hdr_size` read one.
A pointer that is read from is the list of the bytes from there on.  Fields of two
bytes lie with the low one first, as the machine has them.

The builder counts a byte for the multicast control and never sets the flag that
`zb_nwk_hdr_size` counts it by, and 'discover route' is set at bit 6 and read from
bit 5.  Besides, `zb_nlde_data_request` reads its parameters in the tail of the
buffer once more after the header is allocated, when the data may have been moved
over them.
-/
import Mathlib
import Zboss.Common.Constants
import Zboss.Common.PacketBuf

namespace Zboss.Nwk.Header

open Zboss.Common.Constants
open Zboss.Common.Types
open Zboss.Secur.Ccm
open Zboss.Secur.CcmRoundTrip
open Zboss.Common.PacketBuf

set_option autoImplicit false

/-! ## Frame control -/

section FrameControl

variable (fctl : List UInt8)

def frameCtlGetFrameType : UInt8 := fctl.getD 0 0 &&& 3

def frameCtlGetDiscoverRoute : UInt8 := (fctl.getD 0 0 >>> 5) &&& 3

def frameCtlGetMulticastFlag : UInt8 := fctl.getD 1 0 &&& 1

def frameCtlGetSecurity : UInt8 := (fctl.getD 1 0 >>> 1) &&& 1

def frameCtlGetDestinationIeee : UInt8 := (fctl.getD 1 0 >>> 3) &&& 1

def frameCtlGetSourceIeee : UInt8 := (fctl.getD 1 0 >>> 4) &&& 1

/-- The two bytes of a field that is being filled. -/
structure FrameCtl where
  zeroByte : UInt8
  firstByte : UInt8

end FrameControl

section FillFrameControl

variable (fctl : FrameCtl)

def FrameCtl.setFrameTypeNProtoVer (t v : UInt8) : FrameCtl :=
  { fctl with zeroByte := fctl.zeroByte ||| (t ||| (v <<< 2)) }

def FrameCtl.setDiscoverRoute (r : UInt8) : FrameCtl :=
  { fctl with zeroByte := fctl.zeroByte ||| (r <<< 6) }

def FrameCtl.setSecurity (s : UInt8) : FrameCtl :=
  { fctl with firstByte := fctl.firstByte ||| (s <<< 1) }

def FrameCtl.setSrcDestIeee (s d : UInt8) : FrameCtl :=
  { fctl with firstByte := fctl.firstByte ||| ((d <<< 3) ||| (s <<< 4)) }

end FillFrameControl

/-! ## Sizes and places -/

/-- `sizeof(zb_nwk_aux_frame_hdr_t)`. -/
def auxFrameHdrSize : Nat := 14

def dstIeeeAddrOffset : Nat := 8

def srcIeeeAddrOffset : Nat := 16

def zbNwkShortHdrSize (isMulticast : Bool) : Nat := dstIeeeAddrOffset + if isMulticast then 1 else 0

def zbNwkHalfHdrSize (isMulticast : Bool) : Nat := srcIeeeAddrOffset + if isMulticast then 1 else 0

/-- The multicast control byte stands behind both addresses. -/
def zbNwkFullHdrSize (isMulticast : Bool) : Nat := 24 + if isMulticast then 1 else 0

/-- Calculate network header size by NWK FCF. -/
def zbNwkHdrSize (fctl : List UInt8) : Nat :=
  zbNwkShortHdrSize (frameCtlGetMulticastFlag fctl != 0) +
    (if frameCtlGetSecurity fctl ≠ 0 then auxFrameHdrSize else 0) +
      ((frameCtlGetDestinationIeee fctl).toNat + (frameCtlGetSourceIeee fctl).toNat) * 8

theorem zbNwkHdrSize_lt (fctl : List UInt8) : zbNwkHdrSize fctl < 256 := by
  have bits : ∀ b : UInt8, ((b >>> 3) &&& 1).toNat ≤ 1 ∧ ((b >>> 4) &&& 1).toNat ≤ 1 := by
    decide +kernel
  obtain ⟨dst, src⟩ := bits (fctl.getD 1 0)
  simp only [zbNwkHdrSize, zbNwkShortHdrSize, dstIeeeAddrOffset, auxFrameHdrSize,
    frameCtlGetDestinationIeee, frameCtlGetSourceIeee]
  split <;> split <;> omega

/-! ## Fields -/

def nwhdrDstAddr (nwhdr : List UInt8) : UInt16 := uint16At 2 nwhdr

def nwhdrSrcAddr (nwhdr : List UInt8) : UInt16 := uint16At 4 nwhdr

/-- The destination's IEEE address, if the frame has it. -/
def nwhdrDstIeeeAddr (nwhdr : List UInt8) : Option ZbIeeeAddr :=
  if frameCtlGetDestinationIeee nwhdr ≠ 0 then some (ieeeAddrAt dstIeeeAddrOffset nwhdr) else none

/-- The source's, which stands in the other one's place when that is absent. -/
def nwhdrSrcIeeeAddr (nwhdr : List UInt8) : Option ZbIeeeAddr :=
  if frameCtlGetSourceIeee nwhdr ≠ 0 then
    if frameCtlGetDestinationIeee nwhdr ≠ 0 then some (ieeeAddrAt srcIeeeAddrOffset nwhdr)
    else some (ieeeAddrAt dstIeeeAddrOffset nwhdr)
  else none

/-! ## Building a header -/

/-- `zb_secur_buf_encr_type_e`, as far as NWK sets it. -/
inductive ZbSecurBufEncrType where
  | noEncr
  | nwkEncr
  deriving DecidableEq

/-- What of the NIB and of the context the builders read; the sequence number they
move as well. -/
structure NwkContext where
  networkAddress : UInt16
  sequenceNumber : UInt8
  maxDepth : UInt8
  secureAllFrames : Bool
  securityLevel : UInt8
  joined : Bool
  authenticated : Bool

section Builder

variable (srcIeeeAddr dstIeeeAddr : Option ZbIeeeAddr) (isMulticast isSecured isCmdFrame : Bool)

/-- The bytes to allocate. -/
def nwkHdrSize : Nat :=
  (if srcIeeeAddr.isSome && dstIeeeAddr.isSome then zbNwkFullHdrSize isMulticast
    else if srcIeeeAddr.isSome || dstIeeeAddr.isSome then zbNwkHalfHdrSize isMulticast
    else zbNwkShortHdrSize isMulticast) +
  if isSecured then auxFrameHdrSize else 0

/-- Fill frame control fields. -/
def nwkFillFrameCtl : FrameCtl :=
  let fctl : FrameCtl := ⟨0, 0⟩
  let fctl := fctl.setFrameTypeNProtoVer
    (if isCmdFrame then zbNwkFrameTypeCommand else zbNwkFrameTypeData) zbProtocolVersion
  let fctl := fctl.setSrcDestIeee (if srcIeeeAddr.isSome then 1 else 0) (if dstIeeeAddr.isSome then 1 else 0)
  if isSecured then fctl.setSecurity 1 else fctl

/-- The IEEE addresses of the header at this place. -/
def nwkFillIeee (mem : Vector UInt8 zbIoBufSize) (nwhdr : Nat) : Option (Vector UInt8 zbIoBufSize) :=
  match srcIeeeAddr, dstIeeeAddr with
  | some src, some dst => do
      let mem ← poke mem (nwhdr + dstIeeeAddrOffset) dst.toList
      poke mem (nwhdr + srcIeeeAddrOffset) src.toList
  | none, some dst => poke mem (nwhdr + dstIeeeAddrOffset) dst.toList
  | some src, none => poke mem (nwhdr + dstIeeeAddrOffset) src.toList
  | none, none => some mem

/-- Alloc and fill nwk hdr.  The bytes of the auxiliary header and of the multicast
control are left as they are. -/
def nwkAllocAndFillHdr (ctx : NwkContext) (b : ZbBuf) (dstAddr : UInt16) :
    Option (ZbBuf × ZbSecurBufEncrType × NwkContext) := do
  let hdrSize := UInt8.ofNat (nwkHdrSize srcIeeeAddr dstIeeeAddr isMulticast isSecured)
  let b ← (if isCmdFrame then zbBufInitialAlloc hdrSize b else zbBufSmartAllocLeft hdrSize b)
  let fctl := nwkFillFrameCtl srcIeeeAddr dstIeeeAddr isSecured isCmdFrame
  let mem ← poke b.buf b.begin_ ([fctl.zeroByte, fctl.firstByte] ++ uint16Bytes dstAddr ++
    uint16Bytes ctx.networkAddress ++ [1, ctx.sequenceNumber])
  let mem ← nwkFillIeee srcIeeeAddr dstIeeeAddr mem b.begin_
  return ({ b with buf := mem }, if isSecured then .nwkEncr else .noEncr,
    { ctx with sequenceNumber := ctx.sequenceNumber + 1 })

end Builder

/-- Space for the command and its payload; the place of the payload is returned. -/
def nwkAllocAndFillCmd (b : ZbBuf) (cmd cmdSize : UInt8) : Option (ZbBuf × Nat) := do
  let (b, ptr) ← zbBufSmartAllocRight (1 + cmdSize) b
  let mem ← poke b.buf ptr [cmd]
  return ({ b with buf := mem }, ptr + 1)

/-- What the senders of commands do: the header, the command, and its payload at
the place they are given. -/
def nwkCommandFrame (ctx : NwkContext) (b : ZbBuf) (dstAddr : UInt16)
    (srcIeeeAddr dstIeeeAddr : Option ZbIeeeAddr) (isMulticast isSecured : Bool) (cmd : UInt8)
    (payload : List UInt8) : Option (ZbBuf × ZbSecurBufEncrType × NwkContext) := do
  let (b, encr, ctx) ← nwkAllocAndFillHdr srcIeeeAddr dstIeeeAddr isMulticast isSecured true ctx b dstAddr
  let (b, ptr) ← nwkAllocAndFillCmd b cmd (UInt8.ofNat payload.length)
  let mem ← poke b.buf ptr payload
  return ({ b with buf := mem }, encr, ctx)

/-! ## Data request -/

/-- `zb_nlde_data_req_t`. -/
structure ZbNldeDataReq where
  dstAddr : UInt16
  radius : UInt8
  addrMode : UInt8
  nonmemberRadius : UInt8
  discoveryRoute : UInt8
  securityEnable : UInt8
  ndsuHandle : UInt8

def zbNldeDataReqSize : UInt8 := 8

def zbAddr16bitMulticast : UInt8 := 1

/-- The parameters that stand at this place. -/
def nldeReqAt (mem : Vector UInt8 zbIoBufSize) (at_ : Nat) : ZbNldeDataReq :=
  let p := mem.toList.drop at_
  { dstAddr := uint16At 0 p
    radius := p.getD 2 0
    addrMode := p.getD 3 0
    nonmemberRadius := p.getD 4 0
    discoveryRoute := p.getD 5 0
    securityEnable := p.getD 6 0
    ndsuHandle := p.getD 7 0 }

/-- What becomes of the buffer: a confirm with an 'invalid request' status, or
`zb_nwk_forward` is scheduled. -/
inductive NldeOutcome where
  | confirmInvalidRequest (b : ZbBuf)
  | forward (b : ZbBuf) (encryptType : ZbSecurBufEncrType) (ctx : NwkContext)

/-- Whether a request is secured. -/
def nldeSecure (ctx : NwkContext) (req : ZbNldeDataReq) : Bool :=
  req.securityEnable != 0 && ctx.authenticated && ctx.secureAllFrames && ctx.securityLevel != 0

def zbNldeDataRequest (ctx : NwkContext) (nsdu : ZbBuf) : Option NldeOutcome := do
  let nldereq ← zbGetBufTail zbNldeDataReqSize nsdu
  -- check that we are associated
  if !ctx.joined then return .confirmInvalidRequest nsdu
  let req := nldeReqAt nsdu.buf nldereq
  let (nsdu, encr, ctx) ← nwkAllocAndFillHdr none none (req.addrMode == zbAddr16bitMulticast)
    (nldeSecure ctx req) false ctx nsdu req.dstAddr
  -- the same place, in the buffer as it is now
  let req := nldeReqAt nsdu.buf nldereq
  let mem ← poke nsdu.buf (nsdu.begin_ + 6) [if req.radius ≠ 0 then req.radius else ctx.maxDepth * 2]
  let req := nldeReqAt mem nldereq
  let mem ← (if req.discoveryRoute ≠ 0 then do
      let zeroByte ← peek mem nsdu.begin_ 1
      let fctl : FrameCtl := ⟨zeroByte.getD 0 0, 0⟩
      poke mem nsdu.begin_ [(fctl.setDiscoverRoute 1).zeroByte]
    else some mem)
  let ndsuHandle := (nldeReqAt mem nldereq).ndsuHandle
  let param ← zbGetBufTail 1 nsdu
  let mem ← poke mem param [ndsuHandle]
  return .forward { nsdu with buf := mem } encr ctx

end Zboss.Nwk.Header
