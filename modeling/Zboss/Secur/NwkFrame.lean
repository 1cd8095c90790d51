/-
# Secur.NwkFrame -- NWK frames secured and unsecured in their buffers

`zb_nwk_secure_frame` on a frame that has its MAC header before it: the auxiliary
header is filled where the header size says it stands (`Secur.NwkSecure`), the
frame goes through CCM* into the other buffer, and the security level is cleared
there.  `zb_nwk_unsecure_frame` on a frame whose MAC header was parsed and cut off:
it moves the address table, the neighbour table and the counter of the sender
before it decrypts.

A variable the source leaves unset, and a buffer on the stack, are arguments.
-/
import Mathlib
import Zboss.Common.Constants
import Zboss.Common.PacketBuf
import Zboss.Mac.Header
import Zboss.Nwk.Neighbor
import Zboss.Nwk.Header
import Zboss.Secur.NwkSecure

namespace Zboss.Secur.NwkFrame

open Zboss.Common.Constants
open Zboss.Common.Types
open Zboss.Common.Address
open Zboss.Common.PacketBuf
open Zboss.Mac.Header
open Zboss.Nwk.Neighbor
open Zboss.Nwk.Header
open Zboss.Theory.CcmStar
open Zboss.Secur.KeyMaterial
open Zboss.Secur.NwkSecure
open Zboss.Secur.Ccm

set_option autoImplicit false

/-! ## The auxiliary header in a frame -/

def uint32At (at_ : Nat) (p : List UInt8) : UInt32 :=
  UInt32.ofNat ((p.getD at_ 0).toNat + 256 * ((p.getD (at_ + 1) 0).toNat +
    256 * ((p.getD (at_ + 2) 0).toNat + 256 * (p.getD (at_ + 3) 0).toNat)))

def uint32Bytes (val : UInt32) : List UInt8 :=
  [val.toUInt8, (val >>> 8).toUInt8, (val >>> 16).toUInt8, (val >>> 24).toUInt8]

def auxAt (p : List UInt8) : ZbNwkAuxFrameHdr where
  securControl := p.getD 0 0
  frameCounter := uint32At 1 p
  sourceAddress := ieeeAddrAt 5 p
  keySeqNumber := p.getD 13 0

def auxBytes (aux : ZbNwkAuxFrameHdr) : List UInt8 :=
  [aux.securControl] ++ uint32Bytes aux.frameCounter ++ aux.sourceAddress.toList ++ [aux.keySeqNumber]

/-- The nonce as CCM* takes it. -/
def nonceBytes (nonce : ZbSecurCcmNonce) : Vector UInt8 zbCcmNonceLen :=
  ⟨(nonce.sourceAddress.toList ++ uint32Bytes nonce.frameCounter ++ [nonce.securControl]).toArray, by
    simp [uint32Bytes, zbCcmNonceLen]⟩

/-- Key identifier and extended nonce, level 0. -/
def zbNwkStdSecurControlZeroedLevel : UInt8 :=
  ((1 : UInt8) <<< (3 : UInt8)) ||| ((1 : UInt8) <<< (5 : UInt8))

section Frames

variable (aes128 : ZbKey → Block → Block)

/-! ## Securing -/

/-- The frame stands in `src` behind `mac_hdr_size` bytes; what goes to the air is
made in `dst`.  A frame shorter than its headers is a read outside of memory. -/
def zbNwkSecureFrameBuf (extendedAddress : ZbIeeeAddr) (useSameKey : Bool) (macHdrSize : Nat)
    (c : SecurContext) (src dst : ZbBuf) :
    Option (SecurContext × ZbBuf × ZbBuf × Except ZbRet Unit) := do
  let nwhdr := src.begin_ + macHdrSize
  let fctl ← peek src.buf nwhdr 2
  let hdrSize := zbNwkHdrSize fctl
  let auxPos := nwhdr + hdrSize - auxFrameHdrSize
  let aux ← peek src.buf auxPos auxFrameHdrSize
  let secured := zbNwkSecureFrame extendedAddress useSameKey (auxAt aux) c
  let mem ← poke src.buf auxPos (auxBytes secured.2.1)
  let src := { src with buf := mem }
  match secured.2.2 with
  | none => return (secured.1, src, dst, .error .error)
  | some (key, nonce) =>
      if src.len.toNat < hdrSize + macHdrSize then none
      let stringA ← peek src.buf nwhdr hdrSize
      let stringM ← peek src.buf (nwhdr + hdrSize) (src.len.toNat - hdrSize - macHdrSize)
      let (dst, ret) ← zbCcmEncryptNAuth aes128 key (nonceBytes nonce) stringA stringM dst
      let dst ← zbBufSmartAllocLeft (UInt8.ofNat macHdrSize) dst
      let mhr ← peek src.buf src.begin_ macHdrSize
      let mem ← poke dst.buf dst.begin_ mhr
      -- clear security level
      let mem ← poke mem (dst.begin_ + (auxPos - src.begin_)) [zbNwkStdSecurControlZeroedLevel]
      return (secured.1, src, { dst with buf := mem }, ret)

/-! ## Unsecuring -/

/-- What the receiving side reads and moves. -/
structure RecvContext where
  secur : SecurContext
  neighbor : ZbNeighborTbl
  depth : UInt8

def badFrameCounter : UInt8 := 0x11

def badKeySequenceNumber : UInt8 := 0x12

def frameSecurityFailed : UInt8 := badKeySequenceNumber

/-- `sizeof(zb_nlme_status_indication_t)`: an enumeration of four bytes, and an
address. -/
def zbNlmeStatusIndicationSize : UInt8 := 6

/-- Put a status into the tail of the buffer; `zb_nlme_status_indication` is
scheduled with it. -/
def zbSecurNwkStatus (nsdu : ZbBuf) (addrShort : UInt16) (status : UInt8) : Option ZbBuf := do
  let cmd ← zbGetBufTail zbNlmeStatusIndicationSize nsdu
  let mem ← poke nsdu.buf cmd ([status, 0, 0, 0] ++ uint16Bytes addrShort)
  return { nsdu with buf := mem }

/-- What becomes of the frame.  A failed one carries the statuses that were
scheduled with its buffer. -/
inductive UnsecureOutcome where
  | notAuthenticated
  | failed (nsdu : ZbBuf) (statuses : List UInt8)
  | unsecured (nsdu : ZbBuf) (macHdrOffset : UInt8)

def UnsecureOutcome.ret : UnsecureOutcome → Except ZbRet Unit
  | .unsecured _ _ => .ok ()
  | _ => .error .error

/-- The sender's entry: its address pair is noted, and an entry is made for it if
the frame comes from it directly.  Without a short address in the MAC header
`addr_ref` is what it was. -/
def unsecureNeighborGet (stackRef : Nat) (mhr : ZbMacMhr) (sourceAddress : ZbIeeeAddr) (srcAddr : UInt16)
    (s : RecvContext) : Option (RecvContext × Except ZbRet Nat) := do
  let (addr, found) ← (if fcfGetSrcAddressingMode mhr.frameControl = zbAddr16bitDevOrBroadcast then
      zbAddressUpdate sourceAddress (addrShort mhr.srcAddr) false s.secur.addr
    else some (s.secur.addr, .ok stackRef))
  let s := { s with secur := { s.secur with addr } }
  match found with
  | .error e => return (s, .error e)
  | .ok addrRef =>
      let (addr, neighbor, nbe) ←
        zbNwkNeighborGet addrRef (srcAddr == addrShort mhr.srcAddr) s.depth s.secur.addr s.neighbor
      return ({ s with secur := { s.secur with addr }, neighbor }, nbe)

/-- Rewrite one entry of the neighbour table. -/
def RecvContext.setNbe (s : RecvContext) (n : Nat) (f : ZbNeighborTblEnt → ZbNeighborTblEnt) :
    RecvContext :=
  { s with neighbor := { s.neighbor with
      baseNeighbor := Function.update s.neighbor.baseNeighbor n (f (s.neighbor.baseNeighbor n)) } }

@[simp] theorem setNbe_secur (s : RecvContext) (n : Nat) (f : ZbNeighborTblEnt → ZbNeighborTblEnt) :
    (s.setNbe n f).secur = s.secur := rfl

@[simp] theorem setNbe_self (s : RecvContext) (n : Nat) (f : ZbNeighborTblEnt → ZbNeighborTblEnt) :
    (s.setNbe n f).neighbor.baseNeighbor n = f (s.neighbor.baseNeighbor n) :=
  Function.update_self ..

/-- A child is 'not authenticated' until the frame is. -/
def demoteChild (nbe : ZbNeighborTblEnt) : ZbNeighborTblEnt :=
  if nbe.relationship = .child then { nbe with relationship := .unauthenticatedChild } else nbe

def promoteChild (nbe : ZbNeighborTblEnt) : ZbNeighborTblEnt :=
  if nbe.relationship = .unauthenticatedChild then { nbe with relationship := .child } else nbe

/-- Another key number starts the counter again. -/
def switchPeerKey (keySeqNumber : UInt8) (nbe : ZbNeighborTblEnt) : ZbNeighborTblEnt :=
  if nbe.keySeqNumber ≠ keySeqNumber then { nbe with incomingFrameCounter := 0, keySeqNumber } else nbe

/-- Check FrameCount. -/
def staleCounter (frameCounter : UInt32) (nbe : ZbNeighborTblEnt) : Bool :=
  nbe.incomingFrameCounter > frameCounter || nbe.incomingFrameCounter == 0xFFFFFFFF

/-- The key for the frame, or the status it is refused with. -/
def checkFreshness (n : Nat) (keySeqNumber : UInt8) (frameCounter : UInt32) (s : RecvContext) :
    RecvContext × Except UInt8 ZbKey :=
  let s := s.setNbe n fun nbe => switchPeerKey keySeqNumber (demoteChild nbe)
  match securNwkKeyBySeq s.secur keySeqNumber with
  | none => (s, .error badKeySequenceNumber)
  | some key =>
      if staleCounter frameCounter (s.neighbor.baseNeighbor n) then (s, .error badFrameCounter)
      else (s.setNbe n fun nbe => { nbe with incomingFrameCounter := frameCounter }, .ok key)

/-- Re-insert MAC MHR before NWK header. -/
def reinsertMhr (mhr : ZbMacMhr) (mhrLen : Nat) (nsdu : ZbBuf) : Option (ZbBuf × UInt8) := do
  let nsdu ← zbBufSmartAllocLeft (UInt8.ofNat (mhrLen + 1)) nsdu
  let mem ← poke nsdu.buf (nsdu.begin_ + 1) (zbMacFillMhr mhr)
  let macHdrOffset := nsdu.dataOffset + 1
  let nsdu ← zbBufCutLeft (UInt8.ofNat (mhrLen + 1)) { nsdu with buf := mem }
  return (nsdu, macHdrOffset)

/-- Implicit key switch, to a number up to 126 ahead. -/
def implicitKeySwitch (keySeqNumber : UInt8) (random : ZbKey) (c : SecurContext) : SecurContext :=
  if keySeqNumber - c.activeKeySeqNumber ≠ 0 ∧ keySeqNumber - c.activeKeySeqNumber < 127 then
    securNwkKeySwitch keySeqNumber random c
  else c

variable (stack : Vector UInt8 zbIoBufSize) (random : ZbKey) (mhr : ZbMacMhr) (mhrLen : Nat)

/-- A frame whose sender and counter are in order. -/
def unsecureDecrypt (n hdrSize auxPos : Nat) (key : ZbKey) (s : RecvContext) (nsdu : ZbBuf) :
    Option (RecvContext × UnsecureOutcome) := do
  let payloadSize := (nsdu.len.toNat + 2 ^ 32 - hdrSize) % 2 ^ 32
  if payloadSize < zbCcmM then do
    let nsdu ← zbSecurNwkStatus nsdu (addrShort mhr.srcAddr) frameSecurityFailed
    let nsdu ← zbSecurNwkStatus nsdu (addrShort mhr.srcAddr) frameSecurityFailed
    return (s, .failed nsdu [frameSecurityFailed, frameSecurityFailed])
  else do
    let mem ← poke nsdu.buf auxPos [zbNwkStdSecurControl]
    let aux ← peek mem auxPos auxFrameHdrSize
    let nonce := fillNonce (auxAt aux).sourceAddress (auxAt aux)
    let (nsdu, ret) ← zbCcmDecryptNAuth aes128 key (nonceBytes nonce) stack { nsdu with buf := mem }
      hdrSize payloadSize
    match ret with
    | .error _ => do
        let nsdu ← zbSecurNwkStatus nsdu (addrShort mhr.srcAddr) frameSecurityFailed
        return (s, .failed nsdu [frameSecurityFailed])
    | .ok _ => do
        let (nsdu, macHdrOffset) ← reinsertMhr mhr mhrLen nsdu
        let s := s.setNbe n promoteChild
        -- the pointer to the auxiliary header is the old one, wherever the frame is now
        let keySeqNumber ← peek nsdu.buf (auxPos + 13) 1
        return ({ s with secur := implicitKeySwitch (keySeqNumber.getD 0 0) random s.secur },
          .unsecured nsdu macHdrOffset)

def zbNwkUnsecureFrame (stackRef : Nat) (s : RecvContext) (nsdu : ZbBuf) :
    Option (RecvContext × UnsecureOutcome) := do
  if !s.secur.authenticated then return (s, .notAuthenticated)
  let nwkHdr ← peek nsdu.buf nsdu.begin_ 8
  let hdrSize := zbNwkHdrSize nwkHdr
  let auxPos := nsdu.begin_ + hdrSize - auxFrameHdrSize
  let aux ← peek nsdu.buf auxPos auxFrameHdrSize
  let (s, found) ← unsecureNeighborGet stackRef mhr (auxAt aux).sourceAddress (nwhdrSrcAddr nwkHdr) s
  match found with
  | .error _ => do
      let nsdu ← zbSecurNwkStatus nsdu (addrShort mhr.srcAddr) frameSecurityFailed
      return (s, .failed nsdu [frameSecurityFailed])
  | .ok n =>
      let checked := checkFreshness n (auxAt aux).keySeqNumber (auxAt aux).frameCounter s
      match checked.2 with
      | .error status => do
          let nsdu ← zbSecurNwkStatus nsdu (addrShort mhr.srcAddr) status
          return (checked.1, .failed nsdu [status])
      | .ok key => unsecureDecrypt aes128 stack random mhr mhrLen n hdrSize auxPos key checked.1 nsdu

end Frames

end Zboss.Secur.NwkFrame
