/-
# Aps.Retransmit -- an acknowledged frame goes to the network, and again

The buffer of a frame that waits for its acknowledgement, from `zb_nlde_data_request` to
`zb_nlde_data_confirm` and back by `zb_aps_ack_timer_cb`: NWK and MAC put their headers
before the frame, and the confirm takes them off, whichever way it came.  `Call` names what
runs next, with what it finds in the rest of the stack; each is a function of the buffer.

`repeats`: in every run in which the device is joined when NWK is asked, the buffer is the
frame whenever APS has it.  When the device is not joined NWK confirms at once, and the
confirm takes off two headers that were never put there (`unjoined_shorter`); the
broadcasts that are not sent again do get a header made up for it (`zbNwkCallBrConfirm`).
-/
import Mathlib
import Zboss.Common.Constants
import Zboss.Theory.Run
import Zboss.Mac.DataRequest
import Zboss.Nwk.HeaderRoundTrip
import Zboss.Secur.NwkRoundTrip
import Zboss.Aps.ApsFrame

namespace Zboss.Aps.Retransmit

open Zboss.Common.Constants
open Zboss.Common.Types
open Zboss.Common.PacketBuf
open Zboss.Theory.Run
open Zboss.Theory.CcmStar
open Zboss.Secur.Ccm
open Zboss.Secur.CcmRoundTrip
open Zboss.Secur.KeyMaterial
open Zboss.Secur.NwkFrame
open Zboss.Secur.NwkRoundTrip
open Zboss.Nwk.Header
open Zboss.Nwk.HeaderRoundTrip
open Zboss.Mac.Header
open Zboss.Mac.DataRequest
open Zboss.Aps.Dups hiding ZbApsHdr
open Zboss.Aps.ApsFrame

set_option autoImplicit false

/-! ## What APS does -/

def zbApsCommandRadius : UInt8 := 5

/-- The parameters of an NLDE-DATA.request, in the tail. -/
def putNldereq (addr : UInt16) (radius secure : UInt8) (b : ZbBuf) : Option ZbBuf :=
  setTail zbNldeDataReqSize 0
    (uint16Bytes addr ++ [radius, zbAddr16bitDevOrBroadcast, 0, 1, secure, 0]) b

/-- `fill_nldereq`. -/
def fillNldereq (addr : UInt16) (secure : UInt8) (b : ZbBuf) : Option ZbBuf :=
  putNldereq addr zbApsCommandRadius secure b

/-- `ZB_NWK_HDR_CUT`. -/
def zbNwkHdrCut (b : ZbBuf) : Option ZbBuf := do
  let fctl ← peek b.buf b.begin_ 2
  zbBufCutLeft (UInt8.ofNat (zbNwkHdrSize fctl)) b

/-! ## The journey of a buffer -/

/-- Where the buffer is: what is scheduled with it, or who keeps it. -/
inductive Stage where
  | nldeDataRequest
  | forward (encryptType : ZbSecurBufEncrType)
  /-- In the table of pending routes. -/
  | pending (encryptType : ZbSecurBufEncrType) (handle : UInt8)
  /-- In the broadcast retransmission table. -/
  | rebroadcast (encryptType : ZbSecurBufEncrType)
  | mcpsDataRequest (encryptType : ZbSecurBufEncrType)
  /-- With its header: sent, or in the queue of indirect frames. -/
  | inMac (encryptType : ZbSecurBufEncrType)
  | mcpsDataConfirm
  | nldeDataConfirm
  /-- With APS alone. -/
  | held
  /-- Freed, confirmed to the application, or dropped by NWK. -/
  | gone
  deriving DecidableEq

structure Journey where
  buf : ZbBuf
  stage : Stage
  ent : ZbApsRetransEnt

/-- What `zb_nwk_forward` finds about the destination. -/
inductive Destination where
  | nextHop (macDst : UInt16) (indirect : Bool)
  /-- A broadcast goes to the retransmission table. -/
  | broadcast
  | noRouteYet
  | dropped
  deriving DecidableEq

inductive Call where
  | nldeDataRequest (ctx : NwkContext)
  | forward (pibShortAddress : UInt16) (to_ : Destination)
  | routeFound
  /-- The last transmission of a broadcast, to a child or to all. -/
  | lastTransmition (child : Option UInt16)
  | callBrConfirm (networkAddress : UInt16)
  | mcpsDataRequest (macPanId : UInt16) (dsn : UInt8) (queueFull : Bool)
  | checkSecurity (extendedAddress : ZbIeeeAddr) (useSameKey : Bool) (secur : SecurContext)
      (encryptionBuf : ZbBuf)
  | framePending
  | dataReqContinue (indirect : Bool)
  | mcpsDataConfirm (rejoining : Bool)
  | nldeDataConfirm
  | apsAck
  | ackTimer

/-- The handle of a request, the last byte of the buffer. -/
def handleOf (b : ZbBuf) : Option UInt8 := do
  let p ← zbGetBufTail 1 b
  return b.buf.toList.getD p 0

/-- Handles of NWK's own requests, whose confirms stay there. -/
def isInternalHandle (rejoining : Bool) (handle : UInt8) : Bool :=
  handle == 0xFF || handle == 0xFE && rejoining || handle == 0xFD || handle == 0xFC || handle == 0xFB

def zbNldeDataRequestCall (ctx : NwkContext) (s : Journey) : Option Journey := do
  match ← zbNldeDataRequest ctx s.buf with
  | .confirmInvalidRequest buf => return { s with buf, stage := .nldeDataConfirm }
  | .forward buf encryptType _ => return { s with buf, stage := .forward encryptType }

def zbNwkForward (encryptType : ZbSecurBufEncrType) (pibShortAddress : UInt16) (to_ : Destination)
    (s : Journey) : Option Journey := do
  let handle ← handleOf s.buf
  match to_ with
  | .nextHop macDst indirect =>
      let buf ← zbMcpsBuildDataRequest pibShortAddress macDst
        ((if indirect then macTxOptionIndirectTransmissionBit else 0) |||
          if macDst ≠ 0xFFFF then macTxOptionAcknowledgedBit else 0) handle s.buf
      return { s with buf, stage := .mcpsDataRequest encryptType }
  | .broadcast =>
      let buf ← zbMcpsBuildDataRequest pibShortAddress 0xFFFF 0 handle s.buf
      return { s with buf, stage := .rebroadcast encryptType }
  | .noRouteYet => return { s with stage := .pending encryptType handle }
  | .dropped => return { s with stage := .gone }

/-- `nwk_broadcast_transmition` with the buffer of the entry itself. -/
def lastTransmition (encryptType : ZbSecurBufEncrType) (child : Option UInt16) (s : Journey) :
    Option Journey := do
  let s := { s with stage := .mcpsDataRequest encryptType }
  match child with
  | none => return s
  | some dstAddr =>
      let req := mcpsReqAt s.buf.buf (zbIoBufSize - zbMcpsDataReqParamsSize.toNat)
      let buf ← setTail zbMcpsDataReqParamsSize 2 (uint16Bytes dstAddr ++ [req.txOptions |||
        (macTxOptionIndirectTransmissionBit ||| macTxOptionAcknowledgedBit)]) s.buf
      return { s with buf }

def zbHandleMcpsDataReqContinue (indirect : Bool) (s : Journey) : Option Journey := do
  let s := { s with stage := .mcpsDataConfirm }
  if indirect then return s
  else
    let req := mcpsReqAt s.buf.buf (zbIoBufSize - zbMcpsDataReqParamsSize.toNat)
    let buf ← setTail 1 0 [req.msduHandle] s.buf
    return { s with buf }

/-- The entry is done with, and its buffer is freed or goes to the application. -/
def doneWithThisAck (s : Journey) : Journey :=
  { s with stage := .gone, ent := { s.ent with state := .free, addr := 0xFFFF, buf := 0xFF } }

def zbNldeDataConfirm (s : Journey) : Option Journey := do
  let b ← zbMacCutHdrWithoutTrailer s.buf
  let b ← zbNwkHdrCut b
  let fc ← peek b.buf b.begin_ 1
  let s := { s with buf := b }
  if zbApsFcGetFrameType (fc.getD 0 0) = zbApsFrameAck then return { s with stage := .gone }
  else if zbApsFcGetAckRequest (fc.getD 0 0) = 0 then return { s with stage := .gone }
  else
    match s.ent.state with
    | .sentMacNotConfirmedApsAcked => return doneWithThisAck s
    | .sentMacNotConfirmed =>
        return { s with stage := .held, ent := { s.ent with state := .sentMacConfirmed } }
    | .sentMacConfirmed => none
    | .free => return { s with stage := .gone }

def apsAckFrameHandle (s : Journey) : Option Journey :=
  match s.ent.state with
  | .free => none
  | .sentMacNotConfirmed => some { s with ent := { s.ent with state := .sentMacNotConfirmedApsAcked } }
  | _ => some (doneWithThisAck s)

def zbApsAckTimerCb (s : Journey) : Option Journey := do
  let fc ← peek s.buf.buf s.buf.begin_ 1
  let apsRetries := if s.ent.apsRetries = 0 then 0 else s.ent.apsRetries - 1
  let s := { s with ent := { s.ent with apsRetries } }
  match s.ent.state with
  | .sentMacConfirmed =>
      if apsRetries = 0 then return doneWithThisAck s
      else
        let buf ← fillNldereq s.ent.addr
          (if s.ent.nwkInsecure || zbApsFcGetSecurity (fc.getD 0 0) ≠ 0 then 0 else 1) s.buf
        return { buf, stage := .nldeDataRequest, ent := { s.ent with state := .sentMacNotConfirmed } }
  | .free => none
  | _ => return s

section Machine

variable (aes128 : ZbKey → Block → Block)

/-- `zb_mac_check_security`: what goes to the air is made in another buffer. -/
def zbMacCheckSecurity (encryptType : ZbSecurBufEncrType) (extendedAddress : ZbIeeeAddr)
    (useSameKey : Bool) (secur : SecurContext) (encryptionBuf : ZbBuf) (s : Journey) : Option Journey :=
  match encryptType with
  | .noEncr => some s
  | .nwkEncr => do
      let hlen ← mhrLengthOf s.buf
      let (_, buf, _, _) ← zbNwkSecureFrameBuf aes128 extendedAddress useSameKey hlen secur s.buf
        encryptionBuf
      return { s with buf }

def step (s : Journey) (call : Call) : Option Journey :=
  match s.stage, call with
  | .nldeDataRequest, .nldeDataRequest ctx => zbNldeDataRequestCall ctx s
  | .forward encr, .forward pibShortAddress to_ => zbNwkForward encr pibShortAddress to_ s
  | .pending encr handle, .routeFound => do
      let buf ← setTail 1 0 [handle] s.buf
      return { s with buf, stage := .forward encr }
  | .rebroadcast encr, .lastTransmition child => lastTransmition encr child s
  | .rebroadcast _, .callBrConfirm networkAddress => do
      let buf ← zbNwkCallBrConfirm networkAddress s.buf
      return { s with buf, stage := .mcpsDataConfirm }
  | .mcpsDataRequest encr, .mcpsDataRequest macPanId dsn queueFull => do
      match ← zbMcpsDataRequestFillHdr macPanId dsn queueFull s.buf with
      | .filled buf => return { s with buf, stage := .inMac encr }
      | .putBack buf => return { s with buf }
  | .inMac encr, .checkSecurity extendedAddress useSameKey secur encryptionBuf =>
      zbMacCheckSecurity aes128 encr extendedAddress useSameKey secur encryptionBuf s
  | .inMac .noEncr, .framePending => do
      let buf ← setFramePending s.buf
      return { s with buf }
  | .inMac _, .dataReqContinue indirect => zbHandleMcpsDataReqContinue indirect s
  | .mcpsDataConfirm, .mcpsDataConfirm rejoining => do
      let handle ← handleOf s.buf
      return { s with stage := if isInternalHandle rejoining handle then .gone else .nldeDataConfirm }
  | .nldeDataConfirm, .nldeDataConfirm => zbNldeDataConfirm s
  | .gone, _ => none
  | _, .apsAck => apsAckFrameHandle s
  | _, .ackTimer => zbApsAckTimerCb s
  | _, _ => none

end Machine

/-! ## Headers before the frame -/

/-- A NWK header of the length that is read from it, with room for what security writes. -/
structure NwkHdr (encr : ZbSecurBufEncrType) (nwk : List UInt8) : Prop where
  size : zbNwkHdrSize nwk = nwk.length
  flags : 2 ≤ nwk.length
  aux : encr = .nwkEncr → auxFrameHdrSize + 2 ≤ nwk.length

/-- What stands in the buffer at each stage of its journey. -/
def Stands (frame : List UInt8) (s : Journey) : Prop :=
  match s.stage with
  | .nldeDataRequest => s.buf.data = frame ∧ dataIsMulticast s.buf = false
  | .forward encr | .pending encr _ | .rebroadcast encr | .mcpsDataRequest encr =>
      ∃ nwk, NwkHdr encr nwk ∧ s.buf.data = nwk ++ frame
  | .inMac encr =>
      ∃ mhr nwk, ShortAddrs mhr ∧ NwkHdr encr nwk ∧ s.buf.data = zbMacFillMhr mhr ++ (nwk ++ frame)
  | .mcpsDataConfirm | .nldeDataConfirm =>
      ∃ mhr nwk encr, ShortAddrs mhr ∧ NwkHdr encr nwk ∧
        s.buf.data = zbMacFillMhr mhr ++ (nwk ++ frame)
  | .held => s.buf.data = frame
  | .gone => True

structure Good (frame : List UInt8) (s : Journey) : Prop where
  inside : Inside s.buf
  waits : s.ent.state = .sentMacConfirmed → s.stage = .held
  stands : Stands frame s

section Headers

variable {encr : ZbSecurBufEncrType} {nwk rest : List UInt8} {b c : ZbBuf}

theorem zbNwkHdrSize_append (flags : 2 ≤ nwk.length) (rest : List UInt8) :
    zbNwkHdrSize (nwk ++ rest) = zbNwkHdrSize nwk := by
  apply zbNwkHdrSize_congr
  rw [List.getD_append _ _ _ _ (by omega)]

/-- **The NWK header comes off.** -/
theorem zbNwkHdrCut_data (inside : Inside b) (hdr : NwkHdr encr nwk) (data : b.data = nwk ++ rest)
    (cut : zbNwkHdrCut b = some c) : c.data = rest ∧ Inside c := by
  have fits : 0 + 2 ≤ b.data.length := by
    rw [data, List.length_append]
    exact Nat.le_add_right_of_le (by simpa using hdr.flags)
  have read := peek_data inside fits
  rw [Nat.add_zero, data, List.drop_zero] at read
  rw [zbNwkHdrCut, read, Option.bind_eq_bind, Option.bind_some, zbNwkHdrSize_take Nat.one_lt_two,
    zbNwkHdrSize_append hdr.flags, hdr.size] at cut
  obtain ⟨dropped, inside', -, -⟩ := cutLeft_data inside cut
  refine ⟨?_, inside'⟩
  have small : nwk.length < 256 := by
    rw [← hdr.size]
    exact zbNwkHdrSize_lt nwk
  rw [dropped, data, UInt8.toNat_ofNat_of_lt' small, List.drop_left]

/-! ### What NWK puts there -/

/-- **What becomes of a request**: one of a device that is not joined is confirmed as it is;
one that goes on had its parameters behind it, and room. -/
theorem nldeDataRequest_cases {ctx : NwkContext} {outcome : NldeOutcome}
    (asked : zbNldeDataRequest ctx b = some outcome) :
    (ctx.joined = false ∧ outcome = .confirmInvalidRequest b) ∨
      ∃ c encr ctx', outcome = .forward c encr ctx' ∧ DataFits ctx b ∧ Inside c := by
  obtain ⟨p, tail, asked⟩ := Option.bind_eq_some_iff.1 asked
  have behind : b.len.toNat + b.begin_ + zbNldeDataReqSize.toNat ≤ zbIoBufSize := by
    by_contra over_
    rw [zbGetBufTail, if_neg over_] at tail
    cases tail
  have place : p = nldeReqPlace := by
    rw [zbGetBufTail, if_pos behind] at tail
    exact (Option.some.inj tail).symm
  subst place
  cases joined : ctx.joined with
  | false =>
      simp only [joined, Bool.not_false, if_true] at asked
      cases asked
      exact .inl ⟨rfl, rfl⟩
  | true =>
      simp only [joined, Bool.not_true, Bool.false_eq_true, if_false] at asked
      obtain ⟨⟨d, encr, ctx₀⟩, built, asked⟩ := Option.bind_eq_some_iff.1 asked
      obtain ⟨mem₁, -, asked⟩ := Option.bind_eq_some_iff.1 asked
      obtain ⟨mem₂, -, asked⟩ := Option.bind_eq_some_iff.1 asked
      obtain ⟨param, tail₁, asked⟩ := Option.bind_eq_some_iff.1 asked
      obtain ⟨mem₃, -, asked⟩ := Option.bind_eq_some_iff.1 asked
      cases asked
      obtain ⟨e, allocated, -⟩ := Option.bind_eq_some_iff.1 built
      rw [if_neg Bool.false_ne_true] at allocated
      have room := allocLeft_room allocated
      rw [toNat_nwkHdrSize] at room
      refine .inr ⟨_, _, _, rfl, ⟨joined, behind, room⟩, ?_⟩
      have fits : d.len.toNat + d.begin_ + (1 : UInt8).toNat ≤ zbIoBufSize := by
        by_contra over_
        rw [zbGetBufTail, if_neg over_] at tail₁
        cases tail₁
      show d.begin_ + d.len.toNat ≤ zbIoBufSize
      omega

/-- **NWK puts its header before the frame.** -/
theorem nldeDataRequest_data {ctx ctx' : NwkContext} (one : dataIsMulticast b = false)
    (fits : DataFits ctx b) (asked : zbNldeDataRequest ctx b = some (.forward c encr ctx')) :
    ∃ nwk, NwkHdr encr nwk ∧ c.data = nwk ++ b.data := by
  obtain ⟨c', radius, spare, asked', spares, data⟩ := zbNldeDataRequest_spec fits
  rw [asked] at asked'
  obtain ⟨rfl, rfl, -⟩ := NldeOutcome.forward.inj (Option.some.inj asked')
  rw [one] at spares
  let secured := nldeSecure ctx (nldeReqOf b)
  let hdr := headerBytes ⟨dataZeroByte (movedDiscoveryRoute ctx b),
    (nwkFillFrameCtl none none secured false).firstByte⟩ (nldeReqOf b).dstAddr ctx.networkAddress radius
    ctx.sequenceNumber (ieeeBytes none none)
  have eight : hdr.length = 8 := length_headerBytes _ _ _ _ _ _
  have long : (hdr ++ spare).length = 8 + spareSize false secured := by
    rw [List.length_append, eight, spares]
  refine ⟨hdr ++ spare, ⟨?_, by omega, ?_⟩, ?_⟩
  · have size := @frameOf_hdrSize none none secured false (nldeReqOf b).dstAddr ctx.networkAddress radius
      ctx.sequenceNumber spare (dataZeroByte (movedDiscoveryRoute ctx b))
    rw [long]
    exact size.trans (nwkHdrSize_eq none none false secured)
  · intro encrypted
    have secure : secured = true := by
      by_contra plain
      rw [if_neg plain] at encrypted
      cases encrypted
    rw [long, secure]
    decide
  · rw [data, List.append_assoc]
    rfl

/-! ### What MAC does to it -/

/-- What securing leaves of the buffer it reads: the auxiliary header is written. -/
theorem secureFrameBuf_src {aes128 : ZbKey → Block → Block} {extendedAddress : ZbIeeeAddr}
    {useSameKey : Bool} {macHdrSize : Nat} {secur secur' : SecurContext} {src src' dst dst' : ZbBuf}
    {ret : Except ZbRet Unit}
    (secured : zbNwkSecureFrameBuf aes128 extendedAddress useSameKey macHdrSize secur src dst =
      some (secur', src', dst', ret)) :
    ∃ fctl mem aux, peek src.buf (src.begin_ + macHdrSize) 2 = some fctl ∧
      poke src.buf (src.begin_ + macHdrSize + zbNwkHdrSize fctl - auxFrameHdrSize) (auxBytes aux) =
        some mem ∧ src' = { src with buf := mem } := by
  obtain ⟨fctl, read, secured⟩ := Option.bind_eq_some_iff.1 secured
  obtain ⟨aux, -, secured⟩ := Option.bind_eq_some_iff.1 secured
  obtain ⟨mem, poked, secured⟩ := Option.bind_eq_some_iff.1 secured
  refine ⟨fctl, mem, _, read, poked, ?_⟩
  simp only at secured
  split at secured
  · cases secured
    rfl
  · split at secured
    · cases secured
    · obtain ⟨stringA, -, secured⟩ := Option.bind_eq_some_iff.1 secured
      obtain ⟨stringM, -, secured⟩ := Option.bind_eq_some_iff.1 secured
      obtain ⟨⟨dst₁, ret₁⟩, -, secured⟩ := Option.bind_eq_some_iff.1 secured
      obtain ⟨dst₂, -, secured⟩ := Option.bind_eq_some_iff.1 secured
      obtain ⟨mhr, -, secured⟩ := Option.bind_eq_some_iff.1 secured
      obtain ⟨mem₁, -, secured⟩ := Option.bind_eq_some_iff.1 secured
      obtain ⟨mem₂, -, secured⟩ := Option.bind_eq_some_iff.1 secured
      cases secured
      rfl

/-- **Securing writes within the NWK header.** -/
theorem auxWritten_data {mac : List UInt8} {fctl : List UInt8} {mem : Vector UInt8 zbIoBufSize}
    {aux : Secur.NwkSecure.ZbNwkAuxFrameHdr} (inside : Inside b) (hdr : NwkHdr .nwkEncr nwk)
    (data : b.data = mac ++ (nwk ++ rest))
    (read : peek b.buf (b.begin_ + mac.length) 2 = some fctl)
    (poked : poke b.buf (b.begin_ + mac.length + zbNwkHdrSize fctl - auxFrameHdrSize) (auxBytes aux) =
      some mem) :
    ∃ nwk', NwkHdr .nwkEncr nwk' ∧ ({ b with buf := mem } : ZbBuf).data = mac ++ (nwk' ++ rest) := by
  have fourteen : auxFrameHdrSize = 14 := rfl
  have room := hdr.aux rfl
  have fits : mac.length + 2 ≤ b.data.length := by
    rw [data, List.length_append, List.length_append]
    omega
  have first := peek_data inside fits
  rw [read, data, List.drop_left] at first
  cases first
  rw [zbNwkHdrSize_take Nat.one_lt_two, zbNwkHdrSize_append hdr.flags, hdr.size] at poked
  let pre := nwk.take (nwk.length - 14)
  let old := nwk.drop (nwk.length - 14)
  have preLength : pre.length = nwk.length - 14 := by
    rw [List.length_take]
    omega
  have oldLength : old.length = 14 := by
    rw [List.length_drop]
    omega
  have split : nwk = pre ++ old := (List.take_append_drop _ _).symm
  have whole : mac ++ (nwk ++ rest) = mac ++ pre ++ old ++ rest := by
    rw [split]
    simp only [List.append_assoc]
  have at_ : b.begin_ + mac.length + nwk.length - auxFrameHdrSize = b.begin_ + (mac ++ pre).length := by
    rw [List.length_append, preLength]
    omega
  have length : (mac ++ pre ++ old ++ rest).length = b.len.toNat := by
    rw [← whole, ← data, length_data inside]
  have stands : slice b.buf b.begin_ (mac ++ pre ++ old ++ rest).length = mac ++ pre ++ old ++ rest := by
    rw [length, ← whole, ← data]
    rfl
  obtain ⟨mem', poked', now, -⟩ := @poke_within zbIoBufSize b.buf b.begin_ (mac ++ pre) old (auxBytes aux)
    rest stands (by rw [length_auxBytes, oldLength]) (by rw [length]; exact inside)
  rw [at_, poked'] at poked
  cases poked
  have long : (pre ++ auxBytes aux).length = nwk.length := by
    rw [List.length_append, length_auxBytes, preLength]
    omega
  refine ⟨pre ++ auxBytes aux, ⟨?_, by rw [long]; exact hdr.flags, fun _ => by rw [long]; exact room⟩, ?_⟩
  · rw [long, ← hdr.size]
    apply zbNwkHdrSize_congr
    rw [getD_append (by omega), getD_take (by omega)]
  · show slice mem b.begin_ b.len.toNat = _
    rw [← length, now]
    simp only [List.append_assoc]

/-- The frame of a request that has its header, or waits for room. -/
theorem fillHdr_data {macPanId : UInt16} {dsn : UInt8} {queueFull : Bool} {outcome : FillHdr}
    (filled : zbMcpsDataRequestFillHdr macPanId dsn queueFull b = some outcome) :
    match outcome with
    | .filled c => ∃ mhr, ShortAddrs mhr ∧ c.data = zbMacFillMhr mhr ++ b.data ∧ Inside c
    | .putBack c => c.data = b.data ∧ Inside c := by
  have hlen : zbMacCalculateMhrLength zbAddr16bitDevOrBroadcast zbAddr16bitDevOrBroadcast 1 = some 9 := by
    decide
  rw [zbMcpsDataRequestFillHdr, hlen, Option.bind_eq_bind, Option.bind_some] at filled
  obtain ⟨d, set, filled⟩ := Option.bind_eq_some_iff.1 filled
  obtain ⟨data, inside, -, -⟩ := setTail_data set
  simp only at filled
  split at filled
  · cases filled
  · split at filled
    · cases filled
      exact ⟨data, inside⟩
    · obtain ⟨e, put, filled⟩ := Option.bind_eq_some_iff.1 filled
      cases filled
      generalize made : ZbMacMhr.mk _ _ _ _ _ _ = mhr at put
      have short : ShortAddrs mhr := by
        refine @shortAddrs_of_fcf mhr macFrameData _ (.inr rfl) ?_
          (congrArg ZbMacMhr.frameControl made).symm
        split
        · exact .inr rfl
        · exact .inl rfl
      obtain ⟨added, within⟩ := putMhr_data inside short put
      exact ⟨_, short, by rw [added, data], within⟩

/-- What APS asks for is no multicast. -/
theorem putNldereq_data {addr : UInt16} {radius secure : UInt8}
    (put : putNldereq addr radius secure b = some c) :
    c.data = b.data ∧ Inside c ∧ dataIsMulticast c = false := by
  obtain ⟨data, inside, -, -⟩ := setTail_data put
  refine ⟨data, inside, ?_⟩
  obtain ⟨p, tail, put⟩ := Option.bind_eq_some_iff.1 put
  obtain ⟨mem, poked, put⟩ := Option.bind_eq_some_iff.1 put
  cases put
  have place : p = nldeReqPlace := by
    rw [zbGetBufTail] at tail
    split at tail
    · exact (Option.some.inj tail).symm
    · cases tail
  let bytes := uint16Bytes addr ++ [radius, zbAddr16bitDevOrBroadcast, 0, 1, secure, 0]
  obtain ⟨mem', poked', here, -⟩ := @poke_slices zbIoBufSize b.buf nldeReqPlace bytes
    (Nat.le_refl 148)
  rw [place] at poked
  obtain rfl : mem = mem' := Option.some.inj (poked.symm.trans poked')
  have mode : (nldeReqAt mem nldeReqPlace).addrMode = 2 := by
    show (mem.toList.drop nldeReqPlace).getD 3 0 = 2
    rw [← getD_take (show 3 < 8 by omega)]
    exact congrArg (fun l : List UInt8 => l.getD 3 0) here
  show ((nldeReqAt mem nldeReqPlace).addrMode == zbAddr16bitMulticast) = false
  rw [mode]
  decide

end Headers

/-! ## The journey -/

section Steps

variable {aes128 : ZbKey → Block → Block} {frame : List UInt8} {s t : Journey}
  {encr : ZbSecurBufEncrType}

/-- The buffer moves on; the entry stays what it is. -/
theorem Good.moved {buf : ZbBuf} {stage : Stage} (good : Good frame s) (elsewhere : s.stage ≠ .held)
    (inside : Inside buf) (stands : Stands frame { s with buf, stage }) :
    Good frame { s with buf, stage } :=
  ⟨inside, fun confirmed => absurd (good.waits confirmed) elsewhere, stands⟩

theorem Good.gone (good : Good frame s) (elsewhere : s.stage ≠ .held) :
    Good frame { s with stage := .gone } :=
  good.moved elsewhere good.inside trivial

theorem Good.done (good : Good frame s) : Good frame (doneWithThisAck s) := by
  refine ⟨good.inside, ?_, trivial⟩
  intro confirmed
  cases confirmed

theorem nldeDataRequest_good {ctx : NwkContext} (good : Good frame s)
    (stage : s.stage = .nldeDataRequest) (joined : ctx.joined = true)
    (took : zbNldeDataRequestCall ctx s = some t) : Good frame t := by
  have elsewhere : s.stage ≠ .held := by
    rw [stage]
    decide
  have stands := good.stands
  simp only [Stands, stage] at stands
  obtain ⟨data, one⟩ := stands
  obtain ⟨outcome, asked, took⟩ := Option.bind_eq_some_iff.1 took
  obtain ⟨unjoined, -⟩ | ⟨c, encr, ctx', rfl, fits, inside⟩ := nldeDataRequest_cases asked
  · rw [joined] at unjoined
    cases unjoined
  · cases took
    apply good.moved elsewhere inside
    obtain ⟨nwk, hdr, built⟩ := nldeDataRequest_data one fits asked
    exact ⟨nwk, hdr, by rw [built, data]⟩

theorem forward_good {pibShortAddress : UInt16} {to_ : Destination} (good : Good frame s)
    (stage : s.stage = .forward encr) (took : zbNwkForward encr pibShortAddress to_ s = some t) :
    Good frame t := by
  have elsewhere : s.stage ≠ .held := by
    rw [stage]
    exact Stage.noConfusion
  have stands := good.stands
  simp only [Stands, stage] at stands
  obtain ⟨nwk, hdr, data⟩ := stands
  obtain ⟨handle, -, took⟩ := Option.bind_eq_some_iff.1 took
  cases to_ with
  | nextHop macDst indirect =>
      obtain ⟨buf, built, took⟩ := Option.bind_eq_some_iff.1 took
      cases took
      obtain ⟨same, inside⟩ := build_data built
      exact good.moved elsewhere inside ⟨nwk, hdr, by rw [same, data]⟩
  | broadcast =>
      obtain ⟨buf, built, took⟩ := Option.bind_eq_some_iff.1 took
      cases took
      obtain ⟨same, inside⟩ := build_data built
      exact good.moved elsewhere inside ⟨nwk, hdr, by rw [same, data]⟩
  | noRouteYet =>
      cases took
      exact good.moved elsewhere good.inside ⟨nwk, hdr, data⟩
  | dropped =>
      cases took
      exact good.gone elsewhere

theorem lastTransmition_good {child : Option UInt16} (good : Good frame s)
    (stage : s.stage = .rebroadcast encr) (took : lastTransmition encr child s = some t) :
    Good frame t := by
  have elsewhere : s.stage ≠ .held := by
    rw [stage]
    exact Stage.noConfusion
  have stands := good.stands
  simp only [Stands, stage] at stands
  obtain ⟨nwk, hdr, data⟩ := stands
  cases child with
  | none =>
      cases took
      exact good.moved elsewhere good.inside ⟨nwk, hdr, data⟩
  | some dstAddr =>
      obtain ⟨buf, set, took⟩ := Option.bind_eq_some_iff.1 took
      cases took
      obtain ⟨same, inside, -, -⟩ := setTail_data set
      exact good.moved elsewhere inside ⟨nwk, hdr, by rw [same, data]⟩

theorem checkSecurity_good {extendedAddress : ZbIeeeAddr} {useSameKey : Bool} {secur : SecurContext}
    {encryptionBuf : ZbBuf} (good : Good frame s) (stage : s.stage = .inMac encr)
    (took : zbMacCheckSecurity aes128 encr extendedAddress useSameKey secur encryptionBuf s = some t) :
    Good frame t := by
  have elsewhere : s.stage ≠ .held := by
    rw [stage]
    exact Stage.noConfusion
  cases encr with
  | noEncr =>
      cases took
      exact good
  | nwkEncr =>
      have stands := good.stands
      simp only [Stands, stage] at stands
      obtain ⟨mhr, nwk, short, hdr, data⟩ := stands
      rw [zbMacCheckSecurity, mhrLengthOf_data good.inside short data, Option.bind_eq_bind,
        Option.bind_some] at took
      obtain ⟨⟨secur', buf, encryptionBuf', ret⟩, secured, took⟩ := Option.bind_eq_some_iff.1 took
      cases took
      obtain ⟨fctl, mem, aux, read, poked, rfl⟩ := secureFrameBuf_src secured
      rw [← length_shortAddrs short] at read poked
      obtain ⟨nwk', hdr', data'⟩ := auxWritten_data good.inside hdr data read poked
      refine ⟨good.inside, fun confirmed => absurd (good.waits confirmed) elsewhere, ?_⟩
      simp only [Stands, stage]
      exact ⟨mhr, nwk', short, hdr', data'⟩

theorem dataReqContinue_good {indirect : Bool} (good : Good frame s) (stage : s.stage = .inMac encr)
    (took : zbHandleMcpsDataReqContinue indirect s = some t) : Good frame t := by
  have elsewhere : s.stage ≠ .held := by
    rw [stage]
    exact Stage.noConfusion
  have stands := good.stands
  simp only [Stands, stage] at stands
  obtain ⟨mhr, nwk, short, hdr, data⟩ := stands
  cases indirect with
  | true =>
      cases took
      exact good.moved elsewhere good.inside ⟨mhr, nwk, encr, short, hdr, data⟩
  | false =>
      obtain ⟨buf, set, took⟩ := Option.bind_eq_some_iff.1 took
      cases took
      obtain ⟨same, inside, -, -⟩ := setTail_data set
      exact good.moved elsewhere inside ⟨mhr, nwk, encr, short, hdr, by rw [same, data]⟩

/-- **The confirm takes off what was put there.** -/
theorem nldeDataConfirm_good (good : Good frame s) (stage : s.stage = .nldeDataConfirm)
    (took : zbNldeDataConfirm s = some t) : Good frame t := by
  have elsewhere : s.stage ≠ .held := by
    rw [stage]
    decide
  have stands := good.stands
  simp only [Stands, stage] at stands
  obtain ⟨mhr, nwk, encr, short, hdr, data⟩ := stands
  obtain ⟨b, cutMac, took⟩ := Option.bind_eq_some_iff.1 took
  obtain ⟨behind, inside⟩ := cutHdr_data good.inside short data cutMac
  obtain ⟨c, cutNwk, took⟩ := Option.bind_eq_some_iff.1 took
  obtain ⟨left, inside⟩ := zbNwkHdrCut_data inside hdr behind cutNwk
  obtain ⟨fc, -, took⟩ := Option.bind_eq_some_iff.1 took
  simp only at took
  split at took
  · cases took
    exact good.moved elsewhere inside trivial
  · split at took
    · cases took
      exact good.moved elsewhere inside trivial
    · cases state : s.ent.state with
      | free =>
          simp only [state] at took
          cases took
          exact good.moved elsewhere inside trivial
      | sentMacConfirmed => exact absurd (good.waits state) elsewhere
      | sentMacNotConfirmed =>
          simp only [state] at took
          cases took
          exact ⟨inside, fun _ => rfl, left⟩
      | sentMacNotConfirmedApsAcked =>
          simp only [state] at took
          cases took
          refine ⟨inside, ?_, trivial⟩
          intro confirmed
          cases confirmed

theorem apsAck_good (good : Good frame s) (took : apsAckFrameHandle s = some t) : Good frame t := by
  cases state : s.ent.state with
  | free =>
      rw [apsAckFrameHandle, state] at took
      cases took
  | sentMacNotConfirmed =>
      rw [apsAckFrameHandle, state] at took
      cases took
      refine ⟨good.inside, ?_, good.stands⟩
      intro confirmed
      cases confirmed
  | sentMacNotConfirmedApsAcked =>
      rw [apsAckFrameHandle, state] at took
      cases took
      exact good.done
  | sentMacConfirmed =>
      rw [apsAckFrameHandle, state] at took
      cases took
      exact good.done

/-- **The timer submits what it has.** -/
theorem ackTimer_good (good : Good frame s) (took : zbApsAckTimerCb s = some t) : Good frame t := by
  obtain ⟨fc, -, took⟩ := Option.bind_eq_some_iff.1 took
  cases state : s.ent.state with
  | free =>
      simp only [state] at took
      cases took
  | sentMacNotConfirmed =>
      simp only [state] at took
      cases took
      exact ⟨good.inside, fun confirmed => good.waits (state.trans confirmed), good.stands⟩
  | sentMacNotConfirmedApsAcked =>
      simp only [state] at took
      cases took
      exact ⟨good.inside, fun confirmed => good.waits (state.trans confirmed), good.stands⟩
  | sentMacConfirmed =>
      have stands := good.stands
      simp only [Stands, good.waits state] at stands
      simp only [state] at took
      by_cases last : (if s.ent.apsRetries = 0 then 0 else s.ent.apsRetries - 1) = 0
      · rw [if_pos last] at took
        cases took
        refine ⟨good.inside, ?_, trivial⟩
        intro confirmed
        cases confirmed
      · rw [if_neg last] at took
        obtain ⟨buf, put, took⟩ := Option.bind_eq_some_iff.1 took
        cases took
        obtain ⟨same, inside, one⟩ := putNldereq_data put
        refine ⟨inside, ?_, same.trans stands, one⟩
        intro confirmed
        cases confirmed

/-! ### One step -/

def asksJoined : Call → Bool
  | .nldeDataRequest ctx => ctx.joined
  | _ => true

/-- The device is joined when NWK is asked. -/
def Joined (_ : Journey) (call : Call) : Prop := asksJoined call = true

instance (s : Journey) (call : Call) : Decidable (Joined s call) :=
  inferInstanceAs (Decidable (asksJoined call = true))

/-- **What stands in the buffer stays there.** -/
theorem good_step {call : Call} (good : Good frame s) (joined : Joined s call)
    (took : step aes128 s call = some t) : Good frame t := by
  unfold step at took
  split at took
  · exact nldeDataRequest_good good ‹_› joined took
  · exact forward_good good ‹_› took
  · next encr handle stage =>
      obtain ⟨buf, set, took⟩ := Option.bind_eq_some_iff.1 took
      cases took
      have stands := good.stands
      simp only [Stands, stage] at stands
      obtain ⟨nwk, hdr, data⟩ := stands
      obtain ⟨same, inside, -, -⟩ := setTail_data set
      exact good.moved (by rw [stage]; exact Stage.noConfusion) inside ⟨nwk, hdr, by rw [same, data]⟩
  · exact lastTransmition_good good ‹_› took
  · next encr networkAddress stage =>
      obtain ⟨buf, put, took⟩ := Option.bind_eq_some_iff.1 took
      cases took
      have stands := good.stands
      simp only [Stands, stage] at stands
      obtain ⟨nwk, hdr, data⟩ := stands
      have short := @shortAddrs_of_fcf ⟨shortAddrsFcf 0 0, 0, 0, ofAddrShort 0xFFFF, 0,
        ofAddrShort networkAddress⟩ 0 0 (.inl rfl) (.inl rfl) rfl
      obtain ⟨added, inside⟩ := putMhr_data good.inside short put
      exact good.moved (by rw [stage]; exact Stage.noConfusion) inside
        ⟨_, nwk, encr, short, hdr, by rw [added, data]⟩
  · next encr macPanId dsn queueFull stage =>
      obtain ⟨outcome, filled, took⟩ := Option.bind_eq_some_iff.1 took
      have stands := good.stands
      simp only [Stands, stage] at stands
      obtain ⟨nwk, hdr, data⟩ := stands
      have elsewhere : s.stage ≠ .held := by
        rw [stage]
        exact Stage.noConfusion
      cases outcome with
      | filled buf =>
          cases took
          obtain ⟨mhr, short, added, inside⟩ := fillHdr_data filled
          exact good.moved elsewhere inside ⟨mhr, nwk, short, hdr, by rw [added, data]⟩
      | putBack buf =>
          cases took
          obtain ⟨same, inside⟩ := fillHdr_data filled
          refine ⟨inside, fun confirmed => absurd (good.waits confirmed) elsewhere, ?_⟩
          simp only [Stands, stage]
          exact ⟨nwk, hdr, by rw [same, data]⟩
  · exact checkSecurity_good good ‹_› took
  · next stage =>
      obtain ⟨buf, set, took⟩ := Option.bind_eq_some_iff.1 took
      cases took
      have stands := good.stands
      simp only [Stands, stage] at stands
      obtain ⟨mhr, nwk, short, hdr, data⟩ := stands
      obtain ⟨mhr', short', data', inside⟩ := setFramePending_data good.inside short data set
      have elsewhere : s.stage ≠ .held := by
        rw [stage]
        exact Stage.noConfusion
      refine ⟨inside, fun confirmed => absurd (good.waits confirmed) elsewhere, ?_⟩
      simp only [Stands, stage]
      exact ⟨mhr', nwk, short', hdr, data'⟩
  · exact dataReqContinue_good good ‹_› took
  · next rejoining stage =>
      obtain ⟨handle, -, took⟩ := Option.bind_eq_some_iff.1 took
      cases took
      have stands := good.stands
      simp only [Stands, stage] at stands
      have elsewhere : s.stage ≠ .held := by
        rw [stage]
        decide
      apply good.moved elsewhere good.inside
      cases isInternalHandle rejoining handle with
      | true => trivial
      | false => exact stands
  · exact nldeDataConfirm_good good ‹_› took
  · cases took
  · exact apsAck_good good took
  · exact ackTimer_good good took
  · cases took

/-! ### Not joined -/

theorem zbMacCalculateMhrLength_bounds {src dst panid : UInt8} {hlen : Nat}
    (length : zbMacCalculateMhrLength src dst panid = some hlen) : 3 ≤ hlen ∧ hlen < 256 := by
  obtain ⟨srcLen, ofSrc, length⟩ := Option.bind_eq_some_iff.1 length
  obtain ⟨dstLen, ofDst, length⟩ := Option.bind_eq_some_iff.1 length
  cases length
  have mode : ∀ {mode : UInt8} {len : Nat}, mhrModeLen mode = some len → len ≤ 8 := by
    intro mode len length
    unfold mhrModeLen at length
    split at length
    · cases length
      omega
    · split at length
      · cases length
        omega
      · cases length
  have srcSmall : srcLen ≤ 10 := by
    split at ofSrc
    · obtain ⟨len, ofMode, rfl⟩ := Option.map_eq_some_iff.1 ofSrc
      have small := mode ofMode
      split <;> omega
    · cases ofSrc
      omega
  have dstSmall : dstLen ≤ 10 := by
    split at ofDst
    · obtain ⟨len, ofMode, rfl⟩ := Option.map_eq_some_iff.1 ofDst
      have small := mode ofMode
      omega
    · cases ofDst
      omega
  omega

/-- **A frame that is confirmed without headers loses its first bytes**, eleven or more. -/
theorem unjoined_shorter {ctx : NwkContext} {u : Journey} (inside : Inside s.buf)
    (unjoined : ctx.joined = false) (asked : zbNldeDataRequestCall ctx s = some t)
    (confirmed : zbNldeDataConfirm t = some u) : u.buf.len.toNat + 11 ≤ s.buf.len.toNat := by
  obtain ⟨outcome, request, asked⟩ := Option.bind_eq_some_iff.1 asked
  obtain ⟨-, rfl⟩ | ⟨c, encr, ctx', rfl, fits, -⟩ := nldeDataRequest_cases request
  · cases asked
    obtain ⟨b, cutMac, confirmed⟩ := Option.bind_eq_some_iff.1 confirmed
    obtain ⟨c, cutNwk, confirmed⟩ := Option.bind_eq_some_iff.1 confirmed
    obtain ⟨fc, -, confirmed⟩ := Option.bind_eq_some_iff.1 confirmed
    have same : u.buf = c := by
      simp only at confirmed
      split at confirmed
      · cases confirmed
        rfl
      · split at confirmed
        · cases confirmed
          rfl
        · split at confirmed <;> cases confirmed <;> rfl
    obtain ⟨hlen, length, cutMac⟩ := Option.bind_eq_some_iff.1 cutMac
    obtain ⟨fcf, -, length⟩ := Option.bind_eq_some_iff.1 length
    obtain ⟨three, small⟩ := zbMacCalculateMhrLength_bounds length
    obtain ⟨-, inside', len, enough⟩ := cutLeft_data inside cutMac
    obtain ⟨fctl, -, cutNwk⟩ := Option.bind_eq_some_iff.1 cutNwk
    obtain ⟨-, -, len', enough'⟩ := cutLeft_data inside' cutNwk
    have eight : 8 ≤ zbNwkHdrSize fctl := by
      unfold zbNwkHdrSize zbNwkShortHdrSize dstIeeeAddrOffset
      omega
    rw [UInt8.toNat_ofNat_of_lt' small] at len enough
    rw [UInt8.toNat_ofNat_of_lt' (zbNwkHdrSize_lt fctl)] at len' enough'
    rw [same]
    omega
  · rw [fits.joined] at unjoined
    cases unjoined

/-! ### Runs -/

/-- A recorded frame is submitted for the first time. -/
def start (b₀ : ZbBuf) (ent : ZbApsRetransEnt) : Journey where
  buf := b₀
  stage := .nldeDataRequest
  ent := { ent with state := .sentMacNotConfirmed }

/-- **A retransmission repeats the frame.**  In every run in which the device is joined
when NWK is asked, the buffer is the frame when the confirm has been handled, and when it
is submitted again. -/
theorem repeats (aes128 : ZbKey → Block → Block) {addr : UInt16} {radius secure : UInt8}
    {b b₀ : ZbBuf} (put : putNldereq addr radius secure b = some b₀) (ent : ZbApsRetransEnt)
    (calls : List Call) (joined : Along (step aes128) Joined (start b₀ ent) calls)
    (ran : run (step aes128) (start b₀ ent) calls = some s)
    (here : s.stage = .held ∨ s.stage = .nldeDataRequest) : s.buf.data = b.data := by
  obtain ⟨data, inside, one⟩ := putNldereq_data put
  have started : Good b.data (start b₀ ent) := by
    refine ⟨inside, ?_, data, one⟩
    intro confirmed
    cases confirmed
  have good := run_invariant (fun s call t good joined took => good_step good joined took)
    started joined ran
  have stands := good.stands
  rcases here with held | submitted
  · simp only [Stands, held] at stands
    exact stands
  · simp only [Stands, submitted] at stands
    exact stands.1

end Steps

/-! ## Two devices -/

/-- A frame of nineteen bytes that asks for an acknowledgement, to endpoint 1. -/
def frameBuf : ZbBuf where
  buf := (Vector.replicate zbIoBufSize 0x40).setIfInBounds 61 1
  len := 19
  dataOffset := 60

def frameEnt : ZbApsRetransEnt := ⟨0xFFFD, 0x4040, 0x40, 0x40, 1, 5, 3, false, .free⟩

/-- A device in a network without security, or in none. -/
def plainContext (joined : Bool) : NwkContext := ⟨1, 7, 5, false, 0, joined, false⟩

/-- A broadcast all neighbours have heard, and its repetition. -/
def broadcastTwice : List Call :=
  [.nldeDataRequest (plainContext true), .forward 1 .broadcast, .callBrConfirm 1,
    .mcpsDataConfirm false, .nldeDataConfirm, .ackTimer]

theorem repeats_broadcastTwice :
    ∃ b₀ s, putNldereq 0xFFFD 0 0 frameBuf = some b₀ ∧
      run (step fun _ block => block) (start b₀ frameEnt) broadcastTwice = some s ∧
      s.stage = .nldeDataRequest ∧ s.buf.data = frameBuf.data := by
  obtain ⟨b₀, put, ran⟩ := Option.bind_eq_some_iff.1
    (by decide +kernel : ((putNldereq 0xFFFD 0 0 frameBuf).bind fun b₀ =>
      (run (step fun _ block => block) (start b₀ frameEnt) broadcastTwice).map fun s => s.stage) =
        some .nldeDataRequest)
  obtain ⟨s, ran, submitted⟩ := Option.map_eq_some_iff.1 ran
  refine ⟨b₀, s, put, ran, submitted, ?_⟩
  refine repeats (fun _ block => block) put frameEnt broadcastTwice ?_ ran (.inr submitted)
  exact along_of_mem (by decide)

/-- **A device that is not joined repeats less**: eleven bytes are taken off the frame. -/
theorem unjoined_loses_bytes :
    ¬ ∀ (aes128 : ZbKey → Block → Block) (addr : UInt16) (radius secure : UInt8) (b b₀ : ZbBuf)
      (ent : ZbApsRetransEnt) (calls : List Call) (s : Journey),
      putNldereq addr radius secure b = some b₀ →
        run (step aes128) (start b₀ ent) calls = some s →
          (s.stage = .held ∨ s.stage = .nldeDataRequest) → s.buf.data = b.data := by
  intro claim
  obtain ⟨b₀, put, ran⟩ := Option.bind_eq_some_iff.1
    (by decide +kernel : ((putNldereq 0xFFFD 0 0 frameBuf).bind fun b₀ =>
      (run (step fun _ block => block) (start b₀ frameEnt)
        [.nldeDataRequest (plainContext false), .nldeDataConfirm, .ackTimer]).map
          fun s => (s.stage, s.buf.data)) = some (.nldeDataRequest, List.replicate 8 0x40))
  obtain ⟨s, ran, ends⟩ := Option.map_eq_some_iff.1 ran
  rw [Prod.mk.injEq] at ends
  have same := claim (fun _ block => block) 0xFFFD 0 0 frameBuf b₀ frameEnt _ s put ran (.inr ends.1)
  rw [ends.2] at same
  exact absurd (congrArg List.length same) (by decide +kernel)

end Zboss.Aps.Retransmit
