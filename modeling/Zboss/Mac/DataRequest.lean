/-
# Mac.DataRequest -- what a data request puts before a packet, and what takes it off

`zbMcpsBuildDataRequest` writes the parameters of a request into the tail of the packet,
`zbMcpsDataRequestFillHdr` puts the MAC header before it, `zbNwkCallBrConfirm` makes one up
for a broadcast that is not sent again, and `zbMacCutHdrWithoutTrailer` takes either off.
MAC security and the checksum behind the packet are not compiled.

* `data_of_tail`: a tail lies behind the packet, so parameters leave it alone;
* `putMhr_data`, `cutHdr_data`: a header goes before the packet, and off again.
-/
import Mathlib
import Zboss.Common.Constants
import Zboss.Common.PacketBuf
import Zboss.Mac.Header

namespace Zboss.Mac.DataRequest

open Zboss.Common.Constants
open Zboss.Common.Types
open Zboss.Common.PacketBuf
open Zboss.Secur.Ccm
open Zboss.Secur.CcmRoundTrip
open Zboss.Mac.Header

set_option autoImplicit false

/-! ## Parameters -/

def macTxOptionAcknowledgedBit : UInt8 := 1

def macTxOptionIndirectTransmissionBit : UInt8 := 4

/-- `zb_mcps_data_req_params_t`. -/
structure ZbMcpsDataReqParams where
  srcAddr : UInt16
  dstAddr : UInt16
  txOptions : UInt8
  mhrLen : UInt8
  msduHandle : UInt8

/-- With a byte that is not used. -/
def zbMcpsDataReqParamsSize : UInt8 := 8

def mcpsReqAt (mem : Vector UInt8 zbIoBufSize) (at_ : Nat) : ZbMcpsDataReqParams :=
  let p := mem.toList.drop at_
  { srcAddr := uint16At 0 p
    dstAddr := uint16At 2 p
    txOptions := p.getD 4 0
    mhrLen := p.getD 5 0
    msduHandle := p.getD 6 0 }

/-- Parameters of this size, some of them written. -/
def setTail (size : UInt8) (field : Nat) (bytes : List UInt8) (b : ZbBuf) : Option ZbBuf := do
  let p ← zbGetBufTail size b
  let mem ← poke b.buf (p + field) bytes
  return { b with buf := mem }

/-- `ZB_MCPS_BUILD_DATA_REQUEST`. -/
def zbMcpsBuildDataRequest (srcAddr dstAddr : UInt16) (txOptions msduHandle : UInt8) (b : ZbBuf) :
    Option ZbBuf := do
  let b ← setTail zbMcpsDataReqParamsSize 0 (uint16Bytes srcAddr ++ uint16Bytes dstAddr ++ [txOptions]) b
  setTail zbMcpsDataReqParamsSize 6 [msduHandle] b

/-! ## Headers -/

/-- The length of an address; of any other mode it is asserted. -/
def mhrModeLen (mode : UInt8) : Option Nat :=
  if mode = zbAddr16bitDevOrBroadcast then some 2 else if mode = zbAddr64bitDev then some 8 else none

def zbMacCalculateMhrLength (srcAddrMode dstAddrMode panidCompression : UInt8) : Option Nat := do
  let src ← (if srcAddrMode ≠ 0 then
      (mhrModeLen srcAddrMode).map fun len => (if panidCompression = 0 then 2 else 0) + len
    else some 0)
  let dst ← (if dstAddrMode ≠ 0 then (mhrModeLen dstAddrMode).map fun len => 2 + len else some 0)
  return 3 + src + dst

/-- The frame control of a header with short addresses and one PAN identifier. -/
def shortAddrsFcf (frameType ackRequest : UInt8) : UInt8 × UInt8 :=
  (frameType ||| ackRequest <<< 5 ||| 0x40, zbAddr16bitDevOrBroadcast <<< 2 ||| zbAddr16bitDevOrBroadcast <<< 6)

/-- Space for a header, and the header. -/
def putMhr (mhr : ZbMacMhr) (b : ZbBuf) : Option ZbBuf := do
  let hlen ← zbMacCalculateMhrLength zbAddr16bitDevOrBroadcast zbAddr16bitDevOrBroadcast 1
  let b ← zbBufSmartAllocLeft (UInt8.ofNat hlen) b
  let mem ← poke b.buf b.begin_ (zbMacFillMhr mhr)
  return { b with buf := mem }

/-- What has become of a request: its header is there, or it waits for room in the queue of
indirect frames. -/
inductive FillHdr where
  | filled (b : ZbBuf)
  | putBack (b : ZbBuf)

def zbMcpsDataRequestFillHdr (macPanId : UInt16) (dsn : UInt8) (queueFull : Bool) (b : ZbBuf) :
    Option FillHdr := do
  let hlen ← zbMacCalculateMhrLength zbAddr16bitDevOrBroadcast zbAddr16bitDevOrBroadcast 1
  let b ← setTail zbMcpsDataReqParamsSize 5 [UInt8.ofNat hlen] b
  let req := mcpsReqAt b.buf (zbIoBufSize - zbMcpsDataReqParamsSize.toNat)
  if 255 < b.len.toNat + hlen then none
  else if req.txOptions &&& macTxOptionIndirectTransmissionBit ≠ 0 ∧ queueFull then
    return .putBack b
  else
    let ackRequest : UInt8 := if req.txOptions &&& macTxOptionAcknowledgedBit ≠ 0 then 1 else 0
    let b ← putMhr
      { frameControl := shortAddrsFcf macFrameData ackRequest
        seqNumber := dsn
        dstPanId := macPanId
        dstAddr := ofAddrShort req.dstAddr
        srcPanId := macPanId
        srcAddr := ofAddrShort req.srcAddr } b
    return .filled b

/-- Add MAC hdr to the frame, as far as higher levels look at it. -/
def zbNwkCallBrConfirm (networkAddress : UInt16) (b : ZbBuf) : Option ZbBuf :=
  putMhr
    { frameControl := shortAddrsFcf 0 0
      seqNumber := 0
      dstPanId := 0
      dstAddr := ofAddrShort 0xFFFF
      srcPanId := 0
      srcAddr := ofAddrShort networkAddress } b

/-- The length of the header a packet begins with. -/
def mhrLengthOf (b : ZbBuf) : Option Nat := do
  let fc ← peek b.buf b.begin_ 2
  let fcf := (fc.getD 0 0, fc.getD 1 0)
  zbMacCalculateMhrLength (fcfGetSrcAddressingMode fcf) (fcfGetDstAddressingMode fcf)
    (fcfGetPanidCompressionBit fcf)

/-- `ZB_FCF_SET_FRAME_PENDING_BIT` on the header a packet begins with. -/
def setFramePending (b : ZbBuf) : Option ZbBuf := do
  let fc ← peek b.buf b.begin_ 2
  let mem ← poke b.buf b.begin_ [fc.getD 0 0 &&& 0xEF ||| 0x10, fc.getD 1 0]
  return { b with buf := mem }

/-- Remove MAC header from the packet. -/
def zbMacCutHdrWithoutTrailer (b : ZbBuf) : Option ZbBuf := do
  let hlen ← mhrLengthOf b
  zbBufCutLeft (UInt8.ofNat hlen) b

/-! ## The packet behind them -/

section Data

variable {b c : ZbBuf} {mhr : ZbMacMhr}

/-- The packet lies in its buffer. -/
def Inside (b : ZbBuf) : Prop := b.begin_ + b.len.toNat ≤ zbIoBufSize

/-- **A tail lies behind the packet.** -/
theorem data_of_tail {size : UInt8} {p at_ : Nat} {bytes : List UInt8}
    {mem : Vector UInt8 zbIoBufSize} (tail : zbGetBufTail size b = some p) (behind : p ≤ at_)
    (poked : poke b.buf at_ bytes = some mem) :
    ({ b with buf := mem } : ZbBuf).data = b.data ∧ Inside b := by
  have fits : b.len.toNat + b.begin_ + size.toNat ≤ zbIoBufSize := by
    by_contra over_
    rw [zbGetBufTail, if_neg over_] at tail
    cases tail
  have place : p = zbIoBufSize - size.toNat := by
    rw [zbGetBufTail, if_pos fits] at tail
    exact (Option.some.inj tail).symm
  have room : at_ + bytes.length ≤ zbIoBufSize := by
    by_contra over_
    rw [poke, dif_neg over_] at poked
    cases poked
  obtain ⟨mem', poked', -, before, -⟩ := @poke_slices zbIoBufSize b.buf at_ bytes room
  rw [poked] at poked'
  cases poked'
  refine ⟨?_, ?_⟩
  · exact before b.begin_ b.len.toNat (by omega)
  · unfold Inside
    omega

theorem setTail_data {size : UInt8} {field : Nat} {bytes : List UInt8}
    (set : setTail size field bytes b = some c) :
    c.data = b.data ∧ Inside c ∧ c.begin_ = b.begin_ ∧ c.len = b.len := by
  obtain ⟨p, tail, rest⟩ := Option.bind_eq_some_iff.1 set
  obtain ⟨mem, poked, rest⟩ := Option.bind_eq_some_iff.1 rest
  cases rest
  obtain ⟨data, inside⟩ := data_of_tail tail (Nat.le_add_right ..) poked
  exact ⟨data, inside, rfl, rfl⟩

theorem build_data {srcAddr dstAddr : UInt16} {txOptions msduHandle : UInt8}
    (built : zbMcpsBuildDataRequest srcAddr dstAddr txOptions msduHandle b = some c) :
    c.data = b.data ∧ Inside c := by
  obtain ⟨d, first, second⟩ := Option.bind_eq_some_iff.1 built
  obtain ⟨data, -, -, -⟩ := setTail_data first
  obtain ⟨data', inside, -, -⟩ := setTail_data second
  exact ⟨data'.trans data, inside⟩

/-- A header with short addresses and one PAN identifier. -/
structure ShortAddrs (mhr : ZbMacMhr) : Prop where
  src : fcfGetSrcAddressingMode mhr.frameControl = zbAddr16bitDevOrBroadcast
  dst : fcfGetDstAddressingMode mhr.frameControl = zbAddr16bitDevOrBroadcast
  panid : fcfGetPanidCompressionBit mhr.frameControl ≠ 0

theorem shortAddrs_of_fcf {frameType ackRequest : UInt8} (type : frameType = 0 ∨ frameType = 1)
    (bit : ackRequest = 0 ∨ ackRequest = 1)
    (fcf : mhr.frameControl = shortAddrsFcf frameType ackRequest) : ShortAddrs mhr := by
  constructor <;> rw [fcf] <;> rcases type with rfl | rfl <;> rcases bit with rfl | rfl <;> decide

theorem length_shortAddrs (short : ShortAddrs mhr) : (zbMacFillMhr mhr).length = 9 := by
  rw [length_zbMacFillMhr, mhrLen, short.src, short.dst, if_neg short.panid]
  decide

/-- **A header goes before the packet.** -/
theorem putMhr_data (inside : Inside b) (short : ShortAddrs mhr) (put : putMhr mhr b = some c) :
    c.data = zbMacFillMhr mhr ++ b.data ∧ Inside c := by
  have len := length_shortAddrs short
  have hlen : zbMacCalculateMhrLength zbAddr16bitDevOrBroadcast zbAddr16bitDevOrBroadcast 1 = some 9 := by
    decide
  rw [putMhr, hlen, Option.bind_eq_bind, Option.bind_some] at put
  obtain ⟨d, allocated, put⟩ := Option.bind_eq_some_iff.1 put
  obtain ⟨mem, poked, put⟩ := Option.bind_eq_some_iff.1 put
  cases put
  obtain ⟨d', allocated', total, within, data, -⟩ :=
    smartAllocLeft_spec (allocLeft_room allocated) inside
  rw [allocated] at allocated'
  cases allocated'
  have nine : (UInt8.ofNat 9).toNat = 9 := rfl
  rw [nine] at total data
  obtain ⟨mem', poked', here, -, after⟩ := @poke_slices zbIoBufSize d.buf d.begin_ (zbMacFillMhr mhr)
    (by omega)
  rw [poked] at poked'
  cases poked'
  rw [len] at here after
  refine ⟨?_, within⟩
  show slice mem d.begin_ d.len.toNat = _
  rw [total, slice_add, here, after (d.begin_ + 9) _ (le_refl _), data]

theorem cutLeft_data {size : UInt8} (inside : Inside b) (cut : zbBufCutLeft size b = some c) :
    c.data = b.data.drop size.toNat ∧ Inside c ∧ c.len.toNat = b.len.toNat - size.toNat ∧
      size.toNat ≤ b.len.toNat := by
  have enough : size.toNat ≤ b.len.toNat := by
    by_contra short
    rw [zbBufCutLeft, if_neg (fun le => short (UInt8.le_iff_toNat_le.1 le))] at cut
    cases cut
  obtain ⟨c', cut', same, begins, len⟩ := cutLeft_spec enough inside
  rw [cut] at cut'
  cases cut'
  refine ⟨?_, ?_, len, enough⟩
  · show slice c.buf c.begin_ c.len.toNat = (slice b.buf b.begin_ b.len.toNat).drop size.toNat
    rw [drop_slice, same, begins, len]
  · unfold Inside at inside ⊢
    omega

/-- The first bytes of a packet, read. -/
theorem peek_data {n at_ : Nat} (inside : Inside b) (enough : at_ + n ≤ b.data.length) :
    peek b.buf (b.begin_ + at_) n = some ((b.data.drop at_).take n) := by
  rw [length_data inside] at enough
  unfold Inside at inside
  rw [peek_slice (by omega), data_eq_slice, drop_slice, take_slice _ _ (by omega)]

/-- The length of the header is read from it. -/
theorem mhrLengthOf_data {rest : List UInt8} (inside : Inside b) (short : ShortAddrs mhr)
    (data : b.data = zbMacFillMhr mhr ++ rest) : mhrLengthOf b = some 9 := by
  have fits : 0 + 2 ≤ b.data.length := by
    rw [data, List.length_append, length_shortAddrs short]
    omega
  have first : (b.data.drop 0).take 2 = [mhr.frameControl.1, mhr.frameControl.2] := by
    rw [data, zbMacFillMhr]
    rfl
  have read := peek_data inside fits
  rw [Nat.add_zero, first] at read
  rw [mhrLengthOf, read]
  show zbMacCalculateMhrLength (fcfGetSrcAddressingMode mhr.frameControl)
    (fcfGetDstAddressingMode mhr.frameControl) (fcfGetPanidCompressionBit mhr.frameControl) = some 9
  rw [zbMacCalculateMhrLength, short.src, short.dst, if_neg short.panid]
  decide

/-- **The header comes off again.** -/
theorem cutHdr_data {rest : List UInt8} (inside : Inside b) (short : ShortAddrs mhr)
    (data : b.data = zbMacFillMhr mhr ++ rest) (cut : zbMacCutHdrWithoutTrailer b = some c) :
    c.data = rest ∧ Inside c := by
  rw [zbMacCutHdrWithoutTrailer, mhrLengthOf_data inside short data, Option.bind_eq_bind,
    Option.bind_some] at cut
  obtain ⟨dropped, inside', -, -⟩ := cutLeft_data inside cut
  refine ⟨?_, inside'⟩
  rw [dropped, data]
  show (zbMacFillMhr mhr ++ rest).drop 9 = rest
  rw [← length_shortAddrs short, List.drop_left]

/-- The header is the same but for a bit of its frame control. -/
theorem setFramePending_data {rest : List UInt8} (inside : Inside b) (short : ShortAddrs mhr)
    (data : b.data = zbMacFillMhr mhr ++ rest) (set : setFramePending b = some c) :
    ∃ mhr', ShortAddrs mhr' ∧ c.data = zbMacFillMhr mhr' ++ rest ∧ Inside c := by
  obtain ⟨fc, read, set⟩ := Option.bind_eq_some_iff.1 set
  obtain ⟨mem, poked, set⟩ := Option.bind_eq_some_iff.1 set
  cases set
  have fits : 0 + 2 ≤ b.data.length := by
    rw [data, List.length_append, length_shortAddrs short]
    omega
  have first := peek_data inside fits
  rw [Nat.add_zero, read, data] at first
  cases first
  have two : (zbMacFillMhr mhr).take 2 = [mhr.frameControl.1, mhr.frameControl.2] := rfl
  have split : zbMacFillMhr mhr ++ rest =
      [] ++ [mhr.frameControl.1, mhr.frameControl.2] ++ ((zbMacFillMhr mhr).drop 2 ++ rest) := by
    rw [← two, List.nil_append, ← List.append_assoc, List.take_append_drop]
  let fc := mhr.frameControl.1 &&& 0xEF ||| 0x10
  let mhr' : ZbMacMhr := { mhr with frameControl := (fc, mhr.frameControl.2) }
  have pan : fcfGetPanidCompressionBit (fc, mhr.frameControl.2) =
      fcfGetPanidCompressionBit mhr.frameControl := by
    have bits : ∀ c : UInt8, (c &&& 0xEF ||| 0x10) &&& 0x40 = c &&& 0x40 := by
      decide +kernel
    exact bits mhr.frameControl.1
  have same : zbMacFillMhr mhr' = [fc, mhr.frameControl.2] ++ (zbMacFillMhr mhr).drop 2 := by
    simp only [zbMacFillMhr, mhr', pan]
    rfl
  have stands : slice b.buf b.begin_ (([] : List UInt8) ++
      [mhr.frameControl.1, mhr.frameControl.2] ++ ((zbMacFillMhr mhr).drop 2 ++ rest)).length =
      [] ++ [mhr.frameControl.1, mhr.frameControl.2] ++ ((zbMacFillMhr mhr).drop 2 ++ rest) := by
    rw [← split, ← data, length_data inside]
    rfl
  obtain ⟨mem', poked', now, -⟩ := @poke_within zbIoBufSize b.buf b.begin_ [] [mhr.frameControl.1, mhr.frameControl.2]
    [fc, mhr.frameControl.2] _ stands rfl (by
    rw [← split, ← data, length_data inside]
    exact inside)
  rw [List.length_nil, Nat.add_zero] at poked'
  obtain rfl : mem = mem' := Option.some.inj (poked.symm.trans poked')
  refine ⟨mhr', ⟨short.src, short.dst, ?_⟩, ?_, inside⟩
  · rw [pan]
    exact short.panid
  · show slice mem b.begin_ b.len.toNat = _
    rw [same, List.append_assoc, ← length_data inside, data, split]
    simpa using now

end Data

end Zboss.Mac.DataRequest
