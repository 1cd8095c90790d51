/-
# Mac.Header -- the MAC header, parsed and filled again

`zb_parse_mhr` on the bytes from the header on, and `zb_mac_fill_mhr` as the bytes
it writes.  An address is a union: a short one lies in the first two of its eight
bytes.  MAC security is not compiled, so there is no auxiliary header.

The length of a header goes by its frame control alone, whether it was parsed (`zbParseMhr_length`)
or is filled (`length_zbMacFillMhr`).
-/
import Mathlib
import Zboss.Common.Constants
import Zboss.Common.PacketBuf

namespace Zboss.Mac.Header

open Zboss.Common.Constants
open Zboss.Common.Types
open Zboss.Common.PacketBuf

set_option autoImplicit false

/-- `zb_mac_mhr_t`. -/
structure ZbMacMhr where
  frameControl : UInt8 × UInt8
  seqNumber : UInt8
  dstPanId : UInt16
  dstAddr : ZbIeeeAddr
  srcPanId : UInt16
  srcAddr : ZbIeeeAddr
  deriving DecidableEq

/-- `addr_short` of the union. -/
def addrShort (addr : ZbIeeeAddr) : UInt16 := uint16At 0 addr.toList

/-- The union that holds a short address, its other bytes zero. -/
def ofAddrShort (addr : UInt16) : ZbIeeeAddr := ieeeAddrAt 0 (uint16Bytes addr)

section FrameControl

variable (fcf : UInt8 × UInt8)

def fcfGetPanidCompressionBit : UInt8 := fcf.1 &&& 0x40

def fcfGetSrcAddressingMode : UInt8 := (fcf.2 &&& 0xC0) >>> 6

def fcfGetDstAddressingMode : UInt8 := (fcf.2 &&& 0x0C) >>> 2

end FrameControl

/-- The bytes an address takes; any mode but that of the short one is a long one's. -/
def mhrAddrLen (mode : UInt8) : Nat := if mode = zbAddr16bitDevOrBroadcast then 2 else 8

def mhrAddrAt (mode : UInt8) (at_ : Nat) (p : List UInt8) : ZbIeeeAddr :=
  if mode = zbAddr16bitDevOrBroadcast then ofAddrShort (uint16At at_ p) else ieeeAddrAt at_ p

/-- Destination Addressing Mode subfield: the PAN identifier, the address, and where
they end. -/
def mhrDstAt (mode : UInt8) (p : List UInt8) : UInt16 × ZbIeeeAddr × Nat :=
  if mode ≠ 0 then (uint16At 3 p, mhrAddrAt mode 5 p, 5 + mhrAddrLen mode)
  else (0, Vector.replicate 8 0, 3)

/-- Source Addressing Mode subfield; with PAN ID compression the identifier is the
destination's. -/
def mhrSrcAt (mode panidCompression : UInt8) (dstPanId : UInt16) (at_ : Nat) (p : List UInt8) :
    UInt16 × ZbIeeeAddr × Nat :=
  if mode ≠ 0 then
    if panidCompression = 0 then
      (uint16At at_ p, mhrAddrAt mode (at_ + 2) p, at_ + 2 + mhrAddrLen mode)
    else (dstPanId, mhrAddrAt mode at_ p, at_ + mhrAddrLen mode)
  else (0, Vector.replicate 8 0, at_)

/-- The header, and its length. -/
def zbParseMhr (p : List UInt8) : ZbMacMhr × Nat :=
  let frameControl := (p.getD 0 0, p.getD 1 0)
  let dst := mhrDstAt (fcfGetDstAddressingMode frameControl) p
  let src := mhrSrcAt (fcfGetSrcAddressingMode frameControl) (fcfGetPanidCompressionBit frameControl)
    dst.1 dst.2.2 p
  ({ frameControl
     seqNumber := p.getD 2 0
     dstPanId := dst.1
     dstAddr := dst.2.1
     srcPanId := src.1
     srcAddr := src.2.1 }, src.2.2)

def mhrAddrBytes (mode : UInt8) (addr : ZbIeeeAddr) : List UInt8 :=
  if mode = zbAddr16bitDevOrBroadcast then uint16Bytes (addrShort addr) else addr.toList

/-- Fill packed mac header. -/
def zbMacFillMhr (mhr : ZbMacMhr) : List UInt8 :=
  let dst := fcfGetDstAddressingMode mhr.frameControl
  let src := fcfGetSrcAddressingMode mhr.frameControl
  [mhr.frameControl.1, mhr.frameControl.2, mhr.seqNumber] ++
    (if dst ≠ 0 then uint16Bytes mhr.dstPanId ++ mhrAddrBytes dst mhr.dstAddr else []) ++
    (if src ≠ 0 then
      (if fcfGetPanidCompressionBit mhr.frameControl = 0 then uint16Bytes mhr.srcPanId else []) ++
        mhrAddrBytes src mhr.srcAddr
    else [])

theorem length_mhrAddrBytes (mode : UInt8) (addr : ZbIeeeAddr) :
    (mhrAddrBytes mode addr).length = mhrAddrLen mode := by
  by_cases short : mode = zbAddr16bitDevOrBroadcast <;> simp [mhrAddrBytes, mhrAddrLen, short, uint16Bytes]

/-- The length of a header by its frame control. -/
def mhrLen (fcf : UInt8 × UInt8) : Nat :=
  3 + (if fcfGetDstAddressingMode fcf ≠ 0 then 2 + mhrAddrLen (fcfGetDstAddressingMode fcf) else 0) +
    if fcfGetSrcAddressingMode fcf ≠ 0 then
      (if fcfGetPanidCompressionBit fcf = 0 then 2 else 0) + mhrAddrLen (fcfGetSrcAddressingMode fcf)
    else 0

theorem mhrDstAt_end (mode : UInt8) (p : List UInt8) :
    (mhrDstAt mode p).2.2 = 3 + if mode ≠ 0 then 2 + mhrAddrLen mode else 0 := by
  rw [mhrDstAt]
  split
  · show 5 + mhrAddrLen mode = 3 + (2 + mhrAddrLen mode)
    omega
  · rfl

theorem mhrSrcAt_end (mode panidCompression : UInt8) (dstPanId : UInt16) (at_ : Nat) (p : List UInt8) :
    (mhrSrcAt mode panidCompression dstPanId at_ p).2.2 =
      at_ + if mode ≠ 0 then (if panidCompression = 0 then 2 else 0) + mhrAddrLen mode else 0 := by
  rw [mhrSrcAt]
  by_cases absent : mode ≠ 0
  · rw [if_pos absent, if_pos absent]
    by_cases full : panidCompression = 0
    · rw [if_pos full, if_pos full, Nat.add_assoc]
    · rw [if_neg full, if_neg full, Nat.zero_add]
  · rw [if_neg absent, if_neg absent]
    rfl

theorem zbParseMhr_length (p : List UInt8) :
    (zbParseMhr p).2 = mhrLen (zbParseMhr p).1.frameControl := by
  show (mhrSrcAt _ _ _ (mhrDstAt _ p).2.2 p).2.2 = mhrLen (p.getD 0 0, p.getD 1 0)
  rw [mhrSrcAt_end, mhrDstAt_end, mhrLen]

theorem length_zbMacFillMhr (mhr : ZbMacMhr) : (zbMacFillMhr mhr).length = mhrLen mhr.frameControl := by
  rw [zbMacFillMhr, mhrLen, List.length_append, List.length_append]
  congr 1
  · congr 1
    split
    · rw [List.length_append, length_mhrAddrBytes]
      rfl
    · rfl
  · by_cases absent : fcfGetSrcAddressingMode mhr.frameControl ≠ 0
    · rw [if_pos absent, if_pos absent, List.length_append, length_mhrAddrBytes]
      congr 1
      split <;> rfl
    · rw [if_neg absent, if_neg absent]
      rfl

end Zboss.Mac.Header
