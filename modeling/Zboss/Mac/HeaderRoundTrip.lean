/-
# Mac.HeaderRoundTrip -- writer, parser, length and callers of the MAC header

`zbParseMhr_fill`: the parser finds in the bytes of the writer what is present in them, wherever the
frame goes on behind.  `length_calculated`: `zb_mac_calculate_mhr_length` of the modes of a frame
control is the number of bytes written, and read.

Every command computes the length first and the frame control later.  `MhrCaller` is the list of
them, each with what its caller decides; `headerMade` is the pair it makes.

* `roundTrip_iff`: a frame reads back, and a command passes the same modes to both, exactly if it
  is not the beacon request, whose two modes stand the wrong way round (`beaconRequest_swapped`);
* `made_length`: the length is nevertheless right for every command.

Pole: `zbParseMhr_fill`.
-/
import Mathlib
import Zboss.Common.Constants
import Zboss.Mac.Header

namespace Zboss.Mac.HeaderRoundTrip

open Zboss.Common.Constants
open Zboss.Common.Types
open Zboss.Common.PacketBuf
open Zboss.Mac.Header

set_option autoImplicit false

abbrev FrameControl := UInt8 × UInt8

/-! ## The length -/

/-- Calculates length of mac header inside MAC frame; nothing is an assertion. -/
def zbMacCalculateMhrLength (srcAddrMode dstAddrMode panidCompression : UInt8) : Option UInt8 := do
  let len : UInt8 := 3
  let len ←
    if srcAddrMode ≠ zbAddrNoAddr then do
      guard (srcAddrMode = zbAddr16bitDevOrBroadcast ∨ srcAddrMode = zbAddr64bitDev)
      let len := if panidCompression = 0 then len + 2 else len
      let len := len + 2
      pure (if srcAddrMode = zbAddr64bitDev then len + 6 else len)
    else pure len
  if dstAddrMode ≠ zbAddrNoAddr then do
    guard (dstAddrMode = zbAddr16bitDevOrBroadcast ∨ dstAddrMode = zbAddr64bitDev)
    let len := len + (2 + 2)
    pure (if dstAddrMode = zbAddr64bitDev then len + 6 else len)
  else pure len

/-- None, a short address, or a long one. -/
def Mode (mode : UInt8) : Prop :=
  mode = zbAddrNoAddr ∨ mode = zbAddr16bitDevOrBroadcast ∨ mode = zbAddr64bitDev

instance (mode : UInt8) : Decidable (Mode mode) :=
  inferInstanceAs (Decidable (mode = zbAddrNoAddr ∨ _))

/-- The bytes of a header with these modes. -/
def lengthOf (srcAddrMode dstAddrMode : UInt8) (compressed : Bool) : Nat :=
  3 + (if dstAddrMode ≠ 0 then 2 + mhrAddrLen dstAddrMode else 0) +
    if srcAddrMode ≠ 0 then (if compressed then 0 else 2) + mhrAddrLen srcAddrMode else 0

/-- The modes of a frame control, the source's first, and whether there is one PAN identifier. -/
def modesOf (fcf : FrameControl) : UInt8 × UInt8 × Bool :=
  (fcfGetSrcAddressingMode fcf, fcfGetDstAddressingMode fcf, fcfGetPanidCompressionBit fcf != 0)

theorem mhrLen_modes (fcf : FrameControl) :
    mhrLen fcf = lengthOf (modesOf fcf).1 (modesOf fcf).2.1 (modesOf fcf).2.2 := by
  by_cases full : fcfGetPanidCompressionBit fcf = 0
  · have none_ : (fcfGetPanidCompressionBit fcf != 0) = false := by rw [full]; rfl
    simp only [mhrLen, lengthOf, modesOf, none_, if_pos full, Bool.false_eq_true, if_false]
  · have some_ : (fcfGetPanidCompressionBit fcf != 0) = true := bne_iff_ne.2 full
    simp only [mhrLen, lengthOf, modesOf, some_, if_neg full, if_true]

theorem lengthOf_lt (srcAddrMode dstAddrMode : UInt8) (compressed : Bool) :
    lengthOf srcAddrMode dstAddrMode compressed < 256 := by
  have most : ∀ mode, mhrAddrLen mode ≤ 8 := by
    intro mode
    rw [mhrAddrLen]
    split <;> omega
  have src := most srcAddrMode
  have dst := most dstAddrMode
  rw [lengthOf]
  split <;> split <;> cases compressed <;> simp <;> omega

/-- **The length of the modes**, where they are modes. -/
theorem length_modes {src dst : UInt8} (srcMode : Mode src) (dstMode : Mode dst)
    (panidCompression : UInt8) :
    zbMacCalculateMhrLength src dst panidCompression =
      some (UInt8.ofNat (lengthOf src dst (panidCompression != 0))) := by
  by_cases full : panidCompression = 0
  · have none_ : (panidCompression != 0) = false := by rw [full]; rfl
    rw [none_, full]
    rcases srcMode with rfl | rfl | rfl <;> rcases dstMode with rfl | rfl | rfl <;> rfl
  · have some_ : (panidCompression != 0) = true := bne_iff_ne.2 full
    rw [some_]
    rcases srcMode with rfl | rfl | rfl <;> rcases dstMode with rfl | rfl | rfl <;>
      simp only [zbMacCalculateMhrLength, if_neg full] <;> rfl

/-- Where it does not stop at an assertion, both are modes. -/
theorem modes_of_length {src dst panidCompression len : UInt8}
    (calculated : zbMacCalculateMhrLength src dst panidCompression = some len) :
    Mode src ∧ Mode dst := by
  constructor
  · by_contra other
    simp only [Mode, not_or] at other
    obtain ⟨present, short, long⟩ := other
    simp [zbMacCalculateMhrLength, present, short, long, guard] at calculated
  · by_contra other
    simp only [Mode, not_or] at other
    obtain ⟨present, short, long⟩ := other
    simp [zbMacCalculateMhrLength, present, short, long, guard] at calculated

/-! ## What is written is read -/

/-- What of an address a frame carries. -/
def carried (mode : UInt8) (addr : ZbIeeeAddr) : ZbIeeeAddr :=
  if mode = zbAddr16bitDevOrBroadcast then ofAddrShort (addrShort addr) else addr

theorem getD_ieeeAddrAt (at_ : Nat) (p : List UInt8) {i : Nat} (lt : i < 8) :
    (ieeeAddrAt at_ p).toList.getD i 0 = p.getD (at_ + i) 0 := by
  simp [ieeeAddrAt, List.getD, lt]

theorem addrShort_ofAddrShort (addr : UInt16) : addrShort (ofAddrShort addr) = addr := by
  have read := uint16At_bytes addr [] []
  rw [List.append_nil, List.nil_append] at read
  rw [addrShort, ofAddrShort, uint16At, getD_ieeeAddrAt 0 _ (by decide),
    getD_ieeeAddrAt 0 _ (by decide), Nat.zero_add, Nat.zero_add]
  exact read

/-- A short address is carried as such, a long one as a whole. -/
theorem addrShort_carried {mode : UInt8} {addr : ZbIeeeAddr} (short : mode = zbAddr16bitDevOrBroadcast) :
    addrShort (carried mode addr) = addrShort addr := by
  rw [carried, if_pos short, addrShort_ofAddrShort]

theorem carried_long {mode : UInt8} {addr : ZbIeeeAddr} (long : mode ≠ zbAddr16bitDevOrBroadcast) :
    carried mode addr = addr := if_neg long

theorem uint16At_part {val : UInt16} {before after : List UInt8} {at_ : Nat}
    (there : before.length = at_) : uint16At at_ (before ++ (uint16Bytes val ++ after)) = val := by
  rw [← List.append_assoc, ← there]
  exact uint16At_bytes val before after

theorem mhrAddrAt_part {mode : UInt8} {addr : ZbIeeeAddr} {before after : List UInt8} {at_ : Nat}
    (there : before.length = at_) :
    mhrAddrAt mode at_ (before ++ (mhrAddrBytes mode addr ++ after)) = carried mode addr := by
  rw [mhrAddrAt, mhrAddrBytes, carried]
  by_cases short : mode = zbAddr16bitDevOrBroadcast
  · rw [if_pos short, if_pos short, if_pos short, uint16At_part there]
  · rw [if_neg short, if_neg short, if_neg short]
    exact ieeeAddrAt_bytes addr there

section Parts

variable (mhr : ZbMacMhr)

def fixedBytes : List UInt8 := [mhr.frameControl.1, mhr.frameControl.2, mhr.seqNumber]

def dstBytes : List UInt8 :=
  if fcfGetDstAddressingMode mhr.frameControl ≠ 0 then
    uint16Bytes mhr.dstPanId ++ mhrAddrBytes (fcfGetDstAddressingMode mhr.frameControl) mhr.dstAddr
  else []

def srcBytes : List UInt8 :=
  if fcfGetSrcAddressingMode mhr.frameControl ≠ 0 then
    (if fcfGetPanidCompressionBit mhr.frameControl = 0 then uint16Bytes mhr.srcPanId else []) ++
      mhrAddrBytes (fcfGetSrcAddressingMode mhr.frameControl) mhr.srcAddr
  else []

theorem fill_parts : zbMacFillMhr mhr = fixedBytes mhr ++ dstBytes mhr ++ srcBytes mhr := rfl

/-- The destination, as it is read. -/
def dstRead : UInt16 × ZbIeeeAddr :=
  if fcfGetDstAddressingMode mhr.frameControl ≠ 0 then
    (mhr.dstPanId, carried (fcfGetDstAddressingMode mhr.frameControl) mhr.dstAddr)
  else (0, Vector.replicate 8 0)

def srcRead : UInt16 × ZbIeeeAddr :=
  if fcfGetSrcAddressingMode mhr.frameControl ≠ 0 then
    (if fcfGetPanidCompressionBit mhr.frameControl = 0 then mhr.srcPanId else (dstRead mhr).1,
      carried (fcfGetSrcAddressingMode mhr.frameControl) mhr.srcAddr)
  else (0, Vector.replicate 8 0)

theorem mhrDstAt_fill (after : List UInt8) :
    mhrDstAt (fcfGetDstAddressingMode mhr.frameControl) (fixedBytes mhr ++ (dstBytes mhr ++ after)) =
      ((dstRead mhr).1, (dstRead mhr).2, 3 + (dstBytes mhr).length) := by
  rw [mhrDstAt, dstBytes, dstRead]
  by_cases present : fcfGetDstAddressingMode mhr.frameControl ≠ 0
  · have pan : (fixedBytes mhr ++ uint16Bytes mhr.dstPanId).length = 5 := rfl
    have panId := @uint16At_part mhr.dstPanId (fixedBytes mhr)
      (mhrAddrBytes (fcfGetDstAddressingMode mhr.frameControl) mhr.dstAddr ++ after) 3 rfl
    have addr := @mhrAddrAt_part (fcfGetDstAddressingMode mhr.frameControl) mhr.dstAddr
      (fixedBytes mhr ++ uint16Bytes mhr.dstPanId) after 5 pan
    rw [List.append_assoc] at addr
    rw [if_pos present, if_pos present, if_pos present, List.append_assoc (uint16Bytes _), panId, addr,
      List.length_append, length_mhrAddrBytes, ← Nat.add_assoc]
    rfl
  · rw [if_neg present, if_neg present, if_neg present]
    rfl

theorem mhrSrcAt_fill {before : List UInt8} {at_ : Nat} (there : before.length = at_)
    (after : List UInt8) :
    mhrSrcAt (fcfGetSrcAddressingMode mhr.frameControl) (fcfGetPanidCompressionBit mhr.frameControl)
        (dstRead mhr).1 at_ (before ++ (srcBytes mhr ++ after)) =
      ((srcRead mhr).1, (srcRead mhr).2, at_ + (srcBytes mhr).length) := by
  rw [mhrSrcAt, srcBytes, srcRead]
  by_cases present : fcfGetSrcAddressingMode mhr.frameControl ≠ 0
  · rw [if_pos present, if_pos present, if_pos present]
    by_cases full : fcfGetPanidCompressionBit mhr.frameControl = 0
    · have pan : (before ++ uint16Bytes mhr.srcPanId).length = at_ + 2 := by
        rw [List.length_append, there]
        rfl
      have addr := @mhrAddrAt_part (fcfGetSrcAddressingMode mhr.frameControl) mhr.srcAddr
        (before ++ uint16Bytes mhr.srcPanId) after (at_ + 2) pan
      rw [List.append_assoc] at addr
      rw [if_pos full, if_pos full, if_pos full, List.append_assoc (uint16Bytes _),
        uint16At_part there, addr, List.length_append, length_mhrAddrBytes, ← Nat.add_assoc]
      rfl
    · rw [if_neg full, if_neg full, if_neg full, List.nil_append, mhrAddrAt_part there,
        length_mhrAddrBytes]
  · rw [if_neg present, if_neg present, if_neg present]
    rfl

/-- **The parser finds what the writer wrote**, in front of anything else. -/
theorem zbParseMhr_fill (rest : List UInt8) :
    zbParseMhr (zbMacFillMhr mhr ++ rest) =
      ({ mhr with
          dstPanId := (dstRead mhr).1
          dstAddr := (dstRead mhr).2
          srcPanId := (srcRead mhr).1
          srcAddr := (srcRead mhr).2 }, (zbMacFillMhr mhr).length) := by
  have dst := mhrDstAt_fill mhr (srcBytes mhr ++ rest)
  have behind : (fixedBytes mhr ++ dstBytes mhr).length = 3 + (dstBytes mhr).length := by
    rw [List.length_append]
    rfl
  have src := mhrSrcAt_fill mhr behind rest
  rw [List.append_assoc] at src
  have length : (zbMacFillMhr mhr).length = 3 + (dstBytes mhr).length + (srcBytes mhr).length := by
    rw [fill_parts, List.length_append, behind]
  have whole : zbMacFillMhr mhr ++ rest = fixedBytes mhr ++ (dstBytes mhr ++ (srcBytes mhr ++ rest)) := by
    rw [fill_parts, List.append_assoc, List.append_assoc]
  have parsed : zbParseMhr (fixedBytes mhr ++ (dstBytes mhr ++ (srcBytes mhr ++ rest))) =
      (let p := fixedBytes mhr ++ (dstBytes mhr ++ (srcBytes mhr ++ rest))
       let to_ := mhrDstAt (fcfGetDstAddressingMode mhr.frameControl) p
       let from_ := mhrSrcAt (fcfGetSrcAddressingMode mhr.frameControl)
        (fcfGetPanidCompressionBit mhr.frameControl) to_.1 to_.2.2 p
       ({ mhr with
            dstPanId := to_.1
            dstAddr := to_.2.1
            srcPanId := from_.1
            srcAddr := from_.2.1 }, from_.2.2)) := rfl
  rw [length, whole, parsed]
  dsimp only
  rw [dst]
  dsimp only
  rw [src]

end Parts

/-- Two addresses that are the same to a frame of this mode. -/
def SameAddr (mode : UInt8) (addr addr' : ZbIeeeAddr) : Prop :=
  if mode = zbAddr16bitDevOrBroadcast then addrShort addr = addrShort addr' else addr = addr'

theorem sameAddr_carried (mode : UInt8) (addr : ZbIeeeAddr) : SameAddr mode (carried mode addr) addr := by
  by_cases short : mode = zbAddr16bitDevOrBroadcast
  · rw [SameAddr, if_pos short, addrShort_carried short]
  · rw [SameAddr, if_neg short, carried_long short]

/-- A header read back from the bytes of one: the fields that are present in them are the same, and
the length is that of the modes, of what was written and of what was read. -/
structure ReadsBack (mhr : ZbMacMhr) (rest : List UInt8) : Prop where
  frameControl : (zbParseMhr (zbMacFillMhr mhr ++ rest)).1.frameControl = mhr.frameControl
  seqNumber : (zbParseMhr (zbMacFillMhr mhr ++ rest)).1.seqNumber = mhr.seqNumber
  dst : fcfGetDstAddressingMode mhr.frameControl ≠ 0 →
    (zbParseMhr (zbMacFillMhr mhr ++ rest)).1.dstPanId = mhr.dstPanId ∧
      SameAddr (fcfGetDstAddressingMode mhr.frameControl)
        (zbParseMhr (zbMacFillMhr mhr ++ rest)).1.dstAddr mhr.dstAddr
  srcPanId : fcfGetSrcAddressingMode mhr.frameControl ≠ 0 →
    fcfGetPanidCompressionBit mhr.frameControl = 0 →
      (zbParseMhr (zbMacFillMhr mhr ++ rest)).1.srcPanId = mhr.srcPanId
  srcAddr : fcfGetSrcAddressingMode mhr.frameControl ≠ 0 →
    SameAddr (fcfGetSrcAddressingMode mhr.frameControl)
      (zbParseMhr (zbMacFillMhr mhr ++ rest)).1.srcAddr mhr.srcAddr
  read : (zbParseMhr (zbMacFillMhr mhr ++ rest)).2 = (zbMacFillMhr mhr).length
  calculated : ∀ panidCompression : UInt8,
    (panidCompression ≠ 0 ↔ fcfGetPanidCompressionBit mhr.frameControl ≠ 0) →
      (zbMacCalculateMhrLength (fcfGetSrcAddressingMode mhr.frameControl)
        (fcfGetDstAddressingMode mhr.frameControl) panidCompression).map UInt8.toNat =
          some (zbMacFillMhr mhr).length

/-- **The length of the modes of a frame control** is the number of bytes written. -/
theorem length_calculated {mhr : ZbMacMhr} {panidCompression : UInt8}
    (src : Mode (fcfGetSrcAddressingMode mhr.frameControl))
    (dst : Mode (fcfGetDstAddressingMode mhr.frameControl))
    (same : panidCompression ≠ 0 ↔ fcfGetPanidCompressionBit mhr.frameControl ≠ 0) :
    (zbMacCalculateMhrLength (fcfGetSrcAddressingMode mhr.frameControl)
      (fcfGetDstAddressingMode mhr.frameControl) panidCompression).map UInt8.toNat =
        some (zbMacFillMhr mhr).length := by
  have bit : (panidCompression != 0) = (fcfGetPanidCompressionBit mhr.frameControl != 0) := by
    rw [Bool.eq_iff_iff, bne_iff_ne, bne_iff_ne]
    exact same
  rw [length_modes src dst, Option.map_some, length_zbMacFillMhr, mhrLen_modes, bit,
    UInt8.toNat_ofNat_of_lt' (lengthOf_lt _ _ _)]
  rfl

theorem readsBack {mhr : ZbMacMhr} (src : Mode (fcfGetSrcAddressingMode mhr.frameControl))
    (dst : Mode (fcfGetDstAddressingMode mhr.frameControl)) (rest : List UInt8) :
    ReadsBack mhr rest := by
  have parsed := zbParseMhr_fill mhr rest
  constructor
  case frameControl => rw [parsed]
  case seqNumber => rw [parsed]
  case dst =>
    intro present
    rw [parsed, dstRead, if_pos present]
    exact ⟨rfl, sameAddr_carried _ _⟩
  case srcPanId =>
    intro present full
    rw [parsed, srcRead, if_pos present, if_pos full]
  case srcAddr =>
    intro present
    rw [parsed, srcRead, if_pos present]
    exact sameAddr_carried _ _
  case read => rw [parsed]
  case calculated =>
    intro panidCompression same
    exact length_calculated src dst same

/-! ## Filling the frame control -/

section Fill

variable (fcf : FrameControl)

/-- `MAC_FRAME_VERSION` and `MAC_FRAME_IEEE_802_15_4_2003`. -/
def macFrameVersion : UInt8 := 0

/-- A field of a byte is cleared, then set. -/
def setField (b mask value place : UInt8) : UInt8 := (b &&& mask) ||| value <<< place

def fcfSetFrameType (frameType : UInt8) : Option FrameControl :=
  if frameType < 4 then some (setField fcf.1 0xF8 frameType 0, fcf.2) else none

def fcfSetFramePendingBit (bitValue : UInt8) : Option FrameControl :=
  if bitValue < 2 then some (setField fcf.1 0xEF bitValue 4, fcf.2) else none

def fcfSetAckRequestBit (bitValue : UInt8) : Option FrameControl :=
  if bitValue < 2 then some (setField fcf.1 0xDF bitValue 5, fcf.2) else none

def fcfSetPanidCompressionBit (bitValue : UInt8) : Option FrameControl :=
  if bitValue < 2 then some (setField fcf.1 0xBF bitValue 6, fcf.2) else none

def fcfSetFrameVersion (frameVersion : UInt8) : Option FrameControl :=
  if frameVersion < 2 then some (fcf.1, setField fcf.2 0xCF frameVersion 4) else none

def zbFcfSetSrcAddressingMode (addrMode : UInt8) : Option FrameControl :=
  if addrMode < 4 then some (fcf.1, setField fcf.2 0x3F addrMode 6) else none

def zbFcfSetDstAddressingMode (addrMode : UInt8) : Option FrameControl :=
  if addrMode < 4 then some (fcf.1, setField fcf.2 0xF3 addrMode 2) else none

end Fill

section FillSpec

variable {fcf fcf' : FrameControl} {value : UInt8}

/-- The second byte: a mode goes to its own two bits, the version to two others. -/
theorem secondByte_bits : ∀ (m : Fin 4) (b : UInt8), let value := UInt8.ofNat m
    ((setField b 0x3F value 6 &&& 0xC0) >>> 6 = value ∧
      (setField b 0x3F value 6 &&& 0x0C) >>> 2 = (b &&& 0x0C) >>> 2) ∧
    ((setField b 0xF3 value 2 &&& 0xC0) >>> 6 = (b &&& 0xC0) >>> 6 ∧
      (setField b 0xF3 value 2 &&& 0x0C) >>> 2 = value) ∧
    (value < 2 → (setField b 0xCF value 4 &&& 0xC0) >>> 6 = (b &&& 0xC0) >>> 6 ∧
      (setField b 0xCF value 4 &&& 0x0C) >>> 2 = (b &&& 0x0C) >>> 2) := by
  decide +kernel

/-- The first byte: the type and the other bits leave the compression as it is. -/
theorem firstByte_bits : ∀ (m : Fin 4) (b : UInt8), let value := UInt8.ofNat m
    setField b 0xF8 value 0 &&& 0x40 = b &&& 0x40 ∧
    (value < 2 → setField b 0xEF value 4 &&& 0x40 = b &&& 0x40 ∧
      setField b 0xDF value 5 &&& 0x40 = b &&& 0x40 ∧
      (setField b 0xBF value 6 &&& 0x40 != 0) = (value != 0)) := by
  decide +kernel

/-- What a setter that does not stop at its assertion gives. -/
theorem set_cases {small : Prop} [Decidable small] {out : FrameControl}
    (set : (if small then some out else none) = some fcf') : small ∧ fcf' = out := by
  obtain ⟨holds, same⟩ := Option.ite_none_right_eq_some.1 set
  exact ⟨holds, (Option.some.inj same).symm⟩

theorem exists_fin (small : value < 4) : ∃ m : Fin 4, value = UInt8.ofNat m :=
  ⟨⟨value.toNat, UInt8.lt_iff_toNat_lt.1 small⟩, (UInt8.ofNat_toNat).symm⟩

theorem four_of_two (small : value < 2) : value < 4 := UInt8.lt_trans small (by decide)

theorem setFrameType_modes (set : fcfSetFrameType fcf value = some fcf') :
    modesOf fcf' = modesOf fcf := by
  obtain ⟨small, rfl⟩ := set_cases set
  obtain ⟨m, rfl⟩ := exists_fin small
  simp only [modesOf, fcfGetPanidCompressionBit, fcfGetSrcAddressingMode, fcfGetDstAddressingMode,
    (firstByte_bits m fcf.1).1]

theorem setFramePendingBit_modes (set : fcfSetFramePendingBit fcf value = some fcf') :
    modesOf fcf' = modesOf fcf := by
  obtain ⟨small, rfl⟩ := set_cases set
  obtain ⟨m, rfl⟩ := exists_fin (four_of_two small)
  simp only [modesOf, fcfGetPanidCompressionBit, fcfGetSrcAddressingMode, fcfGetDstAddressingMode,
    ((firstByte_bits m fcf.1).2 small).1]

theorem setAckRequestBit_modes (set : fcfSetAckRequestBit fcf value = some fcf') :
    modesOf fcf' = modesOf fcf := by
  obtain ⟨small, rfl⟩ := set_cases set
  obtain ⟨m, rfl⟩ := exists_fin (four_of_two small)
  simp only [modesOf, fcfGetPanidCompressionBit, fcfGetSrcAddressingMode, fcfGetDstAddressingMode,
    ((firstByte_bits m fcf.1).2 small).2.1]

theorem setPanidCompressionBit_modes (set : fcfSetPanidCompressionBit fcf value = some fcf') :
    modesOf fcf' = ((modesOf fcf).1, (modesOf fcf).2.1, value != 0) := by
  obtain ⟨small, rfl⟩ := set_cases set
  obtain ⟨m, rfl⟩ := exists_fin (four_of_two small)
  simp only [modesOf, fcfGetPanidCompressionBit, fcfGetSrcAddressingMode, fcfGetDstAddressingMode,
    ((firstByte_bits m fcf.1).2 small).2.2]

theorem setFrameVersion_modes (set : fcfSetFrameVersion fcf value = some fcf') :
    modesOf fcf' = modesOf fcf := by
  obtain ⟨small, rfl⟩ := set_cases set
  obtain ⟨m, rfl⟩ := exists_fin (four_of_two small)
  simp only [modesOf, fcfGetPanidCompressionBit, fcfGetSrcAddressingMode, fcfGetDstAddressingMode,
    ((secondByte_bits m fcf.2).2.2 small).1, ((secondByte_bits m fcf.2).2.2 small).2]

theorem setSrcAddressingMode_modes (set : zbFcfSetSrcAddressingMode fcf value = some fcf') :
    modesOf fcf' = (value, (modesOf fcf).2) := by
  obtain ⟨small, rfl⟩ := set_cases set
  obtain ⟨m, rfl⟩ := exists_fin small
  simp only [modesOf, fcfGetPanidCompressionBit, fcfGetSrcAddressingMode, fcfGetDstAddressingMode,
    (secondByte_bits m fcf.2).1.1, (secondByte_bits m fcf.2).1.2]

theorem setDstAddressingMode_modes (set : zbFcfSetDstAddressingMode fcf value = some fcf') :
    modesOf fcf' = ((modesOf fcf).1, value, (modesOf fcf).2.2) := by
  obtain ⟨small, rfl⟩ := set_cases set
  obtain ⟨m, rfl⟩ := exists_fin small
  simp only [modesOf, fcfGetPanidCompressionBit, fcfGetSrcAddressingMode, fcfGetDstAddressingMode,
    (secondByte_bits m fcf.2).2.1.1, (secondByte_bits m fcf.2).2.1.2]

end FillSpec

/-! ## The commands -/

/-- What a command passes to the length, what it gets, and the frame control it fills in. -/
structure HeaderMade where
  srcAddrMode : UInt8
  dstAddrMode : UInt8
  panidCompression : UInt8
  mhrLen : UInt8
  frameControl : FrameControl
  deriving DecidableEq

def headerMade (srcAddrMode dstAddrMode panidCompression : UInt8) (fill : Option FrameControl) :
    Option HeaderMade := do
  let mhrLen ← zbMacCalculateMhrLength srcAddrMode dstAddrMode panidCompression
  let frameControl ← fill
  return { srcAddrMode, dstAddrMode, panidCompression, mhrLen, frameControl }

def bitOf (b : Bool) : UInt8 := if b then 1 else 0

def zbMlmeSendAssociationReqCmd (coordAddrMode : UInt8) : Option HeaderMade :=
  headerMade zbAddr64bitDev coordAddrMode 0 do
    let fcf ← fcfSetFrameType (0, 0) macFrameCommand
    let fcf ← fcfSetAckRequestBit fcf 1
    let fcf ← zbFcfSetDstAddressingMode fcf coordAddrMode
    let fcf ← fcfSetFrameVersion fcf macFrameVersion
    zbFcfSetSrcAddressingMode fcf zbAddr64bitDev

/-- Without a destination is not supported, and asserted. -/
def zbMlmeSendDataReqCmd (srcAddrMode dstAddrMode : UInt8) : Option HeaderMade :=
  if dstAddrMode ≠ zbAddrNoAddr then
    headerMade srcAddrMode dstAddrMode 1 do
      let fcf ← fcfSetFrameType (0, 0) macFrameCommand
      let fcf ← fcfSetAckRequestBit fcf 1
      let fcf ← fcfSetPanidCompressionBit fcf 1
      let fcf ← zbFcfSetDstAddressingMode fcf dstAddrMode
      let fcf ← fcfSetFrameVersion fcf macFrameVersion
      zbFcfSetSrcAddressingMode fcf srcAddrMode
  else none

/-- Always short addresses are used. -/
def zbMcpsDataRequestFillHdr (acknowledged : Bool) : Option HeaderMade :=
  headerMade zbAddr16bitDevOrBroadcast zbAddr16bitDevOrBroadcast 1 do
    let fcf ← fcfSetFrameType (0, 0) macFrameData
    let fcf ← fcfSetAckRequestBit fcf (bitOf acknowledged)
    let fcf ← fcfSetPanidCompressionBit fcf 1
    let fcf ← zbFcfSetDstAddressingMode fcf zbAddr16bitDevOrBroadcast
    let fcf ← zbFcfSetSrcAddressingMode fcf zbAddr16bitDevOrBroadcast
    fcfSetFrameVersion fcf 0

/-- The same of the build with extended requests, where the modes are the caller's. -/
def zbMcpsDataRequestFillHdrExt (srcAddrMode dstAddrMode : UInt8) (dstPanId macPanId : UInt16)
    (acknowledged : Bool) : Option HeaderMade :=
  headerMade srcAddrMode dstAddrMode (bitOf (dstPanId == macPanId)) do
    let fcf ← fcfSetFrameType (0, 0) macFrameData
    let fcf ← fcfSetAckRequestBit fcf (bitOf acknowledged)
    let fcf ← fcfSetPanidCompressionBit fcf (bitOf (dstPanId == macPanId))
    let fcf ← zbFcfSetDstAddressingMode fcf dstAddrMode
    let fcf ← zbFcfSetSrcAddressingMode fcf srcAddrMode
    fcfSetFrameVersion fcf 0

def zbTxCoordRealignmentCmd (isBroadcast : Bool) : Option HeaderMade :=
  headerMade zbAddr64bitDev (if isBroadcast then zbAddr16bitDevOrBroadcast else zbAddr64bitDev) 0 do
    let fcf ← fcfSetFrameType (0, 0) macFrameCommand
    let fcf ←
      if isBroadcast then zbFcfSetDstAddressingMode fcf zbAddr16bitDevOrBroadcast
      else do
        let fcf ← fcfSetAckRequestBit fcf 1
        zbFcfSetDstAddressingMode fcf zbAddr64bitDev
    let fcf ← fcfSetFrameVersion fcf macFrameVersion
    zbFcfSetSrcAddressingMode fcf zbAddr64bitDev

def zbSendBeaconFrame (srcAddrMode framePending : UInt8) : Option HeaderMade :=
  headerMade srcAddrMode zbAddrNoAddr 0 do
    let fcf ← fcfSetFrameType (0, 0) macFrameBeacon
    let fcf ← zbFcfSetSrcAddressingMode fcf srcAddrMode
    let fcf ← fcfSetFrameVersion fcf macFrameVersion
    fcfSetFramePendingBit fcf framePending

def zbMacSendAck (dataPending : UInt8) : Option HeaderMade :=
  headerMade zbAddrNoAddr zbAddrNoAddr 0 do
    let fcf ← fcfSetFrameType (0, 0) macFrameAcknowledgment
    fcfSetFramePendingBit fcf dataPending

def zbMlmeHandleAssociateResponse : Option HeaderMade :=
  headerMade zbAddr64bitDev zbAddr64bitDev 1 do
    let fcf ← fcfSetFrameType (0, 0) macFrameCommand
    let fcf ← fcfSetAckRequestBit fcf 1
    let fcf ← fcfSetPanidCompressionBit fcf 1
    let fcf ← zbFcfSetDstAddressingMode fcf zbAddr64bitDev
    let fcf ← fcfSetFrameVersion fcf macFrameVersion
    zbFcfSetSrcAddressingMode fcf zbAddr64bitDev

/-- The modes go to the length in the order destination, source. -/
def zbBeaconRequestCommand : Option HeaderMade :=
  headerMade zbAddr16bitDevOrBroadcast zbAddrNoAddr 0 do
    let fcf ← fcfSetFrameType (0, 0) macFrameCommand
    let fcf ← zbFcfSetDstAddressingMode fcf zbAddr16bitDevOrBroadcast
    let fcf ← fcfSetFrameVersion fcf macFrameVersion
    zbFcfSetSrcAddressingMode fcf zbAddrNoAddr

def zbOrphanNotificationCommand : Option HeaderMade :=
  headerMade zbAddr64bitDev zbAddr16bitDevOrBroadcast 1 do
    let fcf ← fcfSetFrameType (0, 0) macFrameCommand
    let fcf ← zbFcfSetDstAddressingMode fcf zbAddr16bitDevOrBroadcast
    let fcf ← zbFcfSetSrcAddressingMode fcf zbAddr64bitDev
    let fcf ← fcfSetPanidCompressionBit fcf 1
    fcfSetFrameVersion fcf macFrameVersion

/-- The answer to a data request, with its addresses exchanged.  The frame control is not cleared
first: it starts as what the stack holds. -/
def fillEmptyFrame (mhrReq stack : FrameControl) : Option HeaderMade :=
  headerMade (fcfGetDstAddressingMode mhrReq) (fcfGetSrcAddressingMode mhrReq) 1 do
    let fcf ← fcfSetFrameType stack macFrameData
    let fcf ← fcfSetPanidCompressionBit fcf 1
    let fcf ← zbFcfSetDstAddressingMode fcf (fcfGetSrcAddressingMode mhrReq)
    let fcf ← fcfSetFrameVersion fcf macFrameVersion
    zbFcfSetSrcAddressingMode fcf (fcfGetDstAddressingMode mhrReq)

def zbMacDisturberLoop : Option HeaderMade :=
  headerMade zbAddr16bitDevOrBroadcast zbAddr16bitDevOrBroadcast 1 do
    let fcf ← fcfSetFrameType (0, 0) macFrameData
    let fcf ← fcfSetPanidCompressionBit fcf 1
    let fcf ← zbFcfSetDstAddressingMode fcf zbAddr16bitDevOrBroadcast
    let fcf ← fcfSetFrameVersion fcf 0
    zbFcfSetSrcAddressingMode fcf zbAddr16bitDevOrBroadcast

/-- Whoever computes the length and the frame control apart. -/
inductive MhrCaller where
  | sendAssociationReqCmd (coordAddrMode : UInt8)
  | sendDataReqCmd (srcAddrMode dstAddrMode : UInt8)
  | dataRequestFillHdr (acknowledged : Bool)
  | dataRequestFillHdrExt (srcAddrMode dstAddrMode : UInt8) (dstPanId macPanId : UInt16)
      (acknowledged : Bool)
  | txCoordRealignmentCmd (isBroadcast : Bool)
  | sendBeaconFrame (srcAddrMode framePending : UInt8)
  | sendAck (dataPending : UInt8)
  | handleAssociateResponse
  | beaconRequestCommand
  | orphanNotificationCommand
  | emptyFrame (mhrReq stack : FrameControl)
  | disturberLoop
  deriving DecidableEq

def MhrCaller.made : MhrCaller → Option HeaderMade
  | .sendAssociationReqCmd coordAddrMode => zbMlmeSendAssociationReqCmd coordAddrMode
  | .sendDataReqCmd srcAddrMode dstAddrMode => zbMlmeSendDataReqCmd srcAddrMode dstAddrMode
  | .dataRequestFillHdr acknowledged => zbMcpsDataRequestFillHdr acknowledged
  | .dataRequestFillHdrExt srcAddrMode dstAddrMode dstPanId macPanId acknowledged =>
      zbMcpsDataRequestFillHdrExt srcAddrMode dstAddrMode dstPanId macPanId acknowledged
  | .txCoordRealignmentCmd isBroadcast => zbTxCoordRealignmentCmd isBroadcast
  | .sendBeaconFrame srcAddrMode framePending => zbSendBeaconFrame srcAddrMode framePending
  | .sendAck dataPending => zbMacSendAck dataPending
  | .handleAssociateResponse => zbMlmeHandleAssociateResponse
  | .beaconRequestCommand => zbBeaconRequestCommand
  | .orphanNotificationCommand => zbOrphanNotificationCommand
  | .emptyFrame mhrReq stack => fillEmptyFrame mhrReq stack
  | .disturberLoop => zbMacDisturberLoop

/-- The modes of the frame control are those the length was computed for. -/
def HeaderMade.SameModes (made : HeaderMade) : Prop :=
  modesOf made.frameControl = (made.srcAddrMode, made.dstAddrMode, made.panidCompression != 0)

theorem headerMade_spec {src dst panidCompression : UInt8} {fill : Option FrameControl}
    {made : HeaderMade} (done : headerMade src dst panidCompression fill = some made) :
    ∃ mhrLen fcf, zbMacCalculateMhrLength src dst panidCompression = some mhrLen ∧ fill = some fcf ∧
      made = ⟨src, dst, panidCompression, mhrLen, fcf⟩ := by
  simp only [headerMade, Option.bind_eq_bind, Option.bind_eq_some_iff] at done
  obtain ⟨mhrLen, calculated, fcf, filled, same⟩ := done
  exact ⟨mhrLen, fcf, calculated, filled, (Option.some.inj same).symm⟩

/-- A command passes the same modes if those it fills in are. -/
theorem sameModes_of_fill {src dst panidCompression : UInt8} {fill : Option FrameControl}
    {made : HeaderMade} (done : headerMade src dst panidCompression fill = some made)
    (modes : ∀ fcf, fill = some fcf → modesOf fcf = (src, dst, panidCompression != 0)) :
    made.SameModes := by
  obtain ⟨mhrLen, fcf, -, filled, rfl⟩ := headerMade_spec done
  exact modes fcf filled

section Commands

variable {made : HeaderMade}

theorem sendAssociationReqCmd_modes {coordAddrMode : UInt8}
    (done : zbMlmeSendAssociationReqCmd coordAddrMode = some made) : made.SameModes := by
  apply sameModes_of_fill done
  intro fcf filled
  simp only [Option.bind_eq_bind, Option.bind_eq_some_iff] at filled
  obtain ⟨a, type, b, ack, c, dst, d, version, src⟩ := filled
  rw [setSrcAddressingMode_modes src, setFrameVersion_modes version, setDstAddressingMode_modes dst,
    setAckRequestBit_modes ack, setFrameType_modes type]
  rfl

theorem sendDataReqCmd_modes {srcAddrMode dstAddrMode : UInt8}
    (done : zbMlmeSendDataReqCmd srcAddrMode dstAddrMode = some made) : made.SameModes := by
  obtain ⟨-, done⟩ := Option.ite_none_right_eq_some.1 done
  apply sameModes_of_fill done
  intro fcf filled
  simp only [Option.bind_eq_bind, Option.bind_eq_some_iff] at filled
  obtain ⟨a, type, b, ack, c, bit, d, dst, e, version, src⟩ := filled
  rw [setSrcAddressingMode_modes src, setFrameVersion_modes version, setDstAddressingMode_modes dst,
    setPanidCompressionBit_modes bit, setAckRequestBit_modes ack, setFrameType_modes type]

theorem dataRequestFillHdr_modes {acknowledged : Bool}
    (done : zbMcpsDataRequestFillHdr acknowledged = some made) : made.SameModes := by
  apply sameModes_of_fill done
  intro fcf filled
  simp only [Option.bind_eq_bind, Option.bind_eq_some_iff] at filled
  obtain ⟨a, type, b, ack, c, bit, d, dst, e, src, version⟩ := filled
  rw [setFrameVersion_modes version, setSrcAddressingMode_modes src, setDstAddressingMode_modes dst,
    setPanidCompressionBit_modes bit, setAckRequestBit_modes ack, setFrameType_modes type]

theorem dataRequestFillHdrExt_modes {srcAddrMode dstAddrMode : UInt8} {dstPanId macPanId : UInt16}
    {acknowledged : Bool}
    (done : zbMcpsDataRequestFillHdrExt srcAddrMode dstAddrMode dstPanId macPanId acknowledged =
      some made) : made.SameModes := by
  apply sameModes_of_fill done
  intro fcf filled
  simp only [Option.bind_eq_bind, Option.bind_eq_some_iff] at filled
  obtain ⟨a, type, b, ack, c, bit, d, dst, e, src, version⟩ := filled
  rw [setFrameVersion_modes version, setSrcAddressingMode_modes src, setDstAddressingMode_modes dst,
    setPanidCompressionBit_modes bit, setAckRequestBit_modes ack, setFrameType_modes type]

theorem txCoordRealignmentCmd_modes {isBroadcast : Bool}
    (done : zbTxCoordRealignmentCmd isBroadcast = some made) : made.SameModes := by
  apply sameModes_of_fill done
  intro fcf filled
  cases isBroadcast with
  | true =>
      simp only [if_true, Option.bind_eq_bind, Option.bind_eq_some_iff] at filled
      obtain ⟨a, type, b, dst, c, version, src⟩ := filled
      rw [setSrcAddressingMode_modes src, setFrameVersion_modes version,
        setDstAddressingMode_modes dst, setFrameType_modes type]
      rfl
  | false =>
      simp only [Bool.false_eq_true, if_false, Option.bind_eq_bind, Option.bind_eq_some_iff] at filled
      obtain ⟨a, type, b, ack, c, dst, d, version, src⟩ := filled
      rw [setSrcAddressingMode_modes src, setFrameVersion_modes version,
        setDstAddressingMode_modes dst, setAckRequestBit_modes ack, setFrameType_modes type]
      rfl

theorem sendBeaconFrame_modes {srcAddrMode framePending : UInt8}
    (done : zbSendBeaconFrame srcAddrMode framePending = some made) : made.SameModes := by
  apply sameModes_of_fill done
  intro fcf filled
  simp only [Option.bind_eq_bind, Option.bind_eq_some_iff] at filled
  obtain ⟨a, type, b, src, c, version, pending⟩ := filled
  rw [setFramePendingBit_modes pending, setFrameVersion_modes version, setSrcAddressingMode_modes src,
    setFrameType_modes type]
  rfl

theorem sendAck_modes {dataPending : UInt8} (done : zbMacSendAck dataPending = some made) :
    made.SameModes := by
  apply sameModes_of_fill done
  intro fcf filled
  simp only [Option.bind_eq_bind, Option.bind_eq_some_iff] at filled
  obtain ⟨a, type, pending⟩ := filled
  rw [setFramePendingBit_modes pending, setFrameType_modes type]
  rfl

theorem handleAssociateResponse_modes (done : zbMlmeHandleAssociateResponse = some made) :
    made.SameModes := by
  apply sameModes_of_fill done
  intro fcf filled
  simp only [Option.bind_eq_bind, Option.bind_eq_some_iff] at filled
  obtain ⟨a, type, b, ack, c, bit, d, dst, e, version, src⟩ := filled
  rw [setSrcAddressingMode_modes src, setFrameVersion_modes version, setDstAddressingMode_modes dst,
    setPanidCompressionBit_modes bit, setAckRequestBit_modes ack, setFrameType_modes type]

theorem orphanNotificationCommand_modes (done : zbOrphanNotificationCommand = some made) :
    made.SameModes := by
  apply sameModes_of_fill done
  intro fcf filled
  simp only [Option.bind_eq_bind, Option.bind_eq_some_iff] at filled
  obtain ⟨a, type, b, dst, c, src, d, bit, version⟩ := filled
  rw [setFrameVersion_modes version, setPanidCompressionBit_modes bit, setSrcAddressingMode_modes src,
    setDstAddressingMode_modes dst, setFrameType_modes type]

/-- What the stack held is cleared where it matters. -/
theorem fillEmptyFrame_modes {mhrReq stack : FrameControl}
    (done : fillEmptyFrame mhrReq stack = some made) : made.SameModes := by
  apply sameModes_of_fill done
  intro fcf filled
  simp only [Option.bind_eq_bind, Option.bind_eq_some_iff] at filled
  obtain ⟨a, type, b, bit, c, dst, d, version, src⟩ := filled
  rw [setSrcAddressingMode_modes src, setFrameVersion_modes version, setDstAddressingMode_modes dst,
    setPanidCompressionBit_modes bit, setFrameType_modes type]

theorem disturberLoop_modes (done : zbMacDisturberLoop = some made) : made.SameModes := by
  apply sameModes_of_fill done
  intro fcf filled
  simp only [Option.bind_eq_bind, Option.bind_eq_some_iff] at filled
  obtain ⟨a, type, b, bit, c, dst, d, version, src⟩ := filled
  rw [setSrcAddressingMode_modes src, setFrameVersion_modes version, setDstAddressingMode_modes dst,
    setPanidCompressionBit_modes bit, setFrameType_modes type]

/-- The beacon request asks for the length with a source and without a destination, and sends a
destination without a source. -/
theorem beaconRequest_swapped (done : zbBeaconRequestCommand = some made) :
    modesOf made.frameControl = (made.dstAddrMode, made.srcAddrMode, made.panidCompression != 0) := by
  obtain ⟨mhrLen, fcf, -, filled, rfl⟩ := headerMade_spec done
  simp only [Option.bind_eq_bind, Option.bind_eq_some_iff] at filled
  obtain ⟨a, type, b, dst, c, version, src⟩ := filled
  rw [setSrcAddressingMode_modes src, setFrameVersion_modes version, setDstAddressingMode_modes dst,
    setFrameType_modes type]
  rfl

theorem beaconRequest_args (done : zbBeaconRequestCommand = some made) :
    made.srcAddrMode ≠ made.dstAddrMode ∧ made.panidCompression = 0 := by
  obtain ⟨mhrLen, fcf, -, -, rfl⟩ := headerMade_spec done
  refine ⟨?_, rfl⟩
  show zbAddr16bitDevOrBroadcast ≠ zbAddrNoAddr
  decide

end Commands

/-- **Which commands pass the same modes to both**: all but the beacon request. -/
theorem sameModes_iff {caller : MhrCaller} {made : HeaderMade} (done : caller.made = some made) :
    made.SameModes ↔ caller ≠ .beaconRequestCommand := by
  constructor
  · rintro same rfl
    have swapped := beaconRequest_swapped done
    rw [same] at swapped
    exact (beaconRequest_args done).1 (Prod.mk.inj swapped).1
  · intro other
    cases caller with
    | sendAssociationReqCmd _ => exact sendAssociationReqCmd_modes done
    | sendDataReqCmd _ _ => exact sendDataReqCmd_modes done
    | dataRequestFillHdr _ => exact dataRequestFillHdr_modes done
    | dataRequestFillHdrExt _ _ _ _ _ => exact dataRequestFillHdrExt_modes done
    | txCoordRealignmentCmd _ => exact txCoordRealignmentCmd_modes done
    | sendBeaconFrame _ _ => exact sendBeaconFrame_modes done
    | sendAck _ => exact sendAck_modes done
    | handleAssociateResponse => exact handleAssociateResponse_modes done
    | beaconRequestCommand => exact absurd rfl other
    | orphanNotificationCommand => exact orphanNotificationCommand_modes done
    | emptyFrame _ _ => exact fillEmptyFrame_modes done
    | disturberLoop => exact disturberLoop_modes done

/-- **Every command gets the length of its header**: with both PAN identifiers the length does not
tell the source from the destination. -/
theorem made_length {caller : MhrCaller} {made : HeaderMade} (done : caller.made = some made) :
    made.mhrLen.toNat = mhrLen made.frameControl := by
  have calculated : zbMacCalculateMhrLength made.srcAddrMode made.dstAddrMode made.panidCompression =
      some made.mhrLen := by
    cases caller with
    | sendDataReqCmd _ _ =>
        obtain ⟨-, done⟩ := Option.ite_none_right_eq_some.1 done
        obtain ⟨len, fcf, calculated, -, rfl⟩ := headerMade_spec done
        exact calculated
    | _ =>
        obtain ⟨len, fcf, calculated, -, rfl⟩ := headerMade_spec done
        exact calculated
  obtain ⟨srcMode, dstMode⟩ := modes_of_length calculated
  rw [length_modes srcMode dstMode] at calculated
  rw [← Option.some.inj calculated, UInt8.toNat_ofNat_of_lt' (lengthOf_lt _ _ _), mhrLen_modes]
  by_cases request : caller = .beaconRequestCommand
  · subst request
    rw [beaconRequest_swapped done, (beaconRequest_args done).2, lengthOf, lengthOf]
    simp only [bne_self_eq_false, Bool.false_eq_true, if_false]
    omega
  · rw [(sameModes_iff done).2 request]

/-- **The header round trip**, and who passes the same modes: for every frame with modes of none, a
short or a long address, and every command, exactly if the command is not the beacon request. -/
theorem roundTrip_iff (mhr : ZbMacMhr) (rest : List UInt8)
    (src : Mode (fcfGetSrcAddressingMode mhr.frameControl))
    (dst : Mode (fcfGetDstAddressingMode mhr.frameControl)) (caller : MhrCaller) (made : HeaderMade)
    (done : caller.made = some made) :
    ReadsBack mhr rest ∧ made.SameModes ↔ caller ≠ .beaconRequestCommand := by
  rw [and_iff_right (readsBack src dst rest)]
  exact sameModes_iff done

/-- An association request to a coordinator with a short address, and its frame control. -/
def associationRequest : HeaderMade :=
  ⟨zbAddr64bitDev, zbAddr16bitDevOrBroadcast, 0, 17, (0x23, 0xC8)⟩

theorem roundTrip_associationRequest :
    ReadsBack ⟨(0x23, 0xC8), 7, 0x1AAA, ofAddrShort 1, 0xFFFF, Vector.replicate 8 5⟩ [1, 0x8E] ∧
      associationRequest.SameModes :=
  (roundTrip_iff _ _ (by decide) (by decide) (.sendAssociationReqCmd 2) associationRequest
    (by decide)).2 (by decide)

/-- **A beacon request**: the length is asked for with a short source address and no destination,
the frame goes out with a short destination and no source. -/
theorem beaconRequest_modes :
    ¬ ∀ (mhr : ZbMacMhr) (rest : List UInt8), Mode (fcfGetSrcAddressingMode mhr.frameControl) →
      Mode (fcfGetDstAddressingMode mhr.frameControl) → ReadsBack mhr rest ∧
        ∀ (caller : MhrCaller) (made : HeaderMade), caller.made = some made → made.SameModes := by
  intro claimed
  obtain ⟨-, every⟩ := claimed ⟨(0, 0), 0, 0, Vector.replicate 8 0, 0, Vector.replicate 8 0⟩ []
    (by decide) (by decide)
  have request : zbBeaconRequestCommand =
      some ⟨zbAddr16bitDevOrBroadcast, zbAddrNoAddr, 0, 7, (3, 8)⟩ := by decide
  have same := every .beaconRequestCommand _ request
  exact absurd (Prod.mk.inj same).1 (by decide)

end Zboss.Mac.HeaderRoundTrip
