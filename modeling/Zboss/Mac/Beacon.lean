/-
# Mac.Beacon -- the beacon that answers a beacon request, and what is read in it

A router or coordinator answers a beacon request from its PIB: `zb_send_beacon_frame` writes the
header, the superframe specification, two empty fields, and the beacon payload as it was stored by
the network layer.  The device that scans reads the header back, and looks for the rest behind it.

* `beaconOf_sent`: what is read in a beacon is what was written, whatever comes behind the frame.
  Of the beacon order the reader keeps three bits, of the superframe order all four.

Pole: `beaconOf_sent`.
-/
import Mathlib
import Zboss.Common.Constants
import Zboss.Mac.HeaderRoundTrip
import Zboss.Nwk.DiscoveryConfirm

namespace Zboss.Mac.Beacon

open Zboss.Common.Constants
open Zboss.Common.Types
open Zboss.Common.PacketBuf
open Zboss.Common.PanIdTable (ZbExtPanId)
open Zboss.Mac.Header
open Zboss.Mac.HeaderRoundTrip
open Zboss.Nwk.Formation (MacSrcAddr)
open Zboss.Nwk.DiscoveryConfirm

set_option autoImplicit false

/-! ## The payload -/

/-- `zb_mac_beacon_payload_t`; the bit fields are given by their values. -/
structure StoredPayload where
  protocolId : UInt8
  stackProfile : UInt8
  protocolVersion : UInt8
  routerCapacity : UInt8
  deviceDepth : UInt8
  endDeviceCapacity : UInt8
  extendedPanid : ZbExtPanId
  txoffset : Vector UInt8 3
  nwkUpdateId : UInt8
  deriving DecidableEq

/-- `ZB_BZERO` -/
def StoredPayload.zero : StoredPayload :=
  ⟨0, 0, 0, 0, 0, 0, Vector.replicate 8 0, Vector.replicate 3 0, 0⟩

/-- `sizeof(zb_mac_beacon_payload_t)` -/
def sizeofBeaconPayload : UInt8 := 15

/-- A bit field, at its place. -/
def bitField (value mask place : UInt8) : UInt8 := (value &&& mask) <<< place

def profileByte (p : StoredPayload) : UInt8 :=
  bitField p.stackProfile 0x0F 0 ||| bitField p.protocolVersion 0x0F 4

/-- The two lowest bits are reserved. -/
def capacityByte (p : StoredPayload) : UInt8 :=
  bitField p.routerCapacity 1 2 ||| bitField p.deviceDepth 0x0F 3 ||| bitField p.endDeviceCapacity 1 7

def payloadBytes (p : StoredPayload) : List UInt8 :=
  [p.protocolId, profileByte p, capacityByte p] ++ p.extendedPanid.toList ++ p.txoffset.toList ++
    [p.nwkUpdateId]

/-- `ZB_MAC_GET_BEACON_PAYLOAD`, and the fields that are read of it. -/
def payloadAt (at_ : Nat) (frame : List UInt8) : ZbMacBeaconPayload where
  protocolId := frame.getD at_ 0
  stackProfile := frame.getD (at_ + 1) 0 &&& 0x0F
  protocolVersion := frame.getD (at_ + 1) 0 >>> 4
  routerCapacity := (frame.getD (at_ + 2) 0 >>> 2) &&& 1 != 0
  deviceDepth := (frame.getD (at_ + 2) 0 >>> 3) &&& 0x0F
  endDeviceCapacity := frame.getD (at_ + 2) 0 >>> 7 != 0
  extendedPanid := ieeeAddrAt (at_ + 3) frame

/-! ## Sending -/

/-- What of the PIB, and beside it, goes in a beacon. -/
structure BeaconSource where
  /-- `MAC_CTX().dev_type` is `MAC_DEV_FFD`. -/
  devFfd : Bool
  macBsn : UInt8
  macPanId : UInt16
  macShortAddress : UInt16
  macBeaconOrder : UInt8
  macSuperframeOrder : UInt16
  macBattLifeExt : UInt8
  macAssociationPermit : UInt8
  macBeaconPayload : StoredPayload
  macBeaconPayloadLength : UInt8
  apsDesignatedCoordinator : UInt8

/-- `zb_beacon_frame_params_t`, without the security that is never set. -/
structure ZbBeaconFrameParams where
  srcAddrMode : UInt8
  framePending : UInt8
  beaconOrder : UInt8
  superframeOrder : UInt8
  ble : UInt8

/-- 7.2.2.1.2 Superframe Specification field, in the order of the frame; the final CAP slot is
always `0x0F`. -/
def superframeBytes (coordinatorRole : Bool) (params : ZbBeaconFrameParams) (s : BeaconSource) :
    UInt8 × UInt8 :=
  let zeroByte := setField (setField 0 0xF0 params.beaconOrder 0) 0x0F params.superframeOrder 4
  let firstByte := setField (setField 0 0xF0 0x0F 0) 0xEF params.ble 4
  let firstByte :=
    if coordinatorRole ∧ s.apsDesignatedCoordinator = 1 then setField firstByte 0xBF 1 6
    else firstByte
  (zeroByte, setField firstByte 0x7F s.macAssociationPermit 7)

/-- The frame, without what the transceiver adds to it; nothing is an assertion, or a payload that
is longer than the one stored. -/
def zbSendBeaconFrame (coordinatorRole : Bool) (macExtendedAddress : ZbIeeeAddr)
    (params : ZbBeaconFrameParams) (s : BeaconSource) : Option (List UInt8 × BeaconSource) := do
  let header ← HeaderRoundTrip.zbSendBeaconFrame params.srcAddrMode params.framePending
  let mhr : ZbMacMhr :=
    { frameControl := header.frameControl
      seqNumber := s.macBsn
      dstPanId := 0
      dstAddr := Vector.replicate 8 0
      srcPanId := s.macPanId
      srcAddr :=
        if params.srcAddrMode = zbAddr64bitDev then macExtendedAddress
        else ofAddrShort s.macShortAddress }
  guard (s.macBeaconPayloadLength ≤ sizeofBeaconPayload)
  let superframe := superframeBytes coordinatorRole params s
  return (zbMacFillMhr mhr ++ [superframe.1, superframe.2, 0, 0] ++
      (payloadBytes s.macBeaconPayload).take s.macBeaconPayloadLength.toNat,
    { s with macBsn := s.macBsn + 1 })

/-- Beacon requests are ignored by a device that is not a router or a coordinator, or that has no
beacon payload; the others answer from their short address. -/
def zbHandleBeaconReq (coordinatorRole : Bool) (macExtendedAddress : ZbIeeeAddr)
    (s : BeaconSource) : Option (Option (List UInt8) × BeaconSource) :=
  if s.devFfd ∧ s.macBeaconPayloadLength ≠ 0 then do
    let (frame, s) ← zbSendBeaconFrame coordinatorRole macExtendedAddress
      { srcAddrMode := zbAddr16bitDevOrBroadcast
        framePending := 0
        beaconOrder := s.macBeaconOrder
        superframeOrder := s.macSuperframeOrder.toUInt8
        ble := s.macBattLifeExt } s
    return (some frame, s)
  else some (none, s)

/-! ## Reading -/

/-- A long address as a number, its first byte the lowest. -/
def ieeeNumber (addr : ZbIeeeAddr) : UInt64 :=
  addr.toList.foldr (fun byte number => number <<< 8 ||| byte.toUInt64) 0

/-- What `zb_mlme_beacon_notify_indication` finds in a frame: the address by its mode, the
superframe specification behind the header, the payload behind the two fields after it. -/
def beaconOf (logicalChannel : UInt8) (frame : List UInt8) : Beacon :=
  let (mhr, mhrLen) := zbParseMhr frame
  { srcPanId := mhr.srcPanId
    srcAddr :=
      if fcfGetSrcAddressingMode mhr.frameControl = zbAddr16bitDevOrBroadcast then
        .short (addrShort mhr.srcAddr)
      else .long (ieeeNumber mhr.srcAddr)
    superframeSpec := (frame.getD mhrLen 0, frame.getD (mhrLen + 1) 0)
    logicalChannel
    payload := some (payloadAt (mhrLen + 2 + 1 + 1) frame) }

/-! ## What is written is read -/

theorem length_payloadBytes (p : StoredPayload) :
    (payloadBytes p).length = sizeofBeaconPayload.toNat := by
  simp [payloadBytes, sizeofBeaconPayload]

/-- What a reader makes of a stored payload: the bit fields have their bits. -/
def readPayload (p : StoredPayload) : ZbMacBeaconPayload where
  protocolId := p.protocolId
  stackProfile := p.stackProfile &&& 0x0F
  protocolVersion := p.protocolVersion &&& 0x0F
  routerCapacity := p.routerCapacity &&& 1 != 0
  deviceDepth := p.deviceDepth &&& 0x0F
  endDeviceCapacity := p.endDeviceCapacity &&& 1 != 0
  extendedPanid := p.extendedPanid

section Bits

variable (p : StoredPayload)

theorem profileByte_bits :
    profileByte p &&& 0x0F = p.stackProfile &&& 0x0F ∧
      profileByte p >>> 4 = p.protocolVersion &&& 0x0F := by
  constructor <;> apply UInt8.toBitVec_inj.1 <;> ext i inside <;> interval_cases i <;>
    simp [profileByte, bitField]

theorem capacityByte_bits :
    (capacityByte p >>> 2) &&& 1 = p.routerCapacity &&& 1 ∧
      (capacityByte p >>> 3) &&& 0x0F = p.deviceDepth &&& 0x0F ∧
      capacityByte p >>> 7 = p.endDeviceCapacity &&& 1 := by
  refine ⟨?_, ?_, ?_⟩ <;> apply UInt8.toBitVec_inj.1 <;> ext i inside <;> interval_cases i <;>
    simp [capacityByte, bitField]

/-- What of the superframe specification is read again. -/
theorem superframe_bits (coordinatorRole : Bool) (params : ZbBeaconFrameParams) (s : BeaconSource) :
    zbMacGetBeaconOrder (superframeBytes coordinatorRole params s) = params.beaconOrder &&& 0x07 ∧
      zbMacGetSuperframeOrder (superframeBytes coordinatorRole params s) =
        params.superframeOrder &&& 0x0F ∧
      zbMacGetAssociationPermit (superframeBytes coordinatorRole params s) =
        (s.macAssociationPermit &&& 1 != 0) := by
  have top : ∀ b permit : UInt8, (setField b 0x7F permit 7 >>> 7) &&& 1 = permit &&& 1 := by
    intro b permit
    apply UInt8.toBitVec_inj.1
    ext i inside
    interval_cases i <;> simp [setField]
  refine ⟨?_, ?_, ?_⟩
  · apply UInt8.toBitVec_inj.1
    ext i inside
    interval_cases i <;> simp [zbMacGetBeaconOrder, superframeBytes, setField]
  · apply UInt8.toBitVec_inj.1
    ext i inside
    interval_cases i <;> simp [zbMacGetSuperframeOrder, superframeBytes, setField]
  · rw [zbMacGetAssociationPermit, superframeBytes, top]

end Bits

/-- The payload is read where it stands. -/
theorem payloadAt_bytes (p : StoredPayload) {before after : List UInt8} {at_ : Nat}
    (there : before.length = at_) : payloadAt at_ (before ++ (payloadBytes p ++ after)) = readPayload p := by
  obtain ⟨profile, version⟩ := profileByte_bits p
  obtain ⟨router, depth, endDevice⟩ := capacityByte_bits p
  have byte : ∀ k b, k < 3 → (payloadBytes p)[k]? = some b →
      (before ++ (payloadBytes p ++ after)).getD (at_ + k) 0 = b := by
    intro k b small is
    rw [List.getD_eq_getElem?_getD, ← there, List.getElem?_append_right (Nat.le_add_right _ _),
      Nat.add_sub_cancel_left, List.getElem?_append_left, is]
    · rfl
    · rw [length_payloadBytes]
      exact Nat.lt_trans small (by decide)
  have zero := byte 0 p.protocolId (by omega) rfl
  have one := byte 1 (profileByte p) (by omega) rfl
  have two := byte 2 (capacityByte p) (by omega) rfl
  have panid : ieeeAddrAt (at_ + 3) (before ++ (payloadBytes p ++ after)) = p.extendedPanid := by
    have split : before ++ (payloadBytes p ++ after) =
        (before ++ [p.protocolId, profileByte p, capacityByte p]) ++
          (p.extendedPanid.toList ++ (p.txoffset.toList ++ [p.nwkUpdateId] ++ after)) := by
      simp [payloadBytes]
    rw [split]
    exact ieeeAddrAt_bytes p.extendedPanid (by simp [there])
  rw [payloadAt, readPayload, one, two, panid, profile, version, router, depth, endDevice]
  congr

/-! ## What a beacon says -/

/-- A router or coordinator whose network layer has stored the payload. -/
def Answers (s : BeaconSource) : Prop :=
  s.devFfd = true ∧ s.macBeaconPayloadLength = sizeofBeaconPayload

instance (s : BeaconSource) : Decidable (Answers s) := inferInstanceAs (Decidable (_ ∧ _))

/-- The parameters that `zb_handle_beacon_req` makes. -/
def beaconFrameParams (s : BeaconSource) : ZbBeaconFrameParams where
  srcAddrMode := zbAddr16bitDevOrBroadcast
  framePending := 0
  beaconOrder := s.macBeaconOrder
  superframeOrder := s.macSuperframeOrder.toUInt8
  ble := s.macBattLifeExt

/-- What is read in the beacon of a device. -/
def beaconSaid (coordinatorRole : Bool) (logicalChannel : UInt8) (s : BeaconSource) : Beacon where
  srcPanId := s.macPanId
  srcAddr := .short s.macShortAddress
  superframeSpec := superframeBytes coordinatorRole (beaconFrameParams s) s
  logicalChannel
  payload := some (readPayload s.macBeaconPayload)

/-- The header of a beacon from a short address. -/
def beaconMhr (s : BeaconSource) : ZbMacMhr where
  frameControl := (0, 0x80)
  seqNumber := s.macBsn
  dstPanId := 0
  dstAddr := Vector.replicate 8 0
  srcPanId := s.macPanId
  srcAddr := ofAddrShort s.macShortAddress

/-- The frame of a device that answers. -/
def beaconFrame (coordinatorRole : Bool) (s : BeaconSource) : List UInt8 :=
  let superframe := superframeBytes coordinatorRole (beaconFrameParams s) s
  zbMacFillMhr (beaconMhr s) ++ [superframe.1, superframe.2, 0, 0] ++ payloadBytes s.macBeaconPayload

theorem handleBeaconReq_answers (coordinatorRole : Bool) (macExtendedAddress : ZbIeeeAddr)
    {s : BeaconSource} (answers : Answers s) :
    zbHandleBeaconReq coordinatorRole macExtendedAddress s =
      some (some (beaconFrame coordinatorRole s), { s with macBsn := s.macBsn + 1 }) := by
  obtain ⟨ffd, whole⟩ := answers
  have header : HeaderRoundTrip.zbSendBeaconFrame zbAddr16bitDevOrBroadcast 0 =
      some ⟨zbAddr16bitDevOrBroadcast, zbAddrNoAddr, 0, 7, (0, 0x80)⟩ := by decide
  have some_ : s.macBeaconPayloadLength ≠ 0 := by
    rw [whole]
    decide
  have copied : (payloadBytes s.macBeaconPayload).take s.macBeaconPayloadLength.toNat =
      payloadBytes s.macBeaconPayload := by
    rw [whole, ← length_payloadBytes, List.take_length]
  have short : zbAddr16bitDevOrBroadcast ≠ zbAddr64bitDev := by decide
  have room : guard (s.macBeaconPayloadLength ≤ sizeofBeaconPayload) = some () :=
    if_pos (UInt8.le_of_eq whole)
  have sent : zbSendBeaconFrame coordinatorRole macExtendedAddress (beaconFrameParams s) s =
      some (beaconFrame coordinatorRole s, { s with macBsn := s.macBsn + 1 }) := by
    have mode : (beaconFrameParams s).srcAddrMode = zbAddr16bitDevOrBroadcast := rfl
    have pending : (beaconFrameParams s).framePending = 0 := rfl
    simp only [zbSendBeaconFrame, mode, pending, header, Option.bind_eq_bind, Option.bind_some, room,
      copied, if_neg short]
    rfl
  rw [zbHandleBeaconReq, if_pos ⟨ffd, some_⟩]
  show (zbSendBeaconFrame coordinatorRole macExtendedAddress (beaconFrameParams s) s).bind _ = _
  rw [sent]
  rfl

/-- **A beacon reads back**: what the reader finds in the frame is the state of the sender, whatever
comes behind. -/
theorem beaconOf_sent (coordinatorRole : Bool) (logicalChannel : UInt8) (s : BeaconSource)
    (rest : List UInt8) :
    beaconOf logicalChannel (beaconFrame coordinatorRole s ++ rest) =
      beaconSaid coordinatorRole logicalChannel s := by
  generalize made : superframeBytes coordinatorRole (beaconFrameParams s) s = superframe
  have frame : beaconFrame coordinatorRole s ++ rest =
      zbMacFillMhr (beaconMhr s) ++
        ([superframe.1, superframe.2, 0, 0] ++ (payloadBytes s.macBeaconPayload ++ rest)) := by
    rw [beaconFrame, made, List.append_assoc, List.append_assoc]
  have length : (zbMacFillMhr (beaconMhr s)).length = 7 :=
    (length_zbMacFillMhr _).trans (by decide : mhrLen (0, 0x80) = 7)
  have parsed := zbParseMhr_fill (beaconMhr s)
    ([superframe.1, superframe.2, 0, 0] ++ (payloadBytes s.macBeaconPayload ++ rest))
  have payload := @payloadAt_bytes s.macBeaconPayload
    (zbMacFillMhr (beaconMhr s) ++ [superframe.1, superframe.2, 0, 0]) rest 11
    (by rw [List.length_append, length]; rfl)
  rw [List.append_assoc] at payload
  have byte : ∀ k b, [superframe.1, superframe.2, 0, 0][k]? = some b →
      (zbMacFillMhr (beaconMhr s) ++
        ([superframe.1, superframe.2, 0, 0] ++ (payloadBytes s.macBeaconPayload ++ rest))).getD
          (7 + k) 0 = b := by
    intro k b is
    rw [List.getD_eq_getElem?_getD, List.getElem?_append_right (by omega), length,
      Nat.add_sub_cancel_left, List.getElem?_append_left (List.getElem?_eq_some_iff.1 is).1, is]
    rfl
  have zero := byte 0 superframe.1 rfl
  have one := byte 1 superframe.2 rfl
  have mode : fcfGetSrcAddressingMode (beaconMhr s).frameControl = zbAddr16bitDevOrBroadcast :=
    (by decide : fcfGetSrcAddressingMode (0, 0x80) = zbAddr16bitDevOrBroadcast)
  have full : fcfGetPanidCompressionBit (beaconMhr s).frameControl = 0 :=
    (by decide : fcfGetPanidCompressionBit (0, 0x80) = 0)
  have read : srcRead (beaconMhr s) = (s.macPanId, carried zbAddr16bitDevOrBroadcast
      (ofAddrShort s.macShortAddress)) := by
    rw [srcRead, mode, if_pos (by decide), if_pos full]
    rfl
  rw [frame, beaconOf, parsed, length]
  dsimp only
  rw [zero, one, payload, beaconSaid, made, if_pos mode, read, addrShort_carried rfl,
    addrShort_ofAddrShort]

end Zboss.Mac.Beacon
