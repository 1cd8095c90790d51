/-
# Mac.PibAttributes -- the attributes of the MAC layer

`zb_mlme_set_request` takes an attribute of the PIB from the bytes behind the request, and
`zb_mlme_get_request` puts it behind the confirm.

* `mlme_right_iff`: which attributes one gets as they were set.

Pole: here the set primitive takes the attributes of 16 bits in full, but the get primitive writes
one byte of them.  Where the PIB is configurable, two of these attributes are written behind the
place of the value, since their pointer counts words, and the number of retries one gets is the
constant and not the attribute.
-/
import Mathlib
import Zboss.Common.Constants
import Zboss.Theory.Attributes
import Zboss.Common.PacketBuf

namespace Zboss.Mac.PibAttributes

open Zboss.Common.Constants
open Zboss.Theory.Attributes
open Zboss.Common.PacketBuf

set_option autoImplicit false

/-! ## Data -/

def macUnsupportedAttribute : UInt8 := 0xf4

def zbMacMaxFrameRetries : UInt8 := 3

/-- `zb_mac_pib_attr_t`, and any other number. -/
inductive ZbMacPibAttr where
  | phyCurrentChannel
  | phyCurrentPage
  | ackWaitDuration
  | associationPermit
  | autoRequest
  | battLifeExt
  | battLifeExtPeriods
  | beaconPayload
  | beaconPayloadLength
  | beaconOrder
  | beaconTxTime
  | bsn
  | coordExtendAddress
  | coordShortAddress
  | dsn
  | gtsPermit
  | maxCsmaBackoffs
  | minBe
  | panid
  | promiscuousMode
  | rxOnWhenIdle
  | shortAddress
  | superFrameOrder
  | transactionPersistenceTime
  | associatedPanCoord
  | maxBe
  | maxFrameTotalWaitTime
  | maxFrameRetries
  | responseWaitTime
  | syncSymbolOffset
  | timestampSupported
  | securityEnabled
  | other (number : UInt32)
  deriving DecidableEq

/-- The attributes of the PIB. -/
structure ZbMacPib where
  macAckWaitDuration : UInt16
  macAssociationPermit : UInt8
  macBattLifeExt : UInt8
  /-- `zb_mac_beacon_payload_t`, as its bytes -/
  macBeaconPayload : Vector UInt8 15
  macBeaconPayloadLength : UInt8
  macBeaconOrder : UInt8
  macBsn : UInt8
  macCoordExtendedAddress : Vector UInt8 8
  macCoordShortAddress : UInt16
  macDsn : UInt8
  macPanId : UInt16
  macRxOnWhenIdle : UInt8
  macShortAddress : UInt16
  macSuperframeOrder : UInt16
  macMaxFrameRetries : UInt8
  macTransactionPersistenceTime : UInt16
  macResponseWaitTime : UInt8
  macMaxFrameTotalWaitTime : UInt16
  phyCurrentPage : UInt8
  phyCurrentChannel : UInt8
  deriving DecidableEq

/-- `ZB_CONFIGURABLE_MAC_PIB`, and the constants that stand for the attributes without it. -/
structure MacBuild where
  configurable : Bool
  ackWaitDuration : UInt16
  responseWaitTime : UInt8
  deriving DecidableEq

/-! ## The primitives -/

/-- A confirm with two announced bytes, the value of which is written behind them. -/
def behindConfirm (a : ZbMacPibAttr) (left : Nat → UInt8) : GetConfirm ZbMacPibAttr :=
  ⟨macSuccess, a, 2, byteInto 2 (left 0) left⟩

/-- `ZB_MAC_PIB_ACK_WAIT_DURATION` -/
def pibAckWaitDuration (build : MacBuild) (pib : ZbMacPib) : UInt16 :=
  if build.configurable then pib.macAckWaitDuration else build.ackWaitDuration

/-- `ZB_MAC_PIB_RESPONSE_WAIT_TIME` -/
def pibResponseWaitTime (build : MacBuild) (pib : ZbMacPib) : UInt8 :=
  if build.configurable then pib.macResponseWaitTime else build.responseWaitTime

/-- `zb_mlme_get_request`; `pib_index`, which is 0 for all attributes, is left out. -/
def zbMlmeGetRequest (build : MacBuild) (pib : ZbMacPib) (a : ZbMacPibAttr) (left : Nat → UInt8) :
    GetConfirm ZbMacPibAttr :=
  let byte := byteConfirm macSuccess a
  let unsupported := noneConfirm macUnsupportedAttribute a
  match a with
  | .phyCurrentChannel => byte 1 pib.phyCurrentChannel left
  | .phyCurrentPage => byte 1 pib.phyCurrentPage left
  | .ackWaitDuration => byte 2 (pibAckWaitDuration build pib).toUInt8 left
  | .associationPermit => byte 1 pib.macAssociationPermit left
  | .battLifeExt => byte 1 pib.macBattLifeExt left
  | .beaconPayload => ⟨macSuccess, a, 15, pib.macBeaconPayload.toList⟩
  | .beaconPayloadLength => byte 1 pib.macBeaconPayloadLength left
  | .beaconOrder => byte 1 pib.macBeaconOrder left
  | .bsn => byte 1 pib.macBsn left
  | .coordShortAddress => byte 2 pib.macCoordShortAddress.toUInt8 left
  | .dsn => byte 1 pib.macDsn left
  | .panid => byte 2 pib.macPanId.toUInt8 left
  | .rxOnWhenIdle => byte 1 pib.macRxOnWhenIdle left
  | .shortAddress => byte 2 pib.macShortAddress.toUInt8 left
  | .superFrameOrder => byte 2 pib.macSuperframeOrder.toUInt8 left
  -- `*(((zb_uint16_t *)conf) + sizeof(zb_mlme_get_confirm_t))` lies twice as far as the value
  | .transactionPersistenceTime => behindConfirm a left
  | .associatedPanCoord => unsupported
  | .maxFrameTotalWaitTime => behindConfirm a left
  | .maxFrameRetries => byte 1 zbMacMaxFrameRetries left
  | .responseWaitTime => byte 1 (pibResponseWaitTime build pib) left
  | _ => unsupported

/-- `zb_mlme_set_request`; `p` are the bytes behind the request. -/
def zbMlmeSetRequest (build : MacBuild) (pib : ZbMacPib) (a : ZbMacPibAttr) (p : List UInt8) :
    SetConfirm ZbMacPibAttr × ZbMacPib :=
  let byte := p.getD 0 0
  let word := uint16At 0 p
  let success := SetConfirm.mk macSuccess a
  let unsupported := (SetConfirm.mk macUnsupportedAttribute a, pib)
  match a with
  | .phyCurrentChannel => (success, { pib with phyCurrentChannel := byte })
  | .phyCurrentPage => (success, { pib with phyCurrentPage := byte })
  | .ackWaitDuration =>
      if build.configurable then (success, { pib with macAckWaitDuration := word }) else unsupported
  | .transactionPersistenceTime =>
      if build.configurable then (success, { pib with macTransactionPersistenceTime := word })
      else unsupported
  | .maxFrameTotalWaitTime =>
      if build.configurable then (success, { pib with macMaxFrameTotalWaitTime := word })
      else unsupported
  | .maxFrameRetries =>
      if build.configurable then (success, { pib with macMaxFrameRetries := byte }) else unsupported
  | .responseWaitTime =>
      if build.configurable then (success, { pib with macResponseWaitTime := byte })
      else unsupported
  | .associationPermit => (success, { pib with macAssociationPermit := byte })
  | .battLifeExt => (success, { pib with macBattLifeExt := byte })
  | .beaconPayload =>
      (success, { pib with macBeaconPayload := Vector.ofFn fun i => p.getD i.val 0 })
  | .beaconPayloadLength => (success, { pib with macBeaconPayloadLength := byte })
  | .beaconOrder => (success, { pib with macBeaconOrder := byte })
  | .bsn => (success, { pib with macBsn := byte })
  | .coordShortAddress => (success, { pib with macCoordShortAddress := word })
  | .coordExtendAddress =>
      (success, { pib with macCoordExtendedAddress := Vector.ofFn fun i => p.getD i.val 0 })
  | .dsn => (success, { pib with macDsn := byte })
  | .panid => (success, { pib with macPanId := word })
  | .rxOnWhenIdle => (success, { pib with macRxOnWhenIdle := byte })
  | .shortAddress => (success, { pib with macShortAddress := word })
  | .superFrameOrder => (success, { pib with macSuperframeOrder := word })
  | _ => unsupported

/-! ## What the PIB declares -/

/-- The width of the field of an attribute, in bits. -/
def pibBits : ZbMacPibAttr → Nat
  | .phyCurrentChannel | .phyCurrentPage | .associationPermit | .battLifeExt | .beaconPayloadLength
  | .beaconOrder | .bsn | .dsn | .rxOnWhenIdle | .maxFrameRetries | .responseWaitTime => 8
  | .ackWaitDuration | .coordShortAddress | .panid | .shortAddress | .superFrameOrder
  | .transactionPersistenceTime | .maxFrameTotalWaitTime => 16
  | .beaconPayload => 120
  | .coordExtendAddress => 64
  | _ => 0

/-- The attributes that the layer has. -/
def pibSupported (a : ZbMacPibAttr) : Bool := pibBits a != 0

/-- What the PIB holds of an attribute. -/
def pibContent (pib : ZbMacPib) : ZbMacPibAttr → List UInt8
  | .phyCurrentChannel => [pib.phyCurrentChannel]
  | .phyCurrentPage => [pib.phyCurrentPage]
  | .ackWaitDuration => uint16Bytes pib.macAckWaitDuration
  | .associationPermit => [pib.macAssociationPermit]
  | .battLifeExt => [pib.macBattLifeExt]
  | .beaconPayload => pib.macBeaconPayload.toList
  | .beaconPayloadLength => [pib.macBeaconPayloadLength]
  | .beaconOrder => [pib.macBeaconOrder]
  | .bsn => [pib.macBsn]
  | .coordExtendAddress => pib.macCoordExtendedAddress.toList
  | .coordShortAddress => uint16Bytes pib.macCoordShortAddress
  | .dsn => [pib.macDsn]
  | .panid => uint16Bytes pib.macPanId
  | .rxOnWhenIdle => [pib.macRxOnWhenIdle]
  | .shortAddress => uint16Bytes pib.macShortAddress
  | .superFrameOrder => uint16Bytes pib.macSuperframeOrder
  | .transactionPersistenceTime => uint16Bytes pib.macTransactionPersistenceTime
  | .maxFrameTotalWaitTime => uint16Bytes pib.macMaxFrameTotalWaitTime
  | .maxFrameRetries => [pib.macMaxFrameRetries]
  | .responseWaitTime => [pib.macResponseWaitTime]
  | _ => []

/-- The MAC layer. -/
def mlme (build : MacBuild) : Primitives ZbMacPib ZbMacPibAttr where
  success := macSuccess
  unsupported := macUnsupportedAttribute
  bits := pibBits
  supported := pibSupported
  content := pibContent
  setRequest := zbMlmeSetRequest build
  getRequest := zbMlmeGetRequest build

/-- What has to be in the buffer by chance, and the number of retries to be the constant. -/
def mlmeKept (build : MacBuild) (left : Nat → UInt8) (p : List UInt8) : ZbMacPibAttr → Bool
  | .coordShortAddress | .panid | .shortAddress | .superFrameOrder => restLeft 2 left p
  | .ackWaitDuration => !build.configurable || restLeft 2 left p
  | .transactionPersistenceTime | .maxFrameTotalWaitTime =>
      !build.configurable || (p.getD 0 0 == left 0 && restLeft 2 left p)
  | .maxFrameRetries => !build.configurable || p.getD 0 0 == zbMacMaxFrameRetries
  | _ => true

/-! ## Set then get -/

section Right

variable {build : MacBuild} {pib : ZbMacPib} {a : ZbMacPibAttr} {p : List UInt8}
  {left : Nat → UInt8}

/-- Both primitives know the attribute. -/
def pibBoth (build : MacBuild) : ZbMacPibAttr → Bool
  | .ackWaitDuration | .transactionPersistenceTime | .maxFrameTotalWaitTime | .maxFrameRetries
  | .responseWaitTime => build.configurable
  | .coordExtendAddress => false
  | a => pibSupported a

theorem mlme_refused (not : pibSupported a = false) :
    zbMlmeSetRequest build pib a p = (⟨macUnsupportedAttribute, a⟩, pib) ∧
      zbMlmeGetRequest build pib a left = noneConfirm macUnsupportedAttribute a := by
  cases a <;> first | exact ⟨rfl, rfl⟩ | cases not

/-- An attribute that is not known to both is refused by one. -/
theorem mlme_one_refuses (not : pibBoth build a = false) :
    (zbMlmeSetRequest build pib a p).1.status = macUnsupportedAttribute ∨
      (zbMlmeGetRequest build pib a left).status = macUnsupportedAttribute := by
  cases a <;>
    first
      | exact .inl rfl
      | exact .inr rfl
      | cases not
      | simp only [pibBoth] at not
        exact .inl (by simp [zbMlmeSetRequest, not])

theorem mlme_accepted (both : pibBoth build a = true) :
    (zbMlmeSetRequest build pib a p).1.status = macSuccess ∧
      (zbMlmeGetRequest build pib a left).status = macSuccess ∧
      (zbMlmeGetRequest build pib a left).attr = a ∧
      (zbMlmeGetRequest build pib a left).length = width (pibBits a) := by
  cases a <;>
    first
      | exact ⟨rfl, rfl, rfl, rfl⟩
      | cases both
      | simp only [pibBoth] at both
        simp [zbMlmeSetRequest, zbMlmeGetRequest, both, byteConfirm, behindConfirm, width, pibBits]

/-- No other attribute has changed. -/
theorem mlme_others {b : ZbMacPibAttr} (other : b ≠ a) :
    pibContent (zbMlmeSetRequest build pib a p).2 b = pibContent pib b := by
  cases supported : pibSupported a with
  | false => rw [(@mlme_refused build pib a p (fun _ => 0) supported).1]
  | true =>
      cases a with
      | ackWaitDuration | transactionPersistenceTime | maxFrameTotalWaitTime | maxFrameRetries
      | responseWaitTime =>
          dsimp only [zbMlmeSetRequest]
          split <;> cases b <;> first | exact absurd rfl other | rfl
      | beaconPayload =>
          dsimp only [zbMlmeSetRequest]
          generalize (Vector.ofFn fun i : Fin 15 => p.getD i.val 0) = payload
          cases b <;> first | exact absurd rfl other | rfl
      | coordExtendAddress =>
          dsimp only [zbMlmeSetRequest]
          generalize (Vector.ofFn fun i : Fin 8 => p.getD i.val 0) = addr
          cases b <;> first | exact absurd rfl other | rfl
      | _ =>
          first
            | cases supported; done
            | dsimp only [zbMlmeSetRequest]
              cases b <;> first | exact absurd rfl other | rfl

/-- The low byte of a word is its first. -/
theorem toUInt8_uint16At : (uint16At 0 p).toUInt8 = p.getD 0 0 := by
  apply UInt8.toNat_inj.1
  rw [UInt16.toNat_toUInt8, uint16At, UInt16.toNat_ofNat']
  have := (p.getD 0 0).toNat_lt
  omega

/-- The bytes of the confirm. -/
theorem mlme_value_iff {v : Value (pibBits a)} (both : pibBoth build a = true) :
    (zbMlmeGetRequest build (zbMlmeSetRequest build pib a v.bytes).2 a left).value = v.bytes ↔
      mlmeKept build left v.bytes a = true := by
  cases a with
  | phyCurrentChannel | phyCurrentPage | associationPermit | battLifeExt | beaconPayloadLength
  | beaconOrder | bsn | dsn | rxOnWhenIdle => exact iff_of_true (byteInto_one rfl) rfl
  | coordShortAddress | panid | shortAddress | superFrameOrder =>
      dsimp only [zbMlmeSetRequest, zbMlmeGetRequest, byteConfirm]
      rw [toUInt8_uint16At]
      exact byteInto_iff (n := 2) (by decide) v.length_eq
  | ackWaitDuration =>
      simp only [pibBoth] at both
      dsimp only [zbMlmeSetRequest, zbMlmeGetRequest, byteConfirm, pibAckWaitDuration, mlmeKept]
      rw [both, if_pos rfl, if_pos rfl, toUInt8_uint16At, Bool.not_true, Bool.false_or]
      exact byteInto_iff (n := 2) (by decide) v.length_eq
  | transactionPersistenceTime | maxFrameTotalWaitTime =>
      simp only [pibBoth] at both
      dsimp only [zbMlmeGetRequest, behindConfirm, mlmeKept]
      rw [both, Bool.not_true, Bool.false_or]
      exact byteInto_other_iff (n := 2) (by decide) v.length_eq
  | maxFrameRetries =>
      simp only [pibBoth] at both
      dsimp only [zbMlmeGetRequest, byteConfirm, mlmeKept]
      rw [both, Bool.not_true, Bool.false_or]
      exact (byteInto_other_iff (n := 1) (by decide) v.length_eq).trans
        (by rw [show restLeft 1 left v.bytes = true from rfl, Bool.and_true])
  | responseWaitTime =>
      simp only [pibBoth] at both
      dsimp only [zbMlmeSetRequest, zbMlmeGetRequest, byteConfirm, pibResponseWaitTime]
      rw [both, if_pos rfl, if_pos rfl]
      exact iff_of_true (byteInto_one rfl) rfl
  | beaconPayload => exact iff_of_true (toList_ofFn_getD v.length_eq) rfl
  | _ => cases both

/-- **Which attributes of the MAC layer one gets as they were set.** -/
theorem mlme_right_iff {v : Value ((mlme build).bits a)} :
    SetGetRight (mlme build) pib a v left ↔ mlmeKept build left v.bytes a = true := by
  cases both : pibBoth build a with
  | false =>
      have one := @mlme_one_refuses build pib a v.bytes left both
      have kept : mlmeKept build left v.bytes a = true := by
        cases a <;>
          first
            | rfl
            | cases both
            | simp only [pibBoth] at both
              rw [mlmeKept, both]
              rfl
      apply iff_of_true _ kept
      apply setGetRight_of_one_refuses
      · rcases one with not | not
        · exact .inl fun is => absurd (not.symm.trans is) (of_decide_eq_true rfl)
        · exact .inr fun is => absurd (not.symm.trans is) (of_decide_eq_true rfl)
      · intro unsupported
        have ⟨set_, get_⟩ := @mlme_refused build pib a v.bytes left unsupported
        exact ⟨set_, congrArg GetConfirm.status get_⟩
  | true =>
      have supported : pibSupported a = true := by
        cases a <;> first | rfl | cases both
      have ⟨set_ok, _⟩ := @mlme_accepted build pib a v.bytes left both
      rw [setGetRight_iff_value (P := mlme build) supported set_ok
        (fun t => (@mlme_accepted build t a [] left both).2) fun b other => mlme_others other]
      exact mlme_value_iff (v := v) both

end Right

end Zboss.Mac.PibAttributes
