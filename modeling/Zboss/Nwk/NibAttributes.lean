/-
# Nwk.NibAttributes -- the attributes of the network layer

`zb_nlme_set_request` takes an attribute of the NIB from the bytes behind the request, and
`zb_nlme_get_request` puts it behind the confirm.

* `nlme_right_iff`: which attributes one gets as they were set.

Pole: both go through a pointer to bytes.  Of the two attributes of 16 bits the set primitive takes
the low byte alone, and the get primitive, which announces two bytes, writes one and leaves the
other as it was in the buffer.
-/
import Mathlib
import Zboss.Common.Constants
import Zboss.Theory.Attributes

namespace Zboss.Nwk.NibAttributes

open Zboss.Common.Constants
open Zboss.Theory.Attributes

set_option autoImplicit false

/-! ## Data -/

def zbNwkStatusUnsupportedAttribute : UInt8 := 0xC9

/-- `zb_nib_attribute_t`, and any other number. -/
inductive ZbNibAttribute where
  | panId
  | sequenceNumber
  | passiveAskTimeout
  | maxBroadcastRetries
  | maxChildren
  | maxDepth
  | maxRouters
  | neighborTable
  | broadcastDeliveryTime
  | reportConstantCost
  | routeDiscoveryRetriesPermitted
  | routeTable
  | timeStamp
  | txTotal
  | symLink
  | capabilityInformation
  | addrAlloc
  | useTreeRouting
  | managerAddr
  | maxSourceRoute
  | updateId
  | transactionPersistenceTime
  | networkAddress
  | stackProfile
  | broadcastTransactionTable
  | groupIdTable
  | extendedPanid
  | useMulticast
  | routeRecordTable
  | isConcentrator
  | concentratorRadius
  | concentratorDiscoveryTime
  | securityLevel
  | securityMaterialSet
  | activeKeySeqNumber
  | allFresh
  | secureAllFrames
  | linkStatusPeriod
  | routerAgeLimit
  | uniqueAddr
  | addressMap
  | other (number : UInt32)
  deriving DecidableEq

/-- The attributes of the NIB, with the widths of their fields. -/
structure ZbNib where
  sequenceNumber : UInt8
  passiveAckTimeout : UInt16
  maxBroadcastRetries : UInt8
  extendedPanId : Vector UInt8 8
  updateId : UInt8
  maxDepth : UInt8
  maxChildren : UInt8
  maxRouters : UInt8
  useTreeRouting : BitVec 1
  addrAlloc : BitVec 3
  securityLevel : BitVec 4
  secureAllFrames : BitVec 1
  activeSecurMaterialI : BitVec 2
  activeKeySeqNumber : UInt8
  nwkManagerAddr : UInt16
  deriving DecidableEq

structure NwkBuild where
  /-- `ZB_NWK_DISTRIBUTED_ADDRESS_ASSIGN` and `ZB_ROUTER_ROLE` -/
  routers : Bool
  /-- `ZB_SECURITY` -/
  security : Bool
  deriving DecidableEq

/-! ## The primitives -/

/-- `zb_nlme_get_request` -/
def zbNlmeGetRequest (build : NwkBuild) (nib : ZbNib) (a : ZbNibAttribute) (left : Nat → UInt8) :
    GetConfirm ZbNibAttribute :=
  let byte := byteConfirm zbNwkStatusSuccess a
  let unsupported := noneConfirm zbNwkStatusUnsupportedAttribute a
  match a with
  | .sequenceNumber => byte 1 nib.sequenceNumber left
  | .passiveAskTimeout => byte 2 nib.passiveAckTimeout.toUInt8 left
  | .maxBroadcastRetries => byte 1 nib.maxBroadcastRetries left
  | .maxChildren => byte 1 nib.maxChildren left
  | .maxDepth => byte 1 nib.maxDepth left
  | .maxRouters =>
      if build.routers then byte 1 nib.maxRouters left else unsupported
  | .addrAlloc => byte 1 (UInt8.ofNat nib.addrAlloc.toNat) left
  | .useTreeRouting => byte 1 (UInt8.ofNat nib.useTreeRouting.toNat) left
  | .managerAddr => byte 2 nib.nwkManagerAddr.toUInt8 left
  | .updateId => byte 1 nib.updateId left
  | .extendedPanid => ⟨zbNwkStatusSuccess, a, 8, nib.extendedPanId.toList⟩
  | .securityLevel =>
      if build.security then byte 1 (UInt8.ofNat nib.securityLevel.toNat) left
      else unsupported
  | .securityMaterialSet =>
      if build.security then byte 1 (UInt8.ofNat nib.activeSecurMaterialI.toNat) left
      else unsupported
  | .activeKeySeqNumber =>
      if build.security then byte 1 nib.activeKeySeqNumber left else unsupported
  | .secureAllFrames =>
      if build.security then byte 1 (UInt8.ofNat nib.secureAllFrames.toNat) left
      else unsupported
  | _ => unsupported

/-- `zb_nlme_set_request`; `p` are the bytes behind the request, and `*ptr` is the first of them. -/
def zbNlmeSetRequest (build : NwkBuild) (nib : ZbNib) (a : ZbNibAttribute) (p : List UInt8) :
    SetConfirm ZbNibAttribute × ZbNib :=
  let byte := p.getD 0 0
  let success := SetConfirm.mk zbNwkStatusSuccess a
  let unsupported := (SetConfirm.mk zbNwkStatusUnsupportedAttribute a, nib)
  match a with
  | .sequenceNumber => (success, { nib with sequenceNumber := byte })
  | .passiveAskTimeout => (success, { nib with passiveAckTimeout := byte.toUInt16 })
  | .maxBroadcastRetries => (success, { nib with maxBroadcastRetries := byte })
  | .maxChildren => (success, { nib with maxChildren := byte })
  | .maxDepth => (success, { nib with maxDepth := byte })
  | .maxRouters =>
      if build.routers then (success, { nib with maxRouters := byte }) else unsupported
  | .addrAlloc => (success, { nib with addrAlloc := BitVec.ofNat 3 byte.toNat })
  | .useTreeRouting => (success, { nib with useTreeRouting := BitVec.ofNat 1 byte.toNat })
  | .managerAddr => (success, { nib with nwkManagerAddr := byte.toUInt16 })
  | .updateId => (success, { nib with updateId := byte })
  | .extendedPanid => (success, { nib with extendedPanId := Vector.ofFn fun i => p.getD i.val 0 })
  | .securityLevel =>
      if build.security then (success, { nib with securityLevel := BitVec.ofNat 4 byte.toNat })
      else unsupported
  | .securityMaterialSet =>
      if build.security then
        (success, { nib with activeSecurMaterialI := BitVec.ofNat 2 byte.toNat })
      else unsupported
  | .activeKeySeqNumber =>
      if build.security then (success, { nib with activeKeySeqNumber := byte }) else unsupported
  | .secureAllFrames =>
      if build.security then (success, { nib with secureAllFrames := BitVec.ofNat 1 byte.toNat })
      else unsupported
  | _ => unsupported

/-! ## What the NIB declares -/

/-- The width of the field of an attribute, in bits. -/
def nibBits : ZbNibAttribute → Nat
  | .sequenceNumber | .maxBroadcastRetries | .maxChildren | .maxDepth | .maxRouters | .updateId
  | .activeKeySeqNumber => 8
  | .passiveAskTimeout | .managerAddr => 16
  | .addrAlloc => 3
  | .useTreeRouting | .secureAllFrames => 1
  | .securityLevel => 4
  | .securityMaterialSet => 2
  | .extendedPanid => 64
  | _ => 0

def nibSupported (build : NwkBuild) : ZbNibAttribute → Bool
  | .maxRouters => build.routers
  | .securityLevel | .securityMaterialSet | .activeKeySeqNumber | .secureAllFrames => build.security
  | a => nibBits a != 0

/-- What the NIB holds of an attribute. -/
def nibContent (nib : ZbNib) : ZbNibAttribute → List UInt8
  | .sequenceNumber => [nib.sequenceNumber]
  | .passiveAskTimeout => [nib.passiveAckTimeout.toUInt8, (nib.passiveAckTimeout >>> 8).toUInt8]
  | .maxBroadcastRetries => [nib.maxBroadcastRetries]
  | .maxChildren => [nib.maxChildren]
  | .maxDepth => [nib.maxDepth]
  | .maxRouters => [nib.maxRouters]
  | .addrAlloc => [UInt8.ofNat nib.addrAlloc.toNat]
  | .useTreeRouting => [UInt8.ofNat nib.useTreeRouting.toNat]
  | .managerAddr => [nib.nwkManagerAddr.toUInt8, (nib.nwkManagerAddr >>> 8).toUInt8]
  | .updateId => [nib.updateId]
  | .extendedPanid => nib.extendedPanId.toList
  | .securityLevel => [UInt8.ofNat nib.securityLevel.toNat]
  | .securityMaterialSet => [UInt8.ofNat nib.activeSecurMaterialI.toNat]
  | .activeKeySeqNumber => [nib.activeKeySeqNumber]
  | .secureAllFrames => [UInt8.ofNat nib.secureAllFrames.toNat]
  | _ => []

/-- The network layer. -/
def nlme (build : NwkBuild) : Primitives ZbNib ZbNibAttribute where
  success := zbNwkStatusSuccess
  unsupported := zbNwkStatusUnsupportedAttribute
  bits := nibBits
  supported := nibSupported build
  content := nibContent
  setRequest := zbNlmeSetRequest build
  getRequest := zbNlmeGetRequest build

/-- Where the second byte is not written, the one in the buffer has to be right by chance. -/
def nlmeKept (left : Nat → UInt8) (p : List UInt8) : ZbNibAttribute → Bool
  | .passiveAskTimeout | .managerAddr => restLeft 2 left p
  | _ => true

/-! ## Set then get -/

section Right

variable {build : NwkBuild} {nib : ZbNib} {a : ZbNibAttribute} {p : List UInt8}
  {left : Nat → UInt8}

/-- A refused request changes nothing, and both refuse what is not supported. -/
theorem nlme_refused (not : nibSupported build a = false) :
    zbNlmeSetRequest build nib a p = (⟨zbNwkStatusUnsupportedAttribute, a⟩, nib) ∧
      zbNlmeGetRequest build nib a left = noneConfirm zbNwkStatusUnsupportedAttribute a := by
  cases a <;>
    first
      | exact ⟨rfl, rfl⟩
      | cases not
      | simp only [nibSupported] at not
        exact ⟨if_neg (by simp [not]), if_neg (by simp [not])⟩

theorem nlme_accepted (supported : nibSupported build a = true) :
    (zbNlmeSetRequest build nib a p).1.status = zbNwkStatusSuccess ∧
      (zbNlmeGetRequest build nib a left).status = zbNwkStatusSuccess ∧
      (zbNlmeGetRequest build nib a left).attr = a ∧
      (zbNlmeGetRequest build nib a left).length = width (nibBits a) := by
  cases a <;>
    first
      | exact ⟨rfl, rfl, rfl, rfl⟩
      | cases supported
      | simp only [nibSupported] at supported
        simp [zbNlmeSetRequest, zbNlmeGetRequest, supported, byteConfirm, width, nibBits]

/-- No other attribute has changed. -/
theorem nlme_others {b : ZbNibAttribute} (other : b ≠ a) :
    nibContent (zbNlmeSetRequest build nib a p).2 b = nibContent nib b := by
  cases supported : nibSupported build a with
  | false => rw [(@nlme_refused build nib a p (fun _ => 0) supported).1]
  | true =>
      cases a <;>
        first
          | (cases b <;> first | rfl | exact absurd rfl other)
          | simp only [nibSupported] at supported
            simp only [zbNlmeSetRequest, supported, if_true]
            cases b <;> first | rfl | exact absurd rfl other

/-- The bytes of the confirm. -/
theorem nlme_value_iff {v : Value (nibBits a)} (supported : nibSupported build a = true) :
    (zbNlmeGetRequest build (zbNlmeSetRequest build nib a v.bytes).2 a left).value = v.bytes ↔
      nlmeKept left v.bytes a = true := by
  cases a with
  | sequenceNumber | maxBroadcastRetries | maxChildren | maxDepth | updateId =>
      exact iff_of_true (byteInto_one rfl) rfl
  | maxRouters | activeKeySeqNumber =>
      simp only [nibSupported] at supported
      simp only [zbNlmeSetRequest, zbNlmeGetRequest, supported, if_true]
      exact iff_of_true (byteInto_one rfl) rfl
  | addrAlloc | useTreeRouting => exact iff_of_true (byteInto_bits rfl (by decide)) rfl
  | securityLevel | securityMaterialSet | secureAllFrames =>
      simp only [nibSupported] at supported
      simp only [zbNlmeSetRequest, zbNlmeGetRequest, supported, if_true]
      exact iff_of_true (byteInto_bits rfl (by decide)) rfl
  | passiveAskTimeout | managerAddr =>
      -- the low byte goes through sixteen bits and back
      simp only [zbNlmeSetRequest, zbNlmeGetRequest, byteConfirm, UInt8.toUInt8_toUInt16]
      exact byteInto_iff (n := 2) (by decide) v.length_eq
  | extendedPanid => exact iff_of_true (toList_ofFn_getD v.length_eq) rfl
  | _ => cases supported

/-- **Which attributes of the network layer one gets as they were set.** -/
theorem nlme_right_iff {v : Value ((nlme build).bits a)} :
    SetGetRight (nlme build) nib a v left ↔ nlmeKept left v.bytes a = true := by
  cases supported : nibSupported build a with
  | false =>
      have ⟨set_, get_⟩ := @nlme_refused build nib a v.bytes left supported
      have status : ((nlme build).getRequest nib a left).status = (nlme build).unsupported :=
        congrArg GetConfirm.status get_
      apply iff_of_true _ (by cases a <;> first | rfl | cases supported)
      exact setGetRight_of_one_refuses (.inr (by rw [status]; exact of_decide_eq_true rfl))
        fun _ => ⟨set_, status⟩
  | true =>
      have ⟨set_ok, _⟩ := @nlme_accepted build nib a v.bytes left supported
      rw [setGetRight_iff_value (P := nlme build) supported set_ok
        (fun t => (@nlme_accepted build t a [] left supported).2) fun b other => nlme_others other]
      exact nlme_value_iff (v := v) supported

end Right

end Zboss.Nwk.NibAttributes
