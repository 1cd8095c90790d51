/-
# Aps.AibAttributes -- the attributes of the APS layer, and of all three

`zb_apsme_set_request` and `zb_apsme_get_request`, as in the layers below.

* `apsme_right_iff`: which attributes one gets as they were set;
* `layers_right_iff`: the same of the three layers.

Pole: the channel mask has 32 bits, and both primitives pass its low byte.
-/
import Mathlib
import Zboss.Nwk.NibAttributes
import Zboss.Mac.PibAttributes
import Zboss.Secur.NwkFrame

namespace Zboss.Aps.AibAttributes

open Zboss.Theory.Attributes
open Zboss.Secur.NwkFrame (uint32Bytes)
open Zboss.Nwk.NibAttributes (nlme nlmeKept nlme_right_iff NwkBuild ZbNib ZbNibAttribute)
open Zboss.Mac.PibAttributes (mlme mlmeKept mlme_right_iff MacBuild ZbMacPib ZbMacPibAttr)

set_option autoImplicit false

/-! ## Data -/

def zbApsStatusSuccess : UInt8 := 0

def zbApsStatusUnsupportedAttribute : UInt8 := 0xb0

/-- `zb_aps_aib_attr_id_t`, and any other number. -/
inductive ZbApsAibAttr where
  | binding
  | designatedCoord
  | channelMask
  | useExtPanid
  | groupTable
  | nonmemberRadius
  | permissionConfig
  | useInsecureJoin
  | interframeDelay
  | lastChannelEnergy
  | lastChannelFailureRate
  | channelTimer
  | other (number : UInt32)
  deriving DecidableEq

/-- The attributes of the AIB. -/
structure ZbApsib where
  apsDesignatedCoordinator : UInt8
  apsInsecureJoin : UInt8
  apsChannelMask : UInt32
  apsUseExtendedPanId : Vector UInt8 8
  deriving DecidableEq

/-! ## The primitives -/

/-- `zb_apsme_get_request` -/
def zbApsmeGetRequest (aib : ZbApsib) (a : ZbApsAibAttr) (left : Nat → UInt8) :
    GetConfirm ZbApsAibAttr :=
  let byte := byteConfirm zbApsStatusSuccess a
  let unsupported := noneConfirm zbApsStatusUnsupportedAttribute a
  match a with
  | .designatedCoord => byte 1 aib.apsDesignatedCoordinator left
  | .useInsecureJoin => byte 1 aib.apsInsecureJoin left
  | .channelMask => byte 4 aib.apsChannelMask.toUInt8 left
  | .useExtPanid => ⟨zbApsStatusSuccess, a, 8, aib.apsUseExtendedPanId.toList⟩
  | .nonmemberRadius => byte 1 2 left
  | _ => unsupported

/-- `zb_apsme_set_request`; `p` are the bytes behind the request. -/
def zbApsmeSetRequest (aib : ZbApsib) (a : ZbApsAibAttr) (p : List UInt8) :
    SetConfirm ZbApsAibAttr × ZbApsib :=
  let byte := p.getD 0 0
  let success := SetConfirm.mk zbApsStatusSuccess a
  match a with
  | .designatedCoord => (success, { aib with apsDesignatedCoordinator := byte })
  | .useInsecureJoin => (success, { aib with apsInsecureJoin := byte })
  | .channelMask => (success, { aib with apsChannelMask := byte.toUInt32 })
  | .useExtPanid =>
      (success, { aib with apsUseExtendedPanId := Vector.ofFn fun i => p.getD i.val 0 })
  | _ => (SetConfirm.mk zbApsStatusUnsupportedAttribute a, aib)

/-! ## What the AIB declares -/

/-- The width of the field of an attribute, in bits. -/
def aibBits : ZbApsAibAttr → Nat
  | .designatedCoord | .useInsecureJoin | .nonmemberRadius => 8
  | .channelMask => 32
  | .useExtPanid => 64
  | _ => 0

/-- The attributes that the layer has. -/
def aibSupported (a : ZbApsAibAttr) : Bool := aibBits a != 0

/-- What the AIB holds of an attribute. -/
def aibContent (aib : ZbApsib) : ZbApsAibAttr → List UInt8
  | .designatedCoord => [aib.apsDesignatedCoordinator]
  | .useInsecureJoin => [aib.apsInsecureJoin]
  | .channelMask => uint32Bytes aib.apsChannelMask
  | .useExtPanid => aib.apsUseExtendedPanId.toList
  | _ => []

/-- The APS layer. -/
def apsme : Primitives ZbApsib ZbApsAibAttr where
  success := zbApsStatusSuccess
  unsupported := zbApsStatusUnsupportedAttribute
  bits := aibBits
  supported := aibSupported
  content := aibContent
  setRequest := zbApsmeSetRequest
  getRequest := zbApsmeGetRequest

/-- What has to be in the buffer by chance. -/
def apsmeKept (left : Nat → UInt8) (p : List UInt8) : ZbApsAibAttr → Bool
  | .channelMask => restLeft 4 left p
  | _ => true

/-! ## Set then get -/

section Right

variable {aib : ZbApsib} {a : ZbApsAibAttr} {p : List UInt8} {left : Nat → UInt8}

/-- Both primitives know the attribute. -/
def aibBoth : ZbApsAibAttr → Bool
  | .nonmemberRadius => false
  | a => aibSupported a

theorem apsme_refused (not : aibSupported a = false) :
    zbApsmeSetRequest aib a p = (⟨zbApsStatusUnsupportedAttribute, a⟩, aib) ∧
      zbApsmeGetRequest aib a left = noneConfirm zbApsStatusUnsupportedAttribute a := by
  cases a <;> first | exact ⟨rfl, rfl⟩ | cases not

/-- An attribute that is not known to both cannot be set. -/
theorem apsme_not_set (not : aibBoth a = false) :
    (zbApsmeSetRequest aib a p).1.status = zbApsStatusUnsupportedAttribute := by
  cases a <;> first | rfl | cases not

theorem apsme_accepted (both : aibBoth a = true) :
    (zbApsmeSetRequest aib a p).1.status = zbApsStatusSuccess ∧
      (zbApsmeGetRequest aib a left).status = zbApsStatusSuccess ∧
      (zbApsmeGetRequest aib a left).attr = a ∧
      (zbApsmeGetRequest aib a left).length = width (aibBits a) := by
  cases a <;> first | exact ⟨rfl, rfl, rfl, rfl⟩ | cases both

/-- No other attribute has changed. -/
theorem apsme_others {b : ZbApsAibAttr} (other : b ≠ a) :
    aibContent (zbApsmeSetRequest aib a p).2 b = aibContent aib b := by
  cases a with
  | useExtPanid =>
      dsimp only [zbApsmeSetRequest]
      generalize (Vector.ofFn fun i : Fin 8 => p.getD i.val 0) = extPanId
      cases b <;> first | exact absurd rfl other | rfl
  | designatedCoord | useInsecureJoin | channelMask =>
      cases b <;> first | exact absurd rfl other | rfl
  | _ => rfl

/-- The bytes of the confirm. -/
theorem apsme_value_iff {v : Value (aibBits a)} (both : aibBoth a = true) :
    (zbApsmeGetRequest (zbApsmeSetRequest aib a v.bytes).2 a left).value = v.bytes ↔
      apsmeKept left v.bytes a = true := by
  cases a with
  | designatedCoord | useInsecureJoin => exact iff_of_true (byteInto_one rfl) rfl
  | channelMask =>
      -- the low byte goes through 32 bits and back
      dsimp only [zbApsmeSetRequest, zbApsmeGetRequest, byteConfirm]
      rw [UInt8.toUInt8_toUInt32]
      exact byteInto_iff (n := 4) (by decide) v.length_eq
  | useExtPanid => exact iff_of_true (toList_ofFn_getD v.length_eq) rfl
  | _ => cases both

/-- **Which attributes of the APS layer one gets as they were set.** -/
theorem apsme_right_iff {v : Value (apsme.bits a)} :
    SetGetRight apsme aib a v left ↔ apsmeKept left v.bytes a = true := by
  cases both : aibBoth a with
  | false =>
      have not := @apsme_not_set aib a v.bytes both
      apply iff_of_true _ (by cases a <;> first | rfl | cases both)
      apply setGetRight_of_one_refuses
      · exact .inl fun is => absurd (not.symm.trans is) (of_decide_eq_true rfl)
      · intro unsupported
        have ⟨set_, get_⟩ := @apsme_refused aib a v.bytes left unsupported
        exact ⟨set_, congrArg GetConfirm.status get_⟩
  | true =>
      have supported : aibSupported a = true := by
        cases a <;> first | rfl | cases both
      have ⟨set_ok, _⟩ := @apsme_accepted aib a v.bytes left both
      rw [setGetRight_iff_value (P := apsme) supported set_ok
        (fun t => (@apsme_accepted t a [] left both).2) fun b other => apsme_others other]
      exact apsme_value_iff (v := v) both

end Right

/-! ## The three layers -/

/-- **What one gets is what was set, iff the bytes that are not written are right by chance.** -/
theorem layers_right_iff (nwkBuild : NwkBuild) (macBuild : MacBuild) (nib : ZbNib) (pib : ZbMacPib)
    (aib : ZbApsib) (left : Nat → UInt8) :
    (∀ (a : ZbNibAttribute) (v : Value ((nlme nwkBuild).bits a)),
      SetGetRight (nlme nwkBuild) nib a v left ↔ nlmeKept left v.bytes a = true) ∧
    (∀ (a : ZbMacPibAttr) (v : Value ((mlme macBuild).bits a)),
      SetGetRight (mlme macBuild) pib a v left ↔ mlmeKept macBuild left v.bytes a = true) ∧
    (∀ (a : ZbApsAibAttr) (v : Value (apsme.bits a)),
      SetGetRight apsme aib a v left ↔ apsmeKept left v.bytes a = true) :=
  ⟨fun _ _ => nlme_right_iff, fun _ _ => mlme_right_iff, fun _ _ => apsme_right_iff⟩

/-- `ZB_TRANSCEIVER_ALL_CHANNELS_MASK` -/
def allChannels : Value 32 :=
  ⟨[0x00, 0xF8, 0xFF, 0x07], rfl, fun few => absurd few (of_decide_eq_true rfl)⟩

def aibOfMask : ZbApsib := ⟨0, 1, 0x07FFF800, Vector.replicate 8 0⟩

/-- The mask of all channels is set and got back as 0. -/
theorem channelMask_lost :
    (zbApsmeGetRequest (zbApsmeSetRequest aibOfMask .channelMask allChannels.bytes).2 .channelMask
        fun _ => 0) = ⟨zbApsStatusSuccess, .channelMask, 4, [0, 0, 0, 0]⟩ ∧
      ¬ SetGetRight apsme aibOfMask .channelMask allChannels fun _ => 0 := by
  refine ⟨rfl, fun right => ?_⟩
  have same := congrArg GetConfirm.value (right.returned rfl rfl)
  revert same
  decide

end Zboss.Aps.AibAttributes
