/-
# Aps.Unicast -- which requests leave as broadcasts

A request is sent to a NWK destination that comes from the request, the address map or the
binding table, with the delivery mode and the acknowledgement bit set beside it.

* `unicast_kept_iff`: a broadcast destination has a broadcast or group delivery mode and no
  acknowledgement, and nothing is sent to a device whose short address is not known, exactly
  when the destination the request and the tables name is `Sendable`;
* `stranger_gets_broadcast`: an IEEE address without a short one is not, for it is sent to
  0xFFFF as a unicast.

The binding table is asked for the address first (`zb_start_get_peer_short_addr`); of a
16-bit destination the mode knows four broadcast addresses, and NWK sixteen.
-/
import Mathlib
import Zboss.Common.Constants
import Zboss.Aps.ApsFrame
import Zboss.Aps.AckMatch

namespace Zboss.Aps.Unicast

open Zboss.Common.Constants
open Zboss.Common.Types
open Zboss.Common.Address
open Zboss.Aps.Dups hiding ZbApsHdr
open Zboss.Aps.ApsFrame
open Zboss.Aps.AckMatch

set_option autoImplicit false

/-! ## What is claimed -/

/-- The frame passed to NWK: its header and its destination. -/
def submitted : DataReqOutcome → Option (List UInt8 × UInt16)
  | .sent hdr dstAddr _ => some (hdr, dstAddr)
  | _ => none

/-- The frame control of a header. -/
def frameControl (hdr : List UInt8) : UInt8 := hdr.getD 0 0

/-- The short address the tables give for a 64-bit or a bound destination. -/
def tableAddr (pibShortAddress : UInt16) (req : ZbApsdeDataReq) (s : ApsState) : Option UInt16 :=
  match req.addrMode with
  | .endpPresent64 => (zbAddressShortByIeee req.dstAddr s.addr).map Prod.snd
  | .dstAddrEndpNotPresent =>
      (zbSearchDstInBindingTable pibShortAddress req s).bind fun found =>
        found.2.map fun bound => (found.1.addr.addrMap bound.1).addr
  | _ => none

/-- **A unicast stays one.** -/
structure UnicastKept (pibShortAddress : UInt16) (req : ZbApsdeDataReq) (s : ApsState)
    (hdr : List UInt8) (dstAddr : UInt16) : Prop where
  mode : zbNwkIsAddressBroadcast dstAddr = true →
    zbApsFcGetDeliveryMode (frameControl hdr) = zbApsDeliveryBroadcast ∨
      zbApsFcGetDeliveryMode (frameControl hdr) = zbApsDeliveryGroup
  ack : zbApsFcGetAckRequest (frameControl hdr) = 1 → zbNwkIsAddressBroadcast dstAddr = false
  known : tableAddr pibShortAddress req s ≠ some zbUnknownShortAddr

def UnicastKeptBy (pibShortAddress : UInt16) (param : UInt8) (req : ZbApsdeDataReq)
    (s : ApsState) : Prop :=
  ∀ s' outcome, zbApsdeDataRequest pibShortAddress param req s = some (s', outcome) →
    ∀ hdr dstAddr, submitted outcome = some (hdr, dstAddr) →
      UnicastKept pibShortAddress req s hdr dstAddr

/-! ## When it holds -/

def acked (req : ZbApsdeDataReq) : Bool := req.txOptions &&& zbApsdeTxOptAckTx != 0

/-- An acknowledged request gets the last entry of the table, and is confirmed as if there
were none. -/
def Refused (req : ZbApsdeDataReq) (s : ApsState) : Prop :=
  acked req = true ∧ freeEnt s.hash = some (zbNApsRetransEntries - 1)

/-- The destination may be sent to: one of the tables is the address of a device, or, when it
is bound, not known; a 16-bit one that NWK broadcasts is one of the four that the mode knows,
and is not to be acknowledged. -/
def Sendable (pibShortAddress : UInt16) (req : ZbApsdeDataReq) (s : ApsState) : Prop :=
  match req.addrMode with
  | .group16EndpNotPresent => True
  | .endpPresent16 =>
      zbNwkIsAddressBroadcast req.addrShort = true →
        isBroadcast16 req.addrShort = true ∧ acked req = false
  | .endpPresent64 =>
      ∀ addr, tableAddr pibShortAddress req s = some addr → zbNwkIsAddressBroadcast addr = false
  | .dstAddrEndpNotPresent =>
      ∀ addr, tableAddr pibShortAddress req s = some addr →
        addr = zbUnknownShortAddr ∨ zbNwkIsAddressBroadcast addr = false

section Request

variable {pibShortAddress dstAddr : UInt16} {param fc : UInt8} {req routed : ZbApsdeDataReq}
  {s s₁ : ApsState}

/-- The frame control with its acknowledgement bit. -/
def sentFc (fc : UInt8) (req : ZbApsdeDataReq) : UInt8 :=
  if acked req then zbApsFcSetAckRequest fc 1 else fc

theorem frameControl_datareq (fc : UInt8) (req : ZbApsdeDataReq) (apsCounter : UInt8) :
    frameControl (apsDataHdrFillDatareq fc req apsCounter) = fc := by
  simp [frameControl, apsDataHdrFillDatareq]

/-- **What is passed to NWK**: nothing of a request that is refused, and else the header. -/
theorem submitted_sendReq (param fc : UInt8) (dstAddr : UInt16) (req : ZbApsdeDataReq)
    (s : ApsState) :
    (Refused req s ∧ submitted (sendReq param fc dstAddr req s).2 = none) ∨
      (¬ Refused req s ∧ submitted (sendReq param fc dstAddr req s).2 =
        some (apsDataHdrFillDatareq (sentFc fc req) req s.apsCounter, dstAddr)) := by
  by_cases ack : req.txOptions &&& zbApsdeTxOptAckTx ≠ 0
  · have isAcked : acked req = true := bne_iff_ne.2 ack
    rw [sendReq, if_pos ack]
    cases free : freeEnt s.hash with
    | none =>
        right
        refine ⟨fun refused => absurd (free.symm.trans refused.2) (by simp), ?_⟩
        simp [saveAckData, free, submitted, sentFc, isAcked]
    | some i =>
        by_cases last : i = zbNApsRetransEntries - 1
        · left
          refine ⟨⟨isAcked, free.trans (congrArg some last)⟩, ?_⟩
          simp [saveAckData, free, last, submitted]
        · right
          refine ⟨fun refused => last (Option.some.inj (free.symm.trans refused.2)), ?_⟩
          simp [saveAckData, free, last, submitted, sentFc, isAcked]
  · have notAcked : acked req = false := by
      rw [acked, bne_eq_false_iff_eq]
      exact not_not.1 ack
    right
    refine ⟨fun refused => absurd (notAcked.symm.trans refused.1) (by simp), ?_⟩
    rw [sendReq, if_neg ack]
    simp [submitted, sentFc, notAcked]

/-- The acknowledgement bit of the frames the modes build. -/
theorem sentFc_ack (built : fc = 0 ∨ fc = 8 ∨ fc = 12) :
    zbApsFcGetAckRequest (sentFc fc req) = 1 ↔ acked req = true := by
  rw [sentFc]
  cases acked req <;> rcases built with rfl | rfl | rfl <;> decide

theorem sentFc_mode (built : fc = 0 ∨ fc = 8 ∨ fc = 12) :
    zbApsFcGetDeliveryMode (sentFc fc req) = zbApsFcGetDeliveryMode fc := by
  rw [sentFc]
  cases acked req <;> rcases built with rfl | rfl | rfl <;> decide

/-- A routed request is sent as its mode, its acknowledgement bit and its destination say. -/
theorem keptBy_routed (pibShortAddress : UInt16) (param : UInt8) (req : ZbApsdeDataReq)
    (s : ApsState) (route : routeReq pibShortAddress req s = some (s₁, .to fc dstAddr routed))
    (built : fc = 0 ∨ fc = 8 ∨ fc = 12) :
    UnicastKeptBy pibShortAddress param req s ↔
      (Refused routed s₁ ∨
        (zbNwkIsAddressBroadcast dstAddr = true →
            zbApsFcGetDeliveryMode fc = zbApsDeliveryBroadcast ∨
              zbApsFcGetDeliveryMode fc = zbApsDeliveryGroup) ∧
          (acked routed = true → zbNwkIsAddressBroadcast dstAddr = false) ∧
          tableAddr pibShortAddress req s ≠ some zbUnknownShortAddr) := by
  have ran : zbApsdeDataRequest pibShortAddress param req s =
      some (sendReq param fc dstAddr routed s₁) := by
    rw [zbApsdeDataRequest, route]
    rfl
  constructor
  · intro kept
    rcases submitted_sendReq param fc dstAddr routed s₁ with ⟨refused, -⟩ | ⟨-, sent⟩
    · exact .inl refused
    · have frame := kept _ _ ran _ _ sent
      right
      refine ⟨?_, ?_, frame.known⟩
      · intro broadcast
        have mode := frame.mode broadcast
        rwa [frameControl_datareq, sentFc_mode built] at mode
      · intro ack
        apply frame.ack
        rwa [frameControl_datareq, sentFc_ack built]
  · intro holds s' outcome taken hdr dst sent
    have is := Option.some.inj (ran.symm.trans taken)
    rw [← show (sendReq param fc dstAddr routed s₁).2 = outcome from congrArg Prod.snd is] at sent
    rcases submitted_sendReq param fc dstAddr routed s₁ with ⟨-, nothing⟩ | ⟨notRefused, frame⟩
    · rw [nothing] at sent
      cases sent
    · rw [frame] at sent
      cases sent
      obtain ⟨mode, ack, known⟩ := holds.resolve_left notRefused
      refine ⟨?_, ?_, known⟩
      · rw [frameControl_datareq, sentFc_mode built]
        exact mode
      · rw [frameControl_datareq, sentFc_ack built]
        exact ack

/-- Nothing is passed to NWK of a request that is not routed. -/
theorem keptBy_unrouted
    (unrouted : ∀ s₁ fc dstAddr routed,
      routeReq pibShortAddress req s ≠ some (s₁, .to fc dstAddr routed)) :
    UnicastKeptBy pibShortAddress param req s := by
  intro s' outcome taken hdr dstAddr sent
  rw [zbApsdeDataRequest] at taken
  obtain ⟨⟨s₁, route⟩, routed, taken⟩ := Option.bind_eq_some_iff.1 taken
  cases route with
  | waitsForPeer ref =>
      cases taken
      cases sent
  | noBoundDevice =>
      cases taken
      cases sent
  | «to» fc dstAddr routed' => exact absurd routed (unrouted s₁ fc dstAddr routed')

/-! ### The four modes -/

theorem unicast_fc : zbApsFcSetDeliveryMode 0 zbApsDeliveryUnicast = 0 := by decide

theorem broadcast_fc : zbApsFcSetDeliveryMode 0 zbApsDeliveryBroadcast = 8 := by decide

theorem group_fc : zbApsFcSetDeliveryMode 0 zbApsDeliveryGroup = 12 := by decide

theorem mode_zero : ¬ (zbApsFcGetDeliveryMode 0 = zbApsDeliveryBroadcast ∨
    zbApsFcGetDeliveryMode 0 = zbApsDeliveryGroup) := by decide

/-- A destination of the tables is a unicast. -/
theorem unicast_holds_iff {table : Option UInt16} (sends : table = some dstAddr) :
    ((zbNwkIsAddressBroadcast dstAddr = true →
          zbApsFcGetDeliveryMode 0 = zbApsDeliveryBroadcast ∨
            zbApsFcGetDeliveryMode 0 = zbApsDeliveryGroup) ∧
        (acked routed = true → zbNwkIsAddressBroadcast dstAddr = false) ∧
        table ≠ some zbUnknownShortAddr) ↔
      zbNwkIsAddressBroadcast dstAddr = false := by
  constructor
  · intro holds
    rw [← Bool.not_eq_true]
    exact fun broadcast => mode_zero (holds.1 broadcast)
  · intro device
    refine ⟨fun broadcast => absurd (device.symm.trans broadcast) (by simp), fun _ => device, ?_⟩
    rw [sends]
    rintro ⟨⟩
    exact absurd device (by decide)

theorem refused_congr (options : routed.txOptions = req.txOptions) (hash : s₁.hash = s.hash) :
    Refused routed s₁ ↔ Refused req s := by
  rw [Refused, Refused, acked, acked, options, hash]

/-- Without an address in the tables nothing is sent. -/
theorem kept_unaddressed {sendable : UInt16 → Prop} (nothing : tableAddr pibShortAddress req s = none)
    (unrouted : ∀ s₁ fc dstAddr routed,
      routeReq pibShortAddress req s ≠ some (s₁, .to fc dstAddr routed)) :
    UnicastKeptBy pibShortAddress param req s ↔
      Refused req s ∨ ∀ addr, tableAddr pibShortAddress req s = some addr → sendable addr := by
  refine iff_of_true ?_ (.inr fun addr is => ?_)
  · apply keptBy_unrouted
    exact unrouted
  · rw [nothing] at is
    cases is

/-- **A 64-bit destination** goes to the short address the map gives for it. -/
theorem kept_endpPresent64 (mode : req.addrMode = .endpPresent64) :
    UnicastKeptBy pibShortAddress param req s ↔
      Refused req s ∨ Sendable pibShortAddress req s := by
  rw [Sendable, mode]
  dsimp only
  cases found : zbAddressShortByIeee req.dstAddr s.addr with
  | none =>
      have nothing : tableAddr pibShortAddress req s = none := by simp [tableAddr, mode, found]
      apply kept_unaddressed nothing
      intro s₁ fc dstAddr routed
      simp [routeReq, mode, found]
  | some r =>
      obtain ⟨addr, short⟩ := r
      have table : tableAddr pibShortAddress req s = some short := by simp [tableAddr, mode, found]
      have route : routeReq pibShortAddress req s =
          some ({ s with addr }, .to 0 short (req.setAddrShort short)) := by
        simp [routeReq, mode, found, unicast_fc]
      have same : Refused (req.setAddrShort short) { s with addr } ↔ Refused req s :=
        refused_congr rfl rfl
      rw [keptBy_routed pibShortAddress param req s route (.inl rfl), unicast_holds_iff table, table,
        same]
      simp only [Option.some.injEq, forall_eq']

/-- **A bound destination** is asked for when its short address is not known. -/
theorem kept_dstAddrEndpNotPresent (mode : req.addrMode = .dstAddrEndpNotPresent) :
    UnicastKeptBy pibShortAddress param req s ↔
      Refused req s ∨ Sendable pibShortAddress req s := by
  rw [Sendable, mode]
  dsimp only
  cases found : zbSearchDstInBindingTable pibShortAddress req s with
  | none =>
      have nothing : tableAddr pibShortAddress req s = none := by simp [tableAddr, mode, found]
      apply kept_unaddressed nothing
      intro s₁ fc dstAddr routed
      simp [routeReq, mode, found]
  | some r =>
      obtain ⟨s₁, _ | ⟨ref, dstEnd⟩⟩ := r
      · have nothing : tableAddr pibShortAddress req s = none := by simp [tableAddr, mode, found]
        apply kept_unaddressed nothing
        intro s₁ fc dstAddr routed
        simp [routeReq, mode, found]
      · have table : tableAddr pibShortAddress req s = some (s₁.addr.addrMap ref).addr := by
          simp [tableAddr, mode, found]
        rw [table]
        simp only [Option.some.injEq, forall_eq']
        by_cases unknown : (s₁.addr.addrMap ref).addr = zbUnknownShortAddr
        · refine iff_of_true ?_ (.inr (.inl unknown))
          apply keptBy_unrouted
          intro s₁ fc dstAddr routed
          simp [routeReq, mode, found, unknown]
        · have route : routeReq pibShortAddress req s =
              some (s₁, .to 0 (s₁.addr.addrMap ref).addr
                ({ req with dstEndpoint := dstEnd }.setAddrShort (s₁.addr.addrMap ref).addr)) := by
            simp [routeReq, mode, found, unknown, unicast_fc]
          rw [keptBy_routed pibShortAddress param req s route (.inl rfl), unicast_holds_iff table]
          simp only [unknown, false_or]
          exact or_congr_left (refused_congr rfl (searchDst_frame found).2)

/-- **A 16-bit destination** is broadcast, or a unicast, as the mode knows it. -/
theorem kept_endpPresent16 (mode : req.addrMode = .endpPresent16) :
    UnicastKeptBy pibShortAddress param req s ↔
      Refused req s ∨ Sendable pibShortAddress req s := by
  have nothing : tableAddr pibShortAddress req s = none := by simp [tableAddr, mode]
  rw [Sendable, mode]
  dsimp only
  cases known : isBroadcast16 req.addrShort with
  | true =>
      have route : routeReq pibShortAddress req s = some (s, .to 8 req.addrShort req) := by
        simp [routeReq, mode, known, broadcast_fc]
      have broadcast : zbApsFcGetDeliveryMode 8 = zbApsDeliveryBroadcast := by decide
      rw [keptBy_routed pibShortAddress param req s route (.inr (.inl rfl)), nothing]
      refine or_congr_right ?_
      constructor
      · rintro ⟨-, ack, -⟩ isBroadcast
        refine ⟨rfl, ?_⟩
        rw [← Bool.not_eq_true]
        exact fun isAcked => absurd (isBroadcast.symm.trans (ack isAcked)) (by simp)
      · intro sendable
        refine ⟨fun _ => .inl broadcast, ?_, by simp⟩
        intro isAcked
        rw [← Bool.not_eq_true]
        exact fun isBroadcast => absurd (isAcked.symm.trans (sendable isBroadcast).2) (by simp)
  | false =>
      have route : routeReq pibShortAddress req s = some (s, .to 0 req.addrShort req) := by
        simp [routeReq, mode, known, unicast_fc]
      rw [keptBy_routed pibShortAddress param req s route (.inl rfl), nothing]
      refine or_congr_right ?_
      constructor
      · rintro ⟨noBroadcast, -, -⟩ isBroadcast
        exact absurd (noBroadcast isBroadcast) mode_zero
      · intro sendable
        refine ⟨fun isBroadcast => absurd (sendable isBroadcast).1 (by simp), ?_, by simp⟩
        intro _
        rw [← Bool.not_eq_true]
        exact fun isBroadcast => absurd (sendable isBroadcast).1 (by simp)

/-- **A group** is a broadcast that is not acknowledged. -/
theorem kept_group16EndpNotPresent (mode : req.addrMode = .group16EndpNotPresent) :
    UnicastKeptBy pibShortAddress param req s := by
  have nothing : tableAddr pibShortAddress req s = none := by simp [tableAddr, mode]
  have route : routeReq pibShortAddress req s =
      some (s, .to 12 0xFFFD { req with txOptions := req.txOptions &&& ~~~zbApsdeTxOptAckTx }) := by
    simp [routeReq, mode, group_fc]
  have notAcked :
      acked { req with txOptions := req.txOptions &&& ~~~zbApsdeTxOptAckTx } = false := by
    simp [acked, UInt8.and_assoc, zbApsdeTxOptAckTx]
  rw [keptBy_routed pibShortAddress param req s route (.inr (.inr rfl)), nothing]
  refine .inr ⟨fun _ => .inr (by decide), ?_, by simp⟩
  intro isAcked
  exact absurd (notAcked.symm.trans isAcked) (by simp)

/-- **When a unicast stays one.**  For every state and every request, what is passed to NWK
is a broadcast in its delivery mode whenever it is one in its destination, asks for an
acknowledgement of devices only, and is never for a device whose short address is not known,
if and only if the request is refused for want of an entry or its destination is `Sendable`. -/
theorem unicast_kept_iff (pibShortAddress : UInt16) (param : UInt8) (req : ZbApsdeDataReq)
    (s : ApsState) :
    UnicastKeptBy pibShortAddress param req s ↔
      Refused req s ∨ Sendable pibShortAddress req s := by
  cases mode : req.addrMode with
  | dstAddrEndpNotPresent => exact kept_dstAddrEndpNotPresent mode
  | group16EndpNotPresent =>
      refine iff_of_true (kept_group16EndpNotPresent mode) (.inr ?_)
      rw [Sendable, mode]
      trivial
  | endpPresent16 => exact kept_endpPresent16 mode
  | endpPresent64 => exact kept_endpPresent64 mode

end Request

/-! ## A destination without a short address -/

/-- **A stranger gets a broadcast**: with every table empty, a request to an IEEE address is
a unicast to 0xFFFF. -/
theorem stranger_gets_broadcast :
    ¬ ∀ (pibShortAddress : UInt16) (param : UInt8) (req : ZbApsdeDataReq) (s : ApsState),
      UnicastKeptBy pibShortAddress param req s := by
  intro claim
  obtain refused | sendable := (unicast_kept_iff 1 2 toStranger started).1
    (claim 1 2 toStranger started)
  · exact absurd refused.2 (by decide)
  · have broadcast := sendable 0xFFFF (by decide +kernel)
    exact absurd broadcast (by decide)

end Zboss.Aps.Unicast
