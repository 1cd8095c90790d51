/-
# Aps.AckMatch -- headers read back, and acknowledgements find their frames

* `parse_datareq`: the parser reads the header of a data request back, from as many bytes
  as `ZB_APS_HDR_SIZE` says;
* `ackFound_of_recorded`: the acknowledgement of a frame names its entry by the fields that were
  recorded, with the endpoints changed over, and an entry it names was recorded for the
  same destination and counter;
* `request_good_iff`: so a request that asks for an acknowledgement is acknowledged to its
  entry exactly when one was free and the destination is a device.  A key transport asks
  for none.

The destination need not be one: a 64-bit address without a short one goes to 0xFFFF as a
unicast (`unknown_peer_not_acked`), where the binding table is asked for the address first.
Nor is a request refused when the table is full: the status is that of the last entry.
-/
import Mathlib
import Zboss.Common.Constants
import Zboss.Aps.ApsFrame

namespace Zboss.Aps.AckMatch

open Zboss.Common.Constants
open Zboss.Common.Types
open Zboss.Common.Address
open Zboss.Common.PacketBuf
open Zboss.Aps.Dups hiding ZbApsHdr
open Zboss.Aps.ApsFrame

set_option autoImplicit false

/-! ## Headers read back -/

section Parse

variable {stack : ZbApsHdr} {srcAddr dstAddr : UInt16} {req : ZbApsdeDataReq} {fc apsCounter : UInt8}
  {payload : List UInt8}

theorem uint16At_succ (at_ : Nat) (b : UInt8) (p : List UInt8) :
    uint16At (at_ + 1) (b :: p) = uint16At at_ p := rfl

theorem uint16At_zero (val : UInt16) (rest : List UInt8) :
    uint16At 0 (val.toUInt8 :: (val >>> 8).toUInt8 :: rest) = val :=
  uint16At_bytes val [] rest

/-- **A data header is read back**, and all of it is read. -/
theorem parse_datareq (stack : ZbApsHdr) (srcAddr dstAddr : UInt16) (req : ZbApsdeDataReq)
    (apsCounter : UInt8) (payload : List UInt8) (format : zbApsFcGetAckFormat fc = 0) :
    zbApsHdrParse stack srcAddr dstAddr (apsDataHdrFillDatareq fc req apsCounter ++ payload) =
      ({ fc := fc
         srcAddr := srcAddr
         dstAddr := dstAddr
         groupAddr :=
          if zbApsFcGetDeliveryMode fc = zbApsDeliveryGroup then req.addrShort else stack.groupAddr
         dstEndpoint :=
          if zbApsFcGetDeliveryMode fc = zbApsDeliveryGroup then stack.dstEndpoint
          else req.dstEndpoint
         srcEndpoint := req.srcEndpoint
         clusterid := req.clusterid
         profileid := req.profileid
         apsCounter := apsCounter },
        (apsDataHdrFillDatareq fc req apsCounter).length) := by
  by_cases group : zbApsFcGetDeliveryMode fc = zbApsDeliveryGroup
  · have bytes : apsDataHdrFillDatareq fc req apsCounter =
        [fc, req.addrShort.toUInt8, (req.addrShort >>> 8).toUInt8, req.clusterid.toUInt8,
          (req.clusterid >>> 8).toUInt8, req.profileid.toUInt8, (req.profileid >>> 8).toUInt8,
          req.srcEndpoint, apsCounter] := by
      simp [apsDataHdrFillDatareq, group, uint16Bytes]
    rw [bytes]
    simp [zbApsHdrParse, format, group, uint16At_succ, uint16At_zero]
  · have bytes : apsDataHdrFillDatareq fc req apsCounter =
        [fc, req.dstEndpoint, req.clusterid.toUInt8, (req.clusterid >>> 8).toUInt8,
          req.profileid.toUInt8, (req.profileid >>> 8).toUInt8, req.srcEndpoint, apsCounter] := by
      simp [apsDataHdrFillDatareq, group, uint16Bytes]
    rw [bytes]
    simp [zbApsHdrParse, format, group, uint16At_succ, uint16At_zero]

theorem length_datareq (kind : zbApsFcGetFrameType fc ≠ zbApsFrameCommand) (req : ZbApsdeDataReq)
    (apsCounter : UInt8) :
    (apsDataHdrFillDatareq fc req apsCounter).length = zbApsHdrSize fc := by
  rw [zbApsHdrSize, if_neg kind, apsDataHdrFillDatareq]
  split <;> simp [uint16Bytes]

end Parse

/-! ## Acknowledgements -/

/-- The acknowledgement of the frame with this header, as its receiver `peer` makes it and
the sender reads it. -/
def ackOf (stack : ZbApsHdr) (peer : UInt16) (got : ZbApsHdr) : ZbApsHdr :=
  (zbApsHdrParse stack peer got.srcAddr (apsAckSendHandle got)).1

section Ack

variable {stack got : ZbApsHdr} {peer : UInt16} {ent : ZbApsRetransEnt}

/-- **The acknowledgement of a data frame** has its endpoints changed over, and is for an
entry with all of its fields. -/
theorem matches_ackOf_data (data : zbApsFcGetFrameType got.fc ≠ zbApsFrameCommand) :
    matchesAck ent (ackOf stack peer got) = true ↔
      ent.addr = peer ∧ ent.apsCounter = got.apsCounter ∧ ent.clusterid = got.clusterid ∧
        ent.srcEndpoint = got.srcEndpoint ∧ ent.dstEndpoint = got.dstEndpoint := by
  have bytes : apsAckSendHandle got =
      [2, got.srcEndpoint, got.clusterid.toUInt8, (got.clusterid >>> 8).toUInt8,
        got.profileid.toUInt8, (got.profileid >>> 8).toUInt8, got.dstEndpoint, got.apsCounter] := by
    rw [apsAckSendHandle, if_pos data]
    rfl
  have format : zbApsFcGetAckFormat 2 = 0 := by decide
  have mode : ¬ zbApsFcGetDeliveryMode 2 = zbApsDeliveryGroup := by decide
  rw [ackOf, bytes]
  simp [zbApsHdrParse, matchesAck, format, mode, uint16At_succ, uint16At_zero, and_assoc]

/-- **The acknowledgement of a command** is for an entry with its sender and counter. -/
theorem matches_ackOf_command (command : zbApsFcGetFrameType got.fc = zbApsFrameCommand) :
    matchesAck ent (ackOf stack peer got) = true ↔
      ent.addr = peer ∧ ent.apsCounter = got.apsCounter := by
  have bytes : apsAckSendHandle got = [0x12, got.apsCounter] := by
    rw [apsAckSendHandle, if_neg (fun data => data command)]
    rfl
  have format : zbApsFcGetAckFormat 0x12 = 1 := by decide
  rw [ackOf, bytes]
  simp [zbApsHdrParse, matchesAck, format]

/-- An entry an acknowledgement is for was recorded for its sender and its counter. -/
theorem matches_ackOf (match_ : matchesAck ent (ackOf stack peer got) = true) :
    ent.addr = peer ∧ ent.apsCounter = got.apsCounter := by
  by_cases command : zbApsFcGetFrameType got.fc = zbApsFrameCommand
  · exact (matches_ackOf_command command).1 match_
  · obtain ⟨addr, apsCounter, -⟩ := (matches_ackOf_data command).1 match_
    exact ⟨addr, apsCounter⟩

end Ack

/-! ## What is claimed of a request -/

/-- **The header is read back**: the fields of the request, from all of its bytes. -/
structure ReadsBack (req : ZbApsdeDataReq) (apsCounter : UInt8) (hdr : List UInt8)
    (read : ZbApsHdr × Nat) : Prop where
  fc : read.1.fc = hdr.getD 0 0
  dst : if zbApsFcGetDeliveryMode read.1.fc = zbApsDeliveryGroup then read.1.groupAddr = req.addrShort
    else read.1.dstEndpoint = req.dstEndpoint
  srcEndpoint : read.1.srcEndpoint = req.srcEndpoint
  clusterid : read.1.clusterid = req.clusterid
  profileid : read.1.profileid = req.profileid
  apsCounter : read.1.apsCounter = apsCounter
  size : read.2 = zbApsHdrSize read.1.fc
  all : read.2 = hdr.length

/-- A device that takes a frame to this NWK destination. -/
def Receives (peer dstAddr : UInt16) : Prop :=
  zbNwkIsAddressBroadcast peer = false ∧ (peer = dstAddr ∨ isBroadcast16 dstAddr = true)

/-- The frame of an entry; what changes while it waits are the retries and the state. -/
structure SameFrame (ent ent' : ZbApsRetransEnt) : Prop where
  addr : ent'.addr = ent.addr
  clusterid : ent'.clusterid = ent.clusterid
  apsCounter : ent'.apsCounter = ent.apsCounter
  srcEndpoint : ent'.srcEndpoint = ent.srcEndpoint
  dstEndpoint : ent'.dstEndpoint = ent.dstEndpoint

/-- **The acknowledgement finds the frame**: an entry is recorded, and in every table it
still stands in, the acknowledgement of whoever takes the frame is for it, and for no entry
of another destination or counter; so where no other entry has both, the search for the
entry stops at it. -/
def AckFound (pibShortAddress dstAddr : UInt16) (apsCounter : UInt8) (hdr : List UInt8)
    (recorded : Option Nat) (hash : Nat → ZbApsRetransEnt) : Prop :=
  ∃ i < zbNApsRetransEntries, recorded = some i ∧
    ∀ hash' : Nat → ZbApsRetransEnt, SameFrame (hash i) (hash' i) →
      ∀ peer, Receives peer dstAddr → ∀ stack stack' payload,
        let got := (zbApsHdrParse stack pibShortAddress dstAddr (hdr ++ payload)).1
        let ack := ackOf stack' peer got
        matchesAck (hash' i) ack = true ∧
          (∀ j, matchesAck (hash' j) ack = true →
            (hash' j).addr = dstAddr ∧ (hash' j).apsCounter = apsCounter) ∧
          ((∀ j, j ≠ i → ¬ ((hash' j).addr = dstAddr ∧ (hash' j).apsCounter = apsCounter)) →
            ackedEnt hash' ack = some i)

inductive ApsRequest where
  | data (req : ZbApsdeDataReq)
  | command (destAddr : UInt16) (command : UInt8) (secure : Bool)

/-- The header an outcome leaves in the buffer. -/
def writtenHdr : DataReqOutcome → Option (List UInt8)
  | .refused hdr _ | .sent hdr _ _ => some hdr
  | _ => none

def recordedEnt : DataReqOutcome → Option Nat
  | .refused _ recorded | .sent _ _ recorded => recorded
  | _ => none

def AckedUnicast (fc : UInt8) (req : ZbApsdeDataReq) : Prop :=
  req.txOptions &&& zbApsdeTxOptAckTx ≠ 0 ∧ zbApsFcGetDeliveryMode fc = zbApsDeliveryUnicast

/-- What is claimed of a request: of the header that is written, and of the
acknowledgement when it is an acknowledged unicast. -/
def RequestGood (pibShortAddress : UInt16) (param : UInt8) (s : ApsState) : ApsRequest → Prop
  | .data req =>
      ∀ s₁ fc dstAddr routed, routeReq pibShortAddress req s = some (s₁, .to fc dstAddr routed) →
        ∀ hdr, writtenHdr (sendReq param fc dstAddr routed s₁).2 = some hdr →
          (∀ stack srcAddr payload, ReadsBack routed s.apsCounter hdr
            (zbApsHdrParse stack srcAddr dstAddr (hdr ++ payload))) ∧
          (AckedUnicast fc routed → AckFound pibShortAddress dstAddr s.apsCounter hdr
            (recordedEnt (sendReq param fc dstAddr routed s₁).2)
            (sendReq param fc dstAddr routed s₁).1.hash)
  | .command destAddr command secure =>
      let sent := zbApsSendCommand param destAddr command secure s
      zbApsFcGetAckRequest (sent.2.1.getD 0 0) = 1 →
        AckFound pibShortAddress destAddr s.apsCounter sent.2.1 sent.2.2 sent.1.hash

/-- An entry is free, and the destination is a device. -/
def Recordable (pibShortAddress : UInt16) (s : ApsState) : ApsRequest → Prop
  | .data req =>
      ∀ s₁ fc dstAddr routed, routeReq pibShortAddress req s = some (s₁, .to fc dstAddr routed) →
        AckedUnicast fc routed →
          (∃ i < zbNApsRetransEntries, (s.hash i).state = .free) ∧ isBroadcast16 dstAddr = false
  | .command destAddr command _ =>
      command ≠ apsCmdTransportKey → zbNwkIsAddressBroadcast destAddr = false →
        ∃ i < zbNApsRetransEntries, (s.hash i).state = .free

/-! ## When it holds -/

section Requests

variable {pibShortAddress dstAddr : UInt16} {param fc apsCounter : UInt8} {s s₁ : ApsState}
  {req routed : ZbApsdeDataReq} {route : Route}

theorem addrShort_setAddrShort (req : ZbApsdeDataReq) (addr : UInt16) :
    (req.setAddrShort addr).addrShort = addr := by
  have bytes : (req.setAddrShort addr).dstAddr.toList =
      addr.toUInt8 :: (addr >>> 8).toUInt8 :: (req.setAddrShort addr).dstAddr.toList.drop 2 := by
    have length : req.dstAddr.toList.length = 8 := by simp
    rw [ZbApsdeDataReq.setAddrShort, Vector.toList_setIfInBounds, Vector.toList_setIfInBounds]
    generalize req.dstAddr.toList = l at length
    obtain _ | ⟨a, _ | ⟨b, rest⟩⟩ := l
    · cases length
    · cases length
    · rfl
  rw [ZbApsdeDataReq.addrShort, bytes, uint16At_zero]

theorem searchDst_frame {bound : Option (Nat × UInt8)}
    (found : zbSearchDstInBindingTable pibShortAddress req s = some (s₁, bound)) :
    s₁.apsCounter = s.apsCounter ∧ s₁.hash = s.hash := by
  rw [zbSearchDstInBindingTable] at found
  obtain ⟨⟨addr, ret⟩, -, found⟩ := Option.bind_eq_some_iff.1 found
  cases ret with
  | error e =>
      cases found
      exact ⟨rfl, rfl⟩
  | ok addrRef =>
      simp only at found
      split at found
      · cases found
        exact ⟨rfl, rfl⟩
      · split at found
        · cases found
          exact ⟨rfl, rfl⟩
        · cases found
          exact ⟨rfl, rfl⟩

/-- What a route leaves of the state, and of an acknowledged request. -/
structure Routed (s s₁ : ApsState) (fc : UInt8) (dstAddr : UInt16) (routed : ZbApsdeDataReq) :
    Prop where
  apsCounter : s₁.apsCounter = s.apsCounter
  hash : s₁.hash = s.hash
  fc : fc = 0 ∨ fc = 8 ∨ fc = 12
  acked : routed.txOptions &&& zbApsdeTxOptAckTx ≠ 0 →
    routed.addrMode ≠ .group16EndpNotPresent ∧ routed.addrShort = dstAddr

theorem routeReq_routed
    (route : routeReq pibShortAddress req s = some (s₁, .to fc dstAddr routed)) :
    Routed s s₁ fc dstAddr routed := by
  cases mode : req.addrMode with
  | dstAddrEndpNotPresent =>
      simp only [routeReq, mode] at route
      obtain ⟨⟨s₂, bound⟩, found, route⟩ := Option.bind_eq_some_iff.1 route
      obtain ⟨counter, hash⟩ := searchDst_frame found
      cases bound with
      | none => cases route
      | some target =>
          obtain ⟨ref, dstEnd⟩ := target
          simp only at route
          split at route
          · cases route
          · cases route
            refine ⟨counter, hash, .inl rfl, ?_⟩
            intro _
            exact ⟨by simp [ZbApsdeDataReq.setAddrShort], addrShort_setAddrShort ..⟩
  | group16EndpNotPresent =>
      simp only [routeReq, mode] at route
      cases route
      refine ⟨rfl, rfl, .inr (.inr rfl), ?_⟩
      intro acked
      exact absurd (by simp [UInt8.and_assoc, zbApsdeTxOptAckTx]) acked
  | endpPresent16 =>
      simp only [routeReq, mode] at route
      cases route
      refine ⟨rfl, rfl, ?_, fun _ => ⟨by simp [mode], rfl⟩⟩
      split
      · exact .inr (.inl rfl)
      · exact .inl rfl
  | endpPresent64 =>
      simp only [routeReq, mode] at route
      obtain ⟨⟨addr, short⟩, found, route⟩ := Option.bind_eq_some_iff.1 route
      cases route
      refine ⟨rfl, rfl, .inl rfl, ?_⟩
      intro _
      exact ⟨by simp [ZbApsdeDataReq.setAddrShort, mode], addrShort_setAddrShort ..⟩

/-! ### Recording -/

theorem freeEnt_eq_some {hash : Nat → ZbApsRetransEnt} {i : Nat} (free : freeEnt hash = some i) :
    i < zbNApsRetransEntries ∧ (hash i).state = .free := by
  have holds := List.find?_some free
  rw [beq_iff_eq] at holds
  exact ⟨List.mem_range.1 (List.mem_of_find?_eq_some free), holds⟩

theorem freeEnt_isSome {hash : Nat → ZbApsRetransEnt} :
    (∃ i, freeEnt hash = some i) ↔ ∃ i < zbNApsRetransEntries, (hash i).state = .free := by
  constructor
  · rintro ⟨i, free⟩
    exact ⟨i, freeEnt_eq_some free⟩
  · rintro ⟨i, inside, free⟩
    cases found : freeEnt hash with
    | some j => exact ⟨j, rfl⟩
    | none =>
        have missed := List.find?_eq_none.1 found i (List.mem_range.2 inside)
        simp [free] at missed

/-- The search stops at the only entry an acknowledgement is for. -/
theorem ackedEnt_eq {hash : Nat → ZbApsRetransEnt} {ack : ZbApsHdr} {i : Nat}
    (inside : i < zbNApsRetransEntries) (match_ : matchesAck (hash i) ack = true)
    (alone : ∀ j, j ≠ i → ¬ matchesAck (hash j) ack = true) : ackedEnt hash ack = some i := by
  cases found : ackedEnt hash ack with
  | none => exact absurd match_ (List.find?_eq_none.1 found i (List.mem_range.2 inside))
  | some j =>
      have stops := List.find?_some found
      by_contra other
      apply alone j _ stops
      rintro rfl
      exact other rfl

/-- **The acknowledgement of a recorded frame**, of whoever has its destination's address,
is for its entry and for no entry of another destination or counter. -/
theorem ackFound_of_recorded {hdr : List UInt8} {i : Nat} {hash : Nat → ZbApsRetransEnt}
    (inside : i < zbNApsRetransEntries) (device : isBroadcast16 dstAddr = false)
    (addr : (hash i).addr = dstAddr) (counter : (hash i).apsCounter = apsCounter)
    (got : ∀ stack payload,
      let read := (zbApsHdrParse stack pibShortAddress dstAddr (hdr ++ payload)).1
      read.apsCounter = apsCounter ∧
        (zbApsFcGetFrameType read.fc ≠ zbApsFrameCommand →
          (hash i).clusterid = read.clusterid ∧ (hash i).srcEndpoint = read.srcEndpoint ∧
            (hash i).dstEndpoint = read.dstEndpoint)) :
    AckFound pibShortAddress dstAddr apsCounter hdr (some i) hash := by
  refine ⟨i, inside, rfl, ?_⟩
  intro hash' same peer receives stack stack' payload read
  have peerIs : peer = dstAddr := receives.2.resolve_right (by simp [device])
  obtain ⟨readCounter, fields⟩ := got stack payload
  have match_ : matchesAck (hash' i) (ackOf stack' peer read) = true := by
    by_cases command : zbApsFcGetFrameType read.fc = zbApsFrameCommand
    · refine (matches_ackOf_command command).2 ⟨?_, ?_⟩
      · rw [same.addr, addr, peerIs]
      · rw [same.apsCounter, counter, ← readCounter]
    · obtain ⟨clusterid, srcEndpoint, dstEndpoint⟩ := fields command
      refine (matches_ackOf_data command).2 ⟨?_, ?_, ?_, ?_, ?_⟩
      · rw [same.addr, addr, peerIs]
      · rw [same.apsCounter, counter, ← readCounter]
      · rw [same.clusterid, clusterid]
      · rw [same.srcEndpoint, srcEndpoint]
      · rw [same.dstEndpoint, dstEndpoint]
  have others : ∀ j, matchesAck (hash' j) (ackOf stack' peer read) = true →
      (hash' j).addr = dstAddr ∧ (hash' j).apsCounter = apsCounter := by
    intro j match_
    obtain ⟨addr', counter'⟩ := matches_ackOf match_
    exact ⟨addr'.trans peerIs, counter'.trans readCounter⟩
  refine ⟨match_, others, ?_⟩
  intro alone
  refine ackedEnt_eq inside match_ ?_
  intro j other match_
  exact alone j other (others j match_)

/-- No device is a broadcast address: whoever takes a broadcast has another one. -/
theorem device_of_ackFound {hdr : List UInt8} {i : Nat} {hash : Nat → ZbApsRetransEnt}
    (found : AckFound pibShortAddress dstAddr apsCounter hdr (some i) hash)
    (addr : (hash i).addr = dstAddr) : isBroadcast16 dstAddr = false := by
  obtain ⟨j, -, eq, all⟩ := found
  cases eq
  by_contra broadcast
  rw [Bool.not_eq_false] at broadcast
  obtain ⟨match_, -, -⟩ := all hash ⟨rfl, rfl, rfl, rfl, rfl⟩ 0 ⟨by decide, .inr broadcast⟩ ⟨0, 0, 0, 0, 0, 0, 0, 0, 0⟩
    ⟨0, 0, 0, 0, 0, 0, 0, 0, 0⟩ []
  have zero := (matches_ackOf match_).1
  rw [addr] at zero
  rw [zero] at broadcast
  exact absurd broadcast (by decide)

/-- An acknowledged request is recorded in the first free entry. -/
theorem sendReq_acked (acked : req.txOptions &&& zbApsdeTxOptAckTx ≠ 0) (param fc : UInt8)
    (dstAddr : UInt16) (s : ApsState) :
    writtenHdr (sendReq param fc dstAddr req s).2 =
        some (apsDataHdrFillDatareq (zbApsFcSetAckRequest fc 1) req s.apsCounter) ∧
      recordedEnt (sendReq param fc dstAddr req s).2 = freeEnt s.hash ∧
      ∀ i, freeEnt s.hash = some i → (sendReq param fc dstAddr req s).1.hash i =
        recordReq param req (s.apsCounter + 1) (s.hash i) := by
  rw [sendReq, if_pos acked]
  cases free : freeEnt s.hash with
  | none => simp [saveAckData, free, writtenHdr, recordedEnt]
  | some i =>
      simp only [saveAckData, free]
      by_cases last : i = zbNApsRetransEntries - 1
      · simp only [if_pos last]
        refine ⟨rfl, rfl, ?_⟩
        rintro j ⟨⟩
        exact Function.update_self ..
      · simp only [if_neg last]
        refine ⟨rfl, rfl, ?_⟩
        rintro j ⟨⟩
        exact Function.update_self ..

theorem sendReq_unacked (unacked : ¬ req.txOptions &&& zbApsdeTxOptAckTx ≠ 0) (dstAddr : UInt16) :
    writtenHdr (sendReq param fc dstAddr req s).2 =
      some (apsDataHdrFillDatareq fc req s.apsCounter) := by
  rw [sendReq, if_neg unacked]
  rfl

/-- The frame controls of data frames. -/
theorem dataFc (built : fc = 0 ∨ fc = 8 ∨ fc = 12) (ackRequest : UInt8)
    (bit : ackRequest = 0 ∨ ackRequest = 1) :
    zbApsFcGetAckFormat (zbApsFcSetAckRequest fc ackRequest) = 0 ∧
      zbApsFcGetFrameType (zbApsFcSetAckRequest fc ackRequest) ≠ zbApsFrameCommand ∧
      zbApsFcGetDeliveryMode (zbApsFcSetAckRequest fc ackRequest) = zbApsFcGetDeliveryMode fc := by
  rcases built with rfl | rfl | rfl <;> rcases bit with rfl | rfl <;> decide

theorem fcSetAckRequest_zero (fc : UInt8) : zbApsFcSetAckRequest fc 0 = fc := by
  simp [zbApsFcSetAckRequest]

/-- A written header is read back. -/
theorem readsBack_datareq (format : zbApsFcGetAckFormat fc = 0)
    (data : zbApsFcGetFrameType fc ≠ zbApsFrameCommand) (req : ZbApsdeDataReq) (apsCounter : UInt8)
    (stack : ZbApsHdr) (srcAddr dstAddr : UInt16) (payload : List UInt8) :
    ReadsBack req apsCounter (apsDataHdrFillDatareq fc req apsCounter)
      (zbApsHdrParse stack srcAddr dstAddr (apsDataHdrFillDatareq fc req apsCounter ++ payload)) := by
  have first : (apsDataHdrFillDatareq fc req apsCounter).getD 0 0 = fc := by
    simp [apsDataHdrFillDatareq]
  rw [parse_datareq stack srcAddr dstAddr req apsCounter payload format]
  refine ⟨first.symm, ?_, rfl, rfl, rfl, rfl, length_datareq data req apsCounter, rfl⟩
  by_cases group : zbApsFcGetDeliveryMode fc = zbApsDeliveryGroup
  · simp only [if_pos group]
  · simp only [if_neg group]

/-- **An acknowledged unicast** finds its entry exactly when one was free and its
destination is a device. -/
theorem ackFound_data_iff (routed : Routed s s₁ fc dstAddr req)
    (unicast : AckedUnicast fc req) :
    AckFound pibShortAddress dstAddr s.apsCounter
        (apsDataHdrFillDatareq (zbApsFcSetAckRequest fc 1) req s₁.apsCounter)
        (recordedEnt (sendReq param fc dstAddr req s₁).2) (sendReq param fc dstAddr req s₁).1.hash ↔
      (∃ i < zbNApsRetransEntries, (s.hash i).state = .free) ∧ isBroadcast16 dstAddr = false := by
  obtain ⟨acked, mode⟩ := unicast
  obtain ⟨-, recorded, entry⟩ := sendReq_acked acked param fc dstAddr s₁
  obtain ⟨endp, short⟩ := routed.acked acked
  have addr : ∀ i, freeEnt s₁.hash = some i →
      ((sendReq param fc dstAddr req s₁).1.hash i).addr = dstAddr := by
    intro i free
    rw [entry i free, recordReq, ← short]
    simp [endp]
  rw [recorded, ← freeEnt_isSome, ← routed.hash]
  constructor
  · intro found
    have some_ := found
    obtain ⟨i, -, free, -⟩ := some_
    rw [free] at found
    exact ⟨⟨i, free⟩, device_of_ackFound found (addr i free)⟩
  · rintro ⟨⟨i, free⟩, device⟩
    rw [free]
    refine ackFound_of_recorded (freeEnt_eq_some free).1 device (addr i free) ?_ ?_
    · rw [entry i free, recordReq, routed.apsCounter]
      simp
    · intro stack payload read
      obtain ⟨format, data, same⟩ := dataFc routed.fc 1 (.inr rfl)
      have back := parse_datareq stack pibShortAddress dstAddr req s₁.apsCounter payload format
      have endpoint : ¬ zbApsFcGetDeliveryMode (zbApsFcSetAckRequest fc 1) = zbApsDeliveryGroup := by
        rw [same, mode]
        decide
      simp only [read, back, if_neg endpoint, entry i free]
      exact ⟨routed.apsCounter, fun _ => ⟨rfl, rfl, rfl⟩⟩

/-- A command to a device asks for an acknowledgement, unless it transports a key. -/
theorem needsAck_iff {destAddr : UInt16} {command : UInt8} :
    needsAck destAddr command = true ↔
      command ≠ apsCmdTransportKey ∧ zbNwkIsAddressBroadcast destAddr = false := by
  rw [needsAck]
  split <;> simp_all

/-- The header of a command asks for what the command needs. -/
theorem command_asks_iff {destAddr : UInt16} {command : UInt8} {secure : Bool} :
    zbApsFcGetAckRequest ((zbApsSendCommand param destAddr command secure s).2.1.getD 0 0) = 1 ↔
      needsAck destAddr command = true := by
  have asks : zbApsFcGetAckRequest (zbApsFcSetCommand 0 1) = 1 := by decide
  have quiet : zbApsFcGetAckRequest (zbApsFcSetCommand 0 0) ≠ 1 := by decide
  cases need : needsAck destAddr command with
  | true => simp [zbApsSendCommand, apsCommandHdr, need, asks]
  | false => simp [zbApsSendCommand, apsCommandHdr, need, quiet]

/-- **An acknowledged command** finds its entry exactly when one was free. -/
theorem ackFound_command_iff {destAddr : UInt16} {command : UInt8} {secure : Bool}
    (need : needsAck destAddr command = true) :
    AckFound pibShortAddress destAddr s.apsCounter
        (zbApsSendCommand param destAddr command secure s).2.1
        (zbApsSendCommand param destAddr command secure s).2.2
        (zbApsSendCommand param destAddr command secure s).1.hash ↔
      ∃ i < zbNApsRetransEntries, (s.hash i).state = .free := by
  have device := (needsAck_iff.1 need).2
  have individual : isBroadcast16 destAddr = false := by
    by_contra broadcast
    rw [Bool.not_eq_false, isBroadcast16] at broadcast
    simp only [Bool.or_eq_true, beq_iff_eq] at broadcast
    rcases broadcast with ((rfl | rfl) | rfl) | rfl <;> exact absurd device (by decide)
  rw [← freeEnt_isSome]
  cases free : freeEnt s.hash with
  | none =>
      simp only [zbApsSendCommand, need, if_true, free]
      refine iff_of_false ?_ (by simp)
      rintro ⟨i, -, none_, -⟩
      cases none_
  | some i =>
      simp only [zbApsSendCommand, need, if_true, free]
      refine iff_of_true ?_ ⟨i, rfl⟩
      refine ackFound_of_recorded (freeEnt_eq_some free).1 individual ?_ ?_ ?_
      · simp [setEnt, recordCommand]
      · simp [setEnt, recordCommand]
      · intro stack payload read
        have fc : (zbApsFcSetCommand 0 1) = 0x51 := by decide
        have format : zbApsFcGetAckFormat 0x51 = 1 := by decide
        have kind : zbApsFcGetFrameType 0x51 = zbApsFrameCommand := by decide
        simp [read, apsCommandHdr, zbApsHdrParse, fc, format, kind]

/-- **When acknowledgements find their frames.**  For every request, the header is read
back, and a unicast that asks for it is acknowledged to its entry, if and only if an
acknowledged unicast finds a free entry and its destination is a device. -/
theorem request_good_iff (pibShortAddress : UInt16) (param : UInt8) (s : ApsState)
    (request : ApsRequest) :
    RequestGood pibShortAddress param s request ↔ Recordable pibShortAddress s request := by
  cases request with
  | command destAddr command secure =>
      constructor
      · intro good other device
        have need := needsAck_iff.2 ⟨other, device⟩
        exact (ackFound_command_iff need).1 (good (command_asks_iff.2 need))
      · intro recordable asks
        have need := command_asks_iff.1 asks
        obtain ⟨other, device⟩ := needsAck_iff.1 need
        exact (ackFound_command_iff need).2 (recordable other device)
  | data req =>
      constructor
      · intro good s₁ fc dstAddr routed route unicast
        have spec := routeReq_routed route
        have written := (sendReq_acked unicast.1 param fc dstAddr s₁).1
        exact (ackFound_data_iff spec unicast).1 ((good s₁ fc dstAddr routed route _ written).2 unicast)
      · intro recordable s₁ fc dstAddr routed route hdr written
        have spec := routeReq_routed route
        by_cases acked : routed.txOptions &&& zbApsdeTxOptAckTx ≠ 0
        · rw [(sendReq_acked acked param fc dstAddr s₁).1] at written
          cases written
          obtain ⟨format, data, -⟩ := dataFc spec.fc 1 (.inr rfl)
          refine ⟨?_, ?_⟩
          · intro stack srcAddr payload
            rw [spec.apsCounter]
            exact readsBack_datareq format data routed s.apsCounter stack srcAddr dstAddr payload
          · intro unicast
            exact (ackFound_data_iff spec unicast).2 (recordable s₁ fc dstAddr routed route unicast)
        · rw [sendReq_unacked acked dstAddr] at written
          cases written
          obtain ⟨format, data, -⟩ := dataFc spec.fc 0 (.inl rfl)
          rw [fcSetAckRequest_zero] at format data
          refine ⟨?_, fun unicast => absurd unicast.1 acked⟩
          intro stack srcAddr payload
          rw [spec.apsCounter]
          exact readsBack_datareq format data routed s.apsCounter stack srcAddr dstAddr payload

end Requests

/-! ## A destination without a short address -/

/-- A device just started: nothing waits, and no address is known. -/
def started : ApsState where
  apsCounter := 0
  hash _ := ⟨0, 0, 0, 0, 0, 0, 0, false, .free⟩
  addr := .init
  binding := .init

/-- An acknowledged request to the IEEE address of a device. -/
def toStranger : ZbApsdeDataReq where
  dstAddr := Vector.replicate 8 1
  profileid := 0x0103
  clusterid := 0x54
  dstEndpoint := 10
  srcEndpoint := 10
  radius := 10
  addrMode := .endpPresent64
  txOptions := zbApsdeTxOptAckTx

/-- **An unknown peer is not acknowledged**: with every entry free, a request to an IEEE
address without a short one is a unicast to 0xFFFF, and the entry is not that of whoever
acknowledges it. -/
theorem unknown_peer_not_acked :
    ¬ ∀ (pibShortAddress : UInt16) (param : UInt8) (s : ApsState) (request : ApsRequest),
      RequestGood pibShortAddress param s request := by
  intro claim
  obtain ⟨⟨s₁, route⟩, routed, goes⟩ := Option.map_eq_some_iff.1
    (by decide +kernel : (routeReq 1 toStranger started).map (fun r =>
      match r.2 with
      | .to fc dstAddr req => (fc, dstAddr, req.txOptions, req.addrMode)
      | _ => (1, 0, 0, .endpPresent16)) = some (0, 0xFFFF, zbApsdeTxOptAckTx, .endpPresent64))
  obtain _ | _ | ⟨fc, dstAddr, req⟩ := route
  · cases goes
  · cases goes
  · simp only [Prod.mk.injEq] at goes
    obtain ⟨rfl, rfl, options, -⟩ := goes
    have spec := routeReq_routed routed
    have unicast : AckedUnicast 0 req := ⟨by rw [options]; decide, by decide⟩
    have written := (sendReq_acked unicast.1 2 0 0xFFFF s₁).1
    have found := (claim 1 2 started (.data toStranger) s₁ 0 0xFFFF req routed _ written).2 unicast
    exact absurd ((ackFound_data_iff spec unicast).1 found).2 (by decide)

end Zboss.Aps.AckMatch
