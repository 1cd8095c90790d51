/-
# Aps.AckHandle -- what an acknowledgement completes

`aps_ack_frame_handle` looks for the entry of the frame that is acknowledged, and is done with
it.  An entry may be completed by an acknowledgement of the frame it waits for (`Outstanding`),
and by nothing else.  The search does not look at the state of an entry ("when entry freed, addr
set to -1"), at the profile, or at the kind of frame the entry is for.

* `completesOnly_iff`: an acknowledgement leaves all but an outstanding entry alone exactly when
  the entry the search stops at, if any, waits for it.
* `not_free_of_source`: where the free entries have the address -1, one of them is stopped at
  only for an acknowledgement that comes from -1.

Pole: `free_entry_completed`.
-/
import Mathlib
import Zboss.Aps.ApsFrame

namespace Zboss.Aps.AckHandle

open Zboss.Common.Types
open Zboss.Aps.Dups hiding ZbApsHdr
open Zboss.Aps.ApsFrame

set_option autoImplicit false

/-! ## The handler -/

/-- What is done beside the table. -/
inductive AckCall where
  /-- The status is written into the buffer. -/
  | setStatus (buf : UInt8) (status : UInt8)
  | freeBuf (buf : UInt8)
  /-- `ZB_SCHEDULE_CALLBACK(zb_apsde_data_confirm, buf)` -/
  | dataConfirm (buf : UInt8)
  /-- `zb_schedule_alarm_cancel(zb_aps_ack_timer_cb, i)` -/
  | cancelTimer (i : Nat)
  deriving DecidableEq

/-- The entry is free; the rest of it stays. -/
def clearEnt (ent : ZbApsRetransEnt) : ZbApsRetransEnt :=
  { ent with state := .free, addr := 0xFFFF, buf := 0xFF }

/-- A command's buffer is freed, a data frame is confirmed. -/
def doneWithThisAck (i : Nat) (fc status : UInt8) (hash : Nat → ZbApsRetransEnt) :
    (Nat → ZbApsRetransEnt) × List AckCall :=
  let buf := (hash i).buf
  (setEnt hash i (clearEnt (hash i)),
    [.setStatus buf status, if zbApsFcGetAckFormat fc ≠ 0 then .freeBuf buf else .dataConfirm buf,
      .cancelTimer i])

def apsAckFrameHandle (hdr : ZbApsHdr) (hash : Nat → ZbApsRetransEnt) :
    (Nat → ZbApsRetransEnt) × List AckCall :=
  match ackedEnt hash hdr with
  | some i =>
      if (hash i).state = .sentMacNotConfirmed then
        (setEnt hash i { hash i with state := .sentMacNotConfirmedApsAcked }, [])
      else doneWithThisAck i hdr.fc 0 hash
  | none => (hash, [])

/-- `zb_nlde_data_indication` of an acknowledgement in the buffer `param`, which is freed. -/
def ackIndication (param : UInt8) (hdr : ZbApsHdr) (hash : Nat → ZbApsRetransEnt) :
    (Nat → ZbApsRetransEnt) × List AckCall :=
  let (hash, calls) := apsAckFrameHandle hdr hash
  (hash, calls ++ [.freeBuf param])

/-- After `zb_aps_init` of the zero-initialised table. -/
def apsInitHash : Nat → ZbApsRetransEnt := fun _ =>
  ⟨0xFFFF, 0, 0, 0, 0, 0xFF, 0, false, .free⟩

/-! ## What it is for -/

/-- What was sent for an entry, as far as the entry does not have it. -/
structure SentFrame where
  isCommand : Bool
  profileid : UInt16
  deriving DecidableEq

/-- Both are in the command format. -/
def CommandAck (sent : SentFrame) (hdr : ZbApsHdr) : Prop :=
  sent.isCommand = true ∧ zbApsFcGetAckFormat hdr.fc ≠ 0

instance (sent : SentFrame) (hdr : ZbApsHdr) : Decidable (CommandAck sent hdr) :=
  inferInstanceAs (Decidable (_ ∧ _))

/-- **The entry waits for this acknowledgement**: it is in use, and the destination, the counter
and, unless it is a command, the endpoints, the cluster and the profile are those of the
acknowledgement. -/
structure Outstanding (sent : Nat → SentFrame) (hash : Nat → ZbApsRetransEnt) (hdr : ZbApsHdr)
    (i : Nat) : Prop where
  inside : i < zbNApsRetransEntries
  waits : (hash i).state ≠ .free
  destination : (hash i).addr = hdr.srcAddr
  counter : (hash i).apsCounter = hdr.apsCounter
  data : ¬ CommandAck (sent i) hdr →
    (hash i).clusterid = hdr.clusterid ∧ (hash i).srcEndpoint = hdr.dstEndpoint ∧
      (hash i).dstEndpoint = hdr.srcEndpoint ∧ (sent i).profileid = hdr.profileid

/-- The call is about an entry. -/
def AckCall.About (hash : Nat → ZbApsRetransEnt) (i : Nat) : AckCall → Prop
  | .setStatus buf _ => buf = (hash i).buf
  | .freeBuf buf => buf = (hash i).buf
  | .dataConfirm buf => buf = (hash i).buf
  | .cancelTimer j => j = i

/-- **An acknowledgement completes an outstanding request only**: what changes in the table is an
entry that waits for it, and what is done, apart from freeing the received frame, is done for
such an entry. -/
def CompletesOnly (sent : Nat → SentFrame) (param : UInt8) (hdr : ZbApsHdr)
    (hash : Nat → ZbApsRetransEnt) : Prop :=
  ∃ calls, (ackIndication param hdr hash).2 = calls ++ [.freeBuf param] ∧
    (∀ i, (ackIndication param hdr hash).1 i ≠ hash i → Outstanding sent hash hdr i) ∧
    ∀ call ∈ calls, ∃ i, call.About hash i ∧ Outstanding sent hash hdr i

/-- **The condition**: the entry the search stops at is not free, an acknowledgement in the
command format meets a command, or a data entry with its fields, and another one a data entry
with its profile. -/
def AckIntact (sent : Nat → SentFrame) (hdr : ZbApsHdr) (hash : Nat → ZbApsRetransEnt) : Prop :=
  ∀ i, ackedEnt hash hdr = some i → (hash i).state ≠ .free ∧
    (¬ CommandAck (sent i) hdr → (sent i).profileid = hdr.profileid ∧
      (zbApsFcGetAckFormat hdr.fc ≠ 0 → (hash i).clusterid = hdr.clusterid ∧
        (hash i).srcEndpoint = hdr.dstEndpoint ∧ (hash i).dstEndpoint = hdr.srcEndpoint))

section Handle

variable {sent : Nat → SentFrame} {param : UInt8} {hdr : ZbApsHdr} {hash : Nat → ZbApsRetransEnt}
  {i : Nat}

/-- What the search has compared. -/
theorem ackedEnt_spec (acked : ackedEnt hash hdr = some i) :
    i < zbNApsRetransEntries ∧ (hash i).addr = hdr.srcAddr ∧
      (hash i).apsCounter = hdr.apsCounter ∧
      (zbApsFcGetAckFormat hdr.fc = 0 → (hash i).clusterid = hdr.clusterid ∧
        (hash i).srcEndpoint = hdr.dstEndpoint ∧ (hash i).dstEndpoint = hdr.srcEndpoint) := by
  have found : (List.range zbNApsRetransEntries).find? (fun i => matchesAck (hash i) hdr) =
      some i := acked
  have inside := List.mem_range.1 (List.mem_of_find?_eq_some found)
  have holds := List.find?_some found
  simp only [matchesAck, Bool.and_eq_true, Bool.or_eq_true, beq_iff_eq, bne_iff_ne] at holds
  obtain ⟨⟨addr, counter⟩, format⟩ := holds
  refine ⟨inside, addr, counter, fun data => ?_⟩
  obtain ⟨⟨cluster, src⟩, dst⟩ := format.resolve_left fun command => command data
  exact ⟨cluster, src, dst⟩

/-- The entry that was found waits for the acknowledgement when what the search leaves out is
right. -/
theorem outstanding_iff (acked : ackedEnt hash hdr = some i) :
    Outstanding sent hash hdr i ↔ (hash i).state ≠ .free ∧
      (¬ CommandAck (sent i) hdr → (sent i).profileid = hdr.profileid ∧
        (zbApsFcGetAckFormat hdr.fc ≠ 0 → (hash i).clusterid = hdr.clusterid ∧
          (hash i).srcEndpoint = hdr.dstEndpoint ∧ (hash i).dstEndpoint = hdr.srcEndpoint)) := by
  obtain ⟨inside, addr, counter, compared⟩ := ackedEnt_spec acked
  constructor
  · rintro ⟨-, waits, -, -, data⟩
    refine ⟨waits, fun notCommand => ?_⟩
    obtain ⟨cluster, src, dst, profile⟩ := data notCommand
    exact ⟨profile, fun _ => ⟨cluster, src, dst⟩⟩
  · rintro ⟨waits, rest⟩
    refine ⟨inside, waits, addr, counter, fun notCommand => ?_⟩
    obtain ⟨profile, command⟩ := rest notCommand
    by_cases data : zbApsFcGetAckFormat hdr.fc = 0
    · obtain ⟨cluster, src, dst⟩ := compared data
      exact ⟨cluster, src, dst, profile⟩
    · obtain ⟨cluster, src, dst⟩ := command data
      exact ⟨cluster, src, dst, profile⟩

/-- What the handler does to an entry it has found. -/
theorem handle_found (acked : ackedEnt hash hdr = some i) :
    (∀ j, j ≠ i → (apsAckFrameHandle hdr hash).1 j = hash j) ∧
      (∀ call ∈ (apsAckFrameHandle hdr hash).2, call.About hash i) ∧
      ((apsAckFrameHandle hdr hash).1 i ≠ hash i ∨
        .cancelTimer i ∈ (apsAckFrameHandle hdr hash).2) := by
  by_cases sending : (hash i).state = .sentMacNotConfirmed
  · have handled : apsAckFrameHandle hdr hash =
        (setEnt hash i { hash i with state := .sentMacNotConfirmedApsAcked }, []) := by
      simp only [apsAckFrameHandle, acked]
      rw [if_pos sending]
    rw [handled]
    refine ⟨fun j ne => Function.update_of_ne ne .., fun call mem => absurd mem List.not_mem_nil,
      Or.inl ?_⟩
    intro same
    have states := congrArg ZbApsRetransEnt.state same
    simp [setEnt, sending] at states
  · have handled : apsAckFrameHandle hdr hash = doneWithThisAck i hdr.fc 0 hash := by
      simp only [apsAckFrameHandle, acked]
      rw [if_neg sending]
    rw [handled]
    refine ⟨fun j ne => Function.update_of_ne ne .., fun call mem => ?_, Or.inr ?_⟩
    · simp only [doneWithThisAck, List.mem_cons, List.not_mem_nil, or_false] at mem
      rcases mem with rfl | rfl | rfl
      · rfl
      · split <;> rfl
      · rfl
    · simp [doneWithThisAck]

theorem handle_missed (missed : ackedEnt hash hdr = none) :
    apsAckFrameHandle hdr hash = (hash, []) := by
  simp only [apsAckFrameHandle, missed]

/-- Where a free entry has the address -1, only an acknowledgement from -1 meets one. -/
theorem not_free_of_source (freed : ∀ i, (hash i).state = .free → (hash i).addr = 0xFFFF)
    (source : hdr.srcAddr ≠ 0xFFFF) (acked : ackedEnt hash hdr = some i) :
    (hash i).state ≠ .free := by
  intro free
  obtain ⟨-, addr, -⟩ := ackedEnt_spec acked
  exact source (addr.symm.trans (freed i free))

end Handle

/-- **When an acknowledgement completes an outstanding request only**: for every table, every
frame sent for its entries, and every acknowledgement. -/
theorem completesOnly_iff (sent : Nat → SentFrame) (param : UInt8) (hdr : ZbApsHdr)
    (hash : Nat → ZbApsRetransEnt) :
    CompletesOnly sent param hdr hash ↔ AckIntact sent hdr hash := by
  cases acked : ackedEnt hash hdr with
  | none =>
      refine iff_of_true ⟨[], ?_, ?_, nofun⟩ (fun i is => ?_)
      · rw [ackIndication, handle_missed acked]
      · intro i changed
        rw [ackIndication, handle_missed acked] at changed
        exact absurd rfl changed
      · rw [acked] at is
        cases is
  | some i =>
      obtain ⟨others, about, something⟩ := handle_found acked
      have intact : AckIntact sent hdr hash ↔ Outstanding sent hash hdr i := by
        rw [outstanding_iff acked, AckIntact, acked]
        simp only [Option.some.injEq, forall_eq']
      rw [intact]
      constructor
      · rintro ⟨calls, made, changes, done⟩
        have same : calls = (apsAckFrameHandle hdr hash).2 := (List.append_cancel_right made).symm
        rcases something with changed | cancelled
        · exact changes i changed
        · rw [← same] at cancelled
          obtain ⟨j, is, waits⟩ := done _ cancelled
          have here : i = j := is
          exact here ▸ waits
      · intro waits
        refine ⟨(apsAckFrameHandle hdr hash).2, rfl, fun j changed => ?_, fun call mem =>
          ⟨i, about call mem, waits⟩⟩
        by_contra other
        have ne : j ≠ i := fun here => other (here ▸ waits)
        exact changed (others j ne)

/-- An acknowledgement in the data format from the address -1. -/
def fromNobody : ZbApsHdr where
  fc := 2
  srcAddr := 0xFFFF
  dstAddr := 0
  groupAddr := 0
  dstEndpoint := 0
  srcEndpoint := 0
  clusterid := 0
  profileid := 0
  apsCounter := 0

/-- **A free entry is completed** by an acknowledgement from -1: a buffer that does not exist is
given a status and confirmed. -/
theorem free_entry_completed :
    ¬ ∀ (sent : Nat → SentFrame) (param : UInt8) (hdr : ZbApsHdr)
      (hash : Nat → ZbApsRetransEnt), CompletesOnly sent param hdr hash := by
  intro always
  obtain ⟨calls, made, -, done⟩ := always (fun _ => ⟨false, 0⟩) 7 fromNobody apsInitHash
  have confirmed : (ackIndication 7 fromNobody apsInitHash).2 =
      [.setStatus 0xFF 0, .dataConfirm 0xFF, .cancelTimer 0] ++ [.freeBuf 7] := by decide
  rw [← List.append_cancel_right (confirmed.symm.trans made)] at done
  obtain ⟨i, -, waits⟩ := done (.cancelTimer 0) (by simp)
  exact waits.waits rfl

end Zboss.Aps.AckHandle
