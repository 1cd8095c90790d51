/-
# Aps.SaveAck -- an entry for a frame that waits for its acknowledgement

`save_ack_data` looks for a free entry in a do-while loop, fills the one it finds, and takes
the index it stopped at for the answer.  `saveAckLoop` is that loop; it is the search of
`saveAckData` (`saveAckData_eq_loop`), and it stops behind the last entry when none is free.

The index that is asked for, `ZB_N_APS_RETRANS_ENTRIES-1`, is that of the last entry.  So the
answer is right exactly when an entry before it is free (`slotAllocated_iff`): the last entry
is filled and refused, and a full table is answered with `RET_OK`.

Pole: `last_entry_refused`.
-/
import Mathlib
import Zboss.Aps.ApsFrame
import Zboss.Aps.AckMatch

namespace Zboss.Aps.SaveAck

open Zboss.Common.Types
open Zboss.Aps.ApsFrame
open Zboss.Aps.AckMatch

set_option autoImplicit false

variable {param apsCounter : UInt8} {req : ZbApsdeDataReq} {s : ApsState}
  {hash : Nat → ZbApsRetransEnt} {cnt i : Nat}

/-! ## The loop -/

/-- `cnt` turns of the loop from the entry `i` on: the table, what is stored through `ref`,
and the index the loop stops at. -/
def saveAckLoop (param : UInt8) (req : ZbApsdeDataReq) (apsCounter : UInt8)
    (hash : Nat → ZbApsRetransEnt) : Nat → Nat → (Nat → ZbApsRetransEnt) × Option Nat × Nat
  | 0, i => (hash, none, i)
  | cnt + 1, i =>
      if (hash i).state = .free then
        (setEnt hash i (recordReq param req apsCounter (hash i)), some i, i)
      else saveAckLoop param req apsCounter hash cnt (i + 1)

theorem saveAckLoop_found {j : Nat}
    (found : (List.range' i cnt).find? (fun i => (hash i).state == .free) = some j) :
    saveAckLoop param req apsCounter hash cnt i =
      (setEnt hash j (recordReq param req apsCounter (hash j)), some j, j) := by
  induction cnt generalizing i with
  | zero => cases found
  | succ cnt ih =>
      rw [List.range'_succ] at found
      by_cases free : (hash i).state = .free
      · simp only [List.find?_cons, free, beq_self_eq_true] at found
        cases found
        simp [saveAckLoop, free]
      · have taken : ((hash i).state == RetransState.free) = false := by simpa using free
        simp only [List.find?_cons, taken] at found
        simp [saveAckLoop, free, ih found]

theorem saveAckLoop_missed
    (missed : (List.range' i cnt).find? (fun i => (hash i).state == .free) = none) :
    saveAckLoop param req apsCounter hash cnt i = (hash, none, i + cnt) := by
  induction cnt generalizing i with
  | zero => rfl
  | succ cnt ih =>
      rw [List.range'_succ] at missed
      by_cases free : (hash i).state = .free
      · simp [free] at missed
      · have taken : ((hash i).state == RetransState.free) = false := by simpa using free
        simp only [List.find?_cons, taken] at missed
        simp only [saveAckLoop, if_neg free, ih missed, Prod.mk.injEq, true_and]
        omega

/-- **The loop is the search**, and the answer is read off the index it stops at. -/
theorem saveAckData_eq_loop (param : UInt8) (req : ZbApsdeDataReq) (s : ApsState) :
    saveAckData param req s =
      let (hash, ref, i) := saveAckLoop param req s.apsCounter s.hash zbNApsRetransEntries 0
      ({ s with hash := hash }, ref,
        if i = zbNApsRetransEntries - 1 then .error .tableFull else .ok ()) := by
  unfold saveAckData freeEnt
  rw [List.range_eq_range']
  cases found : (List.range' 0 zbNApsRetransEntries).find? fun i => (s.hash i).state == .free with
  | some i =>
      rw [saveAckLoop_found found]
  | none =>
      rw [saveAckLoop_missed found]
      rfl

/-! ## The answer -/

/-- Entry `i` was free, and is the only one that has changed: it is for this buffer now. -/
structure Taken (param : UInt8) (req : ZbApsdeDataReq) (apsCounter : UInt8)
    (hash hash' : Nat → ZbApsRetransEnt) (i : Nat) : Prop where
  inside : i < zbNApsRetransEntries
  free : (hash i).state = .free
  recorded : hash' i = recordReq param req apsCounter (hash i)
  others : ∀ j, j ≠ i → hash' j = hash j

/-- What is claimed of the allocation: it succeeds exactly when an entry is free, one free
entry is taken then, the one that is reported, and no entry is touched otherwise. -/
structure SlotAllocated (param : UInt8) (req : ZbApsdeDataReq) (s : ApsState) : Prop where
  succeeds : (saveAckData param req s).2.2 = .ok () ↔
    ∃ i < zbNApsRetransEntries, (s.hash i).state = .free
  taken : (saveAckData param req s).2.2 = .ok () → ∃ i, (saveAckData param req s).2.1 = some i ∧
    Taken param req s.apsCounter s.hash (saveAckData param req s).1.hash i
  refused : (saveAckData param req s).2.2 = .error .tableFull →
    (saveAckData param req s).1.hash = s.hash

theorem taken_setEnt (found : freeEnt s.hash = some i) :
    Taken param req s.apsCounter s.hash
      (setEnt s.hash i (recordReq param req s.apsCounter (s.hash i))) i := by
  obtain ⟨inside, free⟩ := freeEnt_eq_some found
  refine ⟨inside, free, ?_, ?_⟩
  · simp [setEnt]
  · intro j other
    simp [setEnt, Function.update_of_ne other]

/-- The search stops at an entry before the last one when there is a free one. -/
theorem freeEnt_before_last : (∃ i < zbNApsRetransEntries - 1, (s.hash i).state = .free) ↔
    ∃ i, freeEnt s.hash = some i ∧ i ≠ zbNApsRetransEntries - 1 := by
  constructor
  · rintro ⟨i, before, free⟩
    obtain ⟨j, found⟩ := freeEnt_isSome.2 ⟨i, Nat.lt_of_lt_of_le before (Nat.sub_le ..), free⟩
    refine ⟨j, found, ?_⟩
    rintro rfl
    -- the search has passed the entries before the one it finds
    obtain ⟨-, -, passed⟩ := List.find?_range_eq_some.1 found
    have refused := passed i before
    simp [free] at refused
  · rintro ⟨i, found, other⟩
    obtain ⟨inside, free⟩ := freeEnt_eq_some found
    exact ⟨i, by omega, free⟩

/-- **When the answer is right**: an entry before the last one is free. -/
theorem slotAllocated_iff (param : UInt8) (req : ZbApsdeDataReq) (s : ApsState) :
    SlotAllocated param req s ↔ ∃ i < zbNApsRetransEntries - 1, (s.hash i).state = .free := by
  rw [freeEnt_before_last]
  constructor
  · intro good
    cases found : freeEnt s.hash with
    | none =>
        -- a full table is answered with `RET_OK`
        have ok : (saveAckData param req s).2.2 = .ok () := by simp [saveAckData, found]
        obtain ⟨i, free⟩ := freeEnt_isSome.2 (good.succeeds.1 ok)
        rw [found] at free
        cases free
    | some i =>
        refine ⟨i, rfl, ?_⟩
        rintro rfl
        -- the last entry is filled and refused
        have refused : (saveAckData param req s).2.2 = .error .tableFull := by
          simp [saveAckData, found]
        have ok := good.succeeds.2 ⟨_, freeEnt_eq_some found⟩
        rw [refused] at ok
        cases ok
  · rintro ⟨i, found, before⟩
    have answer : saveAckData param req s =
        ({ s with hash := setEnt s.hash i (recordReq param req s.apsCounter (s.hash i)) }, some i,
          .ok ()) := by
      simp [saveAckData, found, before]
    constructor
    · rw [answer]
      exact ⟨fun _ => ⟨i, freeEnt_eq_some found⟩, fun _ => rfl⟩
    · intro _
      rw [answer]
      exact ⟨i, rfl, taken_setEnt found⟩
    · rw [answer]
      intro refused
      cases refused

/-- An acknowledged request goes to NWK with an entry of its own in the same cases. -/
theorem sent_recorded_iff {fc : UInt8} {dstAddr : UInt16}
    (acked : req.txOptions &&& zbApsdeTxOptAckTx ≠ 0) :
    (∃ hdr i, (sendReq param fc dstAddr req s).2 = .sent hdr dstAddr (some i)) ↔
      ∃ i < zbNApsRetransEntries - 1, (s.hash i).state = .free := by
  rw [freeEnt_before_last]
  unfold sendReq
  rw [if_pos acked]
  cases found : freeEnt s.hash with
  | none => simp [saveAckData, found]
  | some i =>
      by_cases last : i = zbNApsRetransEntries - 1
      · simp [saveAckData, found, last]
      · simp [saveAckData, found, last]

/-- Nine frames wait for their acknowledgements. -/
def nineOutstanding : ApsState :=
  { started with
    hash := fun i => ⟨0, 0, 0, 0, 0, 0, 0, false, if i < 9 then .sentMacConfirmed else .free⟩ }

/-- **The last entry is refused**: with nine frames outstanding the tenth is answered with the
status of a full table, and its entry is taken. -/
theorem last_entry_refused :
    ¬ ∀ (param : UInt8) (req : ZbApsdeDataReq) (s : ApsState), SlotAllocated param req s := by
  intro good
  have right := good 5 toStranger nineOutstanding
  have ok := right.succeeds.2 ⟨9, by decide, rfl⟩
  have refused : (saveAckData 5 toStranger nineOutstanding).2.2 = .error .tableFull := by decide
  rw [refused] at ok
  cases ok

end Zboss.Aps.SaveAck
