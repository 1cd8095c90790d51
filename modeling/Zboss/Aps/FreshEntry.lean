/-
# Aps.FreshEntry -- the first frame of a device

A device whose entry is new has not been heard yet, so its first frame should be no
duplicate (`FirstPassed`).  But putting an entry in use resets neither the counter nor
the clock in it, and the alarm ages entries in use only: what the slot heard last, from the
device it belonged to before, is still there.

`History` carries what the slots have heard beside the state, and `recorded_step` says
that the counters and clocks are that record.  `firstFrames_iff` is read off it: in
every run, first frames pass exactly when each of them finds another counter in its slot, or
one that is three ticks old (`SlotForgot`).

Pole: `reused_slot_rejects`.
-/
import Mathlib
import Zboss.Theory.Run
import Zboss.Common.AddressCount
import Zboss.Aps.Dups

namespace Zboss.Aps.FreshEntry

open Zboss.Theory.Run
open Zboss.Theory.Directory
open Zboss.Common.Types
open Zboss.Common.Address
open Zboss.Common.AddressPairs
open Zboss.Common.AddressRun
open Zboss.Common.AddressCount
open Zboss.Aps.Dups

set_option autoImplicit false

/-! ## Histories -/

/-- The state, and what its slots have been through. -/
structure History where
  dup : DupState
  /-- The slot has been put in use, and no frame has come for it since. -/
  fresh : Nat → Bool
  /-- The counter of the last frame that came for the slot, and the ticks since, as far as
  the slot was in use at them. -/
  heard : Nat → Option (UInt8 × Nat)

def History.init : History := ⟨.init, fun _ => false, fun _ => none⟩

inductive Event where
  | call (call : AddressCall)
  | lock (ref : Nat)
  | unlock (ref : Nat)
  | frame (hdr : ZbApsHdr)
  | tick

/-- The slot of the source: it has one or is given one. -/
def slotOf (s : DupState) (hdr : ZbApsHdr) : Option Nat :=
  match zbAddressByShort hdr.srcAddr true false s.addr with
  | some (_, .ok ref) => some ref
  | _ => none

/-- The duplicate check rejects the frame. -/
def rejected (s : DupState) (hdr : ZbApsHdr) : Bool :=
  match apsCheckDups hdr.srcAddr hdr.apsCounter s with
  | some (_, isDup) => isDup
  | none => false

def History.isUsed (h : History) (r : Nat) : Bool := (h.dup.addr.addrMap r).used

/-- The address table has changed. -/
def History.setAddr (h : History) (addr : ZbAddrGlobals) : History where
  dup := { h.dup with addr }
  fresh r := (addr.addrMap r).used && (h.fresh r || !h.isUsed r)
  heard := h.heard

/-- A frame has come for a slot. -/
def History.hear (h : History) (dup : DupState) (apsCounter : UInt8) : Option Nat → History
  | some ref =>
      { dup
        fresh := Function.update h.fresh ref false
        heard := Function.update h.heard ref (some (apsCounter, 0)) }
  | none => { h with dup }

/-- The alarm has run. -/
def History.age (h : History) (dup : DupState) : History where
  dup
  fresh := h.fresh
  heard r := if h.isUsed r then (h.heard r).map fun last => (last.1, last.2 + 1) else h.heard r

def eventStep (h : History) : Event → Option History
  | .call call => (addressStep h.dup.addr call).map h.setAddr
  | .lock ref => (zbAddressLock ref h.dup.addr).map h.setAddr
  | .unlock ref => (zbAddressUnlock ref h.dup.addr).map h.setAddr
  | .frame hdr =>
      (apsStep h.dup (.frame hdr)).map fun dup => h.hear dup hdr.apsCounter (slotOf h.dup hdr)
  | .tick => (apsStep h.dup .tick).map h.age

/-- The calls are those the interface asks for; frames come as they will. -/
def DocumentedEvent (h : History) : Event → Prop
  | .call call => Documented h.dup.addr call
  | _ => True

/-- A frame that comes for the slot is the first one since its entry was made, by the frame
itself or before. -/
def First (h : History) (ref : Nat) : Prop := h.isUsed ref = false ∨ h.fresh ref = true

/-- **The first frame of a device is not rejected.** -/
def FirstPassed (h : History) : Event → Prop
  | .frame hdr => ∀ ref ∈ slotOf h.dup hdr, First h ref → rejected h.dup hdr = false
  | _ => True

/-- What the slot heard last, from whichever device it was, had another counter, or is three
ticks old. -/
def SlotForgot (h : History) : Event → Prop
  | .frame hdr => ∀ ref ∈ slotOf h.dup hdr, First h ref → ∀ last ∈ h.heard ref,
      last.1 ≠ hdr.apsCounter ∨ 3 ≤ last.2
  | _ => True

section Decide

variable (h : History)

instance : (event : Event) → Decidable (DocumentedEvent h event)
  | .call call => inferInstanceAs (Decidable (Documented h.dup.addr call))
  | .lock _ | .unlock _ | .frame _ | .tick => isTrue trivial

instance (ref : Nat) : Decidable (First h ref) := inferInstanceAs (Decidable (_ ∨ _))

instance : (event : Event) → Decidable (FirstPassed h event)
  | .frame hdr => inferInstanceAs (Decidable (∀ ref ∈ slotOf h.dup hdr, _ → _))
  | .call _ | .lock _ | .unlock _ | .tick => isTrue trivial

instance : (event : Event) → Decidable (SlotForgot h event)
  | .frame hdr => inferInstanceAs (Decidable (∀ ref ∈ slotOf h.dup hdr, _ → ∀ last ∈ h.heard ref, _))
  | .call _ | .lock _ | .unlock _ | .tick => isTrue trivial

end Decide

/-! ## The duplicate check -/

section Checks

variable {s t : DupState} {hdr : ZbApsHdr} {ref : Nat}

theorem slotOf_eq_some (slot : slotOf s hdr = some ref) :
    ∃ g, zbAddressByShort hdr.srcAddr true false s.addr = some (g, .ok ref) := by
  simp only [slotOf] at slot
  split at slot
  · rename_i g ref' looked
    cases slot
    exact ⟨g, looked⟩
  · cases slot

/-- The check compares with what is in the slot. -/
theorem rejected_eq (slot : slotOf s hdr = some ref) :
    rejected s hdr = (s.apsDupClock ref != 0 && s.apsDupCounter ref == hdr.apsCounter) := by
  obtain ⟨g, looked⟩ := slotOf_eq_some slot
  simp [rejected, apsCheckDups, looked]

/-- A frame writes its counter into the slot of its source, and into no other. -/
theorem frame_slot (taken : apsStep s (.frame hdr) = some t) :
    (∃ ret, zbAddressByShort hdr.srcAddr true false s.addr = some (t.addr, ret)) ∧
      ((∃ ref, slotOf s hdr = some ref ∧
          t.apsDupCounter = Function.update s.apsDupCounter ref hdr.apsCounter ∧
          t.apsDupClock = Function.update s.apsDupClock ref 3) ∨
        slotOf s hdr = none ∧ t.apsDupCounter = s.apsDupCounter ∧
          t.apsDupClock = s.apsDupClock) := by
  rcases frame_spec taken with ⟨g, ref, looked, rfl, counters, clocks⟩ |
    ⟨g, ret, looked, rfl, counters, clocks⟩
  · refine ⟨⟨_, looked⟩, .inl ⟨ref, ?_, counters, clocks⟩⟩
    simp [slotOf, looked]
  · refine ⟨⟨_, looked⟩, .inr ⟨?_, counters, clocks⟩⟩
    simp [slotOf, looked]

/-- When the scan has passed as many entries as are counted, none in use is left. -/
theorem unused_of_passed {g : ZbAddrGlobals} {i n r : Nat} (counted : Counted g)
    (passed : n = occupied (uses g) i) (all : ¬ n < g.nElements) (ahead : i ≤ r) :
    ¬ (g.addrMap r).used = true := by
  intro used
  have more := occupied_lt ahead (counted.inside r used) (uses_of_used used)
  rw [← passed, ← counted.count] at more
  exact all more

/-- **The alarm** lowers the clocks of the entries in use, all of them: the scan stops
when it has passed as many as there are. -/
theorem checkTimerScan_clocks {fuel i n : Nat} (counted : Counted s.addr)
    (passed : n = occupied (uses s.addr) i) (scanned : checkTimerScan fuel i n s = some t) (r : Nat)
    (ahead : i ≤ r) :
    t.apsDupClock r =
      if (s.addr.addrMap r).used then s.apsDupClock r - 1 else s.apsDupClock r := by
  induction fuel generalizing i n s with
  | zero =>
      rw [checkTimerScan] at scanned
      split at scanned
      · cases scanned
      · rename_i all
        cases scanned
        rw [if_neg (unused_of_passed counted passed all ahead)]
  | succ fuel ih =>
      rw [checkTimerScan] at scanned
      split at scanned
      · dsimp only at scanned
        split at scanned
        · rename_i used
          have passed' : n + 1 = occupied (uses s.addr) (i + 1) := by
            simp [occupied, uses_of_used used, passed]
          obtain ⟨-, -, clocks⟩ := checkTimerScan_spec scanned
          rcases Nat.lt_or_eq_of_le ahead with later | rfl
          · have lowered := ih (s := { s with
                apsDupClock := Function.update s.apsDupClock i (s.apsDupClock i - 1)
                dupsAlarmRunning := s.dupsAlarmRunning || s.apsDupClock i - 1 != 0 })
              counted passed' scanned later
            simp only [Function.update_of_ne (Nat.ne_of_gt later)] at lowered
            exact lowered
          · have kept := (clocks i).1 (Nat.lt_succ_self i)
            simp only [Function.update_self] at kept
            rw [kept, if_pos used]
        · rename_i unused
          have free : (s.addr.addrMap i).used = false := Bool.eq_false_iff.2 unused
          have passed' : n = occupied (uses s.addr) (i + 1) := by
            simp [occupied, uses_of_free free, passed]
          obtain ⟨-, -, clocks⟩ := checkTimerScan_spec scanned
          rcases Nat.lt_or_eq_of_le ahead with later | rfl
          · exact ih counted passed' scanned later
          · rw [(clocks i).1 (Nat.lt_succ_self i), if_neg unused]
      · rename_i all
        cases scanned
        rw [if_neg (unused_of_passed counted passed all ahead)]

end Checks

/-! ## The record -/

/-- **The counters and clocks are what the slots have heard**, a clock three less the ticks since. -/
structure Recorded (h : History) : Prop where
  counted : Counted h.dup.addr
  silent : ∀ r, h.heard r = none → h.dup.apsDupClock r = 0
  last : ∀ r counter age, h.heard r = some (counter, age) →
    h.dup.apsDupCounter r = counter ∧ h.dup.apsDupClock r = 3 - age

section Steps

variable {h h' : History} {event : Event}

theorem recorded_init : Recorded .init where
  counted := counted_init
  silent _ _ := rfl
  last r counter age impossible := by cases impossible

/-- The address table does not touch the record. -/
theorem Recorded.setAddr (recorded : Recorded h) {addr : ZbAddrGlobals} (counted : Counted addr) :
    Recorded (h.setAddr addr) where
  counted := counted
  silent := recorded.silent
  last := recorded.last

theorem recorded_frame {hdr : ZbApsHdr} {dup : DupState} (recorded : Recorded h)
    (taken : apsStep h.dup (.frame hdr) = some dup) :
    Recorded (h.hear dup hdr.apsCounter (slotOf h.dup hdr)) := by
  obtain ⟨⟨ret, looked⟩, heard⟩ := frame_slot taken
  have counted : Counted dup.addr := counted_byShort recorded.counted looked
  rcases heard with ⟨ref, slot, counters, clocks⟩ | ⟨slot, counters, clocks⟩
  · rw [slot]
    refine ⟨counted, fun r none_ => ?_, fun r counter age some_ => ?_⟩
    · simp only [History.hear] at none_ ⊢
      by_cases here : r = ref
      · rw [here, Function.update_self] at none_
        cases none_
      · rw [Function.update_of_ne here] at none_
        rw [clocks, Function.update_of_ne here]
        exact recorded.silent r none_
    · simp only [History.hear] at some_ ⊢
      rw [counters, clocks]
      by_cases here : r = ref
      · subst here
        rw [Function.update_self] at some_
        cases some_
        rw [Function.update_self, Function.update_self]
        exact ⟨rfl, rfl⟩
      · rw [Function.update_of_ne here] at some_
        rw [Function.update_of_ne here, Function.update_of_ne here]
        exact recorded.last r counter age some_
  · rw [slot]
    refine ⟨counted, fun r none_ => ?_, fun r counter age some_ => ?_⟩
    · exact (congrFun clocks r).trans (recorded.silent r none_)
    · obtain ⟨same, clock⟩ := recorded.last r counter age some_
      exact ⟨(congrFun counters r).trans same, (congrFun clocks r).trans clock⟩

theorem recorded_tick {dup : DupState} (recorded : Recorded h)
    (taken : apsStep h.dup .tick = some dup) : Recorded (h.age dup) := by
  obtain ⟨addr, counters, -⟩ := checkTimerScan_spec taken
  have clocks : ∀ r, dup.apsDupClock r =
      if h.isUsed r then h.dup.apsDupClock r - 1 else h.dup.apsDupClock r := fun r =>
    checkTimerScan_clocks (s := { h.dup with dupsAlarmRunning := false }) recorded.counted rfl taken r
      (Nat.zero_le r)
  refine ⟨addr ▸ recorded.counted, fun r none_ => ?_, fun r counter age some_ => ?_⟩
  · simp only [History.age] at none_ ⊢
    rw [clocks]
    split at none_
    · rename_i used
      rw [if_pos used, recorded.silent r (Option.map_eq_none_iff.1 none_)]
    · rename_i unused
      rw [if_neg unused]
      exact recorded.silent r none_
  · simp only [History.age] at some_ ⊢
    rw [counters, clocks]
    split at some_
    · rename_i used
      obtain ⟨⟨counter', age'⟩, before, same⟩ := Option.map_eq_some_iff.1 some_
      cases same
      obtain ⟨counterIs, clockIs⟩ := recorded.last r _ _ before
      rw [if_pos used, clockIs]
      exact ⟨counterIs, Nat.sub_sub 3 age' 1⟩
    · rename_i unused
      rw [if_neg unused]
      exact recorded.last r counter age some_

/-- **Every step keeps the record.** -/
theorem recorded_step (recorded : Recorded h) (documented : DocumentedEvent h event)
    (taken : eventStep h event = some h') : Recorded h' := by
  cases event with
  | call call =>
      obtain ⟨addr, called, rfl⟩ := Option.map_eq_some_iff.1 taken
      exact recorded.setAddr (counted_step recorded.counted documented called)
  | lock ref =>
      obtain ⟨addr, locked, rfl⟩ := Option.map_eq_some_iff.1 taken
      exact recorded.setAddr (recorded.counted.of_table (zbAddressLock_table locked))
  | unlock ref =>
      obtain ⟨addr, unlocked, rfl⟩ := Option.map_eq_some_iff.1 taken
      exact recorded.setAddr (recorded.counted.of_table (zbAddressUnlock_table unlocked))
  | frame hdr =>
      obtain ⟨dup, checked, rfl⟩ := Option.map_eq_some_iff.1 taken
      exact recorded_frame recorded checked
  | tick =>
      obtain ⟨dup, ticked, rfl⟩ := Option.map_eq_some_iff.1 taken
      exact recorded_tick recorded ticked

/-- A frame is rejected when the slot has not forgotten its counter. -/
theorem rejected_iff {hdr : ZbApsHdr} {ref : Nat} (recorded : Recorded h)
    (slot : slotOf h.dup hdr = some ref) :
    rejected h.dup hdr = false ↔ ∀ last ∈ h.heard ref, last.1 ≠ hdr.apsCounter ∨ 3 ≤ last.2 := by
  rw [rejected_eq slot]
  cases heard : h.heard ref with
  | none => simp [recorded.silent ref heard]
  | some last =>
      obtain ⟨counter, age⟩ := last
      obtain ⟨counterIs, clockIs⟩ := recorded.last ref counter age heard
      rw [counterIs, clockIs]
      simp only [Option.mem_def, Option.some.injEq, forall_eq', Bool.and_eq_false_iff,
        bne_eq_false_iff_eq, beq_eq_false_iff_ne, Nat.sub_eq_zero_iff_le]
      exact or_comm

theorem firstPassed_iff (recorded : Recorded h) : FirstPassed h event ↔ SlotForgot h event := by
  cases event with
  | frame hdr =>
      refine forall₂_congr fun ref slot => ?_
      rw [rejected_iff recorded slot]
  | call | lock | unlock | tick => exact Iff.rfl

end Steps

/-- **First frames pass exactly when their slots have forgotten**: in every run, of calls to the
address table, frames and ticks in any order. -/
theorem firstFrames_iff (events : List Event)
    (documented : Along eventStep DocumentedEvent .init events) :
    Along eventStep FirstPassed .init events ↔ Along eventStep SlotForgot .init events := by
  have keeps (good : History → Event → Prop) (h : History) (event : Event) (h' : History)
      (recorded : Recorded h) (both : DocumentedEvent h event ∧ good h event)
      (taken : eventStep h event = some h') : Recorded h' :=
    recorded_step recorded both.1 taken
  constructor
  · intro passed
    refine along_of_invariant (keeps FirstPassed) ?_ recorded_init (documented.and passed)
    exact fun h event recorded both => (firstPassed_iff recorded).1 both.2
  · intro forgot
    refine along_of_invariant (keeps SlotForgot) ?_ recorded_init (documented.and forgot)
    exact fun h event recorded both => (firstPassed_iff recorded).2 both.2

/-- A device is heard, leaves the table, and another one is given its slot and heard. -/
def reusedSlot (apsCounter : UInt8) : List Event :=
  [.frame ⟨0, 1, 7⟩, .call (.delete 0), .call (.byShort 2 true false), .frame ⟨0, 2, apsCounter⟩]

theorem firstFrames_otherCounter : Along eventStep FirstPassed .init (reusedSlot 8) := by
  have met : Along eventStep DocumentedEvent .init (reusedSlot 8) ∧
      Along eventStep SlotForgot .init (reusedSlot 8) := by decide +kernel
  exact (firstFrames_iff (reusedSlot 8) met.1).2 met.2

/-- **The first frame of a device is rejected** for the counter of the device before it. -/
theorem reused_slot_rejects :
    ¬ ∀ events, Along eventStep DocumentedEvent .init events →
      Along eventStep FirstPassed .init events := by
  intro always
  have fails : Along eventStep DocumentedEvent .init (reusedSlot 7) ∧
      ¬ Along eventStep FirstPassed .init (reusedSlot 7) := by decide +kernel
  exact fails.2 (always (reusedSlot 7) fails.1)

end Zboss.Aps.FreshEntry
