/-
# Aps.AgingTimer -- the alarm that ages the duplicates

`zb_aps_check_timer_cb` goes through the address table until it has met as many entries in use as
`nElements` counts, and does not look where the table ends.  So it does what it should wherever the
count is right (`timer_right`).

* `checkTimerScan_eq`: the alarm ages the entries that it visits, one after the other;
* `checkTimerVisits_eq`: with a right count these are the entries in use, each once, and the scan
  ends inside the table;
* `timer_right_of_run`: the count is right along every run in which nothing but an entry in use is
  deleted, and no entry loses its short address (`CountKept`).

Pole: `zb_address_update` lists an entry whose short address it takes away; the entry stays listed
when it is deleted, and is deleted again.
-/
import Mathlib
import Zboss.Aps.FreshEntry

namespace Zboss.Aps.AgingTimer

open Zboss.Theory.Run
open Zboss.Theory.Directory
open Zboss.Common.Types
open Zboss.Common.Address
open Zboss.Common.AddressIndex
open Zboss.Common.AddressPairs
open Zboss.Common.AddressRun
open Zboss.Common.AddressHolds
open Zboss.Common.AddressCount
open Zboss.Aps.Dups
open Zboss.Aps.FreshEntry

set_option autoImplicit false

/-! ## What the alarm visits -/

/-- The entries in use that the scan meets from `i` on, `n` being behind; reading on behind the
table is a stop. -/
def checkTimerVisits : Nat → Nat → Nat → ZbAddrGlobals → Option (List Nat)
  | fuel, i, n, g =>
      if n < g.nElements then
        match fuel with
        | 0 => none
        | fuel + 1 =>
            if (g.addrMap i).used then (checkTimerVisits fuel (i + 1) (n + 1) g).map (i :: ·)
            else checkTimerVisits fuel (i + 1) n g
      else some []

/-- One entry is visited. -/
def ageOne (s : DupState) (i : Nat) : DupState :=
  { s with
    apsDupClock := Function.update s.apsDupClock i (s.apsDupClock i - 1)
    dupsAlarmRunning := s.dupsAlarmRunning || s.apsDupClock i - 1 != 0 }

/-- A record is live while its entry is in use and its clock runs. -/
def Live (s : DupState) (r : Nat) : Prop :=
  (s.addr.addrMap r).used = true ∧ s.apsDupClock r ≠ 0

/-- What the alarm should do. -/
structure Aged (s t : DupState) (visited : List Nat) : Prop where
  once : visited.Nodup
  every : ∀ r, r ∈ visited ↔ (s.addr.addrMap r).used = true
  inside : ∀ r ∈ visited, r < zbIeeeAddrTableSize
  aged : ∀ r, t.apsDupClock r =
    if (s.addr.addrMap r).used then s.apsDupClock r - 1 else s.apsDupClock r
  kept : t.addr = s.addr ∧ t.apsDupCounter = s.apsDupCounter
  again : t.dupsAlarmRunning = true ↔ ∃ r, Live t r

/-- It ends, and has done so. -/
def TimerRight (s : DupState) : Prop :=
  ∃ visited t, checkTimerVisits zbIeeeAddrTableSize 0 0 s.addr = some visited ∧
    zbApsCheckTimerCb s = some t ∧ Aged s t visited

section Visits

variable {s : DupState} {g : ZbAddrGlobals} {fuel i n : Nat}

/-- **The alarm ages what it visits.** -/
theorem checkTimerScan_eq :
    checkTimerScan fuel i n s =
      (checkTimerVisits fuel i n s.addr).map fun visited => visited.foldl ageOne s := by
  induction fuel generalizing i n s with
  | zero =>
      rw [checkTimerScan, checkTimerVisits]
      split <;> rfl
  | succ fuel ih =>
      rw [checkTimerScan, checkTimerVisits]
      by_cases more : n < s.addr.nElements
      · rw [if_pos more, if_pos more]
        dsimp only
        cases used : (s.addr.addrMap i).used with
        | true =>
            rw [if_pos rfl, if_pos rfl, ih, Option.map_map]
            rfl
        | false =>
            rw [if_neg Bool.false_ne_true, if_neg Bool.false_ne_true, ih]
      · rw [if_neg more, if_neg more]
        rfl

/-- **With a right count** the scan visits the entries in use that are left, and ends. -/
theorem checkTimerVisits_eq (counted : Counted g) (passed : n = occupied (uses g) i)
    (rest : i + fuel = zbIeeeAddrTableSize) :
    checkTimerVisits fuel i n g =
      some ((List.range' i fuel).filter fun r => (g.addrMap r).used) := by
  induction fuel generalizing i n with
  | zero =>
      have count := counted.count
      rw [Nat.add_zero] at rest
      rw [checkTimerVisits, if_neg (by rw [passed, rest, ← count]; exact Nat.lt_irrefl _)]
      rfl
  | succ fuel ih =>
      rw [checkTimerVisits]
      by_cases more : n < g.nElements
      · rw [if_pos more, List.range'_succ]
        cases used : (g.addrMap i).used with
        | true =>
            have passed' : n + 1 = occupied (uses g) (i + 1) := by
              simp [occupied, uses_of_used used, passed]
            rw [if_pos rfl, ih passed' (by omega),
              List.filter_cons_of_pos (p := fun r => (g.addrMap r).used) used]
            rfl
        | false =>
            have passed' : n = occupied (uses g) (i + 1) := by
              simp [occupied, uses_of_free used, passed]
            rw [if_neg Bool.false_ne_true, ih passed' (by omega),
              List.filter_cons_of_neg (p := fun r => (g.addrMap r).used)
                (by rw [used]; exact Bool.false_ne_true)]
      · -- as many as there are have been passed
        rw [if_neg more, List.filter_eq_nil_iff.2]
        intro r mem
        exact unused_of_passed counted passed more (List.mem_range'_1.1 mem).1

end Visits

section Ages

variable {s : DupState} {visited : List Nat}

theorem foldl_ageOne_kept :
    (visited.foldl ageOne s).addr = s.addr ∧
      (visited.foldl ageOne s).apsDupCounter = s.apsDupCounter := by
  induction visited generalizing s with
  | nil => exact ⟨rfl, rfl⟩
  | cons i visited ih => exact ih

/-- What is not visited keeps its clock, -/
theorem clock_of_notMem {r : Nat} (absent : r ∉ visited) :
    (visited.foldl ageOne s).apsDupClock r = s.apsDupClock r := by
  induction visited generalizing s with
  | nil => rfl
  | cons i visited ih =>
      rw [List.mem_cons, not_or] at absent
      rw [List.foldl_cons, ih absent.2]
      exact Function.update_of_ne absent.1 _ _

/-- and what is visited once goes down by one. -/
theorem clock_of_mem {r : Nat} (once : visited.Nodup) (mem : r ∈ visited) :
    (visited.foldl ageOne s).apsDupClock r = s.apsDupClock r - 1 := by
  induction visited generalizing s with
  | nil => cases mem
  | cons i visited ih =>
      obtain ⟨fresh, once⟩ := List.nodup_cons.1 once
      rw [List.foldl_cons]
      rcases List.mem_cons.1 mem with rfl | later
      · rw [clock_of_notMem fresh]
        exact Function.update_self ..
      · have ne : r ≠ i := by
          rintro rfl
          exact fresh later
        rw [ih once later]
        exact congrArg (· - 1) (Function.update_of_ne ne _ _)

/-- The flag is set by a clock that still runs. -/
theorem running_iff (once : visited.Nodup) :
    (visited.foldl ageOne s).dupsAlarmRunning = true ↔
      s.dupsAlarmRunning = true ∨ ∃ r ∈ visited, s.apsDupClock r - 1 ≠ 0 := by
  induction visited generalizing s with
  | nil => simp
  | cons i visited ih =>
      obtain ⟨fresh, once⟩ := List.nodup_cons.1 once
      have later : (∃ r ∈ visited, (ageOne s i).apsDupClock r - 1 ≠ 0) ↔
          ∃ r ∈ visited, s.apsDupClock r - 1 ≠ 0 := by
        refine exists_congr fun r => and_congr_right fun mem => ?_
        have ne : r ≠ i := by
          rintro rfl
          exact fresh mem
        rw [show (ageOne s i).apsDupClock r = s.apsDupClock r from Function.update_of_ne ne _ _]
      have first : (ageOne s i).dupsAlarmRunning = true ↔
          s.dupsAlarmRunning = true ∨ s.apsDupClock i - 1 ≠ 0 := by
        rw [ageOne, Bool.or_eq_true, bne_iff_ne]
      rw [List.foldl_cons, ih once, later, first, or_assoc]
      simp only [List.mem_cons, exists_eq_or_imp]

/-- **The alarm is right wherever the count is.** -/
theorem timer_right (counted : Counted s.addr) : TimerRight s := by
  have visits : checkTimerVisits zbIeeeAddrTableSize 0 0 s.addr = _ :=
    checkTimerVisits_eq counted rfl (Nat.zero_add _)
  generalize defined : (List.range' 0 zbIeeeAddrTableSize).filter
    (fun r => (s.addr.addrMap r).used) = visited at visits
  have once : visited.Nodup := by
    rw [← defined]
    exact (List.nodup_range').filter _
  have every (r : Nat) : r ∈ visited ↔ (s.addr.addrMap r).used = true := by
    rw [← defined, List.mem_filter, List.mem_range'_1]
    exact and_iff_right_of_imp fun used =>
      ⟨Nat.zero_le r, (Nat.zero_add zbIeeeAddrTableSize).symm ▸ counted.inside r used⟩
  have ran : zbApsCheckTimerCb s =
      some (visited.foldl ageOne { s with dupsAlarmRunning := false }) := by
    rw [zbApsCheckTimerCb, checkTimerScan_eq, visits]
    rfl
  refine ⟨visited, _, visits, ran, ?_⟩
  obtain ⟨addr, counters⟩ :=
    @foldl_ageOne_kept { s with dupsAlarmRunning := false } visited
  refine ⟨once, every, fun r mem => counted.inside r ((every r).1 mem), fun r => ?_,
    ⟨addr, counters⟩, ?_⟩
  · by_cases used : (s.addr.addrMap r).used = true
    · rw [if_pos used, clock_of_mem once ((every r).2 used)]
    · rw [if_neg used, clock_of_notMem fun mem => used ((every r).1 mem)]
  · rw [running_iff once]
    simp only [Bool.false_eq_true, false_or]
    refine exists_congr fun r => ?_
    rw [Live, addr, ← every r]
    refine and_congr_right fun mem => ?_
    rw [clock_of_mem once mem]

end Ages

/-! ## The count along a run -/

/-- The entry that has a long address. -/
def longFound (ieee : ZbIeeeAddr) (g : ZbAddrGlobals) : Option Nat := do
  let (g, code) ← zbIeeeAddrCompress ieee g
  ieeeSearch g code

/-- What keeps the count right: only an entry in use is deleted, and the empty short address is
given to an entry that has no other. -/
def CountKept (g : ZbAddrGlobals) : AddressCall → Prop
  | .update ieee shortAddress _ => shortAddress = zbUnknownShortAddr →
      ∀ ref ∈ longFound ieee g, (g.addrMap ref).addr = zbUnknownShortAddr
  | .delete ref => (g.addrMap ref).used = true
  | .byIeee _ _ _ | .byShort _ _ _ => True

def EventKept (h : History) : Event → Prop
  | .call call => CountKept h.dup.addr call
  | .lock _ | .unlock _ | .frame _ | .tick => True

instance (g : ZbAddrGlobals) : (call : AddressCall) → Decidable (CountKept g call)
  | .update ieee shortAddress _ => inferInstanceAs (Decidable (shortAddress = zbUnknownShortAddr →
      ∀ ref ∈ longFound ieee g, (g.addrMap ref).addr = zbUnknownShortAddr))
  | .delete ref => inferInstanceAs (Decidable ((g.addrMap ref).used = true))
  | .byIeee _ _ _ | .byShort _ _ _ => isTrue trivial

instance (h : History) : (event : Event) → Decidable (EventKept h event)
  | .call call => inferInstanceAs (Decidable (CountKept h.dup.addr call))
  | .lock _ | .unlock _ | .frame _ | .tick => isTrue trivial

section Calls

variable {g g' : ZbAddrGlobals} {ref : Nat} {code : ZbIeeeAddrCompressed} {ieee : ZbIeeeAddr}
  {a : UInt16} {lock : Bool} {res : Except ZbRet Nat} {call : AddressCall}

/-- No entry is listed under the empty address. -/
theorem shortSearch_unknown (ok : Listing g) : shortSearch g zbUnknownShortAddr = none := by
  cases found : shortSearch g zbUnknownShortAddr with
  | none => rfl
  | some ref =>
      obtain ⟨mem, same⟩ := shortSearch_eq_some found
      exact absurd same (ok.listed ref mem).2

/-- An entry that keeps its short address stays in its place. -/
theorem listing_setPair_same (ok : Listing g) (same : (g.addrMap ref).addr = a)
    (taken : setPair ref code a g = some g') : Listing g' := by
  simp only [setPair, Option.bind_eq_bind, Option.bind_eq_some_iff] at taken
  obtain ⟨g₁, relisted, done⟩ := taken
  cases done
  have coded : Listing (g.setEnt ref fun ent => { ent with ieeeAddr := code }) :=
    listing_setEnt ok (ok.listed ref)
  rw [relist, if_neg (by rw [setEnt_self]; exact not_not.2 same)] at relisted
  cases relisted
  exact listing_setEnt coded (coded.listed ref)

/-- Giving the empty address to an entry that has no other one, or to a new one. -/
theorem occupancy_update_unknown (ok : Listing g)
    (only : ∀ ref ∈ longFound ieee g, (g.addrMap ref).addr = zbUnknownShortAddr)
    (taken : zbAddressUpdate ieee zbUnknownShortAddr lock g = some (g', res)) :
    Listing g' ∧ Occupancy g g' := by
  obtain ⟨g₁, code, g₂, found, compressed, resolved, written⟩ := zbAddressUpdate_cases taken
  have entered : SameUse g g₁ := sameUse_compress compressed
  have ok₁ : Listing g₁ := (calm_compress compressed).listing ok
  have ents : g₁.addrMap = g.addrMap := (zbIeeeAddrCompress_frame compressed).1
  have long : longFound ieee g = ieeeSearch g₁ code := by
    rw [longFound, compressed]
    rfl
  have same : g₂ = g₁ ∧ found = ieeeSearch g₁ code := by
    rw [shortSearch_unknown ok₁] at resolved
    cases there : ieeeSearch g₁ code with
    | none =>
        rw [there] at resolved
        cases resolved
        exact ⟨rfl, rfl⟩
    | some ref =>
        rw [there] at resolved
        cases resolved
        exact ⟨rfl, rfl⟩
  obtain ⟨rfl, rfl⟩ := same
  rcases written with ⟨ref, g₃, hit, set, tables, -⟩ | ⟨-, g₃, added, tables⟩
  · have empty : (g₂.addrMap ref).addr = zbUnknownShortAddr := by
      rw [ents]
      exact only ref (long.trans hit)
    have ok₃ : Listing g₃ := listing_setPair_same ok₁ empty set
    exact ⟨listing_of_table tables ok₃,
      .same (entered.trans ((sameUse_setPair set).trans (sameUse_of_table tables)))⟩
  · obtain ⟨ok₃, done⟩ := occupancy_addrAdd ok₁ added
    exact ⟨listing_of_table tables ok₃,
      (entered.trans_occupancy done).trans_same (sameUse_of_table tables)⟩

/-- **One call keeps the count right.** -/
theorem counted_call (counted : Counted g) (kept : CountKept g call)
    (taken : addressStep g call = some g') : Counted g' := by
  have done : Listing g' ∧ Occupancy g g' := by
    cases call with
    | byIeee ieee create lock =>
        obtain ⟨⟨g', res⟩, called, rfl⟩ := Option.map_eq_some_iff.1 taken
        exact occupancy_byIeee counted.listing called
    | byShort shortAddress create lock =>
        obtain ⟨⟨g', res⟩, called, rfl⟩ := Option.map_eq_some_iff.1 taken
        exact occupancy_byShort counted.listing called
    | update ieee shortAddress lock =>
        obtain ⟨⟨g', res⟩, called, rfl⟩ := Option.map_eq_some_iff.1 taken
        by_cases short : shortAddress = zbUnknownShortAddr
        · subst short
          exact occupancy_update_unknown counted.listing (kept rfl) called
        · exact occupancy_update counted.listing short called
    | delete ref =>
        cases taken
        exact ⟨listing_zbAddressDelete counted.listing ref, occupancy_delete kept⟩
  exact counted.of_occupancy done.1 done.2

end Calls

/-- **Every event keeps the count right**, the alarm too. -/
theorem counted_event {h h' : History} {event : Event} (counted : Counted h.dup.addr)
    (kept : EventKept h event) (taken : eventStep h event = some h') : Counted h'.dup.addr := by
  cases event with
  | call call =>
      obtain ⟨addr, called, rfl⟩ := Option.map_eq_some_iff.1 taken
      exact counted_call counted kept called
  | lock ref =>
      obtain ⟨addr, locked, rfl⟩ := Option.map_eq_some_iff.1 taken
      exact counted.of_table (zbAddressLock_table locked)
  | unlock ref =>
      obtain ⟨addr, unlocked, rfl⟩ := Option.map_eq_some_iff.1 taken
      exact counted.of_table (zbAddressUnlock_table unlocked)
  | frame hdr =>
      obtain ⟨dup, checked, rfl⟩ := Option.map_eq_some_iff.1 taken
      obtain ⟨⟨ret, looked⟩, -⟩ := frame_slot checked
      have same : (h.hear dup hdr.apsCounter (slotOf h.dup hdr)).dup = dup := by
        cases slotOf h.dup hdr <;> rfl
      rw [same]
      exact counted_byShort counted looked
  | tick =>
      obtain ⟨dup, ticked, rfl⟩ := Option.map_eq_some_iff.1 taken
      obtain ⟨addr, -⟩ := checkTimerScan_spec ticked
      exact addr ▸ counted

/-- **The alarm is right in every state reached**, as long as the calls keep the count. -/
theorem timer_right_of_run {events : List Event} {h : History}
    (along : Along eventStep EventKept .init events) (ran : run eventStep .init events = some h) :
    TimerRight h.dup :=
  timer_right (run_invariant (fun _ _ _ counted kept taken => counted_event counted kept taken)
    counted_init along ran)

/-- A device is heard, and its alarm runs; another one is known by its long address alone. -/
def heardAndAged : List Event :=
  [.frame ⟨0, 1, 7⟩, .call (.update someDevice zbUnknownShortAddr false), .tick]

theorem timer_right_heardAndAged :
    ∃ h, run eventStep .init heardAndAged = some h ∧ TimerRight h.dup :=
  have ran := (Option.some_get (x := run eventStep .init heardAndAged) (by decide +kernel)).symm
  ⟨_, ran, timer_right_of_run (by decide +kernel) ran⟩

def anotherDevice : ZbIeeeAddr := #v[1, 2, 3, 4, 5, 6, 7, 10]

/-- A device gives its short address up, takes another one and leaves; a second device takes the
address that has become free. -/
def addressGivenUp : List Event :=
  [.call (.update someDevice 5 false), .call (.update someDevice zbUnknownShortAddr false),
    .call (.update someDevice 7 false), .call (.delete 82),
    .call (.update anotherDevice 9 false), .call (.update anotherDevice 7 false)]

/-- Nothing but an entry in use is deleted by its reference. -/
def UsedDeleted (h : History) : Event → Prop
  | .call (.delete ref) => (h.dup.addr.addrMap ref).used = true
  | _ => True

instance (h : History) : (event : Event) → Decidable (UsedDeleted h event)
  | .call (.delete ref) => inferInstanceAs (Decidable ((h.dup.addr.addrMap ref).used = true))
  | .call (.byIeee _ _ _) | .call (.byShort _ _ _) | .call (.update _ _ _) | .lock _ | .unlock _
  | .frame _ | .tick => isTrue trivial

/-- **An entry is not visited**: the one that was deleted is deleted again by the update, so that
none is counted, and the second device is in use. -/
theorem entry_not_visited :
    ¬ ∀ (events : List Event) (h : History), Along eventStep UsedDeleted .init events →
      run eventStep .init events = some h → TimerRight h.dup := by
  intro always
  have after : (run eventStep .init addressGivenUp).map (fun h =>
      (h.dup.addr.nElements, h.isUsed 84)) = some (0, true) := by decide +kernel
  obtain ⟨h, ran, left⟩ := Option.map_eq_some_iff.1 after
  simp only [Prod.mk.injEq] at left
  obtain ⟨visited, t, visits, -, aged⟩ := always _ h (by decide +kernel) ran
  unfold checkTimerVisits at visits
  rw [if_neg (by rw [left.1]; exact Nat.lt_irrefl 0)] at visits
  cases visits
  exact List.not_mem_nil ((aged.every 84).2 left.2)

end Zboss.Aps.AgingTimer
