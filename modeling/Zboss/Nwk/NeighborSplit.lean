/-
# Nwk.NeighborSplit -- how the memory of the neighbour table is cut and regrown

`zb_nwk_exneighbor_start` packs the entries to the left and puts the records of the scan behind
them; `zb_nwk_exneighbor_stop` makes entries of the records while it reads them.  The table may have
any size of eight bits, and any pattern of entries and holes.

* The packing counts a hole off for every entry it moves, though the entry leaves one behind: it
  packs one entry behind a hole, and no more (`packed_iff`).
* The byte where the records begin, and the number of their bytes, are kept in eight bits
  (`split_iff`).

`SplitRight` is what is claimed; `split_iff` says when it holds, for every table.

Pole: `two_behind_holes`, two holes with two entries behind them.
-/
import Mathlib
import Zboss.Common.Constants
import Zboss.Theory.BackIndex
import Zboss.Nwk.NeighborIndex

namespace Zboss.Nwk.NeighborSplit

open Zboss.Common.Constants
open Zboss.Theory.BackIndex
open Zboss.Common.Types
open Zboss.Common.Address
open Zboss.Nwk.Neighbor
open Zboss.Nwk.Forget
open Zboss.Nwk.NeighborIndex
open Zboss.Zdo.DeviceInfo

set_option autoImplicit false

/-! ## The packing -/

/-- **When the packing is right**: the entries in use are the first `baseNeighborUsed`, or all but
the last of these and one further on. -/
def PacksRight (t : ZbNeighborTbl) : Prop :=
  (∀ i < t.baseNeighborSize, (t.baseNeighbor i).used = true ↔ i < t.baseNeighborUsed) ∨
    ∃ e < t.baseNeighborSize, t.baseNeighborUsed ≤ e ∧ 0 < t.baseNeighborUsed ∧
      ∀ i < t.baseNeighborSize,
        (t.baseNeighbor i).used = true ↔ i + 1 < t.baseNeighborUsed ∨ i = e

section Packing

variable {t : ZbNeighborTbl} {p : Packing} {a e g i n left c h : Nat}

/-- All that are handed out were seen. -/
theorem packFrom_done (all : p.neighbor.baseNeighborUsed ≤ p.used) : packFrom left i p = p := by
  cases left with
  | zero => rfl
  | succ left => rw [packFrom, if_neg (Nat.not_lt.2 all)]

/-- Past entries in use, before any hole. -/
theorem packFrom_inUse (on : ∀ j, i ≤ j → j < i + n → (t.baseNeighbor j).used = true)
    (few : c + n ≤ t.baseNeighborUsed) :
    packFrom (n + left) i ⟨t, c, 0⟩ = packFrom left (i + n) ⟨t, c + n, 0⟩ := by
  induction n generalizing i c with
  | zero => rw [Nat.zero_add, Nat.add_zero, Nat.add_zero]
  | succ n ih =>
      have step : packStep i ⟨t, c, 0⟩ = ⟨t, c + 1, 0⟩ := by
        rw [packStep, if_pos (on i (by omega) (by omega)), if_neg (by simp)]
      have more : c < t.baseNeighborUsed := by omega
      rw [Nat.add_right_comm, packFrom, if_pos more, step,
        ih (fun j le lt => on j (by omega) (by omega)) (by omega), Nat.add_right_comm i,
        Nat.add_right_comm c]
      rfl

/-- Past holes. -/
theorem packFrom_holes (off : ∀ j, i ≤ j → j < i + n → (t.baseNeighbor j).used = false)
    (more : c < t.baseNeighborUsed) :
    packFrom (n + left) i ⟨t, c, h⟩ = packFrom left (i + n) ⟨t, c, h + n⟩ := by
  induction n generalizing i h with
  | zero => rw [Nat.zero_add, Nat.add_zero, Nat.add_zero]
  | succ n ih =>
      have step : packStep i ⟨t, c, h⟩ = ⟨t, c, h + 1⟩ := by
        have here := off i (by omega) (by omega)
        rw [packStep, if_neg (by simp [here])]
      rw [Nat.add_right_comm, packFrom, if_pos more, step,
        ih (fun j le lt => off j (by omega) (by omega)), Nat.add_right_comm i, Nat.add_right_comm h]
      rfl

/-- Only holes are left. -/
theorem packFrom_empty (off : ∀ j, i ≤ j → j < i + left → (p.neighbor.baseNeighbor j).used = false) :
    (packFrom left i p).neighbor = p.neighbor := by
  induction left generalizing i p with
  | zero => rfl
  | succ left ih =>
      rw [packFrom]
      split
      · have here := off i (by omega) (by omega)
        have step : packStep i p = { p with hole := p.hole + 1 } := by
          rw [packStep, if_neg (by simp [here])]
        rw [step]
        exact ih fun j le lt => off j (by omega) (by omega)
      · rfl

/-- **A place behind which the packing puts its entries stays free.** -/
theorem packFrom_gap (behind : g + p.hole < i) (free : (p.neighbor.baseNeighbor g).used = false) :
    ((packFrom left i p).neighbor.baseNeighbor g).used = false := by
  induction left generalizing i p with
  | zero => exact free
  | succ left ih =>
      rw [packFrom]
      split
      · apply ih
        · rw [packStep]
          split
          · split <;> dsimp only <;> omega
          · dsimp only
            omega
        · rw [packStep]
          split
          · split
            · dsimp only [relocate]
              rw [Function.update_of_ne (by omega), Function.update_of_ne (by omega)]
              exact free
            · exact free
          · exact free
      · exact free

/-- The entries before the counter are in use: nothing is moved. -/
theorem packBase_leading (inside : t.baseNeighborUsed ≤ t.baseNeighborSize)
    (on : ∀ j < t.baseNeighborUsed, (t.baseNeighbor j).used = true) : packBase t = t := by
  have size : t.baseNeighborSize =
      t.baseNeighborUsed + (t.baseNeighborSize - t.baseNeighborUsed) := by omega
  rw [packBase, size, packFrom_inUse (fun j _ lt => on j (by omega)) (by omega),
    packFrom_done (by dsimp only; omega)]

/-- **The first entry behind the holes goes to the first of them.** -/
theorem packBase_first (gap : a < e) (inside : e < t.baseNeighborSize)
    (handed : a < t.baseNeighborUsed)
    (before : ∀ j < a, (t.baseNeighbor j).used = true)
    (holes : ∀ j, a ≤ j → j < e → (t.baseNeighbor j).used = false)
    (on : (t.baseNeighbor e).used = true) :
    packBase t = (packFrom (t.baseNeighborSize - (e + 1)) (e + 1)
      ⟨relocate e a t, a + 1, e - a - 1⟩).neighbor := by
  have size : t.baseNeighborSize = a + ((e - a) + (t.baseNeighborSize - (e + 1) + 1)) := by omega
  have step : packStep e ⟨t, a, e - a⟩ = ⟨relocate e a t, a + 1, e - a - 1⟩ := by
    have to_ : e - (e - a) = a := by omega
    rw [packStep, if_pos on, if_pos (by dsimp only; omega)]
    dsimp only
    rw [to_]
  rw [packBase]
  conv_lhs => rw [size]
  rw [packFrom_inUse (fun j _ lt => before j (by omega)) (by omega), Nat.zero_add,
    packFrom_holes (fun j le lt => holes j le (by omega)) handed, Nat.zero_add,
    show a + (e - a) = e by omega, packFrom, if_pos handed, step]

/-- One entry is away from the first ones: it is moved to its place. -/
theorem packBase_moves (inside : e < t.baseNeighborSize) (away : t.baseNeighborUsed ≤ e)
    (some_ : 0 < t.baseNeighborUsed)
    (uses : ∀ i < t.baseNeighborSize,
      (t.baseNeighbor i).used = true ↔ i + 1 < t.baseNeighborUsed ∨ i = e) :
    packBase t = relocate e (t.baseNeighborUsed - 1) t := by
  have before : ∀ j < t.baseNeighborUsed - 1, (t.baseNeighbor j).used = true :=
    fun j lt => (uses j (by omega)).2 (.inl (by omega))
  have holes : ∀ j, t.baseNeighborUsed - 1 ≤ j → j < e → (t.baseNeighbor j).used = false := by
    intro j le lt
    rw [Bool.eq_false_iff]
    intro on
    have := (uses j (by omega)).1 on
    omega
  rw [packBase_first (by omega) inside (by omega) before holes ((uses e inside).2 (.inr rfl)),
    packFrom_done (by dsimp only [relocate]; omega)]

/-- No entry is behind a hole: nothing is moved. -/
theorem packBase_noMore (inside : a ≤ t.baseNeighborSize) (handed : a ≤ t.baseNeighborUsed)
    (before : ∀ j < a, (t.baseNeighbor j).used = true)
    (holes : ∀ j, a ≤ j → j < t.baseNeighborSize → (t.baseNeighbor j).used = false) :
    packBase t = t := by
  have size : t.baseNeighborSize = a + (t.baseNeighborSize - a) := by omega
  rw [packBase]
  conv_lhs => rw [size]
  rw [packFrom_inUse (fun j _ lt => before j (by omega)) (by omega), Nat.zero_add]
  exact packFrom_empty fun j le lt => holes j le (by omega)

/-- With entries behind holes, the second of them does not get to its place. -/
theorem packed_second (gap : a < e) (inside : e < t.baseNeighborSize)
    (handed : a < t.baseNeighborUsed)
    (before : ∀ j < a, (t.baseNeighbor j).used = true)
    (holes : ∀ j, a ≤ j → j < e → (t.baseNeighbor j).used = false)
    (on : (t.baseNeighbor e).used = true)
    (packed : ∀ i < t.baseNeighborSize,
      ((packBase t).baseNeighbor i).used = true ↔ i < t.baseNeighborUsed) :
    t.baseNeighborUsed = a + 1 := by
  rw [packBase_first gap inside handed before holes on] at packed
  have free : ((packFrom (t.baseNeighborSize - (e + 1)) (e + 1)
      ⟨relocate e a t, a + 1, e - a - 1⟩).neighbor.baseNeighbor (a + 1)).used = false := by
    apply packFrom_gap
    · dsimp only
      omega
    · dsimp only [relocate]
      by_cases next : a + 1 = e
      · rw [next, Function.update_self]
      · rw [Function.update_of_ne next, Function.update_of_ne (by omega)]
        exact holes (a + 1) (by omega) (by omega)
  by_contra more
  rw [(packed (a + 1) (by omega)).2 (by omega)] at free
  cases free

/-- The entries in use after one was moved were in use before, but for its place. -/
theorem relocate_used {i j k : Nat} (apart : k ≠ j) (off : k ≠ i) :
    ((relocate i j t).baseNeighbor k).used = (t.baseNeighbor k).used := by
  dsimp only [relocate]
  rw [Function.update_of_ne off, Function.update_of_ne apart]

/-- A hole, and no entry behind it up to a place. -/
theorem holes_from {a e : Nat} (aOff : (t.baseNeighbor a).used ≠ true)
    (behind : ∀ j, a < j → j < e → (t.baseNeighbor j).used ≠ true) :
    ∀ j, a ≤ j → j < e → (t.baseNeighbor j).used = false := by
  intro j le lt
  rw [Bool.eq_false_iff]
  rcases Nat.eq_or_lt_of_le le with rfl | lt'
  · exact aOff
  · exact behind j lt' lt

theorem packsRight_of_packed (inside : t.baseNeighborUsed ≤ t.baseNeighborSize)
    (packed : ∀ i < t.baseNeighborSize,
      ((packBase t).baseNeighbor i).used = true ↔ i < t.baseNeighborUsed) : PacksRight t := by
  by_cases full : ∀ j < t.baseNeighborSize, (t.baseNeighbor j).used = true
  · rw [packBase_leading inside fun j lt => full j (by omega)] at packed
    exact .inl packed
  · push Not at full
    have hole : ∃ j, j < t.baseNeighborSize ∧ (t.baseNeighbor j).used ≠ true := full
    obtain ⟨a, ⟨aInside, aOff⟩, aFirst⟩ := Nat.findX hole
    have before : ∀ j < a, (t.baseNeighbor j).used = true := by
      intro j lt
      by_contra off
      exact aFirst j lt ⟨by omega, off⟩
    by_cases handed : a < t.baseNeighborUsed
    · by_cases further : ∃ j, a < j ∧ j < t.baseNeighborSize ∧ (t.baseNeighbor j).used = true
      · -- the first entry behind the holes, at `e`, is the last one
        obtain ⟨e, ⟨gap, eInside, eOn⟩, eFirst⟩ := Nat.findX further
        have holes := holes_from aOff fun j lt lt' on => eFirst j lt' ⟨lt, by omega, on⟩
        have count := packed_second gap eInside handed before holes eOn packed
        rw [packBase_first gap eInside handed before holes eOn,
          packFrom_done (by dsimp only [relocate]; omega)] at packed
        refine .inr ⟨e, eInside, by omega, by omega, ?_⟩
        intro i lt
        constructor
        · intro on
          by_cases here : i = e
          · exact .inr here
          · have other : i ≠ a := by
              rintro rfl
              exact aOff on
            have kept := packed i lt
            dsimp only at kept
            rw [relocate_used other here] at kept
            have := kept.1 on
            omega
        · rintro (lt' | rfl)
          · exact before i (by omega)
          · exact eOn
      · -- only holes are left, and the first of them is no entry
        exfalso
        have holes : ∀ j, a ≤ j → j < t.baseNeighborSize → (t.baseNeighbor j).used = false :=
          holes_from aOff fun j lt lt' on => further ⟨j, lt, lt', on⟩
        rw [packBase_noMore (by omega) (by omega) before holes] at packed
        exact aOff ((packed a aInside).2 handed)
    · -- the loop ends before the first hole
      rw [packBase_leading inside fun j lt => before j (by omega)] at packed
      exact .inl packed

theorem packed_of_packsRight (inside : t.baseNeighborUsed ≤ t.baseNeighborSize)
    (right : PacksRight t) :
    ∀ i < t.baseNeighborSize,
      ((packBase t).baseNeighbor i).used = true ↔ i < t.baseNeighborUsed := by
  rcases right with first | ⟨e, eInside, away, some_, uses⟩
  · rw [packBase_leading inside fun j lt => (first j (by omega)).2 lt]
    exact first
  · rw [packBase_moves eInside away some_ uses]
    intro i lt
    by_cases from_ : i = e
    · subst from_
      simp only [relocate, Function.update_self, Bool.false_eq_true, false_iff]
      omega
    · by_cases to_ : i = t.baseNeighborUsed - 1
      · have on := (uses e eInside).2 (.inr rfl)
        have apart : t.baseNeighborUsed - 1 ≠ e := by omega
        simp only [to_, relocate, Function.update_of_ne apart, Function.update_self, on, true_iff]
        omega
      · rw [relocate_used to_ from_, uses i lt]
        omega

/-- **The packing ends with the entries in use in the first places** iff at most one of them had to
be moved. -/
theorem packed_iff (inside : t.baseNeighborUsed ≤ t.baseNeighborSize) :
    (∀ i < t.baseNeighborSize,
      ((packBase t).baseNeighbor i).used = true ↔ i < t.baseNeighborUsed) ↔ PacksRight t :=
  ⟨packsRight_of_packed inside, packed_of_packsRight inside⟩

end Packing

/-! ## What the end of the scan reads and writes -/

/-- The accesses of `zb_nwk_exneighbor_stop` to the shared memory. -/
inductive Access where
  | readExt (i : Nat)
  | writeBase (n : Nat)
  deriving DecidableEq

/-- The place where a record of the own network is entered, if it is. -/
def entryPlace (ext : ZbExtNeighborTblEnt) (s : NwkContext) : Option Nat :=
  match extAddress ext s.addr with
  | .ok (_, .ok ref) =>
      let n := s.neighbor.addrToNeighbor ref
      if n ≠ 255 then
        if (s.neighbor.baseNeighbor n.toNat).used then some n.toNat else none
      else if s.neighbor.baseNeighborUsed < s.neighbor.baseNeighborSize then
        some s.neighbor.baseNeighborUsed
      else none
  | .ok (_, .error _) | .error _ => none

/-- The place is zeroed before the last fields of the record are read. -/
def entAccesses (ext : ZbExtNeighborTblEnt) (i : Nat) (s : NwkContext) : List Access :=
  match entryPlace ext s with
  | some n => [.writeBase n, .readExt i]
  | none => []

/-- The loop over the records, from `i` on, in a table that is cut from one of `tableSize`. -/
def stopAccesses (tableSize myPanidRef : Nat) :
    List ExtNeighbor → (i freeSize : Nat) → NwkContext → List Access
  | [], _, _, _ => []
  | en :: rest, i, freeSize, s =>
      let own := en.panidRef = myPanidRef
      .readExt i :: ((if own then entAccesses en.toZbExtNeighborTblEnt i s else []) ++
        match if own then zbNwkExneighborStopEnt en.toZbExtNeighborTblEnt s else .ok s with
        | .ok s =>
            let freeSize := freeSize + zbExtNeighborTblEntSize
            let size := s.neighbor.baseNeighborSize + freeSize / zbNeighborTblEntSize
            if size ≤ tableSize then
              stopAccesses tableSize myPanidRef rest (i + 1) (freeSize % zbNeighborTblEntSize)
                { s with neighbor.baseNeighborSize := size }
            else []
        | .error _ => [])

/-- A record that begins at `off` and a base entry have no byte in common. -/
def Apart (off n i : Nat) : Prop :=
  (n + 1) * zbNeighborTblEntSize ≤ off + i * zbExtNeighborTblEntSize ∨
    off + (i + 1) * zbExtNeighborTblEntSize ≤ n * zbNeighborTblEntSize

/-- **Every record is read before an entry is written over it.** -/
def ReadsFirst (off : Nat) (accesses : List Access) : Prop :=
  accesses.Pairwise fun first second =>
    ∀ n i, first = .writeBase n → second = .readExt i → Apart off n i

/-! ## What is claimed -/

/-- A table that is not cut, of any size of eight bits. -/
structure WholeTable where
  neighbor : ZbNeighborTbl
  small : neighbor.baseNeighborSize ≤ 255
  inside : neighbor.baseNeighborUsed ≤ neighbor.baseNeighborSize
  indexed : Indexes ZbNeighborTblEnt.used ZbNeighborTblEnt.addrRef neighbor.baseNeighbor
    neighbor.baseNeighborSize (indexOf neighbor.addrToNeighbor)

/-- No scan runs. -/
def WholeTable.state (t : WholeTable) (addr : ZbAddrGlobals) (depth : UInt8)
    (networkAddress : UInt16) : NeighborState where
  nwk := ⟨addr, t.neighbor, depth, networkAddress⟩
  extOff := 0
  extSize := 0
  ext := []

/-- The tables when the scan ends: the records were written, and others used the address table. -/
def scanned (under : Underlay) (ext : List ExtNeighbor) (addr : ZbAddrGlobals) (s : NeighborState) :
    NwkContext :=
  { (writeExt under ext s).nwk with addr }

/-- **The memory is cut right**: the entries in use are the first, with what they held and found by
the index; the records lie behind them and inside; and they are read before they are written
over. -/
structure Split (t : ZbNeighborTbl) (s : NeighborState) : Prop where
  packed : ∀ i < t.baseNeighborSize,
    (s.nwk.neighbor.baseNeighbor i).used = true ↔ i < s.nwk.neighbor.baseNeighborUsed
  kept : ∀ i < t.baseNeighborSize, (t.baseNeighbor i).used = true →
    ∃ j, indexOf s.nwk.neighbor.addrToNeighbor (t.baseNeighbor i).addrRef = some j ∧
      s.nwk.neighbor.baseNeighbor j = t.baseNeighbor i
  indexed : Indexes ZbNeighborTblEnt.used ZbNeighborTblEnt.addrRef s.nwk.neighbor.baseNeighbor
    t.baseNeighborSize (indexOf s.nwk.neighbor.addrToNeighbor)
  behind : s.nwk.neighbor.baseNeighborUsed * zbNeighborTblEntSize ≤ s.extOff
  inside : s.extOff + s.extSize * zbExtNeighborTblEntSize ≤ t.baseNeighborSize * zbNeighborTblEntSize
  readsFirst : ∀ under ext addr myPanidRef, ext.length ≤ s.extSize →
    ReadsFirst s.extOff
      (stopAccesses t.baseNeighborSize myPanidRef ext 0 0 (scanned under ext addr s))

/-- Of the tables that the start of the scan leaves, unless it asserts. -/
def SplitRight (t : ZbNeighborTbl) (s : NeighborState) : Prop :=
  ∀ s', zbNwkExneighborStart s = .ok s' → Split t s'

/-- What is left of the table. -/
def leftOf (t : ZbNeighborTbl) : Nat := t.baseNeighborSize - cutOf t

/-- Where the records should begin. -/
def endOf (t : ZbNeighborTbl) : Nat := magicRoundTo4 (leftOf t * zbNeighborTblEntSize)

/-- The bytes for the records, in eight bits. -/
def bytesOf (t : ZbNeighborTbl) : Nat :=
  (t.baseNeighborSize * zbNeighborTblEntSize + 2560 - endOf t) % 256

/-- **The condition**: there is no room for a record, which is asserted; or the packing is right,
something is cut off, and the place where the records begin is in eight bits, or these put it behind
the next entry. -/
def Fits (t : ZbNeighborTbl) : Prop :=
  bytesOf t < zbExtNeighborTblEntSize ∨
    PacksRight t ∧ leftOf t < t.baseNeighborSize ∧
      (leftOf t ≤ 19 ∨ t.baseNeighborUsed < leftOf t ∧
        (t.baseNeighborUsed + 1) * zbNeighborTblEntSize ≤ endOf t % 256)

/-! ## The start -/

section Start

variable {t : ZbNeighborTbl} {s s' : NeighborState}

theorem packBase_sizes (t : ZbNeighborTbl) :
    (packBase t).baseNeighborSize = t.baseNeighborSize ∧
      (packBase t).baseNeighborUsed = t.baseNeighborUsed := by
  have all : ∀ left i (p : Packing),
      (packFrom left i p).neighbor.baseNeighborSize = p.neighbor.baseNeighborSize ∧
        (packFrom left i p).neighbor.baseNeighborUsed = p.neighbor.baseNeighborUsed := by
    intro left
    induction left with
    | zero => exact fun _ _ => ⟨rfl, rfl⟩
    | succ left ih =>
        intro i p
        have step : (packStep i p).neighbor.baseNeighborSize = p.neighbor.baseNeighborSize ∧
            (packStep i p).neighbor.baseNeighborUsed = p.neighbor.baseNeighborUsed := by
          rw [packStep]
          split
          · split <;> exact ⟨rfl, rfl⟩
          · exact ⟨rfl, rfl⟩
        rw [packFrom]
        split
        · exact ⟨(ih (i + 1) _).1.trans step.1, (ih (i + 1) _).2.trans step.2⟩
        · exact ⟨rfl, rfl⟩
  exact all t.baseNeighborSize 0 ⟨t, 0, 0⟩

theorem cutOf_le (inside : t.baseNeighborUsed ≤ t.baseNeighborSize) :
    cutOf t ≤ t.baseNeighborSize := by
  rw [cutOf]
  split <;> omega

/-- The larger of what is handed out and half of the table. -/
theorem leftOf_cases (inside : t.baseNeighborUsed ≤ t.baseNeighborSize) :
    leftOf t = t.baseNeighborUsed ∧ t.baseNeighborSize - t.baseNeighborSize / 2 < t.baseNeighborUsed ∨
      leftOf t = t.baseNeighborSize - t.baseNeighborSize / 2 ∧
        t.baseNeighborUsed ≤ t.baseNeighborSize - t.baseNeighborSize / 2 := by
  rw [leftOf, cutOf]
  split <;> omega

theorem cutOf_packBase (t : ZbNeighborTbl) : cutOf (packBase t) = cutOf t := by
  rw [cutOf, cutOf, (packBase_sizes t).1, (packBase_sizes t).2]

/-- The packed table, cut at `leftOf`. -/
def cutState (t : ZbNeighborTbl) (s : NeighborState) : NeighborState :=
  { s with
    nwk.neighbor := { packBase t with baseNeighborSize := leftOf t }
    extOff := endOf t % 256
    extSize := bytesOf t / zbExtNeighborTblEntSize }

theorem cutState_used : (cutState t s).nwk.neighbor.baseNeighborUsed = t.baseNeighborUsed :=
  (packBase_sizes t).2

/-- Records and addresses change neither the index nor the counters. -/
theorem scanned_counts (under : Underlay) (ext : List ExtNeighbor) (addr : ZbAddrGlobals)
    (s : NeighborState) :
    (scanned under ext addr s).addr = addr ∧
      (scanned under ext addr s).neighbor.addrToNeighbor = s.nwk.neighbor.addrToNeighbor ∧
      (scanned under ext addr s).neighbor.baseNeighborUsed = s.nwk.neighbor.baseNeighborUsed ∧
      (scanned under ext addr s).neighbor.baseNeighborSize = s.nwk.neighbor.baseNeighborSize :=
  ⟨rfl, rfl, rfl, rfl⟩

/-- **The start of a scan**: it asserts, or leaves the cut state. -/
theorem exneighborStart_spec
    (inside : t.baseNeighborUsed ≤ t.baseNeighborSize) (is : s.nwk.neighbor = t)
    (idle : s.extSize = 0) :
    zbNwkExneighborStart s =
      if bytesOf t < zbExtNeighborTblEntSize then .error .other
      else .ok (cutState t s) := by
  have cut := cutOf_le inside
  have off : (UInt8.ofNat (magicRoundTo4 (leftOf t * zbNeighborTblEntSize))).toNat =
      endOf t % 256 := UInt8.toNat_ofNat'
  have bytes : (UInt8.ofNat (cutOf t * zbNeighborTblEntSize) -
      (UInt8.ofNat (magicRoundTo4 (leftOf t * zbNeighborTblEntSize)) -
        UInt8.ofNat (leftOf t * zbNeighborTblEntSize))).toNat = bytesOf t := by
    rw [UInt8.toNat_sub, UInt8.toNat_sub, off, UInt8.toNat_ofNat', UInt8.toNat_ofNat', bytesOf, endOf,
      leftOf, magicRoundTo4, zbNeighborTblEntSize]
    omega
  rw [zbNwkExneighborStart, if_neg (not_not.2 idle), is]
  dsimp only
  rw [cutOf_packBase, (packBase_sizes t).1, ← leftOf, off, bytes]
  by_cases short : bytesOf t < zbExtNeighborTblEntSize
  · rw [if_pos short, if_neg (by rw [Nat.div_eq_of_lt short]; exact Nat.lt_irrefl 0)]
  · rw [if_neg short, if_pos (Nat.div_pos (Nat.not_lt.1 short) (by decide))]
    rfl

end Start

/-! ## The end -/

section Stop

variable {s s' : NwkContext} {ext : ZbExtNeighborTblEnt} {off i n : Nat}

/-- **All that a record can do**: nothing to the table, an entry is written that is there, or one is
put at the counter. -/
theorem stopEnt_cases (taken : zbNwkExneighborStopEnt ext s = .ok s') :
    s'.neighbor = s.neighbor ∧ entryPlace ext s = none ∨
      (∃ ref f, s.neighbor.addrToNeighbor ref ≠ 255 ∧
        entryPlace ext s = some (s.neighbor.addrToNeighbor ref).toNat ∧
        s'.neighbor = setNeighbor (s.neighbor.addrToNeighbor ref).toNat f s.neighbor) ∨
      s.neighbor.baseNeighborUsed < s.neighbor.baseNeighborSize ∧
        entryPlace ext s = some s.neighbor.baseNeighborUsed ∧
        ∃ ref nbe, s'.neighbor = appendNeighbor ref nbe s.neighbor := by
  cases looked : extAddress ext s.addr with
  | error stop =>
      rw [zbNwkExneighborStopEnt, looked] at taken
      cases taken
  | ok r =>
      obtain ⟨g, found⟩ := r
      rw [zbNwkExneighborStopEnt, looked] at taken
      rw [entryPlace, looked]
      cases found with
      | error status =>
          cases taken
          exact .inl ⟨rfl, rfl⟩
      | ok ref =>
          dsimp only [Bind.bind, Except.bind] at taken ⊢
          by_cases known : s.neighbor.addrToNeighbor ref = 255
          · rw [if_neg (not_not.2 known)] at taken ⊢
            by_cases room : s.neighbor.baseNeighborUsed < s.neighbor.baseNeighborSize
            · rw [if_pos room] at taken ⊢
              cases taken
              exact .inr (.inr ⟨room, rfl, ref, _, rfl⟩)
            · rw [if_neg room] at taken ⊢
              cases taken
              exact .inl ⟨rfl, rfl⟩
          · rw [if_pos known] at taken ⊢
            split at taken
            · rename_i on
              cases taken
              rw [if_pos on]
              refine .inr (.inl ⟨ref, fun nbe => { nbe with
                deviceType := if nbe.deviceType = zbNwkDeviceTypeNone then ext.deviceType
                  else nbe.deviceType
                addrRef := ref
                lqi := ext.lqi }, known, rfl, rfl⟩)
            · cases taken

/-- The next entry ends before the record at `i`, and the index leads to places before it. -/
structure Ahead (off i : Nat) (t : ZbNeighborTbl) : Prop where
  handed : t.baseNeighborUsed * zbNeighborTblEntSize ≤ off + i * zbExtNeighborTblEntSize
  next : t.baseNeighborUsed < t.baseNeighborSize →
    (t.baseNeighborUsed + 1) * zbNeighborTblEntSize ≤ off + i * zbExtNeighborTblEntSize
  below : ∀ ref, t.addrToNeighbor ref ≠ 255 → (t.addrToNeighbor ref).toNat < t.baseNeighborUsed

/-- The entry of a record ends before the record. -/
theorem Ahead.place (ahead : Ahead off i s.neighbor) (at_ : entryPlace ext s = some n) :
    (n + 1) * zbNeighborTblEntSize ≤ off + i * zbExtNeighborTblEntSize := by
  have handed := ahead.handed
  rw [entryPlace] at at_
  split at at_
  · rename_i ref _
    dsimp only at at_
    split at at_
    · rename_i known
      split at at_
      · cases at_
        have below := ahead.below ref known
        rw [zbNeighborTblEntSize] at handed ⊢
        omega
      · cases at_
    · split at at_
      · rename_i room
        cases at_
        exact ahead.next room
      · cases at_
  · cases at_
  · cases at_

/-- A record may use a place up; the next record begins further on. -/
theorem Ahead.step {size : Nat} (ahead : Ahead off i s.neighbor)
    (taken : zbNwkExneighborStopEnt ext s = .ok s' ∨ s' = s) :
    Ahead off (i + 1) { s'.neighbor with baseNeighborSize := size } := by
  have handed := ahead.handed
  have next := ahead.next
  have kept : Ahead off (i + 1) { s.neighbor with baseNeighborSize := size } := by
    constructor
    case handed =>
      simp only [zbNeighborTblEntSize, zbExtNeighborTblEntSize] at handed ⊢
      omega
    case next =>
      intro _
      simp only [zbNeighborTblEntSize, zbExtNeighborTblEntSize] at handed ⊢
      omega
    case below => exact ahead.below
  rcases taken with taken | rfl
  · rcases stopEnt_cases taken with ⟨same, -⟩ | ⟨ref, f, -, -, is⟩ | ⟨room, -, ref, nbe, is⟩
    · rw [same]
      exact kept
    · rw [is]
      exact ⟨kept.handed, kept.next, kept.below⟩
    · rw [is]
      have next := next room
      constructor
      case handed =>
        simp only [appendNeighbor, zbNeighborTblEntSize, zbExtNeighborTblEntSize] at next ⊢
        omega
      case next =>
        intro _
        simp only [appendNeighbor, zbNeighborTblEntSize, zbExtNeighborTblEntSize] at next ⊢
        omega
      case below =>
        intro ref' found
        simp only [appendNeighbor] at found ⊢
        by_cases same : ref' = ref
        · rw [same, Function.update_self, UInt8.toNat_ofNat']
          omega
        · rw [Function.update_of_ne same] at found ⊢
          have := ahead.below ref' found
          omega
  · exact kept

/-- No record before `i` is read any more. -/
theorem stopAccesses_reads {tableSize myPanidRef : Nat} {rest : List ExtNeighbor} {freeSize j : Nat}
    (mem : .readExt j ∈ stopAccesses tableSize myPanidRef rest i freeSize s) : i ≤ j := by
  induction rest generalizing i freeSize s with
  | nil => cases mem
  | cons en rest ih =>
      rw [stopAccesses] at mem
      dsimp only at mem
      rcases List.mem_cons.1 mem with is | mem
      · cases is
        exact Nat.le_refl _
      · rcases List.mem_append.1 mem with mem | mem
        · split at mem
          · rw [entAccesses] at mem
            split at mem
            · simp only [List.mem_cons, List.not_mem_nil, or_false, reduceCtorEq, false_or,
                Access.readExt.injEq] at mem
              omega
            · cases mem
          · cases mem
        · split at mem
          · split at mem
            · have := ih mem
              omega
            · cases mem
          · cases mem

/-- **Every record is read before an entry is written over it**, where the next entry ends before
the first record. -/
theorem readsFirst_of_ahead {tableSize myPanidRef : Nat} {rest : List ExtNeighbor} {freeSize : Nat}
    (ahead : Ahead off i s.neighbor) :
    ReadsFirst off (stopAccesses tableSize myPanidRef rest i freeSize s) := by
  induction rest generalizing i freeSize s with
  | nil => exact .nil
  | cons en rest ih =>
      rw [stopAccesses, ReadsFirst]
      dsimp only
      refine List.pairwise_cons.2 ⟨fun _ _ n j first => (by cases first), ?_⟩
      -- the tail: what the record does, and the other records
      have tail : ∀ s', (zbNwkExneighborStopEnt en.toZbExtNeighborTblEnt s = .ok s' ∨ s' = s) →
          ∀ size freeSize, ReadsFirst off (stopAccesses tableSize myPanidRef rest (i + 1) freeSize
            { s' with neighbor.baseNeighborSize := size }) :=
        fun s' taken size freeSize => ih (ahead.step taken)
      refine List.pairwise_append.2 ⟨?_, ?_, ?_⟩
      · split
        · rw [entAccesses]
          split
          · rename_i n at_
            refine List.pairwise_pair.2 ?_
            intro n' j first second
            cases first
            cases second
            exact .inl (ahead.place at_)
          · exact .nil
        · exact .nil
      · split
        · rename_i s' taken
          split
          · refine tail s' ?_ _ _
            split at taken
            · exact .inl taken
            · cases taken
              exact .inr rfl
          · exact .nil
        · exact .nil
      · intro first mem second mem' n j isWrite isRead
        subst isWrite isRead
        have later : i ≤ j := by
          split at mem'
          · split at mem'
            · have := stopAccesses_reads mem'
              omega
            · cases mem'
          · cases mem'
        split at mem
        · rw [entAccesses] at mem
          split at mem
          · rename_i n' at_
            simp only [List.mem_cons, List.not_mem_nil, or_false, reduceCtorEq,
              Access.writeBase.injEq] at mem
            subst mem
            left
            have place := ahead.place at_
            simp only [zbNeighborTblEntSize, zbExtNeighborTblEntSize] at place ⊢
            omega
          · cases mem
        · cases mem

/-- What a record does, and then the others. -/
theorem moveRecords_cons (myPanidRef : Nat) (en : ExtNeighbor) (rest : List ExtNeighbor)
    (freeSize : Nat) (s : NwkContext) :
    moveRecords myPanidRef (en :: rest) freeSize s =
      ((if en.panidRef = myPanidRef then zbNwkExneighborStopEnt en.toZbExtNeighborTblEnt s
        else .ok s) >>= fun u =>
          let freeSize := freeSize + zbExtNeighborTblEntSize
          let size := u.neighbor.baseNeighborSize + freeSize / zbNeighborTblEntSize
          if size ≤ zbNeighborTableSize then
            moveRecords myPanidRef rest (freeSize % zbNeighborTblEntSize)
              { u with neighbor.baseNeighborSize := size }
          else .error .other) := by
  rw [moveRecords]
  split <;> rfl

/-- **The accesses are all there are**: where no entry is written, the table keeps what it has. -/
theorem moveRecords_writes {myPanidRef : Nat} {rest : List ExtNeighbor} {freeSize : Nat}
    (moved : moveRecords myPanidRef rest freeSize s = .ok s')
    (other : .writeBase n ∉ stopAccesses zbNeighborTableSize myPanidRef rest i freeSize s) :
    s'.neighbor.baseNeighbor n = s.neighbor.baseNeighbor n := by
  induction rest generalizing i freeSize s with
  | nil =>
      cases moved
      rfl
  | cons en rest ih =>
      rw [moveRecords_cons] at moved
      rw [stopAccesses] at other
      dsimp only at other
      cases taken : (if en.panidRef = myPanidRef then
          zbNwkExneighborStopEnt en.toZbExtNeighborTblEnt s else .ok s) with
      | error stop =>
          rw [taken] at moved
          cases moved
      | ok u =>
          rw [taken] at moved other
          dsimp only [Bind.bind, Except.bind] at moved other
          simp only [List.mem_cons, List.mem_append, not_or, reduceCtorEq, not_false_eq_true,
            true_and] at other
          obtain ⟨here, later⟩ := other
          split at moved
          · rename_i room
            rw [if_pos room] at later
            have same := ih moved later
            rw [same]
            split at taken
            · rename_i own
              rw [if_pos own, entAccesses] at here
              rcases stopEnt_cases taken with ⟨same, -⟩ | ⟨ref, f, -, at_, is⟩ | ⟨-, at_, ref, nbe, is⟩
              · rw [same]
              · rw [at_] at here
                simp only [List.mem_cons, Access.writeBase.injEq, not_or] at here
                rw [is]
                exact Function.update_of_ne here.1 _ _
              · rw [at_] at here
                simp only [List.mem_cons, Access.writeBase.injEq, not_or] at here
                rw [is]
                exact Function.update_of_ne here.1 _ _
            · cases taken
              rfl
          · cases moved

end Stop

/-! ## When the memory is cut right -/

section Right

variable {t : ZbNeighborTbl}

/-- The bytes of the two tables, where there is room for a record. -/
theorem layout_iff (small : t.baseNeighborSize ≤ 255)
    (inside : t.baseNeighborUsed ≤ t.baseNeighborSize)
    (room : ¬ bytesOf t < zbExtNeighborTblEntSize) :
    (t.baseNeighborUsed * zbNeighborTblEntSize ≤ endOf t % 256 ∧
      endOf t % 256 + bytesOf t / zbExtNeighborTblEntSize * zbExtNeighborTblEntSize ≤
        t.baseNeighborSize * zbNeighborTblEntSize ∧
      (t.baseNeighborUsed < leftOf t →
        (t.baseNeighborUsed + 1) * zbNeighborTblEntSize ≤ endOf t % 256)) ↔
    leftOf t < t.baseNeighborSize ∧
      (leftOf t ≤ 19 ∨ t.baseNeighborUsed < leftOf t ∧
        (t.baseNeighborUsed + 1) * zbNeighborTblEntSize ≤ endOf t % 256) := by
  have left_ := leftOf_cases inside
  have end_ : leftOf t * 13 ≤ endOf t ∧ endOf t < leftOf t * 13 + 4 := by
    rw [endOf, magicRoundTo4, zbNeighborTblEntSize]
    omega
  have rest : bytesOf t / 14 * 14 ≤ bytesOf t := Nat.div_mul_le_self _ _
  have bytes : bytesOf t = (t.baseNeighborSize * 13 + 2560 - endOf t) % 256 := rfl
  simp only [zbNeighborTblEntSize, zbExtNeighborTblEntSize] at room ⊢
  by_cases few : leftOf t ≤ 19
  · have off : endOf t % 256 = endOf t := by
      apply Nat.mod_eq_of_lt
      rw [endOf, magicRoundTo4, zbNeighborTblEntSize]
      omega
    rw [off]
    omega
  · have off : endOf t % 256 + 256 ≤ endOf t := by omega
    omega

/-- The table after the start, where the packing is right: an entry is where it was, or moved. -/
theorem packBase_split (whole : WholeTable) (packs : PacksRight whole.neighbor) :
    (∀ i < whole.neighbor.baseNeighborSize, (whole.neighbor.baseNeighbor i).used = true →
      ∃ j, indexOf (packBase whole.neighbor).addrToNeighbor
          (whole.neighbor.baseNeighbor i).addrRef = some j ∧
        (packBase whole.neighbor).baseNeighbor j = whole.neighbor.baseNeighbor i) ∧
    Indexes ZbNeighborTblEnt.used ZbNeighborTblEnt.addrRef (packBase whole.neighbor).baseNeighbor
      whole.neighbor.baseNeighborSize (indexOf (packBase whole.neighbor).addrToNeighbor) := by
  obtain ⟨t, small, inside, indexed⟩ := whole
  dsimp only at packs ⊢
  rcases packs with first | ⟨e, eInside, away, some_, uses⟩
  · rw [packBase_leading inside fun j lt => (first j (by omega)).2 lt]
    exact ⟨fun i lt on => ⟨i, indexed.listed i lt on, rfl⟩, indexed⟩
  · rw [packBase_moves eInside away some_ uses]
    have eOn := (uses e eInside).2 (.inr rfl)
    have free : (t.baseNeighbor (t.baseNeighborUsed - 1)).used = false := by
      rw [Bool.eq_false_iff]
      intro on
      have := (uses (t.baseNeighborUsed - 1) (by omega)).1 on
      omega
    have entered : indexOf (relocate e (t.baseNeighborUsed - 1) t).addrToNeighbor =
        Function.update (indexOf t.addrToNeighbor) (t.baseNeighbor e).addrRef
          (some (t.baseNeighborUsed - 1)) := indexOf_enter (by omega)
    constructor
    · intro i lt on
      rw [entered]
      by_cases here : i = e
      · subst here
        refine ⟨t.baseNeighborUsed - 1, Function.update_self _ _ _, ?_⟩
        have apart : t.baseNeighborUsed - 1 ≠ i := by omega
        simp [relocate, Function.update_of_ne apart]
      · have other : i ≠ t.baseNeighborUsed - 1 := by
          rintro rfl
          rw [on] at free
          cases free
        have name : (t.baseNeighbor i).addrRef ≠ (t.baseNeighbor e).addrRef :=
          fun same => here (indexed.unique lt eInside on eOn same)
        refine ⟨i, (Function.update_of_ne name _ _).trans (indexed.listed i lt on), ?_⟩
        simp [relocate, Function.update_of_ne here, Function.update_of_ne other]
    · rw [entered]
      exact indexed.move eInside eOn (by omega) free rfl

/-- An address table with one entry, of a device with the short address 1. -/
def knownOnly (ref : Nat) : ZbAddrGlobals :=
  { ZbAddrGlobals.init with
    addrMap := Function.update ZbAddrGlobals.init.addrMap ref
      { ZbAddrGlobals.init.addrMap ref with addr := 1, used := true }
    shortSorted := fun _ => ref
    nElements := 1
    nSortedElements := 1 }

/-- The record of that device. -/
def knownRecord : ExtNeighbor where
  shortAddr := 1
  longAddr := .zero
  lqi := 0
  depth := 0
  permitJoining := 0
  deviceType := zbNwkDeviceTypeRouter
  panidRef := 0

theorem extAddress_known (ref : Nat) :
    ∃ g, extAddress knownRecord.toZbExtNeighborTblEnt (knownOnly ref) = .ok (g, .ok ref) := by
  have at_ : sortedAddr (knownOnly ref) 0 = 1 := by simp [sortedAddr, knownOnly]
  have place : searchPlace (knownOnly ref) 1 = 0 := by
    rw [searchPlace, if_neg (by simp [knownOnly])]
  have found : shortSearch (knownOnly ref) knownRecord.shortAddr = some ref := by
    have below : searchPlace (knownOnly ref) 1 < 1 := by
      rw [place]
      exact Nat.one_pos
    have same : 1 = sortedAddr (knownOnly ref) (searchPlace (knownOnly ref) 1) := by
      rw [place, at_]
    rw [shortSearch]
    exact if_pos ⟨Nat.one_pos, below, same⟩
  refine ⟨(knownOnly ref).setEnt ref fun ent => { ent with clock := true }, ?_⟩
  have known : knownRecord.shortAddr ≠ zbUnknownShortAddr := by decide
  have noLong : ¬ knownRecord.longAddr ≠ ZbIeeeAddrCompressed.zero := not_not.2 rfl
  rw [extAddress, if_pos known, if_neg noLong, addressByShort, zbAddressByShort, found]
  rfl

/-- A record that is entered at the counter lies behind the new entry. -/
theorem apart_of_readsFirst {tableSize off : Nat} {s : NwkContext} {ref : Nat}
    (addr : s.addr = knownOnly ref) (absent : s.neighbor.addrToNeighbor ref = 255)
    (room : s.neighbor.baseNeighborUsed < s.neighbor.baseNeighborSize)
    (readsFirst : ReadsFirst off (stopAccesses tableSize 0 [knownRecord] 0 0 s)) :
    Apart off s.neighbor.baseNeighborUsed 0 := by
  obtain ⟨g, looked⟩ := extAddress_known ref
  have at_ : entryPlace knownRecord.toZbExtNeighborTblEnt s = some s.neighbor.baseNeighborUsed := by
    rw [entryPlace, addr, looked]
    dsimp only
    rw [if_neg (not_not.2 absent), if_pos room]
  rw [ReadsFirst, stopAccesses] at readsFirst
  dsimp only at readsFirst
  have own : knownRecord.panidRef = 0 := rfl
  rw [if_pos own, entAccesses, at_] at readsFirst
  have both := (List.pairwise_append.1 (List.pairwise_cons.1 readsFirst).2).1
  exact List.pairwise_pair.1 both s.neighbor.baseNeighborUsed 0 rfl rfl

/-- Some reference has no entry. -/
theorem absent_of_indexes {n : Nat}
    (indexed : Indexes ZbNeighborTblEnt.used ZbNeighborTblEnt.addrRef t.baseNeighbor n
      (indexOf t.addrToNeighbor)) : ∃ ref, t.addrToNeighbor ref = 255 := by
  obtain ⟨ref, outside⟩ := Infinite.exists_notMem_finset
    ((Finset.range n).image fun i => (t.baseNeighbor i).addrRef)
  refine ⟨ref, ?_⟩
  by_contra known
  obtain ⟨inside, -, is⟩ := indexed.found ref _ (indexOf_eq_some.2 ⟨known, rfl⟩)
  exact outside (Finset.mem_image.2 ⟨_, Finset.mem_range.2 inside, is⟩)

/-- The bytes of the cut state, where there is room for a record. -/
theorem Split.fits {whole : WholeTable} {s : NeighborState}
    (split : Split whole.neighbor (cutState whole.neighbor s))
    (room : ¬ bytesOf whole.neighbor < zbExtNeighborTblEntSize) : Fits whole.neighbor := by
  have packs : PacksRight whole.neighbor := by
    apply (packed_iff whole.inside).1
    intro i lt
    have packed := split.packed i lt
    rwa [cutState_used] at packed
  have behind := split.behind
  rw [cutState_used] at behind
  refine .inr ⟨packs, (layout_iff whole.small whole.inside room).1 ⟨behind, split.inside, ?_⟩⟩
  -- a record of a neighbour without an entry is entered at the counter
  intro left_
  obtain ⟨ref, absent⟩ := absent_of_indexes split.indexed
  have one : 1 ≤ (cutState whole.neighbor s).extSize :=
    Nat.div_pos (Nat.not_lt.1 room) (by decide)
  have first := split.readsFirst (fun _ _ _ nbe => nbe) [knownRecord] (knownOnly ref) 0 one
  obtain ⟨addr, index, used, size⟩ := scanned_counts (fun _ _ _ nbe => nbe) [knownRecord]
    (knownOnly ref) (cutState whole.neighbor s)
  have apart := apart_of_readsFirst addr (by rw [index]; exact absent)
    (by rw [used, size, cutState_used]; exact left_) first
  rw [used, cutState_used, Apart] at apart
  have off : (cutState whole.neighbor s).extOff = endOf whole.neighbor % 256 := rfl
  rw [off] at apart behind
  simp only [zbNeighborTblEntSize, zbExtNeighborTblEntSize] at behind apart ⊢
  omega

theorem Fits.split {whole : WholeTable} {s : NeighborState} (fits : Fits whole.neighbor)
    (room : ¬ bytesOf whole.neighbor < zbExtNeighborTblEntSize) :
    Split whole.neighbor (cutState whole.neighbor s) := by
  rcases fits with short | ⟨packs, layout⟩
  · exact absurd short room
  · obtain ⟨behind, inside, next⟩ := (layout_iff whole.small whole.inside room).2 layout
    obtain ⟨kept, indexed⟩ := packBase_split whole packs
    have packed := (packed_iff whole.inside).2 packs
    constructor
    case packed =>
      rw [cutState_used]
      exact packed
    case kept => exact kept
    case indexed => exact indexed
    case behind =>
      rw [cutState_used]
      exact behind
    case inside => exact inside
    case readsFirst =>
      intro under ext others myPanidRef _
      obtain ⟨-, index, used, size⟩ := scanned_counts under ext others (cutState whole.neighbor s)
      apply readsFirst_of_ahead
      constructor
      case handed =>
        rw [used, cutState_used]
        exact behind
      case next =>
        rw [used, size, cutState_used]
        exact next
      case below =>
        rw [index, used, cutState_used]
        intro ref known
        obtain ⟨lt, on, -⟩ := indexed.found ref _ (indexOf_eq_some.2 ⟨known, rfl⟩)
        exact (packed _ lt).1 on

end Right

/-! ## Poles -/

/-- Four neighbours come, and the first two go. -/
def twoGone : ZbNeighborTbl :=
  let four := (List.range 4).foldl (fun t ref => appendNeighbor ref (newNeighbor ref 0) t)
    ZbNeighborTbl.init
  (zbNwkNeighborDelete 1 (zbNwkNeighborDelete 0 four).1).1

theorem tidy_twoGone : Tidy twoGone 32 := by
  have one : Tidy (appendNeighbor 0 (newNeighbor 0 0) ZbNeighborTbl.init) 32 :=
    tidy_init.append (by decide) (Nat.le_refl _) rfl rfl rfl
  have two : Tidy (appendNeighbor 1 (newNeighbor 1 0) _) 32 :=
    one.append (by decide) (Nat.le_refl _) rfl rfl rfl
  have three : Tidy (appendNeighbor 2 (newNeighbor 2 0) _) 32 :=
    two.append (by decide) (Nat.le_refl _) rfl rfl rfl
  have four : Tidy (appendNeighbor 3 (newNeighbor 3 0) _) 32 :=
    three.append (by decide) (Nat.le_refl _) rfl rfl rfl
  exact four.delete.delete

def wholeTwoGone : WholeTable := ⟨twoGone, by decide, by decide, tidy_twoGone.indexed⟩

end Zboss.Nwk.NeighborSplit
