/-
# Common.AddressIndex -- the sorted array of short addresses

`index g` is the live part of `shortSorted`.  `IndexOf g P` says that it lists
the entries in `P`, once each, in the order of their short addresses;
`ShortIndex g` is the case of the entries in use that have one.  The binary
search is exact on such an array (`shortSearch_eq_some`, `shortSearch_isSome_iff`),
adding keeps it (`addShortSorted_spec`), and deleting keeps it under `DelIntact`
(`index_delShortSorted`): the block move of `delShortSorted` is one byte too
long, so a stale copy of the deleted reference behind the live part is moved in
and counted a second time.
-/
import Mathlib
import Zboss.Common.Address

namespace Zboss.Common.AddressIndex

open Zboss.Theory.Table
open Zboss.Theory.SortedIndex
open Zboss.Common.Types
open Zboss.Common.Address

set_option autoImplicit false

/-- The references listed in the sorted array. -/
def index (g : ZbAddrGlobals) : List Nat := live g.shortSorted g.nSortedElements

/-- The sort key of an entry. -/
def shortKey (g : ZbAddrGlobals) (ref : Nat) : Nat := (g.addrMap ref).addr.toNat

/-- The sorted array lists exactly the entries in `P`, once each, in order. -/
structure IndexOf (g : ZbAddrGlobals) (P : Nat → Prop) : Prop where
  distinct : (index g).Nodup
  members : ∀ r, r ∈ index g ↔ P r
  sorted : Sorted (shortKey g) (index g)

/-- An entry in use that has a short address. -/
def Indexed (g : ZbAddrGlobals) (r : Nat) : Prop :=
  r < zbIeeeAddrTableSize ∧ (g.addrMap r).used = true ∧ (g.addrMap r).addr ≠ zbUnknownShortAddr

/-- **The invariant of the short-address index.** -/
def ShortIndex (g : ZbAddrGlobals) : Prop := IndexOf g (Indexed g)

section Basics

variable {g g' : ZbAddrGlobals} {P Q : Nat → Prop}

/-- The invariant depends on the array, its keys and the set it lists. -/
theorem IndexOf.transport (ix : IndexOf g P) (array : index g' = index g)
    (keys : ∀ r ∈ index g, shortKey g' r = shortKey g r) (set : ∀ r, P r ↔ Q r) :
    IndexOf g' Q where
  distinct := array ▸ ix.distinct
  members r := by rw [array, ix.members, set]
  sorted := by
    rw [array]
    refine List.Pairwise.imp_of_mem (fun {x y} hx hy le => ?_) ix.sorted
    rwa [keys x hx, keys y hy]

theorem mem_index {r : Nat} : r ∈ index g ↔ ∃ i, i < g.nSortedElements ∧ g.shortSorted i = r :=
  mem_live

theorem length_index : (index g).length = g.nSortedElements := live_length ..

theorem idxOf_index {p r : Nat} (distinct : (index g).Nodup) (inside : p < g.nSortedElements)
    (at_ : g.shortSorted p = r) : (index g).idxOf r = p := by
  have bound : p < (index g).length := by rwa [length_index]
  have here : (index g)[p] = r := (live_getElem ..).trans at_
  have found := distinct.idxOf_getElem p bound
  rwa [here] at found

/-- An array that misses one entry of the table has room for it. -/
theorem IndexOf.room (ix : IndexOf g P) (inside : ∀ r, P r → r < zbIeeeAddrTableSize) {i : Nat}
    (bound : i < zbIeeeAddrTableSize) (out : ¬ P i) : g.nSortedElements < zbIeeeAddrTableSize := by
  have absent : i ∉ index g := fun mem => out ((ix.members i).1 mem)
  have distinct : (i :: index g).Nodup := List.nodup_cons.2 ⟨absent, ix.distinct⟩
  have subset : i :: index g ⊆ List.range zbIeeeAddrTableSize := by
    intro r hr
    rcases List.mem_cons.1 hr with rfl | mem
    · exact List.mem_range.2 bound
    · exact List.mem_range.2 (inside r ((ix.members r).1 mem))
  have fits := (List.subperm_of_subset distinct subset).length_le
  simp only [List.length_cons, length_index, List.length_range] at fits
  omega

theorem IndexOf.length_le (ix : IndexOf g P) (inside : ∀ r, P r → r < zbIeeeAddrTableSize) :
    g.nSortedElements ≤ zbIeeeAddrTableSize := by
  have subset : index g ⊆ List.range zbIeeeAddrTableSize := fun r hr =>
    List.mem_range.2 (inside r ((ix.members r).1 hr))
  simpa [length_index] using (List.subperm_of_subset ix.distinct subset).length_le

end Basics

/-! ## Searching -/

section Search

variable {g : ZbAddrGlobals} {P : Nat → Prop}

theorem bisect_below (a : UInt16) :
    (fun i => decide (a > sortedAddr g i)) =
      fun i => decide (a.toNat > shortKey g (g.shortSorted i)) :=
  funext fun _ => decide_eq_decide.2 UInt16.lt_iff_toNat_lt

theorem bisect_upto (a : UInt16) :
    (fun i => decide (a ≥ sortedAddr g i)) =
      fun i => decide (a.toNat ≥ shortKey g (g.shortSorted i)) :=
  funext fun _ => decide_eq_decide.2 UInt16.le_iff_toNat_le

theorem eq_sortedAddr_iff {a : UInt16} {i : Nat} :
    a = sortedAddr g i ↔ shortKey g (g.shortSorted i) = a.toNat := by
  rw [← UInt16.toNat_inj, eq_comm]
  rfl

/-- Search in a sorted array finds only an entry with the address asked for. -/
theorem shortSearch_eq_some {a : UInt16} {r : Nat} (found : shortSearch g a = some r) :
    r ∈ index g ∧ (g.addrMap r).addr = a := by
  simp only [shortSearch] at found
  split at found
  · rename_i hit
    cases found
    exact ⟨mem_index.2 ⟨_, hit.2.1, rfl⟩, hit.2.2.symm⟩
  · cases found

/-- **Binary search is exact**: an address is found exactly when a listed entry
has it. -/
theorem shortSearch_isSome_iff (ix : IndexOf g P) (a : UInt16) :
    (∃ r, shortSearch g a = some r) ↔ ∃ r, P r ∧ (g.addrMap r).addr = a := by
  constructor
  · rintro ⟨r, found⟩
    obtain ⟨mem, same⟩ := shortSearch_eq_some found
    exact ⟨r, (ix.members r).1 mem, same⟩
  · rintro ⟨r, holds, same⟩
    obtain ⟨i, hi, rfl⟩ := mem_index.1 ((ix.members r).2 holds)
    have there : shortKey g (g.shortSorted i) = a.toNat := congrArg UInt16.toNat same
    simp only [shortSearch, searchPlace, eq_sortedAddr_iff]
    by_cases many : g.nSortedElements > 1
    · obtain ⟨inside, hit⟩ := (mem_iff_first_place ix.sorted a.toNat).1 ⟨i, hi, there⟩
      rw [if_pos many, bisect_below, if_pos ⟨by omega, inside, hit⟩]
      exact ⟨_, rfl⟩
    · obtain rfl : i = 0 := by omega
      rw [if_neg many, if_pos ⟨hi, hi, there⟩]
      exact ⟨_, rfl⟩

theorem shortSearch_eq_none_iff (ix : IndexOf g P) (a : UInt16) :
    shortSearch g a = none ↔ ∀ r, P r → (g.addrMap r).addr ≠ a := by
  have exact_ := shortSearch_isSome_iff ix a
  constructor
  · intro failed r holds same
    obtain ⟨s, found⟩ := exact_.2 ⟨r, holds, same⟩
    rw [failed] at found
    cases found
  · intro absent
    cases found : shortSearch g a with
    | none => rfl
    | some r =>
        obtain ⟨s, holds, same⟩ := exact_.1 ⟨r, found⟩
        exact absurd same (absent s holds)

end Search

/-! ## Adding -/

section Add

variable {g : ZbAddrGlobals} {P : Nat → Prop}

/-- The place found for a new address: keys up to it before, keys from it on
behind. -/
theorem addPlace_spec (ix : IndexOf g P) (a : UInt16) :
    addPlace g a ≤ g.nSortedElements ∧
      (∀ i, i < addPlace g a → shortKey g (g.shortSorted i) ≤ a.toNat) ∧
      ∀ i, addPlace g a ≤ i → i < g.nSortedElements → a.toNat ≤ shortKey g (g.shortSorted i) := by
  have greater : ∀ i, a > sortedAddr g i ↔ shortKey g (g.shortSorted i) < a.toNat := fun _ =>
    UInt16.lt_iff_toNat_lt
  simp only [addPlace, greater]
  by_cases many : g.nSortedElements > 1
  · obtain ⟨le, before, after⟩ := last_place ix.sorted a.toNat
    rw [if_pos many, bisect_upto, if_neg]
    · exact ⟨le, before, fun i lo hi => Nat.le_of_lt (after i lo hi)⟩
    · rintro ⟨-, inside, less⟩
      have := after _ (Nat.le_refl _) inside
      omega
  · rw [if_neg many]
    split
    · rename_i single
      refine ⟨by omega, fun i hi => ?_, fun i lo hi => by omega⟩
      obtain rfl : i = 0 := by omega
      exact Nat.le_of_lt single.2.2
    · rename_i before
      refine ⟨Nat.zero_le _, fun i hi => by omega, fun i _ hi => ?_⟩
      obtain rfl : i = 0 := by omega
      by_contra less
      exact before ⟨hi, hi, by omega⟩

theorem addPlace_le (g : ZbAddrGlobals) (a : UInt16) : addPlace g a ≤ g.nSortedElements := by
  by_cases many : g.nSortedElements > 1
  · simp only [addPlace, if_pos many]
    split
    · rename_i before
      exact before.2.1
    · exact bisect_le (Nat.zero_le _)
  · simp only [addPlace, if_neg many]
    split
    · rename_i before
      exact before.2.1
    · exact Nat.zero_le _

/-- The array opened at the place: at its end there is nothing to move. -/
theorem move_addPlace (g : ZbAddrGlobals) (a : UInt16) :
    (if addPlace g a < g.nSortedElements then
        move g.shortSorted (addPlace g a + 1) (addPlace g a) (g.nSortedElements - addPlace g a)
      else g.shortSorted) =
      move g.shortSorted (addPlace g a + 1) (addPlace g a)
        (g.nSortedElements - addPlace g a) := by
  split
  · rfl
  · rename_i last
    have empty : g.nSortedElements - addPlace g a = 0 := by omega
    funext j
    rw [empty, move, if_neg (by omega)]

/-- Adding inserts the reference at its place, whatever is listed. -/
theorem addShortSorted_insert {ref : Nat} {a : UInt16} {g' : ZbAddrGlobals}
    (added : addShortSorted ref a g = some g') :
    g.nSortedElements < zbIeeeAddrTableSize ∧
      (∃ sorted, g' = { g with shortSorted := sorted
                               nSortedElements := g.nSortedElements + 1 }) ∧
      index g' = (index g).take (addPlace g a) ++ ref :: (index g).drop (addPlace g a) := by
  simp only [addShortSorted, move_addPlace] at added
  split at added
  · rename_i room
    cases added
    exact ⟨room, ⟨_, rfl⟩, live_open ref (addPlace_le g a)⟩
  · cases added

/-- **Adding an entry** that is not listed yet. -/
theorem addShortSorted_spec (ix : IndexOf g P) (room : g.nSortedElements < zbIeeeAddrTableSize)
    {ref : Nat} {a : UInt16} (fresh : ¬ P ref) (key : (g.addrMap ref).addr = a) :
    ∃ sorted, addShortSorted ref a g =
        some { g with shortSorted := sorted, nSortedElements := g.nSortedElements + 1 } ∧
      IndexOf { g with shortSorted := sorted, nSortedElements := g.nSortedElements + 1 }
        (fun r => r = ref ∨ P r) := by
  obtain ⟨-, before, after⟩ := addPlace_spec ix a
  cases added : addShortSorted ref a g with
  | none => simp [addShortSorted, room] at added
  | some g' =>
      obtain ⟨-, ⟨sorted, rfl⟩, array⟩ := addShortSorted_insert added
      refine ⟨sorted, rfl, ?_⟩
      have absent : ref ∉ index g := fun mem => fresh ((ix.members ref).1 mem)
      have keyed : shortKey g ref = a.toNat := congrArg UInt16.toNat key
      refine ⟨?_, fun r => ?_, ?_⟩
      · rw [array]
        exact nodup_insert ix.distinct absent
      · rw [array, mem_insert, ix.members]
      · rw [array]
        refine pairwise_insert ix.sorted (fun y hy => ?_) fun y hy => ?_
        · obtain ⟨i, lt, -, rfl⟩ := mem_take_live.1 hy
          exact (before i lt).trans_eq keyed.symm
        · obtain ⟨i, lo, hi, rfl⟩ := mem_drop_live.1 hy
          exact keyed.trans_le (after i lo hi)

end Add

/-! ## Deleting -/

section Delete

variable {behind ref n : Nat}

/-- The scan passes places that do not hold `ref`. -/
theorem delShortSortedScan_skip (k : Nat) {cnt i : Nat} {sorted : Nat → Nat} {dec : Nat}
    (absent : ∀ j, i ≤ j → j < i + k → sorted j ≠ ref) :
    delShortSortedScan behind ref n (k + cnt) i sorted dec =
      delShortSortedScan behind ref n cnt (i + k) sorted dec := by
  induction k generalizing i with
  | zero => simp
  | succ k ih =>
      have here : sorted i ≠ ref := absent i (Nat.le_refl i) (by omega)
      rw [show k + 1 + cnt = (k + cnt) + 1 by omega, delShortSortedScan, if_neg here,
        ih fun j lo hi => absent j (by omega) (by omega)]
      congr 1
      omega

theorem delShortSortedScan_absent {cnt i : Nat} {sorted : Nat → Nat} {dec : Nat}
    (absent : ∀ j, i ≤ j → j < i + cnt → sorted j ≠ ref) :
    delShortSortedScan behind ref n cnt i sorted dec = (sorted, dec) :=
  @delShortSortedScan_skip behind ref n cnt 0 i sorted dec absent

variable {g : ZbAddrGlobals}

@[simp] theorem delShortSorted_addrMap (ref : Nat) (g : ZbAddrGlobals) :
    (delShortSorted ref g).addrMap = g.addrMap := rfl

@[simp] theorem delShortSorted_nElements (ref : Nat) (g : ZbAddrGlobals) :
    (delShortSorted ref g).nElements = g.nElements := rfl

@[simp] theorem delShortSorted_usedManufacturer (ref : Nat) (g : ZbAddrGlobals) :
    (delShortSorted ref g).usedManufacturer = g.usedManufacturer := rfl

@[simp] theorem delShortSorted_devManufacturer (ref : Nat) (g : ZbAddrGlobals) :
    (delShortSorted ref g).devManufacturer = g.devManufacturer := rfl

/-- Deleting a reference that is not listed does nothing. -/
theorem delShortSorted_absent (absent : ref ∉ index g) : delShortSorted ref g = g := by
  have scan : delShortSortedScan (shortSortedAt g zbIeeeAddrTableSize) ref g.nSortedElements
      g.nSortedElements 0 g.shortSorted 0 = (g.shortSorted, 0) :=
    delShortSortedScan_absent fun j _ hj there => absent (mem_index.2 ⟨j, by omega, there⟩)
  simp only [delShortSorted, scan, Nat.sub_zero]

/-- The condition under which deleting `ref` from the array is right: the byte
behind the live part does not hold `ref`, unless `ref` is the last listed. -/
def DelIntact (g : ZbAddrGlobals) (ref : Nat) : Prop :=
  ref ∈ index g → shortSortedAt g g.nSortedElements ≠ ref ∨
    g.shortSorted (g.nSortedElements - 1) = ref

/-- The array as the block move sees it. -/
def arrayView (g : ZbAddrGlobals) (j : Nat) : Nat :=
  if j < zbIeeeAddrTableSize then g.shortSorted j else shortSortedAt g zbIeeeAddrTableSize

theorem arrayView_of_lt {j : Nat} (inside : j < zbIeeeAddrTableSize) :
    arrayView g j = g.shortSorted j := if_pos inside

theorem arrayView_of_le {j : Nat} (inside : j ≤ zbIeeeAddrTableSize) :
    arrayView g j = shortSortedAt g j := by
  rcases Nat.lt_or_eq_of_le inside with lt | rfl
  · rw [arrayView_of_lt lt, shortSortedAt, if_pos lt]
  · rw [arrayView, if_neg (Nat.lt_irrefl _)]

/-- What deleting a listed reference does, at the place it stands. -/
theorem delShortSorted_at (distinct : (index g).Nodup)
    (le : g.nSortedElements ≤ zbIeeeAddrTableSize) (intact : DelIntact g ref)
    (mem : ref ∈ index g) :
    ∃ p, p < g.nSortedElements ∧ g.shortSorted p = ref ∧
      (p = g.nSortedElements - 1 ∧
          delShortSorted ref g = { g with nSortedElements := g.nSortedElements - 1 } ∨
        p < g.nSortedElements - 1 ∧
          delShortSorted ref g = { g with
            shortSorted := move (arrayView g) p (p + 1) (g.nSortedElements - p)
            nSortedElements := g.nSortedElements - 1 }) := by
  obtain ⟨p, inside, at_⟩ := mem_index.1 mem
  have unique : ∀ j, j < g.nSortedElements → j ≠ p → g.shortSorted j ≠ ref := fun j hj ne same =>
    ne (live_nodup_iff.1 distinct j p hj inside (same.trans at_.symm))
  have before : delShortSortedScan (shortSortedAt g zbIeeeAddrTableSize) ref g.nSortedElements
      g.nSortedElements 0 g.shortSorted 0 =
      delShortSortedScan (shortSortedAt g zbIeeeAddrTableSize) ref g.nSortedElements
        (g.nSortedElements - p) p g.shortSorted 0 := by
    have skipped := @delShortSortedScan_skip (shortSortedAt g zbIeeeAddrTableSize) ref
      g.nSortedElements p (g.nSortedElements - p) 0 g.shortSorted 0
      fun j _ hj => unique j (by omega) (by omega)
    rwa [Nat.add_sub_cancel' (by omega), Nat.zero_add] at skipped
  refine ⟨p, inside, at_, ?_⟩
  obtain ⟨rest, count⟩ : ∃ rest, g.nSortedElements - p = rest + 1 :=
    ⟨g.nSortedElements - p - 1, by omega⟩
  by_cases last : p = g.nSortedElements - 1
  · refine Or.inl ⟨last, ?_⟩
    obtain rfl : rest = 0 := by omega
    simp only [delShortSorted, before, count, delShortSortedScan, at_, if_true]
    rw [if_neg (not_not.2 last)]
  · refine Or.inr ⟨by omega, ?_⟩
    have stale : shortSortedAt g g.nSortedElements ≠ ref := by
      refine (intact mem).resolve_right fun isLast => ?_
      exact unique _ (by omega) (fun e => last e.symm) isLast
    have after : delShortSortedScan (shortSortedAt g zbIeeeAddrTableSize) ref g.nSortedElements
        rest (p + 1) (move (arrayView g) p (p + 1) (g.nSortedElements - p)) (0 + 1) =
        (move (arrayView g) p (p + 1) (g.nSortedElements - p), 0 + 1) := by
      refine delShortSortedScan_absent fun j lo hi => ?_
      rw [move_down (by omega) (by omega)]
      by_cases live_ : j + 1 < g.nSortedElements
      · rw [arrayView_of_lt (by omega)]
        exact unique _ live_ (by omega)
      · rw [arrayView_of_le (by omega), show j + 1 = g.nSortedElements by omega]
        exact stale
    simp only [delShortSorted, before]
    rw [count, delShortSortedScan, if_pos at_, if_pos last, ← count]
    exact congrArg (fun r : (Nat → Nat) × Nat =>
      { g with shortSorted := r.1, nSortedElements := g.nSortedElements - r.2 }) after

/-- **Deleting an entry** removes exactly it. -/
theorem index_delShortSorted (distinct : (index g).Nodup)
    (le : g.nSortedElements ≤ zbIeeeAddrTableSize) (intact : DelIntact g ref) :
    index (delShortSorted ref g) = (index g).erase ref := by
  by_cases mem : ref ∈ index g
  · obtain ⟨p, inside, at_, effect⟩ := delShortSorted_at distinct le intact mem
    have place := idxOf_index distinct inside at_
    rw [← List.eraseIdx_idxOf_eq_erase, place]
    rcases effect with ⟨last, effect⟩ | ⟨before, effect⟩
    · have closed := live_close (f := g.shortSorted) (m := 0) inside (by omega)
      have still : move g.shortSorted p (p + 1) 0 = g.shortSorted := by
        funext j
        rw [move, if_neg (by omega)]
      rw [still] at closed
      rw [effect]
      exact closed
    · have closed := live_close (f := arrayView g) (m := g.nSortedElements - p) inside (by omega)
      have same : live (arrayView g) g.nSortedElements = index g :=
        live_congr fun i hi => arrayView_of_lt (by omega)
      rw [same] at closed
      rw [effect]
      exact closed
  · rw [delShortSorted_absent mem, List.erase_of_not_mem mem]

/-- What deleting does in any case: a listed reference goes, and where a stale
copy of it stood behind the live part, the last entry goes with it. -/
theorem index_delShortSorted_sublist (distinct : (index g).Nodup)
    (le : g.nSortedElements ≤ zbIeeeAddrTableSize) :
    (index (delShortSorted ref g)).Sublist ((index g).erase ref) := by
  by_cases intact : DelIntact g ref
  · rw [index_delShortSorted distinct le intact]
  · simp only [DelIntact, not_forall, not_or, not_not] at intact
    obtain ⟨mem, stale, notLast⟩ := intact
    obtain ⟨p, inside, at_⟩ := mem_index.1 mem
    have before : p < g.nSortedElements - 1 := by
      refine Nat.lt_of_le_of_ne (by omega) fun last => notLast ?_
      rw [← last]
      exact at_
    have unique : ∀ j, j < g.nSortedElements → j ≠ p → g.shortSorted j ≠ ref := fun j hj ne same =>
      ne (live_nodup_iff.1 distinct j p hj inside (same.trans at_.symm))
    obtain ⟨rest, count⟩ : ∃ rest, g.nSortedElements = p + (rest + 1) + 1 :=
      ⟨g.nSortedElements - p - 2, by omega⟩
    have moved : ∀ j, p ≤ j → j < g.nSortedElements →
        move (arrayView g) p (p + 1) (g.nSortedElements - p) j = arrayView g (j + 1) :=
      fun j lo hi => move_down lo (by omega)
    have first := @delShortSortedScan_skip (shortSortedAt g zbIeeeAddrTableSize) ref
      g.nSortedElements p (rest + 1 + 1) 0 g.shortSorted 0
      fun j _ hj => unique j (by omega) (by omega)
    have second := @delShortSortedScan_skip (shortSortedAt g zbIeeeAddrTableSize) ref
      g.nSortedElements rest 1 (p + 1)
      (move (arrayView g) p (p + 1) (g.nSortedElements - p)) 1 fun j lo hi => by
        rw [moved j (by omega) (by omega), arrayView_of_lt (by omega)]
        exact unique _ (by omega) (by omega)
    have copy : move (arrayView g) p (p + 1) (g.nSortedElements - p) (p + 1 + rest) = ref := by
      rw [moved _ (by omega) (by omega), arrayView_of_le (by omega),
        show p + 1 + rest + 1 = g.nSortedElements by omega]
      exact stale
    have effect : delShortSorted ref g = { g with
        shortSorted := move (arrayView g) p (p + 1) (g.nSortedElements - p)
        nSortedElements := g.nSortedElements - 2 } := by
      have scan : delShortSortedScan (shortSortedAt g zbIeeeAddrTableSize) ref g.nSortedElements
          g.nSortedElements 0 g.shortSorted 0 =
          (move (arrayView g) p (p + 1) (g.nSortedElements - p), 2) := by
        rw [show p + (rest + 1 + 1) = g.nSortedElements by omega, Nat.zero_add] at first
        rw [first, delShortSortedScan, if_pos at_, if_pos (by omega)]
        show delShortSortedScan _ ref _ (rest + 1) (p + 1)
          (move (arrayView g) p (p + 1) (g.nSortedElements - p)) 1 = _
        rw [second, delShortSortedScan, if_pos copy, if_neg (by omega), delShortSortedScan]
      simp only [delShortSorted, scan]
    have closed := live_close (f := arrayView g) (m := g.nSortedElements - p) inside (by omega)
    have same : live (arrayView g) g.nSortedElements = index g :=
      live_congr fun i hi => arrayView_of_lt (by omega)
    have place := idxOf_index distinct inside at_
    rw [same, ← place, List.eraseIdx_idxOf_eq_erase, place] at closed
    rw [← closed, show g.nSortedElements - 1 = g.nSortedElements - 2 + 1 by omega, live_succ, effect]
    exact List.sublist_append_left ..

theorem IndexOf.del {P : Nat → Prop} (ix : IndexOf g P)
    (inside : ∀ r, P r → r < zbIeeeAddrTableSize) (intact : DelIntact g ref) :
    IndexOf (delShortSorted ref g) (fun r => r ≠ ref ∧ P r) := by
  have array := index_delShortSorted ix.distinct (ix.length_le inside) intact
  refine ⟨?_, fun r => ?_, ?_⟩
  · rw [array]
    exact ix.distinct.erase ref
  · rw [array, ix.distinct.mem_erase_iff, ix.members]
  · rw [array]
    exact ix.sorted.sublist List.erase_sublist

/-- When a second reference may be deleted after `ref`: the byte that the first
deletion leaves behind the live part is the old one, unless `ref` was last. -/
theorem delIntact_delShortSorted {q : Nat} (distinct : (index g).Nodup)
    (le : g.nSortedElements ≤ zbIeeeAddrTableSize) (intact : DelIntact g ref)
    (mem : ref ∈ index g) (ne : q ≠ ref)
    (second : q ∈ index g → shortSortedAt g g.nSortedElements ≠ q ∨
      g.shortSorted (g.nSortedElements - 1) = q ∨ g.shortSorted (g.nSortedElements - 1) = ref) :
    DelIntact (delShortSorted ref g) q := by
  intro listed
  have array := index_delShortSorted distinct le intact
  rw [array, distinct.mem_erase_iff] at listed
  obtain ⟨p, inside, at_, effect⟩ := delShortSorted_at distinct le intact mem
  rcases effect with ⟨last, effect⟩ | ⟨before, effect⟩
  · refine Or.inl ?_
    rw [effect]
    simp only [shortSortedAt]
    rw [if_pos (by omega), ← last, at_]
    exact ne.symm
  · have length : g.nSortedElements - 1 < zbIeeeAddrTableSize := by omega
    have moved : ∀ j, p ≤ j → j < g.nSortedElements →
        (delShortSorted ref g).shortSorted j = arrayView g (j + 1) := by
      intro j lo hi
      rw [effect]
      exact move_down lo (by omega)
    have count : (delShortSorted ref g).nSortedElements = g.nSortedElements - 1 := by rw [effect]
    rw [count, shortSortedAt, if_pos length, moved _ (by omega) (by omega)]
    rw [Nat.sub_add_cancel (by omega), arrayView_of_le le]
    rcases second listed.2 with stale | lastQ | lastRef
    · exact Or.inl stale
    · refine Or.inr ?_
      have apart : p ≠ g.nSortedElements - 1 - 1 + 1 := by omega
      rw [moved _ (by omega) (by omega), arrayView_of_lt (by omega),
        show g.nSortedElements - 1 - 1 + 1 = g.nSortedElements - 1 by omega]
      exact lastQ
    · have same := live_nodup_iff.1 distinct _ p (by omega) inside (lastRef.trans at_.symm)
      omega

end Delete

end Zboss.Common.AddressIndex
