/-
# Common.AddressHolds -- what a lock holds, and which calls respect it

`HoldsOk` is what the locks rest on: the sorted array lists entries in use only, a
locked entry is in use, and the manufacturer of a known long address is in its
table.  It does not need the array to be complete, so the stale copies that
`delShortSorted` moves in do no harm here.

`Quiet g g'` says that a part of a call added nothing, moved no lock and left every
locked entry in use under the long address it is known by.  Lookups are quiet;
deleting is quiet when the entry is not locked (`delete_quiet`); writing a pair is
quiet when a locked entry that is known keeps its address (`setPair_quiet`).
`Kept locks g g'` is the same for a whole call, which may add one entry: that one
comes with `locks` locks (`byIeee_kept`, `byShort_kept`, `update_kept`).
-/
import Mathlib
import Zboss.Common.AddressBijection

namespace Zboss.Common.AddressHolds

open Zboss.Theory.Table
open Zboss.Theory.SortedIndex
open Zboss.Common.Types
open Zboss.Common.Address
open Zboss.Common.AddressIndex
open Zboss.Common.AddressPairs
open Zboss.Common.AddressRun
open Zboss.Common.AddressBijection

set_option autoImplicit false

/-- The long address an entry is known by: none as long as its bytes are zero. -/
def knownIeee (g : ZbAddrGlobals) (r : Nat) : Option ZbIeeeAddr :=
  if (g.addrMap r).ieeeAddr = .zero then none
  else some (zbIeeeAddrDecompress g (g.addrMap r).ieeeAddr)

/-- The array lists entries in use that have a short address, once each. -/
structure Listing (g : ZbAddrGlobals) : Prop where
  fits : g.nSortedElements ≤ zbIeeeAddrTableSize
  distinct : (index g).Nodup
  listed : ∀ r ∈ index g,
    (g.addrMap r).used = true ∧ (g.addrMap r).addr ≠ zbUnknownShortAddr

/-- **What the locks rest on.** -/
structure HoldsOk (g : ZbAddrGlobals) : Prop where
  listing : Listing g
  held : ∀ r, 0 < (g.addrMap r).lockCnt → (g.addrMap r).used = true
  coded : ∀ r, (g.addrMap r).used = true → (g.addrMap r).ieeeAddr ≠ .zero →
    (g.addrMap r).ieeeAddr.devManufacturer < zbDevManufactorerTableSize ∧
      g.usedManufacturer (g.addrMap r).ieeeAddr.devManufacturer = true
  manufacturers : ManufacturersDistinct g

/-- A part of a call that adds nothing and leaves what is locked as it is. -/
structure Quiet (g g' : ZbAddrGlobals) : Prop where
  locks : ∀ r, (g'.addrMap r).lockCnt = (g.addrMap r).lockCnt
  old : ∀ r, (g'.addrMap r).used = true → (g.addrMap r).used = true
  used : ∀ r, 0 < (g.addrMap r).lockCnt → (g'.addrMap r).used = true
  known : ∀ r ieee, 0 < (g.addrMap r).lockCnt → knownIeee g r = some ieee →
    knownIeee g' r = some ieee

/-- **A call keeps what is locked**, and what it adds has `locks` locks. -/
structure Kept (locks : Nat) (g g' : ZbAddrGlobals) : Prop where
  used : ∀ r, 0 < (g.addrMap r).lockCnt → (g'.addrMap r).used = true
  known : ∀ r ieee, 0 < (g.addrMap r).lockCnt → knownIeee g r = some ieee →
    knownIeee g' r = some ieee
  fresh : ∀ r, (g.addrMap r).used = false → (g'.addrMap r).used = true →
    (g'.addrMap r).lockCnt = locks

section Basics

variable {g g₁ g' : ZbAddrGlobals} {locks : Nat}

theorem Quiet.refl (ok : HoldsOk g) : Quiet g g where
  locks _ := rfl
  old _ used := used
  used := ok.held
  known _ _ _ known := known

theorem Quiet.trans (first : Quiet g g₁) (second : Quiet g₁ g') : Quiet g g' where
  locks r := (second.locks r).trans (first.locks r)
  old r used := first.old r (second.old r used)
  used r locked := second.used r (by rwa [first.locks])
  known r ieee locked known :=
    second.known r ieee (by rwa [first.locks]) (first.known r ieee locked known)

theorem Quiet.kept (quiet : Quiet g g') : Kept locks g g' where
  used := quiet.used
  known := quiet.known
  fresh r free used := by
    rw [quiet.old r used] at free
    cases free

theorem Quiet.trans_kept (first : Quiet g g₁) (second : Kept locks g₁ g') : Kept locks g g' where
  used r locked := second.used r (by rwa [first.locks])
  known r ieee locked known :=
    second.known r ieee (by rwa [first.locks]) (first.known r ieee locked known)
  fresh r free used := by
    refine second.fresh r ?_ used
    cases before : (g₁.addrMap r).used with
    | false => rfl
    | true => rw [first.old r before] at free; cases free

/-- An entry's known address depends on the entry and on its manufacturer. -/
theorem knownIeee_congr {r : Nat} (same : (g'.addrMap r).ieeeAddr = (g.addrMap r).ieeeAddr)
    (manufacturer : (g.addrMap r).ieeeAddr ≠ .zero →
      g'.devManufacturer (g.addrMap r).ieeeAddr.devManufacturer =
        g.devManufacturer (g.addrMap r).ieeeAddr.devManufacturer) :
    knownIeee g' r = knownIeee g r := by
  rw [knownIeee, knownIeee, same]
  split
  · rfl
  · rename_i named
    rw [zbIeeeAddrDecompress, zbIeeeAddrDecompress, manufacturer named]

end Basics

/-! ## Parts that change no entry but its clock -/

/-- Entries as they were but for their clocks, the same array, no manufacturer
lost. -/
structure Calm (g g' : ZbAddrGlobals) : Prop where
  ent : ∀ r, { g'.addrMap r with clock := false } = { g.addrMap r with clock := false }
  sorted : g'.shortSorted = g.shortSorted
  count : g'.nSortedElements = g.nSortedElements
  manufacturers : ∀ i, g.usedManufacturer i = true →
    g'.usedManufacturer i = true ∧ g'.devManufacturer i = g.devManufacturer i

section Calm

variable {g g' : ZbAddrGlobals}

theorem Calm.used (calm : Calm g g') (r : Nat) : (g'.addrMap r).used = (g.addrMap r).used := by
  have same := congrArg ZbAddressMap.used (calm.ent r)
  exact same

theorem Calm.lockCnt (calm : Calm g g') (r : Nat) :
    (g'.addrMap r).lockCnt = (g.addrMap r).lockCnt := by
  have same := congrArg ZbAddressMap.lockCnt (calm.ent r)
  exact same

theorem Calm.ieeeAddr (calm : Calm g g') (r : Nat) :
    (g'.addrMap r).ieeeAddr = (g.addrMap r).ieeeAddr := by
  have same := congrArg ZbAddressMap.ieeeAddr (calm.ent r)
  exact same

theorem Calm.addr (calm : Calm g g') (r : Nat) : (g'.addrMap r).addr = (g.addrMap r).addr := by
  have same := congrArg ZbAddressMap.addr (calm.ent r)
  exact same

theorem calm_of_unclocked (same : unclocked g' = unclocked g) : Calm g g' where
  ent r := congrFun (congrArg ZbAddrGlobals.addrMap same) r
  sorted := by
    have sorted := congrArg ZbAddrGlobals.shortSorted same
    exact sorted
  count := by
    have count := congrArg ZbAddrGlobals.nSortedElements same
    exact count
  manufacturers i used := by
    have usedSame := congrFun (congrArg ZbAddrGlobals.usedManufacturer same) i
    have devSame := congrFun (congrArg ZbAddrGlobals.devManufacturer same) i
    exact ⟨usedSame.trans used, devSame⟩

theorem calm_clock (g : ZbAddrGlobals) (ref : Nat) :
    Calm g (g.setEnt ref fun ent => { ent with clock := true }) :=
  calm_of_unclocked (clock_unclocked g ref)

theorem calm_compress {ieee : ZbIeeeAddr} {code : ZbIeeeAddrCompressed}
    (taken : zbIeeeAddrCompress ieee g = some (g', code)) : Calm g g' := by
  obtain ⟨-, -, ⟨-, -, rfl⟩ | ⟨free, -, rfl⟩⟩ := zbIeeeAddrCompress_cases taken
  · exact ⟨fun _ => rfl, rfl, rfl, fun _ used => ⟨used, rfl⟩⟩
  · refine ⟨fun _ => rfl, rfl, rfl, fun i used => ?_⟩
    have ne : i ≠ code.devManufacturer := fun here => by rw [here, free] at used; cases used
    exact ⟨(Function.update_of_ne ne ..).trans used, Function.update_of_ne ne ..⟩

theorem Calm.listing (calm : Calm g g') (ok : Listing g) : Listing g' := by
  have array : index g' = index g := by rw [index, index, calm.sorted, calm.count]
  refine ⟨by rw [calm.count]; exact ok.fits, by rw [array]; exact ok.distinct, fun r mem => ?_⟩
  rw [array] at mem
  rw [calm.used, calm.addr]
  exact ok.listed r mem

theorem Calm.holdsOk (calm : Calm g g') (ok : HoldsOk g) (distinct : ManufacturersDistinct g') :
    HoldsOk g' where
  listing := calm.listing ok.listing
  held r locked := by
    rw [calm.lockCnt] at locked
    rw [calm.used]
    exact ok.held r locked
  coded r used named := by
    rw [calm.used] at used
    rw [calm.ieeeAddr] at named ⊢
    obtain ⟨inside, there⟩ := ok.coded r used named
    exact ⟨inside, (calm.manufacturers _ there).1⟩
  manufacturers := distinct

theorem Calm.quiet (calm : Calm g g') (ok : HoldsOk g) : Quiet g g' where
  locks := calm.lockCnt
  old r used := by rwa [calm.used] at used
  used r locked := by
    rw [calm.used]
    exact ok.held r locked
  known r ieee locked known := by
    rw [knownIeee_congr (calm.ieeeAddr r) fun named => ?_]
    · exact known
    · exact (calm.manufacturers _ (ok.coded r (ok.held r locked) named).2).2

theorem holdsOk_clock (ok : HoldsOk g) (ref : Nat) :
    HoldsOk (g.setEnt ref fun ent => { ent with clock := true }) :=
  (calm_clock g ref).holdsOk ok ok.manufacturers

theorem holdsOk_compress {ieee : ZbIeeeAddr} {code : ZbIeeeAddrCompressed} (ok : HoldsOk g)
    (taken : zbIeeeAddrCompress ieee g = some (g', code)) : HoldsOk g' :=
  (calm_compress taken).holdsOk ok (manufacturersDistinct_compress ok.manufacturers taken)

end Calm

/-! ## Taking an entry out of the array and putting one in -/

section Array

variable {g g' : ZbAddrGlobals} {ref : Nat} {a : UInt16}

/-- After deleting, the reference is not listed. -/
theorem listing_delShortSorted (ok : Listing g) (ref : Nat) :
    Listing (delShortSorted ref g) ∧ ref ∉ index (delShortSorted ref g) := by
  have fewer : (index (delShortSorted ref g)).Sublist ((index g).erase ref) :=
    index_delShortSorted_sublist ok.distinct ok.fits
  have size := fewer.length_le
  have shorter := (List.erase_sublist (a := ref) (l := index g)).length_le
  rw [length_index] at size
  rw [length_index] at shorter
  refine ⟨⟨(size.trans shorter).trans ok.fits, (ok.distinct.erase ref).sublist fewer,
    fun r mem => ok.listed r (List.mem_of_mem_erase (fewer.subset mem))⟩, fun mem => ?_⟩
  have kept := fewer.subset mem
  rw [ok.distinct.mem_erase_iff] at kept
  exact kept.1 rfl

/-- Listing an entry that is not listed, and then putting it in use. -/
theorem listing_addShortSorted {f : ZbAddressMap → ZbAddressMap} (ok : Listing g)
    (absent : ref ∉ index g) (added : addShortSorted ref a g = some g')
    (used : (f (g.addrMap ref)).used = true)
    (short : (f (g.addrMap ref)).addr ≠ zbUnknownShortAddr) : Listing (g'.setEnt ref f) := by
  obtain ⟨room, ⟨sorted, same⟩, array⟩ := addShortSorted_insert added
  have inserted : index (g'.setEnt ref f) =
      (index g).take (addPlace g a) ++ ref :: (index g).drop (addPlace g a) := array
  have ents : g'.addrMap = g.addrMap := by rw [same]
  have count : g'.nSortedElements = g.nSortedElements + 1 := by rw [same]
  refine ⟨?_, ?_, fun r mem => ?_⟩
  · rw [setEnt_nSortedElements, count]
    exact room
  · rw [inserted]
    exact nodup_insert ok.distinct absent
  · rw [inserted, mem_insert] at mem
    by_cases here : r = ref
    · rw [here, setEnt_self, ents]
      exact ⟨used, short⟩
    · rw [setEnt_of_ne _ _ _ here, ents]
      exact ok.listed r (mem.resolve_left here)

/-- Rewriting an entry that stays in use with a short address, or is not listed. -/
theorem listing_setEnt {f : ZbAddressMap → ZbAddressMap} (ok : Listing g)
    (stays : ref ∈ index g → (f (g.addrMap ref)).used = true ∧
      (f (g.addrMap ref)).addr ≠ zbUnknownShortAddr) : Listing (g.setEnt ref f) := by
  refine ⟨ok.fits, ok.distinct, fun r mem => ?_⟩
  by_cases here : r = ref
  · subst here
    rw [setEnt_self]
    exact stays mem
  · rw [setEnt_of_ne g ref f here]
    exact ok.listed r mem

end Array

/-! ## Deleting, writing, adding -/

section Parts

variable {g g' : ZbAddrGlobals} {ref : Nat}

theorem zbAddressDelete_self (ref : Nat) (g : ZbAddrGlobals) :
    (zbAddressDelete ref g).addrMap ref = { g.addrMap ref with used := false } :=
  setEnt_self (delShortSorted ref g) ref fun ent => { ent with used := false }

/-- A deleted entry is not listed. -/
theorem listing_zbAddressDelete (ok : Listing g) (ref : Nat) : Listing (zbAddressDelete ref g) := by
  obtain ⟨listing, absent⟩ := listing_delShortSorted ok ref
  have freed : Listing ((delShortSorted ref g).setEnt ref fun ent => { ent with used := false }) :=
    listing_setEnt listing fun mem => absurd mem absent
  exact ⟨freed.fits, freed.distinct, freed.listed⟩

/-- **Deleting an entry that is not locked.** -/
theorem delete_quiet (ok : HoldsOk g) (unlocked : (g.addrMap ref).lockCnt = 0) :
    HoldsOk (zbAddressDelete ref g) ∧ Quiet g (zbAddressDelete ref g) := by
  have locks : ∀ r, ((zbAddressDelete ref g).addrMap r).lockCnt = (g.addrMap r).lockCnt := by
    intro r
    by_cases here : r = ref
    · rw [here, zbAddressDelete_self]
    · rw [zbAddressDelete_of_ne here]
  have apart : ∀ r, 0 < (g.addrMap r).lockCnt → r ≠ ref := fun r locked here => by
    rw [here] at locked
    omega
  have gone : ∀ r, ((zbAddressDelete ref g).addrMap r).used = true → r ≠ ref := by
    intro r used here
    rw [here, zbAddressDelete_self] at used
    cases used
  refine ⟨⟨listing_zbAddressDelete ok.listing ref, fun r locked => ?_,
    fun r used named => ?_, ok.manufacturers⟩, locks, fun r used => ?_, fun r locked => ?_,
    fun r ieee locked known => ?_⟩
  · rw [locks] at locked
    rw [zbAddressDelete_of_ne (apart r locked)]
    exact ok.held r locked
  · have ne := gone r used
    rw [zbAddressDelete_of_ne ne] at used named ⊢
    exact ok.coded r used named
  · rwa [zbAddressDelete_of_ne (gone r used)] at used
  · rw [zbAddressDelete_of_ne (apart r locked)]
    exact ok.held r locked
  · have same : knownIeee (zbAddressDelete ref g) r = knownIeee g r :=
      knownIeee_congr (by rw [zbAddressDelete_of_ne (apart r locked)]) fun _ => rfl
    exact same.trans known

/-- What writing a pair does to the entries: the pair, and the clock. -/
theorem setPair_ent {code : ZbIeeeAddrCompressed} {a : UInt16}
    (taken : setPair ref code a g = some g') :
    (∀ r, r ≠ ref → g'.addrMap r = g.addrMap r) ∧
      g'.addrMap ref = { g.addrMap ref with ieeeAddr := code, addr := a, clock := true } ∧
      manufacturers g' = manufacturers g := by
  simp only [setPair, Option.bind_eq_bind, Option.bind_eq_some_iff] at taken
  obtain ⟨g₁, relisted, done⟩ := taken
  cases done
  simp only [relist, setEnt_self] at relisted
  have made : (∀ r, r ≠ ref → g₁.addrMap r = g.addrMap r) ∧
      g₁.addrMap ref = { g.addrMap ref with ieeeAddr := code, addr := a } ∧
      manufacturers g₁ = manufacturers g := by
    split at relisted
    · obtain ⟨-, ⟨sorted, rfl⟩, -⟩ := addShortSorted_insert relisted
      split <;> refine ⟨fun r ne => ?_, ?_, rfl⟩
      · rw [setEnt_of_ne _ _ _ ne, delShortSorted_addrMap, setEnt_of_ne _ _ _ ne]
      · rw [setEnt_self, delShortSorted_addrMap, setEnt_self]
      · rw [setEnt_of_ne _ _ _ ne, setEnt_of_ne _ _ _ ne]
      · rw [setEnt_self, setEnt_self]
    · rename_i same
      cases relisted
      have same : (g.addrMap ref).addr = a := not_not.1 same
      refine ⟨fun r ne => setEnt_of_ne _ _ _ ne, ?_, rfl⟩
      rw [setEnt_self, ← same]
  obtain ⟨others, here, manu⟩ := made
  refine ⟨fun r ne => ?_, ?_, manu⟩
  · rw [setEnt_of_ne _ _ _ ne, others r ne]
  · rw [setEnt_self, here]

theorem setPair_listing {code : ZbIeeeAddrCompressed} {a : UInt16} (ok : Listing g)
    (used : (g.addrMap ref).used = true) (short : a ≠ zbUnknownShortAddr)
    (taken : setPair ref code a g = some g') : Listing g' := by
  simp only [setPair, Option.bind_eq_bind, Option.bind_eq_some_iff] at taken
  obtain ⟨g₁, relisted, done⟩ := taken
  cases done
  have coded : Listing (g.setEnt ref fun ent => { ent with ieeeAddr := code }) :=
    listing_setEnt ok (ok.listed ref)
  simp only [relist] at relisted
  split at relisted
  · split at relisted
    · obtain ⟨deleted, absent⟩ := listing_delShortSorted coded ref
      refine listing_addShortSorted (listing_setEnt deleted fun mem => absurd mem absent) absent
        relisted ?_ ?_
      · rw [setEnt_self, delShortSorted_addrMap, setEnt_self]
        exact used
      · rw [setEnt_self]
        exact short
    · rename_i unknown
      have absent : ref ∉ index (g.setEnt ref fun ent => { ent with ieeeAddr := code }) :=
        fun mem => unknown (coded.listed ref mem).2
      refine listing_addShortSorted (listing_setEnt coded fun mem => absurd mem absent) absent
        relisted ?_ ?_
      · rw [setEnt_self, setEnt_self]
        exact used
      · rw [setEnt_self]
        exact short
  · cases relisted
    exact listing_setEnt coded (coded.listed ref)

/-- **Writing a pair** into an entry in use that keeps its long address when it is
locked and known. -/
theorem setPair_quiet {code : ZbIeeeAddrCompressed} {a : UInt16} (ok : HoldsOk g)
    (used : (g.addrMap ref).used = true) (short : a ≠ zbUnknownShortAddr)
    (inside : code.devManufacturer < zbDevManufactorerTableSize)
    (there : g.usedManufacturer code.devManufacturer = true)
    (same : 0 < (g.addrMap ref).lockCnt → (g.addrMap ref).ieeeAddr ≠ .zero →
      (g.addrMap ref).ieeeAddr = code)
    (taken : setPair ref code a g = some g') : HoldsOk g' ∧ Quiet g g' := by
  obtain ⟨others, here, manu⟩ := setPair_ent taken
  simp only [manufacturers, Prod.mk.injEq] at manu
  have locks : ∀ r, (g'.addrMap r).lockCnt = (g.addrMap r).lockCnt := by
    intro r
    by_cases at_ : r = ref
    · rw [at_, here]
    · rw [others r at_]
  have uses : ∀ r, (g'.addrMap r).used = (g.addrMap r).used := by
    intro r
    by_cases at_ : r = ref
    · rw [at_, here]
    · rw [others r at_]
  refine ⟨⟨setPair_listing ok.listing used short taken, fun r locked => ?_, fun r inUse named => ?_,
    ?_⟩, locks, fun r inUse => by rwa [uses] at inUse, fun r locked => ?_,
    fun r ieee locked known => ?_⟩
  · rw [uses]
    exact ok.held r (by rwa [locks] at locked)
  · rw [manu.1]
    by_cases at_ : r = ref
    · rw [at_, here]
      exact ⟨inside, there⟩
    · rw [others r at_] at inUse named ⊢
      exact ok.coded r inUse named
  · rw [ManufacturersDistinct, manu.1, manu.2]
    exact ok.manufacturers
  · rw [uses]
    exact ok.held r locked
  · by_cases at_ : r = ref
    · subst at_
      have named : (g.addrMap r).ieeeAddr ≠ .zero := fun zero => by
        rw [knownIeee, if_pos zero] at known
        cases known
      have address : (g'.addrMap r).ieeeAddr = (g.addrMap r).ieeeAddr := by
        rw [here]
        exact (same locked named).symm
      exact (knownIeee_congr address fun _ => by rw [manu.2]).trans known
    · have same : knownIeee g' r = knownIeee g r :=
        knownIeee_congr (by rw [others r at_]) fun _ => by rw [manu.2]
      exact same.trans known

/-- A call that found or made the entry it returns, before it locks it. -/
structure Effect (g g' : ZbAddrGlobals) (res : Except ZbRet Nat) : Prop where
  ok : HoldsOk g'
  kept : Kept 0 g g'
  found : ∀ ref, res = .ok ref → (g'.addrMap ref).used = true
  made : ∀ r, (g.addrMap r).used = false → (g'.addrMap r).used = true → res = .ok r

theorem Quiet.effect {res : Except ZbRet Nat} (quiet : Quiet g g') (ok : HoldsOk g')
    (found : ∀ ref, res = .ok ref → (g'.addrMap ref).used = true) : Effect g g' res where
  ok := ok
  kept := quiet.kept
  found := found
  made r free used := by
    rw [quiet.old r used] at free
    cases free

theorem Quiet.trans_effect {g₁ : ZbAddrGlobals} {res : Except ZbRet Nat} (first : Quiet g g₁)
    (second : Effect g₁ g' res) : Effect g g' res where
  ok := second.ok
  kept := first.trans_kept second.kept
  found := second.found
  made r free used := by
    refine second.made r ?_ used
    cases before : (g₁.addrMap r).used with
    | false => rfl
    | true => rw [first.old r before] at free; cases free

/-- What adding a pair does: the table is full, or one free entry is filled and
everything else keeps what it holds. -/
theorem addrAdd_ent {ieee : Option ZbIeeeAddrCompressed} {a : UInt16} {res : Except ZbRet Nat}
    (ok : Listing g) (taken : addrAdd ieee a g = some (g', res)) :
    (g' = g ∧ res = .error .overflow) ∨
      ∃ i, i < zbIeeeAddrTableSize ∧ res = .ok i ∧ (g.addrMap i).used = false ∧ Listing g' ∧
        (∀ r, r ≠ i → { g'.addrMap r with clock := false } =
          { g.addrMap r with clock := false }) ∧
        { g'.addrMap i with clock := false } =
          { g.addrMap i with ieeeAddr := ieee.getD .zero, addr := a, used := true, clock := false } ∧
        manufacturers g' = manufacturers g ∧ g'.nElements = g.nElements + 1 := by
  simp only [addrAdd] at taken
  split at taken
  · cases taken
    exact Or.inl ⟨rfl, rfl⟩
  · rename_i i found
    have start : (ieee.map zbAddressCompressedIeeeHash).getD 0 < zbIeeeAddrTableSize := by
      cases ieee with
      | none => decide
      | some code => exact Nat.mod_lt _ (by decide)
    obtain ⟨inside, unused⟩ := probe_some start found
    have free : (g.addrMap i).used = false := by simpa using unused
    simp only [Option.bind_eq_bind, Option.bind_eq_some_iff] at taken
    obtain ⟨g₁, listed, done⟩ := taken
    cases done
    have calm : Calm g (clockTick g) := calm_of_unclocked (clockTick_unclocked g)
    have tickFree : ((clockTick g).addrMap i).used = false := (calm.used i).trans free
    have tickOk : Listing (clockTick g) := calm.listing ok
    have absent : i ∉ index (clockTick g) := fun mem => by
      rw [(tickOk.listed i mem).1] at tickFree
      cases tickFree
    have writtenOk : Listing (writeEnt i ieee a (clockTick g)) :=
      listing_setEnt tickOk fun mem => absurd mem absent
    have written : ((writeEnt i ieee a (clockTick g)).addrMap i) =
        { (clockTick g).addrMap i with addr := a, clock := true, ieeeAddr := ieee.getD .zero } :=
      setEnt_self (clockTick g) i fun ent =>
        { ent with addr := a, clock := true, ieeeAddr := ieee.getD .zero }
    have ents : g₁.addrMap = (writeEnt i ieee a (clockTick g)).addrMap ∧
        manufacturers g₁ = manufacturers (clockTick g) ∧
        g₁.nElements = (clockTick g).nElements ∧
        Listing (g₁.setEnt i fun ent => { ent with used := true }) := by
      simp only [listEnt, written, tickFree] at listed
      split at listed
      · rename_i short
        obtain ⟨-, ⟨sorted, same⟩, -⟩ := addShortSorted_insert listed
        refine ⟨by rw [same]; rfl, by rw [same]; rfl, by rw [same]; rfl, ?_⟩
        refine listing_addShortSorted writtenOk absent listed rfl ?_
        rw [written]
        exact short
      · cases listed
        exact ⟨rfl, rfl, rfl, listing_setEnt writtenOk fun mem => absurd mem absent⟩
    obtain ⟨ents, manu, count, listing⟩ := ents
    have others : ∀ r, r ≠ i → (useEnt i g₁).addrMap r = (clockTick g).addrMap r := by
      intro r ne
      rw [useEnt, setEnt_of_ne _ _ _ ne]
      show g₁.addrMap r = _
      rw [ents, writeEnt, setEnt_of_ne _ _ _ ne]
    have here : (useEnt i g₁).addrMap i = { (clockTick g).addrMap i with
        addr := a, clock := true, ieeeAddr := ieee.getD .zero, used := true } := by
      rw [useEnt, setEnt_self]
      show { g₁.addrMap i with used := true } = _
      rw [ents, written]
    have manuTick : manufacturers (clockTick g) = manufacturers g := by
      have same := congrArg manufacturers (clockTick_unclocked g)
      exact same
    have countTick : (clockTick g).nElements = g.nElements := by
      have same := congrArg ZbAddrGlobals.nElements (clockTick_unclocked g)
      exact same
    refine Or.inr ⟨i, inside, rfl, free, ⟨listing.fits, listing.distinct, listing.listed⟩,
      fun r ne => ?_, ?_, manu.trans manuTick, ?_⟩
    · rw [others r ne]
      exact calm.ent r
    · rw [here]
      have same := congrArg (fun ent : ZbAddressMap =>
        { ent with ieeeAddr := ieee.getD .zero, addr := a, used := true }) (calm.ent i)
      exact same
    · have unusedYet : (g₁.addrMap i).used = false := by
        rw [ents, written]
        exact tickFree
      rw [useEnt, setEnt_nElements]
      simp only [unusedYet, count, countTick, Bool.false_eq_true, if_false]

/-- **Adding a pair**: the entry that is filled was free, so it has no lock. -/
theorem addrAdd_effect {ieee : Option ZbIeeeAddrCompressed} {a : UInt16} {res : Except ZbRet Nat}
    (ok : HoldsOk g)
    (coded : ∀ code ∈ ieee, code.devManufacturer < zbDevManufactorerTableSize ∧
      g.usedManufacturer code.devManufacturer = true)
    (taken : addrAdd ieee a g = some (g', res)) : Effect g g' res := by
  rcases addrAdd_ent ok.listing taken with ⟨rfl, rfl⟩ |
    ⟨i, -, rfl, free, listing, others, here, manu, -⟩
  · exact (Quiet.refl ok).effect ok fun ref impossible => by cases impossible
  simp only [manufacturers, Prod.mk.injEq] at manu
  have unlocked : (g.addrMap i).lockCnt = 0 := by
    rcases Nat.eq_zero_or_pos (g.addrMap i).lockCnt with zero | locked
    · exact zero
    · rw [ok.held i locked] at free
      cases free
  have hereUsed := congrArg ZbAddressMap.used here
  have hereLocks := congrArg ZbAddressMap.lockCnt here
  have hereIeee := congrArg ZbAddressMap.ieeeAddr here
  dsimp only at hereUsed hereLocks hereIeee
  have used : ∀ r, r ≠ i → (g'.addrMap r).used = (g.addrMap r).used := fun r ne => by
    have same := congrArg ZbAddressMap.used (others r ne)
    exact same
  have locks : ∀ r, (g'.addrMap r).lockCnt = (g.addrMap r).lockCnt := fun r => by
    by_cases at_ : r = i
    · rw [at_, hereLocks]
    · have same := congrArg ZbAddressMap.lockCnt (others r at_)
      exact same
  have address : ∀ r, r ≠ i → (g'.addrMap r).ieeeAddr = (g.addrMap r).ieeeAddr := fun r ne => by
    have same := congrArg ZbAddressMap.ieeeAddr (others r ne)
    exact same
  have apart : ∀ r, 0 < (g.addrMap r).lockCnt → r ≠ i := fun r locked at_ => by
    rw [at_] at locked
    omega
  have stays : ∀ r, 0 < (g.addrMap r).lockCnt → (g'.addrMap r).used = true := fun r locked => by
    rw [used r (apart r locked)]
    exact ok.held r locked
  refine ⟨⟨listing, fun r locked => stays r (by rwa [locks] at locked), fun r inUse named => ?_, ?_⟩,
    ⟨stays, fun r ieee locked known => ?_, fun r before after => ?_⟩, ?_, fun r before after => ?_⟩
  · rw [manu.1]
    by_cases at_ : r = i
    · rw [at_, hereIeee] at named ⊢
      cases ieee with
      | none => exact absurd rfl named
      | some code => exact coded code rfl
    · rw [used r at_] at inUse
      rw [address r at_] at named ⊢
      exact ok.coded r inUse named
  · rw [ManufacturersDistinct, manu.1, manu.2]
    exact ok.manufacturers
  · have same : knownIeee g' r = knownIeee g r :=
      knownIeee_congr (address r (apart r locked)) fun _ => by rw [manu.2]
    exact same.trans known
  · by_cases at_ : r = i
    · rw [at_, locks, unlocked]
    · rw [used r at_, before] at after
      cases after
  · rintro ref ⟨⟩
    exact hereUsed
  · by_cases at_ : r = i
    · rw [at_]
    · rw [used r at_, before] at after
      cases after

/-! ## Locking -/

/-- Rewriting the lock of an entry, and its clock. -/
theorem relock {f : ZbAddressMap → ZbAddressMap} (ok : HoldsOk g)
    (same : ∀ ent, { f ent with lockCnt := 0, clock := false } =
      { ent with lockCnt := 0, clock := false })
    (inUse : (g.addrMap ref).used = true) :
    HoldsOk (g.setEnt ref f) ∧
      ∀ r, ((g.setEnt ref f).addrMap r).used = (g.addrMap r).used ∧
        knownIeee (g.setEnt ref f) r = knownIeee g r := by
  have ent : ∀ r, { (g.setEnt ref f).addrMap r with lockCnt := 0, clock := false } =
      { g.addrMap r with lockCnt := 0, clock := false } := by
    intro r
    by_cases here : r = ref
    · rw [here, setEnt_self, same]
    · rw [setEnt_of_ne _ _ _ here]
  have used : ∀ r, ((g.setEnt ref f).addrMap r).used = (g.addrMap r).used := fun r => by
    have used := congrArg ZbAddressMap.used (ent r)
    exact used
  have address : ∀ r, ((g.setEnt ref f).addrMap r).ieeeAddr = (g.addrMap r).ieeeAddr := fun r => by
    have address := congrArg ZbAddressMap.ieeeAddr (ent r)
    exact address
  have short : ∀ r, ((g.setEnt ref f).addrMap r).addr = (g.addrMap r).addr := fun r => by
    have short := congrArg ZbAddressMap.addr (ent r)
    exact short
  refine ⟨⟨⟨ok.listing.fits, ok.listing.distinct, fun r mem => ?_⟩, fun r locked => ?_,
    fun r there named => ?_, ok.manufacturers⟩, fun r => ⟨used r, ?_⟩⟩
  · rw [used, short]
    exact ok.listing.listed r mem
  · rw [used]
    by_cases here : r = ref
    · rw [here]
      exact inUse
    · rw [setEnt_of_ne _ _ _ here] at locked
      exact ok.held r locked
  · rw [used] at there
    rw [address] at named ⊢
    exact ok.coded r there named
  · exact knownIeee_congr (address r) fun _ => rfl

/-- **Locking an entry** in use. -/
theorem lock_kept (locks : Nat) (ok : HoldsOk g) (inUse : (g.addrMap ref).used = true)
    (taken : zbAddressLock ref g = some g') :
    HoldsOk g' ∧ Kept locks g g' ∧
      (g'.addrMap ref).lockCnt = ((g.addrMap ref).lockCnt + 1) % 16 ∧
      ∀ r, (g'.addrMap r).used = (g.addrMap r).used ∧ knownIeee g' r = knownIeee g r := by
  simp only [zbAddressLock] at taken
  split at taken
  · cases taken
    obtain ⟨locked, same⟩ := relock (f := fun ent =>
      { ent with lockCnt := ((g.addrMap ref).lockCnt + 1) % 16, clock := true }) ok
      (fun _ => rfl) inUse
    refine ⟨locked, ⟨fun r held => ?_, fun r ieee _ known => ?_, fun r free used => ?_⟩, ?_, same⟩
    · rw [(same r).1]
      exact ok.held r held
    · exact (same r).2.trans known
    · rw [(same r).1, free] at used
      cases used
    · rw [setEnt_self]
  · cases taken

theorem unlock_kept (locks : Nat) (ok : HoldsOk g) (taken : zbAddressUnlock ref g = some g') :
    HoldsOk g' ∧ Kept locks g g' := by
  simp only [zbAddressUnlock] at taken
  split at taken
  · rename_i locked
    cases taken
    obtain ⟨unlocked, same⟩ := relock (f := fun ent => { ent with lockCnt := ent.lockCnt - 1 }) ok
      (fun _ => rfl) (ok.held ref (Nat.pos_of_ne_zero locked))
    refine ⟨unlocked, fun r held => ?_, fun r ieee _ known => ?_, fun r free used => ?_⟩
    · rw [(same r).1]
      exact ok.held r held
    · exact (same r).2.trans known
    · rw [(same r).1, free] at used
      cases used
  · cases taken

/-- The entry a call returns is locked once, when the caller asks for it. -/
theorem Effect.lockIf {g₁ : ZbAddrGlobals} {lock : Bool} {r : ZbAddrGlobals × Except ZbRet Nat}
    {res : Except ZbRet Nat} (effect : Effect g r.1 r.2)
    (taken : lockIf lock r = some (g₁, res)) :
    HoldsOk g₁ ∧ Kept (if lock = true then 1 else 0) g g₁ := by
  obtain ⟨g', found⟩ := r
  cases lock with
  | false =>
      cases taken
      exact ⟨effect.ok, effect.kept⟩
  | true =>
      cases found with
      | error status =>
          cases taken
          refine ⟨effect.ok, effect.kept.used, effect.kept.known, fun r free used => ?_⟩
          cases effect.made r free used
      | ok ref =>
          simp only [Address.lockIf, Option.map_eq_some_iff, Prod.mk.injEq] at taken
          obtain ⟨g₂, locked, rfl, rfl⟩ := taken
          obtain ⟨ok, kept, count, same⟩ := lock_kept 1 effect.ok
            (effect.found ref rfl) locked
          refine ⟨ok, fun r held => ?_, fun r ieee held known => ?_, fun r free used => ?_⟩
          · rw [(same r).1]
            exact effect.kept.used r held
          · exact (same r).2.trans (effect.kept.known r ieee held known)
          · rw [(same r).1] at used
            have here := effect.made r free used
            have zero := effect.kept.fresh r free used
            cases here
            rw [count, zero]
            rfl

end Parts

/-! ## The calls -/

section Calls

variable {g g' : ZbAddrGlobals} {ieee : ZbIeeeAddr} {a : UInt16} {create lock : Bool}
  {res : Except ZbRet Nat}

/-- A search by short address finds an entry in use. -/
theorem shortSearch_used {r : Nat} (ok : Listing g) (found : shortSearch g a = some r) :
    (g.addrMap r).used = true :=
  (ok.listed r (shortSearch_eq_some found).1).1

theorem ieeeSearch_found {code : ZbIeeeAddrCompressed} {r : Nat}
    (found : ieeeSearch g code = some r) :
    (g.addrMap r).used = true ∧ (g.addrMap r).ieeeAddr = code := by
  obtain ⟨b, there⟩ := ieeeSearch_eq_some found
  obtain ⟨-, used, same, -⟩ := pairs_eq_some.1 there
  exact ⟨used, same⟩

theorem clock_effect {r : Nat} (ok : HoldsOk g) (used : (g.addrMap r).used = true) :
    Effect g (g.setEnt r fun ent => { ent with clock := true }) (.ok r) := by
  refine ((calm_clock g r).quiet ok).effect (holdsOk_clock ok r) ?_
  rintro _ ⟨⟩
  rw [(calm_clock g r).used]
  exact used

theorem byIeee_kept (ok : HoldsOk g)
    (taken : zbAddressByIeee ieee create lock g = some (g', res)) :
    HoldsOk g' ∧ Kept (if lock = true then 1 else 0) g g' := by
  obtain ⟨g₁, code, r, compressed, locked, looked⟩ := zbAddressByIeee_split taken
  have quiet := (calm_compress compressed).quiet ok
  have ok₁ := holdsOk_compress ok compressed
  have effect : Effect g₁ r.1 r.2 := by
    rcases looked with ⟨ref, found, rfl⟩ | ⟨-, -, rfl⟩ | ⟨-, -, added⟩
    · exact clock_effect ok₁ (ieeeSearch_found found).1
    · exact (Quiet.refl ok₁).effect ok₁ fun ref impossible => by cases impossible
    · refine addrAdd_effect ok₁ ?_ added
      rintro _ ⟨⟩
      obtain ⟨-, inside, there, -⟩ := compress_code compressed
      exact ⟨inside, there⟩
  exact (quiet.trans_effect effect).lockIf locked

theorem byShort_kept (ok : HoldsOk g)
    (taken : zbAddressByShort a create lock g = some (g', res)) :
    HoldsOk g' ∧ Kept (if lock = true then 1 else 0) g g' := by
  obtain ⟨r, locked, looked⟩ := zbAddressByShort_split taken
  have effect : Effect g r.1 r.2 := by
    rcases looked with ⟨ref, found, rfl⟩ | ⟨-, -, rfl⟩ | ⟨-, -, added⟩
    · exact clock_effect ok (shortSearch_used ok.listing found)
    · exact (Quiet.refl ok).effect ok fun ref impossible => by cases impossible
    · exact addrAdd_effect ok (fun code impossible => by cases impossible) added
  exact effect.lockIf locked

/-- An entry known by an address holds the code that the address compresses to. -/
theorem code_of_known {g₁ : ZbAddrGlobals} {code : ZbIeeeAddrCompressed} {r : Nat} (ok : HoldsOk g)
    (used : (g.addrMap r).used = true) (known : knownIeee g r = some ieee)
    (compressed : zbIeeeAddrCompress ieee g = some (g₁, code)) :
    (g.addrMap r).ieeeAddr = code := by
  simp only [knownIeee] at known
  split at known
  · cases known
  · rename_i named
    obtain ⟨inside, there⟩ := ok.coded r used named
    simp only [Option.some.injEq, zbIeeeAddrDecompress] at known
    obtain ⟨manufacturer, device⟩ :=
      ZbIeeeAddr.make_inj (known.trans (ZbIeeeAddr.make_parts ieee).symm)
    have again := zbIeeeAddrCompress_known ok.manufacturers device inside there manufacturer
    rw [compressed] at again
    cases again
    rfl

/-- What an update asks: a short address, and that a locked entry which is known
and has that short address is known by the long one. -/
def UpdateRespects (g : ZbAddrGlobals) (ieee : ZbIeeeAddr) (a : UInt16) : Prop :=
  a ≠ zbUnknownShortAddr ∧ ∀ ref ∈ shortSearch g a, 0 < (g.addrMap ref).lockCnt →
    ∀ old ∈ knownIeee g ref, old = ieee

/-- The entry the pair goes to, and the entry that gives way to it. -/
theorem resolveRef_quiet {g₁ : ZbAddrGlobals} {code : ZbIeeeAddrCompressed} {found : Option Nat}
    (ok : HoldsOk g₁)
    (same : ∀ ref ∈ shortSearch g₁ a, 0 < (g₁.addrMap ref).lockCnt →
      (g₁.addrMap ref).ieeeAddr ≠ .zero → (g₁.addrMap ref).ieeeAddr = code)
    (resolved : resolveRef (shortSearch g₁ a) (ieeeSearch g₁ code) g₁ = some (g', found)) :
    HoldsOk g' ∧ Quiet g₁ g' ∧ manufacturers g' = manufacturers g₁ ∧
      ∀ ref, found = some ref → (g'.addrMap ref).used = true ∧
        (0 < (g'.addrMap ref).lockCnt → (g'.addrMap ref).ieeeAddr ≠ .zero →
          (g'.addrMap ref).ieeeAddr = code) := by
  rcases resolveRef_cases resolved with ⟨-, -, rfl, rfl⟩ | ⟨ref, rfl, rfl, which⟩ |
    ⟨ref, refLong, fs, fl, ne, which⟩
  · exact ⟨ok, Quiet.refl ok, rfl, fun ref impossible => by cases impossible⟩
  · refine ⟨ok, Quiet.refl ok, rfl, ?_⟩
    rintro _ ⟨⟩
    rcases which with ⟨fs, -⟩ | ⟨fs, -⟩ | ⟨-, fl⟩
    · exact ⟨shortSearch_used ok.listing fs, same ref fs⟩
    · exact ⟨shortSearch_used ok.listing fs, same ref fs⟩
    · exact ⟨(ieeeSearch_found fl).1, fun _ _ => (ieeeSearch_found fl).2⟩
  · rcases which with ⟨free, rfl, rfl⟩ | ⟨-, free, rfl, rfl⟩
    · obtain ⟨deleted, quiet⟩ := delete_quiet ok free
      refine ⟨deleted, quiet, rfl, ?_⟩
      rintro _ ⟨⟩
      rw [zbAddressDelete_of_ne ne.symm]
      exact ⟨(ieeeSearch_found fl).1, fun _ _ => (ieeeSearch_found fl).2⟩
    · obtain ⟨deleted, quiet⟩ := delete_quiet ok free
      refine ⟨deleted, quiet, rfl, ?_⟩
      rintro _ ⟨⟩
      rw [zbAddressDelete_of_ne ne]
      exact ⟨shortSearch_used ok.listing fs, same _ fs⟩

theorem update_kept (ok : HoldsOk g) (respects : UpdateRespects g ieee a)
    (taken : zbAddressUpdate ieee a lock g = some (g', res)) :
    HoldsOk g' ∧ Kept (if lock = true then 1 else 0) g g' := by
  obtain ⟨g₁, code, g₂, found, r, compressed, resolved, locked, written⟩ :=
    zbAddressUpdate_split taken
  have calm := calm_compress compressed
  have ok₁ := holdsOk_compress ok compressed
  obtain ⟨-, inside, there, -⟩ := compress_code compressed
  have same : ∀ ref ∈ shortSearch g₁ a, 0 < (g₁.addrMap ref).lockCnt →
      (g₁.addrMap ref).ieeeAddr ≠ .zero → (g₁.addrMap ref).ieeeAddr = code := by
    intro ref fs held named
    rw [calm.lockCnt] at held
    rw [calm.ieeeAddr] at named ⊢
    have before : shortSearch g a = some ref := by
      obtain ⟨-, -, ⟨-, -, rfl⟩ | ⟨-, -, rfl⟩⟩ := zbIeeeAddrCompress_cases compressed <;> exact fs
    have known : knownIeee g ref = some (zbIeeeAddrDecompress g (g.addrMap ref).ieeeAddr) :=
      if_neg named
    have named := respects.2 ref before held _ known
    exact code_of_known ok (shortSearch_used ok.listing before) (named ▸ known) compressed
  obtain ⟨ok₂, quiet₂, manu, target⟩ := resolveRef_quiet ok₁ same resolved
  simp only [manufacturers, Prod.mk.injEq] at manu
  rw [← manu.1] at there
  have effect : Effect g₂ r.1 r.2 := by
    rcases written with ⟨ref, g₃, hit, set, rfl⟩ | ⟨-, added⟩
    · obtain ⟨used, kept⟩ := target ref hit
      obtain ⟨ok₃, quiet₃⟩ := setPair_quiet ok₂ used respects.1 inside there kept set
      refine quiet₃.effect ok₃ ?_
      rintro _ ⟨⟩
      rw [(setPair_ent set).2.1]
      exact used
    · refine addrAdd_effect ok₂ ?_ added
      rintro _ ⟨⟩
      exact ⟨inside, there⟩
  exact (((calm.quiet ok).trans quiet₂).trans_effect effect).lockIf locked

/-- A lookup that creates nothing and takes no lock. -/
theorem lookupShort_quiet (ok : HoldsOk g)
    (taken : zbAddressByShort a false false g = some (g', res)) :
    HoldsOk g' ∧ Quiet g g' ∧ (∀ ref, res = .ok ref → shortSearch g a = some ref) ∧
      ∀ status, res = .error status → shortSearch g a = none ∧ g' = g := by
  obtain ⟨r, locked, looked⟩ := zbAddressByShort_split taken
  cases locked
  rcases looked with ⟨ref, found, same⟩ | ⟨failed, -, same⟩ | ⟨-, impossible, -⟩
  · cases same
    refine ⟨holdsOk_clock ok ref, (calm_clock g ref).quiet ok, ?_, fun _ impossible => ?_⟩
    · rintro _ ⟨⟩
      exact found
    · cases impossible
  · cases same
    exact ⟨ok, Quiet.refl ok, (fun ref impossible => by cases impossible), fun _ _ => ⟨failed, rfl⟩⟩
  · cases impossible

/-- The entry a long address finds. -/
def foundLong (g : ZbAddrGlobals) (ieee : ZbIeeeAddr) : Option Nat :=
  (zbIeeeAddrCompress ieee g).bind fun r => ieeeSearch r.1 r.2

theorem lookupIeee_quiet (ok : HoldsOk g)
    (taken : zbAddressByIeee ieee false false g = some (g', res)) :
    HoldsOk g' ∧ Quiet g g' ∧ ∀ ref, res = .ok ref → foundLong g ieee = some ref := by
  obtain ⟨g₁, code, r, compressed, locked, looked⟩ := zbAddressByIeee_split taken
  have quiet := (calm_compress compressed).quiet ok
  have ok₁ := holdsOk_compress ok compressed
  cases locked
  rcases looked with ⟨ref, found, same⟩ | ⟨-, -, same⟩ | ⟨-, impossible, -⟩
  · cases same
    refine ⟨holdsOk_clock ok₁ ref, quiet.trans ((calm_clock g₁ ref).quiet ok₁), ?_⟩
    rintro _ ⟨⟩
    rw [foundLong, compressed]
    exact found
  · cases same
    exact ⟨ok₁, quiet, fun ref impossible => by cases impossible⟩
  · cases impossible

end Calls

theorem holdsOk_init : HoldsOk .init where
  listing := ⟨Nat.zero_le _, List.nodup_nil, fun r mem => by cases mem⟩
  held r locked := by cases locked
  coded r used := by cases used
  manufacturers i j _ _ used := by cases used

end Zboss.Common.AddressHolds
