/-
# Common.AddressCount -- the number of entries in use

`nElements` is the number of entries in use, and the scans that stop when they have
passed so many of them rest on it (`Counted`).  One call does one of three things to the
set of the entries in use: nothing, one entry more, or one entry less (`Occupancy`).
`occupancy_step` says so for every documented call, and `counted_step` carries the count
along.  Neither needs the sorted array to be complete: what it has lost is an entry that is
not found, not one that is not counted.
-/
import Mathlib
import Zboss.Common.AddressHolds

namespace Zboss.Common.AddressCount

open Zboss.Theory.Table
open Zboss.Theory.Directory
open Zboss.Common.Types
open Zboss.Common.Address
open Zboss.Common.AddressIndex
open Zboss.Common.AddressPairs
open Zboss.Common.AddressRun
open Zboss.Common.AddressHolds

set_option autoImplicit false

/-! ## The entries in use -/

/-- The slots that are taken. -/
def uses (g : ZbAddrGlobals) (r : Nat) : Option Unit :=
  if (g.addrMap r).used = true then some () else none

/-- **The counter is right**, and what the sorted array lists is in use. -/
structure Counted (g : ZbAddrGlobals) : Prop where
  listing : Listing g
  inside : ∀ r, (g.addrMap r).used = true → r < zbIeeeAddrTableSize
  count : g.nElements = occupied (uses g) zbIeeeAddrTableSize

/-- The same entries are in use. -/
structure SameUse (g g' : ZbAddrGlobals) : Prop where
  uses : uses g' = uses g
  count : g'.nElements = g.nElements

/-- **What a call does to the entries in use.** -/
inductive Occupancy (g g' : ZbAddrGlobals) : Prop where
  | same (kept : SameUse g g')
  | more (i : Nat) (inside : i < zbIeeeAddrTableSize) (free : (g.addrMap i).used = false)
      (after : uses g' = Function.update (uses g) i (some ()))
      (count : g'.nElements = g.nElements + 1)
  | less (ref : Nat) (used : (g.addrMap ref).used = true)
      (after : uses g' = Function.update (uses g) ref none)
      (count : g'.nElements = decUshort g.nElements)

section Uses

variable {g g₁ g' : ZbAddrGlobals} {r ref : Nat}

theorem uses_of_used (used : (g.addrMap r).used = true) : uses g r = some () := if_pos used

theorem uses_of_free (free : (g.addrMap r).used = false) : uses g r = none := by
  simp [uses, free]

theorem used_of_uses (taken : uses g r = some ()) : (g.addrMap r).used = true := by
  simpa [uses] using taken

theorem uses_congr (same : ∀ r, (g'.addrMap r).used = (g.addrMap r).used) : uses g' = uses g := by
  funext r
  simp only [uses, same]

theorem SameUse.refl (g : ZbAddrGlobals) : SameUse g g := ⟨rfl, rfl⟩

theorem SameUse.trans (first : SameUse g g₁) (second : SameUse g₁ g') : SameUse g g' :=
  ⟨second.uses.trans first.uses, second.count.trans first.count⟩

theorem SameUse.used (kept : SameUse g g') (r : Nat) :
    (g'.addrMap r).used = (g.addrMap r).used := by
  have same := congrFun kept.uses r
  simp only [AddressCount.uses] at same
  cases before : (g.addrMap r).used <;> cases after : (g'.addrMap r).used <;>
    simp [before, after] at same <;> rfl

/-- Nothing, and then something. -/
theorem SameUse.trans_occupancy (first : SameUse g g₁) (second : Occupancy g₁ g') :
    Occupancy g g' := by
  cases second with
  | same kept => exact .same (first.trans kept)
  | more i inside free after count =>
      refine .more i inside ?_ ?_ ?_
      · rw [← first.used]
        exact free
      · rw [after, first.uses]
      · rw [count, first.count]
  | less ref used after count =>
      refine .less ref ?_ ?_ ?_
      · rw [← first.used]
        exact used
      · rw [after, first.uses]
      · rw [count, first.count]

/-- Something, and then nothing. -/
theorem Occupancy.trans_same (first : Occupancy g g₁) (second : SameUse g₁ g') :
    Occupancy g g' := by
  cases first with
  | same kept => exact .same (kept.trans second)
  | more i inside free after count =>
      exact .more i inside free (second.uses.trans after) (second.count.trans count)
  | less ref used after count =>
      exact .less ref used (second.uses.trans after) (second.count.trans count)

/-- **What is done to the entries in use is done to their number.** -/
theorem Counted.of_occupancy (counted : Counted g) (listing : Listing g')
    (done : Occupancy g g') : Counted g' := by
  refine ⟨listing, fun r used => ?_, ?_⟩
  · have taken := uses_of_used used
    cases done with
    | same kept =>
        rw [kept.uses] at taken
        exact counted.inside r (used_of_uses taken)
    | more i inside free after count =>
        by_cases here : r = i
        · rw [here]
          exact inside
        · rw [after, Function.update_of_ne here] at taken
          exact counted.inside r (used_of_uses taken)
    | less ref was after count =>
        by_cases here : r = ref
        · rw [here]
          exact counted.inside ref was
        · rw [after, Function.update_of_ne here] at taken
          exact counted.inside r (used_of_uses taken)
  · cases done with
    | same kept => rw [kept.uses, kept.count, counted.count]
    | more i inside free after count =>
        rw [after, count, counted.count, occupied_fill inside (uses_of_free free)]
    | less ref was after count =>
        have cleared := occupied_clear (counted.inside ref was) (uses_of_used was)
        rw [after, count, counted.count, ← cleared, decUshort_succ]

/-- What changes clocks and locks only. -/
theorem sameUse_of_table (same : table g' = table g) : SameUse g g' :=
  ⟨uses_congr fun _ => used_congr same,
    table_congr ZbAddrGlobals.nElements (fun _ => rfl) same⟩

theorem listing_of_table (same : table g' = table g) (ok : Listing g) : Listing g' := by
  have array : index g' = index g := table_congr index (fun _ => rfl) same
  have size : g'.nSortedElements = g.nSortedElements :=
    table_congr ZbAddrGlobals.nSortedElements (fun _ => rfl) same
  refine ⟨size ▸ ok.fits, array ▸ ok.distinct, fun r mem => ?_⟩
  rw [array] at mem
  have addr : (g'.addrMap r).addr = (g.addrMap r).addr :=
    table_congr (fun g => (g.addrMap r).addr) (fun _ => rfl) same
  rw [used_congr same, addr]
  exact ok.listed r mem

theorem Counted.of_table (counted : Counted g) (same : table g' = table g) : Counted g' :=
  counted.of_occupancy (listing_of_table same counted.listing) (.same (sameUse_of_table same))

end Uses

/-! ## The parts of a call -/

section Parts

variable {g g' : ZbAddrGlobals} {ref : Nat} {a : UInt16} {code : ZbIeeeAddrCompressed}
  {res : Except ZbRet Nat}

theorem sameUse_compress {ieee : ZbIeeeAddr} (taken : zbIeeeAddrCompress ieee g = some (g', code)) :
    SameUse g g' := by
  obtain ⟨ents, -, -, count⟩ := zbIeeeAddrCompress_frame taken
  exact ⟨uses_congr fun r => by rw [ents], count⟩

theorem occupancy_addrAdd {ieee : Option ZbIeeeAddrCompressed} (ok : Listing g)
    (taken : addrAdd ieee a g = some (g', res)) : Listing g' ∧ Occupancy g g' := by
  rcases addrAdd_ent ok taken with ⟨rfl, -⟩ |
    ⟨i, inside, -, free, listing, others, here, -, count⟩
  · exact ⟨ok, .same (SameUse.refl g')⟩
  · refine ⟨listing, .more i inside free ?_ count⟩
    funext r
    by_cases at_ : r = i
    · subst at_
      have used := congrArg ZbAddressMap.used here
      rw [Function.update_self]
      exact uses_of_used used
    · have used := congrArg ZbAddressMap.used (others r at_)
      rw [Function.update_of_ne at_]
      exact congrArg (fun used : Bool => if used = true then some () else none) used

theorem occupancy_delete (used : (g.addrMap ref).used = true) :
    Occupancy g (zbAddressDelete ref g) := by
  refine .less ref used ?_ rfl
  funext r
  by_cases at_ : r = ref
  · rw [at_, Function.update_self]
    apply uses_of_free
    rw [zbAddressDelete_self]
  · rw [Function.update_of_ne at_, uses, uses, zbAddressDelete_of_ne at_]

theorem sameUse_setPair (taken : setPair ref code a g = some g') : SameUse g g' := by
  obtain ⟨others, here, -⟩ := setPair_ent taken
  refine ⟨uses_congr fun r => ?_, ?_⟩
  · by_cases at_ : r = ref
    · rw [at_, here]
    · rw [others r at_]
  · simp only [setPair, Option.bind_eq_bind, Option.bind_eq_some_iff] at taken
    obtain ⟨g₁, relisted, done⟩ := taken
    cases done
    simp only [relist] at relisted
    rw [setEnt_nElements]
    split at relisted
    · obtain ⟨-, ⟨sorted, rfl⟩, -⟩ := addShortSorted_insert relisted
      split <;> rfl
    · cases relisted
      rfl

/-- Resolving a conflict takes one entry out of use, and the pair goes to another one. -/
theorem occupancy_resolveRef {found : Option Nat} (ok : Listing g)
    (resolved : resolveRef (shortSearch g a) (ieeeSearch g code) g = some (g', found)) :
    Listing g' ∧ Occupancy g g' ∧ (found = none → g' = g) ∧
      ∀ ref, found = some ref → (g'.addrMap ref).used = true := by
  have usedShort : ∀ ref, shortSearch g a = some ref → (g.addrMap ref).used = true :=
    fun ref found => shortSearch_used ok found
  have usedLong : ∀ ref, ieeeSearch g code = some ref → (g.addrMap ref).used = true :=
    fun ref found => (ieeeSearch_found found).1
  rcases resolveRef_cases resolved with ⟨-, -, rfl, rfl⟩ | ⟨ref, rfl, rfl, which⟩ |
    ⟨ref, refLong, fs, fl, ne, which⟩
  · exact ⟨ok, .same (SameUse.refl g'), fun _ => rfl, fun ref impossible => by cases impossible⟩
  · refine ⟨ok, .same (SameUse.refl g'), fun _ => rfl, ?_⟩
    rintro _ ⟨⟩
    rcases which with ⟨fs, -⟩ | ⟨fs, -⟩ | ⟨-, fl⟩
    · exact usedShort ref fs
    · exact usedShort ref fs
    · exact usedLong ref fl
  · rcases which with ⟨-, rfl, rfl⟩ | ⟨-, -, rfl, rfl⟩
    · refine ⟨listing_zbAddressDelete ok ref, occupancy_delete (usedShort ref fs),
        fun impossible => (by cases impossible), ?_⟩
      rintro _ ⟨⟩
      rw [zbAddressDelete_of_ne ne.symm]
      exact usedLong refLong fl
    · refine ⟨listing_zbAddressDelete ok refLong, occupancy_delete (usedLong refLong fl),
        fun impossible => (by cases impossible), ?_⟩
      rintro _ ⟨⟩
      rw [zbAddressDelete_of_ne ne]
      exact usedShort ref fs

end Parts

/-! ## The calls -/

section Calls

variable {g g' : ZbAddrGlobals} {ieee : ZbIeeeAddr} {a : UInt16} {create lock : Bool}
  {res : Except ZbRet Nat}

theorem occupancy_byIeee (ok : Listing g)
    (taken : zbAddressByIeee ieee create lock g = some (g', res)) :
    Listing g' ∧ Occupancy g g' := by
  obtain ⟨g₁, code, compressed, looked⟩ := zbAddressByIeee_cases taken
  have entered : SameUse g g₁ := sameUse_compress compressed
  have ok₁ : Listing g₁ := (calm_compress compressed).listing ok
  rcases looked with ⟨ref, -, tables, -⟩ | ⟨-, -, rfl, -⟩ | ⟨-, -, g₂, added, tables⟩
  · exact ⟨listing_of_table tables ok₁, .same (entered.trans (sameUse_of_table tables))⟩
  · exact ⟨ok₁, .same entered⟩
  · obtain ⟨ok₂, done⟩ := occupancy_addrAdd ok₁ added
    exact ⟨listing_of_table tables ok₂,
      (entered.trans_occupancy done).trans_same (sameUse_of_table tables)⟩

theorem occupancy_byShort (ok : Listing g)
    (taken : zbAddressByShort a create lock g = some (g', res)) :
    Listing g' ∧ Occupancy g g' := by
  rcases zbAddressByShort_cases taken with ⟨ref, -, tables, -⟩ | ⟨-, -, rfl, -⟩ |
    ⟨-, -, g₂, added, tables⟩
  · exact ⟨listing_of_table tables ok, .same (sameUse_of_table tables)⟩
  · exact ⟨ok, .same (SameUse.refl g')⟩
  · obtain ⟨ok₂, done⟩ := occupancy_addrAdd ok added
    exact ⟨listing_of_table tables ok₂, done.trans_same (sameUse_of_table tables)⟩

theorem occupancy_update (ok : Listing g) (short : a ≠ zbUnknownShortAddr)
    (taken : zbAddressUpdate ieee a lock g = some (g', res)) :
    Listing g' ∧ Occupancy g g' := by
  obtain ⟨g₁, code, g₂, found, compressed, resolved, written⟩ := zbAddressUpdate_cases taken
  have entered : SameUse g g₁ := sameUse_compress compressed
  have ok₁ : Listing g₁ := (calm_compress compressed).listing ok
  obtain ⟨ok₂, freed, none_, used⟩ := occupancy_resolveRef ok₁ resolved
  rcases written with ⟨ref, g₃, hit, set, tables, -⟩ | ⟨missed, g₃, added, tables⟩
  · have ok₃ : Listing g₃ := setPair_listing ok₂ (used ref hit) short set
    refine ⟨listing_of_table tables ok₃, entered.trans_occupancy ?_⟩
    exact freed.trans_same ((sameUse_setPair set).trans (sameUse_of_table tables))
  · obtain rfl := none_ missed
    obtain ⟨ok₃, done⟩ := occupancy_addrAdd ok₂ added
    exact ⟨listing_of_table tables ok₃,
      (entered.trans_occupancy done).trans_same (sameUse_of_table tables)⟩

/-- **One call** takes one entry into use, or one out of use, or neither. -/
theorem occupancy_step {call : AddressCall} (ok : Listing g) (documented : Documented g call)
    (taken : addressStep g call = some g') : Listing g' ∧ Occupancy g g' := by
  cases call with
  | byIeee ieee create lock =>
      obtain ⟨⟨g', res⟩, called, rfl⟩ := Option.map_eq_some_iff.1 taken
      exact occupancy_byIeee ok called
  | byShort shortAddress create lock =>
      obtain ⟨⟨g', res⟩, called, rfl⟩ := Option.map_eq_some_iff.1 taken
      exact occupancy_byShort ok called
  | update ieee shortAddress lock =>
      obtain ⟨⟨g', res⟩, called, rfl⟩ := Option.map_eq_some_iff.1 taken
      exact occupancy_update ok documented.2 called
  | delete ref =>
      cases taken
      exact ⟨listing_zbAddressDelete ok ref, occupancy_delete documented.2⟩

/-- **One call keeps the count.** -/
theorem counted_step {call : AddressCall} (counted : Counted g) (documented : Documented g call)
    (taken : addressStep g call = some g') : Counted g' := by
  obtain ⟨listing, done⟩ := occupancy_step counted.listing documented taken
  exact counted.of_occupancy listing done

theorem counted_byShort (counted : Counted g)
    (taken : zbAddressByShort a create lock g = some (g', res)) : Counted g' := by
  obtain ⟨listing, done⟩ := occupancy_byShort counted.listing taken
  exact counted.of_occupancy listing done

end Calls

theorem counted_init : Counted .init where
  listing := holdsOk_init.listing
  inside r used := by cases used
  count := occupied_empty.symm

end Zboss.Common.AddressCount
