/-
# Nwk.RefusedJoin -- what a refused join leaves behind

A parent that does not take a device in should be as it was: the two counters its
addresses are computed from, the address table with its locks, and the neighbour table with
its index (`NoTrace`).  The acceptance counts the child before it enters it in the tables,
and it removes the neighbour entry of a device with other capabilities before it knows
whether there is room.

`refusedJoin_iff`: of a refused join nothing is left exactly when the device was turned away
for want of room, had no neighbour entry to remove, and looking for it entered nothing
either (`TurnedAway`).

Pole: `refused_join_forgets`.
-/
import Mathlib
import Zboss.Common.FailedLookup
import Zboss.Nwk.ChildAddresses
import Zboss.Nwk.LockedRefs

namespace Zboss.Nwk.RefusedJoin

open Zboss.Theory.Run
open Zboss.Theory.Intern
open Zboss.Common.Types
open Zboss.Common.Address
open Zboss.Common.AddressPairs
open Zboss.Common.AddressRun
open Zboss.Common.AddressCompress
open Zboss.Common.AddressHolds
open Zboss.Common.FailedLookup
open Zboss.Nwk.Neighbor
open Zboss.Nwk.Forget
open Zboss.Nwk.LockedRefs
open Zboss.Nwk.TreeRouting
open Zboss.Nwk.AcceptChild
open Zboss.Nwk.ChildAddresses
open Zboss.Zdo.DeviceInfo hiding zbNwkAcceptChild

set_option autoImplicit false

/-! ## What is left -/

/-- **No trace**: the counters and the tables are as they were. -/
structure NoTrace (s t : JoinContext) : Prop where
  routers : t.nib.routerChildNum = s.nib.routerChildNum
  ends : t.nib.edChildNum = s.nib.edChildNum
  addr : t.nwk.addr = s.nwk.addr
  neighbor : t.nwk.neighbor = s.nwk.neighbor

/-- The parent has room for a child of this kind. -/
def HasRoom (capability : UInt8) (nib : ChildNib) : Prop :=
  (nib.edChildNum.toNat + nib.routerChildNum.toNat < nib.tree.maxChildren.toNat ∧
    nib.tree.depth < nib.tree.maxDepth) ∧
    (zbMacCapGetDeviceType capability = true → nib.routerChildNum < nib.tree.maxRouters)

/-- The device has no neighbour entry that would be removed. -/
def NothingToRemove (device : ZbIeeeAddr) (s : NwkContext) : Prop :=
  ∀ known ∈ knownEntry device s, s.neighbor.addrToNeighbor known.1.addrRef = 255

/-- Looking for the device changes nothing: its manufacturer has a place in the book, and its
address entry, if there is one, has been referred to lately. -/
def LooksQuietly (device : ZbIeeeAddr) (g : ZbAddrGlobals) : Prop :=
  MakerKnown g device ∧ ∀ ref ∈ foundLong g device, (g.addrMap ref).clock = true

/-- **The device is turned away at the door.** -/
structure TurnedAway (device : ZbIeeeAddr) (capability : UInt8) (s : JoinContext) : Prop where
  full : ¬ HasRoom capability s.nib
  unknown : NothingToRemove device s.nwk
  quiet : LooksQuietly device s.nwk.addr

instance (capability : UInt8) (nib : ChildNib) : Decidable (HasRoom capability nib) :=
  inferInstanceAs (Decidable ((_ ∧ _) ∧ (_ → _)))

instance (device : ZbIeeeAddr) (s : NwkContext) : Decidable (NothingToRemove device s) :=
  inferInstanceAs (Decidable (∀ known ∈ knownEntry device s, _))

instance (device : ZbIeeeAddr) (g : ZbAddrGlobals) : Decidable (LooksQuietly device g) :=
  inferInstanceAs (Decidable (_ ∧ ∀ ref ∈ foundLong g device, _))

/-! ## The steps of an acceptance -/

section Lookup

variable {g g' : ZbAddrGlobals} {device : ZbIeeeAddr} {res : Except ZbRet Nat} {ref : Nat}

/-- Setting the clock of an entry that has it set. -/
theorem setClock_eq_iff :
    (g.setEnt ref fun ent => { ent with clock := true }) = g ↔ (g.addrMap ref).clock = true := by
  constructor
  · intro same
    have here := congrArg (fun g => (g.addrMap ref).clock) same
    simp only [setEnt_self] at here
    exact here.symm
  · intro set
    have ent : { g.addrMap ref with clock := true } = g.addrMap ref := by rw [← set]
    simp only [ZbAddrGlobals.setEnt, ent, Function.update_eq_self]

/-- **Looking for a device** leaves the address table as it is when it does so quietly, and
not otherwise. -/
theorem byIeee_same_iff (looked : zbAddressByIeee device false false g = some (g', res)) :
    g' = g ↔ LooksQuietly device g := by
  obtain ⟨g₁, code, r, compressed, locked, outcome⟩ := zbAddressByIeee_split looked
  cases locked
  have quietly : MakerKnown g device → g₁ = g := fun known => by
    obtain ⟨code', compressed'⟩ := compress_of_makerKnown known
    rw [compressed'] at compressed
    cases compressed
    rfl
  rcases outcome with ⟨ref, found, result⟩ | ⟨missed, -, result⟩ | ⟨-, impossible, -⟩
  · cases result
    constructor
    · intro same
      have known : MakerKnown g device := by
        obtain ⟨inside, there⟩ := (compress_interns compressed).named
        rw [← makers_table (clock_table g₁ ref), same] at there
        exact ⟨_, inside, there⟩
      obtain rfl := quietly known
      refine ⟨known, fun r here => ?_⟩
      have found' : foundLong g₁ device = some ref := by simp [foundLong, compressed, found]
      rw [found'] at here
      cases here
      exact setClock_eq_iff.1 same
    · rintro ⟨known, clocked⟩
      obtain rfl := quietly known
      have found' : foundLong g₁ device = some ref := by simp [foundLong, compressed, found]
      exact setClock_eq_iff.2 (clocked ref found')
  · cases result
    constructor
    · rintro rfl
      refine ⟨makerKnown_of_compress compressed, fun r here => ?_⟩
      have missed' : foundLong g' device = none := by simp [foundLong, compressed, missed]
      rw [missed'] at here
      cases here
    · exact fun quiet => quietly quiet.1
  · cases impossible

end Lookup

section Steps

variable {s t : JoinContext} {nwk nwk' : NwkContext} {device : ZbIeeeAddr} {capability lqi : UInt8}
  {got : Except ZbRet Nat}

theorem assignAddress_eq_none {nib : ChildNib} :
    assignAddress capability nib = none ↔ ¬ HasRoom capability nib := by
  simp only [assignAddress, HasRoom]
  split
  · rename_i room
    split
    · rename_i router
      split
      · rename_i routerRoom
        simp [room, router, routerRoom]
      · rename_i noRoom
        simp [router, noRoom]
    · rename_i ends
      simp [room, ends]
  · rename_i noRoom
    simp [noRoom]

/-- A child that is given an address is counted. -/
theorem counters_differ {nib nib' : ChildNib} {addr : UInt16}
    (assigned : assignAddress capability nib = some (nib', addr)) :
    ¬ (nib'.routerChildNum = nib.routerChildNum ∧ nib'.edChildNum = nib.edChildNum) := by
  rintro ⟨routers, ends⟩
  simp only [assignAddress] at assigned
  split at assigned
  · split at assigned
    · split at assigned
      · cases assigned
        exact absurd routers (by simp)
      · cases assigned
    · cases assigned
      exact absurd ends (by simp)
  · cases assigned

/-- Looking for a neighbour leaves the neighbour table alone. -/
theorem getByIeee_spec (looked : zbNwkNeighborGetByIeee device nwk = some (nwk', got)) :
    nwk'.neighbor = nwk.neighbor ∧
      ∃ found, zbAddressByIeee device false false nwk.addr = some (nwk'.addr, found) := by
  obtain ⟨⟨nwk₁, found⟩, called, rest⟩ := Option.bind_eq_some_iff.1 looked
  obtain ⟨⟨g, res⟩, called, same⟩ := Option.bind_eq_some_iff.1 called
  cases same
  cases found with
  | error status =>
      cases rest
      exact ⟨rfl, _, called⟩
  | ok ref =>
      obtain ⟨⟨nwk₂, entry⟩, there, rest⟩ := Option.bind_eq_some_iff.1 rest
      obtain ⟨rfl, -⟩ := neighborGet_found there
      cases entry <;> (cases rest; exact ⟨rfl, _, called⟩)

theorem neighborDelete_same_iff {tbl : ZbNeighborTbl} {ref : Nat} :
    (zbNwkNeighborDelete ref tbl).1 = tbl ↔ tbl.addrToNeighbor ref = 255 := by
  simp only [zbNwkNeighborDelete]
  split
  · rename_i there
    refine iff_of_false (fun same => ?_) there
    have unlisted := congrArg (fun tbl => tbl.addrToNeighbor ref) same
    simp only [Function.update_self] at unlisted
    exact there unlisted.symm
  · rename_i absent
    exact iff_of_true rfl (not_not.1 absent)

/-- A new child that is refused has found no room, and then nothing else happens; or it
has been counted. -/
theorem admitChild_refused (taken : admitChild device capability lqi s = .ok (t, none)) :
    (¬ HasRoom capability s.nib ∧ t.nwk = s.nwk ∧ SameNib s.nib t.nib) ∨
      HasRoom capability s.nib ∧
        ¬ (t.nib.routerChildNum = s.nib.routerChildNum ∧ t.nib.edChildNum = s.nib.edChildNum) := by
  rw [admitChild] at taken
  cases assigned : assignAddress capability s.nib with
  | none =>
      simp only [assigned, pure, Except.pure, Except.ok.injEq] at taken
      obtain ⟨same, -⟩ := settleChild_spec capability lqi s none
      have nwk : (settleChild capability lqi s none).1.nwk = s.nwk := rfl
      rw [taken] at same nwk
      exact .inl ⟨assignAddress_eq_none.1 assigned, nwk, same⟩
  | some r =>
      obtain ⟨nib, addr⟩ := r
      have room : HasRoom capability s.nib := by
        by_contra full
        rw [assignAddress_eq_none.2 full] at assigned
        cases assigned
      simp only [assigned, bind, Except.bind, pure, Except.pure] at taken
      cases entering : enterChild device addr s.nwk with
      | error stop => simp [entering] at taken
      | ok r =>
          obtain ⟨nwk', entered⟩ := r
          simp only [entering, Except.ok.injEq] at taken
          obtain ⟨same, -⟩ := settleChild_spec capability lqi { nib := nib, nwk := nwk' }
            (entered.map fun n => (n, addr))
          rw [taken] at same
          refine .inr ⟨room, ?_⟩
          rw [same.routerChildNum, same.edChildNum]
          exact counters_differ assigned

/-- The acceptance of a device whose tables are `nwk` when its join is decided. -/
theorem admitChild_noTrace_iff
    (taken : admitChild device capability lqi { s with nwk := nwk } = .ok (t, none)) :
    NoTrace s t ↔
      ¬ HasRoom capability s.nib ∧ nwk.addr = s.nwk.addr ∧ nwk.neighbor = s.nwk.neighbor := by
  rcases admitChild_refused taken with ⟨full, same, nib⟩ | ⟨room, counted⟩
  · constructor
    · intro noTrace
      refine ⟨full, ?_, ?_⟩
      · rw [← noTrace.addr, same]
      · rw [← noTrace.neighbor, same]
    · rintro ⟨-, addr, neighbor⟩
      refine ⟨nib.routerChildNum, nib.edChildNum, ?_, ?_⟩
      · rw [same, addr]
      · rw [same, neighbor]
  · refine iff_of_false (fun noTrace => ?_) fun quiet => quiet.1 room
    exact counted ⟨noTrace.routers, noTrace.ends⟩

end Steps

/-- **A refused join leaves no trace** exactly when the device is turned away at the door. -/
theorem refusedJoin_iff (device : ZbIeeeAddr) (capability lqi : UInt8) (s t : JoinContext)
    (refused : zbNwkAcceptChild device capability lqi s = .ok (t, none)) :
    NoTrace s t ↔ TurnedAway device capability s := by
  rw [zbNwkAcceptChild] at refused
  cases found : zbNwkNeighborGetByIeee device s.nwk with
  | none => simp [found, asserted, bind, Except.bind] at refused
  | some r =>
      obtain ⟨nwk, got⟩ := r
      obtain ⟨neighbor, res, looked⟩ := getByIeee_spec found
      have quiet := byIeee_same_iff looked
      simp only [found, asserted, bind, Except.bind, pure, Except.pure] at refused
      cases got with
      | error status =>
          have entry : knownEntry device s.nwk = none := by simp [knownEntry, found]
          rw [admitChild_noTrace_iff refused, quiet]
          constructor
          · rintro ⟨full, quiet, -⟩
            refine ⟨full, fun known there => ?_, quiet⟩
            rw [entry] at there
            cases there
          · exact fun away => ⟨away.full, away.quiet, neighbor⟩
      | ok n =>
          have entry : knownEntry device s.nwk = some (nwk.neighbor.baseNeighbor n,
              (nwk.addr.addrMap (nwk.neighbor.baseNeighbor n).addrRef).addr) := by
            simp [knownEntry, found]
          simp only at refused
          split at refused
          · -- a known device is not refused
            cases refused
          · rw [admitChild_noTrace_iff refused, quiet, ← neighbor, neighborDelete_same_iff]
            constructor
            · rintro ⟨full, quiet, absent⟩
              refine ⟨full, fun known there => ?_, quiet⟩
              rw [entry] at there
              cases there
              rw [← neighbor]
              exact absent
            · intro away
              refine ⟨away.full, away.quiet, ?_⟩
              rw [neighbor, ← away.unknown _ entry, neighbor]

/-- The join is refused, and what holds of the parent afterwards. -/
def refusedWith (device : ZbIeeeAddr) (capability lqi : UInt8) (s : JoinContext)
    (after : JoinContext → Bool) : Bool :=
  match zbNwkAcceptChild device capability lqi s with
  | .ok (t, none) => after t
  | _ => false

theorem refusedWith_eq_true {device : ZbIeeeAddr} {capability lqi : UInt8} {s : JoinContext}
    {after : JoinContext → Bool} (holds : refusedWith device capability lqi s after = true) :
    ∃ t, zbNwkAcceptChild device capability lqi s = .ok (t, none) ∧ after t = true := by
  rw [refusedWith] at holds
  split at holds
  · rename_i t refused
    exact ⟨t, refused, holds⟩
  · cases holds

/-- One child at most, which has joined; another device of its maker asks. -/
theorem refusedJoin_full :
    ∃ s t, run parentStep (formedParent 1 0 1) [.acceptChild deviceOne 0x80 0] = some s ∧
      zbNwkAcceptChild deviceTwo 0x80 0 s.join = .ok (t, none) ∧ NoTrace s.join t := by
  have met : (run parentStep (formedParent 1 0 1) [.acceptChild deviceOne 0x80 0]).any (fun s =>
      refusedWith deviceTwo 0x80 0 s.join (fun _ => decide (¬ HasRoom 0x80 s.join.nib ∧
        NothingToRemove deviceTwo s.join.nwk ∧ LooksQuietly deviceTwo s.join.nwk.addr))) = true := by
    decide +kernel
  obtain ⟨s, joined, holds⟩ := (Option.any_eq_true _ _).1 met
  obtain ⟨t, refused, holds⟩ := refusedWith_eq_true holds
  obtain ⟨full, unknown, quiet⟩ := of_decide_eq_true holds
  exact ⟨s, t, joined, refused,
    (refusedJoin_iff deviceTwo 0x80 0 s.join t refused).2 ⟨full, unknown, quiet⟩⟩

/-- **A refused join loses a neighbour**: a child that has become a router joins again, is
dropped from the neighbour table, and finds no room. -/
theorem refused_join_forgets :
    ¬ ∀ device capability lqi s t, zbNwkAcceptChild device capability lqi s = .ok (t, none) →
      NoTrace s t := by
  intro always
  have lost : (run parentStep (formedParent 1 0 1) [.acceptChild deviceOne 0x80 0]).any (fun s =>
      refusedWith deviceOne 0x82 0 s.join (fun t => decide (∃ ref < zbIeeeAddrTableSize,
        t.nwk.neighbor.addrToNeighbor ref ≠ s.join.nwk.neighbor.addrToNeighbor ref))) = true := by
    decide +kernel
  obtain ⟨s, -, holds⟩ := (Option.any_eq_true _ _).1 lost
  obtain ⟨t, refused, holds⟩ := refusedWith_eq_true holds
  obtain ⟨ref, -, differs⟩ := of_decide_eq_true holds
  have same := (always deviceOne 0x82 0 s.join t refused).neighbor
  exact differs (by rw [same])

end Zboss.Nwk.RefusedJoin
