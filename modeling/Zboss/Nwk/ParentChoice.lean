/-
# Nwk.ParentChoice -- the parent chosen among the records of a scan

`nwk_choose_parent` keeps the best of the records that pass a conjunction of conditions, and then
looks at the one it has, which there need not be.  The update identifiers are compared after their
difference was taken as an `int`: one that is behind by up to 128 passes, and one that is ahead by
127 does not.

* `ChosenRight`: what is claimed of the choice;
* `chosenRight_iff`: the choice is right iff the entry in which the improvements end is not behind,
  no entry that is ahead by 127 was missed for it, and, where no entry passes, nothing is read of
  the entry that there is not.

Poles: `stale_chosen`, `nothing_read`.
-/
import Mathlib
import Zboss.Common.Constants
import Zboss.Theory.RunningBest

namespace Zboss.Nwk.ParentChoice

open Zboss.Common.Constants
open Zboss.Theory.RunningBest

set_option autoImplicit false

/-! ## The data -/

/-- A record of the extended neighbour table: what the choice reads of it. -/
structure ZbExtNeighborTblEnt where
  panidRef : Nat
  potentialParent : Bool
  permitJoining : Bool
  stackProfile : UInt8
  routerCapacity : Bool
  endDeviceCapacity : Bool
  lqi : UInt8
  updateId : UInt8
  depth : UInt8
  deriving DecidableEq

/-- `ZB_ROUTER_ROLE`, `ZB_PRO_COMPATIBLE` and `ZB_NS_BUILD`. -/
structure Build where
  routerRole : Bool
  proCompatible : Bool
  nsBuild : Bool
  deriving DecidableEq

/-- What the choice may write. -/
structure DeviceRole where
  joinedPro : Bool
  nibDeviceType : UInt8
  macDevType : UInt8
  deriving DecidableEq

def macDevRfd : UInt8 := 2

def zbNwkStatusNotPermitted : UInt8 := 0xC3

def nwkUpdateIdMiddle : Nat := 127

/-! ## The conditions -/

/-- `ZB_MAC_CAP_GET_DEVICE_TYPE` -/
def zbMacCapGetDeviceType (cap : UInt8) : Bool := (cap >>> 1) &&& 1 != 0

/-- `ZB_LINK_QUALITY_IS_OK_FOR_JOIN` -/
def zbLinkQualityIsOkForJoin (build : Build) (lqi : UInt8) : Bool :=
  build.nsBuild || decide (3 ≤ lqi / 32)

/-- `ZB_NWK_UPDATE_ID1_GE_ID2`: the difference is an `int`. -/
def zbNwkUpdateId1GeId2 (id1 id2 : UInt8) : Bool :=
  decide ((id1.toNat : Int) - id2.toNat < nwkUpdateIdMiddle)

/-- The conditions but the last one. -/
def admits (build : Build) (panidRef : Nat) (cap : UInt8) (ne : ZbExtNeighborTblEnt) : Bool :=
  ne.panidRef == panidRef && ne.potentialParent && ne.permitJoining &&
    (build.proCompatible || ne.stackProfile == 1) &&
    (if build.routerRole && zbMacCapGetDeviceType cap && ne.stackProfile == 1 then ne.routerCapacity
      else ne.endDeviceCapacity) &&
    zbLinkQualityIsOkForJoin build ne.lqi

/-- What is asked, and of which tables. -/
structure ParentRequest where
  build : Build
  panidRef : Nat
  capabilityInformation : UInt8
  nibUpdateId : UInt8

/-- All that the loop asks of an entry. -/
def ParentRequest.passes (r : ParentRequest) (ne : ZbExtNeighborTblEnt) : Bool :=
  admits r.build r.panidRef r.capabilityInformation ne &&
    zbNwkUpdateId1GeId2 ne.updateId r.nibUpdateId

/-! ## The choice -/

/-- An entry takes the place of the one that is kept. -/
def Nearer (ne best : ZbExtNeighborTblEnt) : Prop :=
  ¬ (ne.depth ≥ best.depth ∨ best.lqi > ne.lqi)

instance : DecidableRel Nearer := fun _ _ => inferInstanceAs (Decidable (¬ _))

/-- The loop. -/
def ParentRequest.best (r : ParentRequest) (table : List ZbExtNeighborTblEnt) :
    Option ZbExtNeighborTblEnt :=
  runningBest Nearer none (table.filter r.passes)

/-- A read of an entry where there is none. -/
inductive ChooseStop where
  | nullRead
  deriving DecidableEq

/-- A device that joins another stack profile is an end device. -/
def nwkChooseParent (r : ParentRequest) (table : List ZbExtNeighborTblEnt) (role : DeviceRole) :
    Except ChooseStop (DeviceRole × Option ZbExtNeighborTblEnt) :=
  if r.build.routerRole && r.build.proCompatible then
    match r.best table with
    | none => .error .nullRead
    | some ret =>
        .ok (if ret.stackProfile ≠ 1 then
            { joinedPro := true, nibDeviceType := zbNwkDeviceTypeEd, macDevType := macDevRfd }
          else role, some ret)
  else .ok (role, r.best table)

/-- The status of a join, and the parent that is asked; `panidRef` is where the PAN is, if it is
known. -/
def nwkAssociationJoin (joined : Bool) (panidRef : Option Nat) (r : ParentRequest)
    (table : List ZbExtNeighborTblEnt) (role : DeviceRole) :
    Except ChooseStop (DeviceRole × UInt8 × Option ZbExtNeighborTblEnt) := do
  if joined then return (role, zbNwkStatusInvalidRequest, none)
  match panidRef with
  | none => return (role, zbNwkStatusNotPermitted, none)
  | some panidRef =>
      let (role, bestParent) ← nwkChooseParent { r with panidRef } table role
      match bestParent with
      | none => return (role, zbNwkStatusNotPermitted, none)
      | some parent => return (role, zbNwkStatusSuccess, some parent)

/-! ## What is claimed -/

/-- The identifier is not behind, in eight bits: less than half of all values ahead. -/
def Recent (id1 id2 : UInt8) : Prop := (id1 - id2).toNat ≤ nwkUpdateIdMiddle

/-- **The conditions of a parent.** -/
def ParentRequest.Suitable (r : ParentRequest) (ne : ZbExtNeighborTblEnt) : Prop :=
  admits r.build r.panidRef r.capabilityInformation ne = true ∧ Recent ne.updateId r.nibUpdateId

/-- Both strictly smaller depth and strictly better link quality. -/
def Dominates (ne best : ZbExtNeighborTblEnt) : Prop := ne.depth < best.depth ∧ best.lqi < ne.lqi

/-- **The choice is right**: nothing iff no entry is suitable, and then nothing is read or written;
otherwise a suitable entry that no suitable one dominates. -/
def ChosenRight (r : ParentRequest) (table : List ZbExtNeighborTblEnt) (role : DeviceRole) : Prop :=
  ∃ role' ret, nwkChooseParent r table role = .ok (role', ret) ∧
    (ret = none ↔ ∀ ne ∈ table, ¬ r.Suitable ne) ∧
    (ret = none → role' = role) ∧
    ∀ best, ret = some best →
      best ∈ table ∧ r.Suitable best ∧ ∀ ne ∈ table, r.Suitable ne → ¬ Dominates ne best

/-- The identifier is behind by 128 at most, and passes. -/
def Behind (id1 id2 : UInt8) : Prop := id1 < id2 ∧ id2.toNat ≤ id1.toNat + 128

/-- The entry is suitable, with an identifier that is ahead by 127 and does not pass. -/
def ParentRequest.Missed (r : ParentRequest) (ne : ZbExtNeighborTblEnt) : Prop :=
  admits r.build r.panidRef r.capabilityInformation ne = true ∧
    ne.updateId.toNat = r.nibUpdateId.toNat + 127

/-- **The condition**, on the table: where the improvements end, the identifier is not behind, and no
entry that was missed dominates; where nothing passes, nothing was missed and the build does not
read the entry. -/
structure RightTable (r : ParentRequest) (table : List ZbExtNeighborTblEnt) : Prop where
  empty : (∀ ne ∈ table, r.passes ne = false) →
    (r.build.routerRole && r.build.proCompatible) = false ∧ ∀ ne ∈ table, ¬ r.Missed ne
  ends : ∀ best, Prevails Nearer (table.filter r.passes) best →
    ¬ Behind best.updateId r.nibUpdateId ∧ ∀ ne ∈ table, r.Missed ne → ¬ Dominates ne best

/-! ## The comparison -/

section Compare

variable {id1 id2 : UInt8}

theorem recent_iff : Recent id1 id2 ↔
    id2.toNat ≤ id1.toNat ∧ id1.toNat ≤ id2.toNat + 127 ∨ id1.toNat + 128 < id2.toNat := by
  have := id1.toNat_lt
  have := id2.toNat_lt
  rw [Recent, UInt8.toNat_sub, nwkUpdateIdMiddle]
  omega

theorem ge_iff : zbNwkUpdateId1GeId2 id1 id2 = true ↔ id1.toNat < id2.toNat + 127 := by
  rw [zbNwkUpdateId1GeId2, decide_eq_true_iff, nwkUpdateIdMiddle]
  omega

/-- **What the comparison gets wrong**: it takes one that is behind, and misses one that is ahead. -/
theorem ge_iff_recent : zbNwkUpdateId1GeId2 id1 id2 = true ↔
    (Recent id1 id2 ∧ id1.toNat ≠ id2.toNat + 127) ∨ Behind id1 id2 := by
  rw [ge_iff, recent_iff, Behind, UInt8.lt_iff_toNat_lt]
  omega

theorem not_recent_of_behind (behind : Behind id1 id2) : ¬ Recent id1 id2 := by
  rw [Behind, UInt8.lt_iff_toNat_lt] at behind
  rw [recent_iff]
  omega

end Compare

section Entries

variable {r : ParentRequest} {ne : ZbExtNeighborTblEnt}

/-- An entry is suitable iff it passes and is not behind, or was missed. -/
theorem suitable_iff : r.Suitable ne ↔
    (r.passes ne = true ∧ ¬ Behind ne.updateId r.nibUpdateId) ∨ r.Missed ne := by
  rw [ParentRequest.Suitable, ParentRequest.passes, ParentRequest.Missed, Bool.and_eq_true,
    ge_iff_recent]
  constructor
  · rintro ⟨admitted, recent⟩
    by_cases ahead : ne.updateId.toNat = r.nibUpdateId.toNat + 127
    · exact .inr ⟨admitted, ahead⟩
    · exact .inl ⟨⟨admitted, .inl ⟨recent, ahead⟩⟩, fun behind => not_recent_of_behind behind recent⟩
  · rintro (⟨⟨admitted, ⟨recent, -⟩ | behind⟩, ahead⟩ | ⟨admitted, ahead⟩)
    · exact ⟨admitted, recent⟩
    · exact absurd behind ahead
    · refine ⟨admitted, recent_iff.2 (.inl ?_)⟩
      omega

theorem nearer_iff {best : ZbExtNeighborTblEnt} :
    Nearer ne best ↔ ne.depth < best.depth ∧ best.lqi ≤ ne.lqi := by
  rw [Nearer, not_or, ge_iff_le, gt_iff_lt, UInt8.not_le, UInt8.not_lt]

theorem nearer_trans (a b c : ZbExtNeighborTblEnt) (first : Nearer a b) (second : Nearer b c) :
    Nearer a c := by
  rw [nearer_iff] at *
  exact ⟨UInt8.lt_trans first.1 second.1, UInt8.le_trans second.2 first.2⟩

theorem nearer_irrefl (a : ZbExtNeighborTblEnt) : ¬ Nearer a a := by
  rw [nearer_iff]
  exact fun nearer => UInt8.lt_irrefl a.depth nearer.1

theorem Dominates.nearer {best : ZbExtNeighborTblEnt} (dominates : Dominates ne best) :
    Nearer ne best :=
  nearer_iff.2 ⟨dominates.1, UInt8.le_of_lt dominates.2⟩

end Entries

/-! ## When the choice is right -/

section Choice

variable {r : ParentRequest} {table : List ZbExtNeighborTblEnt} {best : ZbExtNeighborTblEnt}

theorem best_eq_none : r.best table = none ↔ ∀ ne ∈ table, r.passes ne = false := by
  rw [ParentRequest.best, runningBest_eq_none, List.filter_eq_nil_iff]
  simp only [Bool.not_eq_true]

theorem best_eq_some :
    r.best table = some best ↔ Prevails Nearer (table.filter r.passes) best :=
  runningBest_iff_prevails

/-- No entry that passes dominates the one that is kept. -/
theorem undominated (kept : r.best table = some best) {ne : ZbExtNeighborTblEnt} (mem : ne ∈ table)
    (passes : r.passes ne = true) : ¬ Dominates ne best := fun dominates =>
  (best_eq_some.1 kept).unbeaten nearer_trans nearer_irrefl ne (List.mem_filter.2 ⟨mem, passes⟩)
    dominates.nearer

theorem best_mem (kept : r.best table = some best) : best ∈ table ∧ r.passes best = true :=
  List.mem_filter.1 (best_eq_some.1 kept).mem

/-- Where nothing passes, what is suitable was missed. -/
theorem unsuitable_iff (none_ : ∀ ne ∈ table, r.passes ne = false) :
    (∀ ne ∈ table, ¬ r.Suitable ne) ↔ ∀ ne ∈ table, ¬ r.Missed ne := by
  constructor
  · intro unsuitable ne mem missed
    exact unsuitable ne mem (suitable_iff.2 (.inr missed))
  · intro unmissed ne mem suitable
    rcases suitable_iff.1 suitable with ⟨passes, -⟩ | missed
    · rw [none_ ne mem] at passes
      cases passes
    · exact unmissed ne mem missed

theorem chosenRight_none (role : DeviceRole) (kept : r.best table = none) :
    ChosenRight r table role ↔ RightTable r table := by
  have none_ := best_eq_none.1 kept
  constructor
  · rintro ⟨role', ret, chosen, nothing, -, -⟩
    rw [nwkChooseParent, kept] at chosen
    constructor
    case empty =>
      intro _
      split at chosen
      · cases chosen
      · rename_i other
        cases chosen
        exact ⟨Bool.eq_false_iff.2 other, (unsuitable_iff none_).1 (nothing.1 rfl)⟩
    case ends =>
      intro best prevails
      rw [best_eq_some.2 prevails] at kept
      cases kept
  · intro right
    obtain ⟨other, unmissed⟩ := right.empty none_
    have unsuitable := (unsuitable_iff none_).2 unmissed
    refine ⟨role, none, ?_, ⟨fun _ => unsuitable, fun _ => rfl⟩, fun _ => rfl, nofun⟩
    rw [nwkChooseParent, kept, if_neg (Bool.eq_false_iff.1 other)]

theorem chosenRight_some (role : DeviceRole) (kept : r.best table = some best) :
    ChosenRight r table role ↔ RightTable r table := by
  obtain ⟨mem, passes⟩ := best_mem kept
  obtain ⟨role', chosen⟩ : ∃ role', nwkChooseParent r table role = .ok (role', some best) := by
    rw [nwkChooseParent, kept]
    split
    · exact ⟨_, rfl⟩
    · exact ⟨_, rfl⟩
  constructor
  · rintro ⟨role'', ret, chosen', -, -, found⟩
    rw [chosen] at chosen'
    cases chosen'
    obtain ⟨-, suitable, unbeaten⟩ := found best rfl
    constructor
    case empty =>
      intro none_
      rw [none_ best mem] at passes
      cases passes
    case ends =>
      intro best' prevails
      rw [best_eq_some.2 prevails] at kept
      cases kept
      exact ⟨fun behind => not_recent_of_behind behind suitable.2, fun ne mem missed =>
        unbeaten ne mem (suitable_iff.2 (.inr missed))⟩
  · intro right
    obtain ⟨recent, unmissed⟩ := right.ends best (best_eq_some.1 kept)
    have suitable : r.Suitable best := suitable_iff.2 (.inl ⟨passes, recent⟩)
    refine ⟨role', some best, chosen, ⟨nofun, fun none_ => absurd suitable (none_ best mem)⟩,
      nofun, ?_⟩
    intro best' is
    cases is
    refine ⟨mem, suitable, ?_⟩
    intro ne mem' suitable'
    rcases suitable_iff.1 suitable' with ⟨passes', -⟩ | missed
    · exact undominated kept mem' passes'
    · exact unmissed ne mem' missed

/-- **The choice is right iff the condition holds of the table.** -/
theorem chosenRight_iff (r : ParentRequest) (table : List ZbExtNeighborTblEnt) (role : DeviceRole) :
    ChosenRight r table role ↔ RightTable r table := by
  cases kept : r.best table with
  | none => exact chosenRight_none role kept
  | some best => exact chosenRight_some role kept

end Choice

/-! ## Poles -/

/-- The build of a router or coordinator. -/
def routerBuild : Build := ⟨true, true, false⟩

/-- A router in the network 0, with an identifier. -/
def heard (updateId : UInt8) : ZbExtNeighborTblEnt :=
  ⟨0, true, true, 1, true, true, 255, updateId, 1⟩

/-- **A parent that is behind is chosen**: the identifier of the network is 5, that of the beacon 3. -/
theorem stale_chosen (role : DeviceRole) :
    nwkChooseParent ⟨routerBuild, 0, 0x8E, 5⟩ [heard 3] role = .ok (role, some (heard 3)) ∧
      ¬ (ParentRequest.mk routerBuild 0 0x8E 5).Suitable (heard 3) :=
  ⟨rfl, fun suitable => absurd suitable.2 (by rw [recent_iff]; decide)⟩

/-- **The entry is read that there is not**: the one router heard is closed. -/
theorem nothing_read : ¬ ∀ r table role, ChosenRight r table role := by
  intro all
  obtain ⟨role, ret, chosen, -⟩ := all ⟨routerBuild, 0, 0x8E, 5⟩
    [{ heard 5 with permitJoining := false }] ⟨false, 1, 1⟩
  cases chosen

end Zboss.Nwk.ParentChoice
