/-
# Zdo.LockCount -- the lock counter of an address against the tables that hold it

The lock counter should be the number of tables that hold the reference:
`LocksCounted`.  Only `zb_nwk_neighbor_get` takes a lock together with the table
entry it is for; every other lock is taken for no entry, and entries come and go
without one.  `Paired` is the condition on a call that none of this happens.
`Outcome` is the rule for calls that may stop: no lock assertion fails, and what
comes out satisfies the postcondition.  With it `lockCall_counted` goes through the
calls, and `locks_counted` carries it over every history.

Pole: `sixteenth_announcement`, a device that announces itself sixteen times.
-/
import Mathlib
import Zboss.Common.AddressHolds
import Zboss.Nwk.LockedRefs
import Zboss.Aps.BindLinks
import Zboss.Zdo.DeviceInfo

namespace Zboss.Zdo.LockCount

open Zboss.Theory.Run
open Zboss.Theory.Table
open Zboss.Common.Types
open Zboss.Common.Address
open Zboss.Common.AddressIndex
open Zboss.Common.AddressPairs
open Zboss.Common.AddressRun
open Zboss.Common.AddressBijection
open Zboss.Common.AddressHolds
open Zboss.Nwk.Neighbor
open Zboss.Nwk.Forget
open Zboss.Nwk.LockedRefs
open Zboss.Aps.Bind
open Zboss.Zdo.DeviceInfo

set_option autoImplicit false

/-! ## The condition -/

def TableFull (g : ZbAddrGlobals) : Prop :=
  ∀ i, i < zbIeeeAddrTableSize → (g.addrMap i).used = true

/-- A pair that the address table can neither find nor add. -/
def Refused (g : ZbAddrGlobals) (ieee : ZbIeeeAddr) (a : UInt16) : Prop :=
  shortSearch g a = none ∧ foundLong g ieee = none ∧ TableFull g

/-- The address has no entry in the neighbour table. -/
def NoNeighbor (s : NwkContext) (ref : Nat) : Prop := s.neighbor.addrToNeighbor ref = 255

/-- The entry an update returns. -/
def updateRef (g : ZbAddrGlobals) (ieee : ZbIeeeAddr) (a : UInt16) : Option Nat :=
  match zbAddressUpdate ieee a false g with
  | some (_, .ok ref) => some ref
  | _ => none

def extRef (g : ZbAddrGlobals) (ext : ZbExtNeighborTblEnt) : Option Nat :=
  match extAddress ext g with
  | .ok (_, .ok ref) => some ref
  | _ => none

/-- A call of the address table takes no lock, or returns no entry to lock. -/
def AddressPaired (g : ZbAddrGlobals) : AddressCall → Prop
  | .byIeee ieee create lock => lock = true → foundLong g ieee = none ∧ (create = true → TableFull g)
  | .byShort a create lock => lock = true → shortSearch g a = none ∧ (create = true → TableFull g)
  | .update ieee a lock => lock = true → Refused g ieee a
  | .delete _ => True

def LeavePaired (s : NwkContext) (rejoin : Bool) : Prop :=
  rejoin = false → ∀ ref ∈ shortSearch s.addr s.networkAddress, NoNeighbor s ref

/-- No lock on its own, and nothing is dropped that the neighbour table holds. -/
def StackPaired (s : NwkContext) : StackCall → Prop
  | .address call => AddressPaired s.addr call
  | .lock _ => False
  | .unlock _ => False
  | .neighborDelete ref => NoNeighbor s ref
  | .forgetDevice ref => NoNeighbor s ref
  | .doLeave rejoin => LeavePaired s rejoin
  | .leaveIndication deviceAddress rejoin =>
      if zbIeeeAddrIsZero deviceAddress = true then LeavePaired s rejoin
      else ∀ ref ∈ foundLong s.addr deviceAddress, NoNeighbor s ref
  | .updateDevice left a ieee => left = true → ∀ ref ∈ leftFound s a ieee, NoNeighbor s ref
  | .commStatus dstAddr success =>
      success = false → ∀ ref ∈ responseFound s dstAddr, NoNeighbor s ref
  | .neighborGet .. => True
  | .leaveHandler .. => True
  | .setNetworkAddress _ => True

/-- A child that is a neighbour has the capabilities it had; one that is not gets no
address entry, or no neighbour entry after it. -/
def ChildPaired (deviceAddress : ZbIeeeAddr) (router rxOnWhenIdle : Bool)
    (assigned : Option UInt16) (s : NwkContext) : Except ZbRet Nat → Prop
  | .ok n => sameCapabilities router rxOnWhenIdle (s.neighbor.baseNeighbor n) = true
  | .error _ => ∀ addr ∈ assigned, ∀ ref ∈ updateRef s.addr deviceAddress addr,
      s.neighbor.baseNeighborUsed + 1 = s.neighbor.baseNeighborSize ∧ NoNeighbor s ref

/-- The request is answered with an error. -/
def bindRefused (s : LockContext) (req : ZbApsmeBindingReq) : Bool :=
  match zbApsmeBindRequest req ⟨s.nwk.addr, s.binding⟩ with
  | .ok (_, .ok _) => false
  | _ => true

/-- **The condition under which a call keeps the counters.** -/
def Paired (s : LockContext) : LockCall → Prop
  | .stack call => StackPaired s.nwk call
  | .deviceInfoUpd ieee addr _ => Refused s.nwk.addr ieee addr
  | .dataConfirm wasAnnce a =>
      wasAnnce = true → shortSearch s.nwk.addr a = none ∧ TableFull s.nwk.addr
  | .acceptChild deviceAddress router rxOnWhenIdle assigned =>
      ∀ r ∈ zbNwkNeighborGetByIeee deviceAddress s.nwk,
        ChildPaired deviceAddress router rxOnWhenIdle assigned r.1 r.2
  | .extToBaseTmp _ _ => s.nwk.neighbor.baseNeighborSize ≤ s.nwk.neighbor.baseNeighborUsed
  | .exneighborStop ext => ∀ ref ∈ extRef s.nwk.addr ext, NoNeighbor s.nwk ref →
      s.nwk.neighbor.baseNeighborSize ≤ s.nwk.neighbor.baseNeighborUsed
  | .bind (.bind req) => bindRefused s req = true
  | .bind (.unbind _) => True

instance (g : ZbAddrGlobals) : Decidable (TableFull g) :=
  inferInstanceAs (Decidable (∀ i, i < zbIeeeAddrTableSize → (g.addrMap i).used = true))

instance (g : ZbAddrGlobals) (ieee : ZbIeeeAddr) (a : UInt16) : Decidable (Refused g ieee a) :=
  inferInstanceAs (Decidable (_ ∧ _ ∧ _))

instance (s : NwkContext) (ref : Nat) : Decidable (NoNeighbor s ref) :=
  inferInstanceAs (Decidable (_ = _))

instance (s : NwkContext) (rejoin : Bool) : Decidable (LeavePaired s rejoin) :=
  inferInstanceAs (Decidable (_ → _))

instance (g : ZbAddrGlobals) : (call : AddressCall) → Decidable (AddressPaired g call)
  | .byIeee .. => inferInstanceAs (Decidable (_ → _))
  | .byShort .. => inferInstanceAs (Decidable (_ → _))
  | .update .. => inferInstanceAs (Decidable (_ → _))
  | .delete _ => isTrue trivial

instance (s : NwkContext) : (call : StackCall) → Decidable (StackPaired s call)
  | .address call => inferInstanceAs (Decidable (AddressPaired s.addr call))
  | .lock _ => isFalse id
  | .unlock _ => isFalse id
  | .neighborDelete ref => inferInstanceAs (Decidable (NoNeighbor s ref))
  | .forgetDevice ref => inferInstanceAs (Decidable (NoNeighbor s ref))
  | .doLeave rejoin => inferInstanceAs (Decidable (LeavePaired s rejoin))
  | .leaveIndication deviceAddress rejoin =>
      inferInstanceAs (Decidable (if zbIeeeAddrIsZero deviceAddress = true then
        LeavePaired s rejoin
      else ∀ ref ∈ foundLong s.addr deviceAddress, NoNeighbor s ref))
  | .updateDevice .. => inferInstanceAs (Decidable (_ → _))
  | .commStatus .. => inferInstanceAs (Decidable (_ → _))
  | .neighborGet .. => isTrue trivial
  | .leaveHandler .. => isTrue trivial
  | .setNetworkAddress _ => isTrue trivial

instance (deviceAddress : ZbIeeeAddr) (router rxOnWhenIdle : Bool) (assigned : Option UInt16)
    (s : NwkContext) :
    (got : Except ZbRet Nat) →
      Decidable (ChildPaired deviceAddress router rxOnWhenIdle assigned s got)
  | .ok _ => inferInstanceAs (Decidable (_ = _))
  | .error _ => inferInstanceAs (Decidable (∀ addr ∈ assigned,
      ∀ ref ∈ updateRef s.addr deviceAddress addr,
        s.neighbor.baseNeighborUsed + 1 = s.neighbor.baseNeighborSize ∧ NoNeighbor s ref))

instance (s : LockContext) : (call : LockCall) → Decidable (Paired s call)
  | .stack call => inferInstanceAs (Decidable (StackPaired s.nwk call))
  | .deviceInfoUpd ieee addr _ => inferInstanceAs (Decidable (Refused s.nwk.addr ieee addr))
  | .dataConfirm .. => inferInstanceAs (Decidable (_ → _))
  | .acceptChild deviceAddress router rxOnWhenIdle assigned =>
      inferInstanceAs (Decidable (∀ r ∈ zbNwkNeighborGetByIeee deviceAddress s.nwk,
        ChildPaired deviceAddress router rxOnWhenIdle assigned r.1 r.2))
  | .extToBaseTmp .. => inferInstanceAs (Decidable (_ ≤ _))
  | .exneighborStop ext => inferInstanceAs (Decidable (∀ ref ∈ extRef s.nwk.addr ext,
      NoNeighbor s.nwk ref → s.nwk.neighbor.baseNeighborSize ≤ s.nwk.neighbor.baseNeighborUsed))
  | .bind (.bind _) => inferInstanceAs (Decidable (_ = _))
  | .bind (.unbind _) => isTrue trivial

/-- Why a call stops, if it does. -/
def stopOf (s : LockContext) (call : LockCall) : Option LockStop :=
  match lockCall s call with
  | .ok _ => none
  | .error stop => some stop

/-- **The counters count**: in the state a history reaches, each is the number of
tables that hold the reference, and on the way to it no lock assertion failed. -/
structure LocksCounted (start : LockContext) (calls : List LockCall) : Prop where
  counted : ∀ s, run lockStep start calls = some s →
    ∀ ref, (s.nwk.addr.addrMap ref).lockCnt = holders s ref
  asserts : Along lockStep (fun s call =>
    stopOf s call ≠ some .lockWrapped ∧ stopOf s call ≠ some .notLocked) start calls

/-! ## Calls that may stop -/

section Outcomes

variable {α β : Type}

/-- No lock assertion fails, and what comes out satisfies `post`. -/
def Outcome (post : α → Prop) : Except LockStop α → Prop
  | .ok x => post x
  | .error stop => stop = .other

theorem Outcome.bind {post : α → Prop} {post' : β → Prop} {out : Except LockStop α}
    {next : α → Except LockStop β} (first : Outcome post out)
    (rest : ∀ x, post x → Outcome post' (next x)) : Outcome post' (out >>= next) := by
  cases out with
  | ok x => exact rest x first
  | error stop => exact first

theorem Outcome.map {post : α → Prop} {post' : β → Prop} {out : Except LockStop α} {f : α → β}
    (first : Outcome post out) (rest : ∀ x, post x → post' (f x)) : Outcome post' (out.map f) := by
  cases out with
  | ok x => exact rest x first
  | error stop => exact first

theorem Outcome.mono {post post' : α → Prop} {out : Except LockStop α} (first : Outcome post out)
    (weaker : ∀ x, post x → post' x) : Outcome post' out := by
  cases out with
  | ok x => exact weaker x first
  | error stop => exact first

theorem outcome_asserted {post : α → Prop} {r : Option α} (gives : ∀ x, r = some x → post x) :
    Outcome post (asserted r) := by
  cases r with
  | some x => exact gives x rfl
  | none => rfl

end Outcomes

/-! ## The counters under the parts of a call -/

section Locks

variable {g g' g₁ : ZbAddrGlobals} {ieee : ZbIeeeAddr} {a : UInt16} {create : Bool}
  {res : Except ZbRet Nat} {ref : Nat}

def locksOf (g : ZbAddrGlobals) (r : Nat) : Nat := (g.addrMap r).lockCnt

theorem locksOf_congr (same : g'.addrMap = g.addrMap) : locksOf g' = locksOf g := by
  funext r
  rw [locksOf, locksOf, same]

theorem locksOf_setEnt {f : ZbAddressMap → ZbAddressMap}
    (same : (f (g.addrMap ref)).lockCnt = (g.addrMap ref).lockCnt) :
    locksOf (g.setEnt ref f) = locksOf g := by
  funext r
  by_cases here : r = ref
  · rw [here, locksOf, setEnt_self, same, locksOf]
  · rw [locksOf, setEnt_of_ne _ _ _ here, locksOf]

theorem locksOf_addShortSorted (added : addShortSorted ref a g = some g') :
    locksOf g' = locksOf g := by
  obtain ⟨-, ⟨sorted, rfl⟩, -⟩ := addShortSorted_insert added
  rfl

theorem locksOf_clockTick (g : ZbAddrGlobals) : locksOf (clockTick g) = locksOf g := by
  funext r
  exact (calm_of_unclocked (clockTick_unclocked g)).lockCnt r

theorem locksOf_compress {code : ZbIeeeAddrCompressed}
    (taken : zbIeeeAddrCompress ieee g = some (g', code)) : locksOf g' = locksOf g :=
  locksOf_congr (zbIeeeAddrCompress_frame taken).1

theorem locksOf_delete (ref : Nat) (g : ZbAddrGlobals) :
    locksOf (zbAddressDelete ref g) = locksOf g := by
  have same : locksOf ((delShortSorted ref g).setEnt ref fun ent => { ent with used := false }) =
      locksOf (delShortSorted ref g) := locksOf_setEnt rfl
  exact same

theorem locksOf_addrAdd {code : Option ZbIeeeAddrCompressed}
    (taken : addrAdd code a g = some (g', res)) : locksOf g' = locksOf g := by
  simp only [addrAdd] at taken
  split at taken
  · cases taken
    rfl
  · rename_i i found
    obtain ⟨g₁, listed, done⟩ := Option.bind_eq_some_iff.1 taken
    cases done
    have written : locksOf (writeEnt i code a (clockTick g)) = locksOf g :=
      (locksOf_setEnt rfl).trans (locksOf_clockTick g)
    have listedSame : locksOf g₁ = locksOf (writeEnt i code a (clockTick g)) := by
      simp only [listEnt] at listed
      split at listed
      · rw [locksOf_addShortSorted listed]
        split <;> rfl
      · cases listed
        rfl
    have using_ : locksOf (useEnt i g₁) = locksOf g₁ := locksOf_setEnt rfl
    rw [using_, listedSame, written]

/-- A full table adds nothing. -/
theorem addrAdd_full {code : Option ZbIeeeAddrCompressed} (full : TableFull g)
    (taken : addrAdd code a g = some (g', res)) : res = .error .overflow := by
  simp only [addrAdd] at taken
  split at taken
  · cases taken
    rfl
  · rename_i i found
    have start : (code.map zbAddressCompressedIeeeHash).getD 0 < zbIeeeAddrTableSize := by
      cases code with
      | none => decide
      | some code => exact Nat.mod_lt _ (by decide)
    obtain ⟨inside, free⟩ := probe_some start found
    rw [full i inside] at free
    cases free

theorem locksOf_setPair {code : ZbIeeeAddrCompressed}
    (taken : setPair ref code a g = some g') : locksOf g' = locksOf g := by
  obtain ⟨others, here, -⟩ := setPair_ent taken
  funext r
  by_cases at_ : r = ref
  · rw [at_, locksOf, here, locksOf]
  · rw [locksOf, others r at_, locksOf]

theorem locksOf_resolveRef {fs fl found : Option Nat}
    (taken : resolveRef fs fl g = some (g', found)) : locksOf g' = locksOf g := by
  rcases resolveRef_cases taken with ⟨-, -, -, rfl⟩ | ⟨-, -, rfl, -⟩ | ⟨ref, refLong, -, -, -, which⟩
  · rfl
  · rfl
  · rcases which with ⟨-, -, rfl⟩ | ⟨-, -, -, rfl⟩ <;> exact locksOf_delete _ _

theorem compress_again {code : ZbIeeeAddrCompressed}
    (taken : zbIeeeAddrCompress ieee g = some (g', code)) :
    zbIeeeAddrCompress ieee g' = some (g', code) := by
  obtain ⟨device, inside, used, same⟩ := compress_code taken
  obtain ⟨-, -, ⟨-, -, rfl⟩ | ⟨-, absent, rfl⟩⟩ := zbIeeeAddrCompress_cases taken
  · exact taken
  · refine zbIeeeAddrCompress_unique device inside used same fun i lt usedI sameI => ?_
    by_contra ne
    dsimp only at usedI sameI
    rw [Function.update_of_ne ne] at usedI sameI
    exact absent i lt usedI sameI

/-! ## Lookups without a lock -/

theorem byIeee_free (taken : zbAddressByIeee ieee create false g = some (g', res)) :
    locksOf g' = locksOf g ∧ (∀ ref, create = false → res = .ok ref → foundLong g ieee = some ref) ∧
      (foundLong g ieee = none → (create = true → TableFull g) → ∃ status, res = .error status) := by
  obtain ⟨g₁, code, r, compressed, locked, looked⟩ := zbAddressByIeee_split taken
  cases locked
  have locks := locksOf_compress compressed
  have long : foundLong g ieee = ieeeSearch g₁ code := by rw [foundLong, compressed]; rfl
  rcases looked with ⟨ref, found, same⟩ | ⟨failed, still, same⟩ | ⟨failed, creating, added⟩
  · cases same
    refine ⟨(locksOf_setEnt rfl).trans locks, ?_, fun missed => ?_⟩
    · rintro _ - ⟨⟩
      rw [long, found]
    · rw [long, found] at missed
      cases missed
  · cases same
    exact ⟨locks, (fun ref _ impossible => by cases impossible), fun _ _ => ⟨_, rfl⟩⟩
  · refine ⟨(locksOf_addrAdd added).trans locks, fun ref none_ => ?_, fun _ full => ?_⟩
    · rw [creating] at none_
      cases none_
    · have ents := (zbIeeeAddrCompress_frame compressed).1
      have full₁ : TableFull g₁ := fun i lt => by rw [ents]; exact full creating i lt
      exact ⟨_, addrAdd_full full₁ added⟩

theorem byShort_free (taken : zbAddressByShort a create false g = some (g', res)) :
    locksOf g' = locksOf g ∧ (∀ ref, create = false → res = .ok ref → shortSearch g a = some ref) ∧
      (shortSearch g a = none → create = false → g' = g) ∧
      (shortSearch g a = none → (create = true → TableFull g) → ∃ status, res = .error status) := by
  obtain ⟨r, locked, looked⟩ := zbAddressByShort_split taken
  cases locked
  rcases looked with ⟨ref, found, same⟩ | ⟨failed, still, same⟩ | ⟨failed, creating, added⟩
  · cases same
    refine ⟨locksOf_setEnt rfl, ?_, fun missed => ?_, fun missed => ?_⟩
    · rintro _ - ⟨⟩
      exact found
    · rw [found] at missed
      cases missed
    · rw [found] at missed
      cases missed
  · cases same
    exact ⟨rfl, (fun ref _ impossible => by cases impossible), fun _ _ => rfl, fun _ _ => ⟨_, rfl⟩⟩
  · refine ⟨locksOf_addrAdd added, fun ref none_ => ?_, fun _ none_ => ?_, fun _ full =>
      ⟨_, addrAdd_full (full creating) added⟩⟩
    · rw [creating] at none_
      cases none_
    · rw [creating] at none_
      cases none_

theorem update_free (taken : zbAddressUpdate ieee a false g = some (g', res)) :
    locksOf g' = locksOf g ∧ (Refused g ieee a → ∃ status, res = .error status) := by
  obtain ⟨g₁, code, g₂, found, r, compressed, resolved, locked, written⟩ :=
    zbAddressUpdate_split taken
  cases locked
  have locks : locksOf g₂ = locksOf g :=
    (locksOf_resolveRef resolved).trans (locksOf_compress compressed)
  refine ⟨?_, ?_⟩
  · rcases written with ⟨ref, g₃, -, set, same⟩ | ⟨-, added⟩
    · cases same
      exact (locksOf_setPair set).trans locks
    · exact (locksOf_addrAdd added).trans locks
  · rintro ⟨noShort, noLong, full⟩
    have long : ieeeSearch g₁ code = none := by
      rw [foundLong, compressed] at noLong
      exact noLong
    have short : shortSearch g₁ a = none := by
      obtain ⟨-, -, ⟨-, -, rfl⟩ | ⟨-, -, rfl⟩⟩ := zbIeeeAddrCompress_cases compressed <;>
        exact noShort
    rw [short, long] at resolved
    cases resolved
    rcases written with ⟨ref, g₃, impossible, -, -⟩ | ⟨-, added⟩
    · cases impossible
    · have ents := (zbIeeeAddrCompress_frame compressed).1
      have full₁ : TableFull g₁ := fun i lt => by rw [ents]; exact full i lt
      exact ⟨_, addrAdd_full full₁ added⟩

/-- A lookup that fails leaves what cannot be found or added as it was. -/
theorem Refused.after_byIeee (refused : Refused g ieee a)
    (taken : zbAddressByIeee ieee false false g = some (g', res)) : Refused g' ieee a := by
  obtain ⟨noShort, noLong, full⟩ := refused
  obtain ⟨g₁, code, r, compressed, locked, looked⟩ := zbAddressByIeee_split taken
  cases locked
  have long : ieeeSearch g₁ code = none := by
    rw [foundLong, compressed] at noLong
    exact noLong
  rcases looked with ⟨ref, found, -⟩ | ⟨-, -, same⟩ | ⟨-, impossible, -⟩
  · rw [long] at found
    cases found
  · cases same
    refine ⟨?_, ?_, fun i lt => ?_⟩
    · obtain ⟨-, -, ⟨-, -, rfl⟩ | ⟨-, -, rfl⟩⟩ := zbIeeeAddrCompress_cases compressed <;>
        exact noShort
    · rw [foundLong, compress_again compressed]
      exact long
    · rw [(zbIeeeAddrCompress_frame compressed).1]
      exact full i lt
  · cases impossible

end Locks

/-! ## The tables of the network layer -/

/-- The counters count the entries of the neighbour table, which has room left. -/
structure Counted (s : NwkContext) : Prop where
  counted : ∀ ref, locksOf s.addr ref = (neighborHolds s.neighbor ref).toNat
  room : s.neighbor.baseNeighborUsed < s.neighbor.baseNeighborSize
  size : s.neighbor.baseNeighborSize ≤ 255

/-- No counter moved, and the neighbour table has the entries it had. -/
structure Unmoved (s t : NwkContext) : Prop where
  locks : locksOf t.addr = locksOf s.addr
  places : t.neighbor.addrToNeighbor = s.neighbor.addrToNeighbor
  count : t.neighbor.baseNeighborUsed = s.neighbor.baseNeighborUsed
  size : t.neighbor.baseNeighborSize = s.neighbor.baseNeighborSize

section Parts

variable {s t u : NwkContext} {ref : Nat} {ieee : ZbIeeeAddr} {a : UInt16}

theorem Unmoved.refl (s : NwkContext) : Unmoved s s := ⟨rfl, rfl, rfl, rfl⟩

theorem Unmoved.trans (first : Unmoved s t) (second : Unmoved t u) : Unmoved s u :=
  ⟨second.locks.trans first.locks, second.places.trans first.places,
    second.count.trans first.count, second.size.trans first.size⟩

theorem Unmoved.counted (unmoved : Unmoved s t) (ok : Counted s) : Counted t where
  counted ref := by
    rw [unmoved.locks, neighborHolds, unmoved.places]
    exact ok.counted ref
  room := by
    rw [unmoved.count, unmoved.size]
    exact ok.room
  size := by
    rw [unmoved.size]
    exact ok.size

/-- A step on the address table only. -/
theorem unmoved_addr {g : ZbAddrGlobals} (locks : locksOf g = locksOf s.addr) :
    Unmoved s { s with addr := g } := ⟨locks, rfl, rfl, rfl⟩

theorem byShort_unmoved {res : Except ZbRet Nat} (taken : s.byShort a = some (t, res)) :
    Unmoved s t ∧ t.neighbor = s.neighbor ∧
      (∀ ref, res = .ok ref → shortSearch s.addr a = some ref) ∧
      ∀ status, res = .error status → shortSearch s.addr a = none ∧ t = s := by
  simp only [NwkContext.byShort, Option.bind_eq_bind, Option.bind_eq_some_iff] at taken
  obtain ⟨⟨g, found⟩, looked, done⟩ := taken
  cases done
  obtain ⟨locks, found, still, -⟩ := byShort_free looked
  refine ⟨unmoved_addr locks, rfl, fun ref => found ref rfl, fun status failed => ?_⟩
  obtain ⟨r, locked, cases_⟩ := zbAddressByShort_split looked
  cases locked
  rcases cases_ with ⟨ref, -, same⟩ | ⟨missed, -, same⟩ | ⟨-, impossible, -⟩
  · cases same
    cases failed
  · exact ⟨missed, by rw [still missed rfl]⟩
  · cases impossible

theorem byIeee_unmoved {res : Except ZbRet Nat} (taken : s.byIeee ieee = some (t, res)) :
    Unmoved s t ∧ t.neighbor = s.neighbor ∧
      ∀ ref, res = .ok ref → foundLong s.addr ieee = some ref := by
  simp only [NwkContext.byIeee, Option.bind_eq_bind, Option.bind_eq_some_iff] at taken
  obtain ⟨⟨g, found⟩, looked, done⟩ := taken
  cases done
  obtain ⟨locks, found, -⟩ := byIeee_free looked
  exact ⟨unmoved_addr locks, rfl, fun ref => found ref rfl⟩

/-- Dropping the address of a device that is no neighbour. -/
theorem delete_unmoved (ref : Nat) (s : NwkContext) : Unmoved s (s.delete ref) :=
  unmoved_addr (locksOf_delete ref s.addr)

theorem neighborDelete_absent (absent : NoNeighbor s ref) :
    (zbNwkNeighborDelete ref s.neighbor).1 = s.neighbor := by
  have place : s.neighbor.addrToNeighbor ref = 255 := absent
  simp only [zbNwkNeighborDelete, place]
  rfl

theorem forget_unmoved (absent : NoNeighbor s ref) : Unmoved s (zbNwkForgetDevice ref s) := by
  rw [zbNwkForgetDevice, neighborDelete_absent absent]
  exact delete_unmoved ref s

theorem neighborGet_still (ref : Nat) (s : NwkContext) :
    Outcome (fun r => r.1 = s ∧ (NoNeighbor s ref ∧ r.2 = .error .notFound ∨
      ¬ NoNeighbor s ref ∧ r.2 = .ok (s.neighbor.addrToNeighbor ref).toNat))
      (neighborGet ref false s) := by
  cases looked : s.neighborGet ref false with
  | none =>
      simp only [NwkContext.neighborGet, zbNwkNeighborGet] at looked
      split at looked <;> cases looked
  | some r =>
      obtain ⟨t, res⟩ := r
      simp only [neighborGet, looked]
      exact neighborGet_found looked

/-- An entry that no table holds can be locked: its counter becomes one. -/
theorem lock_unheld {g : ZbAddrGlobals} (unheld : locksOf g ref = 0) :
    ∃ g', zbAddressLock ref g = some g' ∧ locksOf g' = Function.update (locksOf g) ref 1 := by
  have zero : (g.addrMap ref).lockCnt = 0 := unheld
  refine ⟨g.setEnt ref fun ent => { ent with lockCnt := 1, clock := true }, ?_, ?_⟩
  · simp [zbAddressLock, zero]
  · funext r
    by_cases here : r = ref
    · rw [here, Function.update_self, locksOf, setEnt_self]
    · rw [Function.update_of_ne here, locksOf, setEnt_of_ne _ _ _ here, locksOf]

/-- **The one paired lock**: a new neighbour entry, and the lock of its address. -/
theorem neighborGet_counted (ok : Counted s) (ref : Nat) (createIfAbsent : Bool) :
    Outcome (fun r => Counted r.1) (neighborGet ref createIfAbsent s) := by
  by_cases absent : s.neighbor.addrToNeighbor ref = 255
  · cases createIfAbsent with
    | false => exact (neighborGet_still ref s).mono fun r still => still.1 ▸ ok
    | true =>
        by_cases full : s.neighbor.baseNeighborUsed + 1 = s.neighbor.baseNeighborSize
        · have refused : s.neighborGet ref true = some (s, .error .noMemory) := by
            simp [NwkContext.neighborGet, zbNwkNeighborGet, absent, full]
          simp only [neighborGet, refused]
          exact ok
        · have unheld : locksOf s.addr ref = 0 := by
            rw [ok.counted, neighborHolds, absent]
            rfl
          obtain ⟨g, locked, locks⟩ := lock_unheld unheld
          have made : s.neighborGet ref true = some ({ s with
              addr := g
              neighbor := { s.neighbor with
                addrToNeighbor := Function.update s.neighbor.addrToNeighbor ref
                  (UInt8.ofNat s.neighbor.baseNeighborUsed)
                baseNeighborUsed := s.neighbor.baseNeighborUsed + 1
                baseNeighbor := Function.update s.neighbor.baseNeighbor
                  s.neighbor.baseNeighborUsed (newNeighbor ref s.depth) } },
              .ok s.neighbor.baseNeighborUsed) := by
            simp [NwkContext.neighborGet, zbNwkNeighborGet, absent, full, locked]
          have room := ok.room
          have size := ok.size
          have place : UInt8.ofNat s.neighbor.baseNeighborUsed ≠ 255 := fun same => by
            have number := congrArg UInt8.toNat same
            rw [UInt8.toNat_ofNat', Nat.mod_eq_of_lt (by omega)] at number
            have : (255 : UInt8).toNat = 255 := rfl
            omega
          simp only [neighborGet, made]
          refine ⟨fun r => ?_, by dsimp only; omega, size⟩
          rw [locks]
          by_cases here : r = ref
          · have held : (UInt8.ofNat s.neighbor.baseNeighborUsed != 255) = true :=
              bne_iff_ne.2 place
            rw [here, Function.update_self]
            simp [neighborHolds, held]
          · rw [Function.update_of_ne here, ok.counted]
            simp [neighborHolds, Function.update_of_ne here]
  · have there : s.neighborGet ref createIfAbsent =
        some (s, .ok (s.neighbor.addrToNeighbor ref).toNat) := by
      simp [NwkContext.neighborGet, zbNwkNeighborGet, absent]
    simp only [neighborGet, there]
    exact ok

end Parts

/-! ## Calls of the address table -/

section AddressCalls

variable {g : ZbAddrGlobals} {ieee : ZbIeeeAddr} {a : UInt16} {create lock : Bool}

/-- A lock is taken only on an entry that is returned. -/
theorem lockFound_error {r : ZbAddrGlobals × Except ZbRet Nat}
    (missed : lock = true → ∃ status, r.2 = .error status) : lockFound lock r = .ok r := by
  obtain ⟨g, res⟩ := r
  cases lock with
  | false => rfl
  | true =>
      obtain ⟨status, failed⟩ := missed rfl
      cases failed
      rfl

theorem addressByIeee_unmoved
    (paired : lock = true → foundLong g ieee = none ∧ (create = true → TableFull g)) :
    Outcome (fun r => locksOf r.1 = locksOf g) (addressByIeee ieee create lock g) := by
  refine (outcome_asserted fun r taken => taken).bind fun r taken => ?_
  obtain ⟨locks, -, missed⟩ := byIeee_free taken
  rw [lockFound_error fun locking => missed (paired locking).1 (paired locking).2]
  exact locks

theorem addressByShort_unmoved
    (paired : lock = true → shortSearch g a = none ∧ (create = true → TableFull g)) :
    Outcome (fun r => locksOf r.1 = locksOf g) (addressByShort a create lock g) := by
  refine (outcome_asserted fun r taken => taken).bind fun r taken => ?_
  obtain ⟨locks, -, -, missed⟩ := byShort_free taken
  rw [lockFound_error fun locking => missed (paired locking).1 (paired locking).2]
  exact locks

theorem addressUpdate_unmoved (paired : lock = true → Refused g ieee a) :
    Outcome (fun r => locksOf r.1 = locksOf g ∧
      (lock = true → ∃ status, r.2 = .error status)) (addressUpdate ieee a lock g) := by
  refine (outcome_asserted fun r taken => taken).bind fun r taken => ?_
  obtain ⟨locks, missed⟩ := update_free taken
  rw [lockFound_error fun locking => missed (paired locking)]
  exact ⟨locks, fun locking => missed (paired locking)⟩

theorem addressCall_unmoved {call : AddressCall} (paired : AddressPaired g call) :
    Outcome (fun g' => locksOf g' = locksOf g) (addressCall g call) := by
  cases call with
  | byIeee ieee create lock => exact (addressByIeee_unmoved paired).map fun _ same => same
  | byShort a create lock => exact (addressByShort_unmoved paired).map fun _ same => same
  | update ieee a lock => exact (addressUpdate_unmoved paired).map fun _ same => same.1
  | delete ref => exact locksOf_delete ref g

end AddressCalls

/-! ## The calls that drop a device -/

section Removers

variable {s t : NwkContext} {ref : Nat}

theorem leaveHandler_unmoved {srcAddr : UInt16} {request : Bool}
    (taken : zbNwkLeaveHandler srcAddr request s = some t) : Unmoved s t := by
  simp only [zbNwkLeaveHandler, Option.bind_eq_bind, Option.bind_eq_some_iff] at taken
  obtain ⟨⟨s₁, found⟩, byShort, rest⟩ := taken
  obtain ⟨unmoved, -, -, -⟩ := byShort_unmoved byShort
  cases found with
  | error status =>
      cases rest
      exact unmoved
  | ok ref =>
      obtain ⟨⟨s₂, got⟩, neighbor, rest⟩ := Option.bind_eq_some_iff.1 rest
      obtain ⟨rfl, ⟨-, rfl⟩ | ⟨-, rfl⟩⟩ := neighborGet_found neighbor
      · cases rest
        dsimp only
        split
        · exact unmoved
        · exact unmoved.trans (delete_unmoved ref s₂)
      · cases rest
        exact unmoved

theorem doLeave_unmoved {rejoin : Bool} (paired : LeavePaired s rejoin)
    (taken : zbNwkDoLeave rejoin s = some t) : Unmoved s t := by
  simp only [zbNwkDoLeave] at taken
  split at taken
  · cases taken
    exact Unmoved.refl s
  · rename_i leaves
    simp only [Option.bind_eq_bind, Option.bind_eq_some_iff] at taken
    obtain ⟨⟨s₁, found⟩, byShort, rest⟩ := taken
    obtain ⟨unmoved, same, here, -⟩ := byShort_unmoved byShort
    cases rest
    cases found with
    | error status => exact ⟨unmoved.locks, unmoved.places, unmoved.count, unmoved.size⟩
    | ok ref =>
        have absent : NoNeighbor s₁ ref := by
          rw [NoNeighbor, same]
          exact paired (by simpa using leaves) ref (here ref rfl)
        have forgot := unmoved.trans (forget_unmoved absent)
        exact ⟨forgot.locks, forgot.places, forgot.count, forgot.size⟩

theorem getByIeee_unmoved {ieee : ZbIeeeAddr} {res : Except ZbRet Nat}
    (taken : zbNwkNeighborGetByIeee ieee s = some (t, res)) :
    Unmoved s t ∧ (∀ n, res = .ok n → ∃ ref ∈ foundLong s.addr ieee, ¬ NoNeighbor s ref) := by
  simp only [zbNwkNeighborGetByIeee, Option.bind_eq_bind, Option.bind_eq_some_iff] at taken
  obtain ⟨⟨s₁, found⟩, byIeee, rest⟩ := taken
  obtain ⟨unmoved, same, here⟩ := byIeee_unmoved byIeee
  cases found with
  | error status =>
      cases rest
      exact ⟨unmoved, fun n impossible => by cases impossible⟩
  | ok ref =>
      obtain ⟨⟨s₂, got⟩, neighbor, rest⟩ := Option.bind_eq_some_iff.1 rest
      obtain ⟨rfl, ⟨-, rfl⟩ | ⟨there, rfl⟩⟩ := neighborGet_found neighbor
      · cases rest
        exact ⟨unmoved, fun n impossible => by cases impossible⟩
      · cases rest
        refine ⟨unmoved, fun n _ => ⟨ref, here ref rfl, fun absent => there ?_⟩⟩
        rw [same]
        exact absent

theorem leaveIndication_unmoved {deviceAddress : ZbIeeeAddr} {rejoin : Bool}
    (paired : StackPaired s (.leaveIndication deviceAddress rejoin))
    (taken : zbNlmeLeaveIndication deviceAddress rejoin s = some t) : Unmoved s t := by
  simp only [zbNlmeLeaveIndication] at taken
  simp only [StackPaired] at paired
  split at taken
  · rename_i itself
    rw [if_pos itself] at paired
    exact doLeave_unmoved paired taken
  · rename_i other
    rw [if_neg other] at paired
    simp only [Option.bind_eq_bind, Option.bind_eq_some_iff] at taken
    obtain ⟨⟨s₁, got⟩, looked, rest⟩ := taken
    obtain ⟨unmoved, there⟩ := getByIeee_unmoved looked
    cases got with
    | error status =>
        cases rest
        exact unmoved
    | ok n =>
        obtain ⟨ref, found, neighbor⟩ := there n rfl
        exact absurd (paired ref found) neighbor

theorem updateDevice_unmoved {left : Bool} {a : UInt16} {ieee : ZbIeeeAddr}
    (paired : StackPaired s (.updateDevice left a ieee))
    (taken : zbApsmeUpdateDeviceIndication left a ieee s = some t) : Unmoved s t := by
  rcases updateDevice_cases taken with rfl | ⟨gone, ⟨s₁, ref, byShort, rfl⟩ | ⟨s₁, status, byShort, found⟩⟩
  · exact Unmoved.refl t
  · obtain ⟨unmoved, same, here, -⟩ := byShort_unmoved byShort
    have absent : NoNeighbor s₁ ref := by
      rw [NoNeighbor, same]
      refine paired gone ref ?_
      rw [leftFound, here ref rfl]
      rfl
    exact unmoved.trans (forget_unmoved absent)
  · obtain ⟨-, -, -, missed⟩ := byShort_unmoved byShort
    obtain ⟨short, rfl⟩ := missed status rfl
    rcases found with ⟨s₂, ref, byIeee, rfl⟩ | ⟨unknown, byIeee⟩
    · obtain ⟨unmoved, same, here⟩ := byIeee_unmoved byIeee
      have absent : NoNeighbor s₂ ref := by
        rw [NoNeighbor, same]
        refine paired gone ref ?_
        rw [leftFound, short]
        exact here ref rfl
      exact unmoved.trans (forget_unmoved absent)
    · exact (byIeee_unmoved byIeee).1

theorem commStatus_unmoved {dstAddr : ResponseDst} {success : Bool}
    (paired : StackPaired s (.commStatus dstAddr success))
    (taken : zbMlmeCommStatusIndication dstAddr success s = some t) : Unmoved s t := by
  simp only [zbMlmeCommStatusIndication, Option.bind_eq_bind, Option.bind_eq_some_iff] at taken
  obtain ⟨⟨s₁, found⟩, lookup, rest⟩ := taken
  obtain ⟨unmoved, same, here⟩ : Unmoved s s₁ ∧ s₁.neighbor = s.neighbor ∧
      ∀ ref, found = .ok ref → responseFound s dstAddr = some ref := by
    cases dstAddr with
    | long addrLong => exact byIeee_unmoved lookup
    | short addrShort =>
        obtain ⟨unmoved, same, here, -⟩ := byShort_unmoved lookup
        exact ⟨unmoved, same, here⟩
  cases found with
  | error status =>
      cases rest
      exact unmoved
  | ok ref =>
      obtain ⟨⟨s₂, got⟩, neighbor, rest⟩ := Option.bind_eq_some_iff.1 rest
      obtain ⟨rfl, ⟨-, rfl⟩ | ⟨there, rfl⟩⟩ := neighborGet_found neighbor
      · cases rest
        exact unmoved
      · cases rest
        dsimp only
        split
        · exact unmoved
        · rename_i failed
          have absent := paired (by simpa using failed) ref (here ref rfl)
          rw [NoNeighbor, ← same] at absent
          exact absurd absent there

/-- **The calls of the network layer.** -/
theorem stackCall_counted {call : StackCall} (ok : Counted s) (paired : StackPaired s call) :
    Outcome Counted (stackCall s call) := by
  have of_unmoved : (∀ t, stackStep s call = some t → Unmoved s t) →
      Outcome Counted (asserted (stackStep s call)) :=
    fun unmoved => outcome_asserted fun t taken => (unmoved t taken).counted ok
  cases call with
  | address call =>
      exact (addressCall_unmoved paired).map fun g same => (unmoved_addr same).counted ok
  | lock ref => exact absurd paired id
  | unlock ref => exact absurd paired id
  | neighborGet ref createIfAbsent =>
      exact (neighborGet_counted ok ref createIfAbsent).map fun _ counted => counted
  | neighborDelete ref =>
      refine of_unmoved fun t taken => ?_
      cases taken
      rw [neighborDelete_absent paired]
      exact Unmoved.refl s
  | leaveHandler srcAddr request => exact of_unmoved fun t taken => leaveHandler_unmoved taken
  | forgetDevice ref =>
      refine of_unmoved fun t taken => ?_
      cases taken
      exact forget_unmoved paired
  | doLeave rejoin => exact of_unmoved fun t taken => doLeave_unmoved paired taken
  | leaveIndication deviceAddress rejoin =>
      exact of_unmoved fun t taken => leaveIndication_unmoved paired taken
  | updateDevice left a ieee => exact of_unmoved fun t taken => updateDevice_unmoved paired taken
  | commStatus dstAddr success =>
      exact of_unmoved fun t taken => commStatus_unmoved paired taken
  | setNetworkAddress networkAddress =>
      refine of_unmoved fun t taken => ?_
      cases taken
      exact ⟨rfl, rfl, rfl, rfl⟩

end Removers

/-! ## Announcements, children, records of the scan -/

section Devices

variable {s t : NwkContext} {ieee : ZbIeeeAddr} {a : UInt16}

theorem detectFormerChild_unmoved (refused : Refused s.addr ieee a) :
    Outcome (fun t => Unmoved s t ∧ Refused t.addr ieee a) (detectFormerChild ieee a s) := by
  refine (outcome_asserted fun r taken => taken).bind fun r taken => ?_
  obtain ⟨t, found⟩ := r
  obtain ⟨unmoved, -, here⟩ := byIeee_unmoved taken
  cases found with
  | ok ref =>
      have found := here ref rfl
      rw [refused.2.1] at found
      cases found
  | error status =>
      refine ⟨unmoved, ?_⟩
      simp only [NwkContext.byIeee, Option.bind_eq_bind, Option.bind_eq_some_iff] at taken
      obtain ⟨⟨g, found⟩, looked, done⟩ := taken
      cases done
      exact refused.after_byIeee looked

theorem deviceInfoUpd_counted {macSrc : Option UInt16} (ok : Counted s)
    (refused : Refused s.addr ieee a) :
    Outcome (fun r => Counted r.1) (zdoDeviceInfoUpd ieee a macSrc s) := by
  refine (detectFormerChild_unmoved refused).bind fun t ⟨unmoved, still⟩ => ?_
  refine (addressUpdate_unmoved fun _ => still).bind fun r ⟨locks, missed⟩ => ?_
  obtain ⟨g, res⟩ := r
  obtain ⟨status, failed⟩ := missed rfl
  cases failed
  exact (unmoved.trans (unmoved_addr locks)).counted ok

theorem dataConfirm_counted {wasAnnce : Bool} (ok : Counted s)
    (paired : wasAnnce = true → shortSearch s.addr a = none ∧ TableFull s.addr) :
    Outcome Counted (zbApsdeDataConfirm wasAnnce a s) := by
  cases wasAnnce with
  | false => exact ok
  | true =>
      refine (addressByShort_unmoved fun _ => ⟨(paired rfl).1, fun _ => (paired rfl).2⟩).bind
        fun r locks => ?_
      exact (unmoved_addr locks).counted ok

/-- The lock taken for a child is given back when there is no room for its neighbour
entry. -/
theorem acceptNew_counted (ok : Counted s)
    (paired : ∀ ref ∈ updateRef s.addr ieee a,
      s.neighbor.baseNeighborUsed + 1 = s.neighbor.baseNeighborSize ∧ NoNeighbor s ref) :
    Outcome (fun r => Counted r.1) (acceptNew ieee a s) := by
  cases updated : zbAddressUpdate ieee a false s.addr with
  | none => simp [acceptNew, addressUpdate, updated, asserted, bind, Except.bind, Outcome]
  | some r =>
      obtain ⟨g, res⟩ := r
      obtain ⟨locks, -⟩ := update_free updated
      cases res with
      | error status =>
          have refused : addressUpdate ieee a true s.addr = .ok (g, .error status) := by
            simp [addressUpdate, updated, asserted, bind, Except.bind, lockFound]
          simp only [acceptNew, refused, bind, Except.bind]
          exact (unmoved_addr locks).counted ok
      | ok ref =>
          obtain ⟨full, absent⟩ := paired ref (by rw [updateRef, updated]; rfl)
          have place : s.neighbor.addrToNeighbor ref = 255 := absent
          have unheld : locksOf g ref = 0 := by
            rw [locks, ok.counted, neighborHolds, place]
            rfl
          obtain ⟨g₁, locked, locks₁⟩ := lock_unheld unheld
          have taken : addressUpdate ieee a true s.addr = .ok (g₁, .ok ref) := by
            simp [addressUpdate, updated, asserted, bind, Except.bind, lockFound, addressLock,
              locked, Except.map]
          have noRoom : NwkContext.neighborGet ref true { s with addr := g₁ } =
              some ({ s with addr := g₁ }, .error .noMemory) := by
            simp [NwkContext.neighborGet, zbNwkNeighborGet, place, full]
          have one : (g₁.addrMap ref).lockCnt = 1 := by
            have here : locksOf g₁ ref = 1 := by rw [locks₁, Function.update_self]
            exact here
          have given : addressUnlock ref g₁ =
              .ok (g₁.setEnt ref fun ent => { ent with lockCnt := ent.lockCnt - 1 }) := by
            simp [addressUnlock, zbAddressUnlock, one]
          simp only [acceptNew, taken, neighborGet, noRoom, given, bind, Except.bind]
          refine (unmoved_addr ?_).counted ok
          funext r
          by_cases here : r = ref
          · rw [here, locksOf, setEnt_self, ← locks, unheld]
            dsimp only
            rw [one]
          · rw [locksOf, setEnt_of_ne _ _ _ here, ← locks]
            have other : locksOf g₁ r = locksOf g r := by rw [locks₁, Function.update_of_ne here]
            exact other

theorem acceptChild_counted {router rxOnWhenIdle : Bool} {assigned : Option UInt16}
    (ok : Counted s)
    (paired : ∀ r ∈ zbNwkNeighborGetByIeee ieee s,
      ChildPaired ieee router rxOnWhenIdle assigned r.1 r.2) :
    Outcome (fun r => Counted r.1) (zbNwkAcceptChild ieee router rxOnWhenIdle assigned s) := by
  refine (outcome_asserted fun r taken => taken).bind fun r taken => ?_
  obtain ⟨t, got⟩ := r
  have child := paired _ taken
  have counted := (getByIeee_unmoved taken).1.counted ok
  cases got with
  | ok n =>
      have known : sameCapabilities router rxOnWhenIdle (t.neighbor.baseNeighbor n) = true := child
      simp only [known]
      exact counted
  | error status =>
      cases assigned with
      | none => exact counted
      | some addr => exact acceptNew_counted counted fun ref found => child addr rfl ref found

theorem extToBaseTmp_counted {ext : ZbExtNeighborTblEnt} {unset : Nat} (ok : Counted s)
    (full : s.neighbor.baseNeighborSize ≤ s.neighbor.baseNeighborUsed) :
    Outcome Counted (zbNwkNeighborExtToBaseTmp ext unset s) := by
  simp only [zbNwkNeighborExtToBaseTmp, if_pos full]
  exact ok

theorem extAddress_unmoved (ext : ZbExtNeighborTblEnt) (g : ZbAddrGlobals) :
    Outcome (fun r => locksOf r.1 = locksOf g) (extAddress ext g) := by
  simp only [extAddress]
  split
  · split
    · exact (addressUpdate_unmoved fun impossible => by cases impossible).mono fun r same => same.1
    · exact addressByShort_unmoved fun impossible => by cases impossible
  · exact addressByIeee_unmoved fun impossible => by cases impossible

theorem exneighborStop_counted {ext : ZbExtNeighborTblEnt} (ok : Counted s)
    (paired : ∀ ref ∈ extRef s.addr ext, NoNeighbor s ref →
      s.neighbor.baseNeighborSize ≤ s.neighbor.baseNeighborUsed) :
    Outcome Counted (zbNwkExneighborStopEnt ext s) := by
  have locks := extAddress_unmoved ext s.addr
  cases looked : extAddress ext s.addr with
  | error stop =>
      rw [looked] at locks
      simp only [zbNwkExneighborStopEnt, looked, bind, Except.bind]
      exact locks
  | ok r =>
      obtain ⟨g, res⟩ := r
      rw [looked] at locks
      have counted := (unmoved_addr locks).counted ok
      simp only [zbNwkExneighborStopEnt, looked, bind, Except.bind]
      cases res with
      | error status => exact counted
      | ok ref =>
          dsimp only
          split
          · split
            · exact ⟨counted.counted, counted.room, counted.size⟩
            · rfl
          · rename_i absent
            have full := paired ref (by rw [extRef, looked]; rfl) (not_not.1 absent)
            rw [if_neg (by omega)]
            exact counted

end Devices

/-! ## Binding -/

section Binding

variable {c c' : BindContext} {req : ZbApsmeBindingReq} {g g' : ZbAddrGlobals}
  {status : Except ZbRet Unit}

theorem lookup_locks {ieee : ZbIeeeAddr} {create : Bool} {res : Except ZbRet Nat}
    (taken : lookup ieee create g = .ok (g', res)) : locksOf g' = locksOf g := by
  simp only [lookup] at taken
  split at taken
  · rename_i r looked
    cases taken
    exact (byIeee_free looked).1
  · cases taken

theorem requestDst_locks {res : Except ZbRet BindDst}
    (taken : requestDst req g = .ok (g', res)) : locksOf g' = locksOf g := by
  simp only [requestDst] at taken
  split at taken
  · cases looked : lookup req.dstAddrLong true g with
    | error stop =>
        rw [looked] at taken
        cases taken
    | ok r =>
        rw [looked] at taken
        cases taken
        exact lookup_locks looked
  · split at taken <;> (cases taken; rfl)

/-- A request that is refused adds no record. -/
theorem bind_refused (taken : zbApsmeBindRequest req c = .ok (c', status))
    (failed : ∀ done, status ≠ .ok done) :
    locksOf c'.addr = locksOf c.addr ∧ c'.binding = c.binding := by
  simp only [zbApsmeBindRequest] at taken
  cases looked : lookup req.srcAddr true c.addr with
  | error stop =>
      rw [looked] at taken
      cases taken
  | ok r =>
      obtain ⟨g, found⟩ := r
      have locks := lookup_locks looked
      rw [looked] at taken
      simp only [bind, Except.bind] at taken
      cases found with
      | error why =>
          cases taken
          exact ⟨locks, rfl⟩
      | ok ref =>
          dsimp only at taken
          split at taken
          · cases named : requestDst req g with
            | error stop =>
                rw [named] at taken
                cases taken
            | ok r =>
                obtain ⟨g', dst⟩ := r
                have locks' := requestDst_locks named
                rw [named] at taken
                cases dst with
                | error why =>
                    cases taken
                    exact ⟨locks'.trans locks, rfl⟩
                | ok dst =>
                    cases taken
                    exact absurd rfl (failed ())
          · cases taken
            exact ⟨locks, rfl⟩

/-- Unbinding finds no record in an empty table, or its stale first slot. -/
theorem removeRecord_init {src : ZbApsBindSrcTable} {dst : BindDst} {t : ZbApsBindingTable}
    (found : apsFindSrcRef .init src ≠ 255)
    (taken : removeRecord (apsFindSrcRef .init src) dst .init = .ok t) :
    t = ZbApsBindingTable.init := by
  have first : apsFindSrcRef ZbApsBindingTable.init src =
      if ZbApsBindingTable.init.srcTable 0 = src then 0 else 255 :=
    Zboss.Aps.BindLinks.apsFindSrcRef_empty rfl
  have zero : apsFindSrcRef ZbApsBindingTable.init src = 0 := by
    rw [first] at found ⊢
    split
    · rfl
    · rename_i other
      rw [if_neg other] at found
      exact absurd rfl found
  rw [zero] at taken
  by_cases same : dst = .group 0
  · rw [same] at taken
    have faults : removeRecord 0 (.group 0) ZbApsBindingTable.init = .error .fault := rfl
    rw [faults] at taken
    cases taken
  · have other : ZbApsBindingTable.init.dstTable 0 ≠ ⟨dst, 0⟩ := fun here => by
      rw [ZbApsBindingTable.init] at here
      cases here
      exact same rfl
    have removed : removeRecord 0 dst ZbApsBindingTable.init = .ok ZbApsBindingTable.init :=
      Zboss.Aps.BindLinks.removeRecord_empty rfl rfl (fun _ => rfl) other
    rw [removed] at taken
    cases taken
    rfl

theorem unbind_empty (taken : zbApsmeUnbindRequest req c = .ok (c', status))
    (empty : c.binding = .init) :
    locksOf c'.addr = locksOf c.addr ∧ c'.binding = .init := by
  simp only [zbApsmeUnbindRequest, empty] at taken
  cases looked : lookup req.srcAddr false c.addr with
  | error stop =>
      rw [looked] at taken
      cases taken
  | ok r =>
      obtain ⟨g, found⟩ := r
      have locks := lookup_locks looked
      rw [looked] at taken
      simp only [bind, Except.bind] at taken
      cases found with
      | error why =>
          cases taken
          exact ⟨locks, rfl⟩
      | ok ref =>
          dsimp only at taken
          split at taken
          · cases taken
            exact ⟨locks, rfl⟩
          · rename_i there
            cases named : requestDst req g with
            | error stop =>
                rw [named] at taken
                cases taken
            | ok r =>
                obtain ⟨g', dst⟩ := r
                have locks' := requestDst_locks named
                rw [named] at taken
                cases dst with
                | error why =>
                    cases taken
                    exact ⟨locks'.trans locks, rfl⟩
                | ok dst =>
                    dsimp only at taken
                    cases removed : removeRecord
                        (apsFindSrcRef .init (requestSrc req ref)) dst .init with
                    | error stop =>
                        rw [removed] at taken
                        cases taken
                    | ok t =>
                        rw [removed] at taken
                        cases taken
                        exact ⟨locks'.trans locks, removeRecord_init there removed⟩

end Binding

/-! ## Histories -/

/-- The counters count, and no binding record is there. -/
structure AllCounted (s : LockContext) : Prop where
  nwk : Counted s.nwk
  binding : s.binding = .init

theorem AllCounted.holders {s : LockContext} (ok : AllCounted s) (ref : Nat) :
    (s.nwk.addr.addrMap ref).lockCnt = holders s ref := by
  have counted := ok.nwk.counted ref
  rw [DeviceInfo.holders, ok.binding]
  exact counted

/-- **One call keeps the counters**, and fails no lock assertion. -/
theorem lockCall_counted {s : LockContext} {call : LockCall} (ok : AllCounted s)
    (paired : Paired s call) : Outcome AllCounted (lockCall s call) := by
  have keep : ∀ nwk, Counted nwk → AllCounted { s with nwk := nwk } :=
    fun nwk counted => ⟨counted, ok.binding⟩
  cases call with
  | stack call => exact (stackCall_counted ok.nwk paired).map keep
  | deviceInfoUpd ieee addr macSrc =>
      exact (deviceInfoUpd_counted ok.nwk paired).map fun r => keep r.1
  | dataConfirm wasAnnce a => exact (dataConfirm_counted ok.nwk paired).map keep
  | acceptChild deviceAddress router rxOnWhenIdle assigned =>
      exact (acceptChild_counted ok.nwk paired).map fun r => keep r.1
  | extToBaseTmp ext unset => exact (extToBaseTmp_counted ok.nwk paired).map keep
  | exneighborStop ext => exact (exneighborStop_counted ok.nwk paired).map keep
  | bind call =>
      cases call with
      | bind req =>
          cases taken : zbApsmeBindRequest req ⟨s.nwk.addr, s.binding⟩ with
          | error stop =>
              simp only [lockCall, bindCall, taken]
              rfl
          | ok r =>
              obtain ⟨c, status⟩ := r
              simp only [lockCall, bindCall, taken]
              have refused : ∀ done, status ≠ .ok done := by
                rintro done rfl
                simp only [Paired, bindRefused, taken] at paired
                cases paired
              obtain ⟨locks, same⟩ := bind_refused taken refused
              exact ⟨(unmoved_addr locks).counted ok.nwk, same.trans ok.binding⟩
      | unbind req =>
          cases taken : zbApsmeUnbindRequest req ⟨s.nwk.addr, s.binding⟩ with
          | error stop =>
              simp only [lockCall, bindCall, taken]
              rfl
          | ok r =>
              obtain ⟨c, status⟩ := r
              simp only [lockCall, bindCall, taken]
              obtain ⟨locks, same⟩ := unbind_empty taken ok.binding
              exact ⟨(unmoved_addr locks).counted ok.nwk, same⟩

theorem allCounted_init (depth : UInt8) (networkAddress : UInt16) :
    AllCounted (.init depth networkAddress) where
  nwk := ⟨fun _ => rfl, Nat.zero_lt_succ 31, Nat.le_add_right 32 223⟩
  binding := rfl

/-- **The lock counters** over a history whose calls pair every lock with a table
entry: each counts the tables that hold its entry, and the assertions hold. -/
theorem locks_counted {depth : UInt8} {networkAddress : UInt16} {calls : List LockCall}
    (along : Along lockStep Paired (.init depth networkAddress) calls) :
    LocksCounted (.init depth networkAddress) calls := by
  have keeps : ∀ s call t, AllCounted s → Paired s call → lockStep s call = some t →
      AllCounted t := by
    intro s call t ok paired taken
    have outcome := lockCall_counted ok paired
    rw [lockStep] at taken
    cases called : lockCall s call with
    | error stop =>
        rw [called] at taken
        cases taken
    | ok u =>
        rw [called] at taken outcome
        cases taken
        exact outcome
  have start := allCounted_init depth networkAddress
  refine ⟨fun s ran ref => (run_invariant keeps start along ran).holders ref, ?_⟩
  refine along_of_invariant keeps (fun s call ok paired => ?_) start along
  have outcome := lockCall_counted ok paired
  rw [stopOf]
  cases called : lockCall s call with
  | ok t => exact ⟨by simp, by simp⟩
  | error stop =>
      rw [called] at outcome
      obtain rfl : stop = .other := outcome
      exact ⟨by simp, by simp⟩

/-- A history of lookups, of a new neighbour, and of a LEAVE from elsewhere. -/
def neighborsOnly : List LockCall :=
  [.stack (.address (.update someDevice 7 false)), .stack (.neighborGet 82 true),
    .stack (.address (.byShort 9 false true)), .stack (.address (.byShort 9 true false)),
    .stack (.leaveHandler 9 false)]

theorem locks_counted_neighborsOnly : LocksCounted (.init 0 0) neighborsOnly :=
  locks_counted (by decide +kernel)

/-- A device that announces itself again and again. -/
def announcements (n : Nat) : List LockCall :=
  List.replicate n (.deviceInfoUpd someDevice 7 none)

/-- **The sixteenth announcement of a device stops**: each one takes a lock that
nothing gives back, and no table holds the address. -/
theorem sixteenth_announcement :
    ¬ ∀ calls : List LockCall, LocksCounted (.init 0 0) calls := by
  intro counted
  have first : announcements 16 =
      announcements 15 ++ [.deviceInfoUpd someDevice 7 none] := rfl
  have asserts := (counted (announcements 16)).asserts
  rw [first, along_append] at asserts
  have after : (run lockStep (.init 0 0) (announcements 15)).map (fun s =>
      stopOf s (.deviceInfoUpd someDevice 7 none)) = some (some .lockWrapped) := by
    decide +kernel
  obtain ⟨s, ran, stops⟩ := Option.map_eq_some_iff.1 after
  exact (asserts.2 s ran).1.1 stops

/-- The counter after ten announcements, with no table that holds the address. -/
example : (run lockStep (.init 0 0) (announcements 10)).map (fun s =>
    ((s.nwk.addr.addrMap 82).lockCnt, holders s 82)) = some (10, 0) := by
  decide +kernel

end Zboss.Zdo.LockCount
