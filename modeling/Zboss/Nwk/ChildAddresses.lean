/-
# Nwk.ChildAddresses -- the addresses a parent hands out

A parent under acceptances, leave requests and whatever else the stack does to the
tables.  `children` is kept beside it: the devices it gave an address to and has not
asked to leave since, each with that address.

* `step_assigned`: in a run that is `Orderly`, every child's address is that of its
  own slot, one of those the two counters count;
* `childAddresses_inBlock`: so they are distinct, the routers' blocks are apart from
  everything else, and all of it lies in the parent's block.

A step is orderly when an end device is given an address only while the block has one
for an end device, when a known device that joins is a child with the address the
tables have for it, and when the address of a leave request is taken back only from
an end device that has it.  The code checks none of the three: the room for an end
device is checked in the sum of all children (`end_device_outside`), and a device can
be asked to leave twice (`address_given_twice`).
-/
import Mathlib
import Zboss.Theory.Run
import Zboss.Nwk.Cskip
import Zboss.Nwk.AcceptChild

namespace Zboss.Nwk.ChildAddresses

open Zboss.Theory.Run
open Zboss.Theory.BlockTree
open Zboss.Common.Types
open Zboss.Common.Address
open Zboss.Nwk.Neighbor
open Zboss.Nwk.Forget
open Zboss.Nwk.TreeRouting
open Zboss.Nwk.Cskip
open Zboss.Nwk.AcceptChild
open Zboss.Zdo.DeviceInfo hiding zbNwkAcceptChild

set_option autoImplicit false

/-! ## The parent and its children -/

structure Child where
  device : ZbIeeeAddr
  router : Bool
  address : UInt16
  deriving DecidableEq

structure ParentState where
  join : JoinContext
  children : List Child

inductive ParentCall where
  | acceptChild (deviceAddress : ZbIeeeAddr) (capability lqi : UInt8)
  | leaveRequest (deviceAddress : ZbIeeeAddr)
  | tables (nwk : NwkContext)

/-- The children without a device. -/
def without (device : ZbIeeeAddr) (children : List Child) : List Child :=
  children.filter fun c => c.device ≠ device

def parentStep (s : ParentState) : ParentCall → Option ParentState
  | .acceptChild device capability lqi =>
      match zbNwkAcceptChild device capability lqi s.join with
      | .error _ => none
      | .ok (join, none) => some { s with join := join }
      | .ok (join, some addr) => some
          { join := join
            children :=
              ⟨device, zbMacCapGetDeviceType capability, addr⟩ :: without device s.children }
  | .leaveRequest device =>
      match zbNlmeLeaveRequest device s.join with
      | .error _ => none
      | .ok (join, sent) => some
          { join := join
            children := if sent then without device s.children else s.children }
  | .tables nwk => some { s with join := { s.join with nwk := nwk } }

/-- A parent after formation or its own join: it has no children, and Cskip is that of
its depth. -/
structure Formed (s : ParentState) : Prop where
  noRouters : s.join.nib.routerChildNum = 0
  noEnds : s.join.nib.edChildNum = 0
  noChildren : s.children = []
  cskip : s.join.nib.tree.cskip = zbNwkDaaCalcCskip s.join.nib.tree s.join.nib.tree.depth

/-! ## What is claimed of the addresses -/

/-- What a child takes of its parent's block. -/
def Child.block (nib : ChildNib) (c : Child) : Nat :=
  if c.router then nib.tree.cskip.toNat else 1

/-- The end of the parent's block. -/
def blockEnd (nib : ChildNib) : Nat :=
  nib.macShortAddress.toNat + blockAt nib.tree nib.tree.depth

/-- **Assigned addresses are distinct and in block.** -/
structure InBlock (nib : ChildNib) (children : List Child) : Prop where
  distinct : (children.map Child.address).Nodup
  apart : ∀ c ∈ children, c.router = true → ∀ d ∈ children, d ≠ c →
    d.address < c.address ∨ c.address.toNat + c.block nib ≤ d.address.toNat
  inside : ∀ c ∈ children, nib.macShortAddress < c.address ∧
    c.address.toNat + c.block nib ≤ blockEnd nib

/-- The capabilities of a device that joins ask for an address. -/
def Asks : ParentCall → Prop
  | .acceptChild _ capability _ => zbMacCapGetAllocateAddress capability = true
  | _ => True

/-! ## The condition -/

/-- The entry the neighbour table has for a device, and its short address. -/
def knownEntry (device : ZbIeeeAddr) (s : NwkContext) : Option (ZbNeighborTblEnt × UInt16) :=
  match zbNwkNeighborGetByIeee device s with
  | some (s, .ok n) =>
      some (s.neighbor.baseNeighbor n, (s.addr.addrMap (s.neighbor.baseNeighbor n).addrRef).addr)
  | _ => none

/-- The block has an address left for an end device that the parent would take. -/
def EdRoom (nib : ChildNib) : Prop :=
  nib.edChildNum.toNat + nib.routerChildNum.toNat < nib.tree.maxChildren.toNat →
    nib.edChildNum.toNat + nib.tree.maxRouters.toNat < nib.tree.maxChildren.toNat

/-- A new child, if it is an end device, finds room. -/
def NewChildFits (capability : UInt8) (nib : ChildNib) : Prop :=
  zbMacCapGetDeviceType capability = false → EdRoom nib

/-- The join of a device, by the entry the table has for it. -/
def JoinOrderly (s : ParentState) (device : ZbIeeeAddr) (capability : UInt8) :
    Option (ZbNeighborTblEnt × UInt16) → Prop
  | some (ent, addr) =>
      if sameCapabilities (zbMacCapGetDeviceType capability)
          (zbMacCapGetRxOnWhenIdle capability) ent then
        ⟨device, zbMacCapGetDeviceType capability, addr⟩ ∈ s.children
      else NewChildFits capability s.join.nib
  | none => NewChildFits capability s.join.nib

/-- The leave request for a device, by the entry the table has for it. -/
def LeaveOrderly (s : ParentState) (device : ZbIeeeAddr) :
    Option (ZbNeighborTblEnt × UInt16) → Prop
  | some (ent, addr) =>
      ent.relationship = .child → addr.toNat + 1 = zbNwkEdAddressAssign s.join.nib →
        ⟨device, false, addr⟩ ∈ s.children
  | none => True

def Orderly (s : ParentState) : ParentCall → Prop
  | .acceptChild device capability _ =>
      JoinOrderly s device capability (knownEntry device s.join.nwk)
  | .leaveRequest device => LeaveOrderly s device (knownEntry device s.join.nwk)
  | .tables _ => True

instance (call : ParentCall) : Decidable (Asks call) :=
  match call with
  | .acceptChild _ capability _ =>
      inferInstanceAs (Decidable (zbMacCapGetAllocateAddress capability = true))
  | .leaveRequest _ => inferInstanceAs (Decidable True)
  | .tables _ => inferInstanceAs (Decidable True)

instance (nib : ChildNib) : Decidable (EdRoom nib) := inferInstanceAs (Decidable (_ → _))

instance (capability : UInt8) (nib : ChildNib) : Decidable (NewChildFits capability nib) :=
  inferInstanceAs (Decidable (_ → _))

instance (s : ParentState) (device : ZbIeeeAddr) (capability : UInt8)
    (entry : Option (ZbNeighborTblEnt × UInt16)) :
    Decidable (JoinOrderly s device capability entry) :=
  match entry with
  | some (ent, addr) =>
      inferInstanceAs (Decidable (if sameCapabilities (zbMacCapGetDeviceType capability)
          (zbMacCapGetRxOnWhenIdle capability) ent then
        ⟨device, zbMacCapGetDeviceType capability, addr⟩ ∈ s.children
      else NewChildFits capability s.join.nib))
  | none => inferInstanceAs (Decidable (NewChildFits capability s.join.nib))

instance (s : ParentState) (device : ZbIeeeAddr) (entry : Option (ZbNeighborTblEnt × UInt16)) :
    Decidable (LeaveOrderly s device entry) :=
  match entry with
  | some (ent, addr) =>
      inferInstanceAs (Decidable (ent.relationship = .child →
        addr.toNat + 1 = zbNwkEdAddressAssign s.join.nib → ⟨device, false, addr⟩ ∈ s.children))
  | none => inferInstanceAs (Decidable True)

instance (s : ParentState) (call : ParentCall) : Decidable (Orderly s call) :=
  match call with
  | .acceptChild device capability _ =>
      inferInstanceAs (Decidable (JoinOrderly s device capability (knownEntry device s.join.nwk)))
  | .leaveRequest device =>
      inferInstanceAs (Decidable (LeaveOrderly s device (knownEntry device s.join.nwk)))
  | .tables _ => inferInstanceAs (Decidable True)

/-! ## Slots -/

/-- Where the block of child router `i` begins. -/
def routerSlot (nib : ChildNib) (i : Nat) : Nat :=
  nib.macShortAddress.toNat + i * nib.tree.cskip.toNat + 1

/-- The address of end device `k`. -/
def edSlot (nib : ChildNib) (k : Nat) : Nat :=
  nib.macShortAddress.toNat + nib.tree.maxRouters.toNat * nib.tree.cskip.toNat + k + 1

/-- The parent's parameters fit, and Cskip is that of its depth. -/
structure Shaped (nib : ChildNib) : Prop where
  fits : blockEnd nib ≤ 65536
  cskip : nib.tree.cskip = zbNwkDaaCalcCskip nib.tree nib.tree.depth

/-- **The invariant**: every child has a slot the counters count. -/
structure Assigned (nib : ChildNib) (children : List Child) : Prop where
  routers : ∀ c ∈ children, c.router = true →
    ∃ i < nib.routerChildNum.toNat, c.address.toNat = routerSlot nib i
  ends : ∀ c ∈ children, c.router = false →
    ∃ k < nib.edChildNum.toNat, c.address.toNat = edSlot nib k
  distinct : (children.map Child.address).Nodup
  routerCount : nib.routerChildNum.toNat ≤ nib.tree.maxRouters.toNat
  childCount : nib.routerChildNum.toNat ≤ nib.tree.maxChildren.toNat
  edCount : nib.edChildNum.toNat = 0 ∨
    nib.edChildNum.toNat + nib.tree.maxRouters.toNat ≤ nib.tree.maxChildren.toNat
  deep : 0 < nib.routerChildNum.toNat + nib.edChildNum.toNat → nib.tree.depth < nib.tree.maxDepth

section Slots

variable {nib nib' : ChildNib} {children : List Child} {i j k : Nat}

theorem Shaped.cskip_eq (shaped : Shaped nib) (deep : nib.tree.depth < nib.tree.maxDepth) :
    nib.tree.cskip.toNat = span nib.tree.maxChildren.toNat nib.tree.maxRouters.toNat
      (nib.tree.maxDepth.toNat - nib.tree.depth.toNat - 1) := by
  have fits := shaped.fits
  rw [blockEnd] at fits
  rw [shaped.cskip]
  exact zbNwkDaaCalcCskip_spec deep (by omega)

theorem Shaped.one_le_cskip (shaped : Shaped nib) (deep : nib.tree.depth < nib.tree.maxDepth) :
    1 ≤ nib.tree.cskip.toNat := by
  rw [shaped.cskip_eq deep]
  exact one_le_span ..

theorem Shaped.blockEnd_eq (deep : nib.tree.depth < nib.tree.maxDepth) :
    blockEnd nib = nib.macShortAddress.toNat +
      span nib.tree.maxChildren.toNat nib.tree.maxRouters.toNat
        (nib.tree.maxDepth.toNat - nib.tree.depth.toNat - 1 + 1) := by
  have lt : nib.tree.depth.toNat < nib.tree.maxDepth.toNat := deep
  rw [blockEnd, blockAt]
  congr 2
  omega

theorem routerSlot_le (shaped : Shaped nib) (deep : nib.tree.depth < nib.tree.maxDepth)
    (isRouter : i < nib.tree.maxRouters.toNat) (isChild : i < nib.tree.maxChildren.toNat) :
    routerSlot nib i + nib.tree.cskip.toNat ≤ blockEnd nib := by
  have inside := inner_span_le (h := nib.tree.maxDepth.toNat - nib.tree.depth.toNat - 1) isRouter isChild
  rw [routerSlot, Shaped.blockEnd_eq deep, shaped.cskip_eq deep]
  omega

theorem edSlot_lt (shaped : Shaped nib) (deep : nib.tree.depth < nib.tree.maxDepth)
    (room : k + nib.tree.maxRouters.toNat < nib.tree.maxChildren.toNat) :
    edSlot nib k < blockEnd nib := by
  have inside := leaf_lt_span (h := nib.tree.maxDepth.toNat - nib.tree.depth.toNat - 1) room
  rw [edSlot, Shaped.blockEnd_eq deep, shaped.cskip_eq deep]
  omega

theorem ofNat_slot {n : Nat} (shaped : Shaped nib) (lt : n < blockEnd nib) :
    (UInt16.ofNat n).toNat = n :=
  UInt16.toNat_ofNat_of_lt' (lt.trans_le shaped.fits)

/-- A router's block ends before a later router's begins. -/
theorem routerSlot_apart (nib : ChildNib) (lt : i < j) :
    routerSlot nib i + nib.tree.cskip.toNat ≤ routerSlot nib j := by
  have apart := blocks_apart (s := nib.tree.cskip.toNat) lt
  rw [Nat.mul_comm, Nat.mul_comm _ j] at apart
  rw [routerSlot, routerSlot]
  omega

/-- The end devices come after the blocks of the routers. -/
theorem routerSlot_before_ed (nib : ChildNib) (isRouter : i < nib.tree.maxRouters.toNat) :
    routerSlot nib i + nib.tree.cskip.toNat ≤ edSlot nib k := by
  have apart := routerSlot_apart nib isRouter
  rw [routerSlot, routerSlot] at apart
  rw [routerSlot, edSlot]
  omega

end Slots

/-! ## What the calls do -/

section Calls

variable {s t : JoinContext} {device : ZbIeeeAddr} {capability lqi : UInt8} {res : Option UInt16}

/-- The same parent, but for the permission to associate. -/
structure SameNib (nib nib' : ChildNib) : Prop where
  tree : nib'.tree = nib.tree
  routerChildNum : nib'.routerChildNum = nib.routerChildNum
  edChildNum : nib'.edChildNum = nib.edChildNum
  macShortAddress : nib'.macShortAddress = nib.macShortAddress

theorem sameNib_closeAssociation (nib : ChildNib) : SameNib nib (closeAssociation nib) := by
  rw [closeAssociation]
  split
  · exact ⟨rfl, rfl, rfl, rfl⟩
  · exact ⟨rfl, rfl, rfl, rfl⟩

/-- What one acceptance does to the counters, and what it returns. -/
inductive Accepted (s : JoinContext) (device : ZbIeeeAddr) (capability : UInt8) (t : JoinContext)
    (res : Option UInt16) : Prop
  /-- The device is known, and keeps its address. -/
  | known (ent : ZbNeighborTblEnt) (addr : UInt16)
      (entry : knownEntry device s.nwk = some (ent, addr))
      (same : sameCapabilities (zbMacCapGetDeviceType capability)
        (zbMacCapGetRxOnWhenIdle capability) ent = true)
      (nib : SameNib s.nib t.nib) (address : res = some addr)
  /-- There is no room. -/
  | refused (nib : SameNib s.nib t.nib) (address : res = none)
  /-- The counters count one more; the tables may still have no room. -/
  | counted (nib : ChildNib) (addr : UInt16)
      (entry : ∀ ent addr, knownEntry device s.nwk = some (ent, addr) →
        sameCapabilities (zbMacCapGetDeviceType capability)
          (zbMacCapGetRxOnWhenIdle capability) ent = false)
      (assigned : assignAddress capability s.nib = some (nib, addr))
      (nib' : SameNib nib t.nib) (address : res = none ∨ res = some addr)

theorem settleChild_spec (capability lqi : UInt8) (s : JoinContext)
    (accepted : Option (Nat × UInt16)) :
    SameNib s.nib (settleChild capability lqi s accepted).1.nib ∧
      (settleChild capability lqi s accepted).2 = accepted.map Prod.snd := by
  have same := sameNib_closeAssociation s.nib
  cases accepted with
  | none => exact ⟨same, rfl⟩
  | some r => exact ⟨same, rfl⟩

theorem admitChild_spec (unknown : ∀ ent addr, knownEntry device s.nwk = some (ent, addr) →
      sameCapabilities (zbMacCapGetDeviceType capability)
        (zbMacCapGetRxOnWhenIdle capability) ent = false)
    {nwk : NwkContext}
    (taken : admitChild device capability lqi { s with nwk := nwk } = .ok (t, res)) :
    Accepted s device capability t res := by
  rw [admitChild] at taken
  cases assigned : assignAddress capability s.nib with
  | none =>
      simp only [assigned, pure, Except.pure, Except.ok.injEq] at taken
      obtain ⟨same, address⟩ := settleChild_spec capability lqi { s with nwk := nwk } none
      rw [taken] at same address
      exact .refused same address
  | some r =>
      obtain ⟨nib, addr⟩ := r
      simp only [assigned, bind, Except.bind, pure, Except.pure] at taken
      cases entering : enterChild device addr nwk with
      | error stop => simp [entering] at taken
      | ok r =>
          obtain ⟨nwk', entered⟩ := r
          simp only [entering, Except.ok.injEq] at taken
          obtain ⟨same, address⟩ := settleChild_spec capability lqi { nib := nib, nwk := nwk' }
            (entered.map fun n => (n, addr))
          rw [taken] at same address
          refine .counted nib addr unknown assigned same ?_
          cases entered with
          | none => exact .inl address
          | some n => exact .inr address

theorem zbNwkAcceptChild_spec (taken : zbNwkAcceptChild device capability lqi s = .ok (t, res)) :
    Accepted s device capability t res := by
  rw [zbNwkAcceptChild] at taken
  cases found : zbNwkNeighborGetByIeee device s.nwk with
  | none => simp [found, asserted, bind, Except.bind] at taken
  | some r =>
      obtain ⟨nwk, got⟩ := r
      simp only [found, asserted, bind, Except.bind, pure, Except.pure] at taken
      cases got with
      | error status =>
          refine admitChild_spec ?_ taken
          intro ent addr entry
          simp [knownEntry, found] at entry
      | ok n =>
          have entry : knownEntry device s.nwk = some (nwk.neighbor.baseNeighbor n,
              (nwk.addr.addrMap (nwk.neighbor.baseNeighbor n).addrRef).addr) := by
            simp [knownEntry, found]
          simp only at taken
          split at taken
          · rename_i same
            have spec := settleChild_spec capability lqi { s with nwk := nwk } (some (n,
              (nwk.addr.addrMap (nwk.neighbor.baseNeighbor n).addrRef).addr))
            rw [Except.ok.inj taken] at spec
            exact .known _ _ entry same spec.1 spec.2
          · rename_i other
            refine admitChild_spec ?_ taken
            intro ent addr entry'
            rw [entry] at entry'
            cases entry'
            exact Bool.eq_false_of_not_eq_true other

/-- What a leave request does to the counters. -/
theorem zbNlmeLeaveRequest_spec {sent : Bool}
    (taken : zbNlmeLeaveRequest device s = .ok (t, sent)) :
    (sent = false ∧ t.nib = s.nib) ∨
      ∃ ent addr, knownEntry device s.nwk = some (ent, addr) ∧ ent.relationship = .child ∧
        sent = true ∧ t.nib = releaseAddress addr s.nib := by
  rw [zbNlmeLeaveRequest] at taken
  cases zero : zbIeeeAddrIsZero device with
  | true => simp [zero, throw, throwThe, MonadExceptOf.throw, bind, Except.bind] at taken
  | false =>
      cases found : zbNwkNeighborGetByIeee device s.nwk with
      | none => simp [zero, found, asserted, bind, Except.bind] at taken
      | some r =>
          obtain ⟨nwk, got⟩ := r
          simp only [zero, found, asserted, bind, Except.bind, pure, Except.pure,
            Bool.false_eq_true, if_false] at taken
          cases got with
          | error status =>
              cases taken
              exact .inl ⟨rfl, rfl⟩
          | ok n =>
              simp only at taken
              split at taken
              · rename_i child
                cases taken
                exact .inr ⟨_, _, by simp [knownEntry, found], child, rfl, rfl⟩
              · cases taken
                exact .inl ⟨rfl, rfl⟩

end Calls

/-! ## The invariant is kept -/

section Kept

variable {nib nib' : ChildNib} {children : List Child} {device : ZbIeeeAddr} {capability : UInt8}
  {addr : UInt16} {c : Child}

theorem SameNib.assigned (same : SameNib nib nib') (ok : Assigned nib children) :
    Assigned nib' children := by
  obtain ⟨tree, routers, ends, short, permit, level⟩ := nib
  obtain ⟨tree', routers', ends', short', permit', level'⟩ := nib'
  obtain ⟨rfl, rfl, rfl, rfl⟩ := same
  exact ⟨ok.routers, ok.ends, ok.distinct, ok.routerCount, ok.childCount, ok.edCount, ok.deep⟩

theorem SameNib.shaped (same : SameNib nib nib') (ok : Shaped nib) : Shaped nib' := by
  obtain ⟨tree, routers, ends, short, permit, level⟩ := nib
  obtain ⟨tree', routers', ends', short', permit', level'⟩ := nib'
  obtain ⟨rfl, rfl, rfl, rfl⟩ := same
  exact ⟨ok.fits, ok.cskip⟩

/-- Fewer children. -/
theorem Assigned.sublist {fewer : List Child} (ok : Assigned nib children)
    (sub : fewer.Sublist children) : Assigned nib fewer where
  routers c mem := ok.routers c (sub.subset mem)
  ends c mem := ok.ends c (sub.subset mem)
  distinct := ok.distinct.sublist (sub.map _)
  routerCount := ok.routerCount
  childCount := ok.childCount
  edCount := ok.edCount
  deep := ok.deep

theorem without_sublist (device : ZbIeeeAddr) (children : List Child) :
    (without device children).Sublist children :=
  List.filter_sublist

theorem mem_without : c ∈ without device children ↔ c ∈ children ∧ c.device ≠ device := by
  simp [without]

/-- One more child, whose address is that of a slot that is counted. -/
theorem Assigned.cons (ok : Assigned nib children)
    (slot : if c.router then ∃ i < nib.routerChildNum.toNat, c.address.toNat = routerSlot nib i
      else ∃ k < nib.edChildNum.toNat, c.address.toNat = edSlot nib k)
    (fresh : ∀ d ∈ children, d.address ≠ c.address) : Assigned nib (c :: children) where
  routers d mem router := by
    rcases List.mem_cons.1 mem with rfl | mem
    · rwa [router, if_pos rfl] at slot
    · exact ok.routers d mem router
  ends d mem ed := by
    rcases List.mem_cons.1 mem with rfl | mem
    · rwa [ed, if_neg Bool.false_ne_true] at slot
    · exact ok.ends d mem ed
  distinct := by
    rw [List.map_cons, List.nodup_cons]
    refine ⟨?_, ok.distinct⟩
    intro taken
    obtain ⟨d, mem, same⟩ := List.mem_map.1 taken
    exact fresh d mem same
  routerCount := ok.routerCount
  childCount := ok.childCount
  edCount := ok.edCount
  deep := ok.deep

/-- A child that is there already, put in front. -/
theorem Assigned.again (ok : Assigned nib children) (mem : c ∈ children) :
    Assigned nib (c :: without c.device children) := by
  refine (ok.sublist (without_sublist c.device children)).cons ?_ ?_
  · cases router : c.router with
    | true => exact ok.routers c mem router
    | false => exact ok.ends c mem router
  · intro d mem' same
    obtain ⟨mem', other⟩ := mem_without.1 mem'
    exact other (congrArg Child.device (List.inj_on_of_nodup_map ok.distinct mem' mem same))

/-- No child has the address of the next router. -/
theorem Assigned.next_router (ok : Assigned nib children) (shaped : Shaped nib)
    (deep : nib.tree.depth < nib.tree.maxDepth) (mem : c ∈ children)
    (room : nib.routerChildNum.toNat < nib.tree.maxRouters.toNat) :
    c.address.toNat ≠ routerSlot nib nib.routerChildNum.toNat := by
  have positive := shaped.one_le_cskip deep
  cases router : c.router with
  | true =>
      obtain ⟨i, lt, address⟩ := ok.routers c mem router
      have apart := routerSlot_apart nib lt
      omega
  | false =>
      obtain ⟨k, lt, address⟩ := ok.ends c mem router
      have apart := routerSlot_before_ed (k := k) nib room
      omega

/-- No child has the address of the next end device. -/
theorem Assigned.next_ed (ok : Assigned nib children) (shaped : Shaped nib)
    (deep : nib.tree.depth < nib.tree.maxDepth) (mem : c ∈ children) :
    c.address.toNat ≠ edSlot nib nib.edChildNum.toNat := by
  have positive := shaped.one_le_cskip deep
  cases router : c.router with
  | true =>
      obtain ⟨i, lt, address⟩ := ok.routers c mem router
      have apart := routerSlot_before_ed (k := nib.edChildNum.toNat) nib (lt.trans_le ok.routerCount)
      omega
  | false =>
      obtain ⟨k, lt, address⟩ := ok.ends c mem router
      rw [edSlot] at address ⊢
      omega

/-- Counting one more router leaves the others where they are. -/
theorem Assigned.count_router (ok : Assigned nib children)
    (deep : nib.tree.depth < nib.tree.maxDepth)
    (room : nib.edChildNum.toNat + nib.routerChildNum.toNat < nib.tree.maxChildren.toNat)
    (routerRoom : nib.routerChildNum.toNat < nib.tree.maxRouters.toNat) :
    Assigned { nib with routerChildNum := nib.routerChildNum + 1 } children := by
  have small := nib.tree.maxRouters.toNat_lt
  have next : (nib.routerChildNum + 1).toNat = nib.routerChildNum.toNat + 1 := by
    rw [UInt8.toNat_add]
    exact Nat.mod_eq_of_lt (by simpa using (by omega : nib.routerChildNum.toNat + 1 < 256))
  refine ⟨?_, ok.ends, ok.distinct, ?_, ?_, ok.edCount, fun _ => deep⟩
  · intro c mem router
    obtain ⟨i, lt, address⟩ := ok.routers c mem router
    exact ⟨i, by simp only [next]; omega, address⟩
  · simp only [next]
    omega
  · simp only [next]
    omega

theorem Assigned.count_ed (ok : Assigned nib children) (deep : nib.tree.depth < nib.tree.maxDepth)
    (room : nib.edChildNum.toNat + nib.tree.maxRouters.toNat < nib.tree.maxChildren.toNat) :
    Assigned { nib with edChildNum := nib.edChildNum + 1 } children := by
  have small := nib.tree.maxChildren.toNat_lt
  have next : (nib.edChildNum + 1).toNat = nib.edChildNum.toNat + 1 := by
    rw [UInt8.toNat_add]
    exact Nat.mod_eq_of_lt (by simpa using (by omega : nib.edChildNum.toNat + 1 < 256))
  refine ⟨ok.routers, ?_, ok.distinct, ok.routerCount, ok.childCount, ?_, fun _ => deep⟩
  · intro c mem router
    obtain ⟨k, lt, address⟩ := ok.ends c mem router
    exact ⟨k, by simp only [next]; omega, address⟩
  · simp only [next]
    omega

theorem assignAddress_router (asks : zbMacCapGetAllocateAddress capability = true)
    (router : zbMacCapGetDeviceType capability = true)
    (assigned : assignAddress capability nib = some (nib', addr)) :
    nib.tree.depth < nib.tree.maxDepth ∧
      nib.edChildNum.toNat + nib.routerChildNum.toNat < nib.tree.maxChildren.toNat ∧
      nib.routerChildNum.toNat < nib.tree.maxRouters.toNat ∧
      nib' = { nib with routerChildNum := nib.routerChildNum + 1 } ∧
      addr = UInt16.ofNat (routerSlot nib nib.routerChildNum.toNat) := by
  simp only [assignAddress, asks, router, if_true] at assigned
  split at assigned
  · rename_i room
    split at assigned
    · rename_i routerRoom
      cases assigned
      exact ⟨room.2, room.1, routerRoom, rfl, rfl⟩
    · cases assigned
  · cases assigned

theorem assignAddress_ed (asks : zbMacCapGetAllocateAddress capability = true)
    (ed : zbMacCapGetDeviceType capability = false)
    (assigned : assignAddress capability nib = some (nib', addr)) :
    nib.tree.depth < nib.tree.maxDepth ∧
      nib.edChildNum.toNat + nib.routerChildNum.toNat < nib.tree.maxChildren.toNat ∧
      nib' = { nib with edChildNum := nib.edChildNum + 1 } ∧
      addr = UInt16.ofNat (edSlot nib nib.edChildNum.toNat) := by
  simp only [assignAddress, asks, ed, if_true, Bool.false_eq_true, if_false] at assigned
  split at assigned
  · rename_i room
    cases assigned
    exact ⟨room.2, room.1, rfl, rfl⟩
  · cases assigned

/-- The counters of a new child keep the others, and count its own slot. -/
theorem Assigned.admitted (ok : Assigned nib children) (shaped : Shaped nib)
    (asks : zbMacCapGetAllocateAddress capability = true) (fits : NewChildFits capability nib)
    (assigned : assignAddress capability nib = some (nib', addr)) :
    Shaped nib' ∧ Assigned nib' children ∧
      (if zbMacCapGetDeviceType capability then
        ∃ i < nib'.routerChildNum.toNat, addr.toNat = routerSlot nib' i
      else ∃ k < nib'.edChildNum.toNat, addr.toNat = edSlot nib' k) ∧
      ∀ d ∈ children, d.address ≠ addr := by
  cases type : zbMacCapGetDeviceType capability with
  | true =>
      obtain ⟨deep, room, routerRoom, rfl, rfl⟩ := assignAddress_router asks type assigned
      have inside := routerSlot_le shaped deep routerRoom
        (by omega : nib.routerChildNum.toNat < nib.tree.maxChildren.toNat)
      have positive := shaped.one_le_cskip deep
      have slot := ofNat_slot shaped (n := routerSlot nib nib.routerChildNum.toNat) (by omega)
      have counted := ok.count_router deep room routerRoom
      refine ⟨⟨shaped.fits, shaped.cskip⟩, counted, ?_, ?_⟩
      · rw [if_pos rfl]
        refine ⟨nib.routerChildNum.toNat, ?_, slot⟩
        have small := nib.tree.maxRouters.toNat_lt
        simp only [UInt8.toNat_add, UInt8.toNat_one]
        omega
      · intro d mem same
        exact ok.next_router shaped deep mem routerRoom (by rw [same]; exact slot)
  | false =>
      obtain ⟨deep, room, rfl, rfl⟩ := assignAddress_ed asks type assigned
      have edRoom := fits type room
      have slot := ofNat_slot shaped (edSlot_lt shaped deep edRoom)
      have counted := ok.count_ed deep edRoom
      refine ⟨⟨shaped.fits, shaped.cskip⟩, counted, ?_, ?_⟩
      · rw [if_neg Bool.false_ne_true]
        refine ⟨nib.edChildNum.toNat, ?_, slot⟩
        have small := nib.tree.maxChildren.toNat_lt
        simp only [UInt8.toNat_add, UInt8.toNat_one]
        omega
      · intro d mem same
        exact ok.next_ed shaped deep mem (by rw [same]; exact slot)

/-- Taking back the last end device's address, once that device is gone. -/
theorem Assigned.released (ok : Assigned nib children)
    (holds : addr.toNat + 1 = zbNwkEdAddressAssign nib → ⟨device, false, addr⟩ ∈ children) :
    Assigned (releaseAddress addr nib) (without device children) := by
  have fewer := ok.sublist (without_sublist device children)
  rw [releaseAddress]
  split
  · rename_i last
    have mem := holds last
    have slot : addr.toNat + 1 = edSlot nib nib.edChildNum.toNat := last
    obtain ⟨k, lt, address⟩ := ok.ends _ mem rfl
    have address : addr.toNat = edSlot nib k := address
    have one : (1 : UInt8) ≤ nib.edChildNum := by
      rw [UInt8.le_iff_toNat_le, UInt8.toNat_one]
      omega
    have pred : (nib.edChildNum - 1).toNat = nib.edChildNum.toNat - 1 :=
      UInt8.toNat_sub_of_le _ _ one
    refine ⟨fewer.routers, ?_, fewer.distinct, fewer.routerCount, fewer.childCount, ?_, ?_⟩
    · intro c mem' ed
      obtain ⟨j, below, address'⟩ := fewer.ends c mem' ed
      obtain ⟨mem', other⟩ := mem_without.1 mem'
      have ne : c.address ≠ addr := fun same => other (congrArg Child.device
        (List.inj_on_of_nodup_map ok.distinct mem' mem same))
      have ne : c.address.toNat ≠ addr.toNat := fun same => ne (UInt16.toNat_inj.1 same)
      refine ⟨j, ?_, address'⟩
      simp only [pred]
      simp only [edSlot] at slot address address' ⊢
      omega
    · simp only [pred]
      have count := ok.edCount
      omega
    · intro some
      refine ok.deep ?_
      simp only [pred] at some
      omega
  · exact fewer

/-- **One step** keeps the invariant. -/
theorem step_assigned {s t : ParentState} {call : ParentCall} (shaped : Shaped s.join.nib)
    (ok : Assigned s.join.nib s.children) (asks : Asks call) (orderly : Orderly s call)
    (taken : parentStep s call = some t) :
    Shaped t.join.nib ∧ Assigned t.join.nib t.children := by
  cases call with
  | tables nwk =>
      cases taken
      exact ⟨shaped, ok⟩
  | acceptChild device capability lqi =>
      simp only [Orderly] at orderly
      simp only [parentStep] at taken
      cases accepted : zbNwkAcceptChild device capability lqi s.join with
      | error stop => simp [accepted] at taken
      | ok r =>
          obtain ⟨join, res⟩ := r
          cases zbNwkAcceptChild_spec accepted with
          | known ent addr entry same nib address =>
              subst address
              simp only [accepted, Option.some.injEq] at taken
              subst taken
              simp only [JoinOrderly, entry, same, if_true] at orderly
              exact ⟨nib.shaped shaped, nib.assigned (ok.again orderly)⟩
          | refused nib address =>
              subst address
              simp only [accepted, Option.some.injEq] at taken
              subst taken
              exact ⟨nib.shaped shaped, nib.assigned ok⟩
          | counted nib addr entry assigned same address =>
              have fits : NewChildFits capability s.join.nib := by
                cases known : knownEntry device s.join.nwk with
                | none => simpa [JoinOrderly, known] using orderly
                | some r => simpa [JoinOrderly, known, entry r.1 r.2 known] using orderly
              obtain ⟨shaped', ok', slot, fresh⟩ := ok.admitted shaped asks fits assigned
              rcases address with rfl | rfl
              · simp only [accepted, Option.some.injEq] at taken
                subst taken
                exact ⟨same.shaped shaped', same.assigned ok'⟩
              · simp only [accepted, Option.some.injEq] at taken
                subst taken
                refine ⟨same.shaped shaped', same.assigned ?_⟩
                refine (ok'.sublist (without_sublist device s.children)).cons slot ?_
                exact fun d mem => fresh d (mem_without.1 mem).1
  | leaveRequest device =>
      simp only [parentStep] at taken
      cases left : zbNlmeLeaveRequest device s.join with
      | error stop => simp [left] at taken
      | ok r =>
          obtain ⟨join, sent⟩ := r
          simp only [left, Option.some.injEq] at taken
          subst taken
          rcases zbNlmeLeaveRequest_spec left with ⟨rfl, nib⟩ | ⟨ent, addr, entry, child, rfl, nib⟩
          · simp only [nib, Bool.false_eq_true, if_false]
            exact ⟨shaped, ok⟩
          · simp only [Orderly, LeaveOrderly, entry] at orderly
            simp only [nib, if_true]
            refine ⟨?_, ok.released (orderly child)⟩
            rw [releaseAddress]
            split
            · exact ⟨shaped.fits, shaped.cskip⟩
            · exact shaped

theorem Assigned.inBlock (ok : Assigned nib children) (shaped : Shaped nib) :
    InBlock nib children where
  distinct := ok.distinct
  apart c mem router d mem' other := by
    obtain ⟨i, lt, address⟩ := ok.routers c mem router
    rw [Child.block, if_pos router]
    cases router' : d.router with
    | true =>
        obtain ⟨j, lt', address'⟩ := ok.routers d mem' router'
        rcases Nat.lt_trichotomy i j with below | rfl | above
        · have apart := routerSlot_apart nib below
          exact .inr (by omega)
        · have same : d.address = c.address := UInt16.toNat_inj.1 (address'.trans address.symm)
          exact (other (List.inj_on_of_nodup_map ok.distinct mem' mem same)).elim
        · have apart := routerSlot_apart nib above
          have deep : nib.tree.depth < nib.tree.maxDepth := ok.deep (by omega)
          have positive := shaped.one_le_cskip deep
          exact .inl (UInt16.lt_iff_toNat_lt.2 (by omega))
    | false =>
        obtain ⟨k, lt', address'⟩ := ok.ends d mem' router'
        have apart := routerSlot_before_ed (k := k) nib (lt.trans_le ok.routerCount)
        exact .inr (by omega)
  inside c mem := by
    rw [Child.block, UInt16.lt_iff_toNat_lt]
    cases router : c.router with
    | true =>
        obtain ⟨i, lt, address⟩ := ok.routers c mem router
        have deep : nib.tree.depth < nib.tree.maxDepth := ok.deep (by omega)
        have inside := routerSlot_le shaped deep (lt.trans_le ok.routerCount)
          (lt.trans_le ok.childCount)
        rw [if_pos rfl, address]
        rw [routerSlot] at inside ⊢
        omega
    | false =>
        obtain ⟨k, lt, address⟩ := ok.ends c mem router
        have deep : nib.tree.depth < nib.tree.maxDepth := ok.deep (by omega)
        have count := ok.edCount
        have inside := edSlot_lt (k := k) shaped deep (by omega)
        rw [if_neg Bool.false_ne_true, address]
        rw [edSlot] at inside ⊢
        omega

end Kept

/-! ## Runs -/

theorem Formed.assigned {s : ParentState} (formed : Formed s) : Assigned s.join.nib s.children := by
  rw [formed.noChildren]
  refine ⟨by simp, by simp, by simp, ?_, ?_, ?_, ?_⟩
  · simp [formed.noRouters]
  · simp [formed.noRouters]
  · simp [formed.noEnds]
  · simp [formed.noRouters, formed.noEnds]

/-- **Assigned addresses are distinct and in block**, where the parent's block fits 16
bits and every step is orderly. -/
theorem childAddresses_inBlock {start s : ParentState} {calls : List ParentCall}
    (formed : Formed start) (fits : blockEnd start.join.nib ≤ 65536)
    (asks : ∀ call ∈ calls, Asks call) (orderly : Along parentStep Orderly start calls)
    (ran : run parentStep start calls = some s) :
    InBlock s.join.nib s.children := by
  have start_ : Shaped start.join.nib ∧ Assigned start.join.nib start.children :=
    ⟨⟨fits, formed.cskip⟩, formed.assigned⟩
  have kept := run_invariant
    (fun s call t (ok : Shaped s.join.nib ∧ Assigned s.join.nib s.children) guard taken =>
      step_assigned ok.1 ok.2 guard.1 guard.2 taken)
    start_ ((along_of_mem asks).and orderly) ran
  exact kept.2.inBlock kept.1

/-- A coordinator that has just formed a network. -/
def formedParent (maxChildren maxRouters maxDepth : UInt8) : ParentState where
  join :=
    { nib :=
        { tree :=
            { maxDepth := maxDepth
              maxChildren := maxChildren
              maxRouters := maxRouters
              depth := 0
              cskip := zbNwkDaaCalcCskip ⟨maxDepth, maxChildren, maxRouters, 0, 0⟩ 0 }
          routerChildNum := 0
          edChildNum := 0
          macShortAddress := 0
          macAssociationPermit := true
          securityLevel := 0 }
      nwk := .init 0 0 }
  children := []

theorem formed_formedParent (maxChildren maxRouters maxDepth : UInt8) :
    Formed (formedParent maxChildren maxRouters maxDepth) := ⟨rfl, rfl, rfl, rfl⟩

def deviceOne : ZbIeeeAddr := #v[1, 0, 0, 0, 0, 0, 0, 1]

def deviceTwo : ZbIeeeAddr := #v[1, 0, 0, 0, 0, 0, 0, 2]

def deviceThree : ZbIeeeAddr := #v[1, 0, 0, 0, 0, 0, 0, 3]

/-- A router and two end devices join; the last one is asked to leave, and another end
device gets its address. -/
def joinsAndLeave : List ParentCall :=
  [.acceptChild deviceOne 0x8A 0, .acceptChild deviceTwo 0x80 0, .acceptChild deviceOne 0x8A 0,
    .leaveRequest deviceTwo, .acceptChild deviceThree 0x80 0]

theorem childAddresses_inBlock_joinsAndLeave :
    ∃ s, run parentStep (formedParent 4 2 2) joinsAndLeave = some s ∧
      s.children.map Child.address = [11, 1] ∧ InBlock s.join.nib s.children := by
  obtain ⟨s, ran, addresses⟩ := Option.map_eq_some_iff.1
    (by decide +kernel : (run parentStep (formedParent 4 2 2) joinsAndLeave).map
      (fun s => s.children.map Child.address) = some [11, 1])
  exact ⟨s, ran, addresses, childAddresses_inBlock (formed_formedParent 4 2 2) (by decide)
    (by decide) (by decide +kernel) ran⟩

/-- Two children at most, one of them a router: two end devices join. -/
def twoEndDevices : List ParentCall :=
  [.acceptChild deviceOne 0x80 0, .acceptChild deviceTwo 0x80 0]

/-- The second end device gets an address behind the parent's block. -/
theorem end_device_outside :
    ¬ ∀ start calls s, Formed start → blockEnd start.join.nib ≤ 65536 →
      (∀ call ∈ calls, Asks call) → run parentStep start calls = some s → InBlock s.join.nib s.children := by
  intro claim
  obtain ⟨s, ran, outside⟩ := Option.map_eq_some_iff.1
    (by decide +kernel : (run parentStep (formedParent 2 1 1) twoEndDevices).map
      (fun s => (s.children, blockEnd s.join.nib)) =
        some ([⟨deviceTwo, false, 3⟩, ⟨deviceOne, false, 2⟩], 3))
  obtain ⟨children, blockEnd⟩ := Prod.mk.inj outside
  have inBlock := claim (formedParent 2 1 1) twoEndDevices s (formed_formedParent 2 1 1)
    (by decide) (by decide) ran
  have inside := (inBlock.inside ⟨deviceTwo, false, 3⟩ (by simp [children])).2
  rw [blockEnd] at inside
  exact absurd inside (by simp [Child.block])

/-- An end device that was asked to leave joins again: its address was given back, and
the next end device gets the same one. -/
theorem address_given_twice :
    (run parentStep (formedParent 4 2 2)
      [.acceptChild deviceOne 0x80 0, .leaveRequest deviceOne, .acceptChild deviceOne 0x80 0,
        .acceptChild deviceTwo 0x80 0]).map (fun s => s.children) =
      some [⟨deviceTwo, false, 11⟩, ⟨deviceOne, false, 11⟩] := by
  decide +kernel

end Zboss.Nwk.ChildAddresses
