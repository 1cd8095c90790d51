/-
# Nwk.AcceptChild -- a parent takes in a child, and asks one to leave

Acceptance of a child with its address, and the part of the leave request that gives
the address of the last end device back.  The number of routers and of end devices
among the children is all that the two addresses are computed from; the tables say
whether a device is known already.  The beacon payload is left out.
-/
import Mathlib
import Zboss.Common.Constants
import Zboss.Nwk.TreeRouting
import Zboss.Zdo.DeviceInfo

namespace Zboss.Nwk.AcceptChild

open Zboss.Common.Constants
open Zboss.Common.Types
open Zboss.Common.Address
open Zboss.Nwk.Neighbor
open Zboss.Nwk.Forget
open Zboss.Nwk.TreeRouting
open Zboss.Zdo.DeviceInfo

set_option autoImplicit false

/-! ## Capability information -/

def zbMacCapGetDeviceType (cap : UInt8) : Bool := (cap >>> 1) &&& 1 == 1

def zbMacCapGetRxOnWhenIdle (cap : UInt8) : Bool := (cap >>> 3) &&& 1 == 1

def zbMacCapGetAllocateAddress (cap : UInt8) : Bool := (cap >>> 7) &&& 1 == 1

/-! ## State -/

/-- What a parent keeps about its children, beside the tables. -/
structure ChildNib where
  tree : TreeNib
  routerChildNum : UInt8
  edChildNum : UInt8
  macShortAddress : UInt16
  macAssociationPermit : Bool
  securityLevel : UInt8

structure JoinContext where
  nib : ChildNib
  nwk : NwkContext

/-! ## Addresses -/

/-- `ZB_NWK_DISTRIBUTED_ADDRESS_ASSIGN_ROUTER_ADDRESS`, an `int`. -/
def zbNwkRouterAddressAssign (nib : ChildNib) : Nat :=
  nib.macShortAddress.toNat + nib.routerChildNum.toNat * nib.tree.cskip.toNat + 1

/-- `ZB_NWK_DISTRIBUTED_ADDRESS_ASSIGN_ED_ADDRESS`, an `int`. -/
def zbNwkEdAddressAssign (nib : ChildNib) : Nat :=
  nib.macShortAddress.toNat + nib.tree.maxRouters.toNat * nib.tree.cskip.toNat +
    nib.edChildNum.toNat + 1

def zbNoAddress : UInt16 := 0xFFFE

/-- Check the device capabilities and if we have room for this child type: the
counters afterwards, and the address. -/
def assignAddress (capability : UInt8) (nib : ChildNib) : Option (ChildNib × UInt16) :=
  let asked := zbMacCapGetAllocateAddress capability
  if nib.edChildNum.toNat + nib.routerChildNum.toNat < nib.tree.maxChildren.toNat ∧
      nib.tree.depth < nib.tree.maxDepth then
    if zbMacCapGetDeviceType capability then
      if nib.routerChildNum < nib.tree.maxRouters then
        some ({ nib with routerChildNum := nib.routerChildNum + 1 },
          if asked then UInt16.ofNat (zbNwkRouterAddressAssign nib) else zbNoAddress)
      else none
    else
      some ({ nib with edChildNum := nib.edChildNum + 1 },
        if asked then UInt16.ofNat (zbNwkEdAddressAssign nib) else zbNoAddress)
  else none

/-! ## Acceptance -/

/-- The tables for a new child: the address translation entry, and the index of its
neighbour entry; the lock is given back when there is no room for that. -/
def enterChild (deviceAddress : ZbIeeeAddr) (addr : UInt16) (s : NwkContext) :
    Except LockStop (NwkContext × Option Nat) := do
  let (g, updated) ← addressUpdate deviceAddress addr true s.addr
  let s := { s with addr := g }
  match updated with
  | .error _ => return (s, none)
  | .ok ref =>
      let (s, got) ← neighborGet ref true s
      match got with
      | .ok n => return (s, some n)
      | .error _ =>
          let g ← addressUnlock ref s.addr
          return ({ s with addr := g }, none)

/-- The acceptance in the account of locks does the same to the tables. -/
theorem enterChild_acceptNew (deviceAddress : ZbIeeeAddr) (addr : UInt16) (s : NwkContext) :
    (enterChild deviceAddress addr s).map (fun r => (r.1, r.2.isSome)) =
      acceptNew deviceAddress addr s := by
  rw [enterChild, acceptNew]
  cases addressUpdate deviceAddress addr true s.addr with
  | error stop => rfl
  | ok r =>
      obtain ⟨g, updated⟩ := r
      cases updated with
      | error status => rfl
      | ok ref =>
          cases found : neighborGet ref true { s with addr := g } with
          | error stop => simp [found, Except.map, bind, Except.bind]
          | ok r =>
              obtain ⟨s', got⟩ := r
              cases got with
              | ok n => simp [found, Except.map, bind, Except.bind, pure, Except.pure]
              | error status =>
                  simp only [found, Except.map, bind, Except.bind, pure, Except.pure]
                  cases addressUnlock ref s'.addr <;> rfl

/-- The neighbour entry of an accepted child; four bits are kept of the depth. -/
def childEntry (capability lqi : UInt8) (nib : ChildNib) (ent : ZbNeighborTblEnt) :
    ZbNeighborTblEnt :=
  { ent with
    deviceType := if zbMacCapGetDeviceType capability then zbNwkDeviceTypeRouter
      else zbNwkDeviceTypeEd
    rxOnWhenIdle := zbMacCapGetRxOnWhenIdle capability
    relationship := if nib.securityLevel ≠ 0 then .unauthenticatedChild else .child
    depth := (nib.tree.depth + if nib.tree.depth < nib.tree.maxDepth then 1 else 0) % 16
    permitJoining := if zbMacCapGetDeviceType capability then ent.permitJoining else 0
    lqi := lqi }

/-- No more associations once the parent is full. -/
def closeAssociation (nib : ChildNib) : ChildNib :=
  if nib.macAssociationPermit = true ∧
      nib.tree.maxChildren.toNat ≤ nib.routerChildNum.toNat + nib.edChildNum.toNat then
    { nib with macAssociationPermit := false }
  else nib

/-- The end of the acceptance; `accepted` is the child's neighbour entry and address. -/
def settleChild (capability lqi : UInt8) (s : JoinContext) (accepted : Option (Nat × UInt16)) :
    JoinContext × Option UInt16 :=
  let nib := closeAssociation s.nib
  match accepted with
  | some (n, addr) =>
      ({ nib := nib
         nwk := { s.nwk with
           neighbor := setNeighbor n (childEntry capability lqi nib) s.nwk.neighbor } }, some addr)
  | none => ({ s with nib := nib }, none)

/-- A device that is not known: count it, and enter it in the tables. -/
def admitChild (deviceAddress : ZbIeeeAddr) (capability lqi : UInt8) (s : JoinContext) :
    Except LockStop (JoinContext × Option UInt16) := do
  match assignAddress capability s.nib with
  | none => return settleChild capability lqi s none
  | some (nib, addr) =>
      let (nwk, entered) ← enterChild deviceAddress addr s.nwk
      return settleChild capability lqi { nib := nib, nwk := nwk } (entered.map fun n => (n, addr))

/-- A device the neighbour table knows with the same capabilities keeps its address;
with other ones it is removed there first.  No address is returned where the status is
not `MAC_SUCCESS`. -/
def zbNwkAcceptChild (deviceAddress : ZbIeeeAddr) (capability lqi : UInt8) (s : JoinContext) :
    Except LockStop (JoinContext × Option UInt16) := do
  let (nwk, got) ← asserted (zbNwkNeighborGetByIeee deviceAddress s.nwk)
  let s := { s with nwk := nwk }
  match got with
  | .error _ => admitChild deviceAddress capability lqi s
  | .ok n =>
      let ent := nwk.neighbor.baseNeighbor n
      if sameCapabilities (zbMacCapGetDeviceType capability)
          (zbMacCapGetRxOnWhenIdle capability) ent then
        return settleChild capability lqi s (some (n, (nwk.addr.addrMap ent.addrRef).addr))
      else
        admitChild deviceAddress capability lqi
          { s with nwk := { nwk with
              neighbor := (zbNwkNeighborDelete ent.addrRef nwk.neighbor).1 } }

/-! ## Leave requests -/

/-- If we removed last joined device, we could decrease number of child. -/
def releaseAddress (childAddr : UInt16) (nib : ChildNib) : ChildNib :=
  if childAddr.toNat + 1 = zbNwkEdAddressAssign nib then
    { nib with edChildNum := nib.edChildNum - 1 }
  else nib

/-- A leave request for another device, on a device that has joined: does the LEAVE
command go out?  For itself the code follows the empty entry pointer, and stops. -/
def zbNlmeLeaveRequest (deviceAddress : ZbIeeeAddr) (s : JoinContext) :
    Except LockStop (JoinContext × Bool) := do
  if zbIeeeAddrIsZero deviceAddress then throw .other
  let (nwk, got) ← asserted (zbNwkNeighborGetByIeee deviceAddress s.nwk)
  let s := { s with nwk := nwk }
  match got with
  | .error _ => return (s, false)
  | .ok n =>
      let nbt := s.nwk.neighbor.baseNeighbor n
      if nbt.relationship = .child then
        return ({ s with nib := releaseAddress (s.nwk.addr.addrMap nbt.addrRef).addr s.nib }, true)
      else return (s, false)

end Zboss.Nwk.AcceptChild
