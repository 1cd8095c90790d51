/-
# Nwk.Forget -- who locks an address, and who drops one

The address table and the neighbour table under the calls of the stack: the
interface of the address table, its locks, the neighbour table, and everything that
ends in `zb_address_delete` -- a LEAVE from a device that is no neighbour, a device
that left or is told to be forgotten, an association whose answer was not delivered.
None of them looks at the lock.  Routers and the coordinator are modelled.
-/
import Mathlib
import Zboss.Theory.Run
import Zboss.Nwk.Neighbor

namespace Zboss.Nwk.Forget

open Zboss.Common.Types
open Zboss.Common.Address
open Zboss.Nwk.Neighbor

set_option autoImplicit false

def zbNeighborTableSize : Nat := 32

/-- After `zb_nwk_neighbor_init`: no address has an entry. -/
def ZbNeighborTbl.init : ZbNeighborTbl where
  baseNeighbor _ :=
    { addrRef := 0, permitJoining := 0, deviceType := 0, depth := 0, used := false
      rxOnWhenIdle := false, relationship := .parent, transmitFailure := 0, lqi := 0
      incomingFrameCounter := 0, keySeqNumber := 0 }
  addrToNeighbor _ := 255
  baseNeighborSize := zbNeighborTableSize
  baseNeighborUsed := 0

/-- The tables that refer to addresses by their reference; `depth` and
`networkAddress` are the device's own. -/
structure NwkContext where
  addr : ZbAddrGlobals
  neighbor : ZbNeighborTbl
  depth : UInt8
  networkAddress : UInt16

def NwkContext.init (depth : UInt8) (networkAddress : UInt16) : NwkContext where
  addr := .init
  neighbor := ZbNeighborTbl.init
  depth := depth
  networkAddress := networkAddress

/-- `ZB_IEEE_ADDR_IS_ZERO`. -/
def zbIeeeAddrIsZero (ieee : ZbIeeeAddr) : Bool := ieee.toList.all fun byte => byte == 0

/-! ## The neighbour table -/

/-- The entry keeps its place, and its address keeps the lock. -/
def zbNwkNeighborDelete (ref : Nat) (t : ZbNeighborTbl) : ZbNeighborTbl × Except ZbRet Unit :=
  let n := t.addrToNeighbor ref
  if n ≠ 255 then
    ({ t with
        addrToNeighbor := Function.update t.addrToNeighbor ref 255
        baseNeighbor := Function.update t.baseNeighbor n.toNat
          { t.baseNeighbor n.toNat with used := false } }, .ok ())
  else (t, .error .notFound)

/-- A lookup in the neighbour table, as a call on the tables. -/
def NwkContext.neighborGet (ref : Nat) (createIfAbsent : Bool) (s : NwkContext) :
    Option (NwkContext × Except ZbRet Nat) := do
  let (g, t, got) ← zbNwkNeighborGet ref createIfAbsent s.depth s.addr s.neighbor
  return ({ s with addr := g, neighbor := t }, got)

def NwkContext.byShort (shortAddress : UInt16) (s : NwkContext) :
    Option (NwkContext × Except ZbRet Nat) := do
  let (g, found) ← zbAddressByShort shortAddress false false s.addr
  return ({ s with addr := g }, found)

def NwkContext.byIeee (ieee : ZbIeeeAddr) (s : NwkContext) :
    Option (NwkContext × Except ZbRet Nat) := do
  let (g, found) ← zbAddressByIeee ieee false false s.addr
  return ({ s with addr := g }, found)

def zbNwkNeighborGetByIeee (ieee : ZbIeeeAddr) (s : NwkContext) :
    Option (NwkContext × Except ZbRet Nat) := do
  let (s, found) ← s.byIeee ieee
  match found with
  | .error _ => return (s, .error .notFound)
  | .ok ref =>
      let (s, got) ← s.neighborGet ref false
      match got with
      | .error _ => return (s, .error .notFound)
      | .ok n => return (s, .ok n)

/-! ## Who drops an address -/

def NwkContext.delete (ref : Nat) (s : NwkContext) : NwkContext :=
  { s with addr := zbAddressDelete ref s.addr }

def zbNwkForgetDevice (ref : Nat) (s : NwkContext) : NwkContext :=
  { s with neighbor := (zbNwkNeighborDelete ref s.neighbor).1 }.delete ref

/-- A LEAVE command from `srcAddr`: of a device that is no neighbour only the
address is dropped, and only when it leaves itself.  What is sent in answer to a
neighbour is left out. -/
def zbNwkLeaveHandler (srcAddr : UInt16) (request : Bool) (s : NwkContext) :
    Option NwkContext := do
  let (s, found) ← s.byShort srcAddr
  match found with
  | .error _ => return s
  | .ok ref =>
      let (s, got) ← s.neighborGet ref false
      match got with
      | .error _ => return if request then s else s.delete ref
      | .ok _ => return s

/-- Leaving without a rejoin forgets the device's own address. -/
def zbNwkDoLeave (rejoin : Bool) (s : NwkContext) : Option NwkContext := do
  if rejoin then return s
  let (s, found) ← s.byShort s.networkAddress
  let s := match found with
    | .error _ => s
    | .ok ref => zbNwkForgetDevice ref s
  return { s with networkAddress := 0xFFFF }

/-- An empty address stands for the device itself. -/
def zbNlmeLeaveIndication (deviceAddress : ZbIeeeAddr) (rejoin : Bool) (s : NwkContext) :
    Option NwkContext := do
  if zbIeeeAddrIsZero deviceAddress then zbNwkDoLeave rejoin s
  else
    let (s, got) ← zbNwkNeighborGetByIeee deviceAddress s
    match got with
    | .error _ => return s
    | .ok n => return zbNwkForgetDevice (s.neighbor.baseNeighbor n).addrRef s

/-- `left` is the status `ZB_DEVICE_LEFT`; the others do not touch the tables. -/
def zbApsmeUpdateDeviceIndication (left : Bool) (deviceShortAddress : UInt16)
    (deviceAddress : ZbIeeeAddr) (s : NwkContext) : Option NwkContext := do
  if left then
    let (s, found) ← s.byShort deviceShortAddress
    match found with
    | .ok ref => return zbNwkForgetDevice ref s
    | .error _ =>
        let (s, found) ← s.byIeee deviceAddress
        match found with
        | .ok ref => return zbNwkForgetDevice ref s
        | .error _ => return s
  else return s

/-- The destination of an association response, by its address mode. -/
inductive ResponseDst where
  | long (addrLong : ZbIeeeAddr)
  | short (addrShort : UInt16)

/-- An association response that was not delivered undoes the association. -/
def zbMlmeCommStatusIndication (dstAddr : ResponseDst) (success : Bool) (s : NwkContext) :
    Option NwkContext := do
  let (s, found) ← (match dstAddr with
    | .long addrLong => s.byIeee addrLong
    | .short addrShort => s.byShort addrShort)
  match found with
  | .error _ => return s
  | .ok ref =>
      let (s, got) ← s.neighborGet ref false
      match got with
      | .error _ => return s
      | .ok _ => return if success then s else zbNwkForgetDevice ref s

/-! ## Histories -/

inductive StackCall where
  | address (call : AddressCall)
  | lock (ref : Nat)
  | unlock (ref : Nat)
  | neighborGet (ref : Nat) (createIfAbsent : Bool)
  | neighborDelete (ref : Nat)
  | leaveHandler (srcAddr : UInt16) (request : Bool)
  | forgetDevice (ref : Nat)
  | doLeave (rejoin : Bool)
  | leaveIndication (deviceAddress : ZbIeeeAddr) (rejoin : Bool)
  | updateDevice (left : Bool) (deviceShortAddress : UInt16) (deviceAddress : ZbIeeeAddr)
  | commStatus (dstAddr : ResponseDst) (success : Bool)
  | setNetworkAddress (networkAddress : UInt16)

def stackStep (s : NwkContext) : StackCall → Option NwkContext
  | .address call => (addressStep s.addr call).map fun g => { s with addr := g }
  | .lock ref => (zbAddressLock ref s.addr).map fun g => { s with addr := g }
  | .unlock ref => (zbAddressUnlock ref s.addr).map fun g => { s with addr := g }
  | .neighborGet ref createIfAbsent => (s.neighborGet ref createIfAbsent).map Prod.fst
  | .neighborDelete ref => some { s with neighbor := (zbNwkNeighborDelete ref s.neighbor).1 }
  | .leaveHandler srcAddr request => zbNwkLeaveHandler srcAddr request s
  | .forgetDevice ref => some (zbNwkForgetDevice ref s)
  | .doLeave rejoin => zbNwkDoLeave rejoin s
  | .leaveIndication deviceAddress rejoin => zbNlmeLeaveIndication deviceAddress rejoin s
  | .updateDevice left deviceShortAddress deviceAddress =>
      zbApsmeUpdateDeviceIndication left deviceShortAddress deviceAddress s
  | .commStatus dstAddr success => zbMlmeCommStatusIndication dstAddr success s
  | .setNetworkAddress networkAddress => some { s with networkAddress := networkAddress }

end Zboss.Nwk.Forget
