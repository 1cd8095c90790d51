/-
# Zdo.DeviceInfo -- every place that takes a lock on an address, and every table that holds one

The header of the address table says what a lock is for: it is taken when the
address is "used in some table".  The tables are the neighbour table and the two
binding tables.  Here are the calls that lock, unlock, or move a reference into a
table or out of it: the address table itself, the neighbour table, the announcement of
a device, the confirm of the device's own announcement, the acceptance of a child,
the records of the scan that become neighbours, binding, and the calls of `Nwk.Forget`.

A call that stops says whether it was the assertion of `zb_address_lock` that
failed, that of `zb_address_unlock`, or another one.
-/
import Mathlib
import Zboss.Common.Constants
import Zboss.Aps.Bind
import Zboss.Nwk.Forget

namespace Zboss.Zdo.DeviceInfo

open Zboss.Common.Constants
open Zboss.Theory.Table
open Zboss.Common.Types
open Zboss.Common.Address
open Zboss.Nwk.Neighbor
open Zboss.Nwk.Forget
open Zboss.Aps.Bind

set_option autoImplicit false

/-- Why a call does not return. -/
inductive LockStop where
  | lockWrapped
  | notLocked
  | other
  deriving DecidableEq

structure LockContext where
  nwk : NwkContext
  binding : ZbApsBindingTable

def LockContext.init (depth : UInt8) (networkAddress : UInt16) : LockContext where
  nwk := .init depth networkAddress
  binding := .init

/-! ## Calls that tell their stops apart -/

/-- Any other stop than that of a lock. -/
def asserted {α : Type} : Option α → Except LockStop α
  | some x => .ok x
  | none => .error .other

def addressLock (ref : Nat) (g : ZbAddrGlobals) : Except LockStop ZbAddrGlobals :=
  match zbAddressLock ref g with
  | some g => .ok g
  | none => .error .lockWrapped

def addressUnlock (ref : Nat) (g : ZbAddrGlobals) : Except LockStop ZbAddrGlobals :=
  match zbAddressUnlock ref g with
  | some g => .ok g
  | none => .error .notLocked

/-- The lock a call of the address table takes on the entry it returns. -/
def lockFound (lock : Bool) (r : ZbAddrGlobals × Except ZbRet Nat) :
    Except LockStop (ZbAddrGlobals × Except ZbRet Nat) :=
  match lock, r with
  | true, (g, .ok ref) => (addressLock ref g).map fun g => (g, .ok ref)
  | _, r => .ok r

def addressByIeee (ieee : ZbIeeeAddr) (create lock : Bool) (g : ZbAddrGlobals) :
    Except LockStop (ZbAddrGlobals × Except ZbRet Nat) := do
  let r ← asserted (zbAddressByIeee ieee create false g)
  lockFound lock r

def addressByShort (shortAddress : UInt16) (create lock : Bool) (g : ZbAddrGlobals) :
    Except LockStop (ZbAddrGlobals × Except ZbRet Nat) := do
  let r ← asserted (zbAddressByShort shortAddress create false g)
  lockFound lock r

def addressUpdate (ieee : ZbIeeeAddr) (shortAddress : UInt16) (lock : Bool) (g : ZbAddrGlobals) :
    Except LockStop (ZbAddrGlobals × Except ZbRet Nat) := do
  let r ← asserted (zbAddressUpdate ieee shortAddress false g)
  lockFound lock r

def addressCall (g : ZbAddrGlobals) : AddressCall → Except LockStop ZbAddrGlobals
  | .byIeee ieee create lock => (addressByIeee ieee create lock g).map Prod.fst
  | .byShort shortAddress create lock => (addressByShort shortAddress create lock g).map Prod.fst
  | .update ieee shortAddress lock => (addressUpdate ieee shortAddress lock g).map Prod.fst
  | .delete ref => .ok (zbAddressDelete ref g)

theorem toOption_eq_some {ε α : Type} {r : Except ε α} {x : α} :
    r.toOption = some x ↔ r = .ok x := by
  cases r <;> simp [Except.toOption]

theorem asserted_toOption {α : Type} (r : Option α) : (asserted r).toOption = r := by
  cases r <;> rfl

theorem bind_toOption {α β : Type} (r : Except LockStop α) (next : α → Except LockStop β) :
    (r >>= next).toOption = r.toOption.bind fun x => (next x).toOption := by
  cases r <;> rfl

theorem map_toOption {α β : Type} (r : Except LockStop α) (f : α → β) :
    (r.map f).toOption = r.toOption.map f := by
  cases r <;> rfl

theorem lockFound_toOption (lock : Bool) (r : ZbAddrGlobals × Except ZbRet Nat) :
    (lockFound lock r).toOption = lockIf lock r := by
  obtain ⟨g, res⟩ := r
  cases lock with
  | false => rfl
  | true =>
      cases res with
      | error status => rfl
      | ok ref =>
          simp only [lockFound, lockIf, addressLock, map_toOption]
          cases zbAddressLock ref g <;> rfl

/-- **The same calls**: without the names of the stops, these are the calls of the
address table. -/
theorem addressCall_toOption (g : ZbAddrGlobals) (call : AddressCall) :
    (addressCall g call).toOption = addressStep g call := by
  cases call with
  | byIeee ieee create lock =>
      simp only [addressCall, addressByIeee, addressStep, map_toOption, bind_toOption,
        asserted_toOption, lockFound_toOption]
      congr 1
      cases compressed : zbIeeeAddrCompress ieee g with
      | none => simp [zbAddressByIeee, compressed]
      | some r =>
          simp only [zbAddressByIeee, compressed, Option.bind_eq_bind, Option.bind_some,
            Option.bind_assoc]
          rfl
  | byShort shortAddress create lock =>
      simp only [addressCall, addressByShort, addressStep, map_toOption, bind_toOption,
        asserted_toOption, lockFound_toOption, zbAddressByShort, Option.bind_eq_bind,
        Option.bind_assoc]
      rfl
  | update ieee shortAddress lock =>
      simp only [addressCall, addressUpdate, addressStep, map_toOption, bind_toOption,
        asserted_toOption, lockFound_toOption]
      congr 1
      simp only [zbAddressUpdate, Option.bind_eq_bind, Option.bind_assoc]
      rfl
  | delete ref => rfl

/-- The only assertion of `zb_nwk_neighbor_get` is that of the lock. -/
def neighborGet (ref : Nat) (createIfAbsent : Bool) (s : NwkContext) :
    Except LockStop (NwkContext × Except ZbRet Nat) :=
  match s.neighborGet ref createIfAbsent with
  | some r => .ok r
  | none => .error .lockWrapped

/-! ## Announcements -/

/-- Rewrite an entry of the neighbour table. -/
def setNeighbor (n : Nat) (f : ZbNeighborTblEnt → ZbNeighborTblEnt) (t : ZbNeighborTbl) :
    ZbNeighborTbl :=
  { t with baseNeighbor := Function.update t.baseNeighbor n (f (t.baseNeighbor n)) }

/-- The entry of a child whose short address changes. -/
def formerChild (oldShort addr : UInt16) (nbe : ZbNeighborTblEnt) : ZbNeighborTblEnt :=
  if oldShort ≠ addr ∧ oldShort ≠ zbUnknownShortAddr ∧
      (nbe.relationship = .child ∨ nbe.relationship = .unauthenticatedChild) then
    { nbe with relationship := .previousChild }
  else nbe

/-- First detect a former child. -/
def detectFormerChild (ieee : ZbIeeeAddr) (addr : UInt16) (s : NwkContext) :
    Except LockStop NwkContext := do
  let (s, found) ← asserted (s.byIeee ieee)
  match found with
  | .error _ => return s
  | .ok ref =>
      let (s, got) ← neighborGet ref false s
      match got with
      | .error _ => return s
      | .ok n => return { s with
          neighbor := setNeighbor n (formerChild (s.addr.addrMap ref).addr addr) s.neighbor }

/-- `macSrc` is the short source address in the MAC header, when it has one.  The
neighbour's entry is returned when it comes from the device itself. -/
def zdoDeviceInfoUpd (ieee : ZbIeeeAddr) (addr : UInt16) (macSrc : Option UInt16)
    (s : NwkContext) : Except LockStop (NwkContext × Option Nat) := do
  let s ← detectFormerChild ieee addr s
  let (g, updated) ← addressUpdate ieee addr true s.addr
  let s := { s with addr := g }
  match updated with
  | .error _ => return (s, none)
  | .ok ref =>
      if macSrc = some addr then
        let (s, got) ← neighborGet ref true s
        match got with
        | .error _ => return (s, none)
        | .ok n => return (s, some n)
      else return (s, none)

/-- The confirm of the device's own announcement: it locks the device's address. -/
def zbApsdeDataConfirm (wasAnnce : Bool) (shortAddress : UInt16) (s : NwkContext) :
    Except LockStop NwkContext := do
  if wasAnnce then
    let (g, _) ← addressByShort shortAddress true true s.addr
    return { s with addr := g }
  else return s

/-! ## Children -/

/-- The entry of a device that joins again: kept when its capabilities are the same,
otherwise dropped from the neighbour table. -/
def sameCapabilities (router rxOnWhenIdle : Bool) (nbe : ZbNeighborTblEnt) : Bool :=
  (decide (nbe.deviceType = zbNwkDeviceTypeRouter) == router) && (rxOnWhenIdle == nbe.rxOnWhenIdle)

/-- The address translation entry of a new child, and its neighbour entry; the lock
is given back when there is no room for the second one. -/
def acceptNew (deviceAddress : ZbIeeeAddr) (addr : UInt16) (s : NwkContext) :
    Except LockStop (NwkContext × Bool) := do
  let (g, updated) ← addressUpdate deviceAddress addr true s.addr
  let s := { s with addr := g }
  match updated with
  | .error _ => return (s, false)
  | .ok ref =>
      let (s, got) ← neighborGet ref true s
      match got with
      | .ok _ => return (s, true)
      | .error _ =>
          let g ← addressUnlock ref s.addr
          return ({ s with addr := g }, false)

/-- `assigned` is the short address for the child, when it may join. -/
def zbNwkAcceptChild (deviceAddress : ZbIeeeAddr) (router rxOnWhenIdle : Bool)
    (assigned : Option UInt16) (s : NwkContext) : Except LockStop (NwkContext × Bool) := do
  let (s, got) ← asserted (zbNwkNeighborGetByIeee deviceAddress s)
  let known := match got with
    | .ok n => sameCapabilities router rxOnWhenIdle (s.neighbor.baseNeighbor n)
    | .error _ => false
  let s := match got with
    | .ok n =>
        if known then s
        else { s with
          neighbor := (zbNwkNeighborDelete (s.neighbor.baseNeighbor n).addrRef s.neighbor).1 }
    | .error _ => s
  if known then return (s, true)
  match assigned with
  | some addr => acceptNew deviceAddress addr s
  | none => return (s, false)

/-! ## Records of the scan -/

structure ZbExtNeighborTblEnt where
  shortAddr : UInt16
  longAddr : ZbIeeeAddrCompressed
  lqi : UInt8
  depth : UInt8
  permitJoining : UInt8
  deviceType : UInt8

/-- The neighbour entry made of a record; the temporary one of a rejoin leaves the
last two fields empty. -/
def neighborOfExt (ext : ZbExtNeighborTblEnt) (temporary : Bool) (ref : Nat) : ZbNeighborTblEnt where
  addrRef := ref
  permitJoining := if temporary then 0 else ext.permitJoining
  deviceType := ext.deviceType
  depth := if temporary then 0 else ext.depth
  used := true
  rxOnWhenIdle := decide (ext.deviceType ≠ zbNwkDeviceTypeEd)
  relationship := .noneOfTheAbove
  transmitFailure := 0
  lqi := ext.lqi
  incomingFrameCounter := 0
  keySeqNumber := 0

/-- Put an entry behind the used ones; its address is not locked. -/
def appendNeighbor (ref : Nat) (nbe : ZbNeighborTblEnt) (t : ZbNeighborTbl) : ZbNeighborTbl :=
  { t with
    addrToNeighbor := Function.update t.addrToNeighbor ref (UInt8.ofNat t.baseNeighborUsed)
    baseNeighborUsed := t.baseNeighborUsed + 1
    baseNeighbor := Function.update t.baseNeighbor t.baseNeighborUsed nbe }

/-- The parent chosen for a rejoin, for the time of the rejoin.  The status of the
lookup is not read: where it failed, the reference is what the stack held, `unset`. -/
def zbNwkNeighborExtToBaseTmp (ext : ZbExtNeighborTblEnt) (unset : Nat) (s : NwkContext) :
    Except LockStop NwkContext := do
  if s.neighbor.baseNeighborUsed ≥ s.neighbor.baseNeighborSize then return s
  let (g, found) ← addressByIeee (zbIeeeAddrDecompress s.addr ext.longAddr) true false s.addr
  let ref := match found with
    | .ok ref => ref
    | .error _ => unset
  return { s with
    addr := g
    neighbor := appendNeighbor ref (neighborOfExt ext true ref) s.neighbor }

/-- The address entry of a record, by what is known of it. -/
def extAddress (ext : ZbExtNeighborTblEnt) (g : ZbAddrGlobals) :
    Except LockStop (ZbAddrGlobals × Except ZbRet Nat) :=
  if ext.shortAddr ≠ zbUnknownShortAddr then
    if ext.longAddr ≠ .zero then
      addressUpdate (zbIeeeAddrDecompress g ext.longAddr) ext.shortAddr false g
    else addressByShort ext.shortAddr true false g
  else addressByIeee (zbIeeeAddrDecompress g ext.longAddr) true false g

/-- One record of the own network, when the scan's table is given up. -/
def zbNwkExneighborStopEnt (ext : ZbExtNeighborTblEnt) (s : NwkContext) :
    Except LockStop NwkContext := do
  let (g, found) ← extAddress ext s.addr
  let s := { s with addr := g }
  match found with
  | .error _ => return s
  | .ok ref =>
      let n := s.neighbor.addrToNeighbor ref
      if n ≠ 255 then
        if (s.neighbor.baseNeighbor n.toNat).used then
          return { s with
            neighbor := setNeighbor n.toNat (fun nbe =>
              { nbe with
                deviceType := if nbe.deviceType = zbNwkDeviceTypeNone then ext.deviceType
                  else nbe.deviceType
                addrRef := ref
                lqi := ext.lqi }) s.neighbor }
        else throw .other
      else if s.neighbor.baseNeighborUsed < s.neighbor.baseNeighborSize then
        return { s with neighbor := appendNeighbor ref (neighborOfExt ext false ref) s.neighbor }
      else return s

/-! ## Histories -/

inductive LockCall where
  | stack (call : StackCall)
  | deviceInfoUpd (ieee : ZbIeeeAddr) (addr : UInt16) (macSrc : Option UInt16)
  | dataConfirm (wasAnnce : Bool) (shortAddress : UInt16)
  | acceptChild (deviceAddress : ZbIeeeAddr) (router rxOnWhenIdle : Bool) (assigned : Option UInt16)
  | extToBaseTmp (ext : ZbExtNeighborTblEnt) (unset : Nat)
  | exneighborStop (ext : ZbExtNeighborTblEnt)
  | bind (call : BindCall)

def stackCall (s : NwkContext) : StackCall → Except LockStop NwkContext
  | .address call => (addressCall s.addr call).map fun g => { s with addr := g }
  | .lock ref => (addressLock ref s.addr).map fun g => { s with addr := g }
  | .unlock ref => (addressUnlock ref s.addr).map fun g => { s with addr := g }
  | .neighborGet ref createIfAbsent => (neighborGet ref createIfAbsent s).map Prod.fst
  | call => asserted (stackStep s call)

def lockCall (s : LockContext) : LockCall → Except LockStop LockContext
  | .stack call => (stackCall s.nwk call).map fun nwk => { s with nwk := nwk }
  | .deviceInfoUpd ieee addr macSrc =>
      (zdoDeviceInfoUpd ieee addr macSrc s.nwk).map fun r => { s with nwk := r.1 }
  | .dataConfirm wasAnnce shortAddress =>
      (zbApsdeDataConfirm wasAnnce shortAddress s.nwk).map fun nwk => { s with nwk := nwk }
  | .acceptChild deviceAddress router rxOnWhenIdle assigned =>
      (zbNwkAcceptChild deviceAddress router rxOnWhenIdle assigned s.nwk).map fun r =>
        { s with nwk := r.1 }
  | .extToBaseTmp ext unset =>
      (zbNwkNeighborExtToBaseTmp ext unset s.nwk).map fun nwk => { s with nwk := nwk }
  | .exneighborStop ext => (zbNwkExneighborStopEnt ext s.nwk).map fun nwk => { s with nwk := nwk }
  | .bind call =>
      match bindCall ⟨s.nwk.addr, s.binding⟩ call with
      | .ok (c, _) => .ok { s with nwk := { s.nwk with addr := c.addr }, binding := c.binding }
      | .error _ => .error .other

def lockStep (s : LockContext) (call : LockCall) : Option LockContext := (lockCall s call).toOption

/-! ## Who holds an address -/

def neighborHolds (t : ZbNeighborTbl) (ref : Nat) : Bool := t.addrToNeighbor ref != 255

def srcTableHolds (t : ZbApsBindingTable) (ref : Nat) : Bool :=
  (live t.srcTable t.srcNElements).any fun src => src.srcAddr == ref

def dstTableHolds (t : ZbApsBindingTable) (ref : Nat) : Bool :=
  (live t.dstTable t.dstNElements).any fun dst =>
    match dst.dst with
    | .long dstAddr _ => dstAddr == ref
    | .group _ => false

/-- The number of tables that hold a reference. -/
def holders (s : LockContext) (ref : Nat) : Nat :=
  (neighborHolds s.nwk.neighbor ref).toNat + (srcTableHolds s.binding ref).toNat +
    (dstTableHolds s.binding ref).toNat

end Zboss.Zdo.DeviceInfo
