/-
# Nwk.Neighbor -- the run-time neighbour table

Entries are found by address reference, through `addr_to_neighbor`; a new one is
taken from the end of the used part, and locks its address.  The table for joining
that can share the space is not modelled.
-/
import Mathlib
import Zboss.Common.Address

namespace Zboss.Nwk.Neighbor

open Zboss.Common.Types
open Zboss.Common.Address

set_option autoImplicit false

/-- `zb_nwk_relationship_e`. -/
inductive ZbNwkRelationship where
  | parent
  | child
  | sibling
  | noneOfTheAbove
  | previousChild
  | unauthenticatedChild
  deriving DecidableEq

structure ZbNeighborTblEnt where
  addrRef : Nat
  permitJoining : UInt8
  deviceType : UInt8
  depth : UInt8
  used : Bool
  rxOnWhenIdle : Bool
  relationship : ZbNwkRelationship
  transmitFailure : UInt8
  lqi : UInt8
  incomingFrameCounter : UInt32
  keySeqNumber : UInt8
  deriving DecidableEq

/-- The base table.  An address without an entry is mapped to 255. -/
structure ZbNeighborTbl where
  baseNeighbor : Nat → ZbNeighborTblEnt
  addrToNeighbor : Nat → UInt8
  baseNeighborSize : Nat
  baseNeighborUsed : Nat

/-- The entry `zb_nwk_neighbor_get` makes; four bits are kept of the depth. -/
def newNeighbor (addr : Nat) (depth : UInt8) : ZbNeighborTblEnt where
  addrRef := addr
  permitJoining := 2
  deviceType := 0
  depth := depth % 16
  used := true
  rxOnWhenIdle := false
  relationship := .noneOfTheAbove
  transmitFailure := 0
  lqi := 0
  incomingFrameCounter := 0
  keySeqNumber := 0

/-- The index of the entry of `addr`; `depth` is the device's own. -/
def zbNwkNeighborGet (addr : Nat) (createIfAbsent : Bool) (depth : UInt8) (g : ZbAddrGlobals)
    (t : ZbNeighborTbl) : Option (ZbAddrGlobals × ZbNeighborTbl × Except ZbRet Nat) :=
  let n := t.addrToNeighbor addr
  if n = 255 then
    if createIfAbsent then
      if t.baseNeighborUsed + 1 = t.baseNeighborSize then some (g, t, .error .noMemory)
      else do
        let g ← zbAddressLock addr g
        let n := t.baseNeighborUsed
        return (g,
          { t with
            addrToNeighbor := Function.update t.addrToNeighbor addr (UInt8.ofNat n)
            baseNeighborUsed := n + 1
            baseNeighbor := Function.update t.baseNeighbor n (newNeighbor addr depth) },
          .ok n)
    else some (g, t, .error .notFound)
  else some (g, t, .ok n.toNat)

end Zboss.Nwk.Neighbor
