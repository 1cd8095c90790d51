/-
# Nwk.TreeRouting -- Cskip and the tree route

What one router computes: its Cskip, the child router a destination is looked for
under, and the next hop.  `Delivers` follows the hops through a network of devices.
The reference bit that a look-up by short address sets is not read by any of this.
-/
import Mathlib
import Zboss.Nwk.Neighbor

namespace Zboss.Nwk.TreeRouting

open Zboss.Common.Types
open Zboss.Common.Address
open Zboss.Nwk.Neighbor

set_option autoImplicit false

/-- What the NIB holds for tree addressing. -/
structure TreeNib where
  maxDepth : UInt8
  maxChildren : UInt8
  maxRouters : UInt8
  depth : UInt8
  cskip : UInt16

structure TreeDevice where
  nib : TreeNib
  macShortAddress : UInt16
  parent : Nat
  addr : ZbAddrGlobals
  neighbor : ZbNeighborTbl

/-! ## Cskip -/

/-- The loop over `tmp`. -/
def cskipPower (maxRouters : UInt8) : Nat → UInt16 → UInt16
  | 0, tmp => tmp
  | n + 1, tmp => cskipPower maxRouters n (tmp * maxRouters.toUInt16)

def zbNwkDaaCalcCskip (nib : TreeNib) (depth : UInt8) : UInt16 :=
  let maxChildren : Int := nib.maxChildren.toNat
  let maxRouters : Int := nib.maxRouters.toNat
  let below : Int := nib.maxDepth.toNat - depth.toNat - 1
  if nib.maxRouters = 1 then UInt16.ofInt (1 + maxChildren * below)
  else
    let tmp := cskipPower nib.maxRouters below.toNat 1
    let num := 1 + maxChildren - maxRouters - maxChildren * tmp.toNat
    let den := 1 - maxRouters
    UInt16.ofInt (num.tdiv den)

/-! ## Routing -/

/-- The neighbour with a short address. -/
def neighborByShort (dev : TreeDevice) (shortAddress : UInt16) : Option ZbNeighborTblEnt :=
  match zbAddressByShort shortAddress false false dev.addr with
  | some (_, .ok ref) =>
      if dev.neighbor.addrToNeighbor ref ≠ 255 then
        some (dev.neighbor.baseNeighbor (dev.neighbor.addrToNeighbor ref).toNat)
      else none
  | _ => none

/-- The loop over the blocks of the child routers. -/
def findRouterScan (dev : TreeDevice) (destAddress : UInt16) : Nat → Nat → Option ZbNeighborTblEnt
  | 0, _ => none
  | cnt + 1, i =>
      let lowerAddress := UInt16.ofNat (dev.nib.cskip.toNat * i + 1)
      let upperAddress := lowerAddress + dev.nib.cskip
      if lowerAddress < destAddress ∧ destAddress < upperAddress then
        neighborByShort dev lowerAddress
      else findRouterScan dev destAddress cnt (i + 1)

/-- Find child router to forward packet to. -/
def zbNwkTreeRoutingFindRouter (dev : TreeDevice) (destAddress : UInt16) :
    Option ZbNeighborTblEnt :=
  match neighborByShort dev destAddress with
  | some ent => some ent
  | none => findRouterScan dev destAddress dev.nib.maxRouters.toNat 0

/-- The entry of the parent. -/
def parentEntry (dev : TreeDevice) : Option ZbNeighborTblEnt :=
  match zbNwkNeighborGet dev.parent false dev.nib.depth dev.addr dev.neighbor with
  | some (_, t, .ok n) => some (t.baseNeighbor n)
  | _ => none

def zbNwkTreeRoutingRoute (dev : TreeDevice) (destAddress : UInt16) : Option ZbNeighborTblEnt :=
  let cskipParent := if dev.nib.depth ≠ 0 then zbNwkDaaCalcCskip dev.nib (dev.nib.depth - 1) else 0
  let routeDown := dev.macShortAddress < destAddress ∧
    destAddress.toNat < dev.macShortAddress.toNat + cskipParent.toNat
  if dev.macShortAddress = 0 ∨ routeDown then zbNwkTreeRoutingFindRouter dev destAddress
  else parentEntry dev

/-! ## Hop by hop -/

/-- The short address of the next hop. -/
def hopAddress (dev : TreeDevice) (ent : ZbNeighborTblEnt) : UInt16 :=
  (dev.addr.addrMap ent.addrRef).addr

/-- From the device at `current`, the destination is reached in at most so many hops,
and no router on the way is at a loss.  End devices do not route. -/
def Delivers (network : UInt16 → Option TreeDevice) (destAddress : UInt16) :
    Nat → UInt16 → Prop
  | 0, current => current = destAddress
  | hops + 1, current =>
      current = destAddress ∨
        ∃ dev ent, network current = some dev ∧
          zbNwkTreeRoutingRoute dev destAddress = some ent ∧
          Delivers network destAddress hops (hopAddress dev ent)

end Zboss.Nwk.TreeRouting
