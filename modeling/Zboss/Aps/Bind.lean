/-
# Aps.Bind -- the APS binding table

Two packed tables: sources (device, endpoint, cluster), and destinations, each
with the index of its source.  Binding appends to both as needed; unbinding
removes every destination that names the link, then the source when no
destination is left for it, and renumbers the rest.  All loops are `do .. while`:
they look at slot 0 of an empty table.

Counters have eight bits.  A block move that leaves its array is a fault; a
failed assertion of the address table is a stop of its own.
-/
import Mathlib
import Zboss.Common.Address

namespace Zboss.Aps.Bind

open Zboss.Theory.Table
open Zboss.Common.Types
open Zboss.Common.Address

set_option autoImplicit false

def zbApsSrcBindingTableSize : Nat := 32
def zbApsDstBindingTableSize : Nat := 32

structure ZbApsBindSrcTable where
  srcAddr : Nat
  srcEnd : UInt8
  clusterId : UInt16
  deriving DecidableEq

/-- The destination of a record: its mode with the member of the union it selects. -/
inductive BindDst where
  | group (groupAddr : UInt16)
  | long (dstAddr : Nat) (dstEnd : UInt8)
  deriving DecidableEq

structure ZbApsBindDstTable where
  dst : BindDst
  srcTableIndex : Nat
  deriving DecidableEq

structure ZbApsBindingTable where
  srcTable : Nat → ZbApsBindSrcTable
  dstTable : Nat → ZbApsBindDstTable
  srcNElements : Nat
  dstNElements : Nat

/-- The zero-initialised table. -/
def ZbApsBindingTable.init : ZbApsBindingTable where
  srcTable _ := ⟨0, 0, 0⟩
  dstTable _ := ⟨.group 0, 0⟩
  srcNElements := 0
  dstNElements := 0

/-- `zb_apsme_binding_req_t`; the union of destination addresses has both its
readings. -/
structure ZbApsmeBindingReq where
  srcAddr : ZbIeeeAddr
  srcEndpoint : UInt8
  clusterid : UInt16
  addrMode : UInt8
  dstAddrLong : ZbIeeeAddr
  dstAddrShort : UInt16
  dstEndpoint : UInt8

/-- The parts of the global context that binding works on. -/
structure BindContext where
  addr : ZbAddrGlobals
  binding : ZbApsBindingTable

inductive Stop where
  | assertion
  | fault
  deriving DecidableEq

/-- `x--` on a `zb_uint8_t`. -/
def decUint8 (x : Nat) : Nat := (x + 255) % 256

theorem decUint8_of_pos {x : Nat} (pos : 0 < x) (small : x < 256) : decUint8 x = x - 1 := by
  unfold decUint8
  omega

/-- A lookup in the address table. -/
def lookup (ieee : ZbIeeeAddr) (create : Bool) (g : ZbAddrGlobals) :
    Except Stop (ZbAddrGlobals × Except ZbRet Nat) :=
  match zbAddressByIeee ieee create false g with
  | some r => .ok r
  | none => .error .assertion

/-- The scan of `aps_find_src_ref` from slot `l`; 255 when the source is not there. -/
def apsFindSrcRefScan (t : ZbApsBindingTable) (src : ZbApsBindSrcTable) : Nat → Nat → Nat
  | 0, _ => 255
  | fuel + 1, l =>
      if t.srcTable l = src then l
      else if l + 1 < t.srcNElements then apsFindSrcRefScan t src fuel (l + 1)
      else 255

def apsFindSrcRef (t : ZbApsBindingTable) (src : ZbApsBindSrcTable) : Nat :=
  apsFindSrcRefScan t src 256 0

/-- The destination a request names, by its address mode. -/
def requestDst (req : ZbApsmeBindingReq) (g : ZbAddrGlobals) :
    Except Stop (ZbAddrGlobals × Except ZbRet BindDst) := do
  if req.addrMode = 3 then
    let (g, res) ← lookup req.dstAddrLong true g
    return (g, res.map fun ref => .long ref req.dstEndpoint)
  else if req.addrMode = 1 then
    return (g, .ok (.group req.dstAddrShort))
  else
    return (g, .error .invalidBinding)

def requestSrc (req : ZbApsmeBindingReq) (ref : Nat) : ZbApsBindSrcTable :=
  ⟨ref, req.srcEndpoint, req.clusterid⟩

/-! ## Binding -/

/-- Append the destination, and the source when it is new. -/
def addRecord (src : ZbApsBindSrcTable) (dst : BindDst) (s : Nat) (t : ZbApsBindingTable) :
    ZbApsBindingTable :=
  let t :=
    if s = t.srcNElements then
      { t with srcTable := Function.update t.srcTable s src
               srcNElements := t.srcNElements + 1 }
    else t
  { t with dstTable := Function.update t.dstTable t.dstNElements ⟨dst, s⟩
           dstNElements := t.dstNElements + 1 }

/-- The slot of the source: its own, or the one behind the others. -/
def bindPlace (t : ZbApsBindingTable) (src : ZbApsBindSrcTable) : Nat :=
  let s := apsFindSrcRef t src
  if s = 255 then t.srcNElements else s

def zbApsmeBindRequest (req : ZbApsmeBindingReq) (c : BindContext) :
    Except Stop (BindContext × Except ZbRet Unit) := do
  let (g, found) ← lookup req.srcAddr true c.addr
  let c := { c with addr := g }
  match found with
  | .error status => return (c, .error status)
  | .ok ref =>
      let src := requestSrc req ref
      let s := bindPlace c.binding src
      if s < zbApsSrcBindingTableSize ∧ c.binding.dstNElements < zbApsDstBindingTableSize then
        let (g, named) ← requestDst req c.addr
        let c := { c with addr := g }
        match named with
        | .error status => return (c, .error status)
        | .ok dst => return ({ c with binding := addRecord src dst s c.binding }, .ok ())
      else return (c, .error .tableFull)

/-! ## Unbinding -/

/-- The loop over the destination table from slot `d`: a record of the link is
closed over, one of the same source with another destination sets `found`. -/
def removeDst (s : Nat) (dst : BindDst) :
    Nat → (Nat → ZbApsBindDstTable) → Nat → Nat → Bool →
      Except Stop ((Nat → ZbApsBindDstTable) × Nat × Bool)
  | 0, tbl, n, _, found => .ok (tbl, n, found)
  | fuel + 1, tbl, n, d, found =>
      if tbl d = ⟨dst, s⟩ then
        let n := decUint8 n
        -- records `d + 1 .. n` are moved
        if n < zbApsDstBindingTableSize then
          let tbl := move tbl d (d + 1) (n - d)
          if d < n then removeDst s dst fuel tbl n d found else .ok (tbl, n, found)
        else .error .fault
      else
        let found := found || decide ((tbl d).srcTableIndex = s)
        if d + 1 < n then removeDst s dst fuel tbl n (d + 1) found else .ok (tbl, n, found)

/-- The loop that renumbers the sources behind slot `s`. -/
def renumber (s n : Nat) : Nat → Nat → (Nat → ZbApsBindDstTable) → (Nat → ZbApsBindDstTable)
  | 0, _, tbl => tbl
  | fuel + 1, d, tbl =>
      let tbl :=
        if (tbl d).srcTableIndex > s then
          Function.update tbl d { tbl d with srcTableIndex := (tbl d).srcTableIndex - 1 }
        else tbl
      if d + 1 < n then renumber s n fuel (d + 1) tbl else tbl

/-- Drop a source no destination is left for. -/
def dropSrc (s : Nat) (t : ZbApsBindingTable) : Except Stop ZbApsBindingTable :=
  let n := decUint8 t.srcNElements
  if n < zbApsSrcBindingTableSize then
    .ok { t with
      srcTable := move t.srcTable s (s + 1) (n - s)
      srcNElements := n
      dstTable := renumber s t.dstNElements 256 0 t.dstTable }
  else .error .fault

/-- Remove the link of source `s` to `dst`. -/
def removeRecord (s : Nat) (dst : BindDst) (t : ZbApsBindingTable) :
    Except Stop ZbApsBindingTable := do
  let (tbl, n, found) ← removeDst s dst 256 t.dstTable t.dstNElements 0 false
  let t := { t with dstTable := tbl, dstNElements := n }
  if found then return t else dropSrc s t

def zbApsmeUnbindRequest (req : ZbApsmeBindingReq) (c : BindContext) :
    Except Stop (BindContext × Except ZbRet Unit) := do
  let (g, found) ← lookup req.srcAddr false c.addr
  let c := { c with addr := g }
  match found with
  | .error _ => return (c, .error .illegalRequest)
  | .ok ref =>
      let s := apsFindSrcRef c.binding (requestSrc req ref)
      if s = 255 then return (c, .error .invalidBinding)
      else
        let (g, named) ← requestDst req c.addr
        let c := { c with addr := g }
        match named with
        | .error status => return (c, .error status)
        | .ok dst =>
            let t ← removeRecord s dst c.binding
            return ({ c with binding := t }, .ok ())

/-! ## Histories -/

inductive BindCall where
  | bind (req : ZbApsmeBindingReq)
  | unbind (req : ZbApsmeBindingReq)

/-- One request and its status. -/
def bindCall (c : BindContext) : BindCall → Except Stop (BindContext × Except ZbRet Unit)
  | .bind req => zbApsmeBindRequest req c
  | .unbind req => zbApsmeUnbindRequest req c

def bindStep (c : BindContext) (call : BindCall) : Option BindContext :=
  match bindCall c call with
  | .ok (c, _) => some c
  | .error _ => none

end Zboss.Aps.Bind
