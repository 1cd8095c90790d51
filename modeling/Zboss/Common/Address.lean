/-
# Common.Address -- the long/short address translation table

The table holds up to `zbIeeeAddrTableSize` pairs of addresses, hashed by the
long one; a second array, `shortSorted`, lists the entries that have a short
address, in the order of that address, for binary search.  A long address is
kept compressed: an index into a table of manufacturers and five bytes.

The arrays are memories `Nat → _`.  The byte behind `shortSorted` is the low
byte of `nElements` (`shortSortedAt`), which the block move of `delShortSorted`
reads when the array is full.  A failed assertion, and a write behind
`shortSorted`, is a stop.
-/
import Mathlib
import Zboss.Theory.SortedIndex
import Zboss.Common.Types

namespace Zboss.Common.Address

open Zboss.Theory.Table
open Zboss.Theory.SortedIndex
open Zboss.Common.Types

set_option autoImplicit false

def zbIeeeAddrTableSize : Nat := 101
def zbDevManufactorerTableSize : Nat := 16

/-- A long address with its manufacturer replaced by an index. -/
structure ZbIeeeAddrCompressed where
  devManufacturer : Nat
  deviceId : Vector UInt8 5
  deriving DecidableEq

/-- All bytes zero: what an entry without a long address holds. -/
def ZbIeeeAddrCompressed.zero : ZbIeeeAddrCompressed := ⟨0, #v[0, 0, 0, 0, 0]⟩

structure ZbAddressMap where
  ieeeAddr : ZbIeeeAddrCompressed
  addr : UInt16
  used : Bool
  lockCnt : Nat
  clock : Bool
  deriving DecidableEq

structure ZbAddrGlobals where
  usedManufacturer : Nat → Bool
  devManufacturer : Nat → Vector UInt8 3
  addrMap : Nat → ZbAddressMap
  shortSorted : Nat → Nat
  nElements : Nat
  nSortedElements : Nat
  clockI : Nat

/-- The zero-initialised context. -/
def ZbAddrGlobals.init : ZbAddrGlobals where
  usedManufacturer _ := false
  devManufacturer _ := #v[0, 0, 0]
  addrMap _ := ⟨.zero, 0, false, 0, false⟩
  shortSorted _ := 0
  nElements := 0
  nSortedElements := 0
  clockI := 0

/-- Rewrite one entry. -/
def ZbAddrGlobals.setEnt (g : ZbAddrGlobals) (ref : Nat) (f : ZbAddressMap → ZbAddressMap) :
    ZbAddrGlobals :=
  { g with addrMap := Function.update g.addrMap ref (f (g.addrMap ref)) }

section SetEnt

variable (g : ZbAddrGlobals) (ref : Nat) (f : ZbAddressMap → ZbAddressMap)

@[simp] theorem setEnt_self : (g.setEnt ref f).addrMap ref = f (g.addrMap ref) :=
  Function.update_self ..

theorem setEnt_of_ne {r : Nat} (ne : r ≠ ref) : (g.setEnt ref f).addrMap r = g.addrMap r :=
  Function.update_of_ne ne ..

@[simp] theorem setEnt_shortSorted : (g.setEnt ref f).shortSorted = g.shortSorted := rfl
@[simp] theorem setEnt_nSortedElements :
    (g.setEnt ref f).nSortedElements = g.nSortedElements := rfl
@[simp] theorem setEnt_nElements : (g.setEnt ref f).nElements = g.nElements := rfl
@[simp] theorem setEnt_usedManufacturer :
    (g.setEnt ref f).usedManufacturer = g.usedManufacturer := rfl
@[simp] theorem setEnt_devManufacturer :
    (g.setEnt ref f).devManufacturer = g.devManufacturer := rfl

end SetEnt

/-! ## Compressed long addresses -/

/-- The scan of `zb_ieee_addr_compress`: the index it stops at and the last free
index it passed. -/
def manufacturerScan (g : ZbAddrGlobals) (m : Vector UInt8 3) : Nat → Nat → Nat → Nat × Nat
  | 0, i, freeI => (i, freeI)
  | cnt + 1, i, freeI =>
      if g.usedManufacturer i then
        if g.devManufacturer i = m then (i, freeI)
        else manufacturerScan g m cnt (i + 1) freeI
      else manufacturerScan g m cnt (i + 1) i

/-- Compress, adding the manufacturer when it is new; stops when there is no
place for it. -/
def zbIeeeAddrCompress (ieee : ZbIeeeAddr) (g : ZbAddrGlobals) :
    Option (ZbAddrGlobals × ZbIeeeAddrCompressed) :=
  let m := ZbIeeeAddr.manufacturer ieee
  let (i, freeI) := manufacturerScan g m zbDevManufactorerTableSize 0 zbDevManufactorerTableSize
  let i := if i = zbDevManufactorerTableSize then freeI else i
  if i ≠ zbDevManufactorerTableSize then
    some ({ g with usedManufacturer := Function.update g.usedManufacturer i true
                   devManufacturer := Function.update g.devManufacturer i m },
      ⟨i, ZbIeeeAddr.deviceId ieee⟩)
  else none

def zbIeeeAddrDecompress (g : ZbAddrGlobals) (code : ZbIeeeAddrCompressed) : ZbIeeeAddr :=
  ZbIeeeAddr.make (g.devManufacturer code.devManufacturer) code.deviceId

/-- `ZB_HASH_FUNC_STEP`. -/
def zbHashFuncStep (hashVar v : UInt32) : UInt32 := ((hashVar <<< 5) + hashVar) + v

def zbAddressCompressedIeeeHash (code : ZbIeeeAddrCompressed) : Nat :=
  let h := zbHashFuncStep (zbHashFuncStep (zbHashFuncStep (zbHashFuncStep 5381
    (code.deviceId.get 0).toUInt32) (code.deviceId.get 2).toUInt32)
    (code.deviceId.get 3).toUInt32) (code.deviceId.get 4).toUInt32
  (h &&& 0x7FFFFFFF).toNat % zbIeeeAddrTableSize

/-! ## Searching -/

/-- Open hash search over the used entries. -/
def ieeeSearch (g : ZbAddrGlobals) (code : ZbIeeeAddrCompressed) : Option Nat :=
  probe (fun i => (g.addrMap i).used && decide ((g.addrMap i).ieeeAddr = code))
    zbIeeeAddrTableSize zbIeeeAddrTableSize (zbAddressCompressedIeeeHash code)

/-- The short address of the entry at place `i` of the sorted array. -/
def sortedAddr (g : ZbAddrGlobals) (i : Nat) : UInt16 := (g.addrMap (g.shortSorted i)).addr

/-- The place binary search ends at; one element needs no search. -/
def searchPlace (g : ZbAddrGlobals) (shortAddr : UInt16) : Nat :=
  if g.nSortedElements > 1 then
    bisect (fun i => decide (shortAddr > sortedAddr g i)) g.nSortedElements 0 g.nSortedElements
  else 0

/-- Binary search over the sorted array. -/
def shortSearch (g : ZbAddrGlobals) (shortAddr : UInt16) : Option Nat :=
  let l := searchPlace g shortAddr
  if g.nSortedElements > 0 ∧ l < g.nSortedElements ∧ shortAddr = sortedAddr g l then
    some (g.shortSorted l)
  else none

/-! ## The sorted array -/

/-- The byte at place `i` of the sorted array, one place behind its end included. -/
def shortSortedAt (g : ZbAddrGlobals) (i : Nat) : Nat :=
  if i < zbIeeeAddrTableSize then g.shortSorted i else g.nElements % 256

/-- The scan of `del_short_sorted` over `cnt` places from `i`; `n` is the number
of live places, which does not change while it runs.  Where `ref` stands before
the last place, `n - i` bytes move down, one more than are live. -/
def delShortSortedScan (behind ref n : Nat) : Nat → Nat → (Nat → Nat) → Nat → (Nat → Nat) × Nat
  | 0, _, sorted, dec => (sorted, dec)
  | cnt + 1, i, sorted, dec =>
      if sorted i = ref then
        if i ≠ n - 1 then
          delShortSortedScan behind ref n cnt (i + 1)
            (move (fun j => if j < zbIeeeAddrTableSize then sorted j else behind) i (i + 1) (n - i))
            (dec + 1)
        else delShortSortedScan behind ref n cnt (i + 1) sorted (dec + 1)
      else delShortSortedScan behind ref n cnt (i + 1) sorted dec

def delShortSorted (ref : Nat) (g : ZbAddrGlobals) : ZbAddrGlobals :=
  let (sorted, dec) := delShortSortedScan (shortSortedAt g zbIeeeAddrTableSize) ref
    g.nSortedElements g.nSortedElements 0 g.shortSorted 0
  { g with shortSorted := sorted, nSortedElements := g.nSortedElements - dec }

/-- Where `add_short_sorted` inserts. -/
def addPlace (g : ZbAddrGlobals) (shortAddr : UInt16) : Nat :=
  let l :=
    if g.nSortedElements > 1 then
      bisect (fun i => decide (shortAddr ≥ sortedAddr g i)) g.nSortedElements 0 g.nSortedElements
    else 0
  if g.nSortedElements > 0 ∧ l < g.nSortedElements ∧ shortAddr > sortedAddr g l then l + 1 else l

def addShortSorted (ref : Nat) (shortAddr : UInt16) (g : ZbAddrGlobals) : Option ZbAddrGlobals :=
  if g.nSortedElements < zbIeeeAddrTableSize then
    let l := addPlace g shortAddr
    let sorted :=
      if l < g.nSortedElements then move g.shortSorted (l + 1) l (g.nSortedElements - l)
      else g.shortSorted
    some { g with shortSorted := Function.update sorted l ref
                  nSortedElements := g.nSortedElements + 1 }
  else none

/-! ## Adding, locking and deleting entries -/

/-- One scan of the clock hand: it passes `cnt` used entries at most and stops at
the first that is not locked, whose clock it clears. -/
def clockScan (bound : Nat) : Nat → ZbAddrGlobals → Nat → ZbAddrGlobals × Nat × Bool
  | 0, g, cnt => (g, cnt, false)
  | fuel + 1, g, cnt =>
      if g.clockI < bound ∧ cnt < g.nElements then
        let i := g.clockI
        let g := { g with clockI := i + 1 }
        if (g.addrMap i).used then
          if (g.addrMap i).lockCnt = 0 then
            (g.setEnt i fun ent => { ent with clock := false }, cnt + 1, true)
          else clockScan bound fuel g (cnt + 1)
        else clockScan bound fuel g cnt
      else (g, cnt, false)

def clockTick (g : ZbAddrGlobals) : ZbAddrGlobals :=
  let limit := g.clockI
  let (g, cnt, found) := clockScan zbIeeeAddrTableSize zbIeeeAddrTableSize g 0
  if !found && decide (cnt < g.nElements) then
    (clockScan limit limit { g with clockI := 0 } cnt).1
  else g

def zbAddressLock (ref : Nat) (g : ZbAddrGlobals) : Option ZbAddrGlobals :=
  let lockCnt := ((g.addrMap ref).lockCnt + 1) % 16
  if lockCnt ≠ 0 then some (g.setEnt ref fun ent => { ent with lockCnt, clock := true })
  else none

def zbAddressUnlock (ref : Nat) (g : ZbAddrGlobals) : Option ZbAddrGlobals :=
  if (g.addrMap ref).lockCnt ≠ 0 then
    some (g.setEnt ref fun ent => { ent with lockCnt := ent.lockCnt - 1 })
  else none

/-- `addr_add` writes the pair into the entry it has found. -/
def writeEnt (i : Nat) (ieee : Option ZbIeeeAddrCompressed) (shortAddr : UInt16)
    (g : ZbAddrGlobals) : ZbAddrGlobals :=
  g.setEnt i fun ent => { ent with addr := shortAddr, clock := true, ieeeAddr := ieee.getD .zero }

/-- It lists the entry when there is a short address. -/
def listEnt (i : Nat) (shortAddr : UInt16) (g : ZbAddrGlobals) : Option ZbAddrGlobals :=
  if shortAddr ≠ zbUnknownShortAddr then
    addShortSorted i shortAddr (if (g.addrMap i).used then delShortSorted i g else g)
  else some g

/-- It counts the entry and puts it in use. -/
def useEnt (i : Nat) (g : ZbAddrGlobals) : ZbAddrGlobals :=
  { g with nElements := g.nElements + if (g.addrMap i).used then 0 else 1 }.setEnt i fun ent =>
    { ent with used := true }

/-- Add a pair; `none` for a long address that is absent. -/
def addrAdd (ieee : Option ZbIeeeAddrCompressed) (shortAddr : UInt16) (g : ZbAddrGlobals) :
    Option (ZbAddrGlobals × Except ZbRet Nat) :=
  let start := (ieee.map zbAddressCompressedIeeeHash).getD 0
  match probe (fun i => !(g.addrMap i).used) zbIeeeAddrTableSize zbIeeeAddrTableSize start with
  | none => some (g, .error .overflow)
  | some i => do
      let g ← listEnt i shortAddr (writeEnt i ieee shortAddr (clockTick g))
      return (useEnt i g, .ok i)

def zbAddressDelete (ref : Nat) (g : ZbAddrGlobals) : ZbAddrGlobals :=
  let g := delShortSorted ref g
  let g := g.setEnt ref fun ent => { ent with used := false }
  { g with nElements := decUshort g.nElements }

/-! ## The interface -/

/-- `if (lock && ret == RET_OK) zb_address_lock(*ref_p)`. -/
def lockIf (lock : Bool) (r : ZbAddrGlobals × Except ZbRet Nat) :
    Option (ZbAddrGlobals × Except ZbRet Nat) :=
  match lock, r with
  | true, (g, .ok ref) => (zbAddressLock ref g).map fun g => (g, .ok ref)
  | _, r => some r

def zbAddressByIeee (ieee : ZbIeeeAddr) (create lock : Bool) (g : ZbAddrGlobals) :
    Option (ZbAddrGlobals × Except ZbRet Nat) := do
  let (g, code) ← zbIeeeAddrCompress ieee g
  let r ← (match ieeeSearch g code with
    | some ref => some (g.setEnt ref fun ent => { ent with clock := true }, .ok ref)
    | none =>
        if create then addrAdd (some code) zbUnknownShortAddr g else some (g, .error .notFound))
  lockIf lock r

def zbAddressByShort (shortAddress : UInt16) (create lock : Bool) (g : ZbAddrGlobals) :
    Option (ZbAddrGlobals × Except ZbRet Nat) := do
  let r ← (match shortSearch g shortAddress with
    | some ref => some (g.setEnt ref fun ent => { ent with clock := true }, .ok ref)
    | none => if create then addrAdd none shortAddress g else some (g, .error .notFound))
  lockIf lock r

/-- Which entry the pair goes to, after the conflict of two entries found by its
two halves has been resolved by deleting an unlocked one; two locked ones stop. -/
def resolveRef (foundShort foundLong : Option Nat) (g : ZbAddrGlobals) :
    Option (ZbAddrGlobals × Option Nat) :=
  match foundShort, foundLong with
  | some ref, some refLong =>
      if ref ≠ refLong then
        if (g.addrMap ref).lockCnt = 0 then some (zbAddressDelete ref g, some refLong)
        else if (g.addrMap refLong).lockCnt = 0 then some (zbAddressDelete refLong g, some ref)
        else none
      else some (g, some ref)
  | none, some refLong => some (g, some refLong)
  | some ref, none => some (g, some ref)
  | none, none => some (g, none)

/-- Give an entry another short address, and its place in the sorted array. -/
def relist (ref : Nat) (shortAddress : UInt16) (g : ZbAddrGlobals) : Option ZbAddrGlobals :=
  if (g.addrMap ref).addr ≠ shortAddress then
    let g := if (g.addrMap ref).addr ≠ zbUnknownShortAddr then delShortSorted ref g else g
    addShortSorted ref shortAddress (g.setEnt ref fun ent => { ent with addr := shortAddress })
  else some g

/-- Write the pair into an existing entry. -/
def setPair (ref : Nat) (code : ZbIeeeAddrCompressed) (shortAddress : UInt16) (g : ZbAddrGlobals) :
    Option ZbAddrGlobals := do
  let g ← relist ref shortAddress (g.setEnt ref fun ent => { ent with ieeeAddr := code })
  return g.setEnt ref fun ent => { ent with clock := true }

def zbAddressUpdate (ieeeAddress : ZbIeeeAddr) (shortAddress : UInt16) (lock : Bool)
    (g : ZbAddrGlobals) : Option (ZbAddrGlobals × Except ZbRet Nat) := do
  let (g, code) ← zbIeeeAddrCompress ieeeAddress g
  let (g, found) ← resolveRef (shortSearch g shortAddress) (ieeeSearch g code) g
  let r ← (match found with
    | some ref => (setPair ref code shortAddress g).map fun g => (g, .ok ref)
    | none => addrAdd (some code) shortAddress g)
  lockIf lock r

def zbAddressByRef (ref : Nat) (g : ZbAddrGlobals) : ZbIeeeAddr × UInt16 :=
  (zbIeeeAddrDecompress g (g.addrMap ref).ieeeAddr, (g.addrMap ref).addr)

def zbAddressShortByIeee (ieee : ZbIeeeAddr) (g : ZbAddrGlobals) :
    Option (ZbAddrGlobals × UInt16) := do
  let (g, found) ← zbAddressByIeee ieee false false g
  match found with
  | .ok ref => return (g, (g.addrMap ref).addr)
  | .error _ => return (g, 0xFFFF)

/-! ## Histories -/

/-- One call of a client of the table. -/
inductive AddressCall where
  | byIeee (ieee : ZbIeeeAddr) (create lock : Bool)
  | byShort (shortAddress : UInt16) (create lock : Bool)
  | update (ieee : ZbIeeeAddr) (shortAddress : UInt16) (lock : Bool)
  | delete (ref : Nat)

def addressStep (g : ZbAddrGlobals) : AddressCall → Option ZbAddrGlobals
  | .byIeee ieee create lock => (zbAddressByIeee ieee create lock g).map Prod.fst
  | .byShort shortAddress create lock => (zbAddressByShort shortAddress create lock g).map Prod.fst
  | .update ieee shortAddress lock => (zbAddressUpdate ieee shortAddress lock g).map Prod.fst
  | .delete ref => some (zbAddressDelete ref g)

/-- What the interface asks of its callers: no empty long or short address, and
only entries in use are deleted. -/
def Documented (g : ZbAddrGlobals) : AddressCall → Prop
  | .byIeee ieee _ _ => ieee ≠ #v[0, 0, 0, 0, 0, 0, 0, 0]
  | .byShort shortAddress _ _ => shortAddress ≠ zbUnknownShortAddr
  | .update ieee shortAddress _ =>
      ieee ≠ #v[0, 0, 0, 0, 0, 0, 0, 0] ∧ shortAddress ≠ zbUnknownShortAddr
  | .delete ref => ref < zbIeeeAddrTableSize ∧ (g.addrMap ref).used = true

end Zboss.Common.Address
