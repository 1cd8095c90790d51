/-
# Nwk.NeighborIndex -- the neighbour table that shares its memory with the scan

While a scan runs, the end of the neighbour table is cut off and holds the records of the beacons;
the entries are first packed to the left, and the index `addr_to_neighbor` follows each of them.
When the scan's table is given up, the records of the own network become entries, and the whole
memory is one table again.

The claimed state of the table is `NeighborIndexed`: the places handed out are inside the table,
the index leads from an address reference to its entry and from every entry back, and no two
entries share a reference.  The results:

* `neighborIndexed_of_run`: it holds in every state of a run whose calls meet `CallFits`;
* `entered_twice`: the parent chosen for a rejoin is entered a second time when it has an entry.

`CallFits` asks four things: a lookup creates no entry in a table that is full; a scan begins with
19 places handed out at most; no byte the scan leaves behind reads as an entry in use; and a
temporary parent has no entry.  The entry of a delete keeps its place, so that none is reused.
-/
import Mathlib
import Zboss.Common.Constants
import Zboss.Theory.BackIndex
import Zboss.Theory.Run
import Zboss.Common.AddressRun
import Zboss.Zdo.DeviceInfo

namespace Zboss.Nwk.NeighborIndex

open Zboss.Common.Constants
open Zboss.Theory.BackIndex
open Zboss.Theory.Run
open Zboss.Common.Types
open Zboss.Common.Address
open Zboss.Common.AddressRun
open Zboss.Nwk.Neighbor
open Zboss.Nwk.Forget
open Zboss.Zdo.DeviceInfo

set_option autoImplicit false

/-! ## The memory of the two tables -/

/-- `sizeof(zb_neighbor_tbl_ent_t)`, with security: the address reference is a `zb_ushort_t`. -/
def zbNeighborTblEntSize : Nat := 13

/-- `sizeof(zb_ext_neighbor_tbl_ent_t)`. -/
def zbExtNeighborTblEntSize : Nat := 14

def magicRoundTo4 (a : Nat) : Nat := (a + 3) / 4 * 4

/-- A record of the scan, with the PAN it was heard in. -/
structure ExtNeighbor extends ZbExtNeighborTblEnt where
  panidRef : Nat

/-- `extOff` is the byte of the base table where `ext_neighbor` points to; the records in use are
`ext`. -/
structure NeighborState where
  nwk : NwkContext
  extOff : Nat
  extSize : Nat
  ext : List ExtNeighbor

def NeighborState.init (depth : UInt8) (networkAddress : UInt16) : NeighborState where
  nwk := .init depth networkAddress
  extOff := 0
  extSize := 0
  ext := []

/-- How the bytes of the records, from a given byte on, read as the base entry at a place, and what
was there before: the layout of the two structures is the compiler's. -/
abbrev Underlay := Nat → List ExtNeighbor → Nat → ZbNeighborTblEnt → ZbNeighborTblEnt

/-- The base entry at `i` has bytes of the first `n` records. -/
def Overlaps (off n i : Nat) : Prop :=
  i * zbNeighborTblEntSize < off + n * zbExtNeighborTblEntSize ∧ off < (i + 1) * zbNeighborTblEntSize

instance (off n i : Nat) : Decidable (Overlaps off n i) :=
  inferInstanceAs (Decidable (_ ∧ _))

/-- The records are written, over the base entries they overlap. -/
def writeExt (under : Underlay) (ext : List ExtNeighbor) (s : NeighborState) : NeighborState :=
  { s with
    ext
    nwk.neighbor.baseNeighbor := fun i =>
      if Overlaps s.extOff ext.length i then under s.extOff ext i (s.nwk.neighbor.baseNeighbor i)
      else s.nwk.neighbor.baseNeighbor i }

/-! ## The start of a scan -/

/-- The loop variables of the packing. -/
structure Packing where
  neighbor : ZbNeighborTbl
  used : Nat
  hole : Nat

/-- The entry at `i` is copied to `j`, and found there. -/
def relocate (i j : Nat) (t : ZbNeighborTbl) : ZbNeighborTbl :=
  { t with
    baseNeighbor := Function.update (Function.update t.baseNeighbor j (t.baseNeighbor i)) i
      { t.baseNeighbor i with used := false }
    addrToNeighbor :=
      Function.update t.addrToNeighbor (t.baseNeighbor i).addrRef (UInt8.ofNat j) }

def packStep (i : Nat) (p : Packing) : Packing :=
  if (p.neighbor.baseNeighbor i).used then
    if p.hole ≠ 0 then ⟨relocate i (i - p.hole) p.neighbor, p.used + 1, p.hole - 1⟩
    else { p with used := p.used + 1 }
  else { p with hole := p.hole + 1 }

/-- `left` is what is left of the table, from `i` on. -/
def packFrom : (left i : Nat) → Packing → Packing
  | 0, _, p => p
  | left + 1, i, p =>
      if p.used < p.neighbor.baseNeighborUsed then packFrom left (i + 1) (packStep i p) else p

/-- Move all used entries to the left. -/
def packBase (t : ZbNeighborTbl) : ZbNeighborTbl :=
  (packFrom t.baseNeighborSize 0 ⟨t, 0, 0⟩).neighbor

/-- What is cut off the base table: half of it, or what is not handed out. -/
def cutOf (t : ZbNeighborTbl) : Nat :=
  if t.baseNeighborUsed > t.baseNeighborSize - t.baseNeighborSize / 2 then
    t.baseNeighborSize - t.baseNeighborUsed
  else t.baseNeighborSize / 2

/-- The offset and the number of bytes are counted in eight bits. -/
def zbNwkExneighborStart (s : NeighborState) : Except LockStop NeighborState :=
  if s.extSize ≠ 0 then .ok s
  else
    let t := packBase s.nwk.neighbor
    let cut := cutOf t
    let size := t.baseNeighborSize - cut
    let off := UInt8.ofNat (magicRoundTo4 (size * zbNeighborTblEntSize))
    let bytes := UInt8.ofNat (cut * zbNeighborTblEntSize) -
      (off - UInt8.ofNat (size * zbNeighborTblEntSize))
    let extSize := bytes.toNat / zbExtNeighborTblEntSize
    if extSize > 0 then
      .ok { s with
        nwk.neighbor := { t with baseNeighborSize := size }
        extOff := off.toNat
        extSize }
    else .error .other

/-! ## The records of a scan -/

/-- `alloc_new_extneiboard`: an empty record; `none` when the table is full. -/
def allocNewExtneiboard (panidRef : Nat) (shortAddr : UInt16) (longAddr : ZbIeeeAddrCompressed)
    (s : NeighborState) : Option (List ExtNeighbor) :=
  if s.ext.length = s.extSize then none
  else
    some (s.ext ++ [{ shortAddr, longAddr, lqi := 0, depth := 0, permitJoining := 0,
                      deviceType := 0, panidRef }])

/-- The beacon's sender, and what its beacon writes into the record. -/
structure ScanBeacon where
  panidRef : Nat
  srcAddr : UInt16 ⊕ ZbIeeeAddr
  fill : ExtNeighbor → ExtNeighbor

/-- The record is found, or allocated, and then filled. -/
def noteRecord (under : Underlay) (found : Option Nat) (alloc : Option (List ExtNeighbor))
    (fill : ExtNeighbor → ExtNeighbor) (s : NeighborState) : NeighborState :=
  match found with
  | some i => writeExt under (s.ext.modify i fill) s
  | none =>
      match alloc with
      | some ext => writeExt under (ext.modify s.ext.length fill) s
      | none => s

/-- `zb_nwk_exneighbor_by_short` takes the first record of the sender, `zb_nwk_exneighbor_by_ieee`
the last. -/
def noteBeacon (under : Underlay) (b : ScanBeacon) (s : NeighborState) :
    Except LockStop NeighborState :=
  match b.srcAddr with
  | .inl shortAddr =>
      let found := s.ext.findIdx? fun en => en.shortAddr == shortAddr && en.panidRef == b.panidRef
      .ok (noteRecord under found (allocNewExtneiboard b.panidRef shortAddr .zero s) b.fill s)
  | .inr longAddr => do
      let (g, code) ← asserted (zbIeeeAddrCompress longAddr s.nwk.addr)
      let s := { s with nwk.addr := g }
      let found := (List.range s.ext.length).reverse.find? fun i =>
        s.ext[i]?.any fun en => en.panidRef == b.panidRef && decide (en.longAddr = code)
      return noteRecord under found (allocNewExtneiboard b.panidRef zbUnknownShortAddr code s) b.fill s

/-! ## The end of a scan -/

/-- The records of the own PAN become entries; each record gives its bytes back, and `freeSize` is
the rest that is less than an entry. -/
def moveRecords (myPanidRef : Nat) : List ExtNeighbor → (freeSize : Nat) → NwkContext →
    Except LockStop NwkContext
  | [], _, s => .ok s
  | en :: rest, freeSize, s => do
      let s ← if en.panidRef = myPanidRef then zbNwkExneighborStopEnt en.toZbExtNeighborTblEnt s
        else .ok s
      let freeSize := freeSize + zbExtNeighborTblEntSize
      let size := s.neighbor.baseNeighborSize + freeSize / zbNeighborTblEntSize
      if size ≤ zbNeighborTableSize then
        moveRecords myPanidRef rest (freeSize % zbNeighborTblEntSize)
          { s with neighbor.baseNeighborSize := size }
      else .error .other

/-- `myPanidRef` is the own PAN's place, or what the stack held where it has none. -/
def zbNwkExneighborStop (joined : Bool) (myPanidRef : Nat) (s : NeighborState) :
    Except LockStop NeighborState := do
  let nwk ← if joined then moveRecords myPanidRef s.ext 0 s.nwk else .ok s.nwk
  return {
    nwk := { nwk with neighbor.baseNeighborSize := zbNeighborTableSize }
    extOff := 0
    extSize := 0
    ext := [] }

/-! ## Histories -/

inductive NeighborCall where
  | neighborGet (ref : Nat) (createIfAbsent : Bool)
  | neighborDelete (ref : Nat)
  | address (call : AddressCall)
  | exneighborStart
  | beacon (b : ScanBeacon)
  | exneighborStop (joined : Bool) (myPanidRef : Nat)
  /-- The record at `i` is the parent chosen for a rejoin. -/
  | extToBaseTmp (i : Nat) (unset : Nat)
  | neighborClear

/-- `zb_nwk_neighbor_clear` zeroes both tables. -/
def zbNwkNeighborClear (s : NeighborState) : NeighborState where
  nwk := { s.nwk with neighbor := ZbNeighborTbl.init }
  extOff := 0
  extSize := 0
  ext := []

def neighborCall (under : Underlay) (s : NeighborState) :
    NeighborCall → Except LockStop NeighborState
  | .neighborGet ref createIfAbsent =>
      (neighborGet ref createIfAbsent s.nwk).map fun r => { s with nwk := r.1 }
  | .neighborDelete ref =>
      .ok { s with nwk.neighbor := (zbNwkNeighborDelete ref s.nwk.neighbor).1 }
  | .address call => (addressCall s.nwk.addr call).map fun g => { s with nwk.addr := g }
  | .exneighborStart => zbNwkExneighborStart s
  | .beacon b => noteBeacon under b s
  | .exneighborStop joined myPanidRef => zbNwkExneighborStop joined myPanidRef s
  | .extToBaseTmp i unset =>
      match s.ext[i]? with
      | some en => (zbNwkNeighborExtToBaseTmp en.toZbExtNeighborTblEnt unset s.nwk).map fun nwk =>
          { s with nwk }
      | none => .ok s
  | .neighborClear => .ok (zbNwkNeighborClear s)

def neighborStep (under : Underlay) (s : NeighborState) (call : NeighborCall) :
    Option NeighborState :=
  (neighborCall under s call).toOption

/-! ## The claimed state, and when a call keeps it -/

/-- **The index and the entries agree.** -/
structure NeighborIndexed (t : ZbNeighborTbl) : Prop where
  inside : t.baseNeighborUsed ≤ t.baseNeighborSize
  mapped : ∀ ref, t.addrToNeighbor ref ≠ 255 →
    (t.addrToNeighbor ref).toNat < t.baseNeighborSize ∧
      (t.baseNeighbor (t.addrToNeighbor ref).toNat).used = true ∧
      (t.baseNeighbor (t.addrToNeighbor ref).toNat).addrRef = ref
  reached : ∀ i < t.baseNeighborSize, (t.baseNeighbor i).used = true →
    t.addrToNeighbor (t.baseNeighbor i).addrRef ≠ 255 ∧
      (t.addrToNeighbor (t.baseNeighbor i).addrRef).toNat = i
  apart : ∀ i < t.baseNeighborSize, ∀ j < t.baseNeighborSize,
    (t.baseNeighbor i).used = true → (t.baseNeighbor j).used = true →
    (t.baseNeighbor i).addrRef = (t.baseNeighbor j).addrRef → i = j

/-- The reference under which a record is entered. -/
def enteredRef (ext : ZbExtNeighborTblEnt) (unset : Nat) (g : ZbAddrGlobals) : Option Nat :=
  match addressByIeee (zbIeeeAddrDecompress g ext.longAddr) true false g with
  | .ok (_, .ok ref) => some ref
  | .ok (_, .error _) => some unset
  | .error _ => none

def NotEntered (ext : ZbExtNeighborTblEnt) (unset : Nat) (s : NwkContext) : Prop :=
  ∀ ref ∈ enteredRef ext unset s.addr, s.neighbor.addrToNeighbor ref = 255

/-- **When a call keeps the index**. -/
def CallFits (s : NeighborState) : NeighborCall → Prop
  | .neighborGet ref createIfAbsent =>
      createIfAbsent = true → s.nwk.neighbor.addrToNeighbor ref = 255 →
        s.nwk.neighbor.baseNeighborUsed ≠ s.nwk.neighbor.baseNeighborSize
  | .exneighborStart => s.extSize = 0 → s.nwk.neighbor.baseNeighborUsed ≤ 19
  | .exneighborStop _ _ => ∀ i < zbNeighborTableSize, s.nwk.neighbor.baseNeighborSize ≤ i →
      (s.nwk.neighbor.baseNeighbor i).used = false
  | .extToBaseTmp i unset => s.nwk.neighbor.baseNeighborUsed < s.nwk.neighbor.baseNeighborSize →
      ∀ en ∈ s.ext[i]?, NotEntered en.toZbExtNeighborTblEnt unset s.nwk
  | .neighborDelete _ | .address _ | .beacon _ | .neighborClear => True

/-! ## What every operation keeps of the base table -/

/-- The index as a partial map. -/
def indexOf (f : Nat → UInt8) (ref : Nat) : Option Nat :=
  if f ref = 255 then none else some (f ref).toNat

/-- The first `n` places and the index; the places in use are handed out. -/
structure Tidy (t : ZbNeighborTbl) (n : Nat) : Prop where
  indexed : Indexes ZbNeighborTblEnt.used ZbNeighborTblEnt.addrRef t.baseNeighbor n
    (indexOf t.addrToNeighbor)
  below : ∀ i < n, (t.baseNeighbor i).used = true → i < t.baseNeighborUsed

section Table

variable {t t' : ZbNeighborTbl} {f : Nat → UInt8} {n m i j ref : Nat} {nbe : ZbNeighborTblEnt}

theorem indexOf_eq_none : indexOf f ref = none ↔ f ref = 255 := by
  rw [indexOf]
  split <;> simp [*]

theorem indexOf_eq_some : indexOf f ref = some i ↔ f ref ≠ 255 ∧ (f ref).toNat = i := by
  rw [indexOf]
  split <;> simp [*]

theorem indexOf_enter (small : i < 255) :
    indexOf (Function.update f ref (UInt8.ofNat i)) = Function.update (indexOf f) ref (some i) := by
  have value : (UInt8.ofNat i).toNat = i := UInt8.toNat_ofNat_of_lt' (by simp [UInt8.size]; omega)
  have other : UInt8.ofNat i ≠ 255 := by
    intro same
    rw [same] at value
    have := (by decide : (255 : UInt8).toNat = 255)
    omega
  funext ref'
  by_cases same : ref' = ref
  · subst same
    rw [indexOf, Function.update_self, Function.update_self, if_neg other, value]
  · rw [indexOf, Function.update_of_ne same, Function.update_of_ne same, indexOf]

theorem indexOf_drop :
    indexOf (Function.update f ref 255) = Function.update (indexOf f) ref none := by
  funext ref'
  by_cases same : ref' = ref
  · subst same
    rw [indexOf, Function.update_self, Function.update_self, if_pos rfl]
  · rw [indexOf, Function.update_of_ne same, Function.update_of_ne same, indexOf]

/-- **The claimed state**, from the index. -/
theorem Tidy.right (tidy : Tidy t t.baseNeighborSize)
    (room : t.baseNeighborUsed ≤ t.baseNeighborSize) : NeighborIndexed t where
  inside := room
  mapped ref found := tidy.indexed.found ref _ (indexOf_eq_some.2 ⟨found, rfl⟩)
  reached i inside on := indexOf_eq_some.1 (tidy.indexed.listed i inside on)
  apart _ inside _ inside' on on' same := tidy.indexed.unique inside inside' on on' same

theorem tidy_init : Tidy ZbNeighborTbl.init n :=
  ⟨indexes_empty fun _ _ => rfl, fun _ _ on => nomatch on⟩

/-- More or fewer places, where those that come and go are free. -/
theorem Tidy.bound (tidy : Tidy t n)
    (free : ∀ i, (i < n ↔ i < m) ∨ (t.baseNeighbor i).used = false) : Tidy t m := by
  refine ⟨tidy.indexed.bound free, ?_⟩
  intro i inside on
  rcases free i with same | off
  · exact tidy.below i (same.2 inside) on
  · rw [on] at off
    cases off

theorem Tidy.resize (tidy : Tidy t n) : Tidy { t with baseNeighborSize := m } n :=
  ⟨tidy.indexed, tidy.below⟩

/-- Fewer places, as long as all that are handed out stay. -/
theorem Tidy.cut (tidy : Tidy t n) (room : t.baseNeighborUsed ≤ m) (fewer : m ≤ n) : Tidy t m := by
  apply tidy.bound
  intro i
  by_cases stays : i < m
  · exact .inl ⟨fun _ => stays, fun _ => by omega⟩
  · by_cases inside : i < n
    · right
      rw [Bool.eq_false_iff]
      intro on
      have := tidy.below i inside on
      omega
    · exact .inl ⟨fun inside' => absurd inside' inside, fun stays' => absurd stays' stays⟩

/-- A new entry behind those handed out. -/
theorem Tidy.append (tidy : Tidy t n) (room : t.baseNeighborUsed < n) (small : n ≤ 32)
    (absent : t.addrToNeighbor ref = 255) (on : nbe.used = true) (is : nbe.addrRef = ref) :
    Tidy (appendNeighbor ref nbe t) n := by
  have free : (t.baseNeighbor t.baseNeighborUsed).used = false := by
    rw [Bool.eq_false_iff]
    intro on
    exact absurd (tidy.below _ room on) (Nat.lt_irrefl _)
  constructor
  · simp only [appendNeighbor]
    rw [indexOf_enter (by omega)]
    exact tidy.indexed.enter room free (indexOf_eq_none.2 absent) on is
  · intro i inside on'
    simp only [appendNeighbor] at on' ⊢
    by_cases here : i = t.baseNeighborUsed
    · omega
    · rw [Function.update_of_ne here] at on'
      have := tidy.below i inside on'
      omega

/-- The entry keeps its place, so that nothing is handed out again. -/
theorem Tidy.delete (tidy : Tidy t n) : Tidy (zbNwkNeighborDelete ref t).1 n := by
  rw [zbNwkNeighborDelete]
  by_cases found : t.addrToNeighbor ref = 255
  · rw [if_neg (not_not.2 found)]
    exact tidy
  · rw [if_pos found]
    have at_ := indexOf_eq_some.2 ⟨found, rfl⟩
    constructor
    · dsimp only
      rw [indexOf_drop]
      exact tidy.indexed.drop at_ rfl
    · intro i inside on
      by_cases here : i = (t.addrToNeighbor ref).toNat
      · subst here
        simp only [Function.update_self] at on
        cases on
      · simp only [Function.update_of_ne here] at on
        exact tidy.below i inside on

/-- The fields of an entry that the index does not see. -/
theorem Tidy.rewrite {g : ZbNeighborTblEnt → ZbNeighborTblEnt} (tidy : Tidy t n)
    (flag : (g (t.baseNeighbor i)).used = (t.baseNeighbor i).used)
    (name : (g (t.baseNeighbor i)).addrRef = (t.baseNeighbor i).addrRef) :
    Tidy (setNeighbor i g t) n := by
  refine ⟨tidy.indexed.rewrite flag name, ?_⟩
  intro j inside on
  simp only [setNeighbor] at on
  by_cases here : j = i
  · subst here
    rw [Function.update_self, flag] at on
    exact tidy.below j inside on
  · rw [Function.update_of_ne here] at on
    exact tidy.below j inside on

/-- An entry goes to a free place on its left. -/
theorem Tidy.relocate (tidy : Tidy t n) (source : i < n) (small : n ≤ 32)
    (on : (t.baseNeighbor i).used = true) (left : j < i) (free : (t.baseNeighbor j).used = false) :
    Tidy (relocate i j t) n := by
  constructor
  · simp only [NeighborIndex.relocate]
    rw [indexOf_enter (by omega)]
    exact tidy.indexed.move source on (by omega) free rfl
  · intro k inside on'
    simp only [NeighborIndex.relocate] at on' ⊢
    by_cases from_ : k = i
    · subst from_
      rw [Function.update_self] at on'
      cases on'
    · rw [Function.update_of_ne from_] at on'
      by_cases here : k = j
      · have := tidy.below i source on
        omega
      · rw [Function.update_of_ne here] at on'
        exact tidy.below k inside on'

end Table

/-! ## The packing -/

/-- What holds at place `i` of the packing: the holes are the places before it. -/
structure Packed (t : ZbNeighborTbl) (i : Nat) (p : Packing) : Prop where
  tidy : Tidy p.neighbor t.baseNeighborSize
  size : p.neighbor.baseNeighborSize = t.baseNeighborSize
  handed : p.neighbor.baseNeighborUsed = t.baseNeighborUsed
  before : p.hole ≤ i
  holes : ∀ j < i, i ≤ j + p.hole → (p.neighbor.baseNeighbor j).used = false

theorem packed_step {t : ZbNeighborTbl} {i : Nat} {p : Packing} (packed : Packed t i p)
    (inside : i < t.baseNeighborSize) (small : t.baseNeighborSize ≤ 32) :
    Packed t (i + 1) (packStep i p) := by
  rw [packStep]
  split
  · rename_i on
    split
    · -- the entry goes to the first hole, and leaves a hole behind
      rename_i some_
      have le := packed.before
      have free := packed.holes (i - p.hole) (by omega) (by omega)
      refine ⟨packed.tidy.relocate inside small on (by omega) free, packed.size, packed.handed,
        by dsimp only; omega, ?_⟩
      intro j lt reach
      dsimp only [relocate] at reach ⊢
      by_cases here : j = i
      · subst here
        rw [Function.update_self]
      · rw [Function.update_of_ne here, Function.update_of_ne (by omega)]
        exact packed.holes j (by omega) (by omega)
    · -- no hole yet: the entry stays
      rename_i none_
      have zero : p.hole = 0 := not_not.1 none_
      refine ⟨packed.tidy, packed.size, packed.handed, by dsimp only; omega, ?_⟩
      intro j lt reach
      dsimp only at reach
      omega
  · rename_i off
    have le := packed.before
    refine ⟨packed.tidy, packed.size, packed.handed, by dsimp only; omega, ?_⟩
    intro j lt reach
    dsimp only at reach
    by_cases here : j = i
    · subst here
      simpa using off
    · exact packed.holes j (by omega) (by omega)

theorem packed_from {t : ZbNeighborTbl} (small : t.baseNeighborSize ≤ 32) (left : Nat) :
    ∀ {i : Nat} {p : Packing}, Packed t i p → i + left ≤ t.baseNeighborSize →
      ∃ k, Packed t k (packFrom left i p) := by
  induction left with
  | zero =>
      intro i p packed _
      exact ⟨i, packed⟩
  | succ left ih =>
      intro i p packed room
      rw [packFrom]
      split
      · exact ih (packed_step packed (by omega) small) (by omega)
      · exact ⟨i, packed⟩

/-- **Packing keeps the table**, its size, and what is handed out. -/
theorem packBase_spec {t : ZbNeighborTbl} (tidy : Tidy t t.baseNeighborSize)
    (small : t.baseNeighborSize ≤ 32) :
    Tidy (packBase t) t.baseNeighborSize ∧
      (packBase t).baseNeighborSize = t.baseNeighborSize ∧
      (packBase t).baseNeighborUsed = t.baseNeighborUsed := by
  have start : Packed t 0 ⟨t, 0, 0⟩ :=
    ⟨tidy, rfl, rfl, Nat.le_refl 0, fun _ lt _ => absurd lt (Nat.not_lt_zero _)⟩
  obtain ⟨_, packed⟩ := packed_from small t.baseNeighborSize start (by omega)
  exact ⟨packed.tidy, packed.size, packed.handed⟩

/-! ## Each call -/

/-- The invariant: the table is right as far as it goes, and the records lie behind it. -/
structure Shared (s : NeighborState) : Prop where
  tidy : Tidy s.nwk.neighbor s.nwk.neighbor.baseNeighborSize
  room : s.nwk.neighbor.baseNeighborUsed ≤ s.nwk.neighbor.baseNeighborSize
  small : s.nwk.neighbor.baseNeighborSize ≤ 32
  whole : s.extSize = 0 → s.nwk.neighbor.baseNeighborSize = 32 ∧ s.ext = []
  behind : s.extSize ≠ 0 → s.nwk.neighbor.baseNeighborSize * zbNeighborTblEntSize ≤ s.extOff

section Calls

variable {under : Underlay} {s s' : NeighborState}

/-- The calls of the address table change nothing here. -/
theorem Shared.address (ok : Shared s) (g : ZbAddrGlobals) : Shared { s with nwk.addr := g } :=
  ⟨ok.tidy, ok.room, ok.small, ok.whole, ok.behind⟩

/-- A table of the same size in the place of the base table. -/
theorem Shared.table {nwk : NwkContext} (ok : Shared s)
    (tidy : Tidy nwk.neighbor s.nwk.neighbor.baseNeighborSize)
    (room : nwk.neighbor.baseNeighborUsed ≤ s.nwk.neighbor.baseNeighborSize)
    (size : nwk.neighbor.baseNeighborSize = s.nwk.neighbor.baseNeighborSize) :
    Shared { s with nwk } := by
  refine ⟨?_, ?_, ?_, ?_, ?_⟩ <;> simp only [size]
  · exact tidy
  · exact room
  · exact ok.small
  · exact ok.whole
  · exact ok.behind

/-- A new entry in a table that has a place left. -/
theorem Shared.append {g : ZbAddrGlobals} {ref : Nat} {nbe : ZbNeighborTblEnt} (ok : Shared s)
    (room : s.nwk.neighbor.baseNeighborUsed < s.nwk.neighbor.baseNeighborSize)
    (absent : s.nwk.neighbor.addrToNeighbor ref = 255) (on : nbe.used = true)
    (is : nbe.addrRef = ref) :
    Shared { s with nwk := { s.nwk with
      addr := g, neighbor := appendNeighbor ref nbe s.nwk.neighbor } } :=
  ok.table (ok.tidy.append room ok.small absent on is) room rfl

theorem neighborGet_shared {ref : Nat} {createIfAbsent : Bool} {r : NwkContext × Except ZbRet Nat}
    (ok : Shared s)
    (fits : createIfAbsent = true → s.nwk.neighbor.addrToNeighbor ref = 255 →
      s.nwk.neighbor.baseNeighborUsed ≠ s.nwk.neighbor.baseNeighborSize)
    (taken : neighborGet ref createIfAbsent s.nwk = .ok r) : Shared { s with nwk := r.1 } := by
  have room := ok.room
  rw [neighborGet] at taken
  split at taken
  · rename_i got
    cases taken
    obtain ⟨⟨g, t, n⟩, found, made⟩ := Option.bind_eq_some_iff.1 got
    cases made
    rw [zbNwkNeighborGet] at found
    dsimp only at found
    split at found
    · rename_i absent
      split at found
      · rename_i create
        split at found
        · cases found
          exact ok.address s.nwk.addr
        · obtain ⟨g', _, made⟩ := Option.bind_eq_some_iff.1 found
          cases made
          have other := fits create absent
          exact ok.append (by omega) absent rfl rfl
      · cases found
        exact ok.address s.nwk.addr
    · cases found
      exact ok.address s.nwk.addr
  · cases taken

theorem extToBaseTmp_shared {ext : ZbExtNeighborTblEnt} {unset : Nat} {nwk : NwkContext}
    (ok : Shared s)
    (fits : s.nwk.neighbor.baseNeighborUsed < s.nwk.neighbor.baseNeighborSize →
      NotEntered ext unset s.nwk)
    (taken : zbNwkNeighborExtToBaseTmp ext unset s.nwk = .ok nwk) : Shared { s with nwk } := by
  rw [zbNwkNeighborExtToBaseTmp] at taken
  split at taken
  · cases taken
    exact ok
  · rename_i free
    have room : s.nwk.neighbor.baseNeighborUsed < s.nwk.neighbor.baseNeighborSize := by omega
    have absent := fits room
    rw [NotEntered, enteredRef] at absent
    cases looked : addressByIeee (zbIeeeAddrDecompress s.nwk.addr ext.longAddr) true false
        s.nwk.addr with
    | error stop =>
        rw [looked] at taken
        cases taken
    | ok r =>
        obtain ⟨g, found⟩ := r
        rw [looked] at taken absent
        cases found with
        | ok ref =>
            cases taken
            exact ok.append room (absent _ rfl) rfl rfl
        | error status =>
            cases taken
            exact ok.append room (absent _ rfl) rfl rfl

/-- **The start of a scan**: the part that is left holds all that is handed out, and the records
begin behind it. -/
theorem exneighborStart_shared (ok : Shared s)
    (fits : s.extSize = 0 → s.nwk.neighbor.baseNeighborUsed ≤ 19)
    (taken : zbNwkExneighborStart s = .ok s') : Shared s' := by
  rw [zbNwkExneighborStart] at taken
  split at taken
  · cases taken
    exact ok
  · rename_i zero
    have zero : s.extSize = 0 := not_not.1 zero
    obtain ⟨whole, empty⟩ := ok.whole zero
    have few := fits zero
    obtain ⟨tidy, size, handed⟩ := packBase_spec ok.tidy ok.small
    rw [whole] at tidy size
    have left : (packBase s.nwk.neighbor).baseNeighborUsed ≤ 32 - cutOf (packBase s.nwk.neighbor) ∧
        32 - cutOf (packBase s.nwk.neighbor) ≤ 19 := by
      rw [cutOf, size, handed]
      split <;> omega
    dsimp only at taken
    rw [size] at taken
    generalize cutOf (packBase s.nwk.neighbor) = cut at left taken
    split at taken
    · rename_i positive
      cases taken
      refine ⟨(tidy.cut left.1 (by omega)).resize, left.1, by dsimp only; omega, ?_, ?_⟩
      · intro none_
        dsimp only at none_
        omega
      · intro _
        have fits : magicRoundTo4 ((32 - cut) * zbNeighborTblEntSize) < 256 := by
          simp only [magicRoundTo4, zbNeighborTblEntSize]
          omega
        dsimp only
        rw [UInt8.toNat_ofNat_of_lt' fits]
        simp only [magicRoundTo4, zbNeighborTblEntSize]
        omega
    · cases taken

/-- The records are written behind the table. -/
theorem writeExt_shared {ext : List ExtNeighbor} (ok : Shared s) (started : s.extSize ≠ 0) :
    Shared (writeExt under ext s) := by
  have same : ∀ i < s.nwk.neighbor.baseNeighborSize,
      (writeExt under ext s).nwk.neighbor.baseNeighbor i = s.nwk.neighbor.baseNeighbor i := by
    intro i inside
    have behind := ok.behind started
    apply if_neg
    rintro ⟨_, before⟩
    simp only [zbNeighborTblEntSize] at behind before
    omega
  refine ⟨⟨ok.tidy.indexed.congr same, ?_⟩, ok.room, ok.small, fun zero => absurd zero started,
    ok.behind⟩
  intro i inside on
  rw [same i inside] at on
  exact ok.tidy.below i inside on

theorem allocNewExtneiboard_started {panidRef : Nat} {shortAddr : UInt16}
    {longAddr : ZbIeeeAddrCompressed} {ext : List ExtNeighbor} (ok : Shared s)
    (made : allocNewExtneiboard panidRef shortAddr longAddr s = some ext) : s.extSize ≠ 0 := by
  intro zero
  obtain ⟨_, empty⟩ := ok.whole zero
  simp [allocNewExtneiboard, zero, empty] at made

theorem noteRecord_shared {found : Option Nat} {alloc : Option (List ExtNeighbor)}
    {fill : ExtNeighbor → ExtNeighbor} (ok : Shared s)
    (present : ∀ i ∈ found, i < s.ext.length) (started : ∀ ext ∈ alloc, s.extSize ≠ 0) :
    Shared (noteRecord under found alloc fill s) := by
  cases found with
  | some i =>
      apply writeExt_shared ok
      intro zero
      obtain ⟨_, empty⟩ := ok.whole zero
      have := present i rfl
      simp [empty] at this
  | none =>
      cases alloc with
      | some ext => exact writeExt_shared ok (started ext rfl)
      | none => exact ok

theorem noteBeacon_shared {b : ScanBeacon} (ok : Shared s)
    (taken : noteBeacon under b s = .ok s') : Shared s' := by
  rw [noteBeacon] at taken
  cases src : b.srcAddr with
  | inl shortAddr =>
      rw [src] at taken
      cases taken
      apply noteRecord_shared ok
      · intro i found
        exact (List.findIdx?_eq_some_iff_getElem.1 found).1
      · intro ext made
        exact allocNewExtneiboard_started ok made
  | inr longAddr =>
      rw [src] at taken
      dsimp only at taken
      cases compressed : asserted (zbIeeeAddrCompress longAddr s.nwk.addr) with
      | error stop =>
          rw [compressed] at taken
          cases taken
      | ok r =>
          rw [compressed] at taken
          cases taken
          apply noteRecord_shared (ok.address r.1)
          · intro i found
            have mem := List.mem_of_find?_eq_some found
            rwa [List.mem_reverse, List.mem_range] at mem
          · intro ext made
            exact allocNewExtneiboard_started (ok.address r.1) made

/-- While the records move, the places behind the table are free but for the new entries. -/
structure Growing (t : ZbNeighborTbl) : Prop where
  tidy : Tidy t zbNeighborTableSize
  room : t.baseNeighborUsed ≤ t.baseNeighborSize
  small : t.baseNeighborSize ≤ zbNeighborTableSize

theorem exneighborStopEnt_growing {ext : ZbExtNeighborTblEnt} {nwk nwk' : NwkContext}
    (growing : Growing nwk.neighbor) (taken : zbNwkExneighborStopEnt ext nwk = .ok nwk') :
    Growing nwk'.neighbor := by
  have room := growing.room
  have small := growing.small
  rw [zbNwkExneighborStopEnt] at taken
  cases looked : extAddress ext nwk.addr with
  | error stop =>
      rw [looked] at taken
      cases taken
  | ok r =>
      obtain ⟨g, found⟩ := r
      simp only [looked, bind, Except.bind] at taken
      cases found with
      | error status =>
          cases taken
          exact growing
      | ok ref =>
          dsimp only at taken
          split at taken
          · -- the entry that exists is updated
            rename_i has
            split at taken
            · cases taken
              have is := (growing.tidy.indexed.found ref _ (indexOf_eq_some.2 ⟨has, rfl⟩)).2.2
              refine ⟨?_, room, small⟩
              dsimp only
              apply growing.tidy.rewrite
              · rfl
              · exact is.symm
            · cases taken
          · rename_i absent
            split at taken
            · rename_i free
              cases taken
              exact ⟨growing.tidy.append (Nat.lt_of_lt_of_le free small) (Nat.le_refl 32)
                (not_not.1 absent) rfl rfl, free, small⟩
            · cases taken
              exact growing

theorem moveRecords_growing {myPanidRef : Nat} {ext : List ExtNeighbor} {nwk' : NwkContext} :
    ∀ {freeSize : Nat} {nwk : NwkContext}, Growing nwk.neighbor →
      moveRecords myPanidRef ext freeSize nwk = .ok nwk' → Growing nwk'.neighbor := by
  induction ext with
  | nil =>
      intro freeSize nwk growing taken
      cases taken
      exact growing
  | cons en rest ih =>
      intro freeSize nwk growing taken
      have moved : ∀ next : NwkContext, Growing next.neighbor →
          (if next.neighbor.baseNeighborSize +
              (freeSize + zbExtNeighborTblEntSize) / zbNeighborTblEntSize ≤ zbNeighborTableSize then
            moveRecords myPanidRef rest ((freeSize + zbExtNeighborTblEntSize) % zbNeighborTblEntSize)
              { next with neighbor.baseNeighborSize := next.neighbor.baseNeighborSize +
                (freeSize + zbExtNeighborTblEntSize) / zbNeighborTblEntSize }
          else .error .other) = .ok nwk' → Growing nwk'.neighbor := by
        intro next grown rest_
        split at rest_
        · rename_i fits
          have larger : Growing { next.neighbor with
              baseNeighborSize := next.neighbor.baseNeighborSize +
                (freeSize + zbExtNeighborTblEntSize) / zbNeighborTblEntSize } :=
            ⟨grown.tidy.resize, Nat.le_trans grown.room (Nat.le_add_right _ _), fits⟩
          exact ih larger rest_
        · cases rest_
      simp only [moveRecords, bind, Except.bind] at taken
      split at taken
      · cases entered : zbNwkExneighborStopEnt en.toZbExtNeighborTblEnt nwk with
        | error stop =>
            rw [entered] at taken
            cases taken
        | ok next =>
            rw [entered] at taken
            exact moved next (exneighborStopEnt_growing growing entered) taken
      · exact moved nwk growing taken

/-- **The end of a scan** makes one table again. -/
theorem exneighborStop_shared {joined : Bool} {myPanidRef : Nat} (ok : Shared s)
    (fits : ∀ i < zbNeighborTableSize, s.nwk.neighbor.baseNeighborSize ≤ i →
      (s.nwk.neighbor.baseNeighbor i).used = false)
    (taken : zbNwkExneighborStop joined myPanidRef s = .ok s') : Shared s' := by
  have growing : Growing s.nwk.neighbor := by
    refine ⟨ok.tidy.bound ?_, ok.room, ok.small⟩
    intro i
    by_cases left : i < s.nwk.neighbor.baseNeighborSize
    · exact .inl ⟨fun _ => Nat.lt_of_lt_of_le left ok.small, fun _ => left⟩
    · by_cases inside : i < zbNeighborTableSize
      · exact .inr (fits i inside (by omega))
      · exact .inl ⟨fun left' => absurd left' left, fun inside' => absurd inside' inside⟩
  have whole : ∀ nwk : NwkContext, Growing nwk.neighbor →
      Shared ⟨{ nwk with neighbor.baseNeighborSize := zbNeighborTableSize }, 0, 0, []⟩ :=
    fun nwk grown => ⟨grown.tidy.resize, Nat.le_trans grown.room grown.small, Nat.le_refl 32,
      fun _ => ⟨rfl, rfl⟩, fun started => absurd rfl started⟩
  rw [zbNwkExneighborStop] at taken
  split at taken
  · cases moved : moveRecords myPanidRef s.ext 0 s.nwk with
    | error stop =>
        rw [moved] at taken
        cases taken
    | ok nwk =>
        rw [moved] at taken
        cases taken
        exact whole nwk (moveRecords_growing growing moved)
  · cases taken
    exact whole s.nwk growing

theorem shared_init (depth : UInt8) (networkAddress : UInt16) :
    Shared (.init depth networkAddress) :=
  ⟨tidy_init, Nat.zero_le 32, Nat.le_refl 32, fun _ => ⟨rfl, rfl⟩, fun started => absurd rfl started⟩

/-- **Every call that fits keeps the table and the records apart, and the index.** -/
theorem shared_step {call : NeighborCall} (ok : Shared s) (fits : CallFits s call)
    (taken : neighborStep under s call = some s') : Shared s' := by
  have taken := toOption_eq_some.1 taken
  cases call with
  | neighborGet ref createIfAbsent =>
      rw [neighborCall] at taken
      cases got : neighborGet ref createIfAbsent s.nwk with
      | error stop =>
          rw [got] at taken
          cases taken
      | ok r =>
          rw [got] at taken
          cases taken
          exact neighborGet_shared ok fits got
  | neighborDelete ref =>
      cases taken
      have kept : (zbNwkNeighborDelete ref s.nwk.neighbor).1.baseNeighborUsed =
            s.nwk.neighbor.baseNeighborUsed ∧
          (zbNwkNeighborDelete ref s.nwk.neighbor).1.baseNeighborSize =
            s.nwk.neighbor.baseNeighborSize := by
        rw [zbNwkNeighborDelete]
        dsimp only
        split <;> exact ⟨rfl, rfl⟩
      exact ok.table ok.tidy.delete (kept.1.trans_le ok.room) kept.2
  | address call =>
      rw [neighborCall] at taken
      cases called : addressCall s.nwk.addr call with
      | error stop =>
          rw [called] at taken
          cases taken
      | ok g =>
          rw [called] at taken
          cases taken
          exact ok.address g
  | exneighborStart => exact exneighborStart_shared ok fits taken
  | beacon b => exact noteBeacon_shared ok taken
  | exneighborStop joined myPanidRef => exact exneighborStop_shared ok fits taken
  | extToBaseTmp i unset =>
      rw [neighborCall] at taken
      cases at_ : s.ext[i]? with
      | none =>
          rw [at_] at taken
          cases taken
          exact ok
      | some en =>
          rw [at_] at taken
          dsimp only at taken
          cases entered : zbNwkNeighborExtToBaseTmp en.toZbExtNeighborTblEnt unset s.nwk with
          | error stop =>
              rw [entered] at taken
              cases taken
          | ok nwk =>
              rw [entered] at taken
              cases taken
              exact extToBaseTmp_shared ok (fun room => fits room en at_) entered
  | neighborClear =>
      cases taken
      exact ⟨tidy_init, Nat.zero_le 32, Nat.le_refl 32, fun _ => ⟨rfl, rfl⟩,
        fun started => absurd rfl started⟩

end Calls

/-- **The index of the neighbour table** in every state of a run whose calls fit. -/
theorem neighborIndexed_of_run {under : Underlay} {depth : UInt8} {networkAddress : UInt16}
    {calls : List NeighborCall} {s : NeighborState}
    (along : Along (neighborStep under) CallFits (.init depth networkAddress) calls)
    (ran : run (neighborStep under) (.init depth networkAddress) calls = some s) :
    NeighborIndexed s.nwk.neighbor := by
  have ok : Shared s := run_invariant
    (fun _ _ _ ok fits taken => shared_step ok fits taken) (shared_init depth networkAddress)
    along ran
  exact ok.tidy.right ok.room

/-! ## Poles -/

instance (ext : ZbExtNeighborTblEnt) (unset : Nat) (s : NwkContext) :
    Decidable (NotEntered ext unset s) :=
  inferInstanceAs (Decidable (∀ ref ∈ enteredRef ext unset s.addr, _ = _))

instance decidableCallFits (s : NeighborState) : (call : NeighborCall) → Decidable (CallFits s call)
  | .neighborGet ref createIfAbsent => inferInstanceAs (Decidable (createIfAbsent = true →
      s.nwk.neighbor.addrToNeighbor ref = 255 →
        s.nwk.neighbor.baseNeighborUsed ≠ s.nwk.neighbor.baseNeighborSize))
  | .exneighborStart =>
      inferInstanceAs (Decidable (s.extSize = 0 → s.nwk.neighbor.baseNeighborUsed ≤ 19))
  | .exneighborStop _ _ => inferInstanceAs (Decidable (∀ i < zbNeighborTableSize,
      s.nwk.neighbor.baseNeighborSize ≤ i → (s.nwk.neighbor.baseNeighbor i).used = false))
  | .extToBaseTmp i unset => inferInstanceAs (Decidable
      (s.nwk.neighbor.baseNeighborUsed < s.nwk.neighbor.baseNeighborSize →
        ∀ en ∈ s.ext[i]?, NotEntered en.toZbExtNeighborTblEnt unset s.nwk))
  | .neighborDelete _ | .address _ | .beacon _ | .neighborClear => isTrue trivial

/-- The bytes of a record without a long address and with an even stack profile: the flag of both
entries it overlaps is clear. -/
def quietBytes : Underlay := fun _ _ _ nbe => { nbe with used := false }

/-- A neighbour is made and dropped, a scan finds another one, and a third is made after it. -/
def scanOnce : List NeighborCall :=
  [.address (.update someDevice 7 false), .address (.byShort 8 true false), .neighborGet 82 true,
    .neighborGet 10 true, .neighborDelete 82, .exneighborStart,
    .beacon ⟨0, .inl 9, fun en => { en with deviceType := zbNwkDeviceTypeRouter, lqi := 200 }⟩,
    .exneighborStop true 0, .neighborGet 82 true]

theorem neighborIndexed_scanOnce : ∃ s,
    run (neighborStep quietBytes) (.init 0 0) scanOnce = some s ∧
      NeighborIndexed s.nwk.neighbor := by
  have along : Along (neighborStep quietBytes) CallFits (.init 0 0) scanOnce := by decide +kernel
  exact ⟨_, rfl, neighborIndexed_of_run along rfl⟩

/-- A device rejoins through its neighbour, which it has heard in the scan. -/
def rejoinThrough : List NeighborCall :=
  [.address (.update someDevice 7 false), .neighborGet 82 true, .exneighborStart,
    .beacon ⟨0, .inr someDevice, fun en => { en with shortAddr := 7 }⟩, .extToBaseTmp 0 0]

/-- **The neighbour is entered twice.** -/
theorem entered_twice :
    ¬ ∀ (calls : List NeighborCall) (s : NeighborState),
      run (neighborStep quietBytes) (.init 0 0) calls = some s → NeighborIndexed s.nwk.neighbor := by
  intro claim
  obtain ⟨s, ran, two, first, second, same⟩ : ∃ s,
      run (neighborStep quietBytes) (.init 0 0) rejoinThrough = some s ∧
        s.nwk.neighbor.baseNeighborSize = 16 ∧
        (s.nwk.neighbor.baseNeighbor 0).used = true ∧
        (s.nwk.neighbor.baseNeighbor 1).used = true ∧
        (s.nwk.neighbor.baseNeighbor 0).addrRef = (s.nwk.neighbor.baseNeighbor 1).addrRef :=
    ⟨_, rfl, rfl, rfl, rfl, rfl⟩
  have apart := (claim rejoinThrough s ran).apart 0 (by omega) 1 (by omega) first second same
  exact absurd apart (by decide)

/-- With 17 neighbours, the scan leaves a table that is full; one more neighbour goes behind it. -/
example : (run (neighborStep quietBytes) (.init 0 0)
    ((List.range 17).map (.neighborGet · true) ++ [.exneighborStart, .neighborGet 50 true])).map
      (fun s => (s.nwk.neighbor.baseNeighborUsed, s.nwk.neighbor.baseNeighborSize)) =
    some (18, 17) := by decide +kernel

end Zboss.Nwk.NeighborIndex
