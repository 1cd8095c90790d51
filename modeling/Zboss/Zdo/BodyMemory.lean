/-
# Zdo.BodyMemory -- a request in its buffer

The handlers of the ZDO read a request where it stands, and put what they take out of it into the
tail of the same buffer.  A `Body` is the memory from the first byte of the buffer on, with the
place and the length of the request; what stands behind the buffer can be read as well.

* `wordsAt_congr`: clusters are read from their bytes alone;
* `copyClusterId_words`: what `copy_cluster_id` leaves at its destination;
* `wordsAt_of_bytes`: numbers that have been written as bytes are read again.

Pole: `copy_cluster_id` returns the end of its destination, not of what it has read.
-/
import Mathlib
import Zboss.Common.Constants
import Zboss.Theory.ByteMemory
import Zboss.Common.PacketBuf

namespace Zboss.Zdo.BodyMemory

open Zboss.Common.Constants
open Zboss.Common.Types
open Zboss.Common.PacketBuf
open Zboss.Theory.ByteMemory

set_option autoImplicit false

/-- A request of `len` bytes from `begin_` on. -/
structure Body where
  mem : Nat → UInt8
  begin_ : Nat
  len : Nat

/-- The bytes of the request. -/
def Body.bytes (b : Body) : List UInt8 := cellsAt b.begin_ b.len b.mem

/-- The byte at a place of the request. -/
def Body.at_ (b : Body) (i : Nat) : UInt8 := b.mem (b.begin_ + i)

/-- The bytes of the request stand inside the buffer. -/
def Body.Inside (b : Body) : Prop := b.begin_ + b.len ≤ zbIoBufSize

/-- `zb_get_buf_tail`: the data may not reach into the tail. -/
def zbGetBufTail (size : UInt8) (b : Body) : Option Nat :=
  if b.len + b.begin_ + size.toNat ≤ zbIoBufSize then some (zbIoBufSize - size.toNat) else none

/-- A number of two bytes, the low byte first. -/
def word (m : Nat → UInt8) (a : Nat) : UInt16 :=
  UInt16.ofNat ((m a).toNat + 256 * (m (a + 1)).toNat)

/-- So many numbers from a place on. -/
def wordsAt (at_ num : Nat) (m : Nat → UInt8) : List UInt16 :=
  (List.range num).map fun i => word m (at_ + 2 * i)

/-- A long address, byte by byte. -/
def ieeeAt (a : Nat) (m : Nat → UInt8) : ZbIeeeAddr := Vector.ofFn fun i => m (a + i.val)

/-- `sizeof(zb_apsde_data_indication_t)` -/
def apsdeDataIndicationSize : UInt8 := 14

/-- Where the indication of a request is, in the tail of its buffer. -/
def indicationAt : Nat := zbIoBufSize - apsdeDataIndicationSize.toNat

/-- `zb_buf_initial_alloc`: the data stands in the middle. -/
def zbBufInitialAlloc (size : UInt8) (b : Body) : Option Body :=
  if size.toNat < zbIoBufSize then
    some { b with begin_ := (zbIoBufSize - size.toNat) / 2, len := size.toNat }
  else none

/-- `zb_buf_smart_alloc_right`: nothing moves, whatever room there is behind the data. -/
def zbBufSmartAllocRight (size : UInt8) (b : Body) : Option (Body × Nat) :=
  if size.toNat + b.len < zbIoBufSize then
    some ({ b with len := b.len + size.toNat }, b.begin_ + b.len)
  else none

/-- `zb_buf_smart_alloc_left`: the data moves where there is too little room before it. -/
def zbBufSmartAllocLeft (size : UInt8) (b : Body) : Option Body :=
  if size.toNat + b.len < zbIoBufSize then
    let b :=
      if b.begin_ < size.toNat then
        { b with mem := copyCells size.toNat b.begin_ b.len b.mem, begin_ := size.toNat }
      else b
    some { b with begin_ := b.begin_ - size.toNat, len := b.len + size.toNat }
  else none

/-- Bytes are written at a place of the buffer. -/
def Body.write (at_ : Nat) (bytes : List UInt8) (b : Body) : Body :=
  { b with mem := put at_ bytes b.mem }

@[simp] theorem Body.write_mem (at_ : Nat) (bytes : List UInt8) (b : Body) :
    (b.write at_ bytes).mem = put at_ bytes b.mem := rfl

@[simp] theorem Body.write_begin (at_ : Nat) (bytes : List UInt8) (b : Body) :
    (b.write at_ bytes).begin_ = b.begin_ := rfl

@[simp] theorem Body.write_len (at_ : Nat) (bytes : List UInt8) (b : Body) :
    (b.write at_ bytes).len = b.len := rfl

/-- The memory, and the pointer that is returned. -/
def copyClusterId (clusterDst clusterSrc num : Nat) (m : Nat → UInt8) : (Nat → UInt8) × Nat :=
  (copyItems 2 clusterDst clusterSrc num m, clusterDst + 2 * num)

section Words

variable {a a' num dst src : Nat} {m m' : Nat → UInt8}

/-- The same bytes are the same numbers. -/
theorem wordsAt_congr (same : cellsAt a (2 * num) m = cellsAt a' (2 * num) m') :
    wordsAt a num m = wordsAt a' num m' := by
  have byte (i : Nat) (less : i < 2 * num) : m (a + i) = m' (a' + i) := by
    have here := congrArg (List.getD · i 0) same
    simpa only [getD_cellsAt less] using here
  apply List.map_congr_left
  intro i mem
  have less := List.mem_range.1 mem
  rw [word, word, byte _ (by omega), Nat.add_assoc a, Nat.add_assoc a', byte _ (by omega)]

/-- What `copy_cluster_id` leaves at its destination, where it copies to the left or out of what it
reads. -/
theorem copyClusterId_words (clear : dst ≤ src ∨ src + 2 * num ≤ dst) :
    wordsAt dst num (copyClusterId dst src num m).1 = wordsAt src num m := by
  apply wordsAt_congr
  rw [copyClusterId, copyItems_eq clear, copyCells_self]

/-- Elsewhere it leaves what was there. -/
theorem copyClusterId_apart {n k : Nat} (clear : dst ≤ src ∨ src + 2 * num ≤ dst)
    (apart : n + k ≤ dst ∨ dst + 2 * num ≤ n) :
    cellsAt n k (copyClusterId dst src num m).1 = cellsAt n k m := by
  rw [copyClusterId, copyItems_eq clear, copyCells_apart apart]

end Words

/-! ## Numbers as bytes -/

section Bytes

variable {val : UInt16} {vals : List UInt16} {m : Nat → UInt8} {a num : Nat}

@[simp] theorem length_uint16Bytes : (uint16Bytes val).length = 2 := rfl

theorem length_flatMap_bytes : (vals.flatMap uint16Bytes).length = 2 * vals.length := by
  rw [List.length_flatMap, List.map_congr_left fun val _ => length_uint16Bytes, List.map_const',
    List.sum_replicate, smul_eq_mul, Nat.mul_comm]

/-- A number is read from its two bytes. -/
theorem word_of_bytes (bytes : cellsAt a 2 m = uint16Bytes val) : word m a = val := by
  have pair : m a = val.toUInt8 ∧ m (a + 1) = (val >>> 8).toUInt8 := by
    simpa [cellsAt, List.range_succ, uint16Bytes] using bytes
  have read := uint16At_bytes val [] []
  rw [word, pair.1, pair.2]
  exact read

/-- Numbers are read from their bytes. -/
theorem wordsAt_of_bytes (bytes : cellsAt a (2 * vals.length) m = vals.flatMap uint16Bytes) :
    wordsAt a vals.length m = vals := by
  induction vals generalizing a with
  | nil => rfl
  | cons val vals ih =>
      rw [List.length_cons, show 2 * (vals.length + 1) = 2 + 2 * vals.length by omega, cellsAt_add,
        List.flatMap_cons] at bytes
      obtain ⟨first, rest⟩ := List.append_inj bytes (by rw [length_cellsAt, length_uint16Bytes])
      rw [wordsAt, List.length_cons, List.range_succ_eq_map, List.map_cons, List.map_map,
        Nat.mul_zero, Nat.add_zero, word_of_bytes first]
      refine congrArg (val :: ·) ((List.map_congr_left fun i _ => ?_).trans (ih rest))
      rw [Function.comp_apply, Nat.add_assoc, Nat.mul_succ, Nat.add_comm (2 * i)]

/-- An address is read from its bytes. -/
theorem ieeeAt_of_bytes {ieee : ZbIeeeAddr} (bytes : cellsAt a 8 m = ieee.toList) :
    ieeeAt a m = ieee := by
  apply Vector.ext
  intro i less
  have here := congrArg (List.getD · i 0) bytes
  simp only [getD_cellsAt less] at here
  rw [ieeeAt, Vector.getElem_ofFn, here,
    List.getD_eq_getElem _ _ (by rw [Vector.length_toList]; exact less), Vector.getElem_toList]

end Bytes

/-! ## The bytes of the request as a list -/

section Bytes

variable {b : Body} {i : Nat}

theorem length_bytes : b.bytes.length = b.len := length_cellsAt

theorem getD_bytes (less : i < b.len) : b.bytes.getD i 0 = b.at_ i := getD_cellsAt less 0

theorem uint16At_bytes_body (less : i + 1 < b.len) :
    uint16At i b.bytes = word b.mem (b.begin_ + i) := by
  rw [uint16At, getD_bytes (by omega), getD_bytes less, word, Body.at_, Body.at_, Nat.add_assoc]

end Bytes

end Zboss.Zdo.BodyMemory
