/-
# Common.PacketBuf -- space in a packet buffer

`zb_buf_smart_alloc_left`, `zb_buf_smart_alloc_right`, `zb_buf_cut_left` and
`zb_get_buf_tail` on the buffer of `Secur.Ccm`.  Space at the beginning is taken
from what lies there; where that is too little, the data is moved first, over
whatever it then covers, and with it what a sender has put in the tail.

`smartAllocLeft_spec`, `smartAllocRight_spec`: the data stays what it was, behind
or before the space; what the move does not reach is unchanged.
-/
import Mathlib
import Zboss.Common.Constants
import Zboss.Common.Types
import Zboss.Secur.CcmRoundTrip

namespace Zboss.Common.PacketBuf

open Zboss.Common.Constants
open Zboss.Common.Types
open Zboss.Secur.Ccm
open Zboss.Secur.CcmRoundTrip

set_option autoImplicit false

/-! ## Operations -/

/-- Allocate space at buffer begin. -/
def zbBufSmartAllocLeft (size : UInt8) (b : ZbBuf) : Option ZbBuf := do
  if zbIoBufSize ≤ size.toNat + b.len.toNat then none
  let b ← if b.dataOffset < size then do
      let data ← peek b.buf b.begin_ b.len.toNat
      let mem ← poke b.buf (b.begin_ + (size - b.dataOffset).toNat) data
      pure { b with buf := mem, dataOffset := size }
    else pure b
  return { b with len := b.len + size, dataOffset := b.dataOffset - size }

/-- Allocate space at buffer end; the offset of it is returned. -/
def zbBufSmartAllocRight (size : UInt8) (b : ZbBuf) : Option (ZbBuf × Nat) :=
  if size.toNat + b.len.toNat < zbIoBufSize then
    some ({ b with len := b.len + size }, b.begin_ + b.len.toNat)
  else none

/-- Cut space at buffer begin. -/
def zbBufCutLeft (size : UInt8) (b : ZbBuf) : Option ZbBuf :=
  if size ≤ b.len then some { b with len := b.len - size, dataOffset := b.dataOffset + size }
  else none

/-- The offset of a tail of this size. -/
def zbGetBufTail (size : UInt8) (b : ZbBuf) : Option Nat :=
  if b.len.toNat + b.begin_ + size.toNat ≤ zbIoBufSize then some (zbIoBufSize - size.toNat)
  else none

/-! ## Space at the beginning -/

section AllocLeft

variable {size : UInt8} {b : ZbBuf}

theorem data_eq_slice (b : ZbBuf) : b.data = slice b.buf b.begin_ b.len.toNat := rfl

theorem length_data (inside : b.begin_ + b.len.toNat ≤ zbIoBufSize) : b.data.length = b.len.toNat :=
  length_slice inside

theorem allocLeft_room {c : ZbBuf} (allocated : zbBufSmartAllocLeft size b = some c) :
    size.toNat + b.len.toNat < zbIoBufSize := by
  by_contra full
  rw [zbBufSmartAllocLeft, if_pos (not_lt.1 full)] at allocated
  cases allocated

/-- There is room before the data: nothing moves. -/
theorem smartAllocLeft_still (room : size.toNat + b.len.toNat < zbIoBufSize)
    (before : size.toNat ≤ b.begin_) :
    ∃ c : ZbBuf, zbBufSmartAllocLeft size b = some c ∧ c.buf = b.buf ∧
      c.begin_ = b.begin_ - size.toNat ∧ c.len.toNat = size.toNat + b.len.toNat := by
  have space : ¬ zbIoBufSize ≤ size.toNat + b.len.toNat := by omega
  have still : ¬ b.dataOffset < size := by
    intro less
    have lt := UInt8.lt_iff_toNat_lt.1 less
    simp only [ZbBuf.begin_] at before
    omega
  refine ⟨{ b with len := b.len + size, dataOffset := b.dataOffset - size }, ?_, rfl, ?_, ?_⟩
  · simp only [zbBufSmartAllocLeft, if_neg space, if_neg still]
    rfl
  · exact UInt8.toNat_sub_of_le _ _ (UInt8.le_iff_toNat_le.2 before)
  · simp only [zbIoBufSize] at room
    show (b.len + size).toNat = _
    rw [UInt8.toNat_add]
    omega

/-- There is not: the data is moved, and the space begins with the buffer. -/
theorem smartAllocLeft_moved (room : size.toNat + b.len.toNat < zbIoBufSize)
    (inside : b.begin_ + b.len.toNat ≤ zbIoBufSize) (before : b.begin_ < size.toNat) :
    ∃ c : ZbBuf, zbBufSmartAllocLeft size b = some c ∧ c.begin_ = 0 ∧
      c.len.toNat = size.toNat + b.len.toNat ∧ slice c.buf size.toNat b.len.toNat = b.data ∧
      ∀ at_ len, size.toNat + b.len.toNat ≤ at_ → slice c.buf at_ len = slice b.buf at_ len := by
  have space : ¬ zbIoBufSize ≤ size.toNat + b.len.toNat := by omega
  have less : b.dataOffset < size := UInt8.lt_iff_toNat_lt.2 before
  have length : (slice b.buf b.begin_ b.len.toNat).length = b.len.toNat := length_slice inside
  have to_ : b.begin_ + (size - b.dataOffset).toNat = size.toNat := by
    rw [UInt8.toNat_sub_of_le _ _ (UInt8.le_of_lt less)]
    simp only [ZbBuf.begin_] at before ⊢
    omega
  obtain ⟨mem, poked, here, -, after⟩ := @poke_slices zbIoBufSize b.buf size.toNat
    (slice b.buf b.begin_ b.len.toNat) (by omega)
  rw [length] at here after
  refine ⟨{ b with buf := mem, len := b.len + size, dataOffset := size - size }, ?_, ?_, ?_, here, after⟩
  · simp only [zbBufSmartAllocLeft, if_neg space, if_pos less, peek_slice inside, to_, poked,
      Option.bind_eq_bind, Option.bind_some]
    rfl
  · show (size - size).toNat = 0
    rw [UInt8.sub_self]
    rfl
  · simp only [zbIoBufSize] at room
    show (b.len + size).toNat = _
    rw [UInt8.toNat_add]
    omega

/-- **Space at the beginning**: the data follows it, and what lies past the data,
where it was and where it is now, is unchanged. -/
theorem smartAllocLeft_spec (room : size.toNat + b.len.toNat < zbIoBufSize)
    (inside : b.begin_ + b.len.toNat ≤ zbIoBufSize) :
    ∃ c : ZbBuf, zbBufSmartAllocLeft size b = some c ∧
      c.len.toNat = size.toNat + b.len.toNat ∧ c.begin_ + c.len.toNat ≤ zbIoBufSize ∧
      slice c.buf (c.begin_ + size.toNat) b.len.toNat = b.data ∧
      c.begin_ + size.toNat = max b.begin_ size.toNat ∧
      ∀ at_ len, max b.begin_ size.toNat + b.len.toNat ≤ at_ →
        slice c.buf at_ len = slice b.buf at_ len := by
  rcases Nat.lt_or_ge b.begin_ size.toNat with before | before
  · obtain ⟨c, allocated, begins, len, data, after⟩ := smartAllocLeft_moved room inside before
    rw [Nat.max_eq_right before.le]
    exact ⟨c, allocated, len, by omega, by rw [begins, Nat.zero_add, data], by omega, after⟩
  · obtain ⟨c, allocated, same, begins, len⟩ := smartAllocLeft_still room before
    have there : c.begin_ + size.toNat = b.begin_ := by omega
    rw [Nat.max_eq_left before]
    refine ⟨c, allocated, len, by omega, by rw [there, same, data_eq_slice], there, ?_⟩
    intro at_ len' _
    rw [same]

end AllocLeft

/-! ## Space at the end -/

section AllocRight

variable {size : UInt8} {b : ZbBuf}

theorem smartAllocRight_spec (room : size.toNat + b.len.toNat < zbIoBufSize) :
    ∃ c : ZbBuf, zbBufSmartAllocRight size b = some (c, b.begin_ + b.len.toNat) ∧ c.buf = b.buf ∧
      c.begin_ = b.begin_ ∧ c.len.toNat = b.len.toNat + size.toNat := by
  refine ⟨{ b with len := b.len + size }, if_pos room, rfl, rfl, ?_⟩
  simp only [zbIoBufSize] at room
  show (b.len + size).toNat = _
  rw [UInt8.toNat_add]
  omega

theorem cutLeft_spec (enough : size.toNat ≤ b.len.toNat) (inside : b.begin_ + b.len.toNat ≤ zbIoBufSize) :
    ∃ c : ZbBuf, zbBufCutLeft size b = some c ∧ c.buf = b.buf ∧
      c.begin_ = b.begin_ + size.toNat ∧ c.len.toNat = b.len.toNat - size.toNat := by
  have le : size ≤ b.len := UInt8.le_iff_toNat_le.2 enough
  refine ⟨{ b with len := b.len - size, dataOffset := b.dataOffset + size }, if_pos le, rfl, ?_, ?_⟩
  · simp only [zbIoBufSize, ZbBuf.begin_] at inside ⊢
    rw [UInt8.toNat_add]
    omega
  · exact UInt8.toNat_sub_of_le _ _ le

end AllocRight

/-! ## Fields -/

section Fields

def uint16At (at_ : Nat) (p : List UInt8) : UInt16 :=
  UInt16.ofNat ((p.getD at_ 0).toNat + 256 * (p.getD (at_ + 1) 0).toNat)

def uint16Bytes (val : UInt16) : List UInt8 := [val.toUInt8, (val >>> 8).toUInt8]

def ieeeAddrAt (at_ : Nat) (p : List UInt8) : ZbIeeeAddr := Vector.ofFn fun i => p.getD (at_ + i.val) 0

/-- Low byte first, and back. -/
theorem uint16At_bytes (val : UInt16) (before after : List UInt8) :
    uint16At before.length (before ++ uint16Bytes val ++ after) = val := by
  have low : (before ++ uint16Bytes val ++ after).getD before.length 0 = val.toUInt8 := by
    simp [uint16Bytes, List.getD]
  have high : (before ++ uint16Bytes val ++ after).getD (before.length + 1) 0 = (val >>> 8).toUInt8 := by
    simp [uint16Bytes, List.getD]
  rw [uint16At, low, high]
  apply UInt16.toNat_inj.1
  have range := val.toNat_lt
  simp [Nat.shiftRight_eq_div_pow]
  omega

theorem ieeeAddrAt_bytes (ieee : ZbIeeeAddr) {before after : List UInt8} {at_ : Nat}
    (there : before.length = at_) : ieeeAddrAt at_ (before ++ (ieee.toList ++ after)) = ieee := by
  subst there
  apply Vector.ext
  intro i hi
  have inside : i < ieee.toList.length := by simpa using hi
  rw [ieeeAddrAt, Vector.getElem_ofFn, List.getD_eq_getElem?_getD,
    List.getElem?_append_right (by omega), Nat.add_sub_cancel_left,
    List.getElem?_append_left inside, List.getElem?_eq_getElem inside]
  simp

end Fields

/-! ## Writing over a part -/

section Rewrite

variable {n : Nat} {mem : Vector UInt8 n} {pos : Nat}

/-- Two writes, one after the other, are one. -/
theorem poke_poke {mem₁ : Vector UInt8 n} {first second : List UInt8}
    (fits : pos + (first ++ second).length ≤ n) (poked : poke mem pos first = some mem₁) :
    poke mem₁ (pos + first.length) second = poke mem pos (first ++ second) := by
  rw [List.length_append] at fits
  obtain ⟨mem₁', poked', eq₁⟩ := @poke_spec n mem pos first (by omega)
  obtain rfl : mem₁' = mem₁ := Option.some.inj (poked'.symm.trans poked)
  obtain ⟨mem₂, poked₂, eq₂⟩ := @poke_spec n mem₁' (pos + first.length) second (by omega)
  obtain ⟨mem₃, poked₃, eq₃⟩ := @poke_spec n mem pos (first ++ second)
    (by rw [List.length_append]; omega)
  have before : (mem.toList.take pos ++ first).length = pos + first.length := by
    simp
    omega
  have taken : mem₁'.toList.take (pos + first.length) = mem.toList.take pos ++ first := by
    rw [eq₁, ← before, List.take_left]
  have left : mem₁'.toList.drop (pos + first.length) = mem.toList.drop (pos + first.length) := by
    nth_rewrite 1 [← before]
    rw [eq₁, List.drop_left]
  have rest : mem₁'.toList.drop (pos + first.length + second.length) =
      mem.toList.drop (pos + (first ++ second).length) := by
    rw [← List.drop_drop, left, List.drop_drop, List.length_append, Nat.add_assoc]
  rw [poked₂, poked₃]
  congr 1
  apply Vector.toList_inj.1
  rw [eq₂, eq₃, taken, rest, List.append_assoc _ first]

/-- One part of a string is written over. -/
theorem poke_within {x y y' z : List UInt8} (stands : slice mem pos (x ++ y ++ z).length = x ++ y ++ z)
    (same : y'.length = y.length) (fits : pos + (x ++ y ++ z).length ≤ n) :
    ∃ mem' : Vector UInt8 n, poke mem (pos + x.length) y' = some mem' ∧
      slice mem' pos (x ++ y ++ z).length = x ++ y' ++ z ∧
      ∀ at_ len, pos + (x ++ y ++ z).length ≤ at_ → slice mem' at_ len = slice mem at_ len := by
  simp only [List.length_append] at stands fits ⊢
  obtain ⟨mem', poked, here, before, after⟩ := @poke_slices n mem (pos + x.length) y' (by omega)
  rw [slice_add, slice_add] at stands
  have xLength : (slice mem pos x.length).length = x.length := length_slice (by omega)
  have yLength : (slice mem (pos + x.length) y.length).length = y.length := length_slice (by omega)
  obtain ⟨xy, isZ⟩ := List.append_inj stands (by rw [List.length_append, List.length_append, xLength, yLength])
  obtain ⟨isX, -⟩ := List.append_inj xy xLength
  refine ⟨mem', poked, ?_, fun at_ len past => after at_ len (by omega)⟩
  rw [slice_add, slice_add, before _ _ (le_refl _), isX, ← same, here, same, after _ _ (by omega), isZ]

/-- A part of a string that stands in memory. -/
theorem slice_part {x y z : List UInt8} (stands : slice mem pos (x ++ y ++ z).length = x ++ y ++ z) :
    slice mem (pos + x.length) y.length = y := by
  have behind : slice mem (pos + x.length) ((x ++ y ++ z).length - x.length) = y ++ z := by
    rw [← drop_slice, stands, List.append_assoc, List.drop_left]
  have inside : y.length ≤ (x ++ y ++ z).length - x.length := by
    simp only [List.length_append]
    omega
  rw [← take_slice mem _ inside, behind, List.take_left]

theorem getD_of_slice {mem' : Vector UInt8 n} (same : slice mem' pos 1 = slice mem pos 1) (inside : pos < n) :
    mem'.toList.getD pos 0 = mem.toList.getD pos 0 := by
  have byte : ∀ m : Vector UInt8 n, slice m pos 1 = [m.toList.getD pos 0] := by
    intro m
    have here : pos < m.toList.length := by simpa using inside
    rw [slice, List.drop_eq_getElem_cons here, List.getD_eq_getElem _ _ here]
    rfl
  rw [byte, byte] at same
  exact List.head_eq_of_cons_eq same

end Rewrite

end Zboss.Common.PacketBuf
