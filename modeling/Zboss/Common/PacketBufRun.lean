/-
# Common.PacketBufRun -- what a packet buffer's data goes through

Every operation on the space of a buffer, in any order: `bufStep` is one of them, and
`Effect` what it is to do to the data, in terms of the data alone.  Each does that to a
buffer whose data lies inside of it (`effect_of_room`), with one thing to be asked:
`zb_buf_smart_alloc_right` compares the size with all of the space, and not with the space
behind the data, and unlike `zb_buf_smart_alloc_left` and `zb_buf_assign_param` it moves
nothing.

* `arithmetic_iff`: a sequence keeps the data inside and does to it what it should exactly
  when no allocation on the right is larger than the space behind the data.

Pole: `alloc_right_leaves_buffer`.
-/
import Mathlib
import Zboss.Common.Constants
import Zboss.Theory.Run
import Zboss.Common.PacketBuf

namespace Zboss.Common.PacketBufRun

open Zboss.Common.Constants
open Zboss.Theory.Run
open Zboss.Secur.Ccm
open Zboss.Secur.CcmRoundTrip
open Zboss.Common.PacketBuf

set_option autoImplicit false

/-! ## The rest of the operations -/

/-- Cut space at buffer end. -/
def zbBufCutRight (size : UInt8) (b : ZbBuf) : Option ZbBuf :=
  if size ≤ b.len then some { b with len := b.len - size } else none

/-- Copy data to the buffer tail, after the buffer's own data has made place for it. -/
def zbBufAssignParam (size : UInt8) (param : Vector UInt8 size.toNat) (b : ZbBuf) :
    Option ZbBuf := do
  if zbIoBufSize < b.len.toNat + size.toNat then none
  let b ← (if zbIoBufSize < b.begin_ + b.len.toNat + size.toNat then do
      let delta := b.begin_ + b.len.toNat + size.toNat - zbIoBufSize
      let data ← peek b.buf b.begin_ b.len.toNat
      let mem ← poke b.buf (b.begin_ - delta) data
      pure { b with buf := mem, dataOffset := b.dataOffset - UInt8.ofNat delta }
    else pure b)
  let p ← zbGetBufTail size b
  let mem ← poke b.buf p param.toList
  return { b with buf := mem }

inductive BufOp where
  | initialAlloc (size : UInt8)
  | allocLeft (size : UInt8)
  | allocRight (size : UInt8)
  | cutLeft (size : UInt8)
  | cutRight (size : UInt8)
  | assignParam (size : UInt8) (param : Vector UInt8 size.toNat)

def bufStep (b : ZbBuf) : BufOp → Option ZbBuf
  | .initialAlloc size => zbBufInitialAlloc size b
  | .allocLeft size => zbBufSmartAllocLeft size b
  | .allocRight size => (zbBufSmartAllocRight size b).map Prod.fst
  | .cutLeft size => zbBufCutLeft size b
  | .cutRight size => zbBufCutRight size b
  | .assignParam size param => zbBufAssignParam size param b

/-- A buffer as `zb_get_buf` hands it out; what its bytes were stays. -/
def allocated (mem : Vector UInt8 zbIoBufSize) : ZbBuf := ⟨mem, 0, 0⟩

/-! ## What is claimed of an operation -/

/-- The data lies inside of the buffer. -/
def Inside (b : ZbBuf) : Prop := b.begin_ + b.len.toNat ≤ zbIoBufSize

/-- What an operation is to do to the data, and where it is to be then. -/
def Effect (b c : ZbBuf) : BufOp → Prop
  | .initialAlloc size => c.data.length = size.toNat
  | .allocLeft size =>
      (∃ space : List UInt8, space.length = size.toNat ∧ c.data = space ++ b.data) ∧
        c.begin_ = b.begin_ - size.toNat
  | .allocRight size =>
      (∃ space : List UInt8, space.length = size.toNat ∧ c.data = b.data ++ space) ∧
        c.begin_ = b.begin_
  | .cutLeft size =>
      (∃ gone : List UInt8, gone.length = size.toNat ∧ b.data = gone ++ c.data) ∧
        c.begin_ = b.begin_ + size.toNat
  | .cutRight size =>
      (∃ gone : List UInt8, gone.length = size.toNat ∧ b.data = c.data ++ gone) ∧
        c.begin_ = b.begin_
  | .assignParam size param =>
      c.data = b.data ∧ slice c.buf (zbIoBufSize - size.toNat) size.toNat = param.toList ∧
        c.begin_ + c.len.toNat ≤ zbIoBufSize - size.toNat

/-- What is claimed of one operation, where its own assertion lets it through. -/
def ArithmeticGood (b : ZbBuf) (op : BufOp) : Prop :=
  ∀ c, bufStep b op = some c → Inside c ∧ c.data.length = c.len.toNat ∧ Effect b c op

/-- There is room behind the data. -/
def RoomBehind (b : ZbBuf) : BufOp → Prop
  | .allocRight size => size.toNat + b.len.toNat < zbIoBufSize →
      b.begin_ + b.len.toNat + size.toNat ≤ zbIoBufSize
  | _ => True

instance (b : ZbBuf) : (op : BufOp) → Decidable (RoomBehind b op)
  | .allocRight _ => inferInstanceAs (Decidable (_ → _))
  | .initialAlloc _ | .allocLeft _ | .cutLeft _ | .cutRight _ | .assignParam .. => isTrue trivial

/-! ## One operation -/

section Step

variable {b c : ZbBuf} {size : UInt8}

theorem inside_allocated (mem : Vector UInt8 zbIoBufSize) : Inside (allocated mem) := by
  simp [Inside, allocated, ZbBuf.begin_]

theorem length_data (inside : Inside b) : b.data.length = b.len.toNat :=
  PacketBuf.length_data inside

theorem initialAlloc_effect (taken : zbBufInitialAlloc size b = some c) :
    Inside c ∧ Effect b c (.initialAlloc size) := by
  unfold zbBufInitialAlloc at taken
  split at taken
  · rename_i fits
    cases taken
    have small : (zbIoBufSize - size.toNat) / 2 < 256 := by
      simp only [zbIoBufSize]
      omega
    have inside : Inside
        { b with len := size, dataOffset := UInt8.ofNat ((zbIoBufSize - size.toNat) / 2) } := by
      simp only [Inside, ZbBuf.begin_, UInt8.toNat_ofNat_of_lt' small]
      omega
    exact ⟨inside, length_data inside⟩
  · cases taken

theorem allocLeft_effect (inside : Inside b) (taken : zbBufSmartAllocLeft size b = some c) :
    Inside c ∧ Effect b c (.allocLeft size) := by
  obtain ⟨c', allocated, len, fits, data, place, -⟩ :=
    smartAllocLeft_spec (allocLeft_room taken) inside
  rw [taken] at allocated
  cases allocated
  refine ⟨fits, ⟨slice c.buf c.begin_ size.toNat, length_slice (by omega), ?_⟩, by omega⟩
  rw [data_eq_slice, len, slice_add, data]

theorem allocRight_effect
    (room : b.begin_ + b.len.toNat + size.toNat ≤ zbIoBufSize)
    (taken : (zbBufSmartAllocRight size b).map Prod.fst = some c) :
    Inside c ∧ Effect b c (.allocRight size) := by
  obtain ⟨⟨_, ptr⟩, allocated, rfl⟩ := Option.map_eq_some_iff.1 taken
  have less : size.toNat + b.len.toNat < zbIoBufSize := by
    by_contra full
    simp [zbBufSmartAllocRight, full] at allocated
  obtain ⟨c', allocated', mem, place, len⟩ := smartAllocRight_spec less
  rw [allocated] at allocated'
  cases allocated'
  dsimp only
  refine ⟨?_, ⟨slice b.buf (b.begin_ + b.len.toNat) size.toNat, length_slice (by omega), ?_⟩,
    place⟩
  · simp only [Inside, place, len]
    omega
  · rw [data_eq_slice, place, len, mem, slice_add, data_eq_slice]

theorem cutLeft_effect (inside : Inside b) (taken : zbBufCutLeft size b = some c) :
    Inside c ∧ Effect b c (.cutLeft size) := by
  have enough : size.toNat ≤ b.len.toNat := by
    by_contra short
    have not : ¬ size ≤ b.len := fun le => short (UInt8.le_iff_toNat_le.1 le)
    simp [zbBufCutLeft, not] at taken
  obtain ⟨c', cut, mem, place, len⟩ := cutLeft_spec enough inside
  rw [taken] at cut
  cases cut
  have fits : b.begin_ + b.len.toNat ≤ zbIoBufSize := inside
  refine ⟨?_, ⟨slice b.buf b.begin_ size.toNat, length_slice (by omega), ?_⟩, place⟩
  · simp only [Inside, place, len]
    omega
  · have whole : b.len.toNat = size.toNat + c.len.toNat := by omega
    rw [data_eq_slice, data_eq_slice, whole, slice_add, mem, place]

theorem cutRight_effect (inside : Inside b) (taken : zbBufCutRight size b = some c) :
    Inside c ∧ Effect b c (.cutRight size) := by
  unfold zbBufCutRight at taken
  split at taken
  · rename_i le
    cases taken
    have enough := UInt8.le_iff_toNat_le.1 le
    have len : (b.len - size).toNat = b.len.toNat - size.toNat := UInt8.toNat_sub_of_le _ _ le
    have fits : b.begin_ + b.len.toNat ≤ zbIoBufSize := inside
    refine ⟨?_, ⟨slice b.buf (b.begin_ + (b.len - size).toNat) size.toNat,
      length_slice (by omega), ?_⟩, rfl⟩
    · show b.begin_ + (b.len - size).toNat ≤ zbIoBufSize
      omega
    · have whole : b.len.toNat = (b.len - size).toNat + size.toNat := by omega
      rw [data_eq_slice, whole, slice_add]
      rfl
  · cases taken

/-- The data moved down by as much as the parameters lack. -/
theorem moveDown_spec (inside : Inside b) {delta : Nat} (enough : delta ≤ b.begin_) :
    ∃ mem, poke b.buf (b.begin_ - delta) b.data = some mem ∧
      (b.dataOffset - UInt8.ofNat delta).toNat = b.begin_ - delta ∧
      slice mem (b.begin_ - delta) b.len.toNat = b.data := by
  have len := length_data inside
  have fits : b.begin_ + b.len.toNat ≤ zbIoBufSize := inside
  obtain ⟨mem, poked, here, -⟩ := @poke_slices zbIoBufSize b.buf (b.begin_ - delta) b.data
    (by omega)
  rw [len] at here
  have small : delta < 256 := by
    have range := b.dataOffset.toNat_lt
    simp only [ZbBuf.begin_] at enough
    omega
  have le : UInt8.ofNat delta ≤ b.dataOffset := by
    rw [UInt8.le_iff_toNat_le, UInt8.toNat_ofNat_of_lt' small]
    exact enough
  refine ⟨mem, poked, ?_, here⟩
  rw [UInt8.toNat_sub_of_le _ _ le, UInt8.toNat_ofNat_of_lt' small]
  rfl

/-- The parameters are written where the data does not reach. -/
theorem writeTail_effect (room : b.begin_ + b.len.toNat + size.toNat ≤ zbIoBufSize)
    (param : Vector UInt8 size.toNat) :
    ∃ mem, poke b.buf (zbIoBufSize - size.toNat) param.toList = some mem ∧
      slice mem b.begin_ b.len.toNat = b.data ∧
      slice mem (zbIoBufSize - size.toNat) size.toNat = param.toList := by
  obtain ⟨mem, poked, here, before, -⟩ := @poke_slices zbIoBufSize b.buf
    (zbIoBufSize - size.toNat) param.toList (by simp; omega)
  refine ⟨mem, poked, before _ _ (by omega), ?_⟩
  simpa using here

theorem assignParam_effect {param : Vector UInt8 size.toNat} (inside : Inside b)
    (taken : zbBufAssignParam size param b = some c) :
    Inside c ∧ Effect b c (.assignParam size param) := by
  have fits : b.begin_ + b.len.toNat ≤ zbIoBufSize := inside
  have enough : ¬ zbIoBufSize < b.len.toNat + size.toNat := by
    intro full
    simp [zbBufAssignParam, full] at taken
  -- where the data lies when the parameters are written
  obtain ⟨d, prepared, room, sameLen, sameData⟩ : ∃ d : ZbBuf,
      (do
        let p ← zbGetBufTail size d
        let mem ← poke d.buf p param.toList
        return { d with buf := mem }) = some c ∧
      d.begin_ + d.len.toNat + size.toNat ≤ zbIoBufSize ∧ d.len = b.len ∧ d.data = b.data := by
    by_cases lacks : zbIoBufSize < b.begin_ + b.len.toNat + size.toNat
    · obtain ⟨mem, poked, place, data⟩ := moveDown_spec inside
        (show b.begin_ + b.len.toNat + size.toNat - zbIoBufSize ≤ b.begin_ by omega)
      simp only [zbBufAssignParam, if_neg enough, if_pos lacks, peek_slice fits, ← data_eq_slice,
        poked, Option.bind_eq_bind, Option.bind_some, Option.pure_def] at taken
      refine ⟨_, taken, ?_, rfl, ?_⟩
      · simp only [ZbBuf.begin_] at place ⊢
        rw [place]
        omega
      · rw [data_eq_slice]
        simp only [ZbBuf.begin_] at place ⊢
        rw [place]
        exact data
    · simp only [zbBufAssignParam, if_neg enough, if_neg lacks, Option.bind_eq_bind,
        Option.bind_some, Option.pure_def] at taken
      exact ⟨b, taken, by omega, rfl, rfl⟩
  have tail : zbGetBufTail size d = some (zbIoBufSize - size.toNat) := if_pos (by omega)
  obtain ⟨mem, poked, data, written⟩ := writeTail_effect room param
  rw [tail] at prepared
  simp only [Option.bind_eq_bind, Option.bind_some, poked, Option.pure_def,
    Option.some.injEq] at prepared
  subst prepared
  refine ⟨?_, ?_, written, ?_⟩
  · show d.begin_ + d.len.toNat ≤ zbIoBufSize
    omega
  · rw [← sameData]
    exact data
  · show d.begin_ + d.len.toNat ≤ zbIoBufSize - size.toNat
    omega

/-- **An operation with room behind the data** does what it should. -/
theorem effect_of_room {op : BufOp} (inside : Inside b) (room : RoomBehind b op)
    (taken : bufStep b op = some c) : Inside c ∧ Effect b c op := by
  cases op with
  | initialAlloc size => exact initialAlloc_effect taken
  | allocLeft size => exact allocLeft_effect inside taken
  | allocRight size =>
      refine allocRight_effect (room ?_) taken
      by_contra full
      simp [bufStep, zbBufSmartAllocRight, full] at taken
  | cutLeft size => exact cutLeft_effect inside taken
  | cutRight size => exact cutRight_effect inside taken
  | assignParam size param => exact assignParam_effect inside taken

/-- **An allocation on the right without room** leaves the buffer. -/
theorem room_of_inside {op : BufOp} (good : ArithmeticGood b op) : RoomBehind b op := by
  cases op with
  | allocRight size =>
      intro less
      obtain ⟨c, allocated, -, place, len⟩ := smartAllocRight_spec less
      have after := (good c (by rw [bufStep, allocated]; rfl)).1
      simp only [Inside, place, len] at after
      omega
  | initialAlloc size => trivial
  | allocLeft size => trivial
  | cutLeft size => trivial
  | cutRight size => trivial
  | assignParam size param => trivial

end Step

/-! ## Sequences -/

/-- **Packet-buffer arithmetic.**  Along a sequence of operations on a buffer whose
data lies inside of it, the data stays inside and each operation does to it what it should
exactly when no allocation on the right is larger than the space behind the data. -/
theorem arithmetic_iff {b : ZbBuf} (inside : Inside b) (ops : List BufOp) :
    Along bufStep ArithmeticGood b ops ↔ Along bufStep RoomBehind b ops := by
  have keeps : ∀ b op c, Inside b → ArithmeticGood b op → bufStep b op = some c → Inside c :=
    fun b op c _ good taken => (good c taken).1
  refine along_congr keeps ?_ inside
  · intro b op inside
    constructor
    · exact room_of_inside
    · intro room c taken
      obtain ⟨after, effect⟩ := effect_of_room inside room taken
      exact ⟨after, length_data after, effect⟩

/-- A frame that grows a header on each side, loses one and gets its parameters. -/
def framed : List BufOp :=
  [.initialAlloc 100, .allocLeft 30, .allocRight 10, .cutLeft 12,
    .assignParam 20 (Vector.replicate _ 1)]

theorem arithmetic_framed :
    Along bufStep ArithmeticGood (allocated (Vector.replicate _ 0)) framed :=
  (arithmetic_iff (inside_allocated _) framed).2 (by decide +kernel)

/-- **An allocation on the right leaves the buffer**: 100 bytes lie in the middle, 24 are
free behind them, and 40 are allocated. -/
theorem alloc_right_leaves_buffer :
    ¬ ∀ (b : ZbBuf) (ops : List BufOp), Inside b → Along bufStep ArithmeticGood b ops := by
  intro good
  have along := good (allocated (Vector.replicate _ 0)) [.initialAlloc 100, .allocRight 40]
    (inside_allocated _)
  have first : bufStep (allocated (Vector.replicate _ 0)) (.initialAlloc 100) =
      some ⟨Vector.replicate _ 0, 100, 24⟩ := rfl
  have second : bufStep ⟨Vector.replicate _ 0, 100, 24⟩ (.allocRight 40) =
      some ⟨Vector.replicate _ 0, 140, 24⟩ := rfl
  have after := ((along.2 _ first).1 _ second).1
  simp [Inside, ZbBuf.begin_, zbIoBufSize] at after

end Zboss.Common.PacketBufRun
