/-
# Mac.Fcs -- the frame check sequence

`zb_mac_fcs_add` of the simulator build; a real transceiver adds the check itself.  The loop over
the frame takes a word of the table for each octet; the result goes behind the frame, low byte
first.

`fcs_bitwise`: it is the check of `x^16 + x^12 + x^5 + 1` over the octets least significant bit
first, and a frame with its check behind it leaves nothing.  The table is compared with eight
shifts once, at all 256 octets (`table_shifts`); everything else is `Theory.Crc`.

Pole: `zbMacFcsAdd_data`, the check in the buffer.
-/
import Mathlib
import Zboss.Common.Constants
import Zboss.Theory.Crc
import Zboss.Common.PacketBuf

namespace Zboss.Mac.Fcs

open Zboss.Common.Constants
open Zboss.Theory.Crc
open Zboss.Common.PacketBuf
open Zboss.Secur.Ccm
open Zboss.Secur.CcmRoundTrip

set_option autoImplicit false

/-! ## The code -/

def table : Array UInt16 :=
  #[
    0x0000, 0x1189, 0x2312, 0x329B, 0x4624, 0x57AD, 0x6536, 0x74BF,
    0x8C48, 0x9DC1, 0xAF5A, 0xBED3, 0xCA6C, 0xDBE5, 0xE97E, 0xF8F7,
    0x1081, 0x0108, 0x3393, 0x221A, 0x56A5, 0x472C, 0x75B7, 0x643E,
    0x9CC9, 0x8D40, 0xBFDB, 0xAE52, 0xDAED, 0xCB64, 0xF9FF, 0xE876,
    0x2102, 0x308B, 0x0210, 0x1399, 0x6726, 0x76AF, 0x4434, 0x55BD,
    0xAD4A, 0xBCC3, 0x8E58, 0x9FD1, 0xEB6E, 0xFAE7, 0xC87C, 0xD9F5,
    0x3183, 0x200A, 0x1291, 0x0318, 0x77A7, 0x662E, 0x54B5, 0x453C,
    0xBDCB, 0xAC42, 0x9ED9, 0x8F50, 0xFBEF, 0xEA66, 0xD8FD, 0xC974,
    0x4204, 0x538D, 0x6116, 0x709F, 0x0420, 0x15A9, 0x2732, 0x36BB,
    0xCE4C, 0xDFC5, 0xED5E, 0xFCD7, 0x8868, 0x99E1, 0xAB7A, 0xBAF3,
    0x5285, 0x430C, 0x7197, 0x601E, 0x14A1, 0x0528, 0x37B3, 0x263A,
    0xDECD, 0xCF44, 0xFDDF, 0xEC56, 0x98E9, 0x8960, 0xBBFB, 0xAA72,
    0x6306, 0x728F, 0x4014, 0x519D, 0x2522, 0x34AB, 0x0630, 0x17B9,
    0xEF4E, 0xFEC7, 0xCC5C, 0xDDD5, 0xA96A, 0xB8E3, 0x8A78, 0x9BF1,
    0x7387, 0x620E, 0x5095, 0x411C, 0x35A3, 0x242A, 0x16B1, 0x0738,
    0xFFCF, 0xEE46, 0xDCDD, 0xCD54, 0xB9EB, 0xA862, 0x9AF9, 0x8B70,
    0x8408, 0x9581, 0xA71A, 0xB693, 0xC22C, 0xD3A5, 0xE13E, 0xF0B7,
    0x0840, 0x19C9, 0x2B52, 0x3ADB, 0x4E64, 0x5FED, 0x6D76, 0x7CFF,
    0x9489, 0x8500, 0xB79B, 0xA612, 0xD2AD, 0xC324, 0xF1BF, 0xE036,
    0x18C1, 0x0948, 0x3BD3, 0x2A5A, 0x5EE5, 0x4F6C, 0x7DF7, 0x6C7E,
    0xA50A, 0xB483, 0x8618, 0x9791, 0xE32E, 0xF2A7, 0xC03C, 0xD1B5,
    0x2942, 0x38CB, 0x0A50, 0x1BD9, 0x6F66, 0x7EEF, 0x4C74, 0x5DFD,
    0xB58B, 0xA402, 0x9699, 0x8710, 0xF3AF, 0xE226, 0xD0BD, 0xC134,
    0x39C3, 0x284A, 0x1AD1, 0x0B58, 0x7FE7, 0x6E6E, 0x5CF5, 0x4D7C,
    0xC60C, 0xD785, 0xE51E, 0xF497, 0x8028, 0x91A1, 0xA33A, 0xB2B3,
    0x4A44, 0x5BCD, 0x6956, 0x78DF, 0x0C60, 0x1DE9, 0x2F72, 0x3EFB,
    0xD68D, 0xC704, 0xF59F, 0xE416, 0x90A9, 0x8120, 0xB3BB, 0xA232,
    0x5AC5, 0x4B4C, 0x79D7, 0x685E, 0x1CE1, 0x0D68, 0x3FF3, 0x2E7A,
    0xE70E, 0xF687, 0xC41C, 0xD595, 0xA12A, 0xB0A3, 0x8238, 0x93B1,
    0x6B46, 0x7ACF, 0x4854, 0x59DD, 0x2D62, 0x3CEB, 0x0E70, 0x1FF9,
    0xF78F, 0xE606, 0xD49D, 0xC514, 0xB1AB, 0xA022, 0x92B9, 0x8330,
    0x7BC7, 0x6A4E, 0x58D5, 0x495C, 0x3DE3, 0x2C6A, 0x1EF1, 0x0F78
  ]

/-- The body of the loop. -/
def fcsStep (crc : UInt16) (p : UInt8) : UInt16 :=
  table.getD ((crc ^^^ p.toUInt16) &&& 0xFF).toNat 0 ^^^ crc >>> 8

def fcsOf (p : List UInt8) : UInt16 := p.foldl fcsStep 0

/-- FCS is necessary for the simulator build only. -/
def zbMacFcsAdd (b : ZbBuf) : Option ZbBuf := do
  let data ← peek b.buf b.begin_ b.len.toNat
  let (c, p) ← zbBufSmartAllocRight 2 b
  let mem ← poke c.buf p (uint16Bytes (fcsOf data))
  return { c with buf := mem }

/-! ## The check it is meant to be -/

/-- The bits of a frame in the order they are sent. -/
def frameBits (p : List UInt8) : List Bool := p.flatMap fun b => bitsFrom b.toBitVec 8

/-- CRC-16 of ITU-T: the register starts empty. -/
def crc16 (p : List UInt8) : BitVec 16 := check 0x1021#16 (frameBits p)

/-- The same polynomial, read from the other end. -/
def reflected : BitVec 16 := 0x8408#16

theorem reverse_poly : (0x1021#16).reverse = reflected := by decide

/-- **The table holds eight shifts** of every octet. -/
theorem table_shifts (i : Fin 256) :
    (table.getD i.val 0).toBitVec = shifts reflected 8 (BitVec.ofNat 16 i.val) := by
  revert i
  decide +kernel

/-- One octet by the table is its eight bits one by one. -/
theorem fcsStep_bits (crc : UInt16) (p : UInt8) :
    (fcsStep crc p).toBitVec =
      (bitsFrom p.toBitVec 8).foldl (feedLow reflected) crc.toBitVec := by
  have masked : ((crc ^^^ p.toUInt16) &&& 0xFF).toBitVec =
      (crc.toBitVec ^^^ p.toBitVec.setWidth 16) &&& 0xFF := rfl
  have lt : ((crc ^^^ p.toUInt16) &&& 0xFF).toNat < 256 := by
    rw [UInt16.toNat_and]
    exact lt_of_le_of_lt Nat.and_le_right (by decide)
  have word := table_shifts ⟨_, lt⟩
  have index : BitVec.ofNat 16 ((crc ^^^ p.toUInt16) &&& 0xFF).toNat =
      (crc.toBitVec ^^^ p.toBitVec.setWidth 16) &&& 0xFF := by
    rw [← masked, ← UInt16.toNat_toBitVec, BitVec.ofNat_toNat, BitVec.setWidth_eq]
  rw [index] at word
  rw [feedLow_octet reflected crc.toBitVec p.toBitVec (by decide), ← word]
  rfl

theorem foldl_fcsStep (p : List UInt8) (crc : UInt16) :
    (p.foldl fcsStep crc).toBitVec = (frameBits p).foldl (feedLow reflected) crc.toBitVec := by
  induction p generalizing crc with
  | nil => rfl
  | cons b p ih =>
      rw [List.foldl_cons, ih, fcsStep_bits, ← List.foldl_append]
      rfl

/-- The register of the code is that of the check, from the other end. -/
theorem fcsOf_crc16 (p : List UInt8) : (fcsOf p).toBitVec = (crc16 p).reverse := by
  rw [fcsOf, foldl_fcsStep, ← reverse_poly]
  exact foldl_feedLow_check 0x1021#16 (frameBits p)

/-- The two octets of a check are its bits, from the lowest on. -/
theorem frameBits_uint16Bytes (crc : UInt16) :
    frameBits (uint16Bytes crc) = bitsFrom crc.toBitVec 16 := by
  have low : bitsFrom crc.toUInt8.toBitVec 8 = bitsFrom crc.toBitVec 8 := by
    apply List.map_congr_left
    intro i mem
    have lt := List.mem_range.1 mem
    rw [UInt16.toBitVec_toUInt8, BitVec.getLsbD_setWidth, decide_eq_true lt, Bool.true_and]
  have high : bitsFrom (crc >>> 8).toUInt8.toBitVec 8 = (List.range 8).map fun i =>
      crc.toBitVec.getLsbD (8 + i) := by
    apply List.map_congr_left
    intro i mem
    have lt := List.mem_range.1 mem
    rw [UInt16.toBitVec_toUInt8, BitVec.getLsbD_setWidth, decide_eq_true lt, Bool.true_and,
      UInt16.toBitVec_shiftRight]
    exact BitVec.getLsbD_ushiftRight crc.toBitVec 8 i
  show bitsFrom _ 8 ++ (bitsFrom _ 8 ++ []) = _
  rw [low, high, List.append_nil]
  rfl

/-- **A frame and its check leave nothing.** -/
theorem fcsOf_append (p : List UInt8) : fcsOf (p ++ uint16Bytes (fcsOf p)) = 0 := by
  apply UInt16.toBitVec_inj.1
  rw [fcsOf, List.foldl_append, foldl_fcsStep, frameBits_uint16Bytes]
  exact feedLow_self reflected (fcsOf p).toBitVec

open Polynomial in
theorem divisor_itu : divisor 0x1021#16 = X ^ 16 + X ^ 12 + X ^ 5 + 1 := by
  have low : toPoly 0x1021#16 = X ^ 12 + X ^ 5 + 1 := by
    ext i
    rw [coeff_toPoly, coeff_add, coeff_add, coeff_X_pow, coeff_X_pow, coeff_one]
    rcases Nat.lt_or_ge i 16 with lt | ge
    · interval_cases i <;> decide
    · rw [BitVec.getLsbD_of_ge _ i ge, if_neg (by decide), if_neg (by omega), if_neg (by omega),
        if_neg (by omega)]
      rfl
  rw [divisor, low]
  ring

open Polynomial in
/-- **The table-driven check is the bitwise one.**  For every string, the word the table gives is
the register of a division bit by bit, read from the other end; that register holds the remainder
by `x^16 + x^12 + x^5 + 1`; and the string with its check behind it leaves nothing. -/
theorem fcs_bitwise (p : List UInt8) :
    (fcsOf p).toBitVec = (crc16 p).reverse ∧
      toPoly (crc16 p) = (message (frameBits p) * X ^ 16) %ₘ (X ^ 16 + X ^ 12 + X ^ 5 + 1) ∧
      fcsOf (p ++ uint16Bytes (fcsOf p)) = 0 := by
  refine ⟨fcsOf_crc16 p, ?_, fcsOf_append p⟩
  rw [← divisor_itu]
  exact check_eq_remainder 0x1021#16 (frameBits p) (by decide)

/-- The frame of a buffer stays, and its check goes behind it. -/
theorem zbMacFcsAdd_data {b : ZbBuf} (room : b.begin_ + b.len.toNat + 2 ≤ zbIoBufSize)
    (short : 2 + b.len.toNat < zbIoBufSize) :
    ∃ c, zbMacFcsAdd b = some c ∧ c.data = b.data ++ uint16Bytes (fcsOf b.data) ∧
      fcsOf c.data = 0 := by
  have inside : b.begin_ + b.len.toNat ≤ zbIoBufSize := by omega
  obtain ⟨c, allocated, buf, begins, len⟩ :=
    @smartAllocRight_spec 2 b short
  obtain ⟨mem, poked, here, before, -⟩ := @poke_slices zbIoBufSize c.buf (b.begin_ + b.len.toNat)
    (uint16Bytes (fcsOf b.data)) room
  have kept : slice mem b.begin_ b.len.toNat = b.data := by
    rw [before _ _ (le_refl _), buf]
    rfl
  have whole : { c with buf := mem }.data = b.data ++ uint16Bytes (fcsOf b.data) := by
    rw [data_eq_slice]
    show slice mem c.begin_ c.len.toNat = _
    rw [begins, len, slice_add, kept]
    exact congrArg (b.data ++ ·) here
  refine ⟨{ c with buf := mem }, ?_, whole, ?_⟩
  · rw [zbMacFcsAdd, peek_slice inside, Option.bind_eq_bind, Option.bind_some, allocated,
      Option.bind_eq_bind, Option.bind_some, ← data_eq_slice]
    show (poke c.buf (b.begin_ + b.len.toNat) (uint16Bytes (fcsOf b.data))).bind _ = _
    rw [poked]
    rfl
  · rw [whole]
    exact fcsOf_append b.data

end Zboss.Mac.Fcs
