/-
# Secur.Aes -- the block cipher of the software CCM*

`aes128` with its tables, `expand_key` and the steps of a round, as they stand in
memory: the expanded key is an array of 176 bytes, filled four at a time from what
stands 4 and 16 bytes before, and a read or a write outside of it is a stop.

The tables are the byte field's: `lookupG2_eq` and `lookupG3_eq` are products,
`lookupSbox_eq` an inversion and an affine map, `lookupRcon_eq` powers of `X`.
`nextWords_spec` is one word after another of the key schedule, `aes128_permutes` the
whole: AES-128 for every key, block and content of the array, which loses no block.
-/
import Mathlib
import Zboss.Theory.Rijndael
import Zboss.Secur.CcmRoundTrip

namespace Zboss.Secur.Aes

open Zboss.Theory
open Zboss.Theory.ByteField
open Zboss.Theory.CcmStar (Block xorBlock)
open Zboss.Secur.KeyMaterial
open Zboss.Secur.Ccm
open Zboss.Secur.CcmRoundTrip
open Zboss.Theory.Rijndael (Word word roundKey cipher tail inBlock inWord)

set_option autoImplicit false

/-! ## Lookup tables for the row shifts, rcon, s-boxes, and galois field multiplications -/

def shiftRowsTable : List Nat := [0, 5, 10, 15, 4, 9, 14, 3, 8, 13, 2, 7, 12, 1, 6, 11]

def lookupRcon : List UInt8 :=
  [0x8d, 0x01, 0x02, 0x04, 0x08, 0x10, 0x20, 0x40, 0x80, 0x1b, 0x36, 0x6c, 0xd8, 0xab, 0x4d, 0x9a]

def lookupSbox : List UInt8 :=
  [0x63, 0x7c, 0x77, 0x7b, 0xf2, 0x6b, 0x6f, 0xc5, 0x30, 0x01, 0x67, 0x2b, 0xfe, 0xd7, 0xab, 0x76,
   0xca, 0x82, 0xc9, 0x7d, 0xfa, 0x59, 0x47, 0xf0, 0xad, 0xd4, 0xa2, 0xaf, 0x9c, 0xa4, 0x72, 0xc0,
   0xb7, 0xfd, 0x93, 0x26, 0x36, 0x3f, 0xf7, 0xcc, 0x34, 0xa5, 0xe5, 0xf1, 0x71, 0xd8, 0x31, 0x15,
   0x04, 0xc7, 0x23, 0xc3, 0x18, 0x96, 0x05, 0x9a, 0x07, 0x12, 0x80, 0xe2, 0xeb, 0x27, 0xb2, 0x75,
   0x09, 0x83, 0x2c, 0x1a, 0x1b, 0x6e, 0x5a, 0xa0, 0x52, 0x3b, 0xd6, 0xb3, 0x29, 0xe3, 0x2f, 0x84,
   0x53, 0xd1, 0x00, 0xed, 0x20, 0xfc, 0xb1, 0x5b, 0x6a, 0xcb, 0xbe, 0x39, 0x4a, 0x4c, 0x58, 0xcf,
   0xd0, 0xef, 0xaa, 0xfb, 0x43, 0x4d, 0x33, 0x85, 0x45, 0xf9, 0x02, 0x7f, 0x50, 0x3c, 0x9f, 0xa8,
   0x51, 0xa3, 0x40, 0x8f, 0x92, 0x9d, 0x38, 0xf5, 0xbc, 0xb6, 0xda, 0x21, 0x10, 0xff, 0xf3, 0xd2,
   0xcd, 0x0c, 0x13, 0xec, 0x5f, 0x97, 0x44, 0x17, 0xc4, 0xa7, 0x7e, 0x3d, 0x64, 0x5d, 0x19, 0x73,
   0x60, 0x81, 0x4f, 0xdc, 0x22, 0x2a, 0x90, 0x88, 0x46, 0xee, 0xb8, 0x14, 0xde, 0x5e, 0x0b, 0xdb,
   0xe0, 0x32, 0x3a, 0x0a, 0x49, 0x06, 0x24, 0x5c, 0xc2, 0xd3, 0xac, 0x62, 0x91, 0x95, 0xe4, 0x79,
   0xe7, 0xc8, 0x37, 0x6d, 0x8d, 0xd5, 0x4e, 0xa9, 0x6c, 0x56, 0xf4, 0xea, 0x65, 0x7a, 0xae, 0x08,
   0xba, 0x78, 0x25, 0x2e, 0x1c, 0xa6, 0xb4, 0xc6, 0xe8, 0xdd, 0x74, 0x1f, 0x4b, 0xbd, 0x8b, 0x8a,
   0x70, 0x3e, 0xb5, 0x66, 0x48, 0x03, 0xf6, 0x0e, 0x61, 0x35, 0x57, 0xb9, 0x86, 0xc1, 0x1d, 0x9e,
   0xe1, 0xf8, 0x98, 0x11, 0x69, 0xd9, 0x8e, 0x94, 0x9b, 0x1e, 0x87, 0xe9, 0xce, 0x55, 0x28, 0xdf,
   0x8c, 0xa1, 0x89, 0x0d, 0xbf, 0xe6, 0x42, 0x68, 0x41, 0x99, 0x2d, 0x0f, 0xb0, 0x54, 0xbb, 0x16]

def lookupG2 : List UInt8 :=
  [0x00, 0x02, 0x04, 0x06, 0x08, 0x0a, 0x0c, 0x0e, 0x10, 0x12, 0x14, 0x16, 0x18, 0x1a, 0x1c, 0x1e,
   0x20, 0x22, 0x24, 0x26, 0x28, 0x2a, 0x2c, 0x2e, 0x30, 0x32, 0x34, 0x36, 0x38, 0x3a, 0x3c, 0x3e,
   0x40, 0x42, 0x44, 0x46, 0x48, 0x4a, 0x4c, 0x4e, 0x50, 0x52, 0x54, 0x56, 0x58, 0x5a, 0x5c, 0x5e,
   0x60, 0x62, 0x64, 0x66, 0x68, 0x6a, 0x6c, 0x6e, 0x70, 0x72, 0x74, 0x76, 0x78, 0x7a, 0x7c, 0x7e,
   0x80, 0x82, 0x84, 0x86, 0x88, 0x8a, 0x8c, 0x8e, 0x90, 0x92, 0x94, 0x96, 0x98, 0x9a, 0x9c, 0x9e,
   0xa0, 0xa2, 0xa4, 0xa6, 0xa8, 0xaa, 0xac, 0xae, 0xb0, 0xb2, 0xb4, 0xb6, 0xb8, 0xba, 0xbc, 0xbe,
   0xc0, 0xc2, 0xc4, 0xc6, 0xc8, 0xca, 0xcc, 0xce, 0xd0, 0xd2, 0xd4, 0xd6, 0xd8, 0xda, 0xdc, 0xde,
   0xe0, 0xe2, 0xe4, 0xe6, 0xe8, 0xea, 0xec, 0xee, 0xf0, 0xf2, 0xf4, 0xf6, 0xf8, 0xfa, 0xfc, 0xfe,
   0x1b, 0x19, 0x1f, 0x1d, 0x13, 0x11, 0x17, 0x15, 0x0b, 0x09, 0x0f, 0x0d, 0x03, 0x01, 0x07, 0x05,
   0x3b, 0x39, 0x3f, 0x3d, 0x33, 0x31, 0x37, 0x35, 0x2b, 0x29, 0x2f, 0x2d, 0x23, 0x21, 0x27, 0x25,
   0x5b, 0x59, 0x5f, 0x5d, 0x53, 0x51, 0x57, 0x55, 0x4b, 0x49, 0x4f, 0x4d, 0x43, 0x41, 0x47, 0x45,
   0x7b, 0x79, 0x7f, 0x7d, 0x73, 0x71, 0x77, 0x75, 0x6b, 0x69, 0x6f, 0x6d, 0x63, 0x61, 0x67, 0x65,
   0x9b, 0x99, 0x9f, 0x9d, 0x93, 0x91, 0x97, 0x95, 0x8b, 0x89, 0x8f, 0x8d, 0x83, 0x81, 0x87, 0x85,
   0xbb, 0xb9, 0xbf, 0xbd, 0xb3, 0xb1, 0xb7, 0xb5, 0xab, 0xa9, 0xaf, 0xad, 0xa3, 0xa1, 0xa7, 0xa5,
   0xdb, 0xd9, 0xdf, 0xdd, 0xd3, 0xd1, 0xd7, 0xd5, 0xcb, 0xc9, 0xcf, 0xcd, 0xc3, 0xc1, 0xc7, 0xc5,
   0xfb, 0xf9, 0xff, 0xfd, 0xf3, 0xf1, 0xf7, 0xf5, 0xeb, 0xe9, 0xef, 0xed, 0xe3, 0xe1, 0xe7, 0xe5]

def lookupG3 : List UInt8 :=
  [0x00, 0x03, 0x06, 0x05, 0x0c, 0x0f, 0x0a, 0x09, 0x18, 0x1b, 0x1e, 0x1d, 0x14, 0x17, 0x12, 0x11,
   0x30, 0x33, 0x36, 0x35, 0x3c, 0x3f, 0x3a, 0x39, 0x28, 0x2b, 0x2e, 0x2d, 0x24, 0x27, 0x22, 0x21,
   0x60, 0x63, 0x66, 0x65, 0x6c, 0x6f, 0x6a, 0x69, 0x78, 0x7b, 0x7e, 0x7d, 0x74, 0x77, 0x72, 0x71,
   0x50, 0x53, 0x56, 0x55, 0x5c, 0x5f, 0x5a, 0x59, 0x48, 0x4b, 0x4e, 0x4d, 0x44, 0x47, 0x42, 0x41,
   0xc0, 0xc3, 0xc6, 0xc5, 0xcc, 0xcf, 0xca, 0xc9, 0xd8, 0xdb, 0xde, 0xdd, 0xd4, 0xd7, 0xd2, 0xd1,
   0xf0, 0xf3, 0xf6, 0xf5, 0xfc, 0xff, 0xfa, 0xf9, 0xe8, 0xeb, 0xee, 0xed, 0xe4, 0xe7, 0xe2, 0xe1,
   0xa0, 0xa3, 0xa6, 0xa5, 0xac, 0xaf, 0xaa, 0xa9, 0xb8, 0xbb, 0xbe, 0xbd, 0xb4, 0xb7, 0xb2, 0xb1,
   0x90, 0x93, 0x96, 0x95, 0x9c, 0x9f, 0x9a, 0x99, 0x88, 0x8b, 0x8e, 0x8d, 0x84, 0x87, 0x82, 0x81,
   0x9b, 0x98, 0x9d, 0x9e, 0x97, 0x94, 0x91, 0x92, 0x83, 0x80, 0x85, 0x86, 0x8f, 0x8c, 0x89, 0x8a,
   0xab, 0xa8, 0xad, 0xae, 0xa7, 0xa4, 0xa1, 0xa2, 0xb3, 0xb0, 0xb5, 0xb6, 0xbf, 0xbc, 0xb9, 0xba,
   0xfb, 0xf8, 0xfd, 0xfe, 0xf7, 0xf4, 0xf1, 0xf2, 0xe3, 0xe0, 0xe5, 0xe6, 0xef, 0xec, 0xe9, 0xea,
   0xcb, 0xc8, 0xcd, 0xce, 0xc7, 0xc4, 0xc1, 0xc2, 0xd3, 0xd0, 0xd5, 0xd6, 0xdf, 0xdc, 0xd9, 0xda,
   0x5b, 0x58, 0x5d, 0x5e, 0x57, 0x54, 0x51, 0x52, 0x43, 0x40, 0x45, 0x46, 0x4f, 0x4c, 0x49, 0x4a,
   0x6b, 0x68, 0x6d, 0x6e, 0x67, 0x64, 0x61, 0x62, 0x73, 0x70, 0x75, 0x76, 0x7f, 0x7c, 0x79, 0x7a,
   0x3b, 0x38, 0x3d, 0x3e, 0x37, 0x34, 0x31, 0x32, 0x23, 0x20, 0x25, 0x26, 0x2f, 0x2c, 0x29, 0x2a,
   0x0b, 0x08, 0x0d, 0x0e, 0x07, 0x04, 0x01, 0x02, 0x13, 0x10, 0x15, 0x16, 0x1f, 0x1c, 0x19, 0x1a]

/-! ## The steps -/

/-- Xor's all elements in an array `a` by those of `b`. -/
def xor {n : Nat} (a b : Vector UInt8 n) : Vector UInt8 n :=
  Vector.ofFn fun i => a.get i ^^^ b.get i

/-- Reads of `len` bytes of the expanded key. -/
def memcpy (len : Nat) (keys : Vector UInt8 176) (at_ : Nat) : Option (Vector UInt8 len) :=
  (peek keys at_ len).map fun bytes => Vector.ofFn fun i => bytes.getD i.val 0

/-- Xor the current cipher state by a specific round key. -/
def xorRoundKey (state : Block) (keys : Vector UInt8 176) (round : Nat) : Option Block := do
  let key ← memcpy 16 keys (round * 16)
  some (xor state key)

def subBytes {n : Nat} (a : Vector UInt8 n) : Vector UInt8 n :=
  a.map fun v => lookupSbox.getD v.toNat 0

/-- The core key schedule transform on 4 bytes. -/
def keyScheduleCore (a : Word) (i : Nat) : Option Word := do
  let rcon ← lookupRcon[i]?
  let rotated : Word := Vector.ofFn fun k => a.get (inWord (k.val + 1))
  let s := subBytes rotated
  some (Vector.ofFn fun k => if k.val = 0 then s.get k ^^^ rcon else s.get k)

/-- `t` is exclusive-or'd with the four bytes 16 bytes before, and becomes the next four. -/
def storeNext (keys : Vector UInt8 176) (bytes : Nat) (t : Word) : Option (Vector UInt8 176) := do
  let before ← memcpy 4 keys (bytes - 16)
  poke keys bytes (xor t before).toList

/-- The second stage, `j` times. -/
def nextWords : Nat → Vector UInt8 176 → Nat → Option (Vector UInt8 176)
  | 0, keys, _ => some keys
  | j + 1, keys, bytes => do
      let t ← memcpy 4 keys (bytes - 4)
      let keys ← storeNext keys bytes t
      nextWords j keys (bytes + 4)

/-- Until there are 176 bytes. -/
def expandLoop (keys : Vector UInt8 176) (bytes i : Nat) : Option (Vector UInt8 176) :=
  if bytes < 176 then do
    let t ← memcpy 4 keys (bytes - 4)
    let t ← keyScheduleCore t i
    let keys ← storeNext keys bytes t
    let keys ← nextWords 3 keys (bytes + 4)
    expandLoop keys (bytes + 16) (i + 1)
  else some keys
  termination_by 176 - bytes

/-- Expand the 16 byte key to 11 round keys (176 bytes). -/
def expandKey (key : ZbKey) (keys : Vector UInt8 176) : Option (Vector UInt8 176) := do
  let keys ← poke keys 0 key.toList
  expandLoop keys 16 1

def shiftRows (state : Block) : Block :=
  Vector.ofFn fun i => state.get (inBlock (shiftRowsTable.getD i.val 0))

def lookup (table : List UInt8) (v : UInt8) : UInt8 := table.getD v.toNat 0

/-- The mix columns matrix on one column of 4 bytes. -/
def mixCol (state : Word) : Word :=
  let a0 := state.get (inWord 0)
  let a1 := state.get (inWord 1)
  let a2 := state.get (inWord 2)
  let a3 := state.get (inWord 3)
  Vector.ofFn fun r =>
    [lookup lookupG2 a0 ^^^ lookup lookupG3 a1 ^^^ a2 ^^^ a3,
      lookup lookupG2 a1 ^^^ lookup lookupG3 a2 ^^^ a3 ^^^ a0,
      lookup lookupG2 a2 ^^^ lookup lookupG3 a3 ^^^ a0 ^^^ a1,
      lookup lookupG2 a3 ^^^ lookup lookupG3 a0 ^^^ a1 ^^^ a2].getD r.val 0

/-- Each column of the 16 bytes. -/
def mixCols (state : Block) : Block :=
  Vector.ofFn fun i =>
    (mixCol (Vector.ofFn fun r => state.get (inBlock (4 * (i.val / 4) + r.val)))).get
      (inWord i.val)

/-- The middle rounds. -/
def middleRounds (keys : Vector UInt8 176) (c : Block) : Nat → Option Block
  | 0 => some c
  | i + 1 => do
      let c ← middleRounds keys c i
      xorRoundKey (mixCols (shiftRows (subBytes c))) keys (i + 1)

/-- Encrypt a single 128 bit block by a 128 bit key; `keys` is the local array. -/
def aes128 (keys : Vector UInt8 176) (key : ZbKey) (msg : Block) : Option Block := do
  let keys ← expandKey key keys
  let c ← xorRoundKey msg keys 0
  let c ← middleRounds keys c 9
  xorRoundKey (shiftRows (subBytes c)) keys 10

/-! ## The tables -/

/-- What every entry of a table has with its place. -/
theorem lookup_all {table : List UInt8} {p : UInt8 → UInt8 → Prop} (whole : table.length = 256)
    (all : ∀ e ∈ table.zipIdx, p (UInt8.ofNat e.2) e.1) (v : UInt8) : p v (lookup table v) := by
  have inside : v.toNat < table.length := by
    rw [whole]
    exact v.toNat_lt
  have entry := all (table[v.toNat], v.toNat) (by simp [List.mem_iff_getElem?, inside])
  rw [UInt8.ofNat_toNat] at entry
  rwa [lookup, List.getD_eq_getElem _ _ inside]

/-- The entries: behind the affine map an inverse, and the first two multiples. -/
theorem tables_checked :
    (lookupSbox.length = 256 ∧ ∀ e ∈ lookupSbox.zipIdx, UInt8.ofNat e.2 ≠ 0 →
        mul tail (UInt8.ofNat e.2) (Rijndael.invAffine e.1) = 1) ∧
      (lookupG2.length = 256 ∧ ∀ e ∈ lookupG2.zipIdx, e.1 = xtime tail (UInt8.ofNat e.2)) ∧
      (lookupG3.length = 256 ∧
        ∀ e ∈ lookupG3.zipIdx, e.1 = xtime tail (UInt8.ofNat e.2) ^^^ UInt8.ofNat e.2) := by
  decide +kernel

theorem lookupG2_eq (v : UInt8) : lookup lookupG2 v = mul tail 2 v := by
  rw [mul_byte_two]
  exact @lookup_all _ (fun v g => g = xtime tail v) tables_checked.2.1.1 tables_checked.2.1.2 v

theorem lookupG3_eq (v : UInt8) : lookup lookupG3 v = mul tail 3 v := by
  rw [mul_byte_three]
  exact @lookup_all _ (fun v g => g = xtime tail v ^^^ v) tables_checked.2.2.1 tables_checked.2.2.2 v

theorem lookupSbox_inverse (v : UInt8) :
    v ≠ 0 → mul tail v (Rijndael.invAffine (lookup lookupSbox v)) = 1 :=
  @lookup_all _ (fun v s => v ≠ 0 → mul tail v (Rijndael.invAffine s) = 1) tables_checked.1.1
    tables_checked.1.2 v

theorem lookupSbox_eq (v : UInt8) : lookup lookupSbox v = Rijndael.subByte v := by
  rw [Rijndael.subByte]
  by_cases zero : v = 0
  · rw [zero, Rijndael.inv_zero]
    decide
  · rw [Rijndael.inv_unique (lookupSbox_inverse v zero), Rijndael.affine_invAffine]

theorem lookupRcon_eq (n : Nat) (round : n < 10) :
    lookupRcon[n + 1]? = some ((xtime tail)^[n] 1) := by
  have all : ∀ n < 10, lookupRcon[n + 1]? = some ((xtime tail)^[n] 1) := by decide
  exact all n round

/-! ## The steps are those of the cipher -/

theorem get_ofFn {n : Nat} (f : Fin n → UInt8) (i : Fin n) : (Vector.ofFn f).get i = f i := by
  simp only [Vector.get, Vector.toArray_ofFn, Array.getElem_ofFn]
  rfl

theorem get_map {n : Nat} (f : UInt8 → UInt8) (a : Vector UInt8 n) (i : Fin n) :
    (a.map f).get i = f (a.get i) := by
  simp [Vector.get]

theorem subBytes_eq (state : Block) : subBytes state = Rijndael.subBytes state := by
  rw [subBytes, Rijndael.subBytes]
  congr 1
  funext v
  exact lookupSbox_eq v

theorem shiftRows_eq (state : Block) : shiftRows state = Rijndael.shiftRows state := by
  have rows : ∀ k < 16, shiftRowsTable.getD k 0 % 16 = (k + 4 * (1 * (k % 4))) % 16 := by decide
  rw [shiftRows, Rijndael.shiftRows, Rijndael.rotateRows]
  congr 1
  funext k
  exact Rijndael.get_congr state (rows k.val k.isLt)

theorem one_mul_byte (v : UInt8) : mul tail 1 v = v := by
  apply @value_inj tail
  rw [value_mul, value_one, one_mul]

theorem mixCol_get (w : Word) (r : Fin 4) :
    (mixCol w).get r =
      mul tail 2 (w.get r) ^^^ mul tail 3 (w.get (r + 1)) ^^^ w.get (r + 2) ^^^ w.get (r + 3) := by
  simp only [mixCol, lookupG2_eq, lookupG3_eq]
  match r with
  | 0 | 1 | 2 | 3 => rfl

theorem mixCols_eq (state : Block) : mixCols state = Rijndael.mixColumns state := by
  rw [mixCols, Rijndael.mixColumns, Rijndael.mixBy]
  congr 1
  funext k
  have row : ∀ d : Fin 4,
      (Vector.ofFn fun r : Fin 4 => state.get (inBlock (4 * (k.val / 4) + r.val))).get
        (inWord k.val + d) = Rijndael.below state k.val d.val := by
    intro d
    have place : (inWord k.val + d).val = (k.val + d.val) % 4 := by
      simp [Fin.val_add, inWord]
    rw [Rijndael.below, ← place, get_ofFn]
  have first := row 0
  rw [add_zero] at first
  rw [mixCol_get, first, row 1, row 2, row 3, one_mul_byte, one_mul_byte]
  rfl

theorem keyScheduleCore_eq (a : Word) (n : Nat) (round : n < 10) :
    keyScheduleCore a (n + 1) = some (Rijndael.core n a) := by
  simp only [keyScheduleCore, lookupRcon_eq n round, Option.bind_eq_bind, Option.bind_some,
    Option.some_inj, Rijndael.core]
  congr 1
  funext k
  have sub : (subBytes (Vector.ofFn fun j : Fin 4 => a.get (inWord (j.val + 1)))).get k =
      Rijndael.subByte (a.get (inWord (k.val + 1))) := by
    rw [← lookupSbox_eq, subBytes, get_map, get_ofFn]
    rfl
  rw [sub]
  split
  · rfl
  · exact UInt8.xor_zero.symm

/-! ## The expanded key -/

/-- The first `n` words of the schedule stand in the array. -/
def Expanded (key : ZbKey) (n : Nat) (keys : Vector UInt8 176) : Prop :=
  ∀ i < n, slice keys (4 * i) 4 = (word key i).toList

section Expansion

variable {key : ZbKey} {n : Nat} {keys : Vector UInt8 176}

/-- A copy of what stands there. -/
theorem memcpy_eq {len at_ : Nat} {bytes : Vector UInt8 len} (fits : at_ + len ≤ 176)
    (here : slice keys at_ len = bytes.toList) : memcpy len keys at_ = some bytes := by
  rw [memcpy, peek_slice fits, here, Option.map_some, Option.some_inj]
  apply Vector.ext
  intro i inside
  simp

theorem Expanded.memcpy (expanded : Expanded key n keys) {i : Nat} (before : i < n) (fits : n ≤ 44) :
    memcpy 4 keys (4 * i) = some (word key i) :=
  memcpy_eq (by omega) (expanded i before)

/-- **The next word**, made of the one before it and the one four before it. -/
theorem storeNext_spec (expanded : Expanded key (n + 4) keys) (room : n + 4 < 44) (t : Word)
    (next : Rijndael.xorWord (word key n) t = word key (n + 4)) :
    ∃ keys' : Vector UInt8 176, storeNext keys (4 * (n + 4)) t = some keys' ∧
      Expanded key (n + 5) keys' := by
  have back : 4 * (n + 4) - 16 = 4 * n := by omega
  have before := expanded.memcpy (by omega : n < n + 4) (by omega)
  have sum : xor t (word key n) = word key (n + 4) := by
    rw [← next, xor, Rijndael.xorWord]
    congr 1
    funext k
    exact UInt8.xor_comm _ _
  obtain ⟨keys', poked, here, kept, -⟩ :=
    @poke_slices 176 keys (4 * (n + 4)) (word key (n + 4)).toList (by simp; omega)
  refine ⟨keys', ?_, ?_⟩
  · rw [storeNext, back, before]
    simp only [Option.bind_eq_bind, Option.bind_some, sum, poked]
  · intro i below
    rcases Nat.lt_or_ge i (n + 4) with old | new
    · rw [kept _ _ (by omega), expanded i old]
    · obtain rfl : i = n + 4 := by omega
      rw [← here, Vector.length_toList]

/-- **The second stage**: words whose number is no multiple of four. -/
theorem nextWords_spec (expanded : Expanded key (n + 4) keys) (j : Nat) (inside : n % 4 + j ≤ 4)
    (later : 0 < n % 4 ∨ j = 0) (room : n + 4 + j ≤ 44) :
    ∃ keys' : Vector UInt8 176, nextWords j keys (4 * (n + 4)) = some keys' ∧
      Expanded key (n + 4 + j) keys' := by
  induction j generalizing n keys with
  | zero => exact ⟨keys, rfl, expanded⟩
  | succ j ih =>
      have plain : n % 4 ≠ 0 := by omega
      have back : 4 * (n + 4) - 4 = 4 * (n + 3) := by omega
      have last := expanded.memcpy (by omega : n + 3 < n + 4) (by omega)
      obtain ⟨keys₁, stored, more⟩ := storeNext_spec expanded (by omega) (word key (n + 3))
        (by rw [Rijndael.word_add_four, if_neg plain])
      have next : 4 * (n + 4) + 4 = 4 * (n + 1 + 4) := by omega
      obtain ⟨keys', ran, all⟩ := ih more (by omega) (by omega) (by omega)
      refine ⟨keys', ?_, ?_⟩
      · rw [nextWords, back, last]
        simp only [Option.bind_eq_bind, Option.bind_some, stored]
        rw [next, ran]
      · have count : n + 4 + (j + 1) = n + 1 + 4 + j := by omega
        rwa [count]

/-- **Rounds of four words, until the array is full.** -/
theorem expandLoop_spec (r : Nat) (expanded : Expanded key (4 * r + 4) keys) (room : r ≤ 10) :
    ∃ keys' : Vector UInt8 176, expandLoop keys (16 * (r + 1)) (r + 1) = some keys' ∧
      Expanded key 44 keys' := by
  induction left : 10 - r generalizing r keys with
  | zero =>
      have full : ¬ 16 * (r + 1) < 176 := by omega
      have whole : 4 * r + 4 = 44 := by omega
      rw [expandLoop, if_neg full]
      exact ⟨keys, rfl, whole ▸ expanded⟩
  | succ k ih =>
      have more : 16 * (r + 1) < 176 := by omega
      have back : 16 * (r + 1) - 4 = 4 * (4 * r + 3) := by omega
      have start : 16 * (r + 1) = 4 * (4 * r + 4) := by omega
      have last := expanded.memcpy (by omega : 4 * r + 3 < 4 * r + 4) (by omega)
      have first : 4 * r % 4 = 0 := by omega
      have number : 4 * r / 4 = r := by omega
      obtain ⟨keys₁, stored, one⟩ :=
        storeNext_spec expanded (by omega) (Rijndael.core r (word key (4 * r + 3)))
          (by rw [Rijndael.word_add_four, if_pos first, number])
      obtain ⟨keys₂, three, four⟩ := @nextWords_spec key (4 * r + 1) keys₁ one 3 (by omega) (by omega)
        (by omega)
      obtain ⟨keys', ran, all⟩ := ih (r + 1) four (by omega) (by omega)
      refine ⟨keys', ?_, all⟩
      have next : 4 * (4 * r + 4) + 4 = 4 * (4 * r + 1 + 4) := by omega
      have round : 16 * (r + 1) + 16 = 16 * (r + 1 + 1) := by omega
      rw [expandLoop, if_pos more, back, last]
      simp only [Option.bind_eq_bind, Option.bind_some, keyScheduleCore_eq _ r (by omega)]
      rw [start, stored]
      simp only [Option.bind_some]
      rw [next, three]
      simp only [Option.bind_some]
      rw [← start, round, ran]

/-- The key itself is the first four words. -/
theorem slice_key {before : Vector UInt8 176} (poked : poke before 0 key.toList = some keys) :
    Expanded key 4 keys := by
  obtain ⟨keys', poked', here, -⟩ := @poke_slices 176 before 0 key.toList (by simp)
  obtain rfl : keys = keys' := Option.some.inj (poked.symm.trans poked')
  rw [Vector.length_toList] at here
  intro i below
  have part : slice keys (4 * i) 4 = (key.toList.drop (4 * i)).take 4 := by
    rw [← here, slice, slice, List.drop_take, List.take_take, Nat.min_eq_left (by omega),
      List.drop_drop, Nat.zero_add]
  rw [part, Rijndael.word_key key i below]
  apply List.ext_getElem
  · simp
    omega
  · intro j lt lt'
    simp only [Vector.length_toList] at lt'
    rw [List.getElem_take, List.getElem_drop, Vector.getElem_toList, Vector.getElem_toList,
      Vector.getElem_ofFn, Rijndael.get_eq _ _ (by omega)]

theorem expandKey_spec (key : ZbKey) (keys : Vector UInt8 176) :
    ∃ keys' : Vector UInt8 176, expandKey key keys = some keys' ∧ Expanded key 44 keys' := by
  obtain ⟨keys₁, poked, -⟩ := @poke_spec 176 keys 0 key.toList (by simp)
  have four : Expanded key (4 * 0 + 4) keys₁ := slice_key poked
  obtain ⟨keys', ran, all⟩ := expandLoop_spec 0 four (by omega)
  rw [Nat.zero_add, Nat.mul_one] at ran
  exact ⟨keys', Option.bind_eq_some_iff.2 ⟨keys₁, poked, ran⟩, all⟩

theorem slice_getElem? {at_ len j : Nat} (inside : j < len) :
    (slice keys at_ len)[j]? = keys.toList[at_ + j]? := by
  rw [slice, List.getElem?_take_of_lt inside, List.getElem?_drop]

/-- Sixteen bytes of the array are a round key. -/
theorem Expanded.roundKey (expanded : Expanded key 44 keys) {round : Nat} (inside : round ≤ 10) :
    Aes.memcpy 16 keys (round * 16) = some (roundKey key round) := by
  apply memcpy_eq (by omega)
  apply List.ext_getElem?
  intro j
  rcases Nat.lt_or_ge j 16 with here | beyond
  · have place : round * 16 + j = 4 * (4 * round + j / 4) + j % 4 := by omega
    have column : j % 4 < 4 := Nat.mod_lt _ (by decide)
    have byte := congrArg (·[j % 4]?) (expanded (4 * round + j / 4) (by omega))
    simp only [slice_getElem? column] at byte
    rw [slice_getElem? here, place, byte]
    simp [Rijndael.roundKey, here, column, Vector.get, inWord]
  · rw [List.getElem?_eq_none (by rw [length_slice (by omega)]; omega),
      List.getElem?_eq_none (by rw [Vector.length_toList]; omega)]

end Expansion

/-! ## The cipher -/

section Cipher

variable {key : ZbKey} {keys : Vector UInt8 176}

theorem xorRoundKey_spec (expanded : Expanded key 44 keys) (state : Block) {round : Nat}
    (inside : round ≤ 10) :
    xorRoundKey state keys round = some (xorBlock state (roundKey key round)) := by
  rw [xorRoundKey, expanded.roundKey inside]
  rfl

theorem middleRounds_spec (expanded : Expanded key 44 keys) (msg : Block) (n : Nat)
    (inside : n ≤ 10) :
    middleRounds keys (xorBlock msg (roundKey key 0)) n =
      some (Rijndael.rounds (roundKey key) n msg) := by
  induction n with
  | zero => rfl
  | succ n ih =>
      rw [middleRounds, ih (by omega)]
      simp only [Option.bind_eq_bind, Option.bind_some]
      rw [xorRoundKey_spec expanded _ inside, subBytes_eq, shiftRows_eq, mixCols_eq]
      rfl

/-- **The table-driven cipher is AES-128**, for every key and block, whatever the local
array held: no read or write leaves an array, and the blocks are permuted. -/
theorem aes128_permutes (key : ZbKey) :
    ∃ perm : Equiv.Perm Block, (∀ msg, perm msg = cipher key msg) ∧
      ∀ (keys : Vector UInt8 176) (msg : Block), aes128 keys key msg = some (perm msg) := by
  refine ⟨Rijndael.cipherPerm key, fun _ => rfl, fun keys msg => ?_⟩
  obtain ⟨keys', expanded, all⟩ := expandKey_spec key keys
  have first : xorRoundKey msg keys' 0 = some (xorBlock msg (roundKey key 0)) :=
    xorRoundKey_spec all msg (by omega)
  have middle := middleRounds_spec all msg 9 (by omega)
  refine Option.bind_eq_some_iff.2 ⟨keys', expanded, Option.bind_eq_some_iff.2 ⟨_, first,
    Option.bind_eq_some_iff.2 ⟨_, middle, ?_⟩⟩⟩
  rw [xorRoundKey_spec all _ (by omega), subBytes_eq, shiftRows_eq]
  rfl

end Cipher

end Zboss.Secur.Aes
