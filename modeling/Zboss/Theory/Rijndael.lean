/-
# Theory.Rijndael -- AES-128 and its inverse

The cipher on blocks of sixteen bytes, by columns, as it is defined over the byte
field: `subByte` is an inversion and an affine map, `shiftRows` a rotation of each
row by its number, `mixColumns` a circulant matrix, and `word` the recurrence of the
key schedule.  There are no tables.

`decipher` undoes the steps in the other order, so that a key is a permutation of
the blocks (`cipherPerm`).  The inverse of the column matrix comes down to four
products in the byte field (`mixBy_mixBy`).
-/
import Mathlib
import Zboss.Theory.ByteField
import Zboss.Theory.CcmStar

namespace Zboss.Theory.Rijndael

open Zboss.Theory.ByteField
open Zboss.Theory.CcmStar (Block xorBlock xorBlock_getElem)

set_option autoImplicit false

abbrev Word := Vector UInt8 4

/-- `X^8 = X^4 + X^3 + X + 1`. -/
def tail : UInt8 := 0x1b

/-! ## Bytes -/

/-- The product of the `n` squares `a^2`, `a^4`, .. -/
def squares : Nat → UInt8 → UInt8
  | 0, _ => 1
  | n + 1, a => mul tail (mul tail a a) (squares n (mul tail a a))

/-- `a^254`: the inverse, and zero for zero. -/
def inv (a : UInt8) : UInt8 := squares 7 a

def rotl (a n : UInt8) : UInt8 := (a <<< n) ||| (a >>> (8 - n))

def affine (a : UInt8) : UInt8 := a ^^^ rotl a 1 ^^^ rotl a 2 ^^^ rotl a 3 ^^^ rotl a 4 ^^^ 0x63

def invAffine (b : UInt8) : UInt8 := rotl b 1 ^^^ rotl b 3 ^^^ rotl b 6 ^^^ 0x05

def subByte (a : UInt8) : UInt8 := affine (inv a)

def invSubByte (b : UInt8) : UInt8 := inv (invAffine b)

/-- A property of every byte, byte after byte. -/
theorem forall_byte {p : UInt8 → Prop} (all : ∀ n, n < 256 → p (UInt8.ofNat n)) (a : UInt8) :
    p a := by
  have here := all a.toNat a.toNat_lt
  rwa [UInt8.ofNat_toNat] at here

section Bytes

variable {a b : UInt8}

theorem value_inv (a : UInt8) : value tail (inv a) = value tail a ^ 254 := by
  have squared : ∀ n, ∀ a, value tail (squares n a) = value tail a ^ (2 ^ (n + 1) - 2) := by
    intro n
    induction n with
    | zero => intro a; rw [squares, value_one]; rfl
    | succ n ih =>
        intro a
        have two : 2 ≤ 2 ^ (n + 1) := Nat.le_self_pow (Nat.succ_ne_zero n) 2
        rw [squares, value_mul, ih, value_mul, ← pow_two, ← pow_mul, ← pow_add]
        congr 1
        omega
  exact squared 7 a

/-- What is left to check byte by byte: the squares that are their own roots, and that the affine
map is undone on both sides. -/
def Checked (a : UInt8) : Prop :=
  (mul tail a a = a → a = 0 ∨ a = 1) ∧ invAffine (affine a) = a ∧ affine (invAffine a) = a

instance (a : UInt8) : Decidable (Checked a) := inferInstanceAs (Decidable (_ ∧ _))

theorem checked (a : UInt8) : Checked a := @forall_byte Checked (by decide +kernel) a

theorem mul_inv (some_ : a ≠ 0) : mul tail a (inv a) = 1 :=
  mul_self_eq_one (by decide) (fun e => (checked e).1) some_ (value_inv a)

theorem inv_zero : inv 0 = 0 := by decide

/-- **There is one inverse.** -/
theorem inv_unique (one : mul tail a b = 1) : inv a = b := by
  have some_ : a ≠ 0 := by
    rintro rfl
    have unit := congrArg (value tail) one
    rw [value_mul, value_zero, zero_mul, value_one] at unit
    exact absurd (@value_inj tail 0 1 (by rw [value_zero, value_one, unit])) (by decide)
  have left := congrArg (value tail) (mul_inv some_)
  have right := congrArg (value tail) one
  rw [value_mul, value_one] at left right
  apply @value_inj tail
  linear_combination (value tail b) * left - (value tail (inv a)) * right

theorem inv_inv (a : UInt8) : inv (inv a) = a := by
  by_cases zero : a = 0
  · rw [zero, inv_zero, inv_zero]
  · apply inv_unique
    apply @value_inj tail
    have unit := congrArg (value tail) (mul_inv zero)
    rw [value_mul] at unit ⊢
    rw [mul_comm, unit]

theorem invAffine_affine (a : UInt8) : invAffine (affine a) = a := (checked a).2.1

theorem affine_invAffine (b : UInt8) : affine (invAffine b) = b := (checked b).2.2

theorem invSubByte_subByte (a : UInt8) : invSubByte (subByte a) = a := by
  rw [invSubByte, subByte, invAffine_affine, inv_inv]

theorem subByte_invSubByte (b : UInt8) : subByte (invSubByte b) = b := by
  rw [subByte, invSubByte, inv_inv, affine_invAffine]

end Bytes

/-! ## Steps on a block

Byte `4 * c + r` of a block is in row `r` of column `c`. -/

theorem neZero_sixteen : NeZero 16 := ⟨by decide⟩

theorem neZero_four : NeZero 4 := ⟨by decide⟩

/-- A place in a block, counted round and round. -/
def inBlock (k : Nat) : Fin 16 := @Fin.ofNat 16 neZero_sixteen k

def inWord (k : Nat) : Fin 4 := @Fin.ofNat 4 neZero_four k

def subBytes (s : Block) : Block := s.map subByte

def invSubBytes (s : Block) : Block := s.map invSubByte

/-- Row `r` rotated by `n * r` columns. -/
def rotateRows (n : Nat) (s : Block) : Block :=
  Vector.ofFn fun k => s.get (inBlock (k.val + 4 * (n * (k.val % 4))))

def shiftRows (s : Block) : Block := rotateRows 1 s

def invShiftRows (s : Block) : Block := rotateRows 3 s

/-- The byte `d` rows below byte `k`, in its column. -/
def below (s : Block) (k d : Nat) : UInt8 := s.get (inBlock (4 * (k / 4) + (k + d) % 4))

/-- Each column by the circulant matrix of `m0, m1, m2, m3`. -/
def mixBy (m0 m1 m2 m3 : UInt8) (s : Block) : Block :=
  Vector.ofFn fun k =>
    mul tail m0 (below s k.val 0) ^^^ mul tail m1 (below s k.val 1) ^^^
      mul tail m2 (below s k.val 2) ^^^ mul tail m3 (below s k.val 3)

def mixColumns (s : Block) : Block := mixBy 2 3 1 1 s

def invMixColumns (s : Block) : Block := mixBy 14 11 13 9 s

section Steps

variable {s : Block}

theorem get_eq (s : Block) (k : Nat) (inside : k < 16) : s.get (inBlock k) = s[k] := by
  simp only [Vector.get, inBlock, Fin.ofNat, Nat.mod_eq_of_lt inside]
  rfl

theorem get_congr {i j : Nat} (s : Block) (same : i % 16 = j % 16) :
    s.get (inBlock i) = s.get (inBlock j) :=
  congrArg s.get (Fin.ext same)

theorem rotateRows_getElem (n : Nat) (s : Block) (k : Nat) (inside : k < 16) :
    (rotateRows n s)[k] = s.get (inBlock (k + 4 * (n * (k % 4)))) := by
  simp [rotateRows]

theorem rotateRows_get (n : Nat) (s : Block) (k : Nat) :
    (rotateRows n s).get (inBlock k) = s.get (inBlock (k + 4 * (n * (k % 4)))) := by
  have inside : k % 16 < 16 := Nat.mod_lt _ (by decide)
  rw [get_congr _ (Nat.mod_mod k 16).symm, get_eq _ _ inside, rotateRows_getElem]
  have row : k % 16 % 4 = k % 4 := Nat.mod_mod_of_dvd k (by decide)
  rw [row]
  exact get_congr s (by omega)

/-- **Rotations that make up whole turns.** -/
theorem rotateRows_rotateRows (n m : Nat) (s : Block) (whole : (n + m) % 4 = 0) :
    rotateRows n (rotateRows m s) = s := by
  apply Vector.ext
  intro k inside
  obtain ⟨q, turns⟩ := Nat.dvd_of_mod_eq_zero whole
  have row : (k + 4 * (n * (k % 4))) % 4 = k % 4 := by omega
  have sum : n * (k % 4) + m * (k % 4) = 4 * (q * (k % 4)) := by
    rw [← add_mul, turns, mul_assoc]
  rw [rotateRows_getElem, rotateRows_get, row, ← get_eq s k inside]
  generalize n * (k % 4) = x, m * (k % 4) = y, q * (k % 4) = z at sum
  exact get_congr s (by omega)

theorem invSubBytes_subBytes (s : Block) : invSubBytes (subBytes s) = s := by
  ext k inside
  simp [invSubBytes, subBytes, invSubByte_subByte]

theorem subBytes_invSubBytes (s : Block) : subBytes (invSubBytes s) = s := by
  ext k inside
  simp [invSubBytes, subBytes, subByte_invSubByte]

theorem mixBy_getElem (m0 m1 m2 m3 : UInt8) (s : Block) (k : Nat) (inside : k < 16) :
    (mixBy m0 m1 m2 m3 s)[k] =
      mul tail m0 (below s k 0) ^^^ mul tail m1 (below s k 1) ^^^ mul tail m2 (below s k 2) ^^^
        mul tail m3 (below s k 3) := by
  simp [mixBy]

theorem below_mixBy (m0 m1 m2 m3 : UInt8) (s : Block) (k d : Nat) (inside : k < 16) :
    below (mixBy m0 m1 m2 m3 s) k d =
      mul tail m0 (below s k d) ^^^ mul tail m1 (below s k (d + 1)) ^^^
        mul tail m2 (below s k (d + 2)) ^^^ mul tail m3 (below s k (d + 3)) := by
  have place : 4 * (k / 4) + (k + d) % 4 < 16 := by omega
  have moved : ∀ j, below s (4 * (k / 4) + (k + d) % 4) j = below s k (d + j) := by
    intro j
    exact get_congr s (by omega)
  rw [below, get_eq _ _ place, mixBy_getElem]
  simp only [moved, Nat.add_zero]

/-- Four rows down is the row itself. -/
theorem below_add_four (s : Block) (k d : Nat) : below s k (d + 4) = below s k d :=
  get_congr s (by omega)

theorem below_zero (s : Block) (k : Nat) (inside : k < 16) : below s k 0 = s[k] := by
  rw [← get_eq s k inside]
  exact get_congr s (by omega)

/-- A circulant matrix after another: the identity where the four products say so. -/
theorem mixBy_mixBy {m0 m1 m2 m3 n0 n1 n2 n3 : UInt8}
    (here : mul tail m0 n0 ^^^ mul tail m1 n3 ^^^ mul tail m2 n2 ^^^ mul tail m3 n1 = 1)
    (one : mul tail m0 n1 ^^^ mul tail m1 n0 ^^^ mul tail m2 n3 ^^^ mul tail m3 n2 = 0)
    (two : mul tail m0 n2 ^^^ mul tail m1 n1 ^^^ mul tail m2 n0 ^^^ mul tail m3 n3 = 0)
    (three : mul tail m0 n3 ^^^ mul tail m1 n2 ^^^ mul tail m2 n1 ^^^ mul tail m3 n0 = 0)
    (s : Block) : mixBy m0 m1 m2 m3 (mixBy n0 n1 n2 n3 s) = s := by
  apply Vector.ext
  intro k inside
  have around : ∀ d, below s k (d + 4) = below s k d := below_add_four s k
  have four := around 0
  have five := around 1
  have six := around 2
  rw [mixBy_getElem _ _ _ _ _ _ inside, below_mixBy _ _ _ _ _ _ _ inside,
    below_mixBy _ _ _ _ _ _ _ inside, below_mixBy _ _ _ _ _ _ _ inside,
    below_mixBy _ _ _ _ _ _ _ inside, ← below_zero s k inside]
  simp only [Nat.zero_add, Nat.reduceAdd] at four five six ⊢
  rw [four, five, six]
  replace here := congrArg (value tail) here
  replace one := congrArg (value tail) one
  replace two := congrArg (value tail) two
  replace three := congrArg (value tail) three
  apply @value_inj tail
  simp only [value_xor, value_mul, value_one, value_zero] at here one two three ⊢
  linear_combination value tail (below s k 0) * here + value tail (below s k 1) * one +
    value tail (below s k 2) * two + value tail (below s k 3) * three

theorem invMixColumns_mixColumns (s : Block) : invMixColumns (mixColumns s) = s :=
  mixBy_mixBy (by decide) (by decide) (by decide) (by decide) s

theorem mixColumns_invMixColumns (s : Block) : mixColumns (invMixColumns s) = s :=
  mixBy_mixBy (by decide) (by decide) (by decide) (by decide) s

end Steps

/-! ## The key schedule -/

section Schedule

/-- The words rotated by one byte, substituted, and with `X^n` added to the first byte. -/
def core (n : Nat) (w : Word) : Word :=
  Vector.ofFn fun k =>
    subByte (w.get (inWord (k.val + 1))) ^^^ if k.val = 0 then (xtime tail)^[n] 1 else 0

def xorWord (v w : Word) : Word := Vector.ofFn fun k => v.get k ^^^ w.get k

/-- Word `i` of the expanded key and the three after it. -/
def window (key : Block) : Nat → Word × Word × Word × Word
  | 0 => (keyWord 0, keyWord 1, keyWord 2, keyWord 3)
  | i + 1 =>
      let (w, w1, w2, w3) := window key i
      (w1, w2, w3, xorWord w (if i % 4 = 0 then core (i / 4) w3 else w3))
where
  keyWord (i : Nat) : Word := Vector.ofFn fun k => key.get (inBlock (4 * i + k.val))

def word (key : Block) (i : Nat) : Word := (window key i).1

theorem word_key (key : Block) (i : Nat) (inside : i < 4) :
    word key i = Vector.ofFn fun k => key.get (inBlock (4 * i + k.val)) := by
  match i, inside with
  | 0, _ | 1, _ | 2, _ | 3, _ => rfl

/-- **The recurrence of the key schedule.** -/
theorem word_add_four (key : Block) (i : Nat) :
    word key (i + 4) =
      xorWord (word key i)
        (if i % 4 = 0 then core (i / 4) (word key (i + 3)) else word key (i + 3)) := rfl

/-- Four words. -/
def roundKey (key : Block) (n : Nat) : Block :=
  Vector.ofFn fun k => (word key (4 * n + k.val / 4)).get (inWord k.val)

end Schedule

/-! ## The cipher -/

/-- The first addition of a key, and `n` rounds. -/
def rounds (keys : Nat → Block) : Nat → Block → Block
  | 0, s => xorBlock s (keys 0)
  | n + 1, s => xorBlock (mixColumns (shiftRows (subBytes (rounds keys n s)))) (keys (n + 1))

def cipher (key : Block) (s : Block) : Block :=
  xorBlock (shiftRows (subBytes (rounds (roundKey key) 9 s))) (roundKey key 10)

def unrounds (keys : Nat → Block) : Nat → Block → Block
  | 0, s => xorBlock s (keys 0)
  | n + 1, s => unrounds keys n (invSubBytes (invShiftRows (invMixColumns (xorBlock s (keys (n + 1))))))

def decipher (key : Block) (s : Block) : Block :=
  unrounds (roundKey key) 9 (invSubBytes (invShiftRows (xorBlock s (roundKey key 10))))

section Cipher

theorem xorBlock_self_right (s k : Block) : xorBlock (xorBlock s k) k = s := by
  ext j inside
  simp [xorBlock_getElem]

theorem invShiftRows_shiftRows (s : Block) : invShiftRows (shiftRows s) = s :=
  rotateRows_rotateRows 3 1 s (by decide)

theorem shiftRows_invShiftRows (s : Block) : shiftRows (invShiftRows s) = s :=
  rotateRows_rotateRows 1 3 s (by decide)

theorem unrounds_rounds (keys : Nat → Block) (n : Nat) (s : Block) :
    unrounds keys n (rounds keys n s) = s := by
  induction n with
  | zero => exact xorBlock_self_right s (keys 0)
  | succ n ih =>
      rw [unrounds, rounds, xorBlock_self_right, invMixColumns_mixColumns, invShiftRows_shiftRows,
        invSubBytes_subBytes, ih]

theorem rounds_unrounds (keys : Nat → Block) (n : Nat) (s : Block) :
    rounds keys n (unrounds keys n s) = s := by
  induction n generalizing s with
  | zero => exact xorBlock_self_right s (keys 0)
  | succ n ih =>
      rw [unrounds, rounds, ih, subBytes_invSubBytes, shiftRows_invShiftRows,
        mixColumns_invMixColumns, xorBlock_self_right]

theorem decipher_cipher (key s : Block) : decipher key (cipher key s) = s := by
  rw [decipher, cipher, xorBlock_self_right, invShiftRows_shiftRows, invSubBytes_subBytes,
    unrounds_rounds]

theorem cipher_decipher (key s : Block) : cipher key (decipher key s) = s := by
  rw [decipher, cipher, rounds_unrounds, subBytes_invSubBytes, shiftRows_invShiftRows,
    xorBlock_self_right]

/-- **A key is a permutation of the blocks.** -/
def cipherPerm (key : Block) : Equiv.Perm Block where
  toFun := cipher key
  invFun := decipher key
  left_inv := decipher_cipher key
  right_inv := cipher_decipher key

end Cipher

end Zboss.Theory.Rijndael
