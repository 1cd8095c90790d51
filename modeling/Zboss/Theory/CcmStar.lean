/-
# Theory.CcmStar -- CCM*: CBC-MAC and counter mode over a block function

The definition, over lists of bytes and an arbitrary function on 16-byte blocks:
zero padding (`pad`), blocks (`blocks`), CBC-MAC (`cbcMac`), the authentication
and encryption transformations with tag length `M` and length field `L`.

A loop that takes 16 bytes at a time, and zero-fills what is left, is met by the
rules `blocks_pad_long`, `blocks_pad_short` and `ctr_long`, `ctr_short`.  Counter
mode undoes itself (`ctr_ctr`), so `opened_sealed` opens what was sealed.
-/
import Mathlib

namespace Zboss.Theory.CcmStar

set_option autoImplicit false

abbrev Block := Vector UInt8 16

def xorBlock (x y : Block) : Block := Vector.ofFn fun j => x.get j ^^^ y.get j

/-- The first 16 bytes, zero-filled. -/
def toBlock (l : List UInt8) : Block := Vector.ofFn fun j : Fin 16 => l.getD j.val 0

/-- With the smallest number of zeros to a multiple of 16. -/
def pad (l : List UInt8) : List UInt8 := l ++ List.replicate ((16 - l.length % 16) % 16) 0

def blocks (l : List UInt8) : List Block :=
  (List.range (l.length / 16)).map fun i => toBlock (l.drop (16 * i))

/-! ## Blocks of padded strings -/

section Blocks

variable {l r : List UInt8}

theorem toBlock_getElem (l : List UInt8) (j : Nat) (h : j < 16) : (toBlock l)[j] = l.getD j 0 := by
  simp [toBlock]

theorem xorBlock_getElem (x y : Block) (j : Nat) (h : j < 16) :
    (xorBlock x y)[j] = x[j] ^^^ y[j] := by
  simp [xorBlock, Vector.get]

theorem toBlock_append (full : 16 ≤ l.length) : toBlock (l ++ r) = toBlock l := by
  ext j h
  simp [toBlock_getElem, List.getD_eq_getElem?_getD, List.getElem?_append_left (by omega : j < l.length)]

theorem toBlock_take {n : Nat} (all : 16 ≤ n ∨ l.length ≤ n) : toBlock (l.take n) = toBlock l := by
  ext j h
  rw [toBlock_getElem, toBlock_getElem, List.getD_eq_getElem?_getD, List.getD_eq_getElem?_getD,
    List.getElem?_take]
  split
  · rfl
  · rw [List.getElem?_eq_none (by omega : l.length ≤ j)]

/-- Zeros at the end are what a block is filled with. -/
theorem toBlock_append_zeros (l : List UInt8) (n : Nat) :
    toBlock (l ++ List.replicate n 0) = toBlock l := by
  ext j h
  rw [toBlock_getElem, toBlock_getElem, List.getD_eq_getElem?_getD, List.getD_eq_getElem?_getD]
  by_cases inside : j < l.length
  · rw [List.getElem?_append_left inside]
  · rw [List.getElem?_append_right (by omega), List.getElem?_eq_none (by omega : l.length ≤ j),
      List.getElem?_replicate]
    split <;> rfl

theorem toBlock_toList (b : Block) : toBlock b.toList = b := by
  ext j h
  simp [toBlock_getElem, List.getD_eq_getElem?_getD, h]

theorem toList_toBlock (full : 16 ≤ l.length) : (toBlock l).toList = l.take 16 := by
  apply List.ext_getElem
  · simp [full]
  · intro j lt lt'
    simp only [Vector.length_toList] at lt
    rw [Vector.getElem_toList, toBlock_getElem, List.getElem_take, List.getD_eq_getElem _ _ (by omega)]

@[simp] theorem take_block (b : Block) : b.toList.take 16 = b.toList :=
  List.take_of_length_le (by simp)

theorem blocks_append (whole : l.length = 16) : blocks (l ++ r) = toBlock l :: blocks r := by
  have count : (l ++ r).length / 16 = r.length / 16 + 1 := by
    rw [List.length_append, whole, Nat.add_comm, Nat.add_div_right _ (by decide)]
  rw [blocks, count, List.range_succ_eq_map, List.map_cons, List.map_map]
  refine congrArg₂ List.cons ?_ ?_
  · simp [toBlock_append whole.ge]
  · apply List.map_congr_left
    intro i _
    have beyond : 16 * (i + 1) = l.length + 16 * i := by omega
    simp only [Function.comp_apply, Nat.succ_eq_add_one]
    rw [beyond, ← List.drop_drop, List.drop_left]

theorem length_pad (l : List UInt8) : (pad l).length % 16 = 0 := by
  simp only [pad, List.length_append, List.length_replicate]
  omega

theorem blocks_append_pad (l r : List UInt8) : blocks (pad l ++ r) = blocks (pad l) ++ blocks r := by
  have whole := length_pad l
  generalize pad l = p at whole
  induction count : p.length / 16 generalizing p with
  | zero =>
      have empty : p = [] := List.length_eq_zero_iff.1 (by omega)
      simp [empty, blocks]
  | succ n ih =>
      have first : (p.take 16).length = 16 := by
        rw [List.length_take]
        omega
      have rest := ih (p.drop 16) (by rw [List.length_drop]; omega) (by rw [List.length_drop]; omega)
      rw [← List.take_append_drop 16 p, List.append_assoc, blocks_append first, blocks_append first,
        rest, List.cons_append]

theorem pad_long (long : 16 ≤ l.length) : pad l = l.take 16 ++ pad (l.drop 16) := by
  have same : (l.drop 16).length % 16 = l.length % 16 := by
    rw [List.length_drop]
    omega
  rw [pad, pad, same, ← List.append_assoc, List.take_append_drop]

@[simp] theorem blocks_pad_nil : blocks (pad []) = [] := rfl

theorem blocks_pad_long (long : 16 ≤ l.length) :
    blocks (pad l) = toBlock l :: blocks (pad (l.drop 16)) := by
  rw [pad_long long, blocks_append (by simp [long]), toBlock_take (Or.inl (le_refl 16))]

theorem blocks_pad_short (some_ : 0 < l.length) (short : l.length < 16) :
    blocks (pad l) = [toBlock l] := by
  have whole : (pad l).length = 16 := by
    simp only [pad, List.length_append, List.length_replicate]
    omega
  have one := blocks_append (l := pad l) (r := []) whole
  rw [List.append_nil] at one
  rw [one, pad, toBlock_append_zeros]
  rfl

/-- A string that fits one block. -/
theorem blocks_pad_one (some_ : 0 < l.length) (fits : l.length ≤ 16) :
    blocks (pad l) = [toBlock l] := by
  rcases Nat.lt_or_eq_of_le fits with short | full
  · exact blocks_pad_short some_ short
  · rw [blocks_pad_long full.ge, List.drop_of_length_le full.le, blocks_pad_nil]

end Blocks

/-! ## The transformations -/

/-- CBC-MAC with the zero initial vector. -/
def cbcMac (e : Block → Block) (bs : List Block) : Block :=
  bs.foldl (fun x b => e (xorBlock x b)) (Vector.replicate 16 0)

/-- The last `L` bytes of a number, the most significant first. -/
def octets (L n : Nat) : List UInt8 :=
  (List.range L).map fun j => UInt8.ofNat (n / 256 ^ (L - 1 - j))

section Ccm

variable (L M : Nat) (e : Block → Block) (nonce : List UInt8)

/-- Flags = Reserved || Adata || M || L. -/
def authFlags (a : List UInt8) : UInt8 :=
  UInt8.ofNat ((if a = [] then 0 else 64) + 8 * ((M - 2) / 2) + (L - 1))

/-- B0 = Flags || Nonce N || l(m). -/
def b0 (a m : List UInt8) : Block :=
  toBlock ((authFlags L M a :: nonce) ++ octets L m.length)

/-- The input transformation, for associated strings of less than 2^16 - 2^8 bytes. -/
def authData (a m : List UInt8) : List UInt8 :=
  (if a = [] then [] else pad (octets 2 a.length ++ a)) ++ pad m

/-- The authentication transformation: the tag T. -/
def tag (a m : List UInt8) : List UInt8 :=
  (cbcMac e (b0 L M nonce a m :: blocks (authData a m))).toList.take M

/-- A_i = Flags || Nonce N || Counter i. -/
def counterBlock (i : Nat) : Block := toBlock ((UInt8.ofNat (L - 1) :: nonce) ++ octets L i)

/-- The encryption transformation from counter `i` on. -/
def ctr (i : Nat) (m : List UInt8) : List UInt8 :=
  ((blocks (pad m)).mapIdx fun k b =>
    (xorBlock (e (counterBlock L nonce (i + k))) b).toList).flatten.take m.length

/-- A tag masked with S0, or a masked one unmasked. -/
def mask (t : List UInt8) : List UInt8 := List.zipWith (· ^^^ ·) t (e (counterBlock L nonce 0)).toList

/-- **C || U.** -/
def sealed (a m : List UInt8) : List UInt8 :=
  ctr L e nonce 1 m ++ mask L e nonce (tag L M e nonce a m)

/-- **The inverse**: the message, if the tag is that of the message. -/
def opened (a c : List UInt8) : Option (List UInt8) :=
  let m := ctr L e nonce 1 (c.take (c.length - M))
  if mask L e nonce (c.drop (c.length - M)) = tag L M e nonce a m then some m else none

variable {L M e nonce}

/-! ## Counter mode -/

section Counter

variable {i : Nat} {m : List UInt8}

@[simp] theorem ctr_nil : ctr L e nonce i [] = [] := by simp [ctr]

theorem ctr_long (long : 16 ≤ m.length) :
    ctr L e nonce i m =
      (xorBlock (e (counterBlock L nonce i)) (toBlock m)).toList ++
        ctr L e nonce (i + 1) (m.drop 16) := by
  have split : m.length = 16 + (m.drop 16).length := by
    rw [List.length_drop]
    omega
  rw [ctr, blocks_pad_long long, List.mapIdx_cons, List.flatten_cons, split, List.take_append,
    Nat.add_zero, Vector.length_toList, Nat.add_sub_cancel_left, List.take_of_length_le (by simp)]
  simp only [ctr, Nat.add_assoc, Nat.add_comm 1]

theorem ctr_short (some_ : 0 < m.length) (short : m.length < 16) :
    ctr L e nonce i m =
      (xorBlock (e (counterBlock L nonce i)) (toBlock m)).toList.take m.length := by
  rw [ctr, blocks_pad_short some_ short]
  simp

theorem length_ctr : (ctr L e nonce i m).length = m.length := by
  induction count : m.length using Nat.strong_induction_on generalizing i m with
  | _ n ih =>
      rcases Nat.lt_or_ge m.length 16 with short | long
      · rcases Nat.eq_zero_or_pos m.length with empty | some_
        · rw [List.length_eq_zero_iff.1 empty] at count ⊢
          simpa using count
        · rw [ctr_short some_ short, List.length_take, Vector.length_toList]
          omega
      · rw [ctr_long long, List.length_append, Vector.length_toList,
          ih (m.drop 16).length (by rw [List.length_drop]; omega) rfl, List.length_drop]
        omega

theorem xorBlock_xorBlock (k b : Block) : xorBlock k (xorBlock k b) = b := by
  ext j h
  simp [xorBlock_getElem]

/-- A masked tail, filled up and masked again, is the tail again. -/
theorem take_xorBlock_xorBlock (k : Block) (short : m.length ≤ 16) :
    (xorBlock k (toBlock ((xorBlock k (toBlock m)).toList.take m.length))).toList.take m.length =
      m := by
  apply List.ext_getElem
  · simp [short]
  · intro j lt lt'
    have inside : j < 16 := by omega
    rw [List.getElem_take, Vector.getElem_toList, xorBlock_getElem, toBlock_getElem,
      List.getD_eq_getElem _ _ (by simpa using ⟨lt', inside⟩), List.getElem_take,
      Vector.getElem_toList, xorBlock_getElem, toBlock_getElem, List.getD_eq_getElem _ _ lt']
    simp

/-- **Counter mode undoes itself.** -/
theorem ctr_ctr : ctr L e nonce i (ctr L e nonce i m) = m := by
  induction count : m.length using Nat.strong_induction_on generalizing i m with
  | _ n ih =>
      rcases Nat.lt_or_ge m.length 16 with short | long
      · rcases Nat.eq_zero_or_pos m.length with empty | some_
        · rw [List.length_eq_zero_iff.1 empty]
          simp
        · have same : (ctr L e nonce i m).length = m.length := length_ctr
          rw [ctr_short (by omega) (by omega), same, ctr_short some_ short]
          exact take_xorBlock_xorBlock _ short.le
      · have rest := ih (m.drop 16).length (by rw [List.length_drop]; omega) (i := i + 1) rfl
        rw [ctr_long long, ctr_long (by simp), toBlock_append (by simp), toBlock_toList,
          xorBlock_xorBlock, List.drop_append_of_le_length (by simp), toList_toBlock long,
          List.drop_of_length_le (by simp), List.nil_append, rest, List.take_append_drop]

end Counter

/-! ## Sealing and opening -/

section Sealing

variable {a m : List UInt8}

theorem length_tag (fits : M ≤ 16) : (tag L M e nonce a m).length = M := by simp [tag, fits]

theorem length_mask {t : List UInt8} (fits : t.length ≤ 16) :
    (mask L e nonce t).length = t.length := by simp [mask, fits]

/-- A tag is masked as a block it fills in part. -/
theorem take_xorBlock {t : List UInt8} (k : Block) (fits : t.length ≤ 16) :
    (xorBlock k (toBlock t)).toList.take t.length = List.zipWith (· ^^^ ·) t k.toList := by
  apply List.ext_getElem
  · simp [fits]
  · intro j lt lt'
    have inside : j < t.length := by
      rw [List.length_take] at lt
      omega
    rw [List.getElem_take, Vector.getElem_toList, xorBlock_getElem, toBlock_getElem,
      List.getD_eq_getElem _ _ inside, List.getElem_zipWith, Vector.getElem_toList, UInt8.xor_comm]

theorem mask_mask {t : List UInt8} (fits : t.length ≤ 16) :
    mask L e nonce (mask L e nonce t) = t := by
  apply List.ext_getElem
  · simp [mask, fits]
  · intro j lt lt'
    simp [mask]

/-- **What was sealed opens**, with the message that went in. -/
theorem opened_sealed (fits : M ≤ 16) :
    opened L M e nonce a (sealed L M e nonce a m) = some m := by
  have tagLength : (tag L M e nonce a m).length = M := length_tag fits
  have cut : (sealed L M e nonce a m).length - M = (ctr L e nonce 1 m).length := by
    rw [sealed, List.length_append, length_mask (by omega), tagLength, Nat.add_sub_cancel]
  rw [opened, cut, sealed, List.take_left, List.drop_left, ctr_ctr, mask_mask (by omega)]
  exact if_pos rfl

end Sealing

end Ccm

end Zboss.Theory.CcmStar
