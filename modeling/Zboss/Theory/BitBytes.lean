/-
# Theory.BitBytes -- a set of numbers in bytes

A vector of bytes holds a bit for each number: the number `n` has bit `n % 8` of the byte `n / 8`.
`place_injective` keeps two numbers apart, `bit_setBit` says that setting one bit changes no other,
and `bitCount_eq_card` that counting byte by byte counts the numbers; a vector of `size` bytes has
room for the numbers below `8 * size`.
-/
import Mathlib

namespace Zboss.Theory.BitBytes

set_option autoImplicit false

abbrev Bytes := Nat → UInt8

/-- The byte of a number, and the mask of its bit. -/
def place (n : Nat) : Nat × UInt8 := (n / 8, 1 <<< UInt8.ofNat (n % 8))

def setBit (v : Bytes) (n : Nat) : Bytes :=
  Function.update v (place n).1 (v (place n).1 ||| (place n).2)

def bit (v : Bytes) (n : Nat) : Bool := v (place n).1 &&& (place n).2 != 0

/-- The numbers in the first `size` bytes. -/
def bits (size : Nat) (v : Bytes) : Finset Nat :=
  (Finset.range (8 * size)).filter fun n => bit v n = true

/-- The count of the bits, byte by byte, by a function that counts one byte. -/
def bitCount (count : UInt8 → Nat) (size : Nat) (v : Bytes) : Nat :=
  ((List.range size).map fun k => count (v k)).sum

variable {n m i size : Nat} {b : UInt8}

/-! ## Masks -/

theorem mask_toNat (lt : i < 8) : ((1 : UInt8) <<< UInt8.ofNat i).toNat = 2 ^ i := by
  revert i
  decide

theorem and_mask (lt : i < 8) : (b &&& 1 <<< UInt8.ofNat i != 0) = b.toNat.testBit i := by
  have value : (b &&& 1 <<< UInt8.ofNat i).toNat = (b.toNat.testBit i).toNat * 2 ^ i := by
    rw [UInt8.toNat_and, mask_toNat lt, Nat.and_two_pow]
  have zero : b &&& 1 <<< UInt8.ofNat i = 0 ↔ (b &&& 1 <<< UInt8.ofNat i).toNat = 0 := by
    rw [← UInt8.toNat_inj, UInt8.toNat_zero]
  cases set : b.toNat.testBit i with
  | true =>
      rw [set, Bool.toNat_true, one_mul] at value
      refine bne_iff_ne.2 fun none_ => ?_
      have positive : 0 < 2 ^ i := Nat.two_pow_pos i
      have := zero.1 none_
      omega
  | false =>
      rw [set, Bool.toNat_false, zero_mul] at value
      rw [zero.2 value, bne_self_eq_false]

theorem bit_eq_testBit (v : Bytes) (n : Nat) : bit v n = (v (n / 8)).toNat.testBit (n % 8) :=
  and_mask (Nat.mod_lt n (by omega))

theorem place_injective : Function.Injective place := by
  intro n m same
  obtain ⟨byte, mask⟩ := Prod.mk.inj same
  have power := congrArg UInt8.toNat mask
  rw [mask_toNat (Nat.mod_lt n (by omega)), mask_toNat (Nat.mod_lt m (by omega))] at power
  have rest := Nat.pow_right_injective (le_refl 2) power
  omega

theorem byte_lt_iff : (place n).1 < size ↔ n < 8 * size := by
  rw [place]
  omega

/-- **One bit is set**, and no other. -/
theorem bit_setBit (v : Bytes) (n m : Nat) :
    bit (setBit v n) m = (decide (m = n) || bit v m) := by
  rw [bit_eq_testBit, bit_eq_testBit, setBit]
  by_cases byte : m / 8 = n / 8
  · have same : m = n ↔ n % 8 = m % 8 := by omega
    rw [place]
    dsimp only
    rw [byte, Function.update_self, UInt8.toNat_or, mask_toNat (Nat.mod_lt n (by omega)),
      Nat.testBit_or, Nat.testBit_two_pow, Bool.or_comm, decide_eq_decide.2 same]
  · have ne : m ≠ n := by
      rintro rfl
      exact byte rfl
    rw [place]
    dsimp only
    rw [Function.update_of_ne byte, decide_eq_false ne, Bool.false_or]

/-! ## Sets -/

theorem bits_setBit (v : Bytes) (inside : (place n).1 < size) :
    bits size (setBit v n) = insert n (bits size v) := by
  ext m
  simp only [bits, Finset.mem_filter, Finset.mem_range, Finset.mem_insert, bit_setBit,
    Bool.or_eq_true, decide_eq_true_eq]
  constructor
  · rintro ⟨lt, same | set⟩
    · exact .inl same
    · exact .inr ⟨lt, set⟩
  · rintro (rfl | ⟨lt, set⟩)
    · exact ⟨byte_lt_iff.1 inside, .inl rfl⟩
    · exact ⟨lt, .inr set⟩

/-- The numbers of the byte behind the first `size`. -/
theorem bits_succ (size : Nat) (v : Bytes) :
    bits (size + 1) v =
      (bits size v).disjUnion
        (((Finset.range 8).filter fun i => (v size).toNat.testBit i = true).map
          (addLeftEmbedding (8 * size)))
        (by
          refine Finset.disjoint_left.2 fun n before after => ?_
          obtain ⟨i, -, rfl⟩ := Finset.mem_map.1 after
          have lt := Finset.mem_range.1 (Finset.mem_filter.1 before).1
          rw [addLeftEmbedding_apply] at lt
          omega) := by
  ext n
  simp only [bits, Finset.mem_disjUnion, Finset.mem_filter, Finset.mem_range, Finset.mem_map,
    addLeftEmbedding_apply, bit_eq_testBit]
  constructor
  · rintro ⟨lt, set⟩
    by_cases before : n < 8 * size
    · exact .inl ⟨before, set⟩
    · have byte : n / 8 = size := by omega
      have rest : n % 8 = n - 8 * size := by omega
      rw [byte, rest] at set
      exact .inr ⟨n - 8 * size, ⟨by omega, set⟩, by omega⟩
  · rintro (⟨lt, set⟩ | ⟨i, ⟨lt, set⟩, rfl⟩)
    · exact ⟨by omega, set⟩
    · have byte : (8 * size + i) / 8 = size := by omega
      have rest : (8 * size + i) % 8 = i := by omega
      rw [byte, rest]
      exact ⟨by omega, set⟩

/-- **The count is the number of the bits**, when one byte is counted rightly. -/
theorem bitCount_eq_card {count : UInt8 → Nat}
    (one : ∀ b, count b = ((Finset.range 8).filter fun i => b.toNat.testBit i = true).card)
    (size : Nat) (v : Bytes) : bitCount count size v = (bits size v).card := by
  induction size with
  | zero => rfl
  | succ size ih =>
      rw [bits_succ, Finset.card_disjUnion, Finset.card_map, ← ih, ← one, bitCount, bitCount,
        List.range_succ, List.map_append, List.sum_append]
      simp

end Zboss.Theory.BitBytes
