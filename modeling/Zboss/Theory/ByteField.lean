/-
# Theory.ByteField -- bytes as residues of polynomials over GF(2)

A byte is the polynomial of its bits.  Modulo `X^8 + tail`, for any byte `tail`,
the sum of two bytes is their exclusive or, multiplication by `X` is a shift with a
conditional exclusive or (`xtime`), and products are made of these (`mul`).

`value` takes a byte to its residue.  It is injective, and a ring's sums and
products are those of the bytes (`value_xor`, `value_mul`); an identity between
bytes is proved in the ring, where `ring` and `linear_combination` apply.
-/
import Mathlib

namespace Zboss.Theory.ByteField

open Polynomial

set_option autoImplicit false

/-! ## Bits as coefficients -/

/-- The polynomial of the `n` lowest bits. -/
noncomputable def poly (n m : Nat) : (ZMod 2)[X] :=
  ∑ i ∈ Finset.range n, if m.testBit i then X ^ i else 0

section Poly

variable {n m k : Nat}

theorem coeff_poly (n m i : Nat) :
    (poly n m).coeff i = if i < n ∧ m.testBit i then 1 else 0 := by
  have term : ∀ j, (if m.testBit j then X ^ j else 0 : (ZMod 2)[X]).coeff i =
      if i = j then if m.testBit j then 1 else 0 else 0 := by
    intro j
    by_cases bit : m.testBit j
    · simp [bit, coeff_X_pow]
    · simp [bit]
  rw [poly, finsetSum_coeff, Finset.sum_congr rfl fun j _ => term j]
  by_cases inside : i < n <;> simp [inside]

/-- The sum is the exclusive or: bits that meet cancel. -/
theorem poly_xor (n m k : Nat) : poly n (m ^^^ k) = poly n m + poly n k := by
  ext i
  rw [coeff_add, coeff_poly, coeff_poly, coeff_poly, Nat.testBit_xor]
  by_cases inside : i < n <;> by_cases left : m.testBit i <;> by_cases right : k.testBit i <;>
    simp [inside, left, right]
  exact (CharTwo.add_self_eq_zero 1).symm

theorem poly_inj (below : m < 2 ^ n) (below' : k < 2 ^ n) (same : poly n m = poly n k) : m = k := by
  apply Nat.eq_of_testBit_eq
  intro i
  rcases Nat.lt_or_ge i n with inside | beyond
  · have bits := congrArg (coeff · i) same
    simp only [coeff_poly, inside, true_and] at bits
    by_cases left : m.testBit i <;> by_cases right : k.testBit i <;> simp_all
  · have high := Nat.pow_le_pow_right (by decide : 0 < 2) beyond
    rw [Nat.testBit_lt_two_pow (by omega), Nat.testBit_lt_two_pow (by omega)]

theorem degree_poly_lt (n m : Nat) : (poly n m).degree < n := by
  rw [degree_lt_iff_coeff_zero]
  intro i beyond
  rw [coeff_poly, if_neg (by omega)]

/-- The lowest bit, and the others moved down. -/
theorem poly_succ (n m : Nat) :
    poly (n + 1) m = (if m.testBit 0 then 1 else 0) + X * poly n (m / 2) := by
  rw [poly, poly, Finset.sum_range_succ', add_comm, Finset.mul_sum, pow_zero]
  refine congrArg₂ _ rfl (Finset.sum_congr rfl fun i _ => ?_)
  rw [Nat.testBit_succ]
  split
  · rw [pow_succ']
  · rw [mul_zero]

@[simp] theorem poly_zero (n : Nat) : poly n 0 = 0 := by simp [poly]

/-- Bits from `n` on are not seen. -/
theorem poly_mod (n m : Nat) : poly n (m % 2 ^ n) = poly n m := by
  refine Finset.sum_congr rfl fun i inside => ?_
  rw [Nat.testBit_mod_two_pow, decide_eq_true (Finset.mem_range.1 inside), Bool.true_and]

/-- A shift multiplies by `X`, with the bit that leaves. -/
theorem X_mul_poly (n m : Nat) :
    X * poly (n + 1) m = poly (n + 1) (2 * m) + if m.testBit n then X ^ (n + 1) else 0 := by
  have shifted : poly (n + 2) (2 * m) = X * poly (n + 1) m := by
    rw [poly_succ, Nat.mul_div_cancel_left _ (by decide), Nat.testBit_zero, Nat.mul_mod_right]
    simp
  have top : (2 * m).testBit (n + 1) = m.testBit n := by
    rw [Nat.testBit_succ, Nat.mul_div_cancel_left _ (by decide)]
  rw [← shifted, poly, Finset.sum_range_succ, top]
  rfl

end Poly

/-! ## Residues -/

/-- `X^8 + tail`. -/
noncomputable def modulus (tail : UInt8) : (ZMod 2)[X] := X ^ 8 + poly 8 tail.toNat

abbrev Residue (tail : UInt8) : Type := AdjoinRoot (modulus tail)

noncomputable def value (tail a : UInt8) : Residue tail :=
  AdjoinRoot.mk (modulus tail) (poly 8 a.toNat)

/-- A shift, and the tail in place of `X^8`. -/
def xtimeNat (tail m : Nat) : Nat := 2 * m % 2 ^ 8 ^^^ m / 128 * tail

/-- The product by the `n` lowest bits of a number, by Horner's scheme. -/
def mulNat (tail m : Nat) : Nat → Nat → Nat
  | 0, _ => 0
  | n + 1, k => k % 2 * m ^^^ xtimeNat tail (mulNat tail m n (k / 2))

def xtime (tail a : UInt8) : UInt8 := UInt8.ofNat (xtimeNat tail.toNat a.toNat)

def mul (tail a b : UInt8) : UInt8 := UInt8.ofNat (mulNat tail.toNat a.toNat 8 b.toNat)

section Residues

variable {tail a b : UInt8}

theorem value_inj (same : value tail a = value tail b) : a = b := by
  rw [value, value, AdjoinRoot.mk_eq_mk] at same
  have small : (poly 8 a.toNat - poly 8 b.toNat).degree < (modulus tail).degree := by
    have eight : (modulus tail).degree = 8 := by
      rw [modulus, degree_add_eq_left_of_degree_lt] <;> rw [degree_X_pow]
      · rfl
      · exact_mod_cast degree_poly_lt 8 tail.toNat
    rw [eight]
    exact lt_of_le_of_lt (degree_sub_le _ _) (max_lt (degree_poly_lt 8 _) (degree_poly_lt 8 _))
  have equal := sub_eq_zero.1 (eq_zero_of_dvd_of_degree_lt same small)
  exact UInt8.toNat_inj.1 (poly_inj a.toNat_lt b.toNat_lt equal)

@[simp] theorem value_zero : value tail 0 = 0 := by simp [value, poly]

@[simp] theorem value_one : value tail 1 = 1 := by
  simp [value, poly_succ 7 1]

@[simp] theorem value_xor (tail a b : UInt8) :
    value tail (a ^^^ b) = value tail a + value tail b := by
  rw [value, UInt8.toNat_xor, poly_xor, map_add]
  rfl

theorem value_add_self (tail a : UInt8) : value tail a + value tail a = 0 := by
  rw [← value_xor, UInt8.xor_self, value_zero]

/-- `X^8` is the tail. -/
theorem root_pow (tail : UInt8) : AdjoinRoot.root (modulus tail) ^ 8 = value tail tail := by
  have zero := AdjoinRoot.mk_self (f := modulus tail)
  rw [modulus, map_add, map_pow, AdjoinRoot.mk_X] at zero
  have back : AdjoinRoot.root (modulus tail) ^ 8 + value tail tail = 0 := zero
  linear_combination back - value_add_self tail tail

theorem xtimeNat_lt {m : Nat} (below : m < 256) : xtimeNat tail.toNat m < 256 := by
  refine @Nat.xor_lt_two_pow _ _ 8 (Nat.mod_lt _ (by decide)) ?_
  have bit : m / 128 ≤ 1 := by omega
  have fits := tail.toNat_lt
  calc m / 128 * tail.toNat ≤ 1 * tail.toNat := Nat.mul_le_mul_right _ bit
    _ < 2 ^ 8 := by omega

theorem mulNat_lt {m : Nat} (below : m < 256) (n k : Nat) : mulNat tail.toNat m n k < 256 := by
  induction n generalizing k with
  | zero => exact Nat.zero_lt_succ _
  | succ n ih =>
      refine @Nat.xor_lt_two_pow _ _ 8 ?_ (xtimeNat_lt (ih _))
      have bit : k % 2 ≤ 1 := by omega
      calc k % 2 * m ≤ 1 * m := Nat.mul_le_mul_right _ bit
        _ < 2 ^ 8 := by omega

theorem value_ofNat {m : Nat} (below : m < 256) :
    value tail (UInt8.ofNat m) = AdjoinRoot.mk (modulus tail) (poly 8 m) := by
  rw [value, UInt8.toNat_ofNat_of_lt' below]

/-- Either bit, as a factor. -/
theorem poly_bit_mul {k : Nat} (bit : k ≤ 1) (n m : Nat) :
    poly n (k * m) = if k = 1 then poly n m else 0 := by
  obtain rfl | rfl := Nat.le_one_iff_eq_zero_or_eq_one.1 bit
  · simp
  · simp

theorem residue_xtimeNat {m : Nat} (below : m < 256) :
    AdjoinRoot.mk (modulus tail) (poly 8 (xtimeNat tail.toNat m)) =
      AdjoinRoot.root (modulus tail) * AdjoinRoot.mk (modulus tail) (poly 8 m) := by
  have product := congrArg (AdjoinRoot.mk (modulus tail)) (X_mul_poly 7 m)
  rw [map_mul, AdjoinRoot.mk_X, map_add] at product
  have top : m.testBit 7 ↔ m / 128 = 1 := by
    rw [Nat.testBit_eq_decide_div_mod_eq, decide_eq_true_eq]
    omega
  have carried := @poly_bit_mul (m / 128) (by omega) 8 tail.toNat
  rw [xtimeNat, poly_xor, poly_mod, carried, map_add, product]
  by_cases leaves : m / 128 = 1
  · rw [if_pos leaves, if_pos (top.2 leaves), map_pow, AdjoinRoot.mk_X, root_pow]
    rfl
  · rw [if_neg leaves, if_neg fun bit => leaves (top.1 bit)]

@[simp] theorem value_xtime (tail a : UInt8) :
    value tail (xtime tail a) = AdjoinRoot.root (modulus tail) * value tail a := by
  rw [xtime, value_ofNat (xtimeNat_lt a.toNat_lt), residue_xtimeNat a.toNat_lt]
  rfl

theorem residue_mulNat (tail a : UInt8) (n k : Nat) :
    AdjoinRoot.mk (modulus tail) (poly 8 (mulNat tail.toNat a.toNat n k)) =
      value tail a * AdjoinRoot.mk (modulus tail) (poly n k) := by
  induction n generalizing k with
  | zero => simp [mulNat, poly]
  | succ n ih =>
      have low : k.testBit 0 ↔ k % 2 = 1 := by rw [Nat.testBit_zero, decide_eq_true_eq]
      rw [mulNat, poly_xor, map_add, residue_xtimeNat (mulNat_lt a.toNat_lt n _), ih,
        poly_bit_mul (by omega), poly_succ n, map_add, map_mul, AdjoinRoot.mk_X]
      by_cases bit : k % 2 = 1
      · rw [if_pos bit, if_pos (low.2 bit), map_one, ← value]
        ring
      · rw [if_neg bit, if_neg fun set => bit (low.1 set), map_zero]
        ring

/-- **Products of bytes are those of their residues.** -/
@[simp] theorem value_mul (tail a b : UInt8) :
    value tail (mul tail a b) = value tail a * value tail b := by
  rw [mul, value_ofNat (mulNat_lt a.toNat_lt 8 _)]
  exact residue_mulNat tail a 8 b.toNat

theorem value_two (tail : UInt8) : value tail 2 = AdjoinRoot.root (modulus tail) := by
  simp [value, poly_succ 7 2, poly_succ 6 1]

theorem mul_byte_two (tail a : UInt8) : mul tail 2 a = xtime tail a := by
  apply @value_inj tail
  rw [value_mul, value_two, value_xtime]

theorem mul_byte_three (tail a : UInt8) : mul tail 3 a = xtime tail a ^^^ a := by
  apply @value_inj tail
  have three : value tail 3 = AdjoinRoot.root (modulus tail) + 1 := by
    rw [← value_two, ← value_one, ← value_xor]
    rfl
  rw [value_mul, three, value_xor, value_xtime]
  ring

/-- The eighth of the repeated squares. -/
def square8 (tail a : UInt8) : UInt8 := (fun b => mul tail b b)^[8] a

theorem value_square8 (tail a : UInt8) : value tail (square8 tail a) = value tail a ^ 256 := by
  have squared : ∀ n, value tail ((fun b => mul tail b b)^[n] a) = value tail a ^ 2 ^ n := by
    intro n
    induction n with
    | zero => rw [Function.iterate_zero_apply, pow_zero, pow_one]
    | succ n ih => rw [Function.iterate_succ_apply', value_mul, ih, ← pow_add, pow_succ 2 n, mul_two]
  exact squared 8

/-- **Squaring is linear**: eight squares give every residue back, if they give the root back. -/
theorem pow_fixed (fixed : square8 tail 2 = 2) (x : Residue tail) : x ^ 256 = x := by
  have power : ∀ n, ∀ x : Residue tail,
      (FiniteField.frobeniusAlgHom (ZMod 2) (Residue tail) ^ n) x = x ^ 2 ^ n := by
    intro n x
    rw [AlgHom.coe_pow, FiniteField.coe_frobeniusAlgHom, pow_iterate, ZMod.card]
  have root := congrArg (value tail) fixed
  rw [value_square8, value_two] at root
  have same : FiniteField.frobeniusAlgHom (ZMod 2) (Residue tail) ^ 8 = AlgHom.id (ZMod 2) _ :=
    AdjoinRoot.algHom_ext ((power 8 _).trans root)
  exact (power 8 x).symm.trans (DFunLike.congr_fun same x)

/-- **No byte but zero is a divisor of zero**, if moreover no byte but zero and one is its own
square. -/
theorem mul_self_eq_one (fixed : square8 tail 2 = 2)
    (own : ∀ e, mul tail e e = e → e = 0 ∨ e = 1) {a b : UInt8} (some_ : a ≠ 0)
    (power : value tail b = value tail a ^ 254) : mul tail a b = 1 := by
  have whole : value tail (mul tail a b) = value tail a ^ 255 := by rw [value_mul, power, ← pow_succ']
  have itself : mul tail (mul tail a b) (mul tail a b) = mul tail a b := by
    apply @value_inj tail
    rw [value_mul, whole, ← pow_add]
    calc value tail a ^ (255 + 255) = value tail a ^ 256 * value tail a ^ 254 := by rw [← pow_add]
      _ = value tail a * value tail a ^ 254 := by rw [pow_fixed fixed]
      _ = value tail a ^ 255 := by rw [← pow_succ']
  refine (own _ itself).resolve_left fun zero => some_ ?_
  apply @value_inj tail
  rw [zero, value_zero] at whole
  rw [value_zero, ← pow_fixed fixed (value tail a), pow_succ, ← whole, zero_mul]

end Residues

end Zboss.Theory.ByteField
