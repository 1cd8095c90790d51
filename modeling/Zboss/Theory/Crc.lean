/-
# Theory.Crc -- a cyclic redundancy check by its register, and by a table

The check of a message over the polynomial `x^w + g` is the remainder of the message shifted up by
`w` (`check_eq_remainder`).  A register of `w` bits divides bit by bit: `feed` keeps the highest
coefficient at the top, `feedLow` is the same register the other way round (`foldl_feedLow`), which
is how a message is read whose octets go least significant bit first.

* `shifts_xor_feed`: feeding `n` bits of a word is `n` shifts of its sum with the register;
* `feedLow_octet`: eight bits at once are a word looked up for the low octet, and the rest of the
  register moved down;
* `feedLow_self`: a register that is fed its own bits is left empty.
-/
import Mathlib

namespace Zboss.Theory.Crc

set_option autoImplicit false

open Polynomial

variable {w : Nat}

/-! ## The registers -/

/-- One bit into the register: the coefficient that leaves at the top and the bit decide whether
the divisor is subtracted. -/
def feed (g r : BitVec w) (bit : Bool) : BitVec w :=
  if (r.msb != bit) = true then r <<< 1 ^^^ g else r <<< 1

/-- The same with the highest coefficient at the bottom. -/
def feedLow (q c : BitVec w) (bit : Bool) : BitVec w :=
  if (c.getLsbD 0 != bit) = true then c >>> 1 ^^^ q else c >>> 1

/-- The check of a message, from an empty register. -/
def check (g : BitVec w) (bits : List Bool) : BitVec w := bits.foldl (feed g) 0#w

/-- The register moved on without a message. -/
def shifts (q : BitVec w) : Nat → BitVec w → BitVec w
  | 0, c => c
  | n + 1, c => shifts q n (feedLow q c false)

/-- The `n` least significant bits of a word, from the lowest on. -/
def bitsFrom {v : Nat} (x : BitVec v) (n : Nat) : List Bool := (List.range n).map x.getLsbD

theorem reverse_xor (x y : BitVec w) : (x ^^^ y).reverse = x.reverse ^^^ y.reverse := by
  apply BitVec.eq_of_getLsbD_eq
  intro i _
  rw [BitVec.getLsbD_reverse, BitVec.getLsbD_xor, BitVec.getLsbD_reverse, BitVec.getLsbD_reverse,
    BitVec.getMsbD_xor]

theorem reverse_shiftLeft (x : BitVec w) : (x <<< 1).reverse = x.reverse >>> 1 := by
  apply BitVec.eq_of_getLsbD_eq
  intro i lt
  rw [BitVec.getLsbD_reverse, BitVec.getLsbD_ushiftRight, BitVec.getLsbD_reverse,
    BitVec.getMsbD_shiftLeft, Nat.add_comm i 1]

/-- One register is the other one read from the other end. -/
theorem reverse_feed (g r : BitVec w) (bit : Bool) :
    (feed g r bit).reverse = feedLow g.reverse r.reverse bit := by
  have top : r.reverse.getLsbD 0 = r.msb := by rw [BitVec.getLsbD_reverse, BitVec.msb]
  rw [feed, feedLow, top]
  split
  · rw [reverse_xor, reverse_shiftLeft]
  · exact reverse_shiftLeft r

theorem foldl_feedLow (g : BitVec w) (bits : List Bool) (r : BitVec w) :
    bits.foldl (feedLow g.reverse) r.reverse = (bits.foldl (feed g) r).reverse := by
  induction bits generalizing r with
  | nil => rfl
  | cons bit bits ih => rw [List.foldl_cons, List.foldl_cons, ← reverse_feed, ih]

/-- **The low register holds the check**, its bits the other way round. -/
theorem foldl_feedLow_check (g : BitVec w) (bits : List Bool) :
    bits.foldl (feedLow g.reverse) 0#w = (check g bits).reverse := by
  have empty : (0#w).reverse = 0#w := BitVec.reverse_eq_zero_iff.2 rfl
  have same := foldl_feedLow g bits 0#w
  rw [empty] at same
  exact same

/-! ## Eight bits at once -/

/-- A word that is added to the register leaves its lowest bit as the next bit of the message, and
the rest of it in the register. -/
theorem feedLow_xor (q c x : BitVec w) :
    feedLow q (c ^^^ x) false = feedLow q c (x.getLsbD 0) ^^^ x >>> 1 := by
  rw [feedLow, feedLow, BitVec.getLsbD_xor, Bool.bne_false, BitVec.ushiftRight_xor_distrib]
  split
  · rw [BitVec.xor_assoc, BitVec.xor_comm (x >>> 1), ← BitVec.xor_assoc]
  · rfl

theorem bitsFrom_succ {v : Nat} (x : BitVec v) (n : Nat) :
    bitsFrom x (n + 1) = x.getLsbD 0 :: bitsFrom (x >>> 1) n := by
  rw [bitsFrom, List.range_succ_eq_map, List.map_cons, List.map_map, bitsFrom]
  congr 1
  apply List.map_congr_left
  intro i _
  rw [Function.comp_apply, BitVec.getLsbD_ushiftRight, Nat.add_comm]

/-- Feeding `n` bits of a word is adding the word and moving on `n` times, but for the bits of it
that are left. -/
theorem shifts_xor_feed (q x : BitVec w) (n : Nat) (c : BitVec w) :
    shifts q n (c ^^^ x) = (bitsFrom x n).foldl (feedLow q) c ^^^ x >>> n := by
  induction n generalizing c x with
  | zero => rfl
  | succ n ih =>
      rw [shifts, feedLow_xor, ih, bitsFrom_succ, List.foldl_cons, ← BitVec.shiftRight_add,
        Nat.add_comm 1]

/-- A word whose lowest bits are zero only moves down. -/
theorem foldl_clear (q x c : BitVec w) (n : Nat) (clear : ∀ i, i < n → x.getLsbD i = false) :
    (bitsFrom x n).foldl (feedLow q) c = shifts q n c := by
  have none_ : (bitsFrom x n) = bitsFrom (0#w) n := by
    apply List.map_congr_left
    intro i mem
    rw [clear i (List.mem_range.1 mem), BitVec.getLsbD_zero]
  have sum := shifts_xor_feed q 0#w n c
  rw [BitVec.xor_zero, BitVec.zero_ushiftRight, BitVec.xor_zero] at sum
  rw [none_, sum]

theorem shifts_low_octet (q x : BitVec w) :
    shifts q 8 x = shifts q 8 (x &&& 0xFF) ^^^ x >>> 8 := by
  have parts : x = (x &&& 0xFF) ^^^ (x &&& ~~~0xFF) := by
    apply BitVec.eq_of_getLsbD_eq
    intro i lt
    rw [BitVec.getLsbD_xor, BitVec.getLsbD_and, BitVec.getLsbD_and, BitVec.getLsbD_not,
      decide_eq_true lt, Bool.true_and]
    cases x.getLsbD i <;> cases (0xFF : BitVec w).getLsbD i <;> rfl
  have octet : ∀ i, (0xFF : BitVec w).getLsbD i = (decide (i < w) && decide (i < 8)) := by
    intro i
    rw [show (0xFF : BitVec w) = BitVec.ofNat w (2 ^ 8 - 1) from rfl, BitVec.getLsbD_ofNat,
      Nat.testBit_two_pow_sub_one]
  have clear : ∀ i, i < 8 → (x &&& ~~~0xFF).getLsbD i = false := by
    intro i lt
    rw [BitVec.getLsbD_and, BitVec.getLsbD_not, octet, decide_eq_true lt]
    cases decide (i < w) <;> simp
  have high : (x &&& ~~~0xFF) >>> 8 = x >>> 8 := by
    apply BitVec.eq_of_getLsbD_eq
    intro i _
    rw [BitVec.getLsbD_ushiftRight, BitVec.getLsbD_and, BitVec.getLsbD_not, octet,
      BitVec.getLsbD_ushiftRight]
    by_cases inside : 8 + i < w
    · simp [inside]
    · rw [BitVec.getLsbD_of_ge x (8 + i) (not_lt.1 inside), Bool.false_and]
  have moved := shifts_xor_feed q (x &&& ~~~0xFF) 8 (x &&& 0xFF)
  rw [← parts, foldl_clear q _ _ 8 clear, high] at moved
  exact moved

/-- **A table for the octets.**  The bits of an octet, fed one after the other, are the word for
the low octet of the sum, and what is above that octet moved down. -/
theorem feedLow_octet (q c : BitVec w) (b : BitVec 8) (room : 8 ≤ w) :
    (bitsFrom b 8).foldl (feedLow q) c =
      shifts q 8 ((c ^^^ b.setWidth w) &&& 0xFF) ^^^ c >>> 8 := by
  have same : bitsFrom (b.setWidth w) 8 = bitsFrom b 8 := by
    apply List.map_congr_left
    intro i mem
    have lt : i < w := lt_of_lt_of_le (List.mem_range.1 mem) room
    rw [BitVec.getLsbD_setWidth, decide_eq_true lt, Bool.true_and]
  have gone : b.setWidth w >>> 8 = 0#w := by
    apply BitVec.eq_of_getLsbD_eq
    intro i _
    rw [BitVec.getLsbD_ushiftRight, BitVec.getLsbD_setWidth,
      BitVec.getLsbD_of_ge b (8 + i) (Nat.le_add_right 8 i), Bool.and_false, BitVec.getLsbD_zero]
  have sum := shifts_xor_feed q (b.setWidth w) 8 c
  rw [gone, BitVec.xor_zero, same] at sum
  rw [← sum, shifts_low_octet, BitVec.ushiftRight_xor_distrib, gone, BitVec.xor_zero]

theorem shifts_zero (q : BitVec w) (n : Nat) : shifts q n 0#w = 0#w := by
  induction n with
  | zero => rfl
  | succ n ih =>
      have still : feedLow q 0#w false = 0#w := by
        rw [feedLow, BitVec.getLsbD_zero, if_neg (by decide), BitVec.zero_ushiftRight]
      rw [shifts, still, ih]

/-- **A register that is fed its own bits is left empty.** -/
theorem feedLow_self (q c : BitVec w) : (bitsFrom c w).foldl (feedLow q) c = 0#w := by
  have sum := shifts_xor_feed q c w c
  have gone : c >>> w = 0#w := BitVec.ushiftRight_eq_zero (le_refl w)
  rw [BitVec.xor_self, shifts_zero, gone, BitVec.xor_zero] at sum
  exact sum.symm

/-! ## The remainder -/

/-- The register as a polynomial over two elements, its lowest bit the constant term. -/
noncomputable def toPoly (r : BitVec w) : (ZMod 2)[X] :=
  ofFn w fun i => if r.getLsbD i then 1 else 0

/-- A message as a polynomial, its first bit the highest coefficient. -/
noncomputable def message (bits : List Bool) : (ZMod 2)[X] :=
  bits.foldl (fun m bit => m * X + if bit then 1 else 0) 0

theorem coeff_toPoly (r : BitVec w) (i : Nat) :
    (toPoly r).coeff i = if r.getLsbD i then 1 else 0 := by
  rcases Nat.lt_or_ge i w with lt | ge
  · rw [toPoly, ofFn_coeff_eq_val_of_lt _ lt]
  · rw [toPoly, ofFn_coeff_eq_zero_of_ge _ ge, BitVec.getLsbD_of_ge r i ge, if_neg (by decide)]

theorem degree_toPoly (r : BitVec w) : (toPoly r).degree < w := ofFn_degree_lt _

/-- Addition of polynomials over two elements is exclusive or. -/
theorem toPoly_xor (r s : BitVec w) : toPoly (r ^^^ s) = toPoly r + toPoly s := by
  ext i
  rw [coeff_add, coeff_toPoly, coeff_toPoly, coeff_toPoly, BitVec.getLsbD_xor]
  cases r.getLsbD i <;> cases s.getLsbD i <;> decide

theorem toPoly_zero : toPoly (0#w) = 0 := by
  ext i
  rw [coeff_toPoly, BitVec.getLsbD_zero, if_neg (by decide), coeff_zero]

/-- The register moved up by one is `x` times it, less what leaves at the top. -/
theorem toPoly_shiftLeft (r : BitVec w) (pos : 0 < w) :
    toPoly (r <<< 1) + (if r.msb then X ^ w else 0) = toPoly r * X := by
  ext i
  have top : (if r.msb then X ^ w else 0 : (ZMod 2)[X]).coeff i =
      if i = w ∧ r.msb = true then 1 else 0 := by
    cases r.msb with
    | true => rw [if_pos rfl, coeff_X_pow]; simp
    | false => simp
  rw [coeff_add, top, coeff_toPoly]
  cases i with
  | zero =>
      simp [pos.ne]
  | succ i =>
      rw [coeff_mul_X, coeff_toPoly]
      rcases lt_trichotomy (i + 1) w with lt | eq | gt
      · have bit : (r <<< 1).getLsbD (i + 1) = r.getLsbD i := by
          rw [BitVec.getLsbD_shiftLeft, decide_eq_true lt]
          simp
        simp [bit, lt.ne]
      · have last : r.msb = r.getLsbD i := by
          rw [BitVec.msb_eq_getLsbD_last, show w - 1 = i by omega]
        rw [BitVec.getLsbD_of_ge (r <<< 1) (i + 1) eq.ge, if_neg (by decide), zero_add, last]
        simp [eq]
      · rw [BitVec.getLsbD_of_ge (r <<< 1) (i + 1) gt.le, BitVec.getLsbD_of_ge r i (by omega),
          if_neg (by decide), if_neg (fun same => gt.ne same.1.symm), add_zero]

/-- The divisor `x^w + g`. -/
noncomputable def divisor (g : BitVec w) : (ZMod 2)[X] := X ^ w + toPoly g

theorem monic_divisor (g : BitVec w) : (divisor g).Monic :=
  monic_X_pow_add (degree_toPoly g)

theorem degree_divisor (g : BitVec w) : (divisor g).degree = w := by
  rw [divisor, degree_add_eq_left_of_degree_lt, degree_X_pow]
  rw [degree_X_pow]
  exact degree_toPoly g

/-- One bit of a division: the register is multiplied by `x`, the bit is added above it, and the
divisor is subtracted at most once. -/
theorem toPoly_feed (g r : BitVec w) (bit : Bool) (pos : 0 < w) :
    toPoly (feed g r bit) + divisor g * (if (r.msb != bit) = true then 1 else 0) =
      toPoly r * X + (if bit then 1 else 0) * X ^ w := by
  have two : ∀ p : (ZMod 2)[X], p + p = 0 := fun p => CharTwo.add_self_eq_zero p
  rw [← toPoly_shiftLeft r pos, feed, divisor]
  cases r.msb <;> cases bit <;>
    simp only [bne_self_eq_false, Bool.false_bne, Bool.true_bne, Bool.not_false,
      if_true, if_false, Bool.false_eq_true, mul_zero, mul_one, zero_mul, one_mul, add_zero,
      toPoly_xor]
  · linear_combination two (toPoly g)
  · linear_combination two (toPoly g)
  · linear_combination - two (X ^ w)

/-- **The check is the remainder** of the message, shifted up by the width, by the divisor. -/
theorem check_eq_remainder (g : BitVec w) (bits : List Bool) (pos : 0 < w) :
    toPoly (check g bits) = (message bits * X ^ w) %ₘ divisor g := by
  induction bits using List.reverseRecOn with
  | nil =>
      show toPoly (0#w) = (0 * X ^ w) %ₘ divisor g
      rw [toPoly_zero, zero_mul, zero_modByMonic]
  | append_singleton bits bit ih =>
      have step := toPoly_feed g (check g bits) bit pos
      have before := modByMonic_add_div (message bits * X ^ w) (divisor g)
      rw [← ih] at before
      have fed : check g (bits ++ [bit]) = feed g (check g bits) bit := by
        rw [check, List.foldl_append]
        rfl
      have grown : message (bits ++ [bit]) = message bits * X + if bit then 1 else 0 := by
        rw [message, List.foldl_append]
        rfl
      rw [fed, grown]
      refine ((div_modByMonic_unique
        (message bits * X ^ w /ₘ divisor g * X + if ((check g bits).msb != bit) = true then 1 else 0)
        _ (monic_divisor g) ⟨?_, ?_⟩).2).symm
      · linear_combination step + X * before
      · rw [degree_divisor]
        exact degree_toPoly _

end Zboss.Theory.Crc
