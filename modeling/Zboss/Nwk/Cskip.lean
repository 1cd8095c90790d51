/-
# Nwk.Cskip -- what the Cskip computation yields

`zbNwkDaaCalcCskip_spec`: where the parent's block fits 16 bits, Cskip is the size
of a child router's block; neither the loop nor the division loses anything then.
-/
import Mathlib
import Zboss.Theory.BlockTree
import Zboss.Nwk.TreeRouting

namespace Zboss.Nwk.Cskip

open Zboss.Theory.BlockTree
open Zboss.Nwk.TreeRouting

set_option autoImplicit false

/-- The block of a device at a depth, as many levels above the deepest one. -/
def blockAt (nib : TreeNib) (depth : UInt8) : Nat :=
  span nib.maxChildren.toNat nib.maxRouters.toNat (nib.maxDepth.toNat - depth.toNat)

theorem cskipPower_toNat (maxRouters : UInt8) (n : Nat) (tmp : UInt16) :
    (cskipPower maxRouters n tmp).toNat = tmp.toNat * maxRouters.toNat ^ n % 65536 := by
  induction n generalizing tmp with
  | zero =>
      rw [cskipPower, Nat.pow_zero, Nat.mul_one]
      exact (Nat.mod_eq_of_lt tmp.toNat_lt).symm
  | succ n ih =>
      have unwrapped := Nat.mod_mul_mod (tmp.toNat * maxRouters.toNat) (maxRouters.toNat ^ n) 65536
      rw [cskipPower, ih, UInt16.toNat_mul, UInt8.toNat_toUInt16]
      refine unwrapped.trans ?_
      rw [Nat.mul_assoc, ← Nat.pow_succ']

/-- A number that fits is kept. -/
theorem ofInt_toNat {n : Nat} (fits : n < 65536) : (UInt16.ofInt (n : Int)).toNat = n := by
  have wrapped : ((n : Int) % 2 ^ 16).toNat = n := by omega
  rw [UInt16.ofInt, wrapped]
  exact UInt16.toNat_ofNat_of_lt' fits

/-- The numerator is a multiple of the denominator, over the integers. -/
theorem cskip_numerator (children routers : Int) (h : Nat) :
    1 + children - routers - children * routers ^ h =
      (1 - routers) * (1 + children * ∑ k ∈ Finset.range h, routers ^ k) := by
  have geometric := mul_neg_geom_sum routers h
  linear_combination (-children) * geometric

/-- The quotient, over the integers. -/
theorem cskip_quotient (children routers : Int) (h : Nat) (several : routers ≠ 1) :
    (1 + children - routers - children * routers ^ h).tdiv (1 - routers) =
      1 + children * ∑ k ∈ Finset.range h, routers ^ k := by
  rw [cskip_numerator]
  exact Int.mul_tdiv_cancel_left _ (sub_ne_zero.2 several.symm)

section Spec

variable {nib : TreeNib} {depth : UInt8}

theorem below_toNat (below : depth < nib.maxDepth) :
    (nib.maxDepth.toNat - depth.toNat - 1 : Int) = ((nib.maxDepth.toNat - depth.toNat - 1 : Nat) : Int) := by
  have lt : depth.toNat < nib.maxDepth.toNat := below
  omega

theorem span_lt_of_fits {children routers h : Nat} (le : children < 65535)
    (fits : span children routers (h + 1) ≤ 65536) : span children routers h < 65536 := by
  rcases Nat.eq_zero_or_pos children with rfl | some
  · simp [span]
  · rcases Nat.eq_zero_or_pos routers with rfl | positive
    · cases h with
      | zero => simp
      | succ h =>
          rw [span_succ, Nat.zero_mul]
          omega
    · have grows : 1 ≤ routers ^ h := Nat.one_le_pow _ _ positive
      have more : children * 1 ≤ children * routers ^ h := Nat.mul_le_mul_left _ grows
      rw [span, Finset.sum_range_succ, Nat.mul_add] at fits
      rw [span]
      omega

/-- The product with the power the loop has computed. -/
theorem children_mul_cskipPower {h : Nat}
    (fits : span nib.maxChildren.toNat nib.maxRouters.toNat (h + 1) ≤ 65536) :
    (nib.maxChildren.toNat : Int) * (cskipPower nib.maxRouters h 1).toNat =
      nib.maxChildren.toNat * (nib.maxRouters.toNat : Int) ^ h := by
  rcases Nat.eq_zero_or_pos nib.maxChildren.toNat with none | some
  · simp [none]
  · have kept := pow_lt_span_succ nib.maxRouters.toNat h some
    rw [cskipPower_toNat, UInt16.toNat_one, Nat.one_mul, Nat.mod_eq_of_lt (by omega), Nat.cast_pow]

/-- **Cskip** is the block of the child routers. -/
theorem zbNwkDaaCalcCskip_spec (below : depth < nib.maxDepth) (fits : blockAt nib depth ≤ 65536) :
    (zbNwkDaaCalcCskip nib depth).toNat =
      span nib.maxChildren.toNat nib.maxRouters.toNat (nib.maxDepth.toNat - depth.toNat - 1) := by
  have lt : depth.toNat < nib.maxDepth.toNat := below
  have levels : nib.maxDepth.toNat - depth.toNat = nib.maxDepth.toNat - depth.toNat - 1 + 1 := by omega
  rw [blockAt, levels] at fits
  have small := span_lt_of_fits (by have := nib.maxChildren.toNat_lt; omega) fits
  rw [← ofInt_toNat small]
  simp only [zbNwkDaaCalcCskip, below_toNat below, Int.toNat_natCast]
  generalize nib.maxDepth.toNat - depth.toNat - 1 = h at fits small ⊢
  split
  · rename_i single
    simp [single, span]
  · rename_i several
    have several : (nib.maxRouters.toNat : Int) ≠ 1 := by
      intro one
      exact several (UInt8.toNat_inj.1 (by exact_mod_cast one))
    rw [children_mul_cskipPower fits, cskip_quotient _ _ _ several]
    simp [span]

/-- The router above has the whole block. -/
theorem blockAt_of_parent (below : depth - 1 < nib.maxDepth) (notRoot : depth ≠ 0)
    (fits : blockAt nib (depth - 1) ≤ 65536) :
    (zbNwkDaaCalcCskip nib (depth - 1)).toNat = blockAt nib depth := by
  have positive : 0 < depth.toNat := Nat.pos_of_ne_zero fun zero => notRoot (UInt8.toNat_inj.1 zero)
  have pred : (depth - 1).toNat = depth.toNat - 1 := by
    have one : (1 : UInt8) ≤ depth := UInt8.le_iff_toNat_le.2 positive
    rw [UInt8.toNat_sub_of_le _ _ one]
    rfl
  rw [zbNwkDaaCalcCskip_spec below fits, blockAt, pred]
  congr 1
  omega

end Spec

end Zboss.Nwk.Cskip
