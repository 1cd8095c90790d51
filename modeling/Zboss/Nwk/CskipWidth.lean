/-
# Nwk.CskipWidth -- Cskip with the integers of the platform

The Cskip computation is written with `int`, which has 32 bits on a PC and 16 on an 8051; a
`zb_uint16_t` in an expression is taken for an `int` on the first and for an `unsigned` on the
second.  `CskipExact` says that every value that is computed fits its type, that the
division is exact and not by zero, and that the results satisfy the recurrence.

`cskipExact_iff`: for a network whose addresses fit 16 bits this holds at all depths on a
PC, and on an 8051 exactly when the numerator and the result fit an `int` for the
coordinator (`Narrow`).  On a PC the computation is that of `Nwk.TreeRouting` (`calcCskip_pc`).

Pole: `narrow_int_overflows`.
-/
import Mathlib
import Zboss.Nwk.Cskip

namespace Zboss.Nwk.CskipWidth

open Zboss.Theory.BlockTree
open Zboss.Nwk.TreeRouting
open Zboss.Nwk.Cskip

set_option autoImplicit false

/-! ## Integers -/

/-- Where the stack runs: an `int` is "32 bit on PC, 8 and 16 bit on 8051". -/
inductive Platform where
  | pc
  | c8051
  deriving DecidableEq

def Platform.intBits : Platform → Nat
  | .pc => 32
  | .c8051 => 16

/-- The value fits an `int`. -/
def FitsInt (p : Platform) (x : Int) : Prop :=
  -(2 ^ (p.intBits - 1)) ≤ x ∧ x < 2 ^ (p.intBits - 1)

/-- The value fits the type of an expression with a `zb_uint16_t` in it. -/
def FitsMixed : Platform → Int → Prop
  | .pc, x => FitsInt .pc x
  | .c8051, x => 0 ≤ x ∧ x < 2 ^ 16

def FitsShort (x : Int) : Prop := 0 ≤ x ∧ x < 2 ^ 16

/-- What is left of a value in an `int`. -/
def toInt (p : Platform) (x : Int) : Int := x.bmod (2 ^ p.intBits)

theorem toInt_of_fits {p : Platform} {x : Int} (fits : FitsInt p x) : toInt p x = x := by
  obtain ⟨low, high⟩ := fits
  cases p <;>
  · simp only [Platform.intBits] at low high
    rw [toInt, Platform.intBits, Int.bmod_eq_of_le] <;> omega

/-! ## The computation -/

section Values

variable (nib : TreeNib) (depth : UInt8)

/-- The levels below the children. -/
def levelsBelow : Nat := nib.maxDepth.toNat - depth.toNat - 1

def numerator : Int :=
  1 + (nib.maxChildren.toNat : Int) - nib.maxRouters.toNat -
    nib.maxChildren.toNat * (nib.maxRouters.toNat : Int) ^ levelsBelow nib depth

def denominator : Int := 1 - (nib.maxRouters.toNat : Int)

/-- The values of type `int`, in the order they are computed. -/
def intValues : List Int :=
  if nib.maxRouters = 1 then
    [nib.maxDepth.toNat - depth.toNat, levelsBelow nib depth,
      nib.maxChildren.toNat * levelsBelow nib depth,
      1 + nib.maxChildren.toNat * levelsBelow nib depth]
  else
    [nib.maxDepth.toNat - depth.toNat, levelsBelow nib depth, 1 + nib.maxChildren.toNat,
      1 + nib.maxChildren.toNat - nib.maxRouters.toNat, numerator nib depth, denominator nib,
      (numerator nib depth).tdiv (denominator nib)]

/-- The products with `tmp`: one in each turn of the loop, and one in the numerator. -/
def mixedValues : List Int :=
  if nib.maxRouters = 1 then []
  else
    (List.range (levelsBelow nib depth)).map (fun i => (nib.maxRouters.toNat : Int) ^ (i + 1)) ++
      [nib.maxChildren.toNat * (nib.maxRouters.toNat : Int) ^ levelsBelow nib depth]

/-- What is assigned to a `zb_uint16_t`: `tmp` in each turn, and the result. -/
def shortValues : List Int :=
  if nib.maxRouters = 1 then [1 + nib.maxChildren.toNat * levelsBelow nib depth]
  else
    (List.range (levelsBelow nib depth)).map (fun i => (nib.maxRouters.toNat : Int) ^ (i + 1)) ++
      [(numerator nib depth).tdiv (denominator nib)]

/-- `zb_nwk_daa_calc_cskip`.  On an 8051 the numerator is computed as an `unsigned`, and what
is left of it is put in an `int`. -/
def calcCskip (p : Platform) : UInt16 :=
  let maxChildren : Int := nib.maxChildren.toNat
  let maxRouters : Int := nib.maxRouters.toNat
  let below : Int := nib.maxDepth.toNat - depth.toNat - 1
  if nib.maxRouters = 1 then UInt16.ofInt (toInt p (1 + maxChildren * below))
  else
    let tmp := cskipPower nib.maxRouters below.toNat 1
    let num := toInt p (1 + maxChildren - maxRouters - maxChildren * tmp.toNat)
    let den := 1 - maxRouters
    UInt16.ofInt (num.tdiv den)

end Values

/-- **Exact arithmetic** at a depth. -/
structure CskipExact (p : Platform) (nib : TreeNib) (depth : UInt8) : Prop where
  ints : ∀ x ∈ intValues nib depth, FitsInt p x
  mixed : ∀ x ∈ mixedValues nib depth, FitsMixed p x
  shorts : ∀ x ∈ shortValues nib depth, FitsShort x
  divisor : nib.maxRouters ≠ 1 → denominator nib ≠ 0
  divides : nib.maxRouters ≠ 1 → denominator nib ∣ numerator nib depth
  last : depth + 1 = nib.maxDepth → calcCskip nib depth p = 1
  next : depth + 1 < nib.maxDepth → (calcCskip nib depth p).toNat =
    1 + (nib.maxChildren.toNat - nib.maxRouters.toNat) +
      nib.maxRouters.toNat * (calcCskip nib (depth + 1) p).toNat

/-- Cskip of the coordinator. -/
def rootCskip (nib : TreeNib) : Nat :=
  span nib.maxChildren.toNat nib.maxRouters.toNat (nib.maxDepth.toNat - 1)

/-- The coordinator's numerator and result fit an `int` of 16 bits. -/
def Narrow (nib : TreeNib) : Prop :=
  rootCskip nib < 2 ^ 15 ∧ (nib.maxRouters.toNat - 1) * rootCskip nib ≤ 2 ^ 15

instance (nib : TreeNib) : Decidable (Narrow nib) := inferInstanceAs (Decidable (_ ∧ _))

section Values

variable {p : Platform} {nib : TreeNib} {depth : UInt8}

/-- **The closed form**: the numerator is Cskip, with the factor that is divided out. -/
theorem numerator_eq : numerator nib depth = denominator nib *
    span nib.maxChildren.toNat nib.maxRouters.toNat (levelsBelow nib depth) := by
  rw [numerator, cskip_numerator, denominator, span]
  push_cast
  rfl

theorem denominator_ne (several : nib.maxRouters ≠ 1) : denominator nib ≠ 0 := by
  intro zero
  apply several
  apply UInt8.toNat_inj.1
  simp only [denominator] at zero
  have one : (1 : UInt8).toNat = 1 := rfl
  omega

theorem quotient_eq (several : nib.maxRouters ≠ 1) :
    (numerator nib depth).tdiv (denominator nib) =
      span nib.maxChildren.toNat nib.maxRouters.toNat (levelsBelow nib depth) := by
  rw [numerator_eq]
  exact Int.mul_tdiv_cancel_left _ (denominator_ne several)

/-- With one child router there is no closed form to evaluate. -/
theorem single_eq (depth : UInt8) (single : nib.maxRouters = 1) :
    (1 + nib.maxChildren.toNat * levelsBelow nib depth : Int) =
      span nib.maxChildren.toNat nib.maxRouters.toNat (levelsBelow nib depth) := by
  simp [single, span]

/-- Sixteen bits are enough everywhere. -/
theorem fitsInt_of_narrow {x : Int} (low : -(2 ^ 15) ≤ x) (high : x < 2 ^ 15) : FitsInt p x := by
  cases p <;>
  · simp only [FitsInt, Platform.intBits]
    omega

theorem fitsMixed_of_short {x : Int} (fits : FitsShort x) : FitsMixed p x := by
  obtain ⟨low, high⟩ := fits
  cases p with
  | c8051 => exact ⟨low, high⟩
  | pc =>
      simp only [FitsMixed, FitsInt, Platform.intBits]
      omega

/-- **On a PC** nothing is ever lost in an `int`. -/
theorem calcCskip_pc : calcCskip nib depth .pc = zbNwkDaaCalcCskip nib depth := by
  have children := nib.maxChildren.toNat_lt
  have routers := nib.maxRouters.toNat_lt
  have maxDepth := nib.maxDepth.toNat_lt
  have level := depth.toNat_lt
  simp only [calcCskip, zbNwkDaaCalcCskip]
  split
  · rw [toInt_of_fits]
    have low : -(255 * 256 : Int) ≤ nib.maxChildren.toNat * (nib.maxDepth.toNat - depth.toNat - 1) := by
      nlinarith
    have high : nib.maxChildren.toNat * (nib.maxDepth.toNat - depth.toNat - 1 : Int) ≤ 255 * 255 := by
      nlinarith
    simp only [FitsInt, Platform.intBits]
    omega
  · generalize cskipPower nib.maxRouters _ 1 = tmp
    have short := tmp.toNat_lt
    have product : nib.maxChildren.toNat * tmp.toNat ≤ 255 * 65535 :=
      Nat.mul_le_mul (by omega) (by omega)
    rw [toInt_of_fits]
    simp only [FitsInt, Platform.intBits]
    omega

end Values

/-! ## Depth by depth -/

section Depths

variable {p : Platform} {nib : TreeNib} {depth : UInt8}

/-- The block of a router at the depth fits, as the coordinator's does. -/
theorem span_fits (below : depth < nib.maxDepth) (fits : blockAt nib 0 ≤ 65536) :
    span nib.maxChildren.toNat nib.maxRouters.toNat (levelsBelow nib depth + 1) ≤ 65536 := by
  have lt : depth.toNat < nib.maxDepth.toNat := below
  refine le_trans (span_mono ?_) fits
  have zero : (0 : UInt8).toNat = 0 := rfl
  rw [levelsBelow]
  omega

theorem span_le_root (nib : TreeNib) (depth : UInt8) :
    span nib.maxChildren.toNat nib.maxRouters.toNat (levelsBelow nib depth) ≤ rootCskip nib := by
  refine span_mono ?_
  rw [levelsBelow]
  omega

/-- The powers of the loop fit `tmp`. -/
theorem power_fits (fewer : nib.maxRouters ≤ nib.maxChildren) (below : depth < nib.maxDepth)
    (fits : blockAt nib 0 ≤ 65536) {i : Nat} (turn : i < levelsBelow nib depth) :
    FitsShort ((nib.maxRouters.toNat : Int) ^ (i + 1)) := by
  have fewer : nib.maxRouters.toNat ≤ nib.maxChildren.toNat := fewer
  have small : nib.maxRouters.toNat ^ (i + 1) < 2 ^ 16 := by
    rcases Nat.eq_zero_or_pos nib.maxRouters.toNat with none | some
    · rw [none, Nat.zero_pow (Nat.succ_pos i)]
      decide
    · calc nib.maxRouters.toNat ^ (i + 1)
          ≤ nib.maxRouters.toNat ^ levelsBelow nib depth := Nat.pow_le_pow_right some turn
        _ < span nib.maxChildren.toNat nib.maxRouters.toNat (levelsBelow nib depth + 1) :=
            pow_lt_span_succ _ _ (some.trans_le fewer)
        _ ≤ 2 ^ 16 := span_fits below fits
  constructor
  · positivity
  · exact_mod_cast small

/-- Cskip fits an `int` where there is room, and so does the numerator. -/
theorem room_fits (depth : UInt8) (room : p = .pc ∨ Narrow nib)
    (fits : rootCskip nib < 65536) :
    FitsInt p (span nib.maxChildren.toNat nib.maxRouters.toNat (levelsBelow nib depth) : Nat) ∧
      FitsInt p (numerator nib depth) := by
  have le := span_le_root nib depth
  have byte := nib.maxRouters.toNat_lt
  rw [numerator_eq, denominator]
  generalize span nib.maxChildren.toNat nib.maxRouters.toNat (levelsBelow nib depth) = s at le ⊢
  have scaled := Nat.mul_le_mul_left (nib.maxRouters.toNat - 1) le
  have factor : (1 - (nib.maxRouters.toNat : Int)) * s =
      if nib.maxRouters.toNat = 0 then (s : Int)
      else -(((nib.maxRouters.toNat - 1) * s : Nat) : Int) := by
    cases nib.maxRouters.toNat with
    | zero => simp
    | succ m =>
        rw [if_neg (Nat.succ_ne_zero m)]
        rw [Nat.add_sub_cancel]
        push_cast
        ring
  rw [factor]
  rcases room with rfl | ⟨result, product⟩
  · have product : (nib.maxRouters.toNat - 1) * s ≤ 254 * 65535 :=
      Nat.mul_le_mul (by omega) (by omega)
    simp only [FitsInt, Platform.intBits]
    split <;> omega
  · refine ⟨fitsInt_of_narrow (by omega) (by omega), ?_⟩
    split
    · exact fitsInt_of_narrow (by omega) (by omega)
    · exact fitsInt_of_narrow (by omega) (by omega)

/-- Where the numerator fits, no bit of the computation is lost. -/
theorem calcCskip_spec (room : p = .pc ∨ Narrow nib) (below : depth < nib.maxDepth)
    (fits : blockAt nib 0 ≤ 65536) (small : rootCskip nib < 65536) :
    (calcCskip nib depth p).toNat =
      span nib.maxChildren.toNat nib.maxRouters.toNat (levelsBelow nib depth) := by
  obtain ⟨result, top⟩ := room_fits depth room small
  have le := span_le_root nib depth
  have levels : nib.maxDepth.toNat - depth.toNat - 1 = levelsBelow nib depth := rfl
  rw [← ofInt_toNat (le.trans_lt small)]
  simp only [calcCskip, below_toNat below, Int.toNat_natCast, levels]
  split
  · rename_i single
    rw [single_eq depth single, toInt_of_fits result]
  · rename_i several
    rw [children_mul_cskipPower (span_fits below fits)]
    change (UInt16.ofInt ((toInt p (numerator nib depth)).tdiv (denominator nib))).toNat = _
    rw [toInt_of_fits top, quotient_eq several]

theorem root_lt (deep : 0 < nib.maxDepth.toNat) (fits : blockAt nib 0 ≤ 65536) :
    rootCskip nib < 65536 := by
  have levels : nib.maxDepth.toNat - (0 : UInt8).toNat = nib.maxDepth.toNat - 1 + 1 := by
    have zero : (0 : UInt8).toNat = 0 := rfl
    omega
  rw [blockAt, levels] at fits
  exact span_lt_of_fits (by have := nib.maxChildren.toNat_lt; omega) fits

theorem toNat_succ (below : depth < nib.maxDepth) : (depth + 1).toNat = depth.toNat + 1 := by
  have lt : depth.toNat < nib.maxDepth.toNat := below
  have byte := nib.maxDepth.toNat_lt
  rw [UInt8.toNat_add]
  exact Nat.mod_eq_of_lt (by simpa using (by omega : depth.toNat + 1 < 256))

/-- Every value fits its type. -/
theorem ints_fit (room : p = .pc ∨ Narrow nib) (small : rootCskip nib < 65536) :
    ∀ x ∈ intValues nib depth, FitsInt p x := by
  obtain ⟨result, top⟩ := room_fits depth room small
  have children := nib.maxChildren.toNat_lt
  have routers := nib.maxRouters.toNat_lt
  have maxDepth := nib.maxDepth.toNat_lt
  have level := depth.toNat_lt
  have levels : levelsBelow nib depth ≤ nib.maxDepth.toNat := by
    rw [levelsBelow]
    omega
  intro x mem
  simp only [intValues] at mem
  split at mem
  · rename_i single
    have value := single_eq depth single
    rw [← value] at result
    have positive : (0 : Int) ≤ nib.maxChildren.toNat * levelsBelow nib depth := by positivity
    simp only [List.mem_cons, List.not_mem_nil, or_false] at mem
    rcases mem with rfl | rfl | rfl | rfl
    · exact fitsInt_of_narrow (by omega) (by omega)
    · exact fitsInt_of_narrow (by omega) (by omega)
    · have low : -(2 ^ (p.intBits - 1) : Int) ≤ 0 := by cases p <;> decide
      exact ⟨low.trans positive, (Int.lt_add_of_pos_left _ Int.one_pos).trans result.2⟩
    · exact result
  · rename_i several
    simp only [List.mem_cons, List.not_mem_nil, or_false] at mem
    rcases mem with rfl | rfl | rfl | rfl | rfl | rfl | rfl
    · exact fitsInt_of_narrow (by omega) (by omega)
    · exact fitsInt_of_narrow (by omega) (by omega)
    · exact fitsInt_of_narrow (by omega) (by omega)
    · exact fitsInt_of_narrow (by omega) (by omega)
    · exact top
    · exact fitsInt_of_narrow (by rw [denominator]; omega) (by rw [denominator]; omega)
    · rw [quotient_eq several]
      exact result

theorem product_fits (below : depth < nib.maxDepth) (fits : blockAt nib 0 ≤ 65536) :
    FitsShort (nib.maxChildren.toNat * (nib.maxRouters.toNat : Int) ^ levelsBelow nib depth) := by
  have small : nib.maxChildren.toNat * nib.maxRouters.toNat ^ levelsBelow nib depth < 2 ^ 16 :=
    mul_pow_lt_span_succ.trans_le (span_fits below fits)
  constructor
  · positivity
  · exact_mod_cast small

theorem mixed_fit (fewer : nib.maxRouters ≤ nib.maxChildren) (below : depth < nib.maxDepth)
    (fits : blockAt nib 0 ≤ 65536) : ∀ x ∈ mixedValues nib depth, FitsMixed p x := by
  intro x mem
  simp only [mixedValues] at mem
  split at mem
  · exact absurd mem List.not_mem_nil
  · simp only [List.mem_append, List.mem_map, List.mem_range, List.mem_singleton] at mem
    rcases mem with ⟨i, turn, rfl⟩ | rfl
    · exact fitsMixed_of_short (power_fits fewer below fits turn)
    · exact fitsMixed_of_short (product_fits below fits)

theorem shorts_fit (fewer : nib.maxRouters ≤ nib.maxChildren) (below : depth < nib.maxDepth)
    (fits : blockAt nib 0 ≤ 65536) (small : rootCskip nib < 65536) :
    ∀ x ∈ shortValues nib depth, FitsShort x := by
  have le := span_le_root nib depth
  intro x mem
  simp only [shortValues] at mem
  split at mem
  · rename_i single
    rw [single_eq depth single, List.mem_singleton] at mem
    rw [mem, FitsShort]
    omega
  · rename_i several
    simp only [List.mem_append, List.mem_map, List.mem_range, List.mem_singleton] at mem
    rcases mem with ⟨i, turn, rfl⟩ | rfl
    · exact power_fits fewer below fits turn
    · rw [quotient_eq several, FitsShort]
      omega

/-- What fits at the coordinator. -/
theorem narrow_of_fits (ints : ∀ x ∈ intValues nib 0, FitsInt .c8051 x) : Narrow nib := by
  have levels : span nib.maxChildren.toNat nib.maxRouters.toNat (levelsBelow nib 0) =
      rootCskip nib := rfl
  simp only [intValues] at ints
  split at ints
  · rename_i single
    have value := single_eq 0 single
    have result := ints (1 + nib.maxChildren.toNat * levelsBelow nib 0) (by simp)
    rw [value, levels, FitsInt, Platform.intBits] at result
    constructor
    · omega
    · simp [single]
  · rename_i several
    have result := ints ((numerator nib 0).tdiv (denominator nib)) (by simp)
    have top := ints (numerator nib 0) (by simp)
    rw [quotient_eq several, levels, FitsInt, Platform.intBits] at result
    rw [numerator_eq, levels, denominator, FitsInt, Platform.intBits] at top
    refine ⟨by omega, ?_⟩
    generalize nib.maxRouters.toNat = routers at top ⊢
    cases routers with
    | zero => simp
    | succ m =>
        push_cast at top
        have product : (1 - ((m : Int) + 1)) * rootCskip nib = -((m * rootCskip nib : Nat) : Int) := by
          push_cast
          ring
        rw [product] at top
        rw [Nat.add_sub_cancel]
        omega

/-- **At every depth**, where there is room for the coordinator's. -/
theorem cskipExact_of_room (fewer : nib.maxRouters ≤ nib.maxChildren)
    (fits : blockAt nib 0 ≤ 65536) (room : p = .pc ∨ Narrow nib) (below : depth < nib.maxDepth) :
    CskipExact p nib depth := by
  have lt : depth.toNat < nib.maxDepth.toNat := below
  have small : rootCskip nib < 65536 := root_lt (by omega) fits
  have value := calcCskip_spec room below fits small
  refine ⟨ints_fit room small, mixed_fit fewer below fits, shorts_fit fewer below fits small,
    denominator_ne, fun _ => ?_, fun deepest => ?_, fun above => ?_⟩
  · rw [numerator_eq]
    exact Int.dvd_mul_right _ _
  · have none : levelsBelow nib depth = 0 := by
      rw [levelsBelow, ← deepest, toNat_succ below]
      omega
    rw [none, span_zero] at value
    exact UInt16.toNat_inj.1 value
  · have next := calcCskip_spec room above fits small
    have above : (depth + 1).toNat < nib.maxDepth.toNat := above
    rw [toNat_succ below] at above
    have levels : levelsBelow nib depth = levelsBelow nib (depth + 1) + 1 := by
      rw [levelsBelow, levelsBelow, toNat_succ below]
      omega
    have fewer : nib.maxRouters.toNat ≤ nib.maxChildren.toNat := fewer
    obtain ⟨m, size⟩ := Nat.exists_eq_add_of_le (one_le_span nib.maxChildren.toNat
      nib.maxRouters.toNat (levelsBelow nib (depth + 1)))
    rw [value, next, levels, span_succ, size, Nat.add_sub_cancel_left, Nat.mul_add]
    omega

end Depths

/-- **Cskip is exact** at all depths of a network whose addresses fit 16 bits: on a PC always, on
an 8051 where the coordinator's numerator and result fit an `int`. -/
theorem cskipExact_iff (p : Platform) (nib : TreeNib) (fewer : nib.maxRouters ≤ nib.maxChildren)
    (fits : blockAt nib 0 ≤ 65536) :
    (∀ depth, depth < nib.maxDepth → CskipExact p nib depth) ↔ p = .pc ∨ Narrow nib := by
  constructor
  · intro exact_
    cases p with
    | pc => exact .inl rfl
    | c8051 =>
        right
        rcases Nat.eq_zero_or_pos nib.maxDepth.toNat with none | deep
        · have byte := nib.maxRouters.toNat_lt
          have one : rootCskip nib = 1 := by
            rw [rootCskip, none]
            exact span_zero
          rw [Narrow, one]
          omega
        · have atRoot := exact_ 0 deep
          exact narrow_of_fits atRoot.ints
  · exact fun room depth below => cskipExact_of_room fewer fits room below

/-- The coordinator of the configuration header, on an 8051. -/
theorem cskipExact_configured : CskipExact .c8051 ⟨5, 4, 4, 0, 0⟩ 0 :=
  (cskipExact_iff .c8051 ⟨5, 4, 4, 0, 0⟩ (by decide) (by decide +kernel)).2
    (.inr (by decide +kernel)) 0 (by decide)

/-- **The numerator overflows an `int` of 16 bits**: with 200 routers and 54 end devices at
most under the coordinator, and nothing below the routers but their children. -/
theorem narrow_int_overflows :
    ¬ ∀ p nib, nib.maxRouters ≤ nib.maxChildren → blockAt nib 0 ≤ 65536 →
      ∀ depth, depth < nib.maxDepth → CskipExact p nib depth := by
  intro exact_
  have atRoot := exact_ .c8051 ⟨2, 254, 200, 0, 0⟩ (by decide) (by decide +kernel) 0 (by decide)
  have next := atRoot.next (by decide)
  revert next
  decide +kernel

end Zboss.Nwk.CskipWidth
