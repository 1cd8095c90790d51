/-
# Theory.BlockTree -- a tree numbered by nested blocks

A node of height `h` owns a block of `size h` numbers: its own number, then one block
for each of its inner children, then one number for each of its leaves (`Nested`; there
may be numbers left).  A node is a path of inner children, and possibly a leaf at its
end; `place` is its number relative to the root.

`span` is the size written as a sum of powers, with the number of all children of a
node instead of that of its leaves; `span_succ` is its recursion.

`inBlock_iff`: a number of a node lies in the block of an inner node exactly if the node
lies under it; `place_inj`: no two nodes share a number.
-/
import Mathlib

namespace Zboss.Theory.BlockTree

set_option autoImplicit false

variable (size : Nat → Nat) (inner leaves : Nat)

/-- The blocks of the children fit that of their parent. -/
structure Nested : Prop where
  pos : ∀ h, 0 < size h
  fits : ∀ h, 1 + inner * size h + leaves ≤ size (h + 1)

/-- The number of the node at the end of a path, relative to the block's owner. -/
def place : Nat → List Nat → Option Nat → Nat
  | _, [], none => 0
  | h + 1, [], some n => inner * size h + n + 1
  | h + 1, i :: q, o => size h * i + 1 + place h q o
  | 0, [], some _ => 0
  | 0, _ :: _, _ => 0

/-- The path is one of the tree. -/
def Valid : Nat → List Nat → Option Nat → Prop
  | _, [], none => True
  | _ + 1, [], some n => n < leaves
  | h + 1, i :: q, o => i < inner ∧ Valid h q o
  | 0, [], some _ => False
  | 0, _ :: _, _ => False

attribute [local simp] place Valid

variable {size inner leaves}

section Paths

variable {h : Nat} {p q u r : List Nat} {o o' : Option Nat}

/-- An earlier block ends before a later one begins. -/
theorem blocks_apart {s i j : Nat} (lt : i < j) : s * i + s ≤ s * j :=
  Nat.mul_succ s i ▸ Nat.mul_le_mul_left s lt

/-- The blocks of the inner children fit. -/
theorem child_block_le (s : Nat) {i : Nat} (lt : i < inner) : s * i + 1 + s ≤ 1 + inner * s := by
  have fits := blocks_apart (s := s) lt
  rw [Nat.mul_comm _ inner] at fits
  omega

theorem length_le (valid : Valid inner leaves h q o) : q.length ≤ h := by
  induction q generalizing h with
  | nil => exact Nat.zero_le h
  | cons i q ih =>
      cases h with
      | zero => cases valid
      | succ h => exact Nat.succ_le_succ (ih valid.2)

/-- Above a leaf there is room for one more. -/
theorem length_lt {n : Nat} (valid : Valid inner leaves h q (some n)) : q.length < h := by
  induction q generalizing h with
  | nil =>
      cases h with
      | zero => cases valid
      | succ h => exact Nat.succ_pos h
  | cons i q ih =>
      cases h with
      | zero => cases valid
      | succ h => exact Nat.succ_lt_succ (ih valid.2)

theorem place_lt (nested : Nested size inner leaves) (valid : Valid inner leaves h q o) :
    place size inner h q o < size h := by
  induction q generalizing h with
  | nil =>
      cases o with
      | none =>
          rw [place]
          exact nested.pos h
      | some n =>
          cases h with
          | zero => cases valid
          | succ h =>
              have fits := nested.fits h
              rw [Valid] at valid
              rw [place]
              omega
  | cons i q ih =>
      cases h with
      | zero => cases valid
      | succ h =>
          have below := ih valid.2
          have room := child_block_le (size h) valid.1
          have fits := nested.fits h
          rw [place]
          omega

theorem valid_append :
    Valid inner leaves h (u ++ r) o ↔
      Valid inner leaves h u none ∧ Valid inner leaves (h - u.length) r o := by
  induction u generalizing h with
  | nil => simp
  | cons i u ih =>
      cases h with
      | zero => simp
      | succ h => simp [ih, and_assoc]

theorem place_append (valid : Valid inner leaves h u none) :
    place size inner h (u ++ r) o =
      place size inner h u none + place size inner (h - u.length) r o := by
  induction u generalizing h with
  | nil => simp
  | cons i u ih =>
      cases h with
      | zero => cases valid
      | succ h => simp [ih valid.2, Nat.add_assoc]

theorem block_le (nested : Nested size inner leaves) (valid : Valid inner leaves h u none) :
    place size inner h u none + size (h - u.length) ≤ size h := by
  induction u generalizing h with
  | nil => simp
  | cons i u ih =>
      cases h with
      | zero => cases valid
      | succ h =>
          have inside := ih valid.2
          have room := child_block_le (size h) valid.1
          have fits := nested.fits h
          rw [List.length_cons, Nat.add_sub_add_right, place]
          omega

/-- **The numbers of a block** are those of the nodes under its owner. -/
theorem inBlock_iff (nested : Nested size inner leaves) (validP : Valid inner leaves h p none)
    (validQ : Valid inner leaves h q o) :
    (place size inner h p none ≤ place size inner h q o ∧
        place size inner h q o < place size inner h p none + size (h - p.length)) ↔
      p <+: q := by
  induction p generalizing h q with
  | nil =>
      have lt := place_lt nested validQ
      simpa using lt
  | cons i p ih =>
      cases h with
      | zero => cases validP
      | succ h =>
          have inside := block_le nested validP.2
          have room := child_block_le (size h) validP.1
          cases q with
          | nil =>
              -- the owner of the whole block, or one of its leaves
              have outside : ¬ (i :: p) <+: ([] : List Nat) := by simp
              refine iff_of_false ?_ outside
              cases o with
              | none =>
                  simp only [place]
                  omega
              | some n =>
                  rw [List.length_cons, Nat.add_sub_add_right]
                  simp only [place]
                  omega
          | cons j q =>
              have below := place_lt nested validQ.2
              rw [List.length_cons, Nat.add_sub_add_right, place, place]
              rcases Nat.lt_trichotomy i j with lt | rfl | gt
              · have apart := blocks_apart (s := size h) lt
                refine iff_of_false (by omega) ?_
                simp [lt.ne]
              · rw [List.cons_prefix_cons, ← ih validP.2 validQ.2]
                omega
              · have apart := blocks_apart (s := size h) gt
                refine iff_of_false (by omega) ?_
                simp [gt.ne']

/-- **No two nodes share a number.** -/
theorem place_inj (nested : Nested size inner leaves) (validP : Valid inner leaves h p o)
    (validQ : Valid inner leaves h q o')
    (same : place size inner h p o = place size inner h q o') : p = q ∧ o = o' := by
  induction p generalizing h q with
  | nil =>
      cases q with
      | nil =>
          cases o <;> cases o' <;> cases h <;> simp at same validP validQ ⊢
          omega
      | cons j q =>
          cases h with
          | zero => cases validQ
          | succ h =>
              have below := place_lt nested validQ.2
              have room := child_block_le (size h) validQ.1
              cases o <;> simp only [place] at same <;> omega
  | cons i p ih =>
      cases h with
      | zero => cases validP
      | succ h =>
          have belowP := place_lt nested validP.2
          have roomP := child_block_le (size h) validP.1
          cases q with
          | nil => cases o' <;> simp only [place] at same <;> omega
          | cons j q =>
              have belowQ := place_lt nested validQ.2
              simp only [place] at same
              have head : i = j := by
                rcases Nat.lt_trichotomy i j with lt | eq | gt
                · have apart := blocks_apart (s := size h) lt
                  omega
                · exact eq
                · have apart := blocks_apart (s := size h) gt
                  omega
              subst head
              obtain ⟨rest, end_⟩ := ih validP.2 validQ.2 (by omega)
              exact ⟨congrArg (i :: ·) rest, end_⟩

end Paths

/-! ## Blocks by the number of children -/

/-- The block of a node of height `h` with so many children at most, of which so
many are inner. -/
def span (children inner h : Nat) : Nat := 1 + children * ∑ k ∈ Finset.range h, inner ^ k

section Span

variable {children inner h i n : Nat}

@[simp] theorem span_zero : span children inner 0 = 1 := by simp [span]

theorem one_le_span (children inner h : Nat) : 1 ≤ span children inner h := Nat.le_add_right 1 _

theorem span_succ :
    span children inner (h + 1) = 1 + children + inner * (span children inner h - 1) := by
  rw [span, span, geom_sum_succ, Nat.add_sub_cancel_left]
  ring

/-- The node's own number, the blocks of its inner children and its leaves; where there are more
inner children than children, no leaf is left. -/
theorem span_nested (children inner : Nat) :
    Nested (span children inner) (min inner children) (children - inner) where
  pos := one_le_span children inner
  fits h := by
    obtain ⟨m, size⟩ := Nat.exists_eq_add_of_le (one_le_span children inner h)
    have fewer : min inner children * m ≤ inner * m := Nat.mul_le_mul_right m (Nat.min_le_left _ _)
    rw [span_succ, size, Nat.add_sub_cancel_left, Nat.mul_add, Nat.mul_one]
    omega

theorem pow_lt_span_succ (inner h : Nat) (some : 0 < children) : inner ^ h < span children inner (h + 1) := by
  have term : inner ^ h ≤ ∑ k ∈ Finset.range (h + 1), inner ^ k := by
    rw [Finset.sum_range_succ]
    exact Nat.le_add_left _ _
  have scaled := Nat.mul_le_mul some term
  rw [span]
  omega

theorem span_le_succ : span children inner h ≤ span children inner (h + 1) := by
  rw [span, span, Finset.sum_range_succ, Nat.mul_add]
  omega

theorem span_mono {k : Nat} (le : h ≤ k) : span children inner h ≤ span children inner k := by
  induction le with
  | refl => exact Nat.le_refl _
  | step _ ih => exact ih.trans span_le_succ

/-- The last summand. -/
theorem mul_pow_lt_span_succ : children * inner ^ h < span children inner (h + 1) := by
  rw [span, Finset.sum_range_succ, Nat.mul_add]
  omega

/-- The block of inner child `i` ends inside that of its parent. -/
theorem inner_span_le (isInner : i < inner) (isChild : i < children) :
    i * span children inner h + 1 + span children inner h ≤ span children inner (h + 1) := by
  obtain ⟨m, size⟩ := Nat.exists_eq_add_of_le (one_le_span children inner h)
  have blocks : (i + 1) * m ≤ inner * m := Nat.mul_le_mul_right m isInner
  rw [span_succ, size, Nat.add_sub_cancel_left]
  calc i * (1 + m) + 1 + (1 + m) = (i + 1) * m + (i + 1) + 1 := by ring
    _ ≤ inner * m + children + 1 := by omega
    _ = 1 + children + inner * m := by ring

/-- Leaf `n` lies behind the inner blocks, inside the block of its parent. -/
theorem leaf_lt_span (room : n + inner < children) :
    inner * span children inner h + n + 1 < span children inner (h + 1) := by
  obtain ⟨m, size⟩ := Nat.exists_eq_add_of_le (one_le_span children inner h)
  rw [span_succ, size, Nat.add_sub_cancel_left, Nat.mul_add, Nat.mul_one]
  omega

end Span

end Zboss.Theory.BlockTree
