/-
# Theory.ByteMemory -- cells in a row, and copies in place

A memory is a function from places to cells.  `put` writes a list of cells from a place on,
`cellsAt` reads so many, and `copyItems` is the loop that copies item after item, forwards.

* `cellsAt_put_self` and `cellsAt_put_apart`: what is read is what has been put there, or what was
  there before;
* `put_covered`, `put_comm` and `foldl_put`: two writes that meet or do not, and writes in a row;
* `laid_iff`: parts that stand one behind the other are their cells in a row;
* `copyItems_eq`: the loop is one copy of all, whenever it goes to the left or the places it writes
  are behind the ones it reads.
-/
import Mathlib

namespace Zboss.Theory.ByteMemory

set_option autoImplicit false

variable {α : Type}

/-- The `n` cells from `at_` on. -/
def cellsAt (at_ n : Nat) (m : Nat → α) : List α := (List.range n).map fun i => m (at_ + i)

/-- Write cells from `at_` on. -/
def put (at_ : Nat) (cells : List α) (m : Nat → α) : Nat → α :=
  fun a => if at_ ≤ a then cells.getD (a - at_) (m a) else m a

/-- Copy `n` cells; all are read before the first is written. -/
def copyCells (dst src n : Nat) (m : Nat → α) : Nat → α := put dst (cellsAt src n m) m

/-- Copy `num` items of `size` cells, the first one first. -/
def copyItems (size dst src num : Nat) (m : Nat → α) : Nat → α :=
  (List.range num).foldl (fun m i => copyCells (dst + size * i) (src + size * i) size m) m

/-- Parts that stand one behind the other. -/
def Laid : Nat → List (List α) → (Nat → α) → Prop
  | _, [], _ => True
  | at_, part :: parts, m => cellsAt at_ part.length m = part ∧ Laid (at_ + part.length) parts m

section Reading

variable {at_ n k : Nat} {m m' : Nat → α}

@[simp] theorem length_cellsAt : (cellsAt at_ n m).length = n := by
  rw [cellsAt, List.length_map, List.length_range]

theorem getD_cellsAt {i : Nat} (less : i < n) (d : α) : (cellsAt at_ n m).getD i d = m (at_ + i) := by
  rw [cellsAt, List.getD_eq_getElem?_getD, List.getElem?_map, List.getElem?_range less]
  rfl

theorem cellsAt_add : cellsAt at_ (n + k) m = cellsAt at_ n m ++ cellsAt (at_ + n) k m := by
  simp only [cellsAt, List.range_add, List.map_append, List.map_map, Function.comp_def,
    Nat.add_assoc]

theorem cellsAt_congr (same : ∀ i < n, m (at_ + i) = m' (at_ + i)) :
    cellsAt at_ n m = cellsAt at_ n m' :=
  List.map_congr_left fun i mem => same i (List.mem_range.1 mem)

/-- Parts one behind the other are their cells in a row. -/
theorem laid_iff {parts : List (List α)} :
    Laid at_ parts m ↔ cellsAt at_ parts.flatten.length m = parts.flatten := by
  induction parts generalizing at_ with
  | nil => exact iff_of_true trivial rfl
  | cons part parts ih =>
      rw [Laid, ih, List.flatten_cons, List.length_append, cellsAt_add]
      constructor
      · rintro ⟨first, rest⟩
        rw [first, rest]
      · intro all
        exact List.append_inj all length_cellsAt

end Reading

section Writing

variable {at_ a : Nat} {cells : List α} {m : Nat → α}

theorem put_before (before : a < at_) : put at_ cells m a = m a := if_neg (Nat.not_le.2 before)

theorem put_behind (behind : at_ + cells.length ≤ a) : put at_ cells m a = m a := by
  rw [put, if_pos (by omega), List.getD_eq_default _ _ (by omega)]

theorem put_inside {i : Nat} (less : i < cells.length) : put at_ cells m (at_ + i) = cells[i] := by
  rw [put, if_pos (Nat.le_add_right ..), Nat.add_sub_cancel_left, List.getD_eq_getElem _ _ less]

/-- What has been put is read, -/
theorem cellsAt_put_self {n : Nat} (length : cells.length = n) :
    cellsAt at_ n (put at_ cells m) = cells := by
  apply List.ext_getElem
  · rw [length_cellsAt, length]
  · intro i less less'
    simp only [cellsAt, List.getElem_map, List.getElem_range]
    exact put_inside less'

/-- and elsewhere what was there. -/
theorem cellsAt_put_apart {at' n : Nat} (apart : at' + n ≤ at_ ∨ at_ + cells.length ≤ at') :
    cellsAt at' n (put at_ cells m) = cellsAt at' n m := by
  apply cellsAt_congr
  intro i less
  rcases apart with before | behind
  · exact put_before (by omega)
  · exact put_behind (by omega)

theorem put_append {more : List α} :
    put at_ (cells ++ more) m = put (at_ + cells.length) more (put at_ cells m) := by
  funext a
  by_cases before : a < at_
  · rw [put_before before, put_before (by omega), put_before before]
  obtain ⟨i, rfl⟩ := Nat.exists_eq_add_of_le (Nat.not_lt.1 before)
  by_cases first : i < cells.length
  · rw [put_inside (by rw [List.length_append]; omega), put_before (by omega), put_inside first,
      List.getElem_append_left first]
  obtain ⟨j, rfl⟩ := Nat.exists_eq_add_of_le (Nat.not_lt.1 first)
  by_cases second : j < more.length
  · rw [put_inside (by rw [List.length_append]; omega), ← Nat.add_assoc, put_inside second,
      List.getElem_append_right (by omega)]
    congr 1
    omega
  · rw [put_behind (by rw [List.length_append]; omega), ← Nat.add_assoc,
      put_behind (by omega), put_behind (by omega)]

theorem put_nil : put at_ [] m = m := by
  funext a
  rw [put, List.getD_nil, ite_self]

/-- Cells that are written over leave nothing behind, -/
theorem put_covered {more : List α} (covers : cells.length ≤ more.length) :
    put at_ more (put at_ cells m) = put at_ more m := by
  funext a
  by_cases before : a < at_
  · rw [put_before before, put_before before, put_before before]
  obtain ⟨i, rfl⟩ := Nat.exists_eq_add_of_le (Nat.not_lt.1 before)
  by_cases less : i < more.length
  · rw [put_inside less, put_inside less]
  · rw [put_behind (by omega), put_behind (by omega), put_behind (by omega)]

/-- and apart from each other two writes can change places. -/
theorem put_comm {at' : Nat} {cells' : List α} (apart : at_ + cells.length ≤ at') :
    put at_ cells (put at' cells' m) = put at' cells' (put at_ cells m) := by
  funext a
  by_cases behind : at' ≤ a
  · obtain ⟨i, rfl⟩ := Nat.exists_eq_add_of_le behind
    rw [put_behind (by omega)]
    by_cases less : i < cells'.length
    · rw [put_inside less, put_inside less]
    · rw [put_behind (by omega), put_behind (by omega), put_behind (by omega)]
  · have first : a < at' := Nat.not_le.1 behind
    rw [put_before first]
    by_cases before : a < at_
    · rw [put_before before, put_before before, put_before first]
    · obtain ⟨i, rfl⟩ := Nat.exists_eq_add_of_le (Nat.not_lt.1 before)
      by_cases less : i < cells.length
      · rw [put_inside less, put_inside less]
      · rw [put_behind (by omega), put_before first, put_behind (by omega)]

/-- **Items of one size, one behind the other**, are one write. -/
theorem foldl_put {size num : Nat} {items : Nat → List α} (sized : ∀ i, (items i).length = size) :
    (List.range num).foldl (fun m i => put (at_ + size * i) (items i) m) m =
      put at_ ((List.range num).flatMap items) m := by
  have length (n : Nat) : ((List.range n).flatMap items).length = size * n := by
    rw [List.length_flatMap, List.map_congr_left fun i _ => sized i, List.map_const',
      List.length_range, List.sum_replicate, smul_eq_mul, Nat.mul_comm]
  induction num with
  | zero => exact put_nil.symm
  | succ num ih =>
      rw [List.range_succ, List.foldl_append, ih, List.flatMap_append, put_append, length,
        List.flatMap_singleton]
      rfl

end Writing

section Copying

variable {size dst src num : Nat} {m : Nat → α}

/-- **The loop is one copy**, when it goes to the left or out of what it reads. -/
theorem copyItems_eq (clear : dst ≤ src ∨ src + size * num ≤ dst) :
    copyItems size dst src num m = copyCells dst src (size * num) m := by
  induction num with
  | zero =>
      rw [Nat.mul_zero, copyCells, cellsAt, List.range_zero, List.map_nil, put_nil]
      rfl
  | succ num ih =>
      rw [Nat.mul_succ] at clear ⊢
      have here : copyItems size dst src num m = copyCells dst src (size * num) m :=
        ih (clear.imp_right fun apart => by omega)
      -- the item that is copied now has not been written yet
      have fresh : cellsAt (src + size * num) size (copyItems size dst src num m) =
          cellsAt (src + size * num) size m := by
        rw [here, copyCells, cellsAt_put_apart]
        rw [length_cellsAt]
        omega
      rw [copyItems, List.range_succ, List.foldl_append, List.foldl_cons, List.foldl_nil,
        ← copyItems, copyCells, fresh, here, copyCells, copyCells, cellsAt_add, put_append,
        length_cellsAt]

theorem copyCells_self {n : Nat} : cellsAt dst n (copyCells dst src n m) = cellsAt src n m :=
  cellsAt_put_self length_cellsAt

theorem copyCells_apart {at' n k : Nat} (apart : at' + k ≤ dst ∨ dst + n ≤ at') :
    cellsAt at' k (copyCells dst src n m) = cellsAt at' k m :=
  cellsAt_put_apart (by rw [length_cellsAt]; exact apart)

/-- Parts are copied with all that is copied. -/
theorem laid_copyCells {parts : List (List α)} {n : Nat} (all : parts.flatten.length ≤ n)
    (there : Laid src parts m) : Laid dst parts (copyCells dst src n m) := by
  obtain ⟨k, rfl⟩ := Nat.exists_eq_add_of_le all
  have copied := @copyCells_self _ dst src m (parts.flatten.length + k)
  rw [cellsAt_add, cellsAt_add] at copied
  have first := (List.append_inj copied (by rw [length_cellsAt, length_cellsAt])).1
  rw [laid_iff, first, ← laid_iff]
  exact there

end Copying

end Zboss.Theory.ByteMemory
