/-
# Theory.SortedIndex -- a packed index sorted by a key, and binary search in it

The index is the live prefix of a table of references, sorted by the key a
reference currently has; the keys are not stored in it.  `bisect` is the loop
`while (l < r)` over a predicate that holds on an initial segment: it ends at
the segment's end (`bisect_spec`).  From it come the two places a sorted index
needs: where an equal key must stand (`first_place`, `mem_iff_first_place`) and
where a new key is inserted (`last_place`); `pairwise_insert` says that the
insertion keeps the order.
-/
import Mathlib
import Zboss.Theory.Table

namespace Zboss.Theory.SortedIndex

open Zboss.Theory.Table

set_option autoImplicit false

universe u v

/-- `while (l < r)`: keep the half in which `p` changes from true to false. -/
def bisect (p : Nat → Bool) : Nat → Nat → Nat → Nat
  | 0, l, _ => l
  | fuel + 1, l, r =>
      if l < r then
        if p (l + (r - l) / 2) then bisect p fuel (l + (r - l) / 2 + 1) r
        else bisect p fuel l (l + (r - l) / 2)
      else l

/-- With fuel for the whole interval, `bisect` ends where `p` stops holding. -/
theorem bisect_spec {p : Nat → Bool} {fuel l r : Nat} (ordered : l ≤ r) (fueled : r ≤ l + fuel)
    (initial : ∀ i j, l ≤ i → i ≤ j → j < r → p j = true → p i = true) :
    l ≤ bisect p fuel l r ∧ bisect p fuel l r ≤ r ∧
      (∀ i, l ≤ i → i < bisect p fuel l r → p i = true) ∧
      (∀ i, bisect p fuel l r ≤ i → i < r → p i = false) := by
  induction fuel generalizing l r with
  | zero =>
      simp only [bisect]
      exact ⟨Nat.le_refl l, ordered, fun i _ _ => by omega, fun i _ _ => by omega⟩
  | succ fuel ih =>
      simp only [bisect]
      split
      · rename_i lt
        split
        · rename_i holds
          obtain ⟨lo, hi, before, after⟩ := ih (l := l + (r - l) / 2 + 1) (r := r) (by omega)
            (by omega) fun i j hi hij hj => initial i j (by omega) hij hj
          refine ⟨by omega, hi, fun i hl hi' => ?_, after⟩
          rcases Nat.lt_or_ge (l + (r - l) / 2) i with right | left
          · exact before i right hi'
          · exact initial i _ hl left (by omega) holds
        · rename_i fails
          obtain ⟨lo, hi, before, after⟩ := ih (l := l) (r := l + (r - l) / 2) (by omega)
            (by omega) fun i j hi hij hj => initial i j hi hij (by omega)
          refine ⟨lo, by omega, before, fun i hl hr => ?_⟩
          rcases Nat.lt_or_ge i (l + (r - l) / 2) with left | right
          · exact after i hl left
          · cases there : p i with
            | false => rfl
            | true => exact absurd (initial _ i (by omega) right hr there) fails
      · exact ⟨Nat.le_refl l, ordered, fun i _ _ => by omega, fun i _ _ => by omega⟩

/-- Whatever `p` is, `bisect` stays in its interval. -/
theorem bisect_le {p : Nat → Bool} {fuel l r : Nat} (ordered : l ≤ r) : bisect p fuel l r ≤ r := by
  induction fuel generalizing l r with
  | zero => exact ordered
  | succ fuel ih =>
      simp only [bisect]
      split
      · split
        · exact ih (by omega)
        · exact (ih (by omega)).trans (by omega)
      · exact ordered

/-! ## Prefixes and suffixes of a live table -/

section Parts

variable {α : Type u} {f : Nat → α} {n l : Nat}

theorem mem_take_live {y : α} : y ∈ (live f n).take l ↔ ∃ i, i < l ∧ i < n ∧ f i = y := by
  rw [List.mem_take_iff_getElem]
  simp only [live_length, live_getElem]
  constructor
  · rintro ⟨i, hi, rfl⟩
    exact ⟨i, by omega, by omega, rfl⟩
  · rintro ⟨i, hl, hn, rfl⟩
    exact ⟨i, by omega, rfl⟩

theorem mem_drop_live {y : α} : y ∈ (live f n).drop l ↔ ∃ i, l ≤ i ∧ i < n ∧ f i = y := by
  rw [List.mem_drop_iff_getElem]
  simp only [live_length, live_getElem]
  constructor
  · rintro ⟨i, hi, rfl⟩
    exact ⟨l + i, by omega, by omega, rfl⟩
  · rintro ⟨i, hl, hn, rfl⟩
    exact ⟨i - l, by omega, by congr 1; omega⟩

theorem mem_insert {x y : α} {L : List α} : y ∈ L.take l ++ x :: L.drop l ↔ y = x ∨ y ∈ L := by
  conv_rhs => rw [← List.take_append_drop l L]
  simp only [List.mem_append, List.mem_cons]
  tauto

theorem nodup_insert {x : α} {L : List α} (distinct : L.Nodup) (fresh : x ∉ L) :
    (L.take l ++ x :: L.drop l).Nodup := by
  rw [List.nodup_middle, List.take_append_drop]
  exact List.nodup_cons.2 ⟨fresh, distinct⟩

end Parts

/-! ## The places of a key -/

section Places

variable {α : Type u} {κ : Type v} [LinearOrder κ] {key : α → κ} {f : Nat → α} {n : Nat}

/-- Sorted by key, as a list. -/
def Sorted (key : α → κ) (L : List α) : Prop := L.Pairwise fun x y => key x ≤ key y

theorem Sorted.le (sorted : Sorted key (live f n)) {i j : Nat} (le : i ≤ j) (inside : j < n) :
    key (f i) ≤ key (f j) := by
  rcases Nat.lt_or_eq_of_le le with lt | rfl
  · have pair := List.pairwise_iff_getElem.1 sorted i j (by simp; omega) (by simpa) lt
    simpa using pair
  · exact le_refl _

/-- Where binary search for `k` ends: keys below `k` to the left, the others to
the right. -/
theorem first_place (sorted : Sorted key (live f n)) (k : κ) :
    let l := bisect (fun i => decide (k > key (f i))) n 0 n
    l ≤ n ∧ (∀ i, i < l → key (f i) < k) ∧ ∀ i, l ≤ i → i < n → k ≤ key (f i) := by
  obtain ⟨-, hi, before, after⟩ := @bisect_spec (fun i => decide (k > key (f i))) n 0 n
    (Nat.zero_le n) (by omega) fun i j _ hij hj holds => by
      simp only [gt_iff_lt, decide_eq_true_eq] at holds ⊢
      exact lt_of_le_of_lt (sorted.le hij hj) holds
  refine ⟨hi, fun i hi' => ?_, fun i hi' hn => ?_⟩
  · simpa using before i (Nat.zero_le i) hi'
  · simpa using after i hi' hn

/-- A key is in the index exactly when it stands where binary search ends. -/
theorem mem_iff_first_place (sorted : Sorted key (live f n)) (k : κ) :
    (∃ i, i < n ∧ key (f i) = k) ↔
      bisect (fun i => decide (k > key (f i))) n 0 n < n ∧
        key (f (bisect (fun i => decide (k > key (f i))) n 0 n)) = k := by
  obtain ⟨-, before, after⟩ := first_place sorted k
  refine ⟨?_, fun ⟨inside, at_⟩ => ⟨_, inside, at_⟩⟩
  rintro ⟨i, hi, rfl⟩
  have right : bisect (fun j => decide (key (f i) > key (f j))) n 0 n ≤ i := by
    by_contra left
    exact lt_irrefl _ (before i (by omega))
  refine ⟨by omega, le_antisymm ?_ ?_⟩
  · exact sorted.le right hi
  · exact after _ (Nat.le_refl _) (by omega)

/-- Where the search for an insertion place ends: keys up to `k` to the left,
greater ones to the right. -/
theorem last_place (sorted : Sorted key (live f n)) (k : κ) :
    let l := bisect (fun i => decide (k ≥ key (f i))) n 0 n
    l ≤ n ∧ (∀ i, i < l → key (f i) ≤ k) ∧ ∀ i, l ≤ i → i < n → k < key (f i) := by
  obtain ⟨-, hi, before, after⟩ := @bisect_spec (fun i => decide (k ≥ key (f i))) n 0 n
    (Nat.zero_le n) (by omega) fun i j _ hij hj holds => by
      simp only [ge_iff_le, decide_eq_true_eq] at holds ⊢
      exact le_trans (sorted.le hij hj) holds
  refine ⟨hi, fun i hi' => ?_, fun i hi' hn => ?_⟩
  · simpa using before i (Nat.zero_le i) hi'
  · simpa using after i hi' hn

/-- Inserting between the keys up to its own and the keys from its own on keeps
the order. -/
theorem pairwise_insert {L : List α} {l : Nat} {x : α} (sorted : Sorted key L)
    (below : ∀ y ∈ L.take l, key y ≤ key x) (above : ∀ y ∈ L.drop l, key x ≤ key y) :
    Sorted key (L.take l ++ x :: L.drop l) := by
  unfold Sorted at sorted ⊢
  rw [← List.take_append_drop l L, List.pairwise_append] at sorted
  obtain ⟨left, right, across⟩ := sorted
  refine List.pairwise_append.2 ⟨left, List.pairwise_cons.2 ⟨above, right⟩, fun y hy z hz => ?_⟩
  rcases List.mem_cons.1 hz with rfl | hz
  · exact below y hy
  · exact across y hy z hz

end Places

end Zboss.Theory.SortedIndex
