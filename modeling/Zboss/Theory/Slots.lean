/-
# Theory.Slots -- arrays of slots with a flag, and a counter of those in use

A slot says itself whether it is in use; a counter is kept beside the array.  `Counted` is
that the counter is right.  Taking the first free slot, freeing a slot in use and writing a
slot without its flag keep it (`Counted.take`, `Counted.free`, `Counted.keep`), and under it
the search for a free slot fails exactly when the counter is the size (`Counted.full_iff`).
`Stacked` is that the slots in use are the first ones: then the last of them is at the
counter, less one.
-/
import Mathlib

namespace Zboss.Theory.Slots

set_option autoImplicit false

universe u

variable {α : Type u} (used : α → Bool)

/-- How many of the first `n` slots are in use. -/
def usedCount (f : Nat → α) (n : Nat) : Nat := (List.range n).countP fun i => used (f i)

/-- The first free slot of `n`. -/
def firstFree (f : Nat → α) (n : Nat) : Option Nat := (List.range n).find? fun i => !used (f i)

/-- The first slot in use with a property. -/
def findUsed (cond : α → Bool) (f : Nat → α) (n : Nat) : Option Nat :=
  (List.range n).find? fun i => used (f i) && cond (f i)

/-- The counter is the number of slots in use. -/
def Counted (f : Nat → α) (n : Nat) (cnt : UInt8) : Prop := cnt.toNat = usedCount used f n

/-- The slots in use are the first `k`. -/
def Stacked (f : Nat → α) (n k : Nat) : Prop := k ≤ n ∧ ∀ i < n, used (f i) = decide (i < k)

variable {used} {f g : Nat → α} {n i k : Nat} {x : α} {cnt : UInt8}

/-! ## Counting -/

@[simp] theorem usedCount_zero : usedCount used f 0 = 0 := rfl

theorem usedCount_succ : usedCount used f (n + 1) = usedCount used f n + (used (f n)).toNat := by
  rw [usedCount, List.range_succ, List.countP_append]
  cases on : used (f n) <;> simp [usedCount, on]

theorem usedCount_congr (same : ∀ i < n, used (g i) = used (f i)) :
    usedCount used g n = usedCount used f n := by
  apply List.countP_congr
  intro i mem
  rw [same i (List.mem_range.1 mem)]

theorem usedCount_le (f : Nat → α) (n : Nat) : usedCount used f n ≤ n := by
  have bound := List.countP_le_length (p := fun i => used (f i)) (l := List.range n)
  rwa [List.length_range] at bound

/-- **One slot is written**: the count changes as its flag does. -/
theorem usedCount_update (inside : i < n) :
    usedCount used (Function.update f i x) n + (used (f i)).toNat =
      usedCount used f n + (used x).toNat := by
  induction n with
  | zero => exact absurd inside (Nat.not_lt_zero i)
  | succ n ih =>
      rw [usedCount_succ, usedCount_succ]
      by_cases last : i = n
      · subst last
        have before : usedCount used (Function.update f i x) i = usedCount used f i := by
          apply usedCount_congr
          intro j lt
          rw [Function.update_of_ne (by omega)]
        rw [before, Function.update_self]
        omega
      · have others := ih (by omega)
        rw [Function.update_of_ne (by omega)]
        omega

theorem usedCount_eq_zero (free : ∀ i < n, used (f i) = false) : usedCount used f n = 0 := by
  rw [usedCount, List.countP_eq_zero]
  intro i mem
  rw [free i (List.mem_range.1 mem)]
  decide

/-- Some slot is in use. -/
theorem usedCount_ne_zero : usedCount used f n ≠ 0 ↔ ∃ i < n, used (f i) = true := by
  rw [usedCount, ← Nat.pos_iff_ne_zero, List.countP_pos_iff]
  constructor
  · rintro ⟨i, mem, on⟩
    exact ⟨i, List.mem_range.1 mem, on⟩
  · rintro ⟨i, inside, on⟩
    exact ⟨i, List.mem_range.2 inside, on⟩

theorem usedCount_pos (inside : i < n) (on : used (f i) = true) : 0 < usedCount used f n := by
  rw [usedCount, List.countP_pos_iff]
  exact ⟨i, List.mem_range.2 inside, on⟩

/-- Of two arrays, where what is in use in one is in use in the other, the counts agree when
the flags do. -/
theorem usedCount_eq_of_le (le : ∀ i < n, used (g i) = true → used (f i) = true) :
    usedCount used g n = usedCount used f n ↔ ∀ i < n, used (f i) = true → used (g i) = true := by
  have both : ∀ m ≤ n, usedCount used g m ≤ usedCount used f m ∧
      (usedCount used g m = usedCount used f m ↔
        ∀ i < m, used (f i) = true → used (g i) = true) := by
    intro m
    induction m with
    | zero => simp
    | succ m ih =>
        intro inside
        obtain ⟨less, same⟩ := ih (by omega)
        have here := le m (by omega)
        rw [usedCount_succ, usedCount_succ, Nat.forall_lt_succ_right, ← same]
        cases inF : used (f m) <;> cases inG : used (g m) <;> simp [inF, inG] at here ⊢ <;> omega
  exact (both n (le_refl n)).2

/-! ## Loops over the array -/

/-- **A loop that writes the slot of its turn**, as a function of that slot. -/
theorem scan_table {σ : Type*} (table : σ → Nat → α) {turn : σ → Nat → σ} {new : α → α}
    (writes : ∀ s i, table (turn s i) = Function.update (table s) i (new (table s i))) (s : σ)
    (n j : Nat) :
    table ((List.range n).foldl turn s) j = if j < n then new (table s j) else table s j := by
  induction n with
  | zero => rfl
  | succ n ih =>
      rw [List.range_succ, List.foldl_append, List.foldl_cons, List.foldl_nil, writes]
      by_cases this : j = n
      · subst this
        rw [Function.update_self, ih, if_neg (Nat.lt_irrefl j), if_pos (Nat.lt_succ_self j)]
      · rw [Function.update_of_ne this, ih]
        exact if_congr (by omega) rfl rfl

/-! ## The search for a free slot -/

theorem firstFree_eq_some (found : firstFree used f n = some i) :
    i < n ∧ used (f i) = false ∧ ∀ j < i, used (f j) = true := by
  obtain ⟨free, lt, before⟩ := List.find?_range_eq_some.1 found
  refine ⟨List.mem_range.1 lt, by simpa using free, ?_⟩
  intro j earlier
  simpa using before j earlier

theorem firstFree_eq_none (full : firstFree used f n = none) : ∀ i < n, used (f i) = true := by
  intro i inside
  have found := List.find?_eq_none.1 full i (List.mem_range.2 inside)
  simpa using found

theorem findUsed_eq_some {cond : α → Bool} (found : findUsed used cond f n = some i) :
    i < n ∧ used (f i) = true ∧ cond (f i) = true := by
  obtain ⟨match_, mem, -⟩ := List.find?_range_eq_some.1 found
  rw [Bool.and_eq_true] at match_
  exact ⟨List.mem_range.1 mem, match_⟩

theorem findUsed_eq_none {cond : α → Bool} (none_ : findUsed used cond f n = none) :
    ∀ i < n, used (f i) = true → cond (f i) = false := by
  intro i inside on
  have missed := List.find?_eq_none.1 none_ i (List.mem_range.2 inside)
  rw [on, Bool.true_and] at missed
  simpa using missed

/-- **A slot that is sought is written** where the search ended, or where it would have ended
had there been one. -/
theorem findUsed_update_self {cond : α → Bool} (inside : i < n) (on : used x = true)
    (is : cond x = true)
    (ended : findUsed used cond f n = some i ∨ findUsed used cond f n = none) :
    findUsed used cond (Function.update f i x) n = some i := by
  have before : ∀ j < i, (used (f j) && cond (f j)) = false := by
    intro j less
    rcases ended with found | none_
    · have missed := (List.find?_range_eq_some.1 found).2.2 j less
      rwa [Bool.not_eq_true'] at missed
    · simpa using List.find?_eq_none.1 none_ j (List.mem_range.2 (less.trans inside))
  rw [findUsed, List.find?_range_eq_some]
  refine ⟨?_, List.mem_range.2 inside, ?_⟩
  · rw [Function.update_self, on, is]
    rfl
  · intro j less
    rw [Function.update_of_ne less.ne, before j less]
    rfl

/-- A slot that is not sought is written over one that is not. -/
theorem findUsed_update_of_not {cond : α → Bool} (was : (used (f i) && cond (f i)) = false)
    (is : (used x && cond x) = false) :
    findUsed used cond (Function.update f i x) n = findUsed used cond f n := by
  have same : (fun j => used (Function.update f i x j) && cond (Function.update f i x j)) =
      fun j => used (f j) && cond (f j) := by
    funext j
    by_cases here : j = i
    · rw [here, Function.update_self, is, was]
    · rw [Function.update_of_ne here]
  rw [findUsed, same, findUsed]

theorem usedCount_eq_iff : usedCount used f n = n ↔ firstFree used f n = none := by
  constructor
  · intro full
    rw [firstFree, List.find?_eq_none]
    intro i mem
    have all := List.countP_eq_length.1 (full.trans (List.length_range (n := n)).symm)
    simp [all i mem]
  · intro none_
    have all : ∀ i ∈ List.range n, used (f i) = true := by
      intro i mem
      exact firstFree_eq_none none_ i (List.mem_range.1 mem)
    rw [usedCount, List.countP_eq_length.2 all, List.length_range]

/-! ## What is in the slots -/

section Contents

variable {β : Type u} {h : Nat → Option β} {y : Option β}

/-- What is in the first `n` slots, where a slot may be empty. -/
def contents (h : Nat → Option β) (n : Nat) : List β := (List.range n).filterMap h

theorem contents_succ : contents h (n + 1) = contents h n ++ (h n).toList := by
  rw [contents, List.range_succ, List.filterMap_append]
  cases at_ : h n <;> simp [contents, at_]

theorem mem_contents {b : β} : b ∈ contents h n ↔ ∃ i < n, h i = some b := by
  simp [contents, List.mem_filterMap]

theorem contents_congr {k : Nat → Option β} (same : ∀ i < n, k i = h i) :
    contents k n = contents h n := by
  apply List.filterMap_congr
  intro i mem
  exact same i (List.mem_range.1 mem)

/-- **One slot is written**: what was in it goes, and what is written comes. -/
theorem contents_update (inside : i < n) :
    ((h i).toList ++ contents (Function.update h i y) n).Perm (y.toList ++ contents h n) := by
  induction n with
  | zero => exact absurd inside (Nat.not_lt_zero i)
  | succ n ih =>
      rw [contents_succ, contents_succ]
      by_cases last : i = n
      · subst last
        have before : contents (Function.update h i y) i = contents h i := by
          apply contents_congr
          intro j less
          exact Function.update_of_ne (Nat.ne_of_lt less) y h
        rw [before, Function.update_self]
        have swap : ((h i).toList ++ (contents h i ++ y.toList)).Perm
            (contents h i ++ y.toList ++ (h i).toList) := List.perm_append_comm
        have front : (contents h i ++ y.toList).Perm (y.toList ++ contents h i) :=
          List.perm_append_comm
        rw [← List.append_assoc y.toList]
        exact swap.trans (front.append_right _)
      · rw [Function.update_of_ne (Ne.symm last), ← List.append_assoc, ← List.append_assoc]
        exact (ih (by omega)).append_right _

/-- An empty slot is filled. -/
theorem contents_fill {b : β} (inside : i < n) (free : h i = none) :
    (contents (Function.update h i (some b)) n).Perm (b :: contents h n) := by
  have change := contents_update (h := h) (y := some b) inside
  rwa [free] at change

/-- A slot is emptied. -/
theorem contents_clear {b : β} (inside : i < n) (holds : h i = some b) :
    (contents h n).Perm (b :: contents (Function.update h i none) n) := by
  have change := contents_update (h := h) (y := none) inside
  rw [holds] at change
  exact change.symm

end Contents

/-! ## The counter -/

/-- **The search fails exactly when the array is full.** -/
theorem Counted.full_iff (right : Counted used f n cnt) :
    firstFree used f n = none ↔ cnt.toNat = n := by
  rw [← usedCount_eq_iff, right]

theorem Counted.congr (right : Counted used f n cnt) (same : ∀ i < n, used (g i) = used (f i)) :
    Counted used g n cnt :=
  right.trans (usedCount_congr same).symm

theorem Counted.take (right : Counted used f n cnt) (small : n ≤ 255) (inside : i < n)
    (free : used (f i) = false) (taken : used x = true) :
    Counted used (Function.update f i x) n (cnt + 1) := by
  have change : usedCount used (Function.update f i x) n + (used (f i)).toNat =
      usedCount used f n + (used x).toNat := usedCount_update inside
  have bound : usedCount used (Function.update f i x) n ≤ n := usedCount_le _ n
  simp only [free, taken, Bool.toNat_false, Bool.toNat_true] at change
  rw [Counted] at right
  rw [Counted, UInt8.toNat_add, UInt8.toNat_one, right, ← change]
  exact Nat.mod_eq_of_lt (by omega)

theorem Counted.free (right : Counted used f n cnt) (inside : i < n) (on : used (f i) = true)
    (off : used x = false) : Counted used (Function.update f i x) n (cnt - 1) := by
  have change : usedCount used (Function.update f i x) n + (used (f i)).toNat =
      usedCount used f n + (used x).toNat := usedCount_update inside
  have pos := usedCount_pos inside on
  simp only [on, off, Bool.toNat_false, Bool.toNat_true] at change
  have one : (1 : UInt8) ≤ cnt := by
    rw [UInt8.le_iff_toNat_le, right]
    exact pos
  rw [Counted, UInt8.toNat_sub_of_le _ _ one, right, UInt8.toNat_one]
  omega

theorem Counted.keep (right : Counted used f n cnt) (inside : i < n) (same : used x = used (f i)) :
    Counted used (Function.update f i x) n cnt := by
  have change : usedCount used (Function.update f i x) n + (used (f i)).toNat =
      usedCount used f n + (used x).toNat := usedCount_update inside
  rw [same] at change
  rw [Counted, right]
  omega

theorem Counted.clear (free : ∀ i < n, used (f i) = false) : Counted used f n 0 :=
  (usedCount_eq_zero free).symm

/-- A slot in use is counted: the counter may be lowered. -/
theorem Counted.pos (right : Counted used f n cnt) (inside : i < n) (on : used (f i) = true) :
    0 < cnt.toNat := by
  rw [right]
  exact usedCount_pos inside on

/-- What a right counter is for: it may be lowered when a slot goes, and the search for a free
slot fails exactly when the counter says that there is none. -/
structure Sound (used : α → Bool) (f : Nat → α) (n : Nat) (cnt : UInt8) : Prop where
  counted : Counted used f n cnt
  lowers : ∀ i < n, used (f i) = true → 0 < cnt.toNat
  full : firstFree used f n = none ↔ cnt.toNat = n

theorem Counted.sound (right : Counted used f n cnt) : Sound used f n cnt :=
  ⟨right, fun _ inside on => right.pos inside on, right.full_iff⟩

/-! ## Stacks -/

/-- The first free slot is the one behind the stack. -/
theorem Stacked.firstFree_eq (stack : Stacked used f n k) :
    firstFree used f n = if k < n then some k else none := by
  by_cases room : k < n
  · rw [if_pos room, firstFree, List.find?_range_eq_some]
    refine ⟨?_, List.mem_range.2 room, ?_⟩
    · simp [stack.2 k room]
    · intro j below
      simp [stack.2 j (lt_trans below room), below]
  · rw [if_neg room, firstFree, List.find?_eq_none]
    intro i mem
    have inside := List.mem_range.1 mem
    have below : i < k := by omega
    simp [stack.2 i inside, below]

theorem Stacked.usedCount (stack : Stacked used f n k) : usedCount used f n = k := by
  have bits : ∀ m, m ≤ n → Slots.usedCount used f m = min m k := by
    intro m
    induction m with
    | zero => simp
    | succ m ih =>
        intro inside
        rw [usedCount_succ, ih (by omega), stack.2 m (by omega)]
        by_cases below : m < k
        · rw [decide_eq_true below, Bool.toNat_true]
          omega
        · rw [decide_eq_false below, Bool.toNat_false]
          omega
  rw [bits n le_rfl]
  exact min_eq_right stack.1

theorem Stacked.push (stack : Stacked used f n k) (room : k < n) (taken : used x = true) :
    Stacked used (Function.update f k x) n (k + 1) := by
  refine ⟨room, ?_⟩
  intro i inside
  by_cases top : i = k
  · subst top
    rw [Function.update_self, taken, decide_eq_true (Nat.lt_succ_self i)]
  · rw [Function.update_of_ne top, stack.2 i inside, decide_eq_decide]
    omega

theorem Stacked.pop (stack : Stacked used f n (k + 1)) (off : used x = false) :
    Stacked used (Function.update f k x) n k := by
  refine ⟨by have := stack.1; omega, ?_⟩
  intro i inside
  by_cases top : i = k
  · subst top
    rw [Function.update_self, off, decide_eq_false (Nat.lt_irrefl i)]
  · rw [Function.update_of_ne top, stack.2 i inside, decide_eq_decide]
    omega

end Zboss.Theory.Slots
