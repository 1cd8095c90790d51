/-
# Theory.Table -- packed tables: a live prefix, and what moving it does

A table is a memory `Nat → α` of which a prefix of length `n` is live; whatever
stands behind the prefix is stale.  `move` is the byte-for-byte block move of C,
overlap included.  The two lemmas that matter read the moves of a packed table
as list operations on its live prefix: closing the gap over a removed entry is
`List.eraseIdx` (`live_close`), opening one and writing into it is an insertion
(`live_open`).  `probe` is the wrap-around scan of an open-addressing table, `held` what
the slots of a table with free ones hold.
-/
import Mathlib

namespace Zboss.Theory.Table

set_option autoImplicit false

universe u

variable {α : Type u}

/-! ## The live prefix -/

/-- The first `n` cells, as a list. -/
def live (f : Nat → α) (n : Nat) : List α := (List.range n).map f

@[simp] theorem live_length (f : Nat → α) (n : Nat) : (live f n).length = n := by
  simp [live]

@[simp] theorem live_getElem (f : Nat → α) (n i : Nat) (h : i < (live f n).length) :
    (live f n)[i] = f i := by
  simp [live]

theorem live_succ (f : Nat → α) (n : Nat) : live f (n + 1) = live f n ++ [f n] := by
  simp [live, List.range_succ]

theorem mem_live {f : Nat → α} {n : Nat} {x : α} : x ∈ live f n ↔ ∃ i, i < n ∧ f i = x := by
  simp [live]

theorem live_congr {f g : Nat → α} {n : Nat} (same : ∀ i, i < n → g i = f i) :
    live g n = live f n :=
  List.map_congr_left fun i h => same i (List.mem_range.1 h)

/-- Writing the cell behind the live prefix and making it live appends. -/
theorem live_push (f : Nat → α) (n : Nat) (x : α) :
    live (Function.update f n x) (n + 1) = live f n ++ [x] := by
  rw [live_succ, Function.update_self]
  congr 1
  exact live_congr fun i hi => Function.update_of_ne (by omega) ..

/-- No duplicates in the live prefix is injectivity on its positions. -/
theorem live_nodup_iff {f : Nat → α} {n : Nat} :
    (live f n).Nodup ↔ ∀ i j, i < n → j < n → f i = f j → i = j := by
  rw [live, List.nodup_map_iff_inj_on List.nodup_range]
  simp only [List.mem_range]
  exact ⟨fun h i j hi hj => h i hi j hj, fun h i hi j hj => h i j hi hj⟩

/-! ## Block moves -/

/-- `n` cells from `src` to `dst`, as if through a temporary copy. -/
def move (f : Nat → α) (dst src n : Nat) : Nat → α := fun j =>
  if dst ≤ j ∧ j < dst + n then f (j - dst + src) else f j

theorem move_of_lt {f : Nat → α} {dst src n j : Nat} (h : j < dst) :
    move f dst src n j = f j := by
  simp [move, Nat.not_le.2 h]

/-- Inside the block a move one cell down reads the next cell. -/
theorem move_down {f : Nat → α} {i m j : Nat} (lo : i ≤ j) (hi : j < i + m) :
    move f i (i + 1) m j = f (j + 1) := by
  have source : j - i + (i + 1) = j + 1 := by omega
  rw [move, if_pos ⟨lo, hi⟩, source]

/-- Inside the block a move one cell up reads the previous cell. -/
theorem move_up {f : Nat → α} {i m j : Nat} (lo : i ≤ j) (hi : j < i + m) :
    move f (i + 1) i m (j + 1) = f j := by
  have source : j + 1 - (i + 1) + i = j := by omega
  rw [move, if_pos ⟨by omega, by omega⟩, source]

/-- **Closing the gap**: moving at least the rest of the live prefix one cell
down removes the cell at `i`, whatever the move drags in from behind. -/
theorem live_close {f : Nat → α} {n i m : Nat} (inside : i < n) (enough : n ≤ i + 1 + m) :
    live (move f i (i + 1) m) (n - 1) = (live f n).eraseIdx i := by
  apply List.ext_getElem
  · rw [List.length_eraseIdx_of_lt (by simpa using inside)]
    simp
  · intro j hj _
    have lt : j < n - 1 := by simpa using hj
    rw [live_getElem, List.getElem_eraseIdx]
    split
    · rename_i before
      rw [move_of_lt before, live_getElem]
    · rename_i after
      rw [move_down (by omega) (by omega), live_getElem]

/-- **Opening a gap**: moving the tail one cell up and writing into the freed
cell inserts there. -/
theorem live_open {f : Nat → α} {n l : Nat} (x : α) (inside : l ≤ n) :
    live (Function.update (move f (l + 1) l (n - l)) l x) (n + 1) =
      (live f n).take l ++ x :: (live f n).drop l := by
  have front : ((live f n).take l).length = l := by
    rw [List.length_take, live_length, Nat.min_eq_left inside]
  apply List.ext_getElem
  · rw [live_length, List.length_append, front, List.length_cons, List.length_drop, live_length]
    omega
  · intro j hj _
    rw [live_length] at hj
    rw [live_getElem]
    rcases Nat.lt_trichotomy j l with before | rfl | after
    · rw [Function.update_of_ne (by omega), move_of_lt (by omega),
        List.getElem_append_left (by omega), List.getElem_take, live_getElem]
    · rw [Function.update_self, List.getElem_append_right (by omega)]
      simp only [front, Nat.sub_self, List.getElem_cons_zero]
    · obtain ⟨k, rfl⟩ : ∃ k, j = k + 1 := ⟨j - 1, by omega⟩
      rw [Function.update_of_ne (by omega), move_up (by omega) (by omega),
        List.getElem_append_right (by omega)]
      have offset : k + 1 - ((live f n).take l).length = (k - l) + 1 := by omega
      simp only [offset, List.getElem_cons_succ, List.getElem_drop, live_getElem]
      congr 1
      omega

/-! ## Open addressing -/

/-- Scan `cnt` cells of a table of `size`, from cell `i`, wrapping at the end. -/
def probe (p : Nat → Bool) (size : Nat) : Nat → Nat → Option Nat
  | 0, _ => none
  | cnt + 1, i => if p i then some i else probe p size cnt ((i + 1) % size)

theorem probe_some {p : Nat → Bool} {size cnt i r : Nat} (inside : i < size)
    (found : probe p size cnt i = some r) : r < size ∧ p r = true := by
  induction cnt generalizing i with
  | zero => simp [probe] at found
  | succ cnt ih =>
      simp only [probe] at found
      split at found
      · rename_i holds
        cases found
        exact ⟨inside, holds⟩
      · exact ih (Nat.mod_lt _ (by omega)) found

/-- What a failed scan of `cnt` cells has seen. -/
theorem probe_none_at {p : Nat → Bool} {size cnt i : Nat} (inside : i < size)
    (failed : probe p size cnt i = none) :
    ∀ k, k < cnt → p ((i + k) % size) = false := by
  induction cnt generalizing i with
  | zero => intro k hk; omega
  | succ cnt ih =>
      simp only [probe] at failed
      split at failed
      · cases failed
      · rename_i rejected
        intro k hk
        cases k with
        | zero => simpa [Nat.mod_eq_of_lt inside] using rejected
        | succ k =>
            have next := ih (Nat.mod_lt _ (by omega)) failed k (by omega)
            rw [Nat.mod_add_mod] at next
            rwa [Nat.add_assoc, Nat.add_comm 1 k] at next

/-- A scan of the whole table fails exactly when no cell satisfies `p`. -/
theorem probe_eq_none_iff {p : Nat → Bool} {size i : Nat} (inside : i < size) :
    probe p size size i = none ↔ ∀ r, r < size → p r = false := by
  constructor
  · intro failed r hr
    by_cases wrapped : i ≤ r
    · have seen := probe_none_at inside failed (r - i) (by omega)
      rwa [Nat.add_sub_cancel' wrapped, Nat.mod_eq_of_lt hr] at seen
    · have seen := probe_none_at inside failed (r + size - i) (by omega)
      have back : (i + (r + size - i)) % size = r := by
        rw [show i + (r + size - i) = r + size by omega, Nat.add_mod_right, Nat.mod_eq_of_lt hr]
      rwa [back] at seen
  · intro rejected
    cases found : probe p size size i with
    | none => rfl
    | some r =>
        obtain ⟨hr, holds⟩ := probe_some inside found
        rw [rejected r hr] at holds
        cases holds

/-- When exactly one cell satisfies `p`, the scan finds it. -/
theorem probe_eq_some_of_unique {p : Nat → Bool} {size i r : Nat} (inside : i < size)
    (bound : r < size) (holds : p r = true) (unique : ∀ q, q < size → p q = true → q = r) :
    probe p size size i = some r := by
  cases found : probe p size size i with
  | none => rw [(probe_eq_none_iff inside).1 found r bound] at holds; cases holds
  | some q =>
      obtain ⟨hq, there⟩ := probe_some inside found
      rw [unique q hq there]

/-- A scan that found a cell finds it again when fewer cells satisfy the
predicate, as long as that one does. -/
theorem probe_mono {p q : Nat → Bool} {size cnt i r : Nat} (inside : i < size)
    (fewer : ∀ s, s < size → q s = true → p s = true) (holds : q r = true)
    (found : probe p size cnt i = some r) : probe q size cnt i = some r := by
  induction cnt generalizing i with
  | zero => simp [probe] at found
  | succ cnt ih =>
      simp only [probe] at found ⊢
      by_cases here : p i = true
      · rw [if_pos here, Option.some.injEq] at found
        rw [found, if_pos holds]
      · rw [if_neg here] at found
        rw [if_neg fun there => here (fewer i inside there)]
        exact ih (Nat.mod_lt _ (by omega)) found

/-! ## Slots -/

section Slots

variable {f g : Nat → Option α} {n i : Nat}

/-- What the slots of a table hold. -/
def held (f : Nat → Option α) (n : Nat) : List α := (List.range n).filterMap f

theorem held_congr (same : ∀ i, i < n → g i = f i) : held g n = held f n := by
  apply List.filterMap_congr
  intro i mem
  exact same i (List.mem_range.1 mem)

theorem held_out (inside : i < n) (f : Nat → Option α) :
    (held f n).Perm ((f i).toList ++ ((List.range n).erase i).filterMap f) := by
  have moved := (List.perm_cons_erase (List.mem_range.2 inside)).filterMap f
  rw [List.filterMap_cons] at moved
  cases content : f i with
  | none => simpa [held, content] using moved
  | some x => simpa [held, content] using moved

/-- **One slot changes**: what it held goes, what it holds comes. -/
theorem held_update_perm (inside : i < n) (same : ∀ j, j ≠ i → g j = f j) :
    ((f i).toList ++ held g n).Perm ((g i).toList ++ held f n) := by
  have rest : ((List.range n).erase i).filterMap g = ((List.range n).erase i).filterMap f := by
    apply List.filterMap_congr
    intro j mem
    exact same j fun eq => List.nodup_range.not_mem_erase (eq ▸ mem)
  have out : ((f i).toList ++ held g n).Perm
      ((f i).toList ++ ((g i).toList ++ ((List.range n).erase i).filterMap f)) := by
    rw [← rest]
    exact (held_out inside g).append_left _
  have swap : ((f i).toList ++ ((g i).toList ++ ((List.range n).erase i).filterMap f)).Perm
      ((g i).toList ++ ((f i).toList ++ ((List.range n).erase i).filterMap f)) := by
    rw [← List.append_assoc, ← List.append_assoc]
    exact List.perm_append_comm.append_right _
  exact (out.trans swap).trans ((held_out inside f).symm.append_left _)

end Slots

end Zboss.Theory.Table
