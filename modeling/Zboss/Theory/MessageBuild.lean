/-
# Theory.MessageBuild -- a message that is built before its parameters

A message is built cell by cell, from `start` on, out of parameters that stand further to the right
in the same memory.  Nothing checks that it ends before they begin: `spoiled` notes whether a cell
has been read that the message had covered by then.

* `Kept`: the message as far as it is built, or it has run into the parameters;
* `Kept.copy`, `Kept.copyEach` and `Kept.copyWhile`: what one copy and the loops keep;
* `Kept.read_param`: the first parameter can still be read at last iff the message ends before it.

A loop that reads its count again each time may run on when the count is covered; the front never
goes back, so what is said of the last read holds all the same.
-/
import Mathlib
import Zboss.Theory.ByteMemory

namespace Zboss.Theory.MessageBuild

open Zboss.Theory.ByteMemory

set_option autoImplicit false

variable {α : Type}

structure Building (α : Type) where
  mem : Nat → α
  start : Nat
  front : Nat
  spoiled : Bool

namespace Building

/-- Read `n` cells. -/
def read (at_ n : Nat) (s : Building α) : Building α :=
  { s with spoiled := s.spoiled || decide (s.start < at_ + n ∧ at_ < s.front) }

/-- Copy `n` cells behind the message. -/
def copy (src n : Nat) (s : Building α) : Building α :=
  { s.read src n with mem := copyCells s.front src n s.mem, front := s.front + n }

/-- Copy so many items. -/
def copyEach (size src num : Nat) (s : Building α) : Building α :=
  (List.range num).foldl (fun s i => s.copy (src + size * i) size) s

/-- Copy as many items as the cell at `countAt` counts, which is read again before each of them; with
the place behind the last one. -/
def copyWhile (count : α → Nat) (countAt size : Nat) :
    Nat → Nat → Nat → Building α → Building α × Nat
  | 0, _, src, s => (s, src)
  | fuel + 1, i, src, s =>
      let s := s.read countAt 1
      if i < count (s.mem countAt) then
        copyWhile count countAt size fuel (i + 1) (src + size) (s.copy src size)
      else (s, src)

/-- Nothing but this message is there. -/
def built (m : Nat → α) (start : Nat) (cells : List α) : Building α where
  mem := put start cells m
  start := start
  front := start + cells.length
  spoiled := false

end Building

open Building

/-- **The message**, while it ends before the parameters; behind that its front is all that is
known. -/
structure Kept (param : Nat) (m : Nat → α) (start : Nat) (cells : List α) (s : Building α) : Prop where
  began : s.start = start
  whole : start + cells.length ≤ param → s = built m start cells
  passed : param < start + cells.length → param < s.front

section Fronts

variable {count : α → Nat} {countAt size src num at_ n fuel i : Nat} {s : Building α}

@[simp] theorem read_mem : (s.read at_ n).mem = s.mem := rfl

@[simp] theorem read_start : (s.read at_ n).start = s.start := rfl

@[simp] theorem read_front : (s.read at_ n).front = s.front := rfl

@[simp] theorem copy_start : (s.copy src n).start = s.start := rfl

@[simp] theorem copy_front : (s.copy src n).front = s.front + n := rfl

theorem copyEach_succ :
    s.copyEach size src (num + 1) = (s.copyEach size src num).copy (src + size * num) size := by
  rw [copyEach, copyEach, List.range_succ, List.foldl_append, List.foldl_cons, List.foldl_nil]

theorem copyEach_front :
    (s.copyEach size src num).start = s.start ∧
      (s.copyEach size src num).front = s.front + size * num := by
  induction num with
  | zero => exact ⟨rfl, rfl⟩
  | succ num ih =>
      rw [copyEach_succ, copy_start, copy_front, ih.1, ih.2, Nat.mul_succ, Nat.add_assoc]
      exact ⟨rfl, rfl⟩

/-- The start stays, and the front does not go back. -/
theorem copyWhile_front :
    (copyWhile count countAt size fuel i src s).1.start = s.start ∧
      s.front ≤ (copyWhile count countAt size fuel i src s).1.front := by
  induction fuel generalizing i src s with
  | zero => exact ⟨rfl, le_refl _⟩
  | succ fuel ih =>
      rw [copyWhile]
      split
      · obtain ⟨start, front⟩ := @ih (src + size) (i + 1) ((s.read countAt 1).copy src size)
        exact ⟨start, le_trans (Nat.le_add_right _ size) front⟩
      · exact ⟨rfl, le_refl _⟩

end Fronts

/-! ## Steps -/

section Steps

variable {param start src n : Nat} {m : Nat → α} {cells more : List α} {s : Building α}

theorem kept_start (param : Nat) (m : Nat → α) (start : Nat) :
    Kept param m start [] ⟨m, start, start, false⟩ where
  began := rfl
  whole _ := by rw [built, put_nil, List.length_nil, Nat.add_zero]
  passed past := past

/-- A state whose front has passed the parameters is as good as another one. -/
theorem Kept.of_passed (began : s.start = start) (long : param < start + cells.length)
    (past : param < s.front) : Kept param m start cells s where
  began := began
  whole fits := absurd fits (Nat.not_le.2 long)
  passed _ := past

/-- Reading what has not been covered changes nothing. -/
theorem read_built (behind : start + cells.length ≤ src) :
    (built m start cells).read src n = built m start cells := by
  rw [Building.read, built]
  simp only [Bool.false_or, Building.mk.injEq, decide_eq_false_iff_not, true_and]
  omega

theorem copy_built (behind : start + cells.length ≤ src) :
    (built m start cells).copy src n = built m start (cells ++ cellsAt src n m) := by
  have there : cellsAt src n (put start cells m) = cellsAt src n m := cellsAt_put_apart (.inr behind)
  rw [Building.copy, read_built behind]
  simp only [built, copyCells, there, put_append, List.length_append, length_cellsAt, Nat.add_assoc]

/-- The parameters are as they were. -/
theorem Kept.mem_behind {a : Nat} (kept : Kept param m start cells s)
    (fits : start + cells.length ≤ param) (behind : param ≤ a) : s.mem a = m a := by
  rw [kept.whole fits]
  exact put_behind (fits.trans behind)

theorem Kept.read (kept : Kept param m start cells s) (behind : param ≤ src) :
    Kept param m start cells (s.read src n) where
  began := kept.began
  whole fits := by rw [kept.whole fits, read_built (fits.trans behind)]
  passed past := kept.passed past

/-- **One copy.** -/
theorem Kept.copy (kept : Kept param m start cells s) (behind : param ≤ src)
    (there : cellsAt src n m = more) : Kept param m start (cells ++ more) (s.copy src n) where
  began := kept.began
  whole fits := by
    rw [List.length_append] at fits
    rw [kept.whole (by omega), copy_built (by omega), there]
  passed past := by
    rw [← there, List.length_append, length_cellsAt] at past
    rw [copy_front]
    by_cases fits : start + cells.length ≤ param
    · rw [kept.whole fits]
      show param < start + cells.length + n
      omega
    · have := kept.passed (Nat.not_le.1 fits)
      omega

end Steps

/-! ## Loops -/

section Loops

variable {param start src size num countAt fuel i : Nat} {count : α → Nat} {m : Nat → α}
  {cells more : List α} {s : Building α}

theorem copyEach_built (behind : start + cells.length + size * num ≤ param) (after : param ≤ src) :
    (built m start cells).copyEach size src num =
      built m start (cells ++ cellsAt src (size * num) m) := by
  induction num with
  | zero =>
      rw [Nat.mul_zero, cellsAt, List.range_zero, List.map_nil, List.append_nil]
      rfl
  | succ num ih =>
      rw [Nat.mul_succ] at behind ⊢
      rw [copyEach_succ, ih (by omega), copy_built, cellsAt_add, List.append_assoc]
      rw [List.length_append, length_cellsAt]
      omega

/-- **So many copies.**  The place and the number are those of the parameters, while the message ends
before them. -/
theorem Kept.copyEach {place num' : Nat} (kept : Kept param m start cells s)
    (there : cellsAt place (size * num') m = more) (behind : param ≤ place)
    (here : start + cells.length ≤ param → src = place ∧ num = num') :
    Kept param m start (cells ++ more) (s.copyEach size src num) where
  began := copyEach_front.1.trans kept.began
  whole fits := by
    have length := congrArg List.length there
    rw [length_cellsAt] at length
    rw [List.length_append] at fits
    obtain ⟨rfl, rfl⟩ := here (by omega)
    rw [kept.whole (by omega), ← there, copyEach_built (by omega) behind]
  passed past := by
    rw [copyEach_front.2]
    by_cases fits : start + cells.length ≤ param
    · obtain ⟨-, rfl⟩ := here fits
      rw [kept.whole fits]
      rw [← there, List.length_append, length_cellsAt] at past
      show param < start + cells.length + size * num
      omega
    · have := kept.passed (Nat.not_le.1 fits)
      omega

/-- **As many copies as are counted**; and where the next loop goes on.  The place is that of the
first item, while the message ends before the parameters. -/
theorem Kept.copyWhile {place : Nat} (kept : Kept param m start cells s) (counted : param ≤ countAt)
    (there : cellsAt place (size * num) m = more) (behind : param ≤ place)
    (number : count (m countAt) = i + num) (fueled : num < fuel)
    (here : start + cells.length ≤ param → src = place) :
    Kept param m start (cells ++ more) (Building.copyWhile count countAt size fuel i src s).1 ∧
      (start + (cells ++ more).length ≤ param →
        (Building.copyWhile count countAt size fuel i src s).2 = place + size * num) := by
  induction fuel generalizing i src place num cells more s with
  | zero => exact absurd fueled (Nat.not_lt_zero num)
  | succ fuel ih =>
      by_cases fits : start + cells.length ≤ param
      · obtain rfl := here fits
        -- the count has not been covered
        have same : (s.read countAt 1).mem countAt = m countAt := kept.mem_behind fits counted
        rw [Building.copyWhile, same, number]
        cases num with
        | zero =>
            rw [Nat.add_zero, if_neg (Nat.lt_irrefl i), ← there, Nat.mul_zero, cellsAt,
              List.range_zero, List.map_nil, List.append_nil]
            exact ⟨kept.read counted, fun _ => rfl⟩
        | succ num =>
            rw [if_pos (by omega)]
            rw [Nat.mul_succ, Nat.add_comm, cellsAt_add] at there
            have one : Kept param m start (cells ++ cellsAt src size m)
                ((s.read countAt 1).copy src size) := (kept.read counted).copy behind rfl
            have rest := ih one rfl (show param ≤ src + size by omega)
              (show count (m countAt) = i + 1 + num by omega) (by omega) fun _ => rfl
            rw [List.append_assoc, there] at rest
            refine ⟨rest.1, fun ends => (rest.2 ends).trans ?_⟩
            rw [Nat.mul_succ]
            omega
      · have long : param < start + cells.length := Nat.not_le.1 fits
        obtain ⟨began, front⟩ := @copyWhile_front _ count countAt size src (fuel + 1) i s
        have longer : param < start + (cells ++ more).length := by
          rw [List.length_append]
          omega
        exact ⟨.of_passed (began.trans kept.began) longer
          (Nat.lt_of_lt_of_le (kept.passed long) front), fun ends => absurd ends (by omega)⟩

end Loops

/-- **The first parameter is read at last.** -/
theorem Kept.read_param {param start n : Nat} {m : Nat → α} {cells : List α} {s : Building α}
    (kept : Kept param m start cells s) (before : start ≤ param) (some_ : 0 < n) :
    (s.read param n).spoiled = false ↔ start + cells.length ≤ param := by
  constructor
  · intro clean
    by_contra long
    have front := kept.passed (Nat.not_le.1 long)
    rw [Building.read, Bool.or_eq_false_iff, decide_eq_false_iff_not] at clean
    have began := kept.began
    exact clean.2 ⟨by omega, front⟩
  · intro fits
    rw [kept.whole fits, read_built fits]
    rfl

end Zboss.Theory.MessageBuild
