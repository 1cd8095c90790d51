/-
# Theory.Access -- which cells a computation reads and writes

A `Traced` computation on a memory notes which cells it reads and writes; an assertion stops it.
`Meets` judges it: it comes to an end, reads and writes where it may, and leaves what it should.

* `meets_pure`, `meets_bind`, `meets_check`, `meets_placed`, and `meets_look` and its like: the
  rules, exact for each of them, so that together they say exactly when a computation stays inside;
* `result_bind` and its like: what a computation leaves, whatever it reads and writes;
* `meets_iff_result`: both apart.
-/
import Mathlib
import Zboss.Theory.ByteMemory

namespace Zboss.Theory.Access

open Zboss.Theory.ByteMemory

set_option autoImplicit false

variable {α β γ ι κ : Type}

structure Ran (ι β : Type) where
  val : β
  reads : List ι
  writes : List ι

/-- A computation; `none` where an assertion fails. -/
structure Traced (ι β : Type) where
  run : Option (Ran ι β)

/-- One run behind another one. -/
def Ran.behind (r : Ran ι γ) (r' : Ran ι β) : Ran ι β :=
  ⟨r'.val, r.reads ++ r'.reads, r.writes ++ r'.writes⟩

instance : Monad (Traced ι) where
  pure val := ⟨some ⟨val, [], []⟩⟩
  bind x f := ⟨x.run.bind fun r => (f r.val).run.map r.behind⟩

/-- Go on with what is there. -/
def check (x : Option β) : Traced ι β := ⟨x.map fun val => ⟨val, [], []⟩⟩

/-- Read one cell. -/
def look (a : Nat) (m : Nat → α) : Traced Nat α := ⟨some ⟨m a, [a], []⟩⟩

/-- Read `n` cells. -/
def lookCells (a n : Nat) (m : Nat → α) : Traced Nat (List α) :=
  ⟨some ⟨cellsAt a n m, List.range' a n, []⟩⟩

/-- Copy `n` cells. -/
def moveCells (dst src n : Nat) (m : Nat → α) : Traced Nat (Nat → α) :=
  ⟨some ⟨copyCells dst src n m, List.range' src n, List.range' dst n⟩⟩

/-- Copy `num` items of `size` cells, the first one first. -/
def moveItems (size dst src num : Nat) (m : Nat → α) : Traced Nat (Nat → α) :=
  ⟨some ⟨copyItems size dst src num m, List.range' src (size * num), List.range' dst (size * num)⟩⟩

/-- Write `n` cells. -/
def fill (a n : Nat) : Traced Nat Unit := ⟨some ⟨(), [], List.range' a n⟩⟩

/-- The same computation, with its places among others. -/
def Traced.placed (f : ι → κ) (x : Traced ι β) : Traced κ β :=
  ⟨x.run.map fun r => ⟨r.val, r.reads.map f, r.writes.map f⟩⟩

/-- What is left, whatever has been read and written. -/
def Traced.result (x : Traced ι β) : Option β := x.run.map Ran.val

/-- The computation ends, reads and writes where it may, and leaves what it should. -/
def Meets (reads writes : ι → Prop) (x : Traced ι β) (leaves : β → Prop) : Prop :=
  ∃ r, x.run = some r ∧ (∀ a ∈ r.reads, reads a) ∧ (∀ a ∈ r.writes, writes a) ∧ leaves r.val

section Rules

section Sequence

variable {reads writes : ι → Prop} {leaves : β → Prop}

@[simp] theorem meets_pure {val : β} : Meets reads writes (pure val : Traced ι β) leaves ↔ leaves val := by
  constructor
  · rintro ⟨r, ran, -, -, left⟩
    cases ran
    exact left
  · intro left
    exact ⟨_, rfl, fun _ mem => absurd mem List.not_mem_nil, fun _ mem => absurd mem List.not_mem_nil,
      left⟩

/-- **One computation after the other.** -/
@[simp] theorem meets_bind {x : Traced ι γ} {f : γ → Traced ι β} :
    Meets reads writes (x >>= f) leaves ↔
      Meets reads writes x fun val => Meets reads writes (f val) leaves := by
  constructor
  · rintro ⟨r, ran, inReads, inWrites, left⟩
    obtain ⟨first, here, rest⟩ := Option.bind_eq_some_iff.1 ran
    obtain ⟨second, there, rfl⟩ := Option.map_eq_some_iff.1 rest
    exact ⟨first, here, fun a mem => inReads a (List.mem_append_left _ mem),
      fun a mem => inWrites a (List.mem_append_left _ mem), second, there,
      fun a mem => inReads a (List.mem_append_right _ mem),
      fun a mem => inWrites a (List.mem_append_right _ mem), left⟩
  · rintro ⟨first, here, inReads, inWrites, second, there, inReads', inWrites', left⟩
    refine ⟨first.behind second, ?_, List.forall_mem_append.2 ⟨inReads, inReads'⟩,
      List.forall_mem_append.2 ⟨inWrites, inWrites'⟩, left⟩
    exact Option.bind_eq_some_iff.2 ⟨first, here, Option.map_eq_some_iff.2 ⟨second, there, rfl⟩⟩

@[simp] theorem meets_check {x : Option β} :
    Meets reads writes (check x) leaves ↔ ∃ val, x = some val ∧ leaves val := by
  constructor
  · rintro ⟨r, ran, -, -, left⟩
    obtain ⟨val, there, rfl⟩ := Option.map_eq_some_iff.1 ran
    exact ⟨val, there, left⟩
  · rintro ⟨val, rfl, left⟩
    exact ⟨_, rfl, fun _ mem => absurd mem List.not_mem_nil, fun _ mem => absurd mem List.not_mem_nil,
      left⟩

@[simp] theorem meets_placed {reads writes : κ → Prop} {f : ι → κ} {x : Traced ι β} :
    Meets reads writes (x.placed f) leaves ↔
      Meets (fun a => reads (f a)) (fun a => writes (f a)) x leaves := by
  constructor
  · rintro ⟨r, ran, inReads, inWrites, left⟩
    obtain ⟨r, here, rfl⟩ := Option.map_eq_some_iff.1 ran
    exact ⟨r, here, List.forall_mem_map.1 inReads, List.forall_mem_map.1 inWrites, left⟩
  · rintro ⟨r, here, inReads, inWrites, left⟩
    exact ⟨_, Option.map_eq_some_iff.2 ⟨r, here, rfl⟩, List.forall_mem_map.2 inReads,
      List.forall_mem_map.2 inWrites, left⟩

end Sequence

section Cells

variable {reads writes : Nat → Prop} {leaves : β → Prop}

@[simp] theorem meets_look {a : Nat} {m : Nat → β} :
    Meets reads writes (look a m) leaves ↔ reads a ∧ leaves (m a) := by
  constructor
  · rintro ⟨r, ran, inReads, -, left⟩
    cases ran
    exact ⟨inReads a (List.mem_singleton_self a), left⟩
  · rintro ⟨inside, left⟩
    exact ⟨_, rfl, List.forall_mem_singleton.2 inside, fun _ mem => absurd mem List.not_mem_nil, left⟩

@[simp] theorem meets_lookCells {a n : Nat} {m : Nat → α} {leaves : List α → Prop} :
    Meets reads writes (lookCells a n m) leaves ↔
      (∀ i ∈ List.range' a n, reads i) ∧ leaves (cellsAt a n m) := by
  constructor
  · rintro ⟨r, ran, inReads, -, left⟩
    cases ran
    exact ⟨inReads, left⟩
  · rintro ⟨inside, left⟩
    exact ⟨_, rfl, inside, fun _ mem => absurd mem List.not_mem_nil, left⟩

@[simp] theorem meets_moveCells {dst src n : Nat} {m : Nat → α} {leaves : (Nat → α) → Prop} :
    Meets reads writes (moveCells dst src n m) leaves ↔
      (∀ i ∈ List.range' src n, reads i) ∧
        (∀ i ∈ List.range' dst n, writes i) ∧ leaves (copyCells dst src n m) := by
  constructor
  · rintro ⟨r, ran, inReads, inWrites, left⟩
    cases ran
    exact ⟨inReads, inWrites, left⟩
  · rintro ⟨inReads, inWrites, left⟩
    exact ⟨_, rfl, inReads, inWrites, left⟩

@[simp] theorem meets_moveItems {size dst src num : Nat} {m : Nat → α} {leaves : (Nat → α) → Prop} :
    Meets reads writes (moveItems size dst src num m) leaves ↔
      (∀ i ∈ List.range' src (size * num), reads i) ∧
        (∀ i ∈ List.range' dst (size * num), writes i) ∧ leaves (copyItems size dst src num m) := by
  constructor
  · rintro ⟨r, ran, inReads, inWrites, left⟩
    cases ran
    exact ⟨inReads, inWrites, left⟩
  · rintro ⟨inReads, inWrites, left⟩
    exact ⟨_, rfl, inReads, inWrites, left⟩

@[simp] theorem meets_fill {a n : Nat} {leaves : Unit → Prop} :
    Meets reads writes (fill a n) leaves ↔ (∀ i ∈ List.range' a n, writes i) ∧ leaves () := by
  constructor
  · rintro ⟨r, ran, -, inWrites, left⟩
    cases ran
    exact ⟨inWrites, left⟩
  · rintro ⟨inWrites, left⟩
    exact ⟨_, rfl, fun _ mem => absurd mem List.not_mem_nil, inWrites, left⟩

/-- Cells in a row, inside of bounds. -/
theorem range'_within {a n first last : Nat} :
    (∀ i ∈ List.range' a n, first ≤ i ∧ i < last) ↔ n = 0 ∨ first ≤ a ∧ a + n ≤ last := by
  simp only [List.mem_range'_1]
  constructor
  · intro all
    by_cases none_ : n = 0
    · exact .inl none_
    · have low := all a ⟨le_refl a, by omega⟩
      have high := all (a + n - 1) ⟨by omega, by omega⟩
      exact .inr ⟨low.1, by omega⟩
  · rintro (rfl | inside) i mem
    · omega
    · omega

end Cells

end Rules

/-! ## What is left -/

section Result

@[simp] theorem result_pure {val : β} : (pure val : Traced ι β).result = some val := rfl

@[simp] theorem result_bind {x : Traced ι γ} {f : γ → Traced ι β} :
    (x >>= f).result = x.result.bind fun val => (f val).result := by
  obtain ⟨none | r⟩ := x
  · rfl
  · show ((f r.val).run.map r.behind).map Ran.val = (f r.val).result
    rw [Option.map_map, Traced.result]
    rfl

@[simp] theorem result_check {x : Option β} : (check x : Traced ι β).result = x := by cases x <;> rfl

@[simp] theorem result_placed {f : ι → κ} {x : Traced ι β} : (x.placed f).result = x.result := by
  rw [Traced.result, Traced.placed, Option.map_map]
  rfl

@[simp] theorem result_look {a : Nat} {m : Nat → β} : (look a m).result = some (m a) := rfl

@[simp] theorem result_lookCells {a n : Nat} {m : Nat → β} :
    (lookCells a n m).result = some (cellsAt a n m) := rfl

@[simp] theorem result_moveCells {dst src n : Nat} {m : Nat → β} :
    (moveCells dst src n m).result = some (copyCells dst src n m) := rfl

@[simp] theorem result_moveItems {size dst src num : Nat} {m : Nat → β} :
    (moveItems size dst src num m).result = some (copyItems size dst src num m) := rfl

variable {reads writes : ι → Prop} {x : Traced ι β} {leaves leaves' : β → Prop}

/-- Where a computation stays and what it leaves are two questions. -/
theorem meets_iff_result : Meets reads writes x leaves ↔
    Meets reads writes x (fun _ => True) ∧ ∀ val, x.result = some val → leaves val := by
  constructor
  · rintro ⟨r, ran, inReads, inWrites, left⟩
    refine ⟨⟨r, ran, inReads, inWrites, trivial⟩, fun val made => ?_⟩
    rw [Traced.result, ran] at made
    cases made
    exact left
  · rintro ⟨⟨r, ran, inReads, inWrites, -⟩, all⟩
    exact ⟨r, ran, inReads, inWrites, all r.val (by rw [Traced.result, ran]; rfl)⟩

theorem meets_const {p : Prop} :
    Meets reads writes x (fun _ => p) ↔ Meets reads writes x (fun _ => True) ∧ p := by
  constructor
  · rintro ⟨r, ran, inReads, inWrites, holds⟩
    exact ⟨⟨r, ran, inReads, inWrites, trivial⟩, holds⟩
  · rintro ⟨⟨r, ran, inReads, inWrites, -⟩, holds⟩
    exact ⟨r, ran, inReads, inWrites, holds⟩

theorem meets_congr (same : ∀ val, leaves val ↔ leaves' val) :
    Meets reads writes x leaves ↔ Meets reads writes x leaves' := by
  rw [show leaves = leaves' from funext fun val => propext (same val)]

end Result

end Zboss.Theory.Access
