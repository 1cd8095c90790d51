/-
# Theory.Retry -- drawing until a draw is accepted

A loop draws from a source until it meets a value it accepts.  `retry` runs it with fuel over a
source that is a sequence; it returns the value, and how far the source was read.  It returns the
first accepted draw (`retry_eq_some_iff`), if there is one (`retry_returns_iff`).
-/
import Mathlib

namespace Zboss.Theory.Retry

set_option autoImplicit false

universe u

variable {α : Type u} {accept : α → Bool} {draw : Nat → α} {fuel k j : Nat} {x : α}

/-- `none` is a loop that has not ended. -/
def retry (accept : α → Bool) (draw : Nat → α) : (fuel k : Nat) → Option (α × Nat)
  | 0, _ => none
  | fuel + 1, k =>
      if accept (draw k) then some (draw k, k + 1) else retry accept draw fuel (k + 1)

/-- **The first accepted draw is returned.** -/
theorem retry_eq_some_iff :
    retry accept draw fuel k = some (x, j) ↔
      ∃ n < fuel, (∀ i < n, accept (draw (k + i)) = false) ∧ accept (draw (k + n)) = true ∧
        x = draw (k + n) ∧ j = k + n + 1 := by
  induction fuel generalizing k with
  | zero => simp [retry]
  | succ fuel ih =>
      rw [retry]
      split
      · rename_i first
        constructor
        · intro is
          cases is
          exact ⟨0, Nat.succ_pos _, fun i lt => absurd lt (Nat.not_lt_zero i), first, rfl, rfl⟩
        · rintro ⟨n, -, rejected, -, rfl, rfl⟩
          cases n with
          | zero => rfl
          | succ n =>
              have off := rejected 0 (Nat.succ_pos n)
              rw [Nat.add_zero, first] at off
              cases off
      · rename_i first
        rw [ih]
        constructor
        · rintro ⟨n, lt, rejected, accepted, rfl, rfl⟩
          have at_ : k + 1 + n = k + (n + 1) := by omega
          refine ⟨n + 1, by omega, ?_, by rw [← at_]; exact accepted, by rw [at_], by rw [at_]⟩
          intro i lt'
          cases i with
          | zero => exact Bool.eq_false_iff.2 first
          | succ i =>
              have before := rejected i (by omega)
              rwa [show k + 1 + i = k + (i + 1) by omega] at before
        · rintro ⟨n, lt, rejected, accepted, rfl, rfl⟩
          cases n with
          | zero => exact absurd accepted first
          | succ n =>
              have at_ : k + (n + 1) = k + 1 + n := by omega
              refine ⟨n, by omega, ?_, by rw [← at_]; exact accepted, by rw [at_], by rw [at_]⟩
              intro i lt'
              have before := rejected (i + 1) (by omega)
              rwa [show k + (i + 1) = k + 1 + i by omega] at before

/-- **The loop ends iff a draw is accepted.** -/
theorem retry_returns_iff :
    (∃ fuel, (retry accept draw fuel k).isSome) ↔ ∃ n, accept (draw (k + n)) = true := by
  constructor
  · rintro ⟨fuel, returns⟩
    obtain ⟨⟨x, j⟩, is⟩ := Option.isSome_iff_exists.1 returns
    obtain ⟨n, -, -, accepted, -, -⟩ := retry_eq_some_iff.1 is
    exact ⟨n, accepted⟩
  · intro some_
    obtain ⟨n, accepted, first⟩ := Nat.findX some_
    refine ⟨n + 1, Option.isSome_iff_exists.2 ⟨(draw (k + n), k + n + 1), ?_⟩⟩
    exact retry_eq_some_iff.2
      ⟨n, Nat.lt_succ_self n, fun i lt => Bool.eq_false_iff.2 (first i lt), accepted, rfl, rfl⟩

end Zboss.Theory.Retry
