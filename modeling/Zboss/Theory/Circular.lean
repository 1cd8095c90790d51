/-
# Theory.Circular -- a window that moves round a memory of fixed size

`window cap buf i n`: the `n` values from place `i` on, where place 0 follows the
last one.  Writing behind a window that is not full appends to it (`window_push`);
stepping over its first place drops the first value (by definition).
-/
import Mathlib

namespace Zboss.Theory.Circular

set_option autoImplicit false

universe u

variable {α : Type u} {cap : Nat} {buf : Nat → α} {i n : Nat}

def window (cap : Nat) (buf : Nat → α) : Nat → Nat → List α
  | _, 0 => []
  | i, n + 1 => buf i :: window cap buf ((i + 1) % cap) n

@[simp] theorem window_length : (window cap buf i n).length = n := by
  induction n generalizing i with
  | zero => rfl
  | succ n ih => simp [window, ih]

/-- Going round by less than the whole size does not lead back. -/
theorem place_ne (inside : i < cap) (some_ : 0 < n) (part : n < cap) : (i + n) % cap ≠ i := by
  by_cases wraps : i + n < cap
  · rw [Nat.mod_eq_of_lt wraps]
    omega
  · rw [Nat.mod_eq_sub_mod (by omega), Nat.mod_eq_of_lt (by omega)]
    omega

theorem window_push (inside : i < cap) (room : n < cap) (x : α) :
    window cap (Function.update buf ((i + n) % cap) x) i (n + 1) = window cap buf i n ++ [x] := by
  induction n generalizing i with
  | zero => simp [window, Nat.mod_eq_of_lt inside]
  | succ n ih =>
      have kept : i ≠ (i + (n + 1)) % cap := (place_ne inside (Nat.succ_pos n) room).symm
      have place : (i + (n + 1)) % cap = ((i + 1) % cap + n) % cap := by
        rw [Nat.mod_add_mod, Nat.add_assoc, Nat.add_comm 1 n]
      have next : (i + 1) % cap < cap := Nat.mod_lt _ (by omega)
      rw [window, Function.update_of_ne kept, place, ih next (by omega)]
      rfl

end Zboss.Theory.Circular
