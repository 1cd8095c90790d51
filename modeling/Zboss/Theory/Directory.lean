/-
# Theory.Directory -- numbered slots holding records, with unique keys

A directory is a partial map from slot numbers to records.  A key function reads
one field of a record, and some keys are known and others stand for an absent
field: `KeyUnique` says that a known key is held by one slot at most.  Clearing a
slot keeps it (`KeyUnique.clear`), writing a record keeps it when no other slot
holds the record's key (`KeyUnique.write`).  `occupied` counts the slots in use
below a bound; a write to a free slot and a clearing move it by one.
-/
import Mathlib

namespace Zboss.Theory.Directory

set_option autoImplicit false

universe u v

section Keys

variable {β : Type u} {κ : Type v} {key : β → κ} {known : κ → Prop} {p : Nat → Option β}

/-- A known key is held by one slot at most. -/
def KeyUnique (key : β → κ) (known : κ → Prop) (p : Nat → Option β) : Prop :=
  ∀ r s b c, p r = some b → p s = some c → known (key b) → key b = key c → r = s

theorem KeyUnique.clear (unique : KeyUnique key known p) (r : Nat) :
    KeyUnique key known (Function.update p r none) := by
  intro s t b c hs ht isKnown same
  by_cases sr : s = r
  · rw [sr, Function.update_self] at hs
    cases hs
  · by_cases tr : t = r
    · rw [tr, Function.update_self] at ht
      cases ht
    · rw [Function.update_of_ne sr] at hs
      rw [Function.update_of_ne tr] at ht
      exact unique s t b c hs ht isKnown same

/-- **Writing a record** whose known key no other slot holds. -/
theorem KeyUnique.write (unique : KeyUnique key known p) {r : Nat} {b : β}
    (fresh : known (key b) → ∀ s c, s ≠ r → p s = some c → key c ≠ key b) :
    KeyUnique key known (Function.update p r (some b)) := by
  intro s t c d hs ht isKnown same
  by_cases sr : s = r
  · by_cases tr : t = r
    · rw [sr, tr]
    · rw [sr, Function.update_self] at hs
      rw [Function.update_of_ne tr] at ht
      cases hs
      exact absurd same.symm (fresh isKnown t d tr ht)
  · rw [Function.update_of_ne sr] at hs
    by_cases tr : t = r
    · rw [tr, Function.update_self] at ht
      cases ht
      exact absurd same (fresh (same ▸ isKnown) s c sr hs)
    · rw [Function.update_of_ne tr] at ht
      exact unique s t c d hs ht isKnown same

end Keys

section Count

variable {β : Type u} {p : Nat → Option β} {n r : Nat}

/-- The number of slots below `n` in use. -/
def occupied (p : Nat → Option β) : Nat → Nat
  | 0 => 0
  | n + 1 => occupied p n + if (p n).isSome then 1 else 0

attribute [local simp] occupied

theorem occupied_congr {q : Nat → Option β} (same : ∀ i, i < n → (q i).isSome = (p i).isSome) :
    occupied q n = occupied p n := by
  induction n with
  | zero => rfl
  | succ n ih =>
      rw [occupied, occupied, ih fun i hi => same i (by omega), same n (by omega)]

theorem occupied_empty : occupied (fun _ => (none : Option β)) n = 0 := by
  induction n with
  | zero => rfl
  | succ n ih => simpa using ih

theorem occupied_mono {m : Nat} (le : m ≤ n) : occupied p m ≤ occupied p n := by
  induction le with
  | refl => exact Nat.le_refl _
  | step _ ih => exact ih.trans (Nat.le_add_right _ _)

/-- Passing a slot in use. -/
theorem occupied_lt {m : Nat} (le : m ≤ r) (inside : r < n) {b : β} (taken : p r = some b) :
    occupied p m < occupied p n :=
  calc occupied p m ≤ occupied p r := occupied_mono le
    _ < occupied p (r + 1) := by simp [taken]
    _ ≤ occupied p n := occupied_mono inside

/-- Filling a free slot. -/
theorem occupied_fill (inside : r < n) (free : p r = none) (b : β) :
    occupied (Function.update p r (some b)) n = occupied p n + 1 := by
  induction n with
  | zero => omega
  | succ n ih =>
      rcases Nat.lt_or_eq_of_le (Nat.le_of_lt_succ inside) with lt | rfl
      · rw [occupied, occupied, ih lt, Function.update_of_ne (by omega)]
        omega
      · have below : occupied (Function.update p r (some b)) r = occupied p r :=
          occupied_congr fun i hi => by rw [Function.update_of_ne (by omega)]
        simp [below, free]

/-- Clearing a slot in use. -/
theorem occupied_clear (inside : r < n) {b : β} (taken : p r = some b) :
    occupied (Function.update p r none) n + 1 = occupied p n := by
  have back : Function.update (Function.update p r none) r (some b) = p := by
    rw [Function.update_idem, ← taken, Function.update_eq_self]
  have filled := occupied_fill (p := Function.update p r none) inside (Function.update_self ..) b
  rw [back] at filled
  exact filled.symm

/-- Rewriting a slot in use. -/
theorem occupied_rewrite {b : β} (taken : p r = some b) (c : β) :
    occupied (Function.update p r (some c)) n = occupied p n := by
  apply occupied_congr
  intro i _
  by_cases here : i = r
  · rw [here, Function.update_self, taken]
    rfl
  · rw [Function.update_of_ne here]

end Count

end Zboss.Theory.Directory
