/-
# Theory.Firsts -- the first element of each key

A loop goes through a list and keeps an element when none with its key has been kept.  `firsts` is
the loop, from what has been kept already.

What it has kept in the end has each key once (`nodup_firsts`), and it is, for every key of the
list, the first element with that key (`mem_firsts_iff`).  Where the elements with a property go
through the loop before all of them do, an element without the property is kept only when none of
its key has it (`preferred_firsts`).
-/
import Mathlib

namespace Zboss.Theory.Firsts

set_option autoImplicit false

universe u v

variable {β : Type u} {κ : Type v} [DecidableEq κ]

/-- One element more, unless one with its key is there. -/
def keepFirst (key : β → κ) (kept : List β) (b : β) : List β :=
  if kept.any fun c => decide (key c = key b) then kept else kept ++ [b]

/-- The loop. -/
def firsts (key : β → κ) (kept xs : List β) : List β := xs.foldl (keepFirst key) kept

variable {key : β → κ} {kept xs ys : List β} {b c : β} {k : κ}

/-! ## One element -/

theorem keepFirst_old (there : ∃ c ∈ kept, key c = key b) : keepFirst key kept b = kept := by
  rw [keepFirst, if_pos]
  simpa using there

theorem keepFirst_new (new : ∀ c ∈ kept, key c ≠ key b) : keepFirst key kept b = kept ++ [b] := by
  rw [keepFirst, if_neg]
  simpa using new

theorem nodup_keepFirst (once : (kept.map key).Nodup) :
    ((keepFirst key kept b).map key).Nodup := by
  by_cases there : ∃ c ∈ kept, key c = key b
  · rw [keepFirst_old there]
    exact once
  · have new : ∀ c ∈ kept, key c ≠ key b := fun c mem same => there ⟨c, mem, same⟩
    rw [keepFirst_new new, List.map_append, List.map_singleton]
    apply List.Nodup.append once (List.nodup_singleton _)
    intro k old last
    obtain ⟨c, mem, rfl⟩ := List.mem_map.1 old
    exact new c mem (List.mem_singleton.1 last)

/-- The search for a key does not see which elements were left out. -/
theorem find?_keepFirst :
    (keepFirst key kept b).find? (fun c => decide (key c = k)) =
      (kept ++ [b]).find? fun c => decide (key c = k) := by
  by_cases there : ∃ c ∈ kept, key c = key b
  · rw [keepFirst_old there, List.find?_append]
    by_cases same : key b = k
    · obtain ⟨c, mem, equal⟩ := there
      have found : (kept.find? fun c => decide (key c = k)).isSome = true := by
        rw [List.find?_isSome]
        exact ⟨c, mem, decide_eq_true (equal.trans same)⟩
      rw [Option.or_of_isSome found]
    · simp [same]
  · rw [keepFirst_new fun c mem same => there ⟨c, mem, same⟩]

/-! ## The list -/

theorem firsts_append : firsts key kept (xs ++ ys) = firsts key (firsts key kept xs) ys :=
  List.foldl_append

/-- **Every key is kept once.** -/
theorem nodup_firsts (once : (kept.map key).Nodup) : ((firsts key kept xs).map key).Nodup := by
  induction xs generalizing kept with
  | nil => exact once
  | cons x xs ih => exact ih (nodup_keepFirst once)

theorem find?_firsts :
    (firsts key kept xs).find? (fun c => decide (key c = k)) =
      (kept ++ xs).find? fun c => decide (key c = k) := by
  induction xs generalizing kept with
  | nil => rw [List.append_nil]; rfl
  | cons x xs ih =>
      show (firsts key (keepFirst key kept x) xs).find? _ = _
      rw [ih, List.find?_append, find?_keepFirst, ← List.find?_append, List.append_assoc]
      rfl

/-- Where keys are not repeated, an element is what the search for its key finds. -/
theorem mem_iff_find? (once : (kept.map key).Nodup) :
    b ∈ kept ↔ kept.find? (fun c => decide (key c = key b)) = some b := by
  constructor
  · intro mem
    cases found : kept.find? fun c => decide (key c = key b) with
    | none =>
        have absent := List.find?_eq_none.1 found b mem
        exact absurd (decide_eq_true rfl) absent
    | some c =>
        have same : key c = key b := by simpa using List.find?_some found
        rw [List.inj_on_of_nodup_map once (List.mem_of_find?_eq_some found) mem same]
  · exact List.mem_of_find?_eq_some

/-- **What is kept is the first of its key.** -/
theorem mem_firsts_iff :
    b ∈ firsts key [] xs ↔ xs.find? (fun c => decide (key c = key b)) = some b := by
  have once : ((firsts key [] xs).map key).Nodup := nodup_firsts List.nodup_nil
  rw [mem_iff_find? once, find?_firsts, List.nil_append]

theorem mem_of_mem_firsts (mem : b ∈ firsts key [] xs) : b ∈ xs :=
  List.mem_of_find?_eq_some (mem_firsts_iff.1 mem)

/-- No key is lost. -/
theorem key_mem_firsts : k ∈ (firsts key [] xs).map key ↔ k ∈ xs.map key := by
  have search {ys : List β} :
      k ∈ ys.map key ↔ (ys.find? fun c => decide (key c = k)).isSome = true := by
    simp [List.find?_isSome]
  rw [search, search, find?_firsts, List.nil_append]

/-- **The preferred go first.** -/
theorem preferred_firsts {p : β → Bool} (mem : b ∈ firsts key [] (xs.filter p ++ xs))
    (some_ : ∃ c ∈ xs, key c = key b ∧ p c = true) : p b = true := by
  obtain ⟨c, there, same, preferred⟩ := some_
  have found : ((xs.filter p).find? fun c => decide (key c = key b)).isSome = true := by
    rw [List.find?_isSome]
    exact ⟨c, List.mem_filter.2 ⟨there, preferred⟩, decide_eq_true same⟩
  rw [mem_firsts_iff, List.find?_append, Option.or_of_isSome found] at mem
  exact (List.mem_filter.1 (List.mem_of_find?_eq_some mem)).2

end Zboss.Theory.Firsts
