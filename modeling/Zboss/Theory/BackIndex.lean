/-
# Theory.BackIndex -- slots that name their key, and an index from keys to slots

Each slot says itself whether it is in use, and names a key; beside the slots an index is kept
that should lead from a key to the slot that names it.  `Indexes` is that it does, in both
directions: then no two slots in use name one key (`Indexes.unique`).  A slot may be entered in
(`Indexes.enter`), dropped from (`Indexes.drop`) and rewritten in (`Indexes.rewrite`) the index,
moved to a free slot (`Indexes.move`), and the slots be made more or fewer where those that come
and go are free (`Indexes.bound`).
-/
import Mathlib

namespace Zboss.Theory.BackIndex

set_option autoImplicit false

universe u v

variable {α : Type u} {κ : Type v}

/-- The index leads to the slots in use, and to nothing else. -/
structure Indexes (used : α → Bool) (key : α → κ) (slots : Nat → α) (n : Nat)
    (index : κ → Option Nat) : Prop where
  found : ∀ k i, index k = some i → i < n ∧ used (slots i) = true ∧ key (slots i) = k
  listed : ∀ i < n, used (slots i) = true → index (key (slots i)) = some i

variable {used : α → Bool} {key : α → κ} {slots : Nat → α} {n m i j : Nat} {index : κ → Option Nat}
  {k : κ} {x : α}

/-- **No two slots in use name one key.** -/
theorem Indexes.unique (ix : Indexes used key slots n index) (inside : i < n) (inside' : j < n)
    (on : used (slots i) = true) (on' : used (slots j) = true)
    (same : key (slots i) = key (slots j)) : i = j := by
  have first := ix.listed i inside on
  rw [same, ix.listed j inside' on'] at first
  exact (Option.some.inj first).symm

theorem indexes_empty (free : ∀ i < n, used (slots i) = false) :
    Indexes used key slots n fun _ => none := by
  refine ⟨nofun, ?_⟩
  intro i inside on
  rw [free i inside] at on
  cases on

/-- The index does not depend on the slots that are not there. -/
theorem Indexes.congr {slots' : Nat → α} (ix : Indexes used key slots n index)
    (same : ∀ i < n, slots' i = slots i) : Indexes used key slots' n index := by
  constructor
  · intro k i found
    obtain ⟨inside, on, is⟩ := ix.found k i found
    rw [same i inside]
    exact ⟨inside, on, is⟩
  · intro i inside on
    rw [same i inside] at on ⊢
    exact ix.listed i inside on

/-- **More or fewer slots**: those that are in one of the two bounds only are free. -/
theorem Indexes.bound (ix : Indexes used key slots n index)
    (free : ∀ i, (i < n ↔ i < m) ∨ used (slots i) = false) : Indexes used key slots m index := by
  constructor
  · intro k i found
    obtain ⟨inside, on, is⟩ := ix.found k i found
    rcases free i with same | off
    · exact ⟨same.1 inside, on, is⟩
    · rw [on] at off
      cases off
  · intro i inside on
    rcases free i with same | off
    · exact ix.listed i (same.2 inside) on
    · rw [on] at off
      cases off

/-- A slot is rewritten without its flag and its key. -/
theorem Indexes.rewrite (ix : Indexes used key slots n index) (flag : used x = used (slots i))
    (name : key x = key (slots i)) : Indexes used key (Function.update slots i x) n index := by
  have flags : ∀ j, used (Function.update slots i x j) = used (slots j) := by
    intro j
    by_cases here : j = i
    · rw [here, Function.update_self, flag]
    · rw [Function.update_of_ne here]
  have names : ∀ j, key (Function.update slots i x j) = key (slots j) := by
    intro j
    by_cases here : j = i
    · rw [here, Function.update_self, name]
    · rw [Function.update_of_ne here]
  constructor
  · intro k j found
    rw [flags, names]
    exact ix.found k j found
  · intro j inside on
    rw [flags] at on
    rw [names]
    exact ix.listed j inside on

variable [DecidableEq κ]

/-- **A free slot is entered**, under a key that has none. -/
theorem Indexes.enter (ix : Indexes used key slots n index) (inside : i < n)
    (free : used (slots i) = false) (absent : index k = none) (on : used x = true)
    (is : key x = k) :
    Indexes used key (Function.update slots i x) n (Function.update index k (some i)) := by
  constructor
  · intro k' j found
    by_cases same : k' = k
    · subst same
      rw [Function.update_self] at found
      cases found
      rw [Function.update_self]
      exact ⟨inside, on, is⟩
    · rw [Function.update_of_ne same] at found
      obtain ⟨inside', on', is'⟩ := ix.found k' j found
      have other : j ≠ i := by
        rintro rfl
        rw [on'] at free
        cases free
      rw [Function.update_of_ne other]
      exact ⟨inside', on', is'⟩
  · intro j inside' on'
    by_cases here : j = i
    · subst here
      rw [Function.update_self, is, Function.update_self]
    · rw [Function.update_of_ne here] at on' ⊢
      have listed := ix.listed j inside' on'
      have other : key (slots j) ≠ k := by
        rintro same
        rw [same, absent] at listed
        cases listed
      rw [Function.update_of_ne other]
      exact listed

/-- **A slot is dropped**, with the key it names. -/
theorem Indexes.drop (ix : Indexes used key slots n index) (at_ : index k = some i)
    (off : used x = false) :
    Indexes used key (Function.update slots i x) n (Function.update index k none) := by
  obtain ⟨inside, on, is⟩ := ix.found k i at_
  constructor
  · intro k' j found
    by_cases same : k' = k
    · subst same
      rw [Function.update_self] at found
      cases found
    · rw [Function.update_of_ne same] at found
      obtain ⟨inside', on', is'⟩ := ix.found k' j found
      have other : j ≠ i := by
        rintro rfl
        exact same (is'.symm.trans is)
      rw [Function.update_of_ne other]
      exact ⟨inside', on', is'⟩
  · intro j inside' on'
    by_cases here : j = i
    · subst here
      rw [Function.update_self, off] at on'
      cases on'
    · rw [Function.update_of_ne here] at on' ⊢
      have other : key (slots j) ≠ k := by
        intro same
        exact here (ix.unique inside' inside on' on (same.trans is.symm))
      rw [Function.update_of_ne other]
      exact ix.listed j inside' on'

/-- **A slot moves to a free one**, and leaves a free one. -/
theorem Indexes.move (ix : Indexes used key slots n index) (source : i < n)
    (on : used (slots i) = true) (target : j < n) (free : used (slots j) = false)
    (off : used x = false) :
    Indexes used key (Function.update (Function.update slots j (slots i)) i x) n
      (Function.update index (key (slots i)) (some j)) := by
  have apart : j ≠ i := by
    rintro rfl
    rw [on] at free
    cases free
  have dropped := ix.drop (ix.listed i source on) off
  have free' : used (Function.update slots i x j) = false := by
    rw [Function.update_of_ne apart]
    exact free
  have entered := dropped.enter target free' (Function.update_self _ _ _) on rfl
  rw [Function.update_idem, Function.update_comm apart.symm] at entered
  exact entered

end Zboss.Theory.BackIndex
