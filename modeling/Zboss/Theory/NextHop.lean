/-
# Theory.NextHop -- following next hops

Each node may name another one as its next hop (`next`).  `follow` goes along the names, and
`LoopFree` says that it never comes to a node a second time.

The names come from what nodes say of themselves: a value, the less the better.  The route of a
node rests on a value (`Rests`) that its next hop has said, and which is less than whatever the
node itself has said.  Then the values fall along the route, whatever was said, heard and
forgotten in between (`loopFree_of_rests`).
-/
import Mathlib

namespace Zboss.Theory.NextHop

set_option autoImplicit false

universe u v

variable {α : Type u} {μ : Type v} {next : α → Option α} {said : α → μ → Prop}
  {a b : α} {m n : Nat}

/-- Where `n` hops lead. -/
def follow (next : α → Option α) : Nat → α → Option α
  | 0, a => some a
  | n + 1, a => (next a).bind (follow next n)

/-- No way along the next hops comes to a node again. -/
def LoopFree (next : α → Option α) : Prop :=
  ∀ (a b : α) (m n : Nat), m < n → follow next m a = some b → follow next n a ≠ some b

theorem follow_succ_eq_some :
    follow next (n + 1) a = some b ↔ ∃ c, next a = some c ∧ follow next n c = some b := by
  simp only [follow, Option.bind_eq_some_iff]

theorem follow_add : follow next (m + n) a = (follow next m a).bind (follow next n) := by
  induction m generalizing a with
  | zero => simp [follow]
  | succ m ih =>
      rw [Nat.add_right_comm]
      simp only [follow, Option.bind_assoc]
      apply congrArg
      funext c
      exact ih

/-- It is enough that no node comes back to itself. -/
theorem loopFree_iff : LoopFree next ↔ ∀ (a : α) (n : Nat), follow next (n + 1) a ≠ some a := by
  constructor
  · intro free a n
    exact free a a 0 (n + 1) n.succ_pos rfl
  · intro never a b m n less first again
    obtain ⟨k, rfl⟩ := Nat.exists_eq_add_of_lt less
    rw [Nat.add_assoc, follow_add, first] at again
    exact never b k again

variable [Preorder μ]

/-- The route of `a` rests on the value `w`. -/
structure Rests (next : α → Option α) (said : α → μ → Prop) (a : α) (w : μ) : Prop where
  heard : ∃ b, next a = some b ∧ said b w
  less : ∀ w', said a w' → w < w'

/-- One hop on, the value is less. -/
theorem Rests.hop {w w' : μ} (rests : Rests next said a w) (hop : next a = some b)
    (on : Rests next said b w') : w' < w := by
  obtain ⟨c, hop', heard⟩ := rests.heard
  obtain rfl : b = c := Option.some.inj (hop.symm.trans hop')
  exact on.less w heard

/-- Any number of hops on, the value is less. -/
theorem Rests.hops (all : ∀ a b, next a = some b → ∃ w, Rests next said a w) {w w' : μ}
    (rests : Rests next said a w) (path : follow next (n + 1) a = some b)
    (on : Rests next said b w') : w' < w := by
  induction n generalizing a w with
  | zero =>
      obtain ⟨c, hop, rest⟩ := follow_succ_eq_some.1 path
      cases rest
      exact rests.hop hop on
  | succ n ih =>
      obtain ⟨c, hop, rest⟩ := follow_succ_eq_some.1 path
      obtain ⟨e, further, -⟩ := follow_succ_eq_some.1 rest
      obtain ⟨v, between⟩ := all c e further
      exact (ih between rest).trans (rests.hop hop between)

/-- **Where every route rests on a value, no route has a loop.** -/
theorem loopFree_of_rests (all : ∀ a b, next a = some b → ∃ w, Rests next said a w) :
    LoopFree next := by
  rw [loopFree_iff]
  intro a n back
  obtain ⟨b, hop, -⟩ := follow_succ_eq_some.1 back
  obtain ⟨w, rests⟩ := all a b hop
  exact lt_irrefl w (rests.hops all back rests)

end Zboss.Theory.NextHop
