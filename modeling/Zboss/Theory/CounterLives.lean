/-
# Theory.CounterLives -- numbers drawn from counters that are set back

Numbers are drawn, under keys, from two counters: the current one and the one
that was current before.  A counter can be set back (`restart`), and the current
one can take the place of the previous one (`rotate`); either begins a new life.
Within a life a counter only grows.  So a key that draws in one life only
(`OneLife`) never draws a number twice: `Ok` is the invariant, `Ok.current` and
`Ok.previous` the rules for a draw, `Ok.restart` and `Ok.rotate` for the rest.
-/
import Mathlib

namespace Zboss.Theory.CounterLives

set_option autoImplicit false

universe u v

/-- A number drawn under a key, with the life of the counter it came from. -/
structure Use (κ : Type u) (ν : Type v) where
  key : κ
  number : ν
  life : Nat

/-- All draws, the lives of the two counters, and how many lives have begun. -/
structure Ledger (κ : Type u) (ν : Type v) where
  uses : List (Use κ ν)
  current : Nat
  previous : Nat
  started : Nat

namespace Ledger

variable {κ : Type u} {ν : Type v}

def start : Ledger κ ν := ⟨[], 1, 0, 1⟩

def draw (l : Ledger κ ν) (life : Nat) (key : κ) (number : ν) : Ledger κ ν :=
  { l with uses := ⟨key, number, life⟩ :: l.uses }

def restart (l : Ledger κ ν) : Ledger κ ν :=
  { l with current := l.started + 1, started := l.started + 1 }

def rotate (l : Ledger κ ν) : Ledger κ ν := { l.restart with previous := l.current }

/-- Every number drawn under the key came from this life. -/
def OneLife (l : Ledger κ ν) (life : Nat) (key : κ) : Prop :=
  ∀ u ∈ l.uses, u.key = key → u.life = life

instance [DecidableEq κ] (l : Ledger κ ν) (life : Nat) (key : κ) :
    Decidable (l.OneLife life key) :=
  inferInstanceAs (Decidable (∀ u ∈ l.uses, u.key = key → u.life = life))

/-- The draws as pairs. -/
def drawn (l : Ledger κ ν) : List (κ × ν) := l.uses.map fun u => (u.key, u.number)

variable [Preorder ν]

/-- **The invariant**, for the values `now` and `before` of the two counters. -/
structure Ok (l : Ledger κ ν) (now before : ν) : Prop where
  nodup : l.drawn.Nodup
  below : ∀ u ∈ l.uses, u.life = l.current → u.number < now
  belowPrevious : ∀ u ∈ l.uses, u.life = l.previous → u.number < before
  apart : l.previous ≠ l.current
  begun : ∀ u ∈ l.uses, u.life ≤ l.started
  currentBegun : l.current ≤ l.started
  previousBegun : l.previous ≤ l.started

variable {l : Ledger κ ν} {now before next : ν} {key : κ}

theorem ok_start (now before : ν) : (start : Ledger κ ν).Ok now before where
  nodup := List.nodup_nil
  below _ mem := by cases mem
  belowPrevious _ mem := by cases mem
  apart := Nat.zero_ne_one
  begun _ mem := by cases mem
  currentBegun := Nat.le_refl 1
  previousBegun := Nat.zero_le 1

/-- A number above all its key has drawn in its one life is new. -/
theorem drawn_fresh {life : Nat} {number : ν} (oneLife : l.OneLife life key)
    (below : ∀ u ∈ l.uses, u.life = life → u.number < number) : (key, number) ∉ l.drawn := by
  intro mem
  obtain ⟨u, used, same⟩ := List.mem_map.1 mem
  obtain ⟨rfl, rfl⟩ := Prod.mk.inj same
  exact lt_irrefl _ (below u used (oneLife u used rfl))

/-- A draw from the current counter. -/
theorem Ok.current (ok : l.Ok now before) (oneLife : l.OneLife l.current key) (grows : now < next) :
    (l.draw l.current key now).Ok next before where
  nodup := List.nodup_cons.2 ⟨drawn_fresh oneLife ok.below, ok.nodup⟩
  below := by
    intro u mem alive
    rcases List.mem_cons.1 mem with rfl | mem
    · exact grows
    · exact (ok.below u mem alive).trans grows
  belowPrevious := by
    intro u mem alive
    rcases List.mem_cons.1 mem with rfl | mem
    · exact absurd alive.symm ok.apart
    · exact ok.belowPrevious u mem alive
  apart := ok.apart
  begun := by
    intro u mem
    rcases List.mem_cons.1 mem with rfl | mem
    · exact ok.currentBegun
    · exact ok.begun u mem
  currentBegun := ok.currentBegun
  previousBegun := ok.previousBegun

/-- A draw from the previous counter. -/
theorem Ok.previous (ok : l.Ok now before) (oneLife : l.OneLife l.previous key)
    (grows : before < next) : (l.draw l.previous key before).Ok now next where
  nodup := List.nodup_cons.2 ⟨drawn_fresh oneLife ok.belowPrevious, ok.nodup⟩
  below := by
    intro u mem alive
    rcases List.mem_cons.1 mem with rfl | mem
    · exact absurd alive ok.apart
    · exact ok.below u mem alive
  belowPrevious := by
    intro u mem alive
    rcases List.mem_cons.1 mem with rfl | mem
    · exact grows
    · exact (ok.belowPrevious u mem alive).trans grows
  apart := ok.apart
  begun := by
    intro u mem
    rcases List.mem_cons.1 mem with rfl | mem
    · exact ok.previousBegun
    · exact ok.begun u mem
  currentBegun := ok.currentBegun
  previousBegun := ok.previousBegun

/-- Counters may skip numbers. -/
theorem Ok.skip {now' before' : ν} (ok : l.Ok now before) (grows : now ≤ now')
    (growsPrevious : before ≤ before') : l.Ok now' before' :=
  { ok with
    below := fun u mem alive => (ok.below u mem alive).trans_le grows
    belowPrevious := fun u mem alive => (ok.belowPrevious u mem alive).trans_le growsPrevious }

/-- In a life that begins nothing has been drawn yet, wherever the counter is set. -/
theorem Ok.restart (ok : l.Ok now before) (set : ν) : l.restart.Ok set before where
  nodup := ok.nodup
  below u mem alive := by
    have := ok.begun u mem
    simp only [Ledger.restart] at alive
    omega
  belowPrevious := ok.belowPrevious
  apart := by
    have := ok.previousBegun
    simp only [Ledger.restart]
    omega
  begun u mem := (ok.begun u mem).trans (Nat.le_succ _)
  currentBegun := Nat.le_refl _
  previousBegun := ok.previousBegun.trans (Nat.le_succ _)

/-- The life of the current counter goes on in the previous one. -/
theorem Ok.rotate (ok : l.Ok now before) (set : ν) : l.rotate.Ok set now where
  nodup := ok.nodup
  below := (ok.restart set).below
  belowPrevious := ok.below
  apart := by
    have := ok.currentBegun
    simp only [Ledger.rotate, Ledger.restart]
    omega
  begun := (ok.restart set).begun
  currentBegun := Nat.le_refl _
  previousBegun := ok.currentBegun.trans (Nat.le_succ _)

end Ledger

end Zboss.Theory.CounterLives
