/-
# Theory.RunningBest -- a loop that keeps the best so far

A loop over a list keeps one element, and takes another in its place where that is better.
`runningBest` is the loop, and `Prevails` says where it ends without it: from the first element one
goes on to the next that is better, as long as there is one (`runningBest_iff_prevails`).

Better may be any relation.  Where it is a strict order, what prevails is beaten by no element of
the list, before or behind it (`Prevails.unbeaten`).
-/
import Mathlib

namespace Zboss.Theory.RunningBest

set_option autoImplicit false

universe u

variable {α : Type u} (better : α → α → Prop)

/-- The loop; `better new old`. -/
def runningBest [DecidableRel better] : Option α → List α → Option α
  | best, [] => best
  | none, x :: xs => runningBest (some x) xs
  | some best, x :: xs =>
      if better x best then runningBest (some x) xs else runningBest (some best) xs

/-- Where the chain of improvements from the first element ends. -/
inductive Prevails : List α → α → Prop
  | stays {first : α} {rest : List α} (none_ : ∀ x ∈ rest, ¬ better x first) :
      Prevails (first :: rest) first
  | goesOn {first next best : α} {passed rest : List α} (none_ : ∀ x ∈ passed, ¬ better x first)
      (some_ : better next first) (then_ : Prevails (next :: rest) best) :
      Prevails (first :: (passed ++ next :: rest)) best

variable {better} {xs : List α} {x best first : α}

section Loop

variable [DecidableRel better]

theorem runningBest_some (b : α) (xs : List α) : ∃ best, runningBest better (some b) xs = some best := by
  induction xs generalizing b with
  | nil => exact ⟨b, rfl⟩
  | cons x xs ih =>
      rw [runningBest]
      split
      · exact ih x
      · exact ih b

/-- Elements that are no better are passed by. -/
theorem runningBest_passed {passed : List α} (none_ : ∀ x ∈ passed, ¬ better x first) :
    runningBest better (some first) (passed ++ xs) = runningBest better (some first) xs := by
  induction passed with
  | nil => rfl
  | cons x passed ih =>
      rw [List.cons_append, runningBest, if_neg (none_ x List.mem_cons_self)]
      exact ih fun y mem => none_ y (List.mem_cons_of_mem x mem)

/-- What prevails is where the loop ends. -/
theorem Prevails.runs (prevails : Prevails better xs best) :
    runningBest better none xs = some best := by
  induction prevails with
  | stays none_ =>
      rename_i first rest
      have passed : runningBest better (some first) (rest ++ []) = some first :=
        runningBest_passed none_
      rw [List.append_nil] at passed
      exact passed
  | goesOn none_ some_ _ ih =>
      rw [runningBest, runningBest_passed none_, runningBest, if_pos some_]
      exact ih

theorem prevails_of_runs (b : α) (xs : List α) (runs : runningBest better (some b) xs = some best) :
    Prevails better (b :: xs) best := by
  -- the elements passed by are gathered until one is better
  have all : ∀ (xs passed : List α) (b : α), (∀ x ∈ passed, ¬ better x b) →
      runningBest better (some b) xs = some best → Prevails better (b :: (passed ++ xs)) best := by
    intro xs
    induction xs with
    | nil =>
        intro passed b none_ runs
        cases runs
        rw [List.append_nil]
        exact .stays none_
    | cons x xs ih =>
        intro passed b none_ runs
        rw [runningBest] at runs
        split at runs
        · rename_i some_
          exact .goesOn none_ some_ (ih [] x (fun y mem => by cases mem) runs)
        · rename_i none'
          have gathered := ih (passed ++ [x]) b
            (by
              intro y mem
              rcases List.mem_append.1 mem with mem | mem
              · exact none_ y mem
              · rw [List.mem_singleton.1 mem]
                exact none') runs
          rwa [List.append_assoc, List.singleton_append] at gathered
  exact all xs [] b (fun x mem => by cases mem) runs

/-- **The loop ends where the chain of improvements does.** -/
theorem runningBest_iff_prevails :
    runningBest better none xs = some best ↔ Prevails better xs best := by
  constructor
  · intro runs
    cases xs with
    | nil => cases runs
    | cons x xs => exact prevails_of_runs x xs runs
  · exact Prevails.runs

/-- It ends with nothing iff there is nothing. -/
theorem runningBest_eq_none : runningBest better none xs = none ↔ xs = [] := by
  cases xs with
  | nil => exact ⟨fun _ => rfl, fun _ => rfl⟩
  | cons x xs =>
      obtain ⟨best, is⟩ : ∃ best, runningBest better (some x) xs = some best := runningBest_some x xs
      rw [runningBest, is]
      simp

end Loop

theorem Prevails.mem (prevails : Prevails better xs best) : best ∈ xs := by
  induction prevails with
  | stays _ => exact List.mem_cons_self
  | goesOn _ _ _ ih => exact List.mem_cons_of_mem _ (List.mem_append_right _ ih)

/-- What prevails is the first element, or better. -/
theorem Prevails.improves (trans : ∀ a b c, better a b → better b c → better a c)
    (prevails : Prevails better (first :: xs) best) : best = first ∨ better best first := by
  generalize is : first :: xs = l at prevails
  induction prevails generalizing first xs with
  | stays _ =>
      cases is
      exact .inl rfl
  | goesOn _ some_ _ ih =>
      cases is
      rcases ih rfl with rfl | more
      · exact .inr some_
      · exact .inr (trans _ _ _ more some_)

/-- **What prevails is beaten by no element**, under a strict order. -/
theorem Prevails.unbeaten (trans : ∀ a b c, better a b → better b c → better a c)
    (irrefl : ∀ a, ¬ better a a) (prevails : Prevails better xs best) :
    ∀ x ∈ xs, ¬ better x best := by
  induction prevails with
  | stays none_ =>
      intro x mem
      rcases List.mem_cons.1 mem with rfl | mem
      · exact irrefl x
      · exact none_ x mem
  | goesOn none_ some_ then_ ih =>
      rename_i first next best passed rest
      have ahead : better best first := by
        rcases then_.improves trans with rfl | more
        · exact some_
        · exact trans _ _ _ more some_
      intro x mem beats
      rcases List.mem_cons.1 mem with rfl | mem
      · exact irrefl x (trans _ _ _ beats ahead)
      · rcases List.mem_append.1 mem with mem | mem
        · exact none_ x mem (trans _ _ _ beats ahead)
        · exact ih x mem beats

end Zboss.Theory.RunningBest
