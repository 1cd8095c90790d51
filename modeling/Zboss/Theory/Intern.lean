/-
# Theory.Intern -- names kept once, under numbers that do not change

A book of `n` places keeps names.  To intern a name is to find the place it is
at, or to put it into a free one when it is at none (`Interns`); no place is ever
freed.  So a number means the same name from then on (`Interns.extends`), two
numbers mean different names (`Once`), and a name gets its number again
(`Interns.again`).

`Keeps n b ks` is that the names in the book are those of the list `ks`: a book
has no room for a name exactly when the names, with that one, are more than its
places (`Keeps.full_iff`).  For a machine whose actions ask for a name each, or
for none, `along_room_iff` says the same of a whole run.
-/
import Mathlib
import Zboss.Theory.Run
import Zboss.Theory.Slots

namespace Zboss.Theory.Intern

open Zboss.Theory.Run
open Zboss.Theory.Slots

set_option autoImplicit false

universe u v w

/-- The name at each place. -/
abbrev Book (α : Type u) := Nat → Option α

variable {α : Type u} {n i j : Nat} {b b' b'' : Book α} {a c : α} {ks : List α}

/-- Interning `a` in the first `n` places of `b` gives the place `i`. -/
inductive Interns (n : Nat) (b : Book α) (a : α) (i : Nat) : Book α → Prop where
  | known (inside : i < n) (here : b i = some a) : Interns n b a i b
  | fresh (inside : i < n) (free : b i = none) (absent : ∀ j < n, b j ≠ some a) :
      Interns n b a i (Function.update b i (some a))

/-- The later book has each name of the earlier one where it was. -/
def Extends (b b' : Book α) : Prop := ∀ i a, b i = some a → b' i = some a

/-- No name is at two places. -/
def Once (n : Nat) (b : Book α) : Prop :=
  ∀ i j a, i < n → j < n → b i = some a → b j = some a → i = j

/-- No place of the book will do for `a`. -/
def Full (n : Nat) (b : Book α) (a : α) : Prop := ∀ i < n, ∃ c, b i = some c ∧ c ≠ a

/-! ## One name -/

theorem Extends.refl (b : Book α) : Extends b b := fun _ _ here => here

theorem Extends.trans (first : Extends b b') (second : Extends b' b'') : Extends b b'' :=
  fun i a here => second i a (first i a here)

theorem Interns.named (taken : Interns n b a i b') : i < n ∧ b' i = some a := by
  cases taken with
  | known inside here => exact ⟨inside, here⟩
  | fresh inside free absent => exact ⟨inside, Function.update_self ..⟩

/-- **A number keeps its meaning.** -/
theorem Interns.extends (taken : Interns n b a i b') : Extends b b' := by
  cases taken with
  | known inside here => exact Extends.refl b
  | fresh inside free absent =>
      intro j c there
      have other : j ≠ i := by
        rintro rfl
        rw [free] at there
        cases there
      rwa [Function.update_of_ne other]

theorem Interns.once (taken : Interns n b a i b') (once : Once n b) : Once n b' := by
  cases taken with
  | known inside here => exact once
  | fresh inside free absent =>
      intro j k c hj hk atJ atK
      by_cases hereJ : j = i
      · by_cases hereK : k = i
        · rw [hereJ, hereK]
        · rw [hereJ, Function.update_self] at atJ
          rw [Function.update_of_ne hereK] at atK
          cases atJ
          exact absurd atK (absent k hk)
      · rw [Function.update_of_ne hereJ] at atJ
        by_cases hereK : k = i
        · rw [hereK, Function.update_self] at atK
          cases atK
          exact absurd atJ (absent j hj)
        · rw [Function.update_of_ne hereK] at atK
          exact once j k c hj hk atJ atK

/-- A name that is in the book leaves it as it is. -/
theorem Interns.same_book (taken : Interns n b' a j b'') (inside : i < n) (here : b' i = some a) :
    b'' = b' := by
  cases taken with
  | known within there => rfl
  | fresh within free absent => exact absurd here (absent i inside)

/-- **A name gets its number again.** -/
theorem Interns.again (taken : Interns n b' a j b'') (once : Once n b') (inside : i < n)
    (here : b' i = some a) : j = i := by
  obtain ⟨within, there⟩ := taken.named
  rw [taken.same_book inside here] at there
  exact once j i a within inside there here

/-- A full book takes no new name. -/
theorem Full.stuck (full : Full n b a) (taken : Interns n b a i b') : False := by
  obtain ⟨c, there, other⟩ := full i taken.named.1
  cases taken with
  | known inside here =>
      rw [here] at there
      cases there
      exact other rfl
  | fresh inside free absent =>
      rw [free] at there
      cases there

theorem Interns.mem_iff (taken : Interns n b a i b') :
    (∃ j < n, b' j = some c) ↔ (∃ j < n, b j = some c) ∨ c = a := by
  cases taken with
  | known inside here =>
      constructor
      · exact Or.inl
      · rintro (there | rfl)
        · exact there
        · exact ⟨i, inside, here⟩
  | fresh inside free absent =>
      constructor
      · rintro ⟨j, hj, there⟩
        by_cases at_ : j = i
        · rw [at_, Function.update_self] at there
          cases there
          exact Or.inr rfl
        · rw [Function.update_of_ne at_] at there
          exact Or.inl ⟨j, hj, there⟩
      · rintro (⟨j, hj, there⟩ | rfl)
        · have other : j ≠ i := by
            rintro rfl
            rw [free] at there
            cases there
          exact ⟨j, hj, by rwa [Function.update_of_ne other]⟩
        · exact ⟨i, inside, Function.update_self ..⟩

/-! ## Counting the names -/

theorem Once.nodup (once : Once n b) : (contents b n).Nodup := by
  induction n with
  | zero => exact List.nodup_nil
  | succ n ih =>
      have below : (contents b n).Nodup :=
        ih fun i j a hi hj => once i j a (by omega) (by omega)
      rw [contents_succ]
      cases last : b n with
      | none => simpa using below
      | some a =>
          -- the last place holds none of the names before it
          refine List.Nodup.append below (List.nodup_singleton a) ?_
          intro c before behind
          cases List.mem_singleton.1 behind
          obtain ⟨i, hi, there⟩ := mem_contents.1 before
          have same := once i n _ (by omega) (by omega) there last
          omega

theorem length_contents_le (b : Book α) (n : Nat) : (contents b n).length ≤ n := by
  have le := List.length_filterMap_le b (List.range n)
  rwa [List.length_range] at le

theorem length_contents_of_full (taken : ∀ i < n, ∃ c, b i = some c) :
    (contents b n).length = n := by
  induction n with
  | zero => rfl
  | succ n ih =>
      obtain ⟨c, last⟩ := taken n (by omega)
      rw [contents_succ, List.length_append, ih fun i hi => taken i (by omega), last]
      rfl

/-- The names in the book are those of the list. -/
structure Keeps (n : Nat) (b : Book α) (ks : List α) : Prop where
  once : Once n b
  names : ∀ a, a ∈ ks ↔ ∃ i < n, b i = some a

theorem keeps_empty : Keeps n (fun _ => (none : Option α)) [] where
  once i j a hi hj there := nomatch there
  names a := by simp

theorem Keeps.interns (keeps : Keeps n b ks) (taken : Interns n b a i b') :
    Keeps n b' (ks ++ [a]) where
  once := taken.once keeps.once
  names c := by rw [taken.mem_iff, List.mem_append, keeps.names, List.mem_singleton]

section Card

variable [DecidableEq α]

theorem Keeps.card (keeps : Keeps n b ks) : ks.toFinset.card = (contents b n).length := by
  have same : ks.toFinset = (contents b n).toFinset := by
    ext a
    rw [List.mem_toFinset, List.mem_toFinset, keeps.names, mem_contents]
  rw [same, List.toFinset_card_of_nodup keeps.once.nodup]

theorem Keeps.card_le (keeps : Keeps n b ks) : ks.toFinset.card ≤ n := by
  rw [keeps.card]
  exact length_contents_le b n

/-- **There is no place for a name exactly when the names are too many.** -/
theorem Keeps.full_iff (keeps : Keeps n b ks) : Full n b a ↔ n < (ks ++ [a]).toFinset.card := by
  have split : (ks ++ [a]).toFinset = insert a ks.toFinset := by
    ext c
    simp
  have le := keeps.card_le
  rw [split]
  constructor
  · intro full
    have absent : a ∉ ks.toFinset := by
      rw [List.mem_toFinset, keeps.names]
      rintro ⟨i, inside, here⟩
      obtain ⟨c, there, other⟩ := full i inside
      rw [here] at there
      cases there
      exact other rfl
    have all : ks.toFinset.card = n := by
      rw [keeps.card]
      refine length_contents_of_full fun i inside => ?_
      obtain ⟨c, there, -⟩ := full i inside
      exact ⟨c, there⟩
    rw [Finset.card_insert_of_notMem absent]
    omega
  · intro many i inside
    have absent : a ∉ ks.toFinset := by
      intro known
      rw [Finset.insert_eq_of_mem known] at many
      omega
    rw [Finset.card_insert_of_notMem absent] at many
    cases there : b i with
    | none =>
        -- with a free place the names are fewer than the places
        have more := (contents_fill (b := a) inside there).length_eq
        have room := length_contents_le (Function.update b i (some a)) n
        rw [more, List.length_cons, ← keeps.card] at room
        omega
    | some c =>
        refine ⟨c, rfl, ?_⟩
        rintro rfl
        exact absent (List.mem_toFinset.2 ((keeps.names c).2 ⟨i, inside, there⟩))

end Card

/-! ## Machines that intern -/

/-- What an action does to the book: it interns the name it asks for, if any. -/
def Turn (n : Nat) (b : Book α) : Option α → Book α → Prop
  | none, b' => b' = b
  | some a, b' => ∃ i, Interns n b a i b'

/-- The name asked for has no place. -/
def Lacks (n : Nat) (b : Book α) : Option α → Prop
  | none => False
  | some a => Full n b a

variable {ask : Option α}

theorem Turn.extends (turn : Turn n b ask b') : Extends b b' := by
  cases ask with
  | none => cases turn; exact Extends.refl b
  | some a =>
      obtain ⟨i, taken⟩ := turn
      exact taken.extends

theorem Keeps.turn (keeps : Keeps n b ks) (turn : Turn n b ask b') :
    Keeps n b' (ks ++ ask.toList) := by
  cases ask with
  | none =>
      cases turn
      simpa using keeps
  | some a =>
      obtain ⟨i, taken⟩ := turn
      exact keeps.interns taken

theorem Keeps.lacks_iff [DecidableEq α] (keeps : Keeps n b ks) :
    Lacks n b ask ↔ n < (ks ++ ask.toList).toFinset.card := by
  cases ask with
  | none =>
      have le := keeps.card_le
      simp only [Lacks, Option.toList_none, List.append_nil, false_iff]
      omega
  | some a => exact keeps.full_iff

section Machine

variable {σ : Type v} {ι : Type w} {step : σ → ι → Option σ} {book : σ → Book α}
  {asks : ι → Option α} {s u : σ} {ops : List ι}

/-- **Numbers keep their meaning over a run.** -/
theorem extends_of_run (moves : ∀ s op t, step s op = some t → Turn n (book s) (asks op) (book t))
    (ran : run step s ops = some u) : Extends (book s) (book u) := by
  have keeps : ∀ t op t', Extends (book s) (book t) → step t op = some t' →
      Extends (book s) (book t') :=
    fun t op t' so_far taken => so_far.trans (moves t op t' taken).extends
  exact run_invariant_of_step keeps (Extends.refl _) ran

/-- After a run the book has the names asked for. -/
theorem keeps_of_run (moves : ∀ s op t, step s op = some t → Turn n (book s) (asks op) (book t))
    (start : Keeps n (book s) ks) (ran : run step s ops = some u) :
    Keeps n (book u) (ks ++ ops.filterMap asks) := by
  induction ops generalizing s ks with
  | nil =>
      cases ran
      simpa using start
  | cons op ops ih =>
      obtain ⟨t, taken, rest⟩ := run_cons_eq_some.1 ran
      have later := ih (start.turn (moves s op t taken)) rest
      have front : (op :: ops).filterMap asks = (asks op).toList ++ ops.filterMap asks := by
        cases asked : asks op <;> simp [asked]
      rwa [front, ← List.append_assoc]

/-- **No action of a run lacks a place exactly when the names the run asks for
are at most the places.** -/
theorem along_room_iff [DecidableEq α]
    (moves : ∀ s op t, step s op = some t → Turn n (book s) (asks op) (book t))
    (start : Keeps n (book s) ks) :
    Along step (fun s op => ¬ Lacks n (book s) (asks op)) s ops ↔
      (ks ++ trace step (fun _ op => (asks op).toList) s ops).toFinset.card ≤ n := by
  induction ops generalizing s ks with
  | nil => simpa [Along, trace] using start.card_le
  | cons op ops ih =>
      have here : Lacks n (book s) (asks op) ↔ n < (ks ++ (asks op).toList).toFinset.card :=
        start.lacks_iff
      cases taken : step s op with
      | none => simp [Along, trace, taken, here]
      | some t =>
          have after := start.turn (moves s op t taken)
          have room : ¬ Lacks n (book s) (asks op) := fun lacks =>
            absurd (here.1 lacks) (Nat.not_lt.2 after.card_le)
          simp only [Along, trace, taken, room, not_false_eq_true, true_and, Option.some.injEq,
            forall_eq', ← List.append_assoc]
          exact ih after

end Machine

end Zboss.Theory.Intern
