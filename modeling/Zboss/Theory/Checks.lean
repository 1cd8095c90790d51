/-
# Theory.Checks -- programs that say what they rely on

A program that may stop (`result` is `none`) says on its way what it relies on at each
place: that an index is inside, that a variable has been set.  Nothing is enforced: a program
whose check does not hold goes on.  `AllHold` says that every check made holds, up to the
stop if there is one, and `allHold_bind` takes it through a program: what comes second is
looked at for the result that the first has.

A program is the same program without its checks (`result_bind`), so that checks can be
added to one that is there already.  `Gives` is a property of the result; `gives_bind` takes
it from the first part to the second.
-/
import Mathlib

namespace Zboss.Theory.Checks

set_option autoImplicit false

universe u v

/-- A program, with the checks it makes. -/
structure Checked (κ : Type u) (α : Type v) where
  checks : List κ
  result : Option α

section Programs

variable {κ : Type u} {α β : Type v}

instance : Monad (Checked κ) where
  pure a := ⟨[], some a⟩
  bind x f :=
    match x.result with
    | some a => ⟨x.checks ++ (f a).checks, (f a).result⟩
    | none => ⟨x.checks, none⟩

/-- Rely on something. -/
def check (c : κ) : Checked κ PUnit.{v + 1} := ⟨[c], some ⟨⟩⟩

/-- A program that relies on nothing. -/
def ofOption (o : Option α) : Checked κ α := ⟨[], o⟩

@[simp] theorem result_pure (a : α) : (pure a : Checked κ α).result = some a := rfl

@[simp] theorem result_check (c : κ) : (check c : Checked κ PUnit.{v + 1}).result = some ⟨⟩ := rfl

@[simp] theorem result_ofOption (o : Option α) : (ofOption o : Checked κ α).result = o := rfl

@[simp] theorem result_bind (x : Checked κ α) (f : α → Checked κ β) :
    (x >>= f).result = x.result.bind fun a => (f a).result := by
  show (match x.result with
    | some a => (⟨x.checks ++ (f a).checks, (f a).result⟩ : Checked κ β)
    | none => ⟨x.checks, none⟩).result = _
  cases x.result with
  | none => rfl
  | some a => rfl

/-- Every check made holds. -/
def AllHold (ok : κ → Prop) (x : Checked κ α) : Prop := ∀ c ∈ x.checks, ok c

variable {ok : κ → Prop}

@[simp] theorem allHold_pure (a : α) : AllHold ok (pure a : Checked κ α) :=
  fun _ mem => absurd mem List.not_mem_nil

@[simp] theorem allHold_ofOption (o : Option α) : AllHold ok (ofOption o : Checked κ α) :=
  fun _ mem => absurd mem List.not_mem_nil

@[simp] theorem allHold_check (c : κ) :
    AllHold ok (check c : Checked κ PUnit.{v + 1}) ↔ ok c := by
  constructor
  · intro all
    exact all c (List.mem_singleton_self c)
  · intro holds c' mem
    obtain rfl := List.mem_singleton.1 mem
    exact holds

/-- **What comes second** is looked at for the result of the first. -/
theorem allHold_bind (x : Checked κ α) (f : α → Checked κ β) :
    AllHold ok (x >>= f) ↔ AllHold ok x ∧ ∀ a, x.result = some a → AllHold ok (f a) := by
  show AllHold ok (match x.result with
    | some a => (⟨x.checks ++ (f a).checks, (f a).result⟩ : Checked κ β)
    | none => ⟨x.checks, none⟩) ↔ _
  cases result : x.result with
  | none => simp [AllHold]
  | some a => simp [AllHold, or_imp, forall_and]

/-- What is made of the result alone. -/
theorem allHold_bind_pure (x : Checked κ α) (g : α → β) :
    AllHold ok (x >>= fun a => pure (g a)) ↔ AllHold ok x := by
  rw [allHold_bind]
  exact and_iff_left fun _ _ => allHold_pure _

theorem allHold_bind_of_result {x : Checked κ α} {a : α} (result : x.result = some a)
    (f : α → Checked κ β) : AllHold ok (x >>= f) ↔ AllHold ok x ∧ AllHold ok (f a) := by
  rw [allHold_bind, result]
  exact and_congr_right fun _ => ⟨fun all => all a rfl, fun holds b same => Option.some.inj same ▸ holds⟩

theorem allHold_check_bind (c : κ) (f : PUnit.{v + 1} → Checked κ β) :
    AllHold ok (check c >>= f) ↔ ok c ∧ AllHold ok (f ⟨⟩) := by
  rw [allHold_bind, allHold_check]
  exact and_congr_right fun _ => ⟨fun all => all ⟨⟩ rfl, fun holds _ _ => holds⟩

theorem allHold_ofOption_bind (o : Option α) (f : α → Checked κ β) :
    AllHold ok (ofOption o >>= f) ↔ ∀ a, o = some a → AllHold ok (f a) := by
  rw [allHold_bind]
  exact and_iff_right (allHold_ofOption o)

/-! ## What a program gives -/

/-- A result has this property; a program that stops gives anything. -/
def Gives (post : α → Prop) (x : Checked κ α) : Prop := ∀ a, x.result = some a → post a

variable {post : α → Prop} {later : β → Prop}

theorem gives_pure {a : α} (holds : post a) : Gives post (pure a : Checked κ α) := by
  intro b result
  cases result
  exact holds

/-- What comes second gives it for the result of the first. -/
theorem gives_bind_of_result {x : Checked κ α} {f : α → Checked κ β}
    (second : ∀ a, x.result = some a → Gives later (f a)) : Gives later (x >>= f) := by
  intro b result
  rw [result_bind, Option.bind_eq_some_iff] at result
  obtain ⟨a, first, result⟩ := result
  exact second a first b result

theorem gives_check_bind {c : κ} {f : PUnit.{v + 1} → Checked κ β} (second : Gives later (f ⟨⟩)) :
    Gives later (check c >>= f) :=
  gives_bind_of_result fun _ _ => second

theorem gives_ofOption_bind {o : Option α} {f : α → Checked κ β}
    (second : ∀ a, o = some a → Gives later (f a)) : Gives later (ofOption o >>= f) :=
  gives_bind_of_result second

theorem gives_bind {x : Checked κ α} {f : α → Checked κ β} (first : Gives post x)
    (second : ∀ a, post a → Gives later (f a)) : Gives later (x >>= f) :=
  gives_bind_of_result fun a result => second a (first a result)

end Programs

end Zboss.Theory.Checks
