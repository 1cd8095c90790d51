/-
# Theory.Run -- runs of a partial machine, and the conditions their steps meet

A machine is a partial step function: `none` is a stop (an assertion, a memory
fault), not a result.  `run` feeds it a list of actions.  `Along guard` says that
every step the run takes meets a condition in the state it starts from; the two
rules are `run_invariant` (an invariant the guarded step keeps holds at the end
of a guarded run, hence at each of its prefixes by `along_append`) and
`run_append`, which cuts a run at any point.  `trace` collects what the steps put
out; `trace_balance` is the rule for what passes through a machine.
-/
import Mathlib

namespace Zboss.Theory.Run

set_option autoImplicit false

universe u v w

variable {σ : Type u} {α : Type v} (step : σ → α → Option σ)

/-- The actions in order, from `s`, as long as the machine does not stop. -/
def run : σ → List α → Option σ
  | s, [] => some s
  | s, a :: as => (step s a).bind fun t => run t as

/-- Every step of the run of `as` from `s` meets `guard` where it starts. -/
def Along (guard : σ → α → Prop) : σ → List α → Prop
  | _, [] => True
  | s, a :: as => guard s a ∧ ∀ t, step s a = some t → Along guard t as

/-- Along a given run the condition can be checked. -/
def decideAlong {guard : σ → α → Prop} (check : ∀ s a, Decidable (guard s a)) :
    (s : σ) → (as : List α) → Decidable (Along step guard s as)
  | _, [] => isTrue trivial
  | s, a :: as =>
      have : Decidable (∀ t, step s a = some t → Along step guard t as) :=
        match step s a with
        | none => isTrue fun _ taken => nomatch taken
        | some t =>
            match decideAlong check t as with
            | isTrue rest => isTrue fun _ taken => Option.some.inj taken ▸ rest
            | isFalse not => isFalse fun rest => not (rest t rfl)
      have := check s a
      inferInstanceAs (Decidable (guard s a ∧ ∀ t, step s a = some t → Along step guard t as))

instance {guard : σ → α → Prop} [check : ∀ s a, Decidable (guard s a)] (s : σ) (as : List α) :
    Decidable (Along step guard s as) :=
  decideAlong step check s as

/-- What the steps of a run put out. -/
def trace {β : Type w} (out : σ → α → List β) : σ → List α → List β
  | _, [] => []
  | s, a :: as =>
      out s a ++
        match step s a with
        | some t => trace out t as
        | none => []

attribute [local simp] run Along trace

variable {step}

theorem map_trace {β γ : Type w} (out : σ → α → List β) (f : β → γ) (s : σ) (as : List α) :
    (trace step out s as).map f = trace step (fun s a => (out s a).map f) s as := by
  induction as generalizing s with
  | nil => rfl
  | cons a as ih =>
      rw [trace, trace, List.map_append]
      cases step s a with
      | none => rfl
      | some t => rw [ih t]

@[simp] theorem run_nil (s : σ) : run step s [] = some s := rfl

theorem run_cons_eq_some {s u : σ} {a : α} {as : List α} :
    run step s (a :: as) = some u ↔ ∃ t, step s a = some t ∧ run step t as = some u := by
  simp only [run, Option.bind_eq_some_iff]

theorem run_append (s : σ) (as bs : List α) :
    run step s (as ++ bs) = (run step s as).bind fun t => run step t bs := by
  induction as generalizing s with
  | nil => rfl
  | cons a as ih =>
      cases taken : step s a with
      | none => simp [taken]
      | some t => simp [taken, ih t]

/-- A run and one more step. -/
theorem run_snoc {s u : σ} {as : List α} {a : α} :
    run step s (as ++ [a]) = some u ↔ ∃ t, run step s as = some t ∧ step t a = some u := by
  rw [run_append, Option.bind_eq_some_iff]
  simp

theorem along_append {guard : σ → α → Prop} {s : σ} {as bs : List α} :
    Along step guard s (as ++ bs) ↔
      Along step guard s as ∧ ∀ t, run step s as = some t → Along step guard t bs := by
  induction as generalizing s with
  | nil => simp
  | cons a as ih =>
      simp only [List.cons_append, Along, run_cons_eq_some, ih]
      constructor
      · rintro ⟨first, rest⟩
        refine ⟨⟨first, fun t taken => (rest t taken).1⟩, ?_⟩
        rintro u ⟨t, taken, ran⟩
        exact (rest t taken).2 u ran
      · rintro ⟨⟨first, rest⟩, tail⟩
        exact ⟨first, fun t taken => ⟨rest t taken, fun u ran => tail u ⟨t, taken, ran⟩⟩⟩

/-- Two conditions along one run. -/
theorem Along.and {first second : σ → α → Prop} {s : σ} {as : List α}
    (one : Along step first s as) (two : Along step second s as) :
    Along step (fun s a => first s a ∧ second s a) s as := by
  induction as generalizing s with
  | nil => trivial
  | cons a as ih => exact ⟨⟨one.1, two.1⟩, fun t taken => ih (one.2 t taken) (two.2 t taken)⟩

theorem Along.mono {weak strong : σ → α → Prop} (le : ∀ s a, strong s a → weak s a) {s : σ}
    {as : List α} (along : Along step strong s as) : Along step weak s as := by
  induction as generalizing s with
  | nil => trivial
  | cons a as ih => exact ⟨le s a along.1, fun t taken => ih (along.2 t taken)⟩

/-- **The induction over a run**, done once: what the guarded step keeps holds
at the end of every guarded run. -/
theorem run_invariant {guard : σ → α → Prop} {inv : σ → Prop}
    (keeps : ∀ s a t, inv s → guard s a → step s a = some t → inv t)
    {s u : σ} {as : List α} (start : inv s) (along : Along step guard s as)
    (ran : run step s as = some u) : inv u := by
  induction as generalizing s with
  | nil => cases ran; exact start
  | cons a as ih =>
      obtain ⟨t, taken, rest⟩ := run_cons_eq_some.1 ran
      exact ih (keeps s a t start along.1 taken) (along.2 t taken) rest

/-- What an invariant and the guard give about a step holds of every step of a
guarded run. -/
theorem along_of_invariant {guard good : σ → α → Prop} {inv : σ → Prop}
    (keeps : ∀ s a t, inv s → guard s a → step s a = some t → inv t)
    (gives : ∀ s a, inv s → guard s a → good s a)
    {s : σ} {as : List α} (start : inv s) (along : Along step guard s as) :
    Along step good s as := by
  induction as generalizing s with
  | nil => trivial
  | cons a as ih =>
      exact ⟨gives s a start along.1, fun t taken =>
        ih (keeps s a t start along.1 taken) (along.2 t taken)⟩

/-- Two conditions that agree under an invariant the first one keeps hold along
the same runs. -/
theorem along_congr {guard good : σ → α → Prop} {inv : σ → Prop}
    (keeps : ∀ s a t, inv s → guard s a → step s a = some t → inv t)
    (agree : ∀ s a, inv s → (guard s a ↔ good s a))
    {s : σ} {as : List α} (start : inv s) :
    Along step guard s as ↔ Along step good s as := by
  induction as generalizing s with
  | nil => exact Iff.rfl
  | cons a as ih =>
      constructor
      · rintro ⟨first, rest⟩
        exact ⟨(agree s a start).1 first, fun t taken =>
          (ih (keeps s a t start first taken)).1 (rest t taken)⟩
      · rintro ⟨first, rest⟩
        have first := (agree s a start).2 first
        exact ⟨first, fun t taken => (ih (keeps s a t start first taken)).2 (rest t taken)⟩

theorem along_of_forall {guard : σ → α → Prop} (all : ∀ s a, guard s a) (s : σ) (as : List α) :
    Along step guard s as := by
  induction as generalizing s with
  | nil => trivial
  | cons a as ih => exact ⟨all s a, fun t _ => ih t⟩

/-- A condition on the actions alone. -/
theorem along_of_mem {ok : α → Prop} {s : σ} {as : List α} (all : ∀ a ∈ as, ok a) :
    Along step (fun _ a => ok a) s as := by
  induction as generalizing s with
  | nil => trivial
  | cons a as ih =>
      exact ⟨all a List.mem_cons_self, fun t _ => ih fun b mem => all b (List.mem_cons_of_mem a mem)⟩

/-- The rule for an invariant every step keeps. -/
theorem run_invariant_of_step {inv : σ → Prop}
    (keeps : ∀ s a t, inv s → step s a = some t → inv t)
    {s u : σ} {as : List α} (start : inv s) (ran : run step s as = some u) : inv u :=
  run_invariant (fun s a t ok _ taken => keeps s a t ok taken) start
    (along_of_forall (fun _ _ => trivial) s as) ran

/-- **Simulation**: where guarded steps from related states put out the same and end in related
states, so do guarded runs. -/
theorem trace_simulates {τ : Type w} {β : Type u} {step' : τ → α → Option τ} {out : σ → α → List β}
    {out' : τ → α → List β} {rel : σ → τ → Prop} {guard : σ → α → Prop}
    (same : ∀ s t a, rel s t → guard s a → out s a = out' t a)
    (keeps : ∀ s t a, rel s t → guard s a → Option.Rel rel (step s a) (step' t a))
    {s : σ} {t : τ} {as : List α} (start : rel s t) (along : Along step guard s as) :
    trace step out s as = trace step' out' t as := by
  induction as generalizing s t with
  | nil => rfl
  | cons a as ih =>
      rw [trace, trace, same s t a start along.1]
      have related := keeps s t a start along.1
      have later := along.2
      cases taken : step s a with
      | none =>
          rw [taken] at related
          cases related' : step' t a with
          | none => rfl
          | some t' =>
              rw [related'] at related
              cases related
      | some s' =>
          rw [taken] at related
          cases related' : step' t a with
          | none =>
              rw [related'] at related
              cases related
          | some t' =>
              rw [related'] at related
              cases related with
              | some relates => exact congrArg (out' t a ++ ·) (ih relates (later s' taken))

section Balance

variable {β : Type w} {guard : σ → α → Prop} {inv : σ → Prop} {waits : σ → List β}
  {comes goes : σ → α → List β} {s u : σ} {as : List α}

/-- **Conservation**: where each step keeps what waits and comes in equal to what
goes out and still waits, so does the whole run. -/
theorem trace_balance (keeps : ∀ s a t, inv s → guard s a → step s a = some t → inv t)
    (balance : ∀ s a t, inv s → guard s a → step s a = some t →
      waits s ++ comes s a = goes s a ++ waits t)
    (start : inv s) (along : Along step guard s as) (ran : run step s as = some u) :
    waits s ++ trace step comes s as = trace step goes s as ++ waits u := by
  induction as generalizing s with
  | nil => cases ran; simp
  | cons a as ih =>
      obtain ⟨t, taken, rest⟩ := run_cons_eq_some.1 ran
      have tail := ih (keeps s a t start along.1 taken) (along.2 t taken) rest
      simp only [trace, taken]
      calc waits s ++ (comes s a ++ trace step comes t as)
          = (goes s a ++ waits t) ++ trace step comes t as := by
            rw [← List.append_assoc, balance s a t start along.1 taken]
        _ = (goes s a ++ trace step goes t as) ++ waits u := by
            rw [List.append_assoc, tail, List.append_assoc]

/-- The same where every step does. -/
theorem trace_balance_of_step (keeps : ∀ s a t, inv s → step s a = some t → inv t)
    (balance : ∀ s a t, inv s → step s a = some t → waits s ++ comes s a = goes s a ++ waits t)
    (start : inv s) (ran : run step s as = some u) :
    waits s ++ trace step comes s as = trace step goes s as ++ waits u :=
  trace_balance (fun s a t ok _ taken => keeps s a t ok taken)
    (fun s a t ok _ taken => balance s a t ok taken) start
    (along_of_forall (fun _ _ => trivial) s as) ran

/-- The same where the order does not matter. -/
theorem trace_perm (balance : ∀ s a t, guard s a → step s a = some t →
      (waits s ++ comes s a).Perm (goes s a ++ waits t))
    (along : Along step guard s as) (ran : run step s as = some u) :
    (waits s ++ trace step comes s as).Perm (trace step goes s as ++ waits u) := by
  induction as generalizing s with
  | nil => cases ran; simp
  | cons a as ih =>
      obtain ⟨t, taken, rest⟩ := run_cons_eq_some.1 ran
      have tail := ih (along.2 t taken) rest
      have head := balance s a t along.1 taken
      simp only [trace, taken]
      calc waits s ++ (comes s a ++ trace step comes t as)
          = (waits s ++ comes s a) ++ trace step comes t as := (List.append_assoc ..).symm
        List.Perm _ ((goes s a ++ waits t) ++ trace step comes t as) := head.append_right _
        _ = goes s a ++ (waits t ++ trace step comes t as) := List.append_assoc ..
        List.Perm _ (goes s a ++ (trace step goes t as ++ waits u)) := tail.append_left _
        _ = (goes s a ++ trace step goes t as) ++ waits u := (List.append_assoc ..).symm

/-- **Nothing goes out more often than it came in**, where no step lets it. -/
theorem trace_count_le [BEq β] {x : β} (bound : ∀ s a t, guard s a → step s a = some t →
      (goes s a ++ waits t).count x ≤ (waits s ++ comes s a).count x)
    (along : Along step guard s as) (ran : run step s as = some u) :
    (trace step goes s as ++ waits u).count x ≤ (waits s ++ trace step comes s as).count x := by
  induction as generalizing s with
  | nil => cases ran; simp
  | cons a as ih =>
      obtain ⟨t, taken, rest⟩ := run_cons_eq_some.1 ran
      have tail := ih (along.2 t taken) rest
      have head := bound s a t along.1 taken
      simp only [trace, taken, List.count_append] at head tail ⊢
      omega

end Balance

end Zboss.Theory.Run
