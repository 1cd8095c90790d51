/-
# Theory.LeadingRun -- the run that a sequence of flags begins with

Of `n` flags the first `r` are set, and the next is not: `Leads p n r`.  A loop that stops at
the first flag that is not set sees this run, and there is one (`exists_leads`).  It has seen all flags that are
set iff there is no gap (`length_filter_eq_iff`), and then they are just the run
(`filter_range_of_noGap`).
-/
import Mathlib

namespace Zboss.Theory.LeadingRun

set_option autoImplicit false

variable {p : Nat → Bool} {n r : Nat}

/-- The first `r` flags are set, and the next is not. -/
structure Leads (p : Nat → Bool) (n r : Nat) : Prop where
  within : r ≤ n
  before : ∀ j < r, p j = true
  stuck : r < n → p r = false

/-- No flag that is set comes after one that is not. -/
def noGap (p : Nat → Bool) (n : Nat) : Bool := (List.range (n - 1)).all fun k => p k || !p (k + 1)

theorem exists_leads (p : Nat → Bool) (n : Nat) : ∃ r, Leads p n r := by
  induction n with
  | zero => exact ⟨0, le_refl 0, fun j less => absurd less (Nat.not_lt_zero j),
      fun less => absurd less (Nat.lt_irrefl 0)⟩
  | succ n ih =>
      obtain ⟨r, within, before, stuck⟩ := ih
      by_cases whole : r = n ∧ p n = true
      · obtain ⟨rfl, on⟩ := whole
        refine ⟨r + 1, le_refl _, fun j less => ?_, fun less => absurd less (Nat.lt_irrefl _)⟩
        rcases Nat.lt_succ_iff_lt_or_eq.1 less with earlier | rfl
        · exact before j earlier
        · exact on
      · refine ⟨r, Nat.le_succ_of_le within, before, fun _ => ?_⟩
        rcases Nat.lt_or_eq_of_le within with less | rfl
        · exact stuck less
        · exact Bool.eq_false_iff.2 fun on => whole ⟨rfl, on⟩

theorem noGap_iff :
    noGap p n = true ↔ ∀ k < n - 1, p k = false → p (k + 1) = false := by
  rw [noGap, List.all_eq_true]
  constructor
  · intro all k less off
    have here := all k (List.mem_range.2 less)
    rwa [off, Bool.false_or, Bool.not_eq_true'] at here
  · intro all k mem
    cases on : p k with
    | true => rfl
    | false => rw [all k (List.mem_range.1 mem) on]; rfl

/-- Without a gap the flags that are set are the run. -/
theorem filter_range_of_noGap (run : Leads p n r) (closed : noGap p n = true) :
    (List.range n).filter p = List.range r := by
  obtain ⟨within, before, stuck⟩ := run
  have after : ∀ d, r + d < n → p (r + d) = false := by
    intro d
    induction d with
    | zero => exact stuck
    | succ d ih =>
        intro less
        exact noGap_iff.1 closed (r + d) (by omega) (ih (by omega))
  obtain ⟨rest, rfl⟩ := Nat.exists_eq_add_of_le within
  rw [List.range_add, List.filter_append,
    List.filter_eq_self.2 fun j mem => before j (List.mem_range.1 mem),
    List.filter_eq_nil_iff.2, List.append_nil]
  intro j mem
  obtain ⟨d, less, rfl⟩ := List.mem_map.1 mem
  have less := List.mem_range.1 less
  rw [after d (by omega)]
  decide

/-- With a gap there are more. -/
theorem lt_length_of_gap (run : Leads p n r) (gap : noGap p n = false) :
    r < ((List.range n).filter p).length := by
  have ⟨k, less, off, on⟩ : ∃ k < n - 1, p k = false ∧ p (k + 1) = true := by
    by_contra none_
    apply Bool.eq_false_iff.1 gap
    rw [noGap_iff]
    intro k less off
    cases on : p (k + 1) with
    | false => rfl
    | true => exact absurd ⟨k, less, off, on⟩ none_
  have behind : r ≤ k := by
    by_contra earlier
    rw [run.before k (by omega)] at off
    cases off
  have once : ((k + 1) :: List.range r).Nodup := by
    refine List.nodup_cons.2 ⟨fun mem => ?_, List.nodup_range⟩
    have := List.mem_range.1 mem
    omega
  have inside : ((k + 1) :: List.range r) ⊆ (List.range n).filter p := by
    intro j mem
    rcases List.mem_cons.1 mem with rfl | earlier
    · exact List.mem_filter.2 ⟨List.mem_range.2 (by omega), on⟩
    · have earlier := List.mem_range.1 earlier
      exact List.mem_filter.2 ⟨List.mem_range.2 (by omega), run.before j earlier⟩
  have count := (List.subperm_of_subset once inside).length_le
  rw [List.length_cons, List.length_range] at count
  exact count

/-- **The run is all iff there is no gap.** -/
theorem length_filter_eq_iff (run : Leads p n r) :
    ((List.range n).filter p).length = r ↔ noGap p n = true := by
  constructor
  · intro all
    by_contra gap
    have more := lt_length_of_gap run (Bool.eq_false_iff.2 gap)
    omega
  · intro closed
    rw [filter_range_of_noGap run closed, List.length_range]

theorem le_length_filter (run : Leads p n r) : r ≤ ((List.range n).filter p).length := by
  cases closed : noGap p n with
  | true => exact ((length_filter_eq_iff run).2 closed).ge
  | false => exact (lt_length_of_gap run closed).le

end Zboss.Theory.LeadingRun
