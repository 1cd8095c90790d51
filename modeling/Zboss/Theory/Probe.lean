/-
# Theory.Probe -- tables that are probed from a hash on

A table of `n` slots is searched from a start on, slot by slot and around its end, until the
search is back where it began.  A search that does not stop at a free slot sees every slot
(`mem_probes`): it fails only when no slot will do (`probe_eq_none`), and where one slot at most
will do it finds that one, wherever it starts (`probe_iff`).
-/
import Mathlib

namespace Zboss.Theory.Probe

set_option autoImplicit false

/-- The slots in the order in which they are looked at. -/
def probes (start n : Nat) : List Nat := (List.range n).map fun k => (start + k) % n

/-- The first slot from the start on that will do. -/
def probe (cond : Nat → Bool) (start n : Nat) : Option Nat := (probes start n).find? cond

variable {cond : Nat → Bool} {start n i : Nat}

/-- **Every slot is looked at.** -/
theorem mem_probes : i ∈ probes start n ↔ i < n := by
  rw [probes, List.mem_map]
  constructor
  · rintro ⟨k, mem, rfl⟩
    exact Nat.mod_lt _ (Nat.zero_lt_of_lt (List.mem_range.1 mem))
  · intro inside
    have pos : 0 < n := Nat.zero_lt_of_lt inside
    -- so many slots behind the start
    refine ⟨(i + (n - start % n)) % n, List.mem_range.2 (Nat.mod_lt _ pos), ?_⟩
    have below : start % n < n := Nat.mod_lt start pos
    have whole : start % n + (i + (n - start % n)) = i + n := by omega
    calc (start + (i + (n - start % n)) % n) % n
        = (start % n + (i + (n - start % n))) % n := by rw [Nat.add_mod_mod, Nat.mod_add_mod]
      _ = (i + n) % n := by rw [whole]
      _ = i := by rw [Nat.add_mod_right, Nat.mod_eq_of_lt inside]

theorem probe_some (found : probe cond start n = some i) : i < n ∧ cond i = true :=
  ⟨mem_probes.1 (List.mem_of_find?_eq_some found), List.find?_some found⟩

theorem probe_eq_none : probe cond start n = none ↔ ∀ i < n, cond i = false := by
  rw [probe, List.find?_eq_none]
  constructor
  · intro missed i inside
    exact Bool.eq_false_iff.2 (missed i (mem_probes.2 inside))
  · intro none_ i mem
    exact Bool.eq_false_iff.1 (none_ i (mem_probes.1 mem))

/-- **One slot at most will do**: the search finds it. -/
theorem probe_iff (unique : ∀ i < n, ∀ j < n, cond i = true → cond j = true → i = j) :
    probe cond start n = some i ↔ i < n ∧ cond i = true := by
  constructor
  · exact probe_some
  · rintro ⟨inside, holds⟩
    cases found : probe cond start n with
    | none =>
        rw [probe_eq_none.1 found i inside] at holds
        cases holds
    | some j =>
        obtain ⟨insideJ, holdsJ⟩ := probe_some found
        rw [unique j insideJ i inside holdsJ holds]

end Zboss.Theory.Probe
