/-
# Theory.LinkedList -- linked lists in a memory of link fields

`Path next a l b`: following `next` from `a` visits exactly the cells of `l`, and
arrives at `b`.  `Back prev p l`: the `prev` fields of `l` lead back to `p`.  `Linked`
is a doubly linked list whose first cell leads back to the last one.

For each way of linking a cell in or out there is one rule, which says what the
fields have to be afterwards, not in which order they were written:
`linked_insertHead`, `linked_insertTail`, `linked_insertMid`, `linked_cutHead`,
`linked_removeTail`, `linked_removeMid`.
-/
import Mathlib

namespace Zboss.Theory.LinkedList

set_option autoImplicit false

universe u

variable {ι : Type u}

/-! ## Forward links -/

/-- Following `next` from `a` visits the cells of `l` and arrives at `b`. -/
def Path (next : ι → Option ι) : Option ι → List ι → Option ι → Prop
  | a, [], b => a = b
  | a, x :: l, b => a = some x ∧ Path next (next x) l b

attribute [local simp] Path

section Paths

variable {next next' : ι → Option ι} {a b c : Option ι} {x : ι} {l r : List ι}

theorem path_append : Path next a (l ++ r) c ↔ ∃ b, Path next a l b ∧ Path next b r c := by
  induction l generalizing a with
  | nil => simp
  | cons x l ih =>
      simp only [List.cons_append, Path, ih]
      constructor
      · rintro ⟨start, b, left, right⟩
        exact ⟨b, ⟨start, left⟩, right⟩
      · rintro ⟨b, ⟨start, left⟩, right⟩
        exact ⟨start, b, left, right⟩

/-- Only the links of the cells on the way matter. -/
theorem path_congr (same : ∀ x ∈ l, next' x = next x) (path : Path next a l b) :
    Path next' a l b := by
  induction l generalizing a with
  | nil => exact path
  | cons x l ih =>
      refine ⟨path.1, ?_⟩
      rw [same x List.mem_cons_self]
      exact ih (fun y mem => same y (List.mem_cons_of_mem x mem)) path.2

/-- A path that ends nowhere is empty iff it starts nowhere. -/
theorem path_eq_nil_iff (path : Path next a l none) : l = [] ↔ a = none := by
  cases l with
  | nil => exact iff_of_true rfl path
  | cons x l => exact iff_of_false (by simp) (by simp [path.1])

/-- A path through `x`. -/
theorem path_mid : Path next a (l ++ x :: r) c ↔
    Path next a l (some x) ∧ Path next (next x) r c := by
  rw [path_append]
  constructor
  · rintro ⟨b, left, rfl, right⟩
    exact ⟨left, right⟩
  · rintro ⟨left, right⟩
    exact ⟨some x, left, rfl, right⟩

end Paths

/-! ## Walking a path -/

/-- The cells met in at most so many steps. -/
def walk (next : ι → Option ι) : Nat → Option ι → List ι
  | n + 1, some x => x :: walk next n (next x)
  | _, _ => []

theorem walk_of_path {next : ι → Option ι} {a : Option ι} {l : List ι} {n : Nat}
    (path : Path next a l none) (room : l.length ≤ n) : walk next n a = l := by
  induction l generalizing a n with
  | nil => cases n <;> simp [walk, show a = none from path]
  | cons x l ih =>
      cases n with
      | zero => simp at room
      | succ n =>
          rw [path.1, walk, ih path.2 (Nat.le_of_succ_le_succ room)]

/-! ## Backward links -/

/-- The `prev` fields of `l` lead back to `p`. -/
def Back (prev : ι → Option ι) : ι → List ι → Prop
  | _, [] => True
  | p, x :: l => prev x = some p ∧ Back prev x l

attribute [local simp] Back

section Backs

variable {prev prev' : ι → Option ι} {p x : ι} {l r : List ι}

theorem back_congr (same : ∀ x ∈ l, prev' x = prev x) (back : Back prev p l) :
    Back prev' p l := by
  induction l generalizing p with
  | nil => trivial
  | cons x l ih =>
      exact ⟨(same x List.mem_cons_self).trans back.1,
        ih (fun y mem => same y (List.mem_cons_of_mem x mem)) back.2⟩

theorem back_append : Back prev p (l ++ x :: r) ↔ Back prev p (l ++ [x]) ∧ Back prev x r := by
  induction l generalizing p with
  | nil => simp
  | cons y l ih => simp [ih, and_assoc]

theorem back_left (back : Back prev p (l ++ r)) : Back prev p l := by
  induction l generalizing p with
  | nil => trivial
  | cons y l ih => exact ⟨back.1, ih back.2⟩

/-- The cell before a given one. -/
theorem back_concat {y : ι} : Back prev p (l ++ [y, x]) ↔ Back prev p (l ++ [y]) ∧ prev x = some y := by
  rw [back_append]
  simp

theorem back_ne_none (back : Back prev p l) (mem : x ∈ l) : prev x ≠ none := by
  induction l generalizing p with
  | nil => cases mem
  | cons y l ih =>
      rcases List.mem_cons.1 mem with rfl | mem
      · simp [back.1]
      · exact ih back.2 mem

end Backs

/-! ## Doubly linked lists -/

/-- **A doubly linked list**: the `prev` field of its first cell is its last cell. -/
structure Linked (next prev : ι → Option ι) (head : Option ι) (l : List ι) : Prop where
  path : Path next head l none
  back : ∀ last ∈ l.getLast?, Back prev last l
  nodup : l.Nodup

section Linkeds

variable {next next' prev prev' : ι → Option ι} {head : Option ι} {h w x y : ι} {l r s v : List ι}

theorem linked_nil : Linked next prev none [] where
  path := rfl
  back := by simp
  nodup := List.nodup_nil

theorem Linked.head_eq (linked : Linked next prev head l) : l.head? = head := by
  cases l with
  | nil => exact (linked.path : head = none).symm
  | cons x l => exact linked.path.1.symm

theorem exists_last (h : ι) (r : List ι) : ∃ last, (h :: r).getLast? = some last :=
  ⟨_, List.getLast?_eq_some_getLast (List.cons_ne_nil h r)⟩

/-- The first cell leads back to the last one. -/
theorem Linked.prev_head (linked : Linked next prev head (h :: r)) : prev h = (h :: r).getLast? := by
  obtain ⟨last, is⟩ := exists_last h r
  rw [is]
  exact (linked.back last is).1

/-- Every other cell leads back to the one before it. -/
theorem Linked.prev_eq (linked : Linked next prev head (s ++ w :: x :: v)) : prev x = some w := by
  obtain ⟨last, is⟩ := exists_last x v
  have back := linked.back last (by rw [List.getLast?_append, List.getLast?_cons_cons, is]; rfl)
  exact (back_append.1 back).2.1

theorem Linked.next_eq (linked : Linked next prev head (s ++ x :: v)) : next x = v.head? := by
  have path := (path_mid.1 linked.path).2
  cases v with
  | nil => exact path
  | cons y v => exact path.1

theorem linked_singleton (ends : next x = none) (alone : prev x = some x) :
    Linked next prev (some x) [x] where
  path := ⟨rfl, ends⟩
  back := by simp [alone]
  nodup := List.nodup_singleton x

/-! ## Linking in -/

theorem linked_insertHead (linked : Linked next prev head (h :: r)) (fresh : x ∉ h :: r)
    (nextX : next' x = some h) (nexts : ∀ z ∈ h :: r, next' z = next z)
    (prevX : prev' x = prev h) (prevH : prev' h = some x) (prevs : ∀ z ∈ r, prev' z = prev z) :
    Linked next' prev' (some x) (x :: h :: r) where
  path := by
    have start : head = some h := linked.path.1
    refine ⟨rfl, ?_⟩
    rw [nextX, ← start]
    exact path_congr nexts linked.path
  back := by
    intro last is
    rw [List.getLast?_cons_cons] at is
    have back := linked.back last is
    exact ⟨prevX.trans back.1, prevH, back_congr prevs back.2⟩
  nodup := List.nodup_cons.2 ⟨fresh, linked.nodup⟩

theorem linked_insertTail (linked : Linked next prev head (h :: r)) (fresh : x ∉ h :: r)
    (last : (h :: r).getLast? = some w) (nextX : next' x = none) (nextW : next' w = some x)
    (nexts : ∀ z ∈ h :: r, z ≠ w → next' z = next z)
    (prevX : prev' x = some w) (prevH : prev' h = some x) (prevs : ∀ z ∈ r, prev' z = prev z) :
    Linked next' prev' head (h :: r ++ [x]) := by
  obtain ⟨s, split⟩ := List.getLast?_eq_some_iff.1 last
  have apart := linked.nodup
  rw [split, List.nodup_append] at apart
  refine ⟨?_, ?_, ?_⟩
  · have path := linked.path
    rw [split, path_mid] at path
    have kept : ∀ z ∈ s, next' z = next z := fun z mem =>
      nexts z (split ▸ List.mem_append_left _ mem) (apart.2.2 z mem w List.mem_cons_self)
    rw [split, path_mid, path_mid, nextW]
    exact ⟨⟨path_congr kept path.1, rfl⟩, nextX⟩
  · intro last' is
    rw [List.getLast?_concat, Option.mem_def, Option.some.injEq] at is
    subst is
    have back : Back prev' x (h :: r) := ⟨prevH, back_congr prevs (linked.back w last).2⟩
    rw [split] at back ⊢
    rw [List.append_assoc]
    exact back_concat.2 ⟨back, prevX⟩
  · exact List.nodup_append.2 ⟨linked.nodup, List.nodup_singleton x, by
      intro z mem z' mem' same
      rw [List.mem_singleton.1 mem'] at same
      exact fresh (same ▸ mem)⟩

/-- **Exchange what stands between two cells.** -/
theorem linked_exchange {m n : List ι} (linked : Linked next prev head (s ++ w :: (m ++ y :: v)))
    (nodup : (s ++ w :: (n ++ y :: v)).Nodup)
    (forward : Path next' (next' w) n (some y)) (nexts : ∀ z ∈ s ++ y :: v, next' z = next z)
    (backward : Back prev' w (n ++ [y])) (prevs : ∀ z ∈ s ++ w :: v, prev' z = prev z) :
    Linked next' prev' head (s ++ w :: (n ++ y :: v)) := by
  refine ⟨?_, ?_, nodup⟩
  · obtain ⟨left, right⟩ := path_mid.1 linked.path
    refine path_mid.2 ⟨path_congr (fun z mem => nexts z ?_) left, path_mid.2 ⟨forward, ?_⟩⟩
    · exact List.mem_append_left _ mem
    · rw [nexts y (by simp)]
      exact path_congr (fun z mem => nexts z (by simp [mem])) (path_mid.1 right).2
  · intro last is
    have same : (s ++ w :: (n ++ y :: v)).getLast? = (s ++ w :: (m ++ y :: v)).getLast? := by
      rw [← List.cons_append, ← List.append_assoc, ← List.cons_append, ← List.append_assoc]
      simp only [List.getLast?_append_cons]
    obtain ⟨left, right⟩ := back_append.1 (linked.back last (same ▸ is))
    refine back_append.2 ⟨back_congr (fun z mem => prevs z ?_) left, back_append.2 ⟨backward, ?_⟩⟩
    · rcases List.mem_append.1 mem with mem | mem
      · exact List.mem_append_left _ mem
      · simp [List.mem_singleton.1 mem]
    · exact back_congr (fun z mem => prevs z (by simp [mem])) (back_append.1 right).2

theorem linked_insertMid (linked : Linked next prev head (s ++ w :: y :: v))
    (fresh : x ∉ s ++ w :: y :: v) (nextX : next' x = some y) (nextW : next' w = some x)
    (nexts : ∀ z ∈ s ++ y :: v, next' z = next z) (prevX : prev' x = some w)
    (prevY : prev' y = some x) (prevs : ∀ z ∈ s ++ w :: v, prev' z = prev z) :
    Linked next' prev' head (s ++ w :: x :: y :: v) := by
  have perm : (s ++ w :: x :: y :: v).Perm (x :: (s ++ w :: y :: v)) := by
    have moved : (s ++ [w] ++ x :: y :: v).Perm (x :: (s ++ [w] ++ y :: v)) := List.perm_middle
    simpa using moved
  exact linked_exchange (m := []) (n := [x]) linked
    (perm.nodup_iff.2 (List.nodup_cons.2 ⟨fresh, linked.nodup⟩))
    ⟨nextW, nextX⟩ nexts ⟨prevX, prevY, trivial⟩ prevs

/-! ## Linking out -/

theorem linked_cutHead (linked : Linked next prev head (x :: l))
    (nexts : ∀ z ∈ l, next' z = next z) (prevH : ∀ y ∈ l.head?, prev' y = prev x)
    (prevs : ∀ z ∈ l.tail, prev' z = prev z) : Linked next' prev' (next x) l where
  path := path_congr nexts linked.path.2
  back := by
    intro last is
    cases l with
    | nil => cases is
    | cons y v =>
        have back := linked.back last (by rwa [List.getLast?_cons_cons])
        exact ⟨(prevH y rfl).trans back.1, back_congr prevs back.2.2⟩
  nodup := (List.nodup_cons.1 linked.nodup).2

theorem linked_removeTail (linked : Linked next prev head (h :: r ++ [x])) (nextW : next' w = none)
    (last : (h :: r).getLast? = some w) (nexts : ∀ z ∈ h :: r, z ≠ w → next' z = next z)
    (prevH : prev' h = some w) (prevs : ∀ z ∈ r, prev' z = prev z) :
    Linked next' prev' head (h :: r) := by
  have nodup := (List.nodup_append.1 linked.nodup).1
  refine ⟨?_, ?_, nodup⟩
  · obtain ⟨s, split⟩ := List.getLast?_eq_some_iff.1 last
    have path := (path_mid.1 linked.path).1
    rw [split, List.nodup_append] at nodup
    rw [split] at path nexts ⊢
    refine path_mid.2 ⟨path_congr (fun z mem => nexts z ?_ ?_) (path_mid.1 path).1, nextW⟩
    · exact List.mem_append_left _ mem
    · exact nodup.2.2 z mem w List.mem_cons_self
  · intro last' is
    obtain rfl : w = last' := Option.some.inj (last.symm.trans is)
    have back := linked.back x List.getLast?_concat
    exact ⟨prevH, back_congr prevs (back_left back.2)⟩

theorem linked_removeMid (linked : Linked next prev head (s ++ w :: x :: y :: v))
    (nextW : next' w = some y) (nexts : ∀ z ∈ s ++ y :: v, next' z = next z)
    (prevY : prev' y = some w) (prevs : ∀ z ∈ s ++ w :: v, prev' z = prev z) :
    Linked next' prev' head (s ++ w :: y :: v) := by
  have kept : (s ++ w :: y :: v).Sublist (s ++ w :: x :: y :: v) := by simp
  exact linked_exchange (m := [x]) (n := []) linked (linked.nodup.sublist kept) nextW nexts
    ⟨prevY, trivial⟩ prevs

end Linkeds

end Zboss.Theory.LinkedList
