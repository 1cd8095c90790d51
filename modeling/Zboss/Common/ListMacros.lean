/-
# Common.ListMacros -- the list macros, over a memory of link fields

The doubly linked list, the stack and the queue of `zb_list_macros.h`.  They share
the link fields, so an entry can go from one kind to another.  A list variable is
its first entry, or null.  Writing through a null pointer is a stop.

Each macro has one rule: on a well formed list it does not stop and does to the
list of entries what it says, and it leaves the links of all other entries alone.
-/
import Mathlib
import Zboss.Theory.LinkedList

namespace Zboss.Common.ListMacros

open Zboss.Theory.LinkedList

set_option autoImplicit false

variable {ι : Type}

/-- The link fields of all entries. -/
structure ZbLinks (ι : Type) where
  next : ι → Option ι
  prev : ι → Option ι

section Macros

variable [DecidableEq ι]

def ZbLinks.setNext (m : ZbLinks ι) (ent : ι) (p : Option ι) : ZbLinks ι :=
  { m with next := Function.update m.next ent p }

def ZbLinks.setPrev (m : ZbLinks ι) (ent : ι) (p : Option ι) : ZbLinks ι :=
  { m with prev := Function.update m.prev ent p }

/-- Write through a pointer. -/
def ZbLinks.writeNext (m : ZbLinks ι) (ptr : Option ι) (p : Option ι) : Option (ZbLinks ι) :=
  ptr.map fun ent => m.setNext ent p

def ZbLinks.writePrev (m : ZbLinks ι) (ptr : Option ι) (p : Option ι) : Option (ZbLinks ι) :=
  ptr.map fun ent => m.setPrev ent p

/-! ## Doubly linked lists -/

def zbListGetTail (m : ZbLinks ι) : Option ι → Option ι
  | some head => m.prev head
  | none => none

/-- `ZB_LIST_CUT_HEAD`; the entry cut is the one the list began with. -/
def zbListCutHead (m : ZbLinks ι) : Option ι → ZbLinks ι × Option ι
  | none => (m, none)
  | some head =>
      let m :=
        match m.next head with
        | some second => m.setPrev second (m.prev head)
        | none => m
      let m := m.setPrev head none
      (m, m.next head)

def zbListInsertHead (m : ZbLinks ι) (list : Option ι) (ent : ι) : ZbLinks ι × Option ι :=
  let m := m.setNext ent list
  match list with
  | some head =>
      let m := m.setPrev ent (m.prev head)
      (m.setPrev head (some ent), some ent)
  | none => (m.setPrev ent (some ent), some ent)

def zbListInsertTail (m : ZbLinks ι) (list : Option ι) (ent : ι) :
    Option (ZbLinks ι × Option ι) :=
  let m := m.setNext ent none
  match list with
  | some head => do
      let m := m.setPrev ent (m.prev head)
      let m ← m.writeNext (m.prev head) (some ent)
      return (m.setPrev head (some ent), list)
  | none => some (m.setPrev ent (some ent), some ent)

def zbListInsertAfter (m : ZbLinks ι) (list : Option ι) (ent newEnt : ι) :
    Option (ZbLinks ι × Option ι) :=
  if some ent = zbListGetTail m list then zbListInsertTail m list newEnt
  else do
    let m := m.setNext newEnt (m.next ent)
    let m := m.setPrev newEnt (some ent)
    let m ← m.writePrev (m.next ent) (some newEnt)
    return (m.setNext ent (some newEnt), list)

def zbListRemove (m : ZbLinks ι) (list : Option ι) (ent : ι) : Option (ZbLinks ι × Option ι) :=
  if m.prev ent ≠ none then do
    let m ← (match m.next ent with
      | some after => some (m.setPrev after (m.prev ent))
      | none => m.writePrev list (m.prev ent))
    if some ent = list then return (m.setPrev ent none, m.next ent)
    else
      let m ← m.writeNext (m.prev ent) (m.next ent)
      return (m.setPrev ent none, list)
  else some (m, list)

/-! ## Stacks -/

def zbStkPush (m : ZbLinks ι) (list : Option ι) (ent : ι) : ZbLinks ι × Option ι :=
  (m.setNext ent list, some ent)

/-- The entry popped, and the rest of the stack. -/
def zbStkPop (m : ZbLinks ι) : Option ι → Option ι × Option ι
  | some ent => (some ent, m.next ent)
  | none => (none, none)

/-! ## Single-linked lists -/

/-- The two variables of a list that is inserted to at the tail. -/
structure ZbSlList (ι : Type) where
  head : Option ι
  tail : Option ι

def ZbSlList.init : ZbSlList ι := ⟨none, none⟩

def zbSlListInsertTail (m : ZbLinks ι) (list : ZbSlList ι) (ent : ι) : ZbLinks ι × ZbSlList ι :=
  let m := m.setNext ent none
  match list.tail with
  | some tail => (m.setNext tail (some ent), { list with tail := some ent })
  | none => (m, ⟨some ent, some ent⟩)

/-- The entry cut, and the rest of the list. -/
def zbSlListCutHead (m : ZbLinks ι) (list : ZbSlList ι) : Option ι × ZbSlList ι :=
  match list.head with
  | some ent =>
      let head := m.next ent
      (some ent, ⟨head, if head.isNone then none else list.tail⟩)
  | none => (none, list)

end Macros

/-! ## What the macros do -/

section Rules

variable [DecidableEq ι] {m : ZbLinks ι} {list : Option ι} {x w : ι} {l s v : List ι}

/-- The entries of a doubly linked list. -/
abbrev Lists (m : ZbLinks ι) (list : Option ι) (l : List ι) : Prop :=
  Linked m.next m.prev list l

/-- The entries of a stack. -/
abbrev Stacked (m : ZbLinks ι) (list : Option ι) (l : List ι) : Prop :=
  Path m.next list l none

/-- The links of all other entries are left alone. -/
def Spares (m m' : ZbLinks ι) (l : List ι) : Prop := ∀ z, z ∉ l → m'.next z = m.next z

omit [DecidableEq ι] in
theorem Spares.stacked {m' : ZbLinks ι} {r : List ι} (spares : Spares m m' l)
    (apart : ∀ z ∈ r, z ∉ l) (stacked : Stacked m list r) : Stacked m' list r :=
  path_congr (fun z mem => spares z (apart z mem)) stacked

@[simp] theorem setNext_next (p : Option ι) : (m.setNext x p).next = Function.update m.next x p :=
  rfl
@[simp] theorem setNext_prev (p : Option ι) : (m.setNext x p).prev = m.prev := rfl
@[simp] theorem setPrev_next (p : Option ι) : (m.setPrev x p).next = m.next := rfl
@[simp] theorem setPrev_prev (p : Option ι) : (m.setPrev x p).prev = Function.update m.prev x p :=
  rfl

/-- Pushing writes a link of the entry pushed only. -/
theorem stkPush_spec (stacked : Stacked m list l) (fresh : x ∉ l) :
    Stacked (zbStkPush m list x).1 (zbStkPush m list x).2 (x :: l) := by
  refine ⟨rfl, ?_⟩
  have start : (zbStkPush m list x).1.next x = list := Function.update_self ..
  rw [start]
  refine path_congr (fun z mem => ?_) stacked
  have ne : z ≠ x := fun same => fresh (same ▸ mem)
  exact Function.update_of_ne ne _ _

theorem stkPush_lists {r : List ι} {first : Option ι} (lists : Lists m first r) (fresh : x ∉ r) :
    Lists (zbStkPush m list x).1 first r := by
  refine ⟨path_congr (fun z mem => ?_) lists.path, lists.back, lists.nodup⟩
  have ne : z ≠ x := fun same => fresh (same ▸ mem)
  exact Function.update_of_ne ne _ _

theorem cutHead_spec (lists : Lists m list (x :: l)) :
    ∃ m' list', zbListCutHead m list = (m', list') ∧ Lists m' list' l ∧ Spares m m' [] := by
  obtain rfl : list = some x := lists.path.1
  have fresh := (List.nodup_cons.1 lists.nodup).1
  have nextX : m.next x = l.head? := lists.next_eq (s := [])
  have off : ∀ z ∈ l, z ≠ x := fun z mem same => fresh (same ▸ mem)
  cases l with
  | nil =>
      have ends : m.next x = none := nextX
      refine ⟨_, _, rfl, ?_, fun z _ => by simp [ends]⟩
      simp only [ends, setPrev_next]
      exact linked_nil
  | cons y l =>
      have nextX : m.next x = some y := nextX
      refine ⟨_, _, rfl, ?_, fun z _ => by simp [nextX]⟩
      have yl := (List.nodup_cons.1 (List.nodup_cons.1 lists.nodup).2).1
      simp only [nextX, setPrev_next]
      rw [← nextX]
      refine linked_cutHead lists (fun _ _ => rfl) (fun y' is => ?_) (fun z mem => ?_)
      · obtain rfl : y = y' := Option.some.inj is
        simp [off y List.mem_cons_self]
      · have zy : z ≠ y := fun same => yl (same ▸ mem)
        simp [off z (List.mem_cons_of_mem y mem), zy]

theorem insertHead_spec (lists : Lists m list l) (fresh : x ∉ l) :
    ∃ m', zbListInsertHead m list x = (m', some x) ∧ Lists m' (some x) (x :: l) ∧
      Spares m m' [x] := by
  cases l with
  | nil =>
      obtain rfl : list = none := lists.path
      refine ⟨_, rfl, linked_singleton (by simp) (by simp), fun z notIn => ?_⟩
      simp [List.mem_singleton.not.1 notIn]
  | cons h r =>
      obtain rfl : list = some h := lists.path.1
      have off : ∀ z ∈ h :: r, z ≠ x := fun z mem same => fresh (same ▸ mem)
      have hx := off h List.mem_cons_self
      have hr := (List.nodup_cons.1 lists.nodup).1
      refine ⟨_, rfl, ?_, fun z notIn => ?_⟩
      · refine linked_insertHead lists fresh (by simp) (fun z mem => ?_) ?_ (by simp)
          (fun z mem => ?_)
        · simp [off z mem]
        · simp [hx.symm]
        · have zh : z ≠ h := fun same => hr (same ▸ mem)
          simp [off z (List.mem_cons_of_mem h mem), zh]
      · simp [List.mem_singleton.not.1 notIn]

theorem insertTail_spec (lists : Lists m list l) (fresh : x ∉ l) :
    ∃ m' list', zbListInsertTail m list x = some (m', list') ∧ Lists m' list' (l ++ [x]) ∧
      Spares m m' (l ++ [x]) := by
  cases l with
  | nil =>
      obtain rfl : list = none := lists.path
      refine ⟨_, _, rfl, linked_singleton (by simp) (by simp), fun z notIn => ?_⟩
      simp [List.mem_singleton.not.1 notIn]
  | cons h r =>
      obtain rfl : list = some h := lists.path.1
      obtain ⟨w, last⟩ := exists_last h r
      have prevH : m.prev h = some w := lists.prev_head.trans last
      have off : ∀ z ∈ h :: r, z ≠ x := fun z mem same => fresh (same ▸ mem)
      have hx := off h List.mem_cons_self
      have wx := off w (List.mem_of_getLast? last)
      have hr := (List.nodup_cons.1 lists.nodup).1
      have written : zbListInsertTail m (some h) x =
          some ((((m.setNext x none).setPrev x (some w)).setNext w (some x)).setPrev h (some x),
            some h) := by
        simp [zbListInsertTail, ZbLinks.writeNext, prevH, hx]
      refine ⟨_, _, written, ?_, fun z notIn => ?_⟩
      · refine linked_insertTail lists fresh last (by simp [wx.symm]) (by simp)
          (fun z mem zw => ?_) (by simp [hx.symm]) (by simp) (fun z mem => ?_)
        · simp [zw, off z mem]
        · have zh : z ≠ h := fun same => hr (same ▸ mem)
          simp [off z (List.mem_cons_of_mem h mem), zh]
      · rw [List.mem_append, not_or, List.mem_singleton] at notIn
        have zw : z ≠ w := fun same => notIn.1 (same ▸ List.mem_of_getLast? last)
        simp [notIn.2, zw]

theorem insertAfter_spec (lists : Lists m list (s ++ w :: v)) (fresh : x ∉ s ++ w :: v) :
    ∃ m' list', zbListInsertAfter m list w x = some (m', list') ∧
      Lists m' list' (s ++ w :: x :: v) ∧ Spares m m' (s ++ w :: x :: v) := by
  have off : ∀ z ∈ s ++ w :: v, z ≠ x := fun z mem same => fresh (same ▸ mem)
  have tail : zbListGetTail m list = (s ++ w :: v).getLast? := by
    rw [← lists.head_eq]
    cases s with
    | nil => exact lists.prev_head
    | cons h s => exact lists.prev_head
  cases v with
  | nil =>
      -- after the last entry: at the tail
      have last : some w = zbListGetTail m list := by rw [tail, List.getLast?_append_cons]; rfl
      have at_tail := insertTail_spec lists fresh
      rw [List.append_assoc] at at_tail
      rw [zbListInsertAfter, if_pos last]
      exact at_tail
  | cons y v =>
      have apart := lists.nodup
      simp only [List.nodup_append, List.nodup_cons, List.mem_cons, not_or] at apart
      obtain ⟨-, ⟨⟨wy, wv⟩, yv, -⟩, left⟩ := apart
      have notLast : ¬ some w = zbListGetTail m list := by
        rw [tail, List.getLast?_append_cons, List.getLast?_cons_cons]
        intro is
        exact (List.mem_cons.1 (List.mem_of_getLast? is.symm)).elim wy wv
      have nextW : m.next w = some y := lists.next_eq
      have wx := off w (by simp)
      have yx := off y (by simp)
      have written : zbListInsertAfter m list w x =
          some ((((m.setNext x (some y)).setPrev x (some w)).setPrev y (some x)).setNext w (some x),
            list) := by
        simp [zbListInsertAfter, notLast, ZbLinks.writePrev, nextW, wx]
      refine ⟨_, _, written, ?_, fun z notIn => ?_⟩
      · refine linked_insertMid lists fresh (by simp [wx.symm]) (by simp) (fun z mem => ?_)
          (by simp [yx.symm]) (by simp) (fun z mem => ?_)
        · have zx : z ≠ x := off z (by simp at mem ⊢; tauto)
          have zw : z ≠ w := by
            rintro rfl
            rcases List.mem_append.1 mem with mem | mem
            · exact left z mem z (Or.inl rfl) rfl
            · exact (List.mem_cons.1 mem).elim wy wv
          simp [zx, zw]
        · have zx : z ≠ x := off z (by simp at mem ⊢; tauto)
          have zy : z ≠ y := by
            rintro rfl
            rcases List.mem_append.1 mem with mem | mem
            · exact left z mem z (Or.inr (Or.inl rfl)) rfl
            · exact (List.mem_cons.1 mem).elim (fun same => wy same.symm) yv
          simp [zx, zy]
      · simp only [List.mem_append, List.mem_cons, not_or] at notIn
        simp [notIn.2.1, notIn.2.2.1]

theorem remove_spec (lists : Lists m list (s ++ x :: v)) :
    ∃ m' list', zbListRemove m list x = some (m', list') ∧ Lists m' list' (s ++ v) ∧
      Spares m m' s := by
  have apart := lists.nodup
  simp only [List.nodup_append, List.nodup_cons, List.mem_cons] at apart
  obtain ⟨snodup, ⟨xv, vnodup⟩, left⟩ := apart
  have offS : ∀ z ∈ s, z ≠ x := fun z mem => left z mem x (Or.inl rfl)
  have offV : ∀ z ∈ v, z ≠ x := fun z mem same => xv (same ▸ mem)
  have linkedIn : m.prev x ≠ none := by
    obtain ⟨last, is⟩ := exists_last x v
    exact back_ne_none (lists.back last (by rw [List.getLast?_append_cons, is]; rfl)) (by simp)
  have nextX : m.next x = v.head? := lists.next_eq
  rcases List.eq_nil_or_concat s with rfl | ⟨s, w, rfl⟩
  · -- the head
    obtain rfl : list = some x := lists.path.1
    cases v with
    | nil =>
        have ends : m.next x = none := nextX
        have written : zbListRemove m (some x) x =
            some ((m.setPrev x (m.prev x)).setPrev x none, none) := by
          simp [zbListRemove, linkedIn, ends, ZbLinks.writePrev]
        exact ⟨_, none, written, linked_nil, fun z _ => rfl⟩
    | cons y v =>
        have nextX : m.next x = some y := nextX
        have yv := (List.nodup_cons.1 vnodup).1
        have yx := offV y List.mem_cons_self
        have written : zbListRemove m (some x) x =
            some ((m.setPrev y (m.prev x)).setPrev x none, m.next x) := by
          simp [zbListRemove, linkedIn, nextX]
        refine ⟨_, _, written, ?_, fun z _ => rfl⟩
        refine linked_cutHead lists (fun _ _ => rfl) (fun y' is => ?_) (fun z mem => ?_)
        · obtain rfl : y = y' := Option.some.inj is
          simp [yx]
        · have zy : z ≠ y := fun same => yv (same ▸ mem)
          simp [offV z (List.mem_cons_of_mem y mem), zy]
  · rw [List.concat_eq_append] at lists left snodup offS ⊢
    rw [List.append_assoc] at lists ⊢
    have prevX : m.prev x = some w := lists.prev_eq
    have wx := offS w (by simp)
    obtain ⟨h, r, split⟩ : ∃ h r, s ++ [w] = h :: r := List.exists_cons_of_ne_nil (by simp)
    have start : list = some h := by
      rw [← lists.head_eq, ← List.append_assoc, split]
      rfl
    have hx := offS h (by simp [split])
    cases v with
    | nil =>
        -- the tail
        have ends : m.next x = none := nextX
        have written : zbListRemove m list x =
            some (((m.setPrev h (some w)).setNext w none).setPrev x none, list) := by
          have notHead : x ≠ h := hx.symm
          simp [zbListRemove, prevX, ends, start, ZbLinks.writePrev, ZbLinks.writeNext, notHead]
        have lists : Lists m list (h :: r ++ [x]) := by
          rw [← split, List.append_assoc]
          exact lists
        have hr := (List.nodup_cons.1 (split ▸ snodup)).1
        refine ⟨_, _, written, ?_, fun z notIn => ?_⟩
        · rw [List.append_nil, split]
          have last : (h :: r).getLast? = some w := by rw [← split, List.getLast?_concat]
          refine linked_removeTail (w := w) lists (by simp) last (fun z mem zw => by simp [zw])
            (by simp [hx]) (fun z mem => ?_)
          have zh : z ≠ h := fun same => hr (same ▸ mem)
          have zx : z ≠ x := offS z (split ▸ List.mem_cons_of_mem h mem)
          simp [zh, zx]
        · have zw : z ≠ w := fun same => notIn (by simp [same])
          simp [zw]
    | cons y v =>
        have nextX : m.next x = some y := nextX
        have written : zbListRemove m list x =
            some (((m.setPrev y (some w)).setNext w (some y)).setPrev x none, list) := by
          have notHead : x ≠ h := hx.symm
          have xy : x ≠ y := (offV y List.mem_cons_self).symm
          simp [zbListRemove, prevX, nextX, start, ZbLinks.writeNext, notHead, xy]
        have yv := (List.nodup_cons.1 vnodup).1
        have yx := offV y List.mem_cons_self
        refine ⟨_, _, written, ?_, fun z notIn => ?_⟩
        · refine linked_removeMid lists (by simp) (fun z mem => ?_) (by simp [yx]) (fun z mem => ?_)
          · have zw : z ≠ w := by
              rintro rfl
              rcases List.mem_append.1 mem with mem | mem
              · exact (List.nodup_append.1 snodup).2.2 z mem z (by simp) rfl
              · exact left z (by simp) z (Or.inr mem) rfl
            simp [zw]
          · have zx : z ≠ x := by
              rcases List.mem_append.1 mem with mem | mem
              · exact offS z (by simp [mem])
              · rcases List.mem_cons.1 mem with rfl | mem
                · exact wx
                · exact offV z (List.mem_cons_of_mem y mem)
            have zy : z ≠ y := by
              rintro rfl
              rcases List.mem_append.1 mem with mem | mem
              · exact left z (by simp [mem]) z (Or.inr List.mem_cons_self) rfl
              · rcases List.mem_cons.1 mem with same | mem
                · exact left z (by simp [same]) z (Or.inr List.mem_cons_self) rfl
                · exact yv mem
            simp [zx, zy]
        · have zw : z ≠ w := fun same => notIn (by simp [same])
          simp [zw]

/-- The entries of a single-linked list. -/
structure Queues (m : ZbLinks ι) (list : ZbSlList ι) (l : List ι) : Prop where
  path : Path m.next list.head l none
  tail : list.tail = l.getLast?
  nodup : l.Nodup

omit [DecidableEq ι] in
theorem queues_nil : Queues m .init ([] : List ι) := ⟨rfl, rfl, List.nodup_nil⟩

omit [DecidableEq ι] in
theorem Spares.queues {m' : ZbLinks ι} {r : List ι} {list : ZbSlList ι} (spares : Spares m m' l)
    (apart : ∀ z ∈ r, z ∉ l) (queues : Queues m list r) : Queues m' list r :=
  ⟨spares.stacked apart queues.path, queues.tail, queues.nodup⟩

theorem spares_stkPush : Spares m (zbStkPush m list x).1 [x] := fun _ notIn =>
  Function.update_of_ne (List.mem_singleton.not.1 notIn) _ _

theorem slInsertTail_spec {list : ZbSlList ι} (queues : Queues m list l) (fresh : x ∉ l) :
    Queues (zbSlListInsertTail m list x).1 (zbSlListInsertTail m list x).2 (l ++ [x]) ∧
      Spares m (zbSlListInsertTail m list x).1 (l ++ [x]) := by
  have nodup : (l ++ [x]).Nodup := List.nodup_append.2 ⟨queues.nodup, List.nodup_singleton x, by
    intro z mem z' mem' same
    rw [List.mem_singleton.1 mem'] at same
    exact fresh (same ▸ mem)⟩
  rcases List.eq_nil_or_concat l with rfl | ⟨s, w, rfl⟩
  · have empty : list.tail = none := queues.tail
    have is : zbSlListInsertTail m list x = (m.setNext x none, ⟨some x, some x⟩) := by
      simp [zbSlListInsertTail, empty]
    rw [is]
    refine ⟨⟨⟨rfl, Function.update_self ..⟩, rfl, nodup⟩, fun z notIn => ?_⟩
    simp [List.mem_singleton.not.1 notIn]
  · rw [List.concat_eq_append] at queues fresh nodup ⊢
    have last : list.tail = some w := by rw [queues.tail, List.getLast?_concat]
    have is : zbSlListInsertTail m list x =
        ((m.setNext x none).setNext w (some x), { list with tail := some x }) := by
      simp [zbSlListInsertTail, last]
    have wx : w ≠ x := fun same => fresh (by simp [same])
    have apart := (List.nodup_append.1 queues.nodup).2.2
    rw [is]
    refine ⟨⟨?_, by simp, nodup⟩, fun z notIn => ?_⟩
    · have path := (path_mid.1 queues.path).1
      rw [List.append_assoc]
      refine path_mid.2 ⟨path_congr (fun z mem => ?_) path, Function.update_self .., ?_⟩
      · have zx : z ≠ x := fun same => fresh (by simp [← same, mem])
        have zw : z ≠ w := apart z mem w (by simp)
        simp [zx, zw]
      · simp [wx.symm, Theory.LinkedList.Path]
    · simp only [List.mem_append, List.mem_singleton, not_or] at notIn
      simp [notIn.1.2, notIn.2]

omit [DecidableEq ι] in
theorem slCutHead_spec {list : ZbSlList ι} (queues : Queues m list (x :: l)) :
    ∃ list', zbSlListCutHead m list = (some x, list') ∧ Queues m list' l := by
  obtain ⟨⟨start, path⟩, tail, nodup⟩ := queues
  refine ⟨_, by simp only [zbSlListCutHead, start]; rfl, path, ?_, (List.nodup_cons.1 nodup).2⟩
  cases l with
  | nil => simp [show m.next x = none from path]
  | cons y l => simp [path.1, tail, List.getLast?_cons_cons]

omit [DecidableEq ι] in
theorem slCutHead_nil {list : ZbSlList ι} (queues : Queues m list ([] : List ι)) :
    zbSlListCutHead m list = (none, list) := by
  have empty : list.head = none := queues.path
  simp [zbSlListCutHead, empty]

end Rules

end Zboss.Common.ListMacros
