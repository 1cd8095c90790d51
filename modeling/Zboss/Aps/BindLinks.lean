/-
# Aps.BindLinks -- the binding table is a multiset of links

`links` reads the two packed tables as the multiset of links they stand for.
`BindingOk` is the invariant of the tables: both fit, every record names a live
source, every live source is named, and no two live sources are equal.  On such
tables a bind adds one link (`addRecord_spec`) and an unbind removes all copies of
one (`removeRecord_spec`).

The loops look at slot 0 of an empty table.  Binding is not hurt by that, and
neither is unbinding as long as the stale slots do not name the link that is
unbound (`UnbindIntact`): then the eight-bit counter goes from 0 to 255 and 255
records are moved (`unbind_twice_faults`).
-/
import Mathlib
import Zboss.Theory.Run
import Zboss.Theory.SortedIndex
import Zboss.Aps.Bind

namespace Zboss.Aps.BindLinks

open Zboss.Theory.Run
open Zboss.Theory.Table
open Zboss.Common.Types
open Zboss.Common.Address
open Zboss.Aps.Bind

set_option autoImplicit false

/-- A bound source with one of its destinations. -/
abbrev Link := ZbApsBindSrcTable × BindDst

/-- The live records of the destination table. -/
def records (t : ZbApsBindingTable) : List ZbApsBindDstTable := live t.dstTable t.dstNElements

/-- The live sources. -/
def sources (t : ZbApsBindingTable) : List ZbApsBindSrcTable := live t.srcTable t.srcNElements

/-- The link a record stands for. -/
def linkOf (t : ZbApsBindingTable) (r : ZbApsBindDstTable) : Link :=
  (t.srcTable r.srcTableIndex, r.dst)

/-- **The abstract binding set**, with its multiplicities. -/
def links (t : ZbApsBindingTable) : Multiset Link := (records t).map (linkOf t)

/-- **The invariant of the binding table.** -/
structure BindingOk (t : ZbApsBindingTable) : Prop where
  srcFits : t.srcNElements ≤ zbApsSrcBindingTableSize
  dstFits : t.dstNElements ≤ zbApsDstBindingTableSize
  inside : ∀ r ∈ records t, r.srcTableIndex < t.srcNElements
  named : ∀ i, i < t.srcNElements → ∃ r ∈ records t, r.srcTableIndex = i
  distinct : (sources t).Nodup

/-- The stale record at slot 0 of an empty table has index 0. -/
def StaleZero (t : ZbApsBindingTable) : Prop :=
  t.srcNElements = 0 → (t.dstTable 0).srcTableIndex = 0

section Tables

variable {t : ZbApsBindingTable} {src : ZbApsBindSrcTable} {dst : BindDst} {s : Nat}

theorem mem_records {r : ZbApsBindDstTable} :
    r ∈ records t ↔ ∃ i, i < t.dstNElements ∧ t.dstTable i = r := mem_live

theorem source_inj (ok : BindingOk t) {i j : Nat} (hi : i < t.srcNElements)
    (hj : j < t.srcNElements) (same : t.srcTable i = t.srcTable j) : i = j :=
  live_nodup_iff.1 ok.distinct i j hi hj same

/-- Both tables are empty, or none is. -/
theorem empty_iff (ok : BindingOk t) : t.srcNElements = 0 ↔ t.dstNElements = 0 := by
  constructor
  · intro noSrc
    by_contra some_
    have here := ok.inside (t.dstTable 0) (mem_records.2 ⟨0, by omega, rfl⟩)
    omega
  · intro noDst
    by_contra some_
    obtain ⟨r, mem, -⟩ := ok.named 0 (by omega)
    obtain ⟨i, hi, -⟩ := mem_records.1 mem
    omega

/-! ## Finding a source -/

theorem apsFindSrcRefScan_spec {fuel l : Nat} (inside : l < t.srcNElements)
    (fueled : t.srcNElements ≤ l + fuel) :
    (apsFindSrcRefScan t src fuel l < t.srcNElements ∧
        t.srcTable (apsFindSrcRefScan t src fuel l) = src) ∨
      (apsFindSrcRefScan t src fuel l = 255 ∧
        ∀ i, l ≤ i → i < t.srcNElements → t.srcTable i ≠ src) := by
  induction fuel generalizing l with
  | zero => omega
  | succ fuel ih =>
      simp only [apsFindSrcRefScan]
      by_cases here : t.srcTable l = src
      · rw [if_pos here]
        exact Or.inl ⟨inside, here⟩
      · rw [if_neg here]
        have behind : ∀ i, l ≤ i → i < t.srcNElements →
            (∀ i, l + 1 ≤ i → i < t.srcNElements → t.srcTable i ≠ src) → t.srcTable i ≠ src := by
          intro i lo hi rest
          rcases Nat.eq_or_lt_of_le lo with rfl | lt
          · exact here
          · exact rest i lt hi
        by_cases more : l + 1 < t.srcNElements
        · rw [if_pos more]
          exact (ih more (by omega)).imp_right fun ⟨miss, rest⟩ =>
            ⟨miss, fun i lo hi => behind i lo hi rest⟩
        · rw [if_neg more]
          exact Or.inr ⟨rfl, fun i lo hi => behind i lo hi fun i lo' hi' => by omega⟩

/-- In a table with sources the search is exact. -/
theorem apsFindSrcRef_spec (src : ZbApsBindSrcTable) (ok : BindingOk t) (some_ : 0 < t.srcNElements) :
    (apsFindSrcRef t src < t.srcNElements ∧ t.srcTable (apsFindSrcRef t src) = src) ∨
      (apsFindSrcRef t src = 255 ∧ ∀ i, i < t.srcNElements → t.srcTable i ≠ src) := by
  have fits := ok.srcFits
  simp only [zbApsSrcBindingTableSize] at fits
  exact (apsFindSrcRefScan_spec some_ (by omega)).imp_right fun ⟨miss, rest⟩ =>
    ⟨miss, fun i hi => rest i (Nat.zero_le i) hi⟩

/-- In an empty table it looks at the stale source at slot 0. -/
theorem apsFindSrcRef_empty (empty : t.srcNElements = 0) :
    apsFindSrcRef t src = if t.srcTable 0 = src then 0 else 255 := by
  rw [apsFindSrcRef, show (256 : Nat) = 255 + 1 from rfl, apsFindSrcRefScan, empty,
    if_neg (Nat.not_lt_zero _)]

theorem bindPlace_spec (ok : BindingOk t) (room : bindPlace t src < zbApsSrcBindingTableSize) :
    bindPlace t src < t.srcNElements ∧ t.srcTable (bindPlace t src) = src ∨
      bindPlace t src = t.srcNElements ∧ bindPlace t src < zbApsSrcBindingTableSize ∧
        ∀ i, i < t.srcNElements → t.srcTable i ≠ src := by
  have fits := ok.srcFits
  simp only [zbApsSrcBindingTableSize] at fits
  by_cases empty : t.srcNElements = 0
  · have first : bindPlace t src = t.srcNElements := by
      simp only [bindPlace, apsFindSrcRef_empty empty]
      by_cases stale : t.srcTable 0 = src
      · rw [if_pos stale, if_neg (by decide), empty]
      · rw [if_neg stale, if_pos rfl]
    exact Or.inr ⟨first, room, fun i hi => by omega⟩
  · rcases apsFindSrcRef_spec src ok (by omega) with ⟨inside, there⟩ | ⟨miss, absent⟩
    · have place : bindPlace t src = apsFindSrcRef t src := if_neg (by omega)
      rw [place]
      exact Or.inl ⟨inside, there⟩
    · have place : bindPlace t src = t.srcNElements := if_pos miss
      exact Or.inr ⟨place, room, absent⟩

/-! ## Adding a record -/

theorem records_addRecord : records (addRecord src dst s t) = records t ++ [⟨dst, s⟩] := by
  unfold addRecord records
  split <;> exact live_push ..

/-- **A record is added** for a source that is there, or that is new and put
behind the others. -/
theorem addRecord_spec (dst : BindDst) (ok : BindingOk t)
    (place : s < t.srcNElements ∧ t.srcTable s = src ∨
      s = t.srcNElements ∧ s < zbApsSrcBindingTableSize ∧
        ∀ i, i < t.srcNElements → t.srcTable i ≠ src)
    (room : t.dstNElements < zbApsDstBindingTableSize) :
    BindingOk (addRecord src dst s t) ∧ 0 < (addRecord src dst s t).srcNElements ∧
      links (addRecord src dst s t) = links t + {(src, dst)} := by
  -- in both cases the sources in use before are still in their places
  obtain ⟨fits, grows, sLive, still, atS, distinct, from_⟩ :
      (addRecord src dst s t).srcNElements ≤ zbApsSrcBindingTableSize ∧
      t.srcNElements ≤ (addRecord src dst s t).srcNElements ∧
      s < (addRecord src dst s t).srcNElements ∧
      (∀ i, i < t.srcNElements → (addRecord src dst s t).srcTable i = t.srcTable i) ∧
      (addRecord src dst s t).srcTable s = src ∧ (sources (addRecord src dst s t)).Nodup ∧
      ∀ i, i < (addRecord src dst s t).srcNElements → i < t.srcNElements ∨ i = s := by
    rcases place with ⟨inside, there⟩ | ⟨rfl, inside, fresh⟩
    · have old : s ≠ t.srcNElements := by omega
      have same : (addRecord src dst s t).srcTable = t.srcTable ∧
          (addRecord src dst s t).srcNElements = t.srcNElements := by
        simp only [addRecord, if_neg old, and_self]
      rw [sources, same.1, same.2]
      exact ⟨ok.srcFits, Nat.le_refl _, inside, fun _ _ => rfl, there, ok.distinct,
        fun i hi => Or.inl hi⟩
    · have same : (addRecord src dst t.srcNElements t).srcTable =
          Function.update t.srcTable t.srcNElements src ∧
          (addRecord src dst t.srcNElements t).srcNElements = t.srcNElements + 1 := by
        simp only [addRecord, if_true, and_self]
      rw [sources, same.1, same.2, live_push, ← List.concat_eq_append, List.nodup_concat]
      refine ⟨by omega, by omega, by omega, fun i hi => Function.update_of_ne (by omega) ..,
        Function.update_self .., ⟨fun mem => ?_, ok.distinct⟩, fun i hi => by omega⟩
      obtain ⟨i, hi, there⟩ := mem_live.1 mem
      exact fresh i hi there
  have count : (addRecord src dst s t).dstNElements = t.dstNElements + 1 := by
    unfold addRecord
    split <;> rfl
  refine ⟨⟨fits, by omega, fun r mem => ?_, fun i hi => ?_, distinct⟩, by omega, ?_⟩
  · rw [records_addRecord, List.mem_append, List.mem_singleton] at mem
    rcases mem with old | rfl
    · exact Nat.lt_of_lt_of_le (ok.inside r old) grows
    · exact sLive
  · rw [records_addRecord]
    rcases from_ i hi with old | rfl
    · obtain ⟨r, mem, at_⟩ := ok.named i old
      exact ⟨r, List.mem_append_left _ mem, at_⟩
    · exact ⟨⟨dst, i⟩, List.mem_append_right _ (List.mem_singleton_self _), rfl⟩
  · have front : (records t).map (linkOf (addRecord src dst s t)) = (records t).map (linkOf t) :=
      List.map_congr_left fun r mem => by rw [linkOf, still _ (ok.inside r mem), linkOf]
    rw [links, records_addRecord, List.map_append, front, List.map_singleton, linkOf, atS]
    exact (Multiset.coe_add _ _).symm

/-! ## Removing a link -/

/-- The loop over the destinations keeps the records of other links in order, and
finds whether one of them is of the same source.  What it leaves in any slot was
there before, or in a live one. -/
theorem removeDst_spec {fuel n d : Nat} {tbl : Nat → ZbApsBindDstTable} {found : Bool}
    (inside : d < n) (fits : n ≤ zbApsDstBindingTableSize) (fueled : n ≤ d + fuel) :
    ∃ tbl' n', removeDst s dst fuel tbl n d found =
        .ok (tbl', n', found || ((live tbl n).drop d).any fun r =>
          decide (r ≠ ⟨dst, s⟩) && decide (r.srcTableIndex = s)) ∧
      live tbl' n' = (live tbl n).take d ++
        ((live tbl n).drop d).filter (fun r => decide (r ≠ ⟨dst, s⟩)) ∧
      n' ≤ n ∧ ∀ j, tbl' j = tbl j ∨ ∃ i, i < n ∧ tbl' j = tbl i := by
  induction fuel generalizing n d tbl found with
  | zero => omega
  | succ fuel ih =>
      have length : (live tbl n).length = n := live_length ..
      have here : (live tbl n).drop d = tbl d :: (live tbl n).drop (d + 1) := by
        rw [List.drop_eq_getElem_cons (by omega), live_getElem]
      by_cases hit : tbl d = ⟨dst, s⟩
      · simp only [zbApsDstBindingTableSize] at fits
        have dec : decUint8 n = n - 1 := decUint8_of_pos (by omega) (by omega)
        have room : n - 1 < zbApsDstBindingTableSize := by
          simp only [zbApsDstBindingTableSize]
          omega
        have closed := live_close (f := tbl) (m := n - 1 - d) inside (by omega)
        have front : (live (move tbl d (d + 1) (n - 1 - d)) (n - 1)).take d =
            (live tbl n).take d := by
          rw [closed, List.eraseIdx_eq_take_drop_succ,
            List.take_append_of_le_length (by rw [List.length_take]; omega), List.take_take,
            Nat.min_self]
        have rest : (live (move tbl d (d + 1) (n - 1 - d)) (n - 1)).drop d =
            (live tbl n).drop (d + 1) := by
          rw [closed, List.eraseIdx_eq_take_drop_succ,
            List.drop_append_of_le_length (by rw [List.length_take]; omega), List.drop_take,
            Nat.sub_self, List.take_zero, List.nil_append]
        have from_ : ∀ j, move tbl d (d + 1) (n - 1 - d) j = tbl j ∨
            ∃ i, i < n ∧ move tbl d (d + 1) (n - 1 - d) j = tbl i := by
          intro j
          by_cases moved : d ≤ j ∧ j < d + (n - 1 - d)
          · exact Or.inr ⟨j + 1, by omega, move_down moved.1 moved.2⟩
          · exact Or.inl (if_neg moved)
        have gone : decide (tbl d ≠ ⟨dst, s⟩) = false := by simp [hit]
        rw [here, List.any_cons, List.filter_cons_of_neg (by simp [hit]), gone, Bool.false_and,
          Bool.false_or]
        simp only [removeDst, if_pos hit, dec, if_pos room]
        by_cases more : d < n - 1
        · obtain ⟨tbl', n', eq, kept, le, back⟩ :=
            @ih (n - 1) d (move tbl d (d + 1) (n - 1 - d)) found more
              (by simp only [zbApsDstBindingTableSize]; omega) (by omega)
          rw [rest] at eq kept
          rw [front] at kept
          rw [if_pos more, eq]
          refine ⟨tbl', n', rfl, kept, by omega, fun j => ?_⟩
          rcases back j with same | ⟨i, hi, same⟩
          · rw [same]
            exact from_ j
          · rw [same]
            rcases from_ i with old | old
            · exact Or.inr ⟨i, by omega, old⟩
            · exact Or.inr old
        · have last : (live tbl n).drop (d + 1) = [] := List.drop_eq_nil_of_le (by omega)
          rw [if_neg more, last]
          refine ⟨_, n - 1, by simp, ?_, by omega, from_⟩
          rw [last] at rest
          have whole := List.take_append_drop d (live (move tbl d (d + 1) (n - 1 - d)) (n - 1))
          rw [rest, front] at whole
          exact whole.symm
      · rw [here, List.any_cons, List.filter_cons_of_pos (by simp [hit])]
        simp only [removeDst, if_neg hit]
        have kept : decide (tbl d ≠ ⟨dst, s⟩) = true := by simp [hit]
        rw [kept, Bool.true_and]
        have front : (live tbl n).take (d + 1) = (live tbl n).take d ++ [tbl d] := by
          rw [List.take_succ_eq_append_getElem (by omega), live_getElem]
        by_cases more : d + 1 < n
        · obtain ⟨tbl', n', eq, kept, le, back⟩ :=
            @ih n (d + 1) tbl (found || decide ((tbl d).srcTableIndex = s)) more fits (by omega)
          rw [if_pos more, eq]
          refine ⟨tbl', n', by rw [Bool.or_assoc], ?_, le, back⟩
          rw [kept, front, List.append_assoc, List.singleton_append]
        · have last : (live tbl n).drop (d + 1) = [] := List.drop_eq_nil_of_le (by omega)
          rw [if_neg more, last]
          refine ⟨tbl, n, by simp, ?_, Nat.le_refl n, fun j => Or.inl rfl⟩
          rw [List.filter_nil]
          have whole := List.take_append_drop d (live tbl n)
          rw [here, last] at whole
          exact whole.symm

/-- What the second loop makes of a record. -/
def renumbered (s : Nat) (r : ZbApsBindDstTable) : ZbApsBindDstTable :=
  if r.srcTableIndex > s then { r with srcTableIndex := r.srcTableIndex - 1 } else r

theorem renumber_spec {fuel n d : Nat} {tbl : Nat → ZbApsBindDstTable}
    (fueled : n ≤ d + fuel) (positive : 0 < fuel) (j : Nat) :
    renumber s n fuel d tbl j =
      if d ≤ j ∧ (j < n ∨ j = d) then renumbered s (tbl j) else tbl j := by
  induction fuel generalizing d tbl with
  | zero => omega
  | succ fuel ih =>
      have first : (if (tbl d).srcTableIndex > s then
          Function.update tbl d { tbl d with srcTableIndex := (tbl d).srcTableIndex - 1 }
          else tbl) = Function.update tbl d (renumbered s (tbl d)) := by
        unfold renumbered
        split
        · rfl
        · rw [Function.update_eq_self]
      simp only [renumber, first]
      by_cases more : d + 1 < n
      · rw [if_pos more, ih (by omega) (by omega)]
        by_cases here : j = d
        · subst here
          rw [if_neg (by omega), if_pos (by omega), Function.update_self]
        · rw [Function.update_of_ne here]
          by_cases there : d + 1 ≤ j ∧ j < n
          · rw [if_pos (by omega), if_pos (by omega)]
          · rw [if_neg (by omega), if_neg (by omega)]
      · rw [if_neg more]
        by_cases here : j = d
        · subst here
          rw [if_pos (by omega), Function.update_self]
        · rw [if_neg (by omega), Function.update_of_ne here]

/-- Among live records the link tells the record. -/
theorem linkOf_eq_iff (ok : BindingOk t) (inside : s < t.srcNElements) {r : ZbApsBindDstTable}
    (mem : r ∈ records t) : linkOf t r = (t.srcTable s, dst) ↔ r = ⟨dst, s⟩ := by
  constructor
  · intro same
    obtain ⟨sameSrc, sameDst⟩ := Prod.ext_iff.1 same
    have index := source_inj ok (ok.inside r mem) inside sameSrc
    cases r
    cases index
    cases sameDst
    rfl
  · rintro rfl
    rfl

theorem links_filter (ok : BindingOk t) (inside : s < t.srcNElements) :
    (links t).filter (· ≠ (t.srcTable s, dst)) =
      (((records t).filter fun r => decide (r ≠ ⟨dst, s⟩)).map (linkOf t) : List Link) := by
  rw [links, Multiset.filter_coe, List.filter_map]
  congr 2
  refine List.filter_congr fun r mem => decide_eq_decide.2 ?_
  exact not_congr (linkOf_eq_iff ok inside mem)

/-- Dropping a source that no record names, and renumbering the others. -/
theorem dropSrc_spec (fits : t.srcNElements ≤ zbApsSrcBindingTableSize)
    (dstFits : t.dstNElements ≤ zbApsDstBindingTableSize)
    (distinct : (sources t).Nodup) (inside : s < t.srcNElements)
    (below : ∀ r ∈ records t, r.srcTableIndex < t.srcNElements)
    (unnamed : ∀ r ∈ records t, r.srcTableIndex ≠ s)
    (named : ∀ i, i < t.srcNElements → i ≠ s → ∃ r ∈ records t, r.srcTableIndex = i)
    (zero : (t.dstTable 0).srcTableIndex < t.srcNElements) :
    ∃ t', dropSrc s t = .ok t' ∧ BindingOk t' ∧ StaleZero t' ∧ links t' = links t := by
  simp only [zbApsSrcBindingTableSize] at fits
  simp only [zbApsDstBindingTableSize] at dstFits
  have dec : decUint8 t.srcNElements = t.srcNElements - 1 := decUint8_of_pos (by omega) (by omega)
  have room : t.srcNElements - 1 < zbApsSrcBindingTableSize := by
    simp only [zbApsSrcBindingTableSize]
    omega
  let t' : ZbApsBindingTable := { t with
    srcTable := move t.srcTable s (s + 1) (t.srcNElements - 1 - s)
    srcNElements := t.srcNElements - 1
    dstTable := renumber s t.dstNElements 256 0 t.dstTable }
  have recs : records t' = (records t).map (renumbered s) := by
    show live (renumber s t.dstNElements 256 0 t.dstTable) t.dstNElements = _
    rw [records, live, live, List.map_map]
    refine List.map_congr_left fun j mem => ?_
    have hj := List.mem_range.1 mem
    rw [renumber_spec (by omega) (by omega), if_pos ⟨Nat.zero_le j, Or.inl hj⟩]
    rfl
  have index : ∀ r ∈ records t, (renumbered s r).srcTableIndex < t.srcNElements - 1 ∧
      t'.srcTable (renumbered s r).srcTableIndex = t.srcTable r.srcTableIndex := by
    intro r mem
    have lt := below r mem
    have ne := unnamed r mem
    unfold renumbered
    split
    · rename_i above
      refine ⟨by dsimp only; omega, ?_⟩
      have moved := move_down (f := t.srcTable) (i := s) (m := t.srcNElements - 1 - s)
        (j := r.srcTableIndex - 1) (by omega) (by omega)
      rwa [Nat.sub_add_cancel (by omega)] at moved
    · rename_i before
      exact ⟨by omega, move_of_lt (by omega)⟩
  refine ⟨t', by simp only [dropSrc, dec, if_pos room]; rfl, ⟨?_, dstFits, ?_, ?_, ?_⟩, ?_, ?_⟩
  · show t.srcNElements - 1 ≤ _
    exact Nat.le_of_lt room
  · intro r' mem
    rw [recs] at mem
    obtain ⟨r, old, rfl⟩ := List.mem_map.1 mem
    exact (index r old).1
  · intro i hi
    have hi' : i < t.srcNElements - 1 := hi
    rw [recs]
    by_cases before : i < s
    · obtain ⟨r, mem, rfl⟩ := named i (by omega) (by omega)
      exact ⟨_, List.mem_map_of_mem mem, by rw [renumbered, if_neg (by omega)]⟩
    · obtain ⟨r, mem, at_⟩ := named (i + 1) (by omega) (by omega)
      refine ⟨_, List.mem_map_of_mem mem, ?_⟩
      rw [renumbered, if_pos (by omega)]
      dsimp only
      omega
  · have closed := live_close (f := t.srcTable) (m := t.srcNElements - 1 - s) inside (by omega)
    show (live (move t.srcTable s (s + 1) (t.srcNElements - 1 - s)) (t.srcNElements - 1)).Nodup
    rw [closed]
    exact distinct.sublist (List.eraseIdx_sublist ..)
  · intro empty
    have single : t.srcNElements - 1 = 0 := empty
    show (renumber s t.dstNElements 256 0 t.dstTable 0).srcTableIndex = 0
    rw [renumber_spec (by omega) (by omega), if_pos (by omega), renumbered, if_neg (by omega)]
    omega
  · rw [links, recs, links, List.map_map]
    refine congrArg _ (List.map_congr_left fun r mem => ?_)
    have keepsDst : (renumbered s r).dst = r.dst := by unfold renumbered; split <;> rfl
    rw [Function.comp, linkOf, (index r mem).2, keepsDst, linkOf]

/-- **All copies of a link are removed.** -/
theorem removeRecord_spec (dst : BindDst) (ok : BindingOk t) (inside : s < t.srcNElements) :
    ∃ t', removeRecord s dst t = .ok t' ∧ BindingOk t' ∧ StaleZero t' ∧
      links t' = (links t).filter (· ≠ (t.srcTable s, dst)) := by
  have some_ : 0 < t.dstNElements := by
    have := (not_congr (empty_iff ok)).1 (by omega)
    omega
  have dstFits := ok.dstFits
  obtain ⟨tbl', n', eq, kept, le, back⟩ := @removeDst_spec dst s 256 t.dstNElements 0 t.dstTable
    false some_ ok.dstFits (by simp only [zbApsDstBindingTableSize] at dstFits; omega)
  rw [List.take_zero, List.drop_zero, List.nil_append] at kept
  rw [List.drop_zero, Bool.false_or] at eq
  let t₁ : ZbApsBindingTable := { t with dstTable := tbl', dstNElements := n' }
  have recs : records t₁ = (records t).filter fun r => decide (r ≠ ⟨dst, s⟩) := kept
  have linked : links t₁ = (links t).filter (· ≠ (t.srcTable s, dst)) := by
    rw [links_filter ok inside, ← recs]
    rfl
  have sub : ∀ r, r ∈ records t₁ → r ∈ records t := fun r mem => by
    rw [recs] at mem
    exact List.mem_of_mem_filter mem
  have below : ∀ r ∈ records t₁, r.srcTableIndex < t.srcNElements := fun r mem =>
    ok.inside r (sub r mem)
  have others : ∀ i, i < t.srcNElements → i ≠ s → ∃ r ∈ records t₁, r.srcTableIndex = i := by
    intro i hi ne
    obtain ⟨r, mem, rfl⟩ := ok.named i hi
    refine ⟨r, ?_, rfl⟩
    rw [recs, List.mem_filter]
    refine ⟨mem, decide_eq_true fun same => ne ?_⟩
    rw [same]
  simp only [removeRecord, eq]
  by_cases left : ((live t.dstTable t.dstNElements).any fun r =>
      decide (r ≠ ⟨dst, s⟩) && decide (r.srcTableIndex = s)) = true
  · obtain ⟨r, mem, holds⟩ := List.any_eq_true.1 left
    simp only [Bool.and_eq_true, decide_eq_true_eq] at holds
    refine ⟨t₁, ?_, ⟨ok.srcFits, le.trans ok.dstFits, below, fun i hi => ?_, ok.distinct⟩, ?_,
      linked⟩
    · simp only [left, bind, Except.bind, if_true]
      rfl
    · by_cases here : i = s
      · refine ⟨r, ?_, holds.2.trans here.symm⟩
        rw [recs, List.mem_filter]
        exact ⟨mem, decide_eq_true holds.1⟩
      · exact others i hi here
    · intro empty
      have none_ : t.srcNElements = 0 := empty
      omega
  · have unnamed : ∀ r ∈ records t₁, r.srcTableIndex ≠ s := by
      intro r mem here
      rw [recs, List.mem_filter] at mem
      refine left (List.any_eq_true.2 ⟨r, mem.1, ?_⟩)
      rw [mem.2, here]
      simp
    have zero : (t₁.dstTable 0).srcTableIndex < t₁.srcNElements := by
      show (tbl' 0).srcTableIndex < t.srcNElements
      rcases back 0 with same | ⟨i, hi, same⟩
      · rw [same]
        exact ok.inside _ (mem_records.2 ⟨0, some_, rfl⟩)
      · rw [same]
        exact ok.inside _ (mem_records.2 ⟨i, hi, rfl⟩)
    obtain ⟨t', dropped, ok', zero', same⟩ := dropSrc_spec (t := t₁) ok.srcFits
      (le.trans ok.dstFits) ok.distinct inside below unnamed others zero
    refine ⟨t', ?_, ok', zero', same.trans linked⟩
    have right : ((live t.dstTable t.dstNElements).any fun r =>
        decide (r ≠ ⟨dst, s⟩) && decide (r.srcTableIndex = s)) = false := by simpa using left
    simp only [right, bind, Except.bind]
    exact dropped

/-- In an empty table nothing is removed, unless the stale slot names the link. -/
theorem removeRecord_empty (empty : t.srcNElements = 0) (noDst : t.dstNElements = 0)
    (zero : StaleZero t) (other : t.dstTable 0 ≠ ⟨dst, 0⟩) : removeRecord 0 dst t = .ok t := by
  have first : removeDst 0 dst 256 t.dstTable t.dstNElements 0 false =
      .ok (t.dstTable, t.dstNElements, true) := by
    rw [show (256 : Nat) = 255 + 1 from rfl, removeDst, if_neg other, if_neg (by omega)]
    simp [zero empty]
  simp only [removeRecord, first, bind, Except.bind]
  rfl

/-- Removing the link of a source that the search found, be it stale. -/
theorem removeRecord_found (ok : BindingOk t) (zero : StaleZero t)
    (hit : apsFindSrcRef t src ≠ 255)
    (intact : t.srcNElements = 0 → ¬ (t.srcTable 0 = src ∧ t.dstTable 0 = ⟨dst, 0⟩)) :
    ∃ t', removeRecord (apsFindSrcRef t src) dst t = .ok t' ∧ BindingOk t' ∧ StaleZero t' ∧
      links t' = (links t).filter (· ≠ (src, dst)) := by
  by_cases empty : t.srcNElements = 0
  · have stale : t.srcTable 0 = src := by
      by_contra other
      exact hit (by rw [apsFindSrcRef_empty empty, if_neg other])
    have noDst := (empty_iff ok).1 empty
    have none_ : links t = 0 := by
      rw [links, records, noDst]
      rfl
    refine ⟨t, ?_, ok, zero, by rw [none_]; rfl⟩
    rw [apsFindSrcRef_empty empty, if_pos stale]
    exact removeRecord_empty empty noDst zero fun same => intact empty ⟨stale, same⟩
  · rcases apsFindSrcRef_spec src ok (by omega) with ⟨inside, there⟩ | ⟨miss, -⟩
    · rw [← there]
      simpa only [there] using removeRecord_spec dst ok inside
    · exact absurd miss hit

end Tables

/-! ## Requests -/

/-- The link a request names, as the code looks it up. -/
def requestLink (create : Bool) (req : ZbApsmeBindingReq) (g : ZbAddrGlobals) : Option Link :=
  match lookup req.srcAddr create g with
  | .ok (g, .ok ref) =>
      match requestDst req g with
      | .ok (_, .ok dst) => some (requestSrc req ref, dst)
      | _ => none
  | _ => none

/-- **The condition for an unbind**: on an empty table, the stale slots 0 do not
name the link. -/
def UnbindIntact (c : BindContext) : BindCall → Prop
  | .bind _ => True
  | .unbind req => c.binding.srcNElements = 0 →
      ∀ link ∈ requestLink false req c.addr,
        ¬ (c.binding.srcTable 0 = link.1 ∧ c.binding.dstTable 0 = ⟨link.2, 0⟩)

/-- What the abstract binding set makes of a request that succeeds. -/
def linkStep (l : Multiset Link) : BindCall → Link → Multiset Link
  | .bind _, link => l + {link}
  | .unbind _, link => l.filter (· ≠ link)

/-- The link a request names, by its kind. -/
def callLink (c : BindContext) : BindCall → Option Link
  | .bind req => requestLink true req c.addr
  | .unbind req => requestLink false req c.addr

/-- A request refines the abstract step: it moves no memory out of its array, and
changes the links as the abstract set does, or, when it fails, not at all. -/
def Refines (c : BindContext) (call : BindCall) : Prop :=
  bindCall c call ≠ .error .fault ∧
    ∀ c' status, bindCall c call = .ok (c', status) →
      match status with
      | .ok _ => ∃ link ∈ callLink c call, links c'.binding = linkStep (links c.binding) call link
      | .error _ => links c'.binding = links c.binding

/-- The invariant of a context. -/
structure ContextOk (c : BindContext) : Prop where
  table : BindingOk c.binding
  zero : StaleZero c.binding

section Requests

variable {c c' : BindContext} {req : ZbApsmeBindingReq} {status : Except ZbRet Unit}

theorem lookup_ne_fault {ieee : ZbIeeeAddr} {create : Bool} {g : ZbAddrGlobals} :
    lookup ieee create g ≠ .error .fault := by
  unfold lookup
  split <;> simp

theorem requestDst_ne_fault {g : ZbAddrGlobals} : requestDst req g ≠ .error .fault := by
  unfold requestDst
  split
  · cases found : lookup req.dstAddrLong true g with
    | error stop =>
        cases stop with
        | assertion => simp [bind, Except.bind]
        | fault => exact absurd found lookup_ne_fault
    | ok r => simp [bind, Except.bind, pure, Except.pure]
  · split <;> simp [pure, Except.pure]

/-- What a request can come to: a stop in the address table, or a context in
order whose links are those of the abstract step. -/
def Outcome (c : BindContext) (link : Option Link) (step : Multiset Link → Link → Multiset Link)
    (res : Except Stop (BindContext × Except ZbRet Unit)) : Prop :=
  res = .error .assertion ∨ ∃ c' status, res = .ok (c', status) ∧ ContextOk c' ∧
    match status with
    | .ok _ => ∃ l ∈ link, links c'.binding = step (links c.binding) l
    | .error _ => links c'.binding = links c.binding

theorem bind_outcome (ok : ContextOk c) :
    Outcome c (requestLink true req c.addr) (fun l link => l + {link})
      (zbApsmeBindRequest req c) := by
  cases found : lookup req.srcAddr true c.addr with
  | error stop =>
      cases stop with
      | fault => exact absurd found lookup_ne_fault
      | assertion => exact Or.inl (by simp only [zbApsmeBindRequest, found, bind, Except.bind])
  | ok r =>
      obtain ⟨g, res⟩ := r
      cases res with
      | error status =>
          refine Or.inr ⟨{ c with addr := g }, .error status, ?_, ⟨ok.table, ok.zero⟩, rfl⟩
          simp only [zbApsmeBindRequest, found, bind, Except.bind]
          rfl
      | ok ref =>
          by_cases room : bindPlace c.binding (requestSrc req ref) < zbApsSrcBindingTableSize ∧
              c.binding.dstNElements < zbApsDstBindingTableSize
          · cases named : requestDst req g with
            | error stop =>
                cases stop with
                | fault => exact absurd named requestDst_ne_fault
                | assertion =>
                    refine Or.inl ?_
                    simp only [zbApsmeBindRequest, found, bind, Except.bind, if_pos room, named]
            | ok r =>
                obtain ⟨g', res⟩ := r
                cases res with
                | error status =>
                    refine Or.inr ⟨{ c with addr := g' }, .error status, ?_,
                      ⟨ok.table, ok.zero⟩, rfl⟩
                    simp only [zbApsmeBindRequest, found, bind, Except.bind, if_pos room, named]
                    rfl
                | ok dst =>
                    obtain ⟨ok', some_, added⟩ := addRecord_spec dst ok.table
                      (bindPlace_spec ok.table room.1) room.2
                    let t' := addRecord (requestSrc req ref) dst
                      (bindPlace c.binding (requestSrc req ref)) c.binding
                    have zero : StaleZero t' := fun empty =>
                      absurd empty (Nat.ne_of_gt some_)
                    refine Or.inr ⟨{ addr := g', binding := t' }, .ok (), ?_, ⟨ok', zero⟩, ?_⟩
                    · simp only [zbApsmeBindRequest, found, bind, Except.bind, if_pos room, named]
                      rfl
                    · exact ⟨_, by simp only [requestLink, found, named, Option.mem_def], added⟩
          · refine Or.inr ⟨{ c with addr := g }, .error .tableFull, ?_, ⟨ok.table, ok.zero⟩, rfl⟩
            simp only [zbApsmeBindRequest, found, bind, Except.bind, if_neg room]
            rfl

theorem unbind_outcome (ok : ContextOk c) (intact : UnbindIntact c (.unbind req)) :
    Outcome c (requestLink false req c.addr) (fun l link => l.filter (· ≠ link))
      (zbApsmeUnbindRequest req c) := by
  cases found : lookup req.srcAddr false c.addr with
  | error stop =>
      cases stop with
      | fault => exact absurd found lookup_ne_fault
      | assertion => exact Or.inl (by simp only [zbApsmeUnbindRequest, found, bind, Except.bind])
  | ok r =>
      obtain ⟨g, res⟩ := r
      cases res with
      | error status =>
          refine Or.inr ⟨{ c with addr := g }, .error .illegalRequest, ?_, ⟨ok.table, ok.zero⟩, rfl⟩
          simp only [zbApsmeUnbindRequest, found, bind, Except.bind]
          rfl
      | ok ref =>
          by_cases miss : apsFindSrcRef c.binding (requestSrc req ref) = 255
          · refine Or.inr ⟨{ c with addr := g }, .error .invalidBinding, ?_,
              ⟨ok.table, ok.zero⟩, rfl⟩
            simp only [zbApsmeUnbindRequest, found, bind, Except.bind, if_pos miss]
            rfl
          · cases named : requestDst req g with
            | error stop =>
                cases stop with
                | fault => exact absurd named requestDst_ne_fault
                | assertion =>
                    refine Or.inl ?_
                    simp only [zbApsmeUnbindRequest, found, bind, Except.bind, if_neg miss, named]
            | ok r =>
                obtain ⟨g', res⟩ := r
                cases res with
                | error status =>
                    refine Or.inr ⟨{ c with addr := g' }, .error status, ?_,
                      ⟨ok.table, ok.zero⟩, rfl⟩
                    simp only [zbApsmeUnbindRequest, found, bind, Except.bind, if_neg miss, named]
                    rfl
                | ok dst =>
                    have link : (requestSrc req ref, dst) ∈ requestLink false req c.addr := by
                      simp only [requestLink, found, named, Option.mem_def]
                    obtain ⟨t', removed, ok', zero', gone⟩ :
                        ∃ t', removeRecord (apsFindSrcRef c.binding (requestSrc req ref)) dst
                            c.binding = .ok t' ∧ BindingOk t' ∧ StaleZero t' ∧
                          links t' = (links c.binding).filter (· ≠ (requestSrc req ref, dst)) :=
                      removeRecord_found ok.table ok.zero miss fun empty =>
                        intact empty _ link
                    refine Or.inr ⟨{ addr := g', binding := t' }, .ok (), ?_, ⟨ok', zero'⟩,
                      _, link, gone⟩
                    simp only [zbApsmeUnbindRequest, found, bind, Except.bind, if_neg miss, named,
                      removed]
                    rfl

theorem outcome (ok : ContextOk c) {call : BindCall} (intact : UnbindIntact c call) :
    Outcome c (callLink c call) (fun l => linkStep l call) (bindCall c call) := by
  cases call with
  | bind req => exact bind_outcome ok
  | unbind req => exact unbind_outcome ok intact

/-- **One request refines the abstract step.** -/
theorem refines_call (ok : ContextOk c) {call : BindCall} (intact : UnbindIntact c call) :
    Refines c call := by
  rcases outcome ok intact with stop | ⟨c₁, status₁, eq, -, effect⟩
  · refine ⟨by simp [stop], fun c' status called => ?_⟩
    rw [stop] at called
    cases called
  · refine ⟨by simp [eq], fun c' status called => ?_⟩
    rw [eq] at called
    cases called
    exact effect

/-- **One request keeps the invariant.** -/
theorem contextOk_step (ok : ContextOk c) {call : BindCall} (intact : UnbindIntact c call)
    (taken : bindStep c call = some c') : ContextOk c' := by
  rcases outcome ok intact with stop | ⟨c₁, status₁, eq, ok₁, -⟩
  · simp only [bindStep, stop] at taken
    cases taken
  · simp only [bindStep, eq] at taken
    cases taken
    exact ok₁

end Requests

theorem contextOk_init (g : ZbAddrGlobals) : ContextOk ⟨g, .init⟩ where
  table := ⟨Nat.zero_le _, Nat.zero_le _, fun _ mem => (nomatch mem),
    fun _ lt => absurd lt (Nat.not_lt_zero _), List.nodup_nil⟩
  zero _ := rfl

/-- **The binding table refines the abstract binding set.**  In every run of
requests from the empty table that meet `UnbindIntact`, every request refines the
abstract step, and the table reached is in order. -/
theorem binding_of_run {g : ZbAddrGlobals} {calls : List BindCall}
    (along : Along bindStep UnbindIntact ⟨g, .init⟩ calls) :
    Along bindStep Refines ⟨g, .init⟩ calls ∧
      ∀ c, run bindStep ⟨g, .init⟩ calls = some c → BindingOk c.binding := by
  have keeps : ∀ c call c', ContextOk c → UnbindIntact c call → bindStep c call = some c' →
      ContextOk c' := fun _ _ _ ok intact taken => contextOk_step ok intact taken
  refine ⟨along_of_invariant keeps (fun _ _ ok intact => refines_call ok intact)
    (contextOk_init g) along, fun c ran => ?_⟩
  exact (run_invariant keeps (contextOk_init g) along ran).table

instance (c : BindContext) : (call : BindCall) → Decidable (UnbindIntact c call)
  | .bind _ => isTrue trivial
  | .unbind req => inferInstanceAs (Decidable (c.binding.srcNElements = 0 →
      ∀ link ∈ requestLink false req c.addr,
        ¬ (c.binding.srcTable 0 = link.1 ∧ c.binding.dstTable 0 = ⟨link.2, 0⟩)))

/-- A request to bind a device to a group. -/
def toGroup (cluster group : UInt16) : ZbApsmeBindingReq where
  srcAddr := Vector.replicate 8 7
  srcEndpoint := 1
  clusterid := cluster
  addrMode := 1
  dstAddrLong := Vector.replicate 8 0
  dstAddrShort := group
  dstEndpoint := 0

/-- Two sources, one of them with a link bound twice. -/
def bindAndUnbind : List BindCall :=
  [.bind (toGroup 6 100), .bind (toGroup 8 200), .bind (toGroup 6 100), .unbind (toGroup 6 100),
    .unbind (toGroup 6 100), .unbind (toGroup 8 200), .unbind (toGroup 6 100)]

theorem binding_of_bindAndUnbind :
    Along bindStep Refines ⟨.init, .init⟩ bindAndUnbind ∧
      ∀ c, run bindStep ⟨.init, .init⟩ bindAndUnbind = some c → BindingOk c.binding :=
  binding_of_run (by decide)

/-- A request that moves memory out of its array. -/
def faults (c : BindContext) (call : BindCall) : Bool :=
  match bindCall c call with
  | .error .fault => true
  | _ => false

/-- **Unbinding the only link twice faults.**  The second time the table is empty,
but the stale records at slot 0 still name the link. -/
theorem unbind_twice_faults :
    ¬ ∀ (g : ZbAddrGlobals) (calls : List BindCall), Along bindStep Refines ⟨g, .init⟩ calls ∧
      ∀ c, run bindStep ⟨g, .init⟩ calls = some c → BindingOk c.binding := by
  intro sound
  have after : (run bindStep ⟨.init, .init⟩ [.bind (toGroup 6 100), .unbind (toGroup 6 100)]).map
      (fun c => faults c (.unbind (toGroup 6 100))) = some true := by
    decide
  obtain ⟨c, ran, faulty⟩ := Option.map_eq_some_iff.1 after
  have along := (sound .init
    ([.bind (toGroup 6 100), .unbind (toGroup 6 100)] ++ [.unbind (toGroup 6 100)])).1
  have refines := ((along_append.1 along).2 c ran).1.1
  rw [faults] at faulty
  split at faulty
  · rename_i fault
    exact refines fault
  · cases faulty

end Zboss.Aps.BindLinks
