/-
# Common.AddressPairs -- the table as a map of pairs, and what each call does to it

`pairs g` is the abstract table: for each slot in use, the compressed long
address and the short address it holds.  Clocks and locks are not part of it
(`table` erases them), so a lookup leaves it as it was.  Adding a pair, deleting
one and writing one into an existing entry are each one update of the map; the
three lemmas `addrAdd_spec`, `zbAddressDelete_spec` and `setPair_spec` say so
together with what happens to the index, and `resolveRef_cases` says which entry
a pair goes to.
-/
import Mathlib
import Zboss.Theory.Directory
import Zboss.Common.AddressIndex

namespace Zboss.Common.AddressPairs

open Zboss.Theory.Table
open Zboss.Theory.Directory
open Zboss.Common.Types
open Zboss.Common.Address
open Zboss.Common.AddressIndex

set_option autoImplicit false

/-! ## Clocks and locks -/

/-- The table without its clocks and locks. -/
def table (g : ZbAddrGlobals) : ZbAddrGlobals :=
  { g with
    addrMap := fun r => { g.addrMap r with lockCnt := 0, clock := false }
    clockI := 0 }

theorem table_setEnt (g : ZbAddrGlobals) (ref : Nat) (f : ZbAddressMap → ZbAddressMap)
    (same : ∀ ent, { f ent with lockCnt := 0, clock := false } =
      { ent with lockCnt := 0, clock := false }) : table (g.setEnt ref f) = table g := by
  have ents : (table (g.setEnt ref f)).addrMap = (table g).addrMap := by
    funext r
    by_cases here : r = ref
    · subst here
      simp only [table, setEnt_self, same]
    · simp only [table, setEnt_of_ne g ref f here]
  exact congrArg (fun ents => { table g with addrMap := ents }) ents

/-- The table without its clocks. -/
def unclocked (g : ZbAddrGlobals) : ZbAddrGlobals :=
  { g with addrMap := fun r => { g.addrMap r with clock := false }, clockI := 0 }

theorem unclocked_setEnt (g : ZbAddrGlobals) (ref : Nat) (f : ZbAddressMap → ZbAddressMap)
    (same : ∀ ent, { f ent with clock := false } = { ent with clock := false }) :
    unclocked (g.setEnt ref f) = unclocked g := by
  have ents : (unclocked (g.setEnt ref f)).addrMap = (unclocked g).addrMap := by
    funext r
    by_cases here : r = ref
    · subst here
      simp only [unclocked, setEnt_self, same]
    · simp only [unclocked, setEnt_of_ne g ref f here]
  exact congrArg (fun ents => { unclocked g with addrMap := ents }) ents

theorem clockScan_unclocked (bound fuel : Nat) (g : ZbAddrGlobals) (cnt : Nat) :
    unclocked (clockScan bound fuel g cnt).1 = unclocked g := by
  induction fuel generalizing g cnt with
  | zero => rfl
  | succ fuel ih =>
      simp only [clockScan]
      split
      · split
        · split
          · exact unclocked_setEnt _ _ _ fun _ => rfl
          · exact ih _ _
        · exact ih _ _
      · rfl

theorem clockTick_unclocked (g : ZbAddrGlobals) : unclocked (clockTick g) = unclocked g := by
  have first := clockScan_unclocked zbIeeeAddrTableSize zbIeeeAddrTableSize g 0
  simp only [clockTick]
  split
  · rw [clockScan_unclocked]
    exact first
  · exact first

theorem clock_unclocked (g : ZbAddrGlobals) (ref : Nat) :
    unclocked (g.setEnt ref fun ent => { ent with clock := true }) = unclocked g :=
  unclocked_setEnt _ _ _ fun _ => rfl

theorem clockTick_table (g : ZbAddrGlobals) : table (clockTick g) = table g := by
  show table (unclocked (clockTick g)) = table (unclocked g)
  rw [clockTick_unclocked]

theorem zbAddressLock_table {g g' : ZbAddrGlobals} {ref : Nat}
    (locked : zbAddressLock ref g = some g') : table g' = table g := by
  simp only [zbAddressLock] at locked
  split at locked
  · cases locked
    exact table_setEnt _ _ _ fun _ => rfl
  · cases locked

theorem zbAddressUnlock_table {g g' : ZbAddrGlobals} {ref : Nat}
    (taken : zbAddressUnlock ref g = some g') : table g' = table g := by
  simp only [zbAddressUnlock] at taken
  split at taken
  · cases taken
    exact table_setEnt _ _ _ fun _ => rfl
  · cases taken

theorem clock_table (g : ZbAddrGlobals) (ref : Nat) :
    table (g.setEnt ref fun ent => { ent with clock := true }) = table g :=
  table_setEnt _ _ _ fun _ => rfl

/-! ## The pairs -/

/-- What a slot in use holds. -/
abbrev Pair := ZbIeeeAddrCompressed × UInt16

def pairs (g : ZbAddrGlobals) (r : Nat) : Option Pair :=
  if r < zbIeeeAddrTableSize ∧ (g.addrMap r).used = true then
    some ((g.addrMap r).ieeeAddr, (g.addrMap r).addr)
  else none

def manufacturers (g : ZbAddrGlobals) : (Nat → Bool) × (Nat → Vector UInt8 3) :=
  (g.usedManufacturer, g.devManufacturer)

section Pairs

variable {g g' : ZbAddrGlobals} {r ref : Nat} {pair : Pair}

theorem pairs_eq_some : pairs g r = some pair ↔
    r < zbIeeeAddrTableSize ∧ (g.addrMap r).used = true ∧
      (g.addrMap r).ieeeAddr = pair.1 ∧ (g.addrMap r).addr = pair.2 := by
  unfold pairs
  split
  · rename_i inUse
    simp only [Option.some.injEq, Prod.ext_iff, inUse, true_and]
  · rename_i free
    simp only [reduceCtorEq, false_iff]
    rintro ⟨inside, used, -⟩
    exact free ⟨inside, used⟩

theorem pairs_of_used (inside : r < zbIeeeAddrTableSize) (used : (g.addrMap r).used = true) :
    pairs g r = some ((g.addrMap r).ieeeAddr, (g.addrMap r).addr) :=
  if_pos ⟨inside, used⟩

theorem pairs_of_free (free : (g.addrMap r).used = false) : pairs g r = none :=
  if_neg fun inUse => by simp [free] at inUse

/-- An entry is listed in the index when its pair has a short address. -/
theorem indexed_iff : Indexed g r ↔ ∃ code a, pairs g r = some (code, a) ∧
    a ≠ zbUnknownShortAddr := by
  simp only [pairs_eq_some, Indexed]
  constructor
  · rintro ⟨inside, used, short⟩
    exact ⟨_, _, ⟨inside, used, rfl, rfl⟩, short⟩
  · rintro ⟨_, _, ⟨inside, used, -, rfl⟩, short⟩
    exact ⟨inside, used, short⟩

/-- What does not look at clocks and locks is the same for equal tables. -/
theorem table_congr {α : Type} (f : ZbAddrGlobals → α) (blind : ∀ g, f (table g) = f g)
    (same : table g' = table g) : f g' = f g :=
  (blind g').symm.trans ((congrArg f same).trans (blind g))

theorem pairs_congr (same : table g' = table g) : pairs g' = pairs g :=
  table_congr pairs (fun _ => rfl) same

theorem used_congr (same : table g' = table g) : (g'.addrMap r).used = (g.addrMap r).used :=
  table_congr (fun g => (g.addrMap r).used) (fun _ => rfl) same

theorem not_indexed_of_free (free : (g.addrMap r).used = false) : ¬ Indexed g r := fun listed =>
  absurd listed.2.1 (by simp [free])

theorem Indexed.lt (listed : Indexed g r) : r < zbIeeeAddrTableSize := listed.1

theorem shortIndex_congr (same : table g' = table g) (ix : ShortIndex g) : ShortIndex g' := by
  refine ix.transport (table_congr index (fun _ => rfl) same) (fun r _ => ?_) fun r => ?_
  · exact table_congr (fun g => shortKey g r) (fun _ => rfl) same
  · rw [indexed_iff, indexed_iff, pairs_congr same]

/-- Rewriting an entry in use. -/
theorem pairs_setEnt {f : ZbAddressMap → ZbAddressMap} (inside : ref < zbIeeeAddrTableSize)
    (used : (f (g.addrMap ref)).used = true) :
    pairs (g.setEnt ref f) =
      Function.update (pairs g) ref
        (some ((f (g.addrMap ref)).ieeeAddr, (f (g.addrMap ref)).addr)) := by
  funext r
  by_cases here : r = ref
  · subst here
    rw [Function.update_self, pairs_of_used inside (by rwa [setEnt_self]), setEnt_self]
  · rw [Function.update_of_ne here, pairs, setEnt_of_ne g ref f here, pairs]

/-- Taking an entry out of use. -/
theorem pairs_setEnt_free {f : ZbAddressMap → ZbAddressMap}
    (free : (f (g.addrMap ref)).used = false) :
    pairs (g.setEnt ref f) = Function.update (pairs g) ref none := by
  funext r
  by_cases here : r = ref
  · subst here
    rw [Function.update_self, pairs_of_free (by rwa [setEnt_self])]
  · rw [Function.update_of_ne here, pairs, setEnt_of_ne g ref f here, pairs]

end Pairs

/-! ## Compressing -/

section Compress

variable {g g' : ZbAddrGlobals} {ieee : ZbIeeeAddr} {code : ZbIeeeAddrCompressed}

/-- The scan ends at the manufacturer or passes all; a free index it reports is
free. -/
theorem manufacturerScan_spec (g : ZbAddrGlobals) (m : Vector UInt8 3) (cnt i freeI : Nat)
    (bound : i + cnt = zbDevManufactorerTableSize) :
    (((manufacturerScan g m cnt i freeI).1 < zbDevManufactorerTableSize ∧
        g.usedManufacturer (manufacturerScan g m cnt i freeI).1 = true ∧
        g.devManufacturer (manufacturerScan g m cnt i freeI).1 = m) ∨
      ((manufacturerScan g m cnt i freeI).1 = zbDevManufactorerTableSize ∧
        ∀ k, i ≤ k → k < zbDevManufactorerTableSize → g.usedManufacturer k = true →
          g.devManufacturer k ≠ m)) ∧
    ((manufacturerScan g m cnt i freeI).2 = freeI ∨
      ((manufacturerScan g m cnt i freeI).2 < zbDevManufactorerTableSize ∧
        g.usedManufacturer (manufacturerScan g m cnt i freeI).2 = false)) := by
  induction cnt generalizing i freeI with
  | zero => exact ⟨Or.inr ⟨bound, fun k lo hi => by omega⟩, Or.inl rfl⟩
  | succ cnt ih =>
      by_cases used : g.usedManufacturer i = true
      · by_cases same : g.devManufacturer i = m
        · rw [manufacturerScan, if_pos used, if_pos same]
          exact ⟨Or.inl ⟨by omega, used, same⟩, Or.inl rfl⟩
        · obtain ⟨stop, free⟩ := ih (i + 1) freeI (by omega)
          rw [manufacturerScan, if_pos used, if_neg same]
          refine ⟨stop.imp_right fun ⟨all, absent⟩ => ⟨all, fun k lo hi usedK => ?_⟩, free⟩
          rcases Nat.eq_or_lt_of_le lo with rfl | lt
          · exact same
          · exact absent k lt hi usedK
      · obtain ⟨stop, free⟩ := ih (i + 1) i (by omega)
        rw [manufacturerScan, if_neg used]
        constructor
        · refine stop.imp_right fun ⟨all, absent⟩ => ⟨all, fun k lo hi usedK => ?_⟩
          rcases Nat.eq_or_lt_of_le lo with rfl | lt
          · exact absurd usedK used
          · exact absent k lt hi usedK
        · refine Or.inr ?_
          rcases free with here | free
          · rw [here]
            exact ⟨by omega, by simpa using used⟩
          · exact free

/-- Compressing finds the manufacturer, or adds one that is not there. -/
theorem zbIeeeAddrCompress_cases (taken : zbIeeeAddrCompress ieee g = some (g', code)) :
    code.deviceId = ZbIeeeAddr.deviceId ieee ∧ code.devManufacturer < zbDevManufactorerTableSize ∧
      (g.usedManufacturer code.devManufacturer = true ∧
          g.devManufacturer code.devManufacturer = ZbIeeeAddr.manufacturer ieee ∧ g' = g ∨
        g.usedManufacturer code.devManufacturer = false ∧
          (∀ k, k < zbDevManufactorerTableSize → g.usedManufacturer k = true →
            g.devManufacturer k ≠ ZbIeeeAddr.manufacturer ieee) ∧
          g' = { g with
            usedManufacturer := Function.update g.usedManufacturer code.devManufacturer true
            devManufacturer := Function.update g.devManufacturer code.devManufacturer
              (ZbIeeeAddr.manufacturer ieee) }) := by
  obtain ⟨stop, free⟩ := manufacturerScan_spec g (ZbIeeeAddr.manufacturer ieee)
    zbDevManufactorerTableSize 0 zbDevManufactorerTableSize (Nat.zero_add _)
  simp only [zbIeeeAddrCompress] at taken
  rcases stop with ⟨inside, used, same⟩ | ⟨all, absent⟩
  · rw [if_neg (Nat.ne_of_lt inside), if_pos (Nat.ne_of_lt inside)] at taken
    simp only [Option.some.injEq, Prod.mk.injEq] at taken
    obtain ⟨rfl, rfl⟩ := taken
    refine ⟨rfl, inside, Or.inl ⟨used, same, ?_⟩⟩
    rw [Function.update_eq_self_iff.2 used.symm, Function.update_eq_self_iff.2 same.symm]
  · rw [if_pos all] at taken
    split at taken
    · rename_i found
      simp only [Option.some.injEq, Prod.mk.injEq] at taken
      obtain ⟨rfl, rfl⟩ := taken
      have isFree := free.resolve_left found
      exact ⟨rfl, isFree.1, Or.inr ⟨isFree.2, fun k => absent k (Nat.zero_le k), rfl⟩⟩
    · cases taken

/-- Compressing leaves the entries and the index alone. -/
theorem zbIeeeAddrCompress_frame (taken : zbIeeeAddrCompress ieee g = some (g', code)) :
    g'.addrMap = g.addrMap ∧ g'.shortSorted = g.shortSorted ∧
      g'.nSortedElements = g.nSortedElements ∧ g'.nElements = g.nElements := by
  obtain ⟨-, -, ⟨-, -, rfl⟩ | ⟨-, -, rfl⟩⟩ := zbIeeeAddrCompress_cases taken <;>
    exact ⟨rfl, rfl, rfl, rfl⟩

end Compress

/-! ## The effect of the calls -/

/-- A call took the table from `g` to `g'`: its pairs are now `p`, its counter
`count`, the index is right and no manufacturer was touched. -/
structure Becomes (g g' : ZbAddrGlobals) (p : Nat → Option Pair) (count : Nat) : Prop where
  index : ShortIndex g'
  pairs : pairs g' = p
  count : g'.nElements = count
  manufacturers : manufacturers g' = manufacturers g

section Effects

variable {g : ZbAddrGlobals}

theorem Becomes.congr {g₁ g₂ : ZbAddrGlobals} {p : Nat → Option Pair} {count : Nat}
    (effect : Becomes g g₁ p count) (same : table g₂ = table g₁) : Becomes g g₂ p count where
  index := shortIndex_congr same effect.index
  pairs := (pairs_congr same).trans effect.pairs
  count := (table_congr ZbAddrGlobals.nElements (fun _ => rfl) same).trans effect.count
  manufacturers :=
    (table_congr AddressPairs.manufacturers (fun _ => rfl) same).trans effect.manufacturers

theorem Becomes.refl (ix : ShortIndex g) :
    Becomes g g (AddressPairs.pairs g) g.nElements :=
  ⟨ix, rfl, rfl, rfl⟩

theorem lockIf_table {lock : Bool} {r r' : ZbAddrGlobals × Except ZbRet Nat}
    (locked : lockIf lock r = some r') : table r'.1 = table r.1 ∧ r'.2 = r.2 := by
  obtain ⟨g, res⟩ := r
  cases lock with
  | false => cases locked; exact ⟨rfl, rfl⟩
  | true =>
      cases res with
      | error e => cases locked; exact ⟨rfl, rfl⟩
      | ok ref =>
          simp only [lockIf, Option.map_eq_some_iff] at locked
          obtain ⟨g₁, taken, rfl⟩ := locked
          exact ⟨zbAddressLock_table taken, rfl⟩

/-- Writing a pair into a free entry: nothing in use changes. -/
theorem writeEnt_spec {i : Nat} (ix : ShortIndex g) (free : (g.addrMap i).used = false)
    (ieee : Option ZbIeeeAddrCompressed) (a : UInt16) :
    IndexOf (writeEnt i ieee a g) (Indexed g) ∧
      ((writeEnt i ieee a g).addrMap i).used = false ∧
      pairs (writeEnt i ieee a g) = Function.update (pairs g) i none := by
  have out : ¬ Indexed g i := not_indexed_of_free free
  refine ⟨ix.transport rfl (fun r mem => ?_) fun _ => Iff.rfl, ?_, ?_⟩
  · have ne : r ≠ i := fun here => out (here ▸ (ix.members r).1 mem)
    exact congrArg (fun ent : ZbAddressMap => ent.addr.toNat) (setEnt_of_ne _ _ _ ne)
  · simpa only [writeEnt, setEnt_self] using free
  · exact pairs_setEnt_free (f := fun ent =>
      { ent with addr := a, clock := true, ieeeAddr := ieee.getD .zero }) free

/-- Putting a written and listed entry in use. -/
theorem useEnt_spec {i : Nat} {P : Nat → Prop} (ix : IndexOf g P) (inside : i < zbIeeeAddrTableSize)
    (free : (g.addrMap i).used = false)
    (set : ∀ r, P r ↔ r = i ∧ (g.addrMap i).addr ≠ zbUnknownShortAddr ∨ Indexed g r) :
    ShortIndex (useEnt i g) ∧
      pairs (useEnt i g) =
        Function.update (pairs g) i (some ((g.addrMap i).ieeeAddr, (g.addrMap i).addr)) ∧
      (useEnt i g).nElements = g.nElements + 1 := by
  have after : pairs (useEnt i g) =
      Function.update (pairs g) i (some ((g.addrMap i).ieeeAddr, (g.addrMap i).addr)) :=
    pairs_setEnt inside rfl
  refine ⟨ix.transport rfl (fun r _ => ?_) fun r => ?_, after, ?_⟩
  · by_cases here : r = i
    · subst here
      simp only [shortKey, useEnt, setEnt_self]
    · exact congrArg (fun ent : ZbAddressMap => ent.addr.toNat) (setEnt_of_ne _ _ _ here)
  · rw [set, indexed_iff (g := useEnt i g), after]
    by_cases here : r = i
    · subst here
      simp [not_indexed_of_free free]
    · rw [Function.update_of_ne here, ← indexed_iff]
      simp [here]
  · simp [useEnt, free]

/-- **A new pair** goes to a free slot, or the table is full. -/
theorem addrAdd_spec (ix : ShortIndex g) (ieee : Option ZbIeeeAddrCompressed) (a : UInt16) :
    (addrAdd ieee a g = some (g, .error .overflow)) ∨
      ∃ i g', i < zbIeeeAddrTableSize ∧ (g.addrMap i).used = false ∧
        addrAdd ieee a g = some (g', .ok i) ∧
        Becomes g g' (Function.update (pairs g) i (some (ieee.getD .zero, a)))
          (g.nElements + 1) := by
  have start : (ieee.map zbAddressCompressedIeeeHash).getD 0 < zbIeeeAddrTableSize := by
    cases ieee with
    | none => decide
    | some code => exact Nat.mod_lt _ (by decide)
  cases found : probe (fun i => !(g.addrMap i).used) zbIeeeAddrTableSize zbIeeeAddrTableSize
      ((ieee.map zbAddressCompressedIeeeHash).getD 0) with
  | none => exact Or.inl (by simp only [addrAdd, found])
  | some i =>
      obtain ⟨inside, unused⟩ := probe_some start found
      have free : (g.addrMap i).used = false := by simpa using unused
      have ticked := clockTick_table g
      obtain ⟨ixWritten, freeWritten, pairsWritten⟩ := writeEnt_spec (shortIndex_congr ticked ix)
        ((used_congr ticked).trans free) ieee a
      have manu : manufacturers (writeEnt i ieee a (clockTick g)) = manufacturers g := by
        show manufacturers (clockTick g) = manufacturers g
        exact table_congr manufacturers (fun _ => rfl) ticked
      have count : (writeEnt i ieee a (clockTick g)).nElements = g.nElements := by
        show (clockTick g).nElements = g.nElements
        exact table_congr ZbAddrGlobals.nElements (fun _ => rfl) ticked
      have ent : ((writeEnt i ieee a (clockTick g)).addrMap i).ieeeAddr = ieee.getD .zero ∧
          ((writeEnt i ieee a (clockTick g)).addrMap i).addr = a := by
        simp only [writeEnt, setEnt_self, and_self]
      have same : ∀ r, Indexed (clockTick g) r ↔ Indexed (writeEnt i ieee a (clockTick g)) r := by
        intro r
        rw [indexed_iff, indexed_iff, pairsWritten]
        by_cases here : r = i
        · subst here
          simp [pairs_of_free ((used_congr ticked).trans free)]
        · rw [Function.update_of_ne here]
      rw [pairs_congr ticked] at pairsWritten
      refine Or.inr ⟨i, ?_⟩
      by_cases short : a = zbUnknownShortAddr
      · obtain ⟨ixUsed, pairsUsed, countUsed⟩ := useEnt_spec ixWritten inside freeWritten fun r => by
          rw [same r, ent.2]
          simp [short]
        refine ⟨useEnt i (writeEnt i ieee a (clockTick g)), inside, free, ?_, ixUsed, ?_, ?_, manu⟩
        · simp [addrAdd, found, listEnt, short]
        · rw [pairsUsed, pairsWritten, Function.update_idem, ent.1, ent.2]
        · rw [countUsed, count]
      · have out : ¬ Indexed (clockTick g) i :=
          not_indexed_of_free ((used_congr ticked).trans free)
        obtain ⟨sorted, added, ixListed⟩ := addShortSorted_spec ixWritten
          (ixWritten.room (fun r => Indexed.lt) inside out) out ent.2
        obtain ⟨ixUsed, pairsUsed, countUsed⟩ := useEnt_spec ixListed inside freeWritten fun r => by
          rw [same r]
          simp [ent.2, short]
          rfl
        refine ⟨_, inside, free, ?_, ixUsed, ?_, ?_, manu⟩
        · simp [addrAdd, found, listEnt, short, freeWritten, added]
        · rw [pairsUsed]
          show Function.update (pairs (writeEnt i ieee a (clockTick g))) i (some (_, _)) = _
          rw [pairsWritten, Function.update_idem, ent.1, ent.2]
        · rw [countUsed]
          exact congrArg (· + 1) count

theorem zbAddressDelete_of_ne {ref r : Nat} (ne : r ≠ ref) :
    (zbAddressDelete ref g).addrMap r = g.addrMap r :=
  setEnt_of_ne (delShortSorted ref g) ref (fun ent => { ent with used := false }) ne

/-- **Deleting an entry** in use. -/
theorem zbAddressDelete_spec {ref : Nat} (ix : ShortIndex g) (intact : DelIntact g ref) :
    Becomes g (zbAddressDelete ref g) (Function.update (pairs g) ref none)
      (decUshort g.nElements) := by
  have ixDel := ix.del (fun r => Indexed.lt) intact
  have after : pairs (zbAddressDelete ref g) = Function.update (pairs g) ref none :=
    pairs_setEnt_free (g := delShortSorted ref g) (f := fun ent => { ent with used := false }) rfl
  refine ⟨?_, after, rfl, rfl⟩
  refine ixDel.transport rfl (fun r mem => ?_) fun r => ?_
  · have ne : r ≠ ref := ((ixDel.members r).1 mem).1
    exact congrArg (fun ent : ZbAddressMap => ent.addr.toNat) (zbAddressDelete_of_ne ne)
  · rw [indexed_iff, indexed_iff, after]
    by_cases here : r = ref
    · subst here
      simp
    · rw [Function.update_of_ne here]
      simp [here]

/-- Moving an entry in use to another short address. -/
theorem relist_spec {ref : Nat} (ix : ShortIndex g) (inside : ref < zbIeeeAddrTableSize)
    (used : (g.addrMap ref).used = true) {a : UInt16} (short : a ≠ zbUnknownShortAddr)
    (intact : (g.addrMap ref).addr ≠ a → DelIntact g ref) :
    ∃ g', relist ref a g = some g' ∧
      Becomes g g' (Function.update (pairs g) ref (some ((g.addrMap ref).ieeeAddr, a)))
        g.nElements := by
  by_cases moved : (g.addrMap ref).addr = a
  · refine ⟨g, by simp only [relist, moved, ne_eq, not_true_eq_false, if_false], ix, ?_, rfl, rfl⟩
    rw [← moved, ← pairs_of_used inside used, Function.update_eq_self]
  · let unlisted := if (g.addrMap ref).addr ≠ zbUnknownShortAddr then delShortSorted ref g else g
    have ents : unlisted.addrMap = g.addrMap := by
      unfold unlisted
      split <;> rfl
    have ixUnlisted : IndexOf unlisted fun r => r ≠ ref ∧ Indexed g r := by
      unfold unlisted
      split
      · exact ix.del (fun r => Indexed.lt) (intact moved)
      · rename_i absent
        refine ix.transport rfl (fun _ _ => rfl) fun r => ⟨fun listed => ⟨?_, listed⟩, And.right⟩
        rintro rfl
        exact absent listed.2.2
    let written := unlisted.setEnt ref fun ent => { ent with addr := a }
    have ixWritten : IndexOf written fun r => r ≠ ref ∧ Indexed g r := by
      refine ixUnlisted.transport rfl (fun r mem => ?_) fun _ => Iff.rfl
      have ne : r ≠ ref := ((ixUnlisted.members r).1 mem).1
      exact congrArg (fun ent : ZbAddressMap => ent.addr.toNat) (setEnt_of_ne _ _ _ ne)
    have ent : (written.addrMap ref).addr = a := by simp only [written, setEnt_self]
    have room : written.nSortedElements < zbIeeeAddrTableSize :=
      ixWritten.room (fun r listed => Indexed.lt listed.2) inside fun listed => listed.1 rfl
    obtain ⟨sorted, added, ixListed⟩ := addShortSorted_spec ixWritten room
      (fun listed => listed.1 rfl) ent
    have after : pairs { written with
        shortSorted := sorted, nSortedElements := written.nSortedElements + 1 } =
        Function.update (pairs g) ref (some ((g.addrMap ref).ieeeAddr, a)) := by
      have same : pairs unlisted = pairs g := by
        funext r
        simp only [pairs, ents]
      have rewritten := pairs_setEnt (g := unlisted) (f := fun ent => { ent with addr := a })
        inside (by rw [ents]; exact used)
      rw [same, ents] at rewritten
      exact rewritten
    refine ⟨_, ?_, ?_, after, ?_, ?_⟩
    · simp only [relist, ne_eq, moved, not_false_eq_true, if_true]
      exact added
    · refine ixListed.transport rfl (fun _ _ => rfl) fun r => ?_
      rw [indexed_iff, indexed_iff, after]
      by_cases here : r = ref
      · subst here
        simp [short]
      · rw [Function.update_of_ne here]
        simp [here]
    · show unlisted.nElements = g.nElements
      unfold unlisted
      split <;> rfl
    · show manufacturers unlisted = manufacturers g
      unfold unlisted
      split <;> rfl

/-- **Writing a pair** into an entry in use. -/
theorem setPair_spec {ref : Nat} (ix : ShortIndex g) (inside : ref < zbIeeeAddrTableSize)
    (used : (g.addrMap ref).used = true) (code : ZbIeeeAddrCompressed) {a : UInt16}
    (short : a ≠ zbUnknownShortAddr) (intact : (g.addrMap ref).addr ≠ a → DelIntact g ref) :
    ∃ g', setPair ref code a g = some g' ∧
      Becomes g g' (Function.update (pairs g) ref (some (code, a))) g.nElements := by
  let coded := g.setEnt ref fun ent => { ent with ieeeAddr := code }
  have pairsCoded : pairs coded =
      Function.update (pairs g) ref (some (code, (g.addrMap ref).addr)) :=
    pairs_setEnt inside used
  have entCoded : coded.addrMap ref = { g.addrMap ref with ieeeAddr := code } := setEnt_self ..
  have addrs : ∀ r, (coded.addrMap r).addr = (g.addrMap r).addr := by
    intro r
    by_cases here : r = ref
    · rw [here, entCoded]
    · exact congrArg ZbAddressMap.addr (setEnt_of_ne _ _ _ here)
  have ixCoded : ShortIndex coded := by
    refine ix.transport rfl (fun r _ => congrArg UInt16.toNat (addrs r)) fun r => ?_
    by_cases here : r = ref
    · simp only [Indexed, here, entCoded]
    · simp only [Indexed, coded, setEnt_of_ne _ _ _ here]
  obtain ⟨g', relisted, effect⟩ := relist_spec (g := coded) ixCoded inside (by rw [entCoded]; exact used)
    short (fun moved => intact (by rwa [addrs] at moved))
  refine ⟨g'.setEnt ref fun ent => { ent with clock := true }, ?_, ?_⟩
  · show ((relist ref a coded).bind fun g => some _) = _
    rw [relisted]
    rfl
  · have final := Becomes.congr effect (clock_table g' ref)
    refine ⟨final.index, ?_, final.count, final.manufacturers⟩
    rw [final.pairs, pairsCoded, Function.update_idem, entCoded]

/-- Which entry a pair goes to. -/
theorem resolveRef_cases {fs fl found : Option Nat} {g' : ZbAddrGlobals}
    (taken : resolveRef fs fl g = some (g', found)) :
    fs = none ∧ fl = none ∧ found = none ∧ g' = g ∨
      (∃ ref, found = some ref ∧ g' = g ∧
        (fs = some ref ∧ fl = some ref ∨ fs = some ref ∧ fl = none ∨ fs = none ∧ fl = some ref)) ∨
      ∃ ref refLong, fs = some ref ∧ fl = some refLong ∧ ref ≠ refLong ∧
        ((g.addrMap ref).lockCnt = 0 ∧ found = some refLong ∧ g' = zbAddressDelete ref g ∨
          (g.addrMap ref).lockCnt ≠ 0 ∧ (g.addrMap refLong).lockCnt = 0 ∧ found = some ref ∧
            g' = zbAddressDelete refLong g) := by
  cases fs with
  | none =>
      cases fl with
      | none => cases taken; exact Or.inl ⟨rfl, rfl, rfl, rfl⟩
      | some refLong =>
          cases taken
          exact Or.inr (Or.inl ⟨refLong, rfl, rfl, Or.inr (Or.inr ⟨rfl, rfl⟩)⟩)
  | some ref =>
      cases fl with
      | none => cases taken; exact Or.inr (Or.inl ⟨ref, rfl, rfl, Or.inr (Or.inl ⟨rfl, rfl⟩)⟩)
      | some refLong =>
          simp only [resolveRef] at taken
          split at taken
          · rename_i ne
            refine Or.inr (Or.inr ⟨ref, refLong, rfl, rfl, ne, ?_⟩)
            split at taken
            · rename_i unlocked
              cases taken
              exact Or.inl ⟨unlocked, rfl, rfl⟩
            · rename_i locked
              split at taken
              · rename_i unlocked
                cases taken
                exact Or.inr ⟨locked, unlocked, rfl, rfl⟩
              · cases taken
          · rename_i same
            obtain rfl : ref = refLong := not_not.1 same
            cases taken
            exact Or.inr (Or.inl ⟨ref, rfl, rfl, Or.inl ⟨rfl, rfl⟩⟩)

end Effects

end Zboss.Common.AddressPairs
