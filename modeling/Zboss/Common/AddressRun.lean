/-
# Common.AddressRun -- histories of the table, and its short-address index

`zbAddressByIeee_cases`, `zbAddressByShort_cases` and `zbAddressUpdate_cases` say
once what each call can do.  From them `shortIndex_step`: a call keeps the index
under `IndexIntact`, the condition that no deletion from the sorted array meets a
stale copy of the deleted reference right behind the live part.
`shortIndex_of_run` carries this to every history, and
`shortIndexSound_of` reads it as the exactness of the search.

Pole: `stale_copy_drops_entry`, three calls after which an entry in use is not
listed any more.
-/
import Mathlib
import Zboss.Theory.Run
import Zboss.Common.AddressPairs

namespace Zboss.Common.AddressRun

open Zboss.Theory.Run
open Zboss.Theory.Table
open Zboss.Common.Types
open Zboss.Common.Address
open Zboss.Common.AddressIndex
open Zboss.Common.AddressPairs

set_option autoImplicit false

/-! ## What the calls can do -/

section Cases

variable {g g' : ZbAddrGlobals} {ieee : ZbIeeeAddr} {a : UInt16} {create lock : Bool}
  {res : Except ZbRet Nat}

/-- A search by long address finds an entry in use with that address. -/
theorem ieeeSearch_eq_some {code : ZbIeeeAddrCompressed} {r : Nat}
    (found : ieeeSearch g code = some r) : ∃ a, pairs g r = some (code, a) := by
  obtain ⟨inside, holds⟩ := probe_some (Nat.mod_lt _ (by decide)) found
  simp only [Bool.and_eq_true, decide_eq_true_eq] at holds
  exact ⟨_, pairs_eq_some.2 ⟨inside, holds.1, holds.2, rfl⟩⟩

theorem ieeeSearch_eq_none {code : ZbIeeeAddrCompressed} (failed : ieeeSearch g code = none)
    (r : Nat) (a : UInt16) : pairs g r ≠ some (code, a) := by
  intro there
  obtain ⟨inside, used, same, -⟩ := pairs_eq_some.1 there
  have rejected := (probe_eq_none_iff (Nat.mod_lt _ (by decide))).1 failed r inside
  simp [used, same] at rejected

theorem zbAddressByIeee_split (taken : zbAddressByIeee ieee create lock g = some (g', res)) :
    ∃ g₁ code r, zbIeeeAddrCompress ieee g = some (g₁, code) ∧ lockIf lock r = some (g', res) ∧
      ((∃ ref, ieeeSearch g₁ code = some ref ∧
          r = (g₁.setEnt ref fun ent => { ent with clock := true }, .ok ref)) ∨
        (ieeeSearch g₁ code = none ∧ create = false ∧ r = (g₁, .error .notFound)) ∨
        (ieeeSearch g₁ code = none ∧ create = true ∧
          addrAdd (some code) zbUnknownShortAddr g₁ = some r)) := by
  simp only [zbAddressByIeee, Option.bind_eq_bind, Option.bind_eq_some_iff] at taken
  obtain ⟨⟨g₁, code⟩, compressed, r, looked, locked⟩ := taken
  refine ⟨g₁, code, r, compressed, locked, ?_⟩
  dsimp only at looked
  split at looked
  · rename_i ref found
    cases looked
    exact Or.inl ⟨ref, found, rfl⟩
  · rename_i failed
    split at looked
    · rename_i creating
      exact Or.inr (Or.inr ⟨failed, creating, looked⟩)
    · rename_i creating
      cases looked
      exact Or.inr (Or.inl ⟨failed, by simpa using creating, rfl⟩)

theorem zbAddressByShort_split (taken : zbAddressByShort a create lock g = some (g', res)) :
    ∃ r, lockIf lock r = some (g', res) ∧
      ((∃ ref, shortSearch g a = some ref ∧
          r = (g.setEnt ref fun ent => { ent with clock := true }, .ok ref)) ∨
        (shortSearch g a = none ∧ create = false ∧ r = (g, .error .notFound)) ∨
        (shortSearch g a = none ∧ create = true ∧ addrAdd none a g = some r)) := by
  simp only [zbAddressByShort, Option.bind_eq_bind, Option.bind_eq_some_iff] at taken
  obtain ⟨r, looked, locked⟩ := taken
  refine ⟨r, locked, ?_⟩
  split at looked
  · rename_i ref found
    cases looked
    exact Or.inl ⟨ref, found, rfl⟩
  · rename_i failed
    split at looked
    · rename_i creating
      exact Or.inr (Or.inr ⟨failed, creating, looked⟩)
    · rename_i creating
      cases looked
      exact Or.inr (Or.inl ⟨failed, by simpa using creating, rfl⟩)

theorem zbAddressUpdate_split (taken : zbAddressUpdate ieee a lock g = some (g', res)) :
    ∃ g₁ code g₂ found r, zbIeeeAddrCompress ieee g = some (g₁, code) ∧
      resolveRef (shortSearch g₁ a) (ieeeSearch g₁ code) g₁ = some (g₂, found) ∧
      lockIf lock r = some (g', res) ∧
      ((∃ ref g₃, found = some ref ∧ setPair ref code a g₂ = some g₃ ∧ r = (g₃, .ok ref)) ∨
        (found = none ∧ addrAdd (some code) a g₂ = some r)) := by
  simp only [zbAddressUpdate, Option.bind_eq_bind, Option.bind_eq_some_iff] at taken
  obtain ⟨⟨g₁, code⟩, compressed, ⟨g₂, found⟩, resolved, r, written, locked⟩ := taken
  refine ⟨g₁, code, g₂, found, r, compressed, resolved, locked, ?_⟩
  dsimp only at written
  cases found with
  | some ref =>
      obtain ⟨g₃, set, rfl⟩ := Option.map_eq_some_iff.1 written
      exact Or.inl ⟨ref, g₃, rfl, set, rfl⟩
  | none => exact Or.inr ⟨rfl, written⟩

theorem zbAddressByIeee_cases (taken : zbAddressByIeee ieee create lock g = some (g', res)) :
    ∃ g₁ code, zbIeeeAddrCompress ieee g = some (g₁, code) ∧
      ((∃ ref, ieeeSearch g₁ code = some ref ∧ table g' = table g₁ ∧ res = .ok ref) ∨
        (ieeeSearch g₁ code = none ∧ create = false ∧ g' = g₁ ∧ res = .error .notFound) ∨
        (ieeeSearch g₁ code = none ∧ create = true ∧
          ∃ g₂, addrAdd (some code) zbUnknownShortAddr g₁ = some (g₂, res) ∧
            table g' = table g₂)) := by
  obtain ⟨g₁, code, r, compressed, locked, looked⟩ := zbAddressByIeee_split taken
  obtain ⟨tables, same⟩ := lockIf_table locked
  dsimp only at tables same
  refine ⟨g₁, code, compressed, ?_⟩
  rcases looked with ⟨ref, found, rfl⟩ | ⟨failed, still, rfl⟩ | ⟨failed, creating, added⟩
  · exact Or.inl ⟨ref, found, tables.trans (clock_table g₁ ref), same⟩
  · refine Or.inr (Or.inl ⟨failed, still, ?_, same⟩)
    cases lock <;> (cases locked; rfl)
  · cases same
    exact Or.inr (Or.inr ⟨failed, creating, r.1, added, tables⟩)

theorem zbAddressByShort_cases (taken : zbAddressByShort a create lock g = some (g', res)) :
    (∃ ref, shortSearch g a = some ref ∧ table g' = table g ∧ res = .ok ref) ∨
      (shortSearch g a = none ∧ create = false ∧ g' = g ∧ res = .error .notFound) ∨
      (shortSearch g a = none ∧ create = true ∧
        ∃ g₂, addrAdd none a g = some (g₂, res) ∧ table g' = table g₂) := by
  obtain ⟨r, locked, looked⟩ := zbAddressByShort_split taken
  obtain ⟨tables, same⟩ := lockIf_table locked
  dsimp only at tables same
  rcases looked with ⟨ref, found, rfl⟩ | ⟨failed, still, rfl⟩ | ⟨failed, creating, added⟩
  · exact Or.inl ⟨ref, found, tables.trans (clock_table g ref), same⟩
  · refine Or.inr (Or.inl ⟨failed, still, ?_, same⟩)
    cases lock <;> (cases locked; rfl)
  · cases same
    exact Or.inr (Or.inr ⟨failed, creating, r.1, added, tables⟩)

theorem zbAddressUpdate_cases (taken : zbAddressUpdate ieee a lock g = some (g', res)) :
    ∃ g₁ code g₂ found, zbIeeeAddrCompress ieee g = some (g₁, code) ∧
      resolveRef (shortSearch g₁ a) (ieeeSearch g₁ code) g₁ = some (g₂, found) ∧
      ((∃ ref g₃, found = some ref ∧ setPair ref code a g₂ = some g₃ ∧ table g' = table g₃ ∧
          res = .ok ref) ∨
        (found = none ∧ ∃ g₃, addrAdd (some code) a g₂ = some (g₃, res) ∧
          table g' = table g₃)) := by
  obtain ⟨g₁, code, g₂, found, r, compressed, resolved, locked, written⟩ :=
    zbAddressUpdate_split taken
  obtain ⟨tables, same⟩ := lockIf_table locked
  dsimp only at tables same
  refine ⟨g₁, code, g₂, found, compressed, resolved, ?_⟩
  rcases written with ⟨ref, g₃, hit, set, rfl⟩ | ⟨missed, added⟩
  · exact Or.inl ⟨ref, g₃, hit, set, tables, same⟩
  · cases same
    exact Or.inr ⟨missed, r.1, added, tables⟩

end Cases

/-! ## The index over a history -/

/-- Two deletions in a row: after that of `ref`, the byte behind the live part is
the old one, unless `ref` was listed last. -/
def SecondIntact (g : ZbAddrGlobals) (ref refLong : Nat) : Prop :=
  refLong ∈ index g → shortSortedAt g g.nSortedElements ≠ refLong ∨
    g.shortSorted (g.nSortedElements - 1) = refLong ∨ g.shortSorted (g.nSortedElements - 1) = ref

/-- The condition for a pair whose halves are held by two entries: one is
deleted, and the other one may lose its old short address. -/
def ConflictIntact (g : ZbAddrGlobals) (ref refLong : Nat) : Prop :=
  ((g.addrMap ref).lockCnt = 0 → DelIntact g ref ∧ SecondIntact g ref refLong) ∧
    ((g.addrMap ref).lockCnt ≠ 0 → (g.addrMap refLong).lockCnt = 0 → DelIntact g refLong)

/-- The condition for an update: it takes an entry found by its long address out
of the sorted array, or resolves a conflict. -/
def UpdateIntact (g : ZbAddrGlobals) (ieee : ZbIeeeAddr) (a : UInt16) : Prop :=
  ∀ code ∈ (zbIeeeAddrCompress ieee g).map Prod.snd, ∀ refLong ∈ ieeeSearch g code,
    (shortSearch g a = none → DelIntact g refLong) ∧
      ∀ ref ∈ shortSearch g a, ref ≠ refLong → ConflictIntact g ref refLong

/-- **The condition under which a call keeps the index.** -/
def IndexIntact (g : ZbAddrGlobals) : AddressCall → Prop
  | .update ieee a _ => UpdateIntact g ieee a
  | .delete ref => DelIntact g ref
  | _ => True

instance (g : ZbAddrGlobals) (ref : Nat) : Decidable (DelIntact g ref) :=
  inferInstanceAs (Decidable (_ → _ ∨ _))

instance (g : ZbAddrGlobals) (ref refLong : Nat) : Decidable (SecondIntact g ref refLong) :=
  inferInstanceAs (Decidable (_ → _ ∨ _ ∨ _))

instance (g : ZbAddrGlobals) (ref refLong : Nat) : Decidable (ConflictIntact g ref refLong) :=
  inferInstanceAs (Decidable ((_ → _ ∧ _) ∧ (_ → _ → _)))

instance (g : ZbAddrGlobals) (ieee : ZbIeeeAddr) (a : UInt16) : Decidable (UpdateIntact g ieee a) :=
  inferInstanceAs (Decidable (∀ code ∈ (zbIeeeAddrCompress ieee g).map Prod.snd,
    ∀ refLong ∈ ieeeSearch g code, (shortSearch g a = none → DelIntact g refLong) ∧
      ∀ ref ∈ shortSearch g a, ref ≠ refLong → ConflictIntact g ref refLong))

instance (g : ZbAddrGlobals) : (call : AddressCall) → Decidable (IndexIntact g call)
  | .update ieee a _ => inferInstanceAs (Decidable (UpdateIntact g ieee a))
  | .delete ref => inferInstanceAs (Decidable (DelIntact g ref))
  | .byIeee .. => isTrue trivial
  | .byShort .. => isTrue trivial

instance (g : ZbAddrGlobals) : (call : AddressCall) → Decidable (Documented g call)
  | .byIeee .. => inferInstanceAs (Decidable (_ ≠ _))
  | .byShort .. => inferInstanceAs (Decidable (_ ≠ _))
  | .update .. => inferInstanceAs (Decidable (_ ∧ _))
  | .delete _ => inferInstanceAs (Decidable (_ ∧ _))

section Steps

variable {g g' : ZbAddrGlobals}

theorem shortIndex_compress {ieee : ZbIeeeAddr} {code : ZbIeeeAddrCompressed}
    (ix : ShortIndex g) (taken : zbIeeeAddrCompress ieee g = some (g', code)) : ShortIndex g' := by
  obtain ⟨ents, sorted, n, -⟩ := zbIeeeAddrCompress_frame taken
  refine ix.transport (by rw [index, index, sorted, n]) (fun r _ => ?_) fun r => ?_
  · rw [shortKey, shortKey, ents]
  · rw [Indexed, Indexed, ents]

theorem shortIndex_addrAdd {ieee : Option ZbIeeeAddrCompressed} {a : UInt16}
    {res : Except ZbRet Nat} (ix : ShortIndex g) (taken : addrAdd ieee a g = some (g', res)) :
    ShortIndex g' := by
  rcases addrAdd_spec ix ieee a with full | ⟨i, g₂, -, -, added, effect⟩
  · rw [full] at taken
    cases taken
    exact ix
  · rw [added] at taken
    cases taken
    exact effect.index

/-- Compressing does not touch what the condition reads. -/
theorem updateIntact_compress {ieee : ZbIeeeAddr} {a : UInt16} {code : ZbIeeeAddrCompressed}
    (intact : UpdateIntact g ieee a) (compressed : zbIeeeAddrCompress ieee g = some (g', code)) :
    ∀ refLong ∈ ieeeSearch g' code, (shortSearch g' a = none → DelIntact g' refLong) ∧
      ∀ ref ∈ shortSearch g' a, ref ≠ refLong → ConflictIntact g' ref refLong := by
  have here : code ∈ (zbIeeeAddrCompress ieee g).map Prod.snd := by rw [compressed]; rfl
  obtain ⟨-, -, ⟨-, -, rfl⟩ | ⟨-, -, rfl⟩⟩ := zbIeeeAddrCompress_cases compressed <;>
    exact intact code here

theorem delIntact_zbAddressDelete {ref q : Nat} (ix : ShortIndex g) (listed : Indexed g ref)
    (intact : DelIntact g ref) (ne : q ≠ ref) (second : SecondIntact g ref q) :
    DelIntact (zbAddressDelete ref g) q := by
  have le := ix.length_le fun r => Indexed.lt
  have after := delIntact_delShortSorted ix.distinct le intact ((ix.members ref).2 listed) ne second
  have room : (delShortSorted ref g).nSortedElements < zbIeeeAddrTableSize :=
    (ix.del (fun r => Indexed.lt) intact).room (fun r kept => Indexed.lt kept.2) listed.1
      fun kept => kept.1 rfl
  have byte : shortSortedAt (zbAddressDelete ref g) (zbAddressDelete ref g).nSortedElements =
      shortSortedAt (delShortSorted ref g) (delShortSorted ref g).nSortedElements :=
    (if_pos room).trans (if_pos room).symm
  intro mem
  rw [byte]
  exact after mem

/-- The conflict of two entries leaves the index right, and the entry the pair
goes to can be moved in it. -/
theorem shortIndex_resolveRef {a : UInt16} {code : ZbIeeeAddrCompressed} {found : Option Nat}
    (ix : ShortIndex g)
    (intact : ∀ refLong ∈ ieeeSearch g code, (shortSearch g a = none → DelIntact g refLong) ∧
      ∀ ref ∈ shortSearch g a, ref ≠ refLong → ConflictIntact g ref refLong)
    (resolved : resolveRef (shortSearch g a) (ieeeSearch g code) g = some (g', found)) :
    ShortIndex g' ∧ ∀ ref, found = some ref →
      ref < zbIeeeAddrTableSize ∧ (g'.addrMap ref).used = true ∧
        ((g'.addrMap ref).addr ≠ a → DelIntact g' ref) := by
  have byShort : ∀ ref, shortSearch g a = some ref → Indexed g ref ∧ (g.addrMap ref).addr = a :=
    fun ref found => ⟨(ix.members ref).1 (shortSearch_eq_some found).1, (shortSearch_eq_some found).2⟩
  have byLong : ∀ ref, ieeeSearch g code = some ref →
      ref < zbIeeeAddrTableSize ∧ (g.addrMap ref).used = true := fun ref found => by
    obtain ⟨b, there⟩ := ieeeSearch_eq_some found
    exact ⟨(pairs_eq_some.1 there).1, (pairs_eq_some.1 there).2.1⟩
  rcases resolveRef_cases resolved with ⟨-, -, rfl, rfl⟩ | ⟨ref, rfl, rfl, which⟩ |
    ⟨ref, refLong, fs, fl, ne, which⟩
  · exact ⟨ix, fun ref impossible => nomatch impossible⟩
  · refine ⟨ix, ?_⟩
    rintro _ ⟨⟩
    rcases which with ⟨fs, -⟩ | ⟨fs, -⟩ | ⟨fs, fl⟩
    · exact ⟨(byShort ref fs).1.1, (byShort ref fs).1.2.1, fun moved => absurd (byShort ref fs).2 moved⟩
    · exact ⟨(byShort ref fs).1.1, (byShort ref fs).1.2.1, fun moved => absurd (byShort ref fs).2 moved⟩
    · exact ⟨(byLong ref fl).1, (byLong ref fl).2, fun _ => (intact ref fl).1 fs⟩
  · obtain ⟨unlocked, locked⟩ := (intact refLong fl).2 ref fs ne
    rcases which with ⟨free, rfl, rfl⟩ | ⟨held, free, rfl, rfl⟩
    · obtain ⟨first, second⟩ := unlocked free
      refine ⟨(zbAddressDelete_spec ix first).index, ?_⟩
      rintro _ ⟨⟩
      rw [zbAddressDelete_of_ne ne.symm]
      exact ⟨(byLong refLong fl).1, (byLong refLong fl).2, fun _ =>
        delIntact_zbAddressDelete ix (byShort ref fs).1 first ne.symm second⟩
    · refine ⟨(zbAddressDelete_spec ix (locked held free)).index, ?_⟩
      rintro _ ⟨⟩
      rw [zbAddressDelete_of_ne ne]
      exact ⟨(byShort ref fs).1.1, (byShort ref fs).1.2.1, fun moved => absurd (byShort ref fs).2 moved⟩

/-- **One call keeps the index.** -/
theorem shortIndex_step {call : AddressCall} (ix : ShortIndex g) (documented : Documented g call)
    (intact : IndexIntact g call) (taken : addressStep g call = some g') : ShortIndex g' := by
  cases call with
  | byIeee ieee create lock =>
      obtain ⟨⟨_, res⟩, called, rfl⟩ := Option.map_eq_some_iff.1 taken
      obtain ⟨g₁, code, compressed, looked⟩ := zbAddressByIeee_cases called
      have ix₁ := shortIndex_compress ix compressed
      rcases looked with ⟨ref, -, tables, -⟩ | ⟨-, -, same, -⟩ | ⟨-, -, g₂, added, tables⟩
      · exact shortIndex_congr tables ix₁
      · exact same ▸ ix₁
      · exact shortIndex_congr tables (shortIndex_addrAdd ix₁ added)
  | byShort a create lock =>
      obtain ⟨⟨_, res⟩, called, rfl⟩ := Option.map_eq_some_iff.1 taken
      rcases zbAddressByShort_cases called with ⟨ref, -, tables, -⟩ | ⟨-, -, same, -⟩ |
        ⟨-, -, g₂, added, tables⟩
      · exact shortIndex_congr tables ix
      · exact same ▸ ix
      · exact shortIndex_congr tables (shortIndex_addrAdd ix added)
  | update ieee a lock =>
      obtain ⟨⟨_, res⟩, called, rfl⟩ := Option.map_eq_some_iff.1 taken
      obtain ⟨g₁, code, g₂, found, compressed, resolved, written⟩ := zbAddressUpdate_cases called
      obtain ⟨ix₂, movable⟩ := shortIndex_resolveRef (shortIndex_compress ix compressed)
        (updateIntact_compress intact compressed) resolved
      rcases written with ⟨ref, g₃, hit, set, tables, -⟩ | ⟨-, g₃, added, tables⟩
      · obtain ⟨inside, used, moved⟩ := movable ref hit
        obtain ⟨g₄, set₄, effect⟩ := setPair_spec ix₂ inside used code documented.2 moved
        rw [set] at set₄
        cases set₄
        exact shortIndex_congr tables effect.index
      · exact shortIndex_congr tables (shortIndex_addrAdd ix₂ added)
  | delete ref =>
      cases taken
      exact (zbAddressDelete_spec ix intact).index

end Steps

theorem shortIndex_init : ShortIndex .init where
  distinct := List.nodup_nil
  members r := by simp [index, live, ZbAddrGlobals.init, Indexed]
  sorted := List.Pairwise.nil

/-- The invariant of the index with what it gives the search. -/
def ShortIndexSound (g : ZbAddrGlobals) : Prop :=
  ShortIndex g ∧ ∀ a, a ≠ zbUnknownShortAddr →
    ((∃ r, shortSearch g a = some r) ↔
      ∃ r, r < zbIeeeAddrTableSize ∧ (g.addrMap r).used = true ∧ (g.addrMap r).addr = a)

theorem shortIndexSound_of (g : ZbAddrGlobals) (ix : ShortIndex g) : ShortIndexSound g := by
  refine ⟨ix, fun a short => (shortSearch_isSome_iff ix a).trans ?_⟩
  constructor
  · rintro ⟨r, ⟨inside, used, -⟩, same⟩
    exact ⟨r, inside, used, same⟩
  · rintro ⟨r, inside, used, rfl⟩
    exact ⟨r, ⟨inside, used, short⟩, rfl⟩

/-- **The short-address index.**  After any history of documented calls whose
deletions meet no stale copy, the sorted array lists the entries in use that have
a short address, once each and in order, and the search is exact. -/
theorem shortIndex_of_run {calls : List AddressCall} {g : ZbAddrGlobals}
    (along : Along addressStep (fun g call => Documented g call ∧ IndexIntact g call) .init calls)
    (ran : run addressStep .init calls = some g) : ShortIndexSound g :=
  shortIndexSound_of g (run_invariant
    (fun _ _ _ ix guarded taken => shortIndex_step ix guarded.1 guarded.2 taken)
    shortIndex_init along ran)

/-- The long address of the example histories. -/
def someDevice : ZbIeeeAddr := #v[1, 2, 3, 4, 5, 6, 7, 8]

/-- A history in which an entry gets a long address, is moved to another short
one and survives the deletion of its neighbour. -/
def movedEntry : List AddressCall :=
  [.byShort 7 true true, .byShort 5 true false, .update someDevice 5 false,
    .update someDevice 6 false, .delete 0]

theorem shortIndex_of_movedEntry :
    ∃ g, run addressStep .init movedEntry = some g ∧ ShortIndexSound g :=
  have ran := (Option.some_get (x := run addressStep .init movedEntry) (by decide)).symm
  ⟨_, ran, shortIndex_of_run (by decide) ran⟩

/-- **A stale copy of a deleted reference drops another entry.**  Deleting the
first of two entries moves a zero in from behind the live part, which is the
reference of the deleted entry: the array ends up empty while entry 1 is in use
with short address 2. -/
theorem stale_copy_drops_entry :
    ¬ ∀ (calls : List AddressCall) (g : ZbAddrGlobals), Along addressStep Documented .init calls →
      run addressStep .init calls = some g → ShortIndexSound g := by
  intro sound
  have after : (run addressStep .init
      [.byShort 1 true false, .byShort 2 true false, .delete 0]).map (fun g =>
        (g.nSortedElements, (g.addrMap 1).used, (g.addrMap 1).addr)) = some (0, true, 2) := by
    decide
  obtain ⟨g, ran, seen⟩ := Option.map_eq_some_iff.1 after
  simp only [Prod.mk.injEq] at seen
  have listed : 1 ∈ index g := ((sound _ g (by decide) ran).1.members 1).2
    ⟨by decide, seen.2.1, by rw [seen.2.2]; decide⟩
  rw [index, seen.1] at listed
  cases listed

end Zboss.Common.AddressRun
