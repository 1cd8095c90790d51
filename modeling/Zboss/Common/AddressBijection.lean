/-
# Common.AddressBijection -- the table is a partial bijection

`PairsOk` is the invariant of the abstract table: a short address is held by one
slot at most, so is a known long one, and the manufacturer of a known long
address is in the manufacturer table.  Clearing a slot keeps it, and so does
writing a pair whose halves no other slot holds (`PairsOk.write`).  `AddressMap`
joins it to the index, the counter and the distinctness of manufacturers;
`addressMap_step` carries it over one call and `addressMap_of_run` over a
history.

A long address is known when its compressed form is not all zeros, which is what
an entry without one holds.  The sixteenth manufacturer gets slot 0, and its
device 0 is such an address: `LongClear` is the condition that matters only
there.
-/
import Mathlib
import Zboss.Common.AddressRun

namespace Zboss.Common.AddressBijection

open Zboss.Theory.Run
open Zboss.Theory.Table
open Zboss.Theory.Directory
open Zboss.Common.Types
open Zboss.Common.Address
open Zboss.Common.AddressIndex
open Zboss.Common.AddressPairs
open Zboss.Common.AddressRun

set_option autoImplicit false

/-! ## The abstract table -/

/-- The invariant of the pairs, given which manufacturer slots are in use. -/
structure PairsOk (used : Nat → Bool) (p : Nat → Option Pair) : Prop where
  short : KeyUnique Prod.snd (· ≠ zbUnknownShortAddr) p
  long : KeyUnique Prod.fst (· ≠ ZbIeeeAddrCompressed.zero) p
  coded : ∀ r code a, p r = some (code, a) → code ≠ .zero →
    code.devManufacturer < zbDevManufactorerTableSize ∧ used code.devManufacturer = true

/-- No slot but `r` holds a half of the pair. -/
def Fresh (p : Nat → Option Pair) (r : Nat) (pair : Pair) : Prop :=
  ∀ s code a, s ≠ r → p s = some (code, a) →
    (pair.2 ≠ zbUnknownShortAddr → a ≠ pair.2) ∧ (pair.1 ≠ .zero → code ≠ pair.1)

section Abstract

variable {used : Nat → Bool} {p : Nat → Option Pair} {r : Nat}

theorem PairsOk.clear (ok : PairsOk used p) (r : Nat) :
    PairsOk used (Function.update p r none) where
  short := ok.short.clear r
  long := ok.long.clear r
  coded s code a there := by
    by_cases here : s = r
    · rw [here, Function.update_self] at there
      cases there
    · rw [Function.update_of_ne here] at there
      exact ok.coded s code a there

theorem PairsOk.write (ok : PairsOk used p) {pair : Pair} (fresh : Fresh p r pair)
    (coded : pair.1 ≠ .zero → pair.1.devManufacturer < zbDevManufactorerTableSize ∧
      used pair.1.devManufacturer = true) :
    PairsOk used (Function.update p r (some pair)) where
  short := ok.short.write fun known s c ne there => (fresh s c.1 c.2 ne there).1 known
  long := ok.long.write fun known s c ne there => (fresh s c.1 c.2 ne there).2 known
  coded s code a there := by
    by_cases here : s = r
    · rw [here, Function.update_self] at there
      cases there
      exact coded
    · rw [Function.update_of_ne here] at there
      exact ok.coded s code a there

theorem PairsOk.used_mono {used' : Nat → Bool} (ok : PairsOk used p)
    (more : ∀ i, used i = true → used' i = true) : PairsOk used' p where
  short := ok.short
  long := ok.long
  coded r code a there known := (ok.coded r code a there known).imp_right (more _)

/-- The slots that hold a half already are the ones to write to or to clear. -/
theorem Fresh.of_holders (ok : PairsOk used p) {code : ZbIeeeAddrCompressed} {a : UInt16}
    (short : a ≠ zbUnknownShortAddr → (∃ c, p r = some (c, a)) ∨ ∀ s c, p s ≠ some (c, a))
    (long : code ≠ .zero → (∃ b, p r = some (code, b)) ∨ ∀ s b, p s ≠ some (code, b)) :
    Fresh p r (code, a) := by
  intro s c b ne there
  constructor
  · rintro known rfl
    rcases short known with ⟨d, held⟩ | none_
    · exact ne (ok.short s r _ _ there held known rfl)
    · exact none_ s c there
  · rintro known rfl
    rcases long known with ⟨d, held⟩ | none_
    · exact ne (ok.long s r _ _ there held known rfl)
    · exact none_ s b there

theorem Fresh.clear {pair : Pair} (fresh : Fresh p r pair) (q : Nat) :
    Fresh (Function.update p q none) r pair := by
  intro s code a ne there
  by_cases here : s = q
  · rw [here, Function.update_self] at there
    cases there
  · rw [Function.update_of_ne here] at there
    exact fresh s code a ne there

end Abstract

/-! ## The invariant -/

/-- Two manufacturer slots in use hold different manufacturers. -/
def ManufacturersDistinct (g : ZbAddrGlobals) : Prop :=
  ∀ i j, i < zbDevManufactorerTableSize → j < zbDevManufactorerTableSize →
    g.usedManufacturer i = true → g.usedManufacturer j = true →
    g.devManufacturer i = g.devManufacturer j → i = j

structure AddressMap (g : ZbAddrGlobals) : Prop where
  index : ShortIndex g
  pairsOk : PairsOk g.usedManufacturer (pairs g)
  count : g.nElements = occupied (pairs g) zbIeeeAddrTableSize
  distinct : ManufacturersDistinct g

section Invariant

variable {g g' : ZbAddrGlobals}

theorem AddressMap.of_effect (map : AddressMap g) {p : Nat → Option Pair} {n : Nat}
    (effect : Becomes g g' p n) (ok : PairsOk g.usedManufacturer p)
    (count : n = occupied p zbIeeeAddrTableSize) : AddressMap g' := by
  have manu := effect.manufacturers
  simp only [manufacturers, Prod.mk.injEq] at manu
  refine ⟨effect.index, ?_, ?_, ?_⟩
  · rw [effect.pairs, manu.1]
    exact ok
  · rw [effect.count, effect.pairs, count]
  · rw [ManufacturersDistinct, manu.1, manu.2]
    exact map.distinct

theorem AddressMap.congr (map : AddressMap g) (same : table g' = table g) : AddressMap g' :=
  map.of_effect ((Becomes.refl map.index).congr same) map.pairsOk map.count

theorem decUshort_count (map : AddressMap g) {r : Nat} {pair : Pair}
    (inside : r < zbIeeeAddrTableSize) (taken : pairs g r = some pair) :
    decUshort g.nElements = occupied (Function.update (pairs g) r none) zbIeeeAddrTableSize := by
  rw [map.count, ← occupied_clear inside taken, decUshort_succ]

/-- An address that binary search does not find is held by no entry. -/
theorem no_short_holder (ix : ShortIndex g) {a : UInt16} (short : a ≠ zbUnknownShortAddr)
    (failed : shortSearch g a = none) (s : Nat) (code : ZbIeeeAddrCompressed) :
    pairs g s ≠ some (code, a) := by
  intro there
  have listed : Indexed g s := indexed_iff.2 ⟨code, a, there, short⟩
  exact (shortSearch_eq_none_iff ix a).1 failed s listed (pairs_eq_some.1 there).2.2.2

theorem short_holder (ix : ShortIndex g) {a : UInt16} {r : Nat}
    (found : shortSearch g a = some r) :
    a ≠ zbUnknownShortAddr ∧ ∃ code, pairs g r = some (code, a) := by
  obtain ⟨mem, rfl⟩ := shortSearch_eq_some found
  obtain ⟨code, a, there, short⟩ := indexed_iff.1 ((ix.members r).1 mem)
  obtain ⟨inside, used, rfl, rfl⟩ := pairs_eq_some.1 there
  exact ⟨short, _, pairs_of_used inside used⟩

/-! ## Compressing, adding, deleting -/

/-- Compressing adds a manufacturer only when it is in no slot. -/
theorem manufacturersDistinct_compress {ieee : ZbIeeeAddr} {code : ZbIeeeAddrCompressed}
    (distinct : ManufacturersDistinct g) (taken : zbIeeeAddrCompress ieee g = some (g', code)) :
    ManufacturersDistinct g' := by
  obtain ⟨-, -, ⟨-, -, rfl⟩ | ⟨-, absent, rfl⟩⟩ := zbIeeeAddrCompress_cases taken
  · exact distinct
  · intro i j hi hj usedI usedJ same
    dsimp only at usedI usedJ same
    by_cases hereI : i = code.devManufacturer
    · by_cases hereJ : j = code.devManufacturer
      · rw [hereI, hereJ]
      · rw [hereI, Function.update_self, Function.update_of_ne hereJ] at same
        rw [Function.update_of_ne hereJ] at usedJ
        exact absurd same.symm (absent j hj usedJ)
    · rw [Function.update_of_ne hereI] at usedI same
      by_cases hereJ : j = code.devManufacturer
      · rw [hereJ, Function.update_self] at same
        exact absurd same (absent i hi usedI)
      · rw [Function.update_of_ne hereJ] at usedJ same
        exact distinct i j hi hj usedI usedJ same

/-- After compressing, the manufacturer of the code is in the table. -/
theorem compress_code {ieee : ZbIeeeAddr} {code : ZbIeeeAddrCompressed}
    (taken : zbIeeeAddrCompress ieee g = some (g', code)) :
    code.deviceId = ZbIeeeAddr.deviceId ieee ∧
      code.devManufacturer < zbDevManufactorerTableSize ∧
      g'.usedManufacturer code.devManufacturer = true ∧
      g'.devManufacturer code.devManufacturer = ZbIeeeAddr.manufacturer ieee := by
  obtain ⟨device, inside, ⟨used, same, rfl⟩ | ⟨-, -, rfl⟩⟩ := zbIeeeAddrCompress_cases taken
  · exact ⟨device, inside, used, same⟩
  · exact ⟨device, inside, Function.update_self .., Function.update_self ..⟩

theorem AddressMap.compress (map : AddressMap g) {ieee : ZbIeeeAddr} {code : ZbIeeeAddrCompressed}
    (taken : zbIeeeAddrCompress ieee g = some (g', code)) :
    AddressMap g' ∧ pairs g' = pairs g ∧ code.deviceId = ZbIeeeAddr.deviceId ieee ∧
      code.devManufacturer < zbDevManufactorerTableSize ∧
      g'.usedManufacturer code.devManufacturer = true ∧
      g'.devManufacturer code.devManufacturer = ZbIeeeAddr.manufacturer ieee := by
  have ix := shortIndex_compress map.index taken
  have distinct := manufacturersDistinct_compress map.distinct taken
  have coded := compress_code taken
  obtain ⟨-, -, ⟨-, -, rfl⟩ | ⟨-, -, rfl⟩⟩ := zbIeeeAddrCompress_cases taken
  · exact ⟨map, rfl, coded⟩
  · refine ⟨⟨ix, map.pairsOk.used_mono fun i usedI => ?_, map.count, distinct⟩, rfl, coded⟩
    dsimp only
    by_cases here : i = code.devManufacturer
    · rw [here, Function.update_self]
    · rwa [Function.update_of_ne here]

/-- A manufacturer that is in one slot of the table only is found there. -/
theorem zbIeeeAddrCompress_unique {ieee : ZbIeeeAddr} {code : ZbIeeeAddrCompressed}
    (device : code.deviceId = ZbIeeeAddr.deviceId ieee)
    (inside : code.devManufacturer < zbDevManufactorerTableSize)
    (used : g.usedManufacturer code.devManufacturer = true)
    (same : g.devManufacturer code.devManufacturer = ZbIeeeAddr.manufacturer ieee)
    (only : ∀ i, i < zbDevManufactorerTableSize → g.usedManufacturer i = true →
      g.devManufacturer i = ZbIeeeAddr.manufacturer ieee → i = code.devManufacturer) :
    zbIeeeAddrCompress ieee g = some (g, code) := by
  obtain ⟨stop, -⟩ := manufacturerScan_spec g (ZbIeeeAddr.manufacturer ieee)
    zbDevManufactorerTableSize 0 zbDevManufactorerTableSize (Nat.zero_add _)
  rcases stop with ⟨lt, usedI, sameI⟩ | ⟨-, absent⟩
  · have place := only _ lt usedI sameI
    simp only [zbIeeeAddrCompress]
    rw [if_neg (Nat.ne_of_lt lt), if_pos (Nat.ne_of_lt lt), place,
      Function.update_eq_self_iff.2 used.symm, Function.update_eq_self_iff.2 same.symm, ← device]
  · exact absurd same (absent _ (Nat.zero_le _) inside used)

/-- A manufacturer in the table is found again. -/
theorem zbIeeeAddrCompress_known (distinct : ManufacturersDistinct g) {ieee : ZbIeeeAddr}
    {code : ZbIeeeAddrCompressed} (device : code.deviceId = ZbIeeeAddr.deviceId ieee)
    (inside : code.devManufacturer < zbDevManufactorerTableSize)
    (used : g.usedManufacturer code.devManufacturer = true)
    (same : g.devManufacturer code.devManufacturer = ZbIeeeAddr.manufacturer ieee) :
    zbIeeeAddrCompress ieee g = some (g, code) :=
  zbIeeeAddrCompress_unique device inside used same fun i lt usedI sameI =>
    distinct i _ lt inside usedI used (sameI.trans same.symm)

theorem AddressMap.add (map : AddressMap g) {ieee : Option ZbIeeeAddrCompressed} {a : UInt16}
    {res : Except ZbRet Nat} (taken : addrAdd ieee a g = some (g', res))
    (short : a ≠ zbUnknownShortAddr → shortSearch g a = none)
    (long : ∀ code, ieee = some code → ieeeSearch g code = none)
    (coded : ∀ code, ieee = some code → code.devManufacturer < zbDevManufactorerTableSize ∧
      g.usedManufacturer code.devManufacturer = true) :
    AddressMap g' ∧ g'.usedManufacturer = g.usedManufacturer ∧
      g'.devManufacturer = g.devManufacturer ∧
      ∀ r, res = .ok r → r < zbIeeeAddrTableSize ∧ pairs g r = none ∧
        pairs g' = Function.update (pairs g) r (some (ieee.getD .zero, a)) := by
  rcases addrAdd_spec map.index ieee a with full | ⟨i, g₂, inside, free, added, effect⟩
  · rw [full] at taken
    cases taken
    exact ⟨map, rfl, rfl, fun r impossible => nomatch impossible⟩
  · rw [added] at taken
    cases taken
    have empty := pairs_of_free free
    have fresh : Fresh (pairs g) i (ieee.getD .zero, a) := by
      refine Fresh.of_holders map.pairsOk (fun known => Or.inr fun s code => ?_)
        fun known => Or.inr fun s b => ?_
      · exact no_short_holder map.index known (short known) s code
      · cases ieee with
        | none => exact absurd rfl known
        | some code => exact ieeeSearch_eq_none (long code rfl) s b
    have ok := map.pairsOk.write fresh fun known => by
      cases ieee with
      | none => exact absurd rfl known
      | some code => exact coded code rfl
    have manu := effect.manufacturers
    simp only [manufacturers, Prod.mk.injEq] at manu
    refine ⟨map.of_effect effect ok ?_, manu.1, manu.2, ?_⟩
    · rw [map.count, occupied_fill inside empty]
    · rintro r ⟨⟩
      exact ⟨inside, empty, effect.pairs⟩

theorem AddressMap.delete (map : AddressMap g) {ref : Nat} {pair : Pair}
    (taken : pairs g ref = some pair) (intact : DelIntact g ref) :
    AddressMap (zbAddressDelete ref g) :=
  map.of_effect (zbAddressDelete_spec map.index intact) (map.pairsOk.clear ref)
    (decUshort_count map (pairs_eq_some.1 taken).1 taken)

/-! ## Updating -/

/-- No third entry holds the long address. -/
def NoThird (g : ZbAddrGlobals) (code : ZbIeeeAddrCompressed) (ref refLong : Nat) : Prop :=
  ∀ r, r < zbIeeeAddrTableSize →
    ¬ (r ≠ ref ∧ r ≠ refLong ∧ (g.addrMap r).used = true ∧ (g.addrMap r).ieeeAddr = code)

/-- The condition for a conflict whose short half is locked: the entry with the
long address is deleted, and no third one holds that address.  Only an address
that is not known can be held twice. -/
def LongClear (g : ZbAddrGlobals) (ieee : ZbIeeeAddr) (a : UInt16) : Prop :=
  ∀ code ∈ (zbIeeeAddrCompress ieee g).map Prod.snd, ∀ refLong ∈ ieeeSearch g code,
    ∀ ref ∈ shortSearch g a, ref ≠ refLong → (g.addrMap ref).lockCnt ≠ 0 →
      NoThird g code ref refLong

theorem longClear_compress {ieee : ZbIeeeAddr} {a : UInt16} {code : ZbIeeeAddrCompressed}
    (clear : LongClear g ieee a) (compressed : zbIeeeAddrCompress ieee g = some (g', code)) :
    ∀ refLong ∈ ieeeSearch g' code, ∀ ref ∈ shortSearch g' a, ref ≠ refLong →
      (g'.addrMap ref).lockCnt ≠ 0 → ∀ r, r ≠ ref → r ≠ refLong → ∀ b, pairs g' r ≠ some (code, b) := by
  have here : code ∈ (zbIeeeAddrCompress ieee g).map Prod.snd := by rw [compressed]; rfl
  obtain ⟨-, -, ⟨-, -, rfl⟩ | ⟨-, -, rfl⟩⟩ := zbIeeeAddrCompress_cases compressed <;>
  · intro refLong fl ref fs ne locked r ne₁ ne₂ b there
    obtain ⟨inside, used, same, -⟩ := pairs_eq_some.1 there
    exact clear code here refLong fl ref fs ne locked r inside ⟨ne₁, ne₂, used, same⟩

/-- A search that found `r` finds it again when no other slot came to hold the
address, and it was the only holder or the first. -/
theorem ieeeSearch_again {code : ZbIeeeAddrCompressed} {r : Nat} {a : UInt16}
    (there : pairs g' r = some (code, a))
    (before : (ieeeSearch g code = some r ∧
        ∀ s b, pairs g' s = some (code, b) → ∃ b, pairs g s = some (code, b)) ∨
      ∀ s b, pairs g' s = some (code, b) → s = r) : ieeeSearch g' code = some r := by
  obtain ⟨inside, used, same, -⟩ := pairs_eq_some.1 there
  have start : zbAddressCompressedIeeeHash code < zbIeeeAddrTableSize :=
    Nat.mod_lt _ (by decide)
  have holds : ((g'.addrMap r).used && decide ((g'.addrMap r).ieeeAddr = code)) = true := by
    simp [used, same]
  have pair : ∀ s, s < zbIeeeAddrTableSize →
      ((g'.addrMap s).used && decide ((g'.addrMap s).ieeeAddr = code)) = true →
      pairs g' s = some (code, (g'.addrMap s).addr) := by
    intro s hs holdsS
    simp only [Bool.and_eq_true, decide_eq_true_eq] at holdsS
    exact pairs_eq_some.2 ⟨hs, holdsS.1, holdsS.2, rfl⟩
  rcases before with ⟨found, fewer⟩ | unique
  · refine probe_mono start (fun s hs holdsS => ?_) holds found
    obtain ⟨b, old⟩ := fewer s _ (pair s hs holdsS)
    obtain ⟨-, usedS, sameS, -⟩ := pairs_eq_some.1 old
    simp [usedS, sameS]
  · exact probe_eq_some_of_unique start inside holds fun s hs holdsS =>
      unique s _ (pair s hs holdsS)

/-- What an update that succeeds leaves: the pair in its entry, where the search
for its long address ends. -/
structure Updated (g g' : ZbAddrGlobals) (code : ZbIeeeAddrCompressed) (a : UInt16) (r : Nat) :
    Prop where
  map : AddressMap g'
  usedManufacturer : g'.usedManufacturer = g.usedManufacturer
  devManufacturer : g'.devManufacturer = g.devManufacturer
  pair : pairs g' r = some (code, a)
  long : ieeeSearch g' code = some r

/-- Writing a pair into an entry in use, when no other one holds a half of it. -/
theorem AddressMap.set {ref : Nat} {code : ZbIeeeAddrCompressed} {a : UInt16} {pair : Pair}
    (map : AddressMap g) (short : a ≠ zbUnknownShortAddr) (taken : pairs g ref = some pair)
    (intact : (g.addrMap ref).addr ≠ a → DelIntact g ref)
    (coded : code.devManufacturer < zbDevManufactorerTableSize ∧
      g.usedManufacturer code.devManufacturer = true)
    (fresh : Fresh (pairs g) ref (code, a)) (set : setPair ref code a g = some g') :
    AddressMap g' ∧ g'.usedManufacturer = g.usedManufacturer ∧
      g'.devManufacturer = g.devManufacturer ∧
      pairs g' = Function.update (pairs g) ref (some (code, a)) := by
  obtain ⟨inside, used, -⟩ := pairs_eq_some.1 taken
  obtain ⟨g₂, set₂, effect⟩ := setPair_spec map.index inside used code short intact
  rw [set] at set₂
  cases set₂
  have manu := effect.manufacturers
  simp only [manufacturers, Prod.mk.injEq] at manu
  refine ⟨map.of_effect effect (map.pairsOk.write fresh fun _ => coded) ?_, manu.1, manu.2,
    effect.pairs⟩
  rw [map.count, occupied_rewrite taken]

/-- The pair goes to an entry one half was found by; the other half is its own
too, or nobody's. -/
theorem AddressMap.update_found {ref : Nat} {code : ZbIeeeAddrCompressed} {a : UInt16} {pair : Pair}
    (map : AddressMap g) (short : a ≠ zbUnknownShortAddr) (taken : pairs g ref = some pair)
    (intact : (g.addrMap ref).addr ≠ a → DelIntact g ref)
    (coded : code.devManufacturer < zbDevManufactorerTableSize ∧
      g.usedManufacturer code.devManufacturer = true)
    (byShort : shortSearch g a = some ref ∨ shortSearch g a = none)
    (byLong : ieeeSearch g code = some ref ∨ ieeeSearch g code = none)
    (set : setPair ref code a g = some g') : Updated g g' code a ref := by
  have fresh : Fresh (pairs g) ref (code, a) := by
    refine Fresh.of_holders map.pairsOk (fun _ => ?_) fun _ => ?_
    · exact byShort.imp (fun fs => (short_holder map.index fs).2) fun fs s c =>
        no_short_holder map.index short fs s c
    · exact byLong.imp ieeeSearch_eq_some ieeeSearch_eq_none
  obtain ⟨map', usedM, devM, after⟩ := map.set short taken intact coded fresh set
  have there : pairs g' ref = some (code, a) := by rw [after, Function.update_self]
  refine ⟨map', usedM, devM, there, ieeeSearch_again (g := g) there ?_⟩
  rw [after]
  rcases byLong with found | failed
  · refine Or.inl ⟨found, fun s b held => ?_⟩
    by_cases here : s = ref
    · exact here ▸ ieeeSearch_eq_some found
    · rw [Function.update_of_ne here] at held
      exact ⟨b, held⟩
  · refine Or.inr fun s b held => ?_
    by_contra here
    rw [Function.update_of_ne here] at held
    exact ieeeSearch_eq_none failed s b held

/-- **Writing the pair into the entry it goes to**, whichever of the two found by
its halves that is. -/
theorem AddressMap.update {g₂ : ZbAddrGlobals} {code : ZbIeeeAddrCompressed} {a : UInt16}
    {r : Nat} (map : AddressMap g) (short : a ≠ zbUnknownShortAddr)
    (coded : code.devManufacturer < zbDevManufactorerTableSize ∧
      g.usedManufacturer code.devManufacturer = true)
    (intact : ∀ refLong ∈ ieeeSearch g code, (shortSearch g a = none → DelIntact g refLong) ∧
      ∀ ref ∈ shortSearch g a, ref ≠ refLong → ConflictIntact g ref refLong)
    (clear : ∀ refLong ∈ ieeeSearch g code, ∀ ref ∈ shortSearch g a, ref ≠ refLong →
      (g.addrMap ref).lockCnt ≠ 0 → ∀ r, r ≠ ref → r ≠ refLong → ∀ b, pairs g r ≠ some (code, b))
    (resolved : resolveRef (shortSearch g a) (ieeeSearch g code) g = some (g₂, some r))
    (set : setPair r code a g₂ = some g') : Updated g g' code a r := by
  obtain ⟨-, movable⟩ := shortIndex_resolveRef map.index intact resolved
  obtain ⟨inside, used, moved⟩ := movable r rfl
  have taken := pairs_of_used inside used
  rcases resolveRef_cases resolved with ⟨-, -, impossible, -⟩ | ⟨ref, hit, rfl, which⟩ |
    ⟨ref, refLong, fs, fl, ne, which⟩
  · cases impossible
  · cases hit
    rcases which with ⟨fs, fl⟩ | ⟨fs, fl⟩ | ⟨fs, fl⟩
    · exact map.update_found short taken moved coded (Or.inl fs) (Or.inl fl) set
    · exact map.update_found short taken moved coded (Or.inl fs) (Or.inr fl) set
    · exact map.update_found short taken moved coded (Or.inr fs) (Or.inl fl) set
  · obtain ⟨-, c, heldShort⟩ := short_holder map.index fs
    obtain ⟨b, heldLong⟩ := ieeeSearch_eq_some fl
    have conflict := (intact refLong fl).2 ref fs ne
    rcases which with ⟨free, hit, rfl⟩ | ⟨locked, free, hit, rfl⟩
    · -- the entry with the short address is deleted: nobody holds that half any more
      cases hit
      have intactRef := (conflict.1 free).1
      have deleted := (zbAddressDelete_spec map.index intactRef).pairs
      have still : pairs (zbAddressDelete ref g) r = some (code, b) := by
        rw [deleted, Function.update_of_ne ne.symm, heldLong]
      have map₂ := map.delete heldShort intactRef
      have fresh : Fresh (pairs (zbAddressDelete ref g)) r (code, a) := by
        refine Fresh.of_holders map₂.pairsOk (fun _ => Or.inr fun s c' there => ?_)
          fun _ => Or.inl ⟨b, still⟩
        rw [deleted] at there
        by_cases here : s = ref
        · rw [here, Function.update_self] at there
          cases there
        · rw [Function.update_of_ne here] at there
          exact here (map.pairsOk.short s ref _ _ there heldShort short rfl)
      obtain ⟨map', usedM, devM, after⟩ := map₂.set short still moved coded fresh set
      have there : pairs g' r = some (code, a) := by rw [after, Function.update_self]
      refine ⟨map', usedM, devM, there, ieeeSearch_again (g := g) there (Or.inl ⟨fl, ?_⟩)⟩
      intro s b' held
      by_cases here : s = r
      · exact here ▸ ⟨b, heldLong⟩
      · rw [after, Function.update_of_ne here, deleted] at held
        by_cases gone : s = ref
        · rw [gone, Function.update_self] at held
          cases held
        · rw [Function.update_of_ne gone] at held
          exact ⟨b', held⟩
    · -- the entry with the long address is deleted: nobody holds that half any more
      cases hit
      have intactLong := conflict.2 locked free
      have deleted := (zbAddressDelete_spec map.index intactLong).pairs
      have still : pairs (zbAddressDelete refLong g) r = some (c, a) := by
        rw [deleted, Function.update_of_ne ne, heldShort]
      have map₂ := map.delete heldLong intactLong
      have nobody : ∀ s b', s ≠ r → pairs (zbAddressDelete refLong g) s ≠ some (code, b') := by
        intro s b' ne' held
        rw [deleted] at held
        by_cases gone : s = refLong
        · rw [gone, Function.update_self] at held
          cases held
        · rw [Function.update_of_ne gone] at held
          exact clear refLong fl r fs ne locked s ne' gone b' held
      have fresh : Fresh (pairs (zbAddressDelete refLong g)) r (code, a) := by
        intro s c' a' ne' there
        constructor
        · rintro known rfl
          exact ne' (map₂.pairsOk.short s r _ _ there still known rfl)
        · rintro - rfl
          exact nobody s a' ne' there
      obtain ⟨map', usedM, devM, after⟩ := map₂.set short still moved coded fresh set
      have there : pairs g' r = some (code, a) := by rw [after, Function.update_self]
      refine ⟨map', usedM, devM, there, ieeeSearch_again (g := g) there (Or.inr ?_)⟩
      intro s b' held
      by_contra here
      rw [after, Function.update_of_ne here] at held
      exact nobody s b' here held

/-- **An update** keeps the invariant; where it succeeds, the entry holds the
pair and both searches end at it. -/
theorem zbAddressUpdate_spec {ieee : ZbIeeeAddr} {a : UInt16} {lock : Bool}
    {res : Except ZbRet Nat} (map : AddressMap g) (short : a ≠ zbUnknownShortAddr)
    (intact : UpdateIntact g ieee a) (clear : LongClear g ieee a)
    (called : zbAddressUpdate ieee a lock g = some (g', res)) :
    AddressMap g' ∧ ∀ r, res = .ok r → ∃ code, pairs g' r = some (code, a) ∧
      ieeeSearch g' code = some r ∧ zbIeeeAddrCompress ieee g' = some (g', code) := by
  obtain ⟨g₁, code, g₂, found, compressed, resolved, written⟩ := zbAddressUpdate_cases called
  obtain ⟨map₁, -, device, inside, used, same⟩ := map.compress compressed
  have intact₁ := updateIntact_compress intact compressed
  have finish : ∀ {g₃ : ZbAddrGlobals} {r : Nat}, table g' = table g₃ → Updated g₁ g₃ code a r →
      AddressMap g' ∧ pairs g' r = some (code, a) ∧ ieeeSearch g' code = some r ∧
        zbIeeeAddrCompress ieee g' = some (g', code) := by
    intro g₃ r tables updated
    have map' := updated.map.congr tables
    have usedM : g'.usedManufacturer = g₁.usedManufacturer :=
      (table_congr (·.usedManufacturer) (fun _ => rfl) tables).trans updated.usedManufacturer
    have devM : g'.devManufacturer = g₁.devManufacturer :=
      (table_congr (·.devManufacturer) (fun _ => rfl) tables).trans updated.devManufacturer
    refine ⟨map', (congrFun (pairs_congr tables) r).trans updated.pair, ?_, ?_⟩
    · exact (table_congr (fun g => ieeeSearch g code) (fun _ => rfl) tables).trans updated.long
    · exact zbIeeeAddrCompress_known map'.distinct device inside (by rw [usedM, used])
        (by rw [devM, same])
  rcases written with ⟨ref, g₃, rfl, set, tables, rfl⟩ | ⟨rfl, g₃, added, tables⟩
  · obtain ⟨map', after⟩ := finish tables (map₁.update short ⟨inside, used⟩ intact₁
      (longClear_compress clear compressed) resolved set)
    refine ⟨map', ?_⟩
    rintro _ ⟨⟩
    exact ⟨code, after⟩
  · obtain ⟨fs, fl, -, rfl⟩ : shortSearch g₁ a = none ∧ ieeeSearch g₁ code = none ∧
        (none : Option Nat) = none ∧ g₂ = g₁ := by
      rcases resolveRef_cases resolved with none_ | ⟨_, hit, _⟩ | ⟨_, _, _, _, _, which⟩
      · exact none_
      · cases hit
      · rcases which with ⟨-, hit, -⟩ | ⟨-, -, hit, -⟩ <;> cases hit
    obtain ⟨map₃, usedM, devM, placed⟩ := map₁.add added (fun _ => fs)
      (fun c hc => by cases hc; exact fl) (fun c hc => by cases hc; exact ⟨inside, used⟩)
    refine ⟨map₃.congr tables, fun r isOk => ⟨code, ?_⟩⟩
    obtain ⟨-, -, after⟩ := placed r isOk
    have there : pairs g₃ r = some (code, a) := by rw [after, Function.update_self]; rfl
    refine (finish tables ⟨map₃, usedM, devM, there,
      ieeeSearch_again (g := g₂) there (Or.inr fun s b held => ?_)⟩).2
    by_contra here
    rw [after, Function.update_of_ne here] at held
    exact ieeeSearch_eq_none fl s b held

/-! ## Histories -/

/-- **The condition under which a call keeps the table a bijection.** -/
def MapIntact (g : ZbAddrGlobals) (call : AddressCall) : Prop :=
  IndexIntact g call ∧ match call with
    | .update ieee a _ => LongClear g ieee a
    | _ => True

instance (g : ZbAddrGlobals) (code : ZbIeeeAddrCompressed) (ref refLong : Nat) :
    Decidable (NoThird g code ref refLong) :=
  inferInstanceAs (Decidable (∀ r, r < zbIeeeAddrTableSize → ¬ _))

instance (g : ZbAddrGlobals) (ieee : ZbIeeeAddr) (a : UInt16) : Decidable (LongClear g ieee a) :=
  inferInstanceAs (Decidable (∀ code ∈ (zbIeeeAddrCompress ieee g).map Prod.snd,
    ∀ refLong ∈ ieeeSearch g code, ∀ ref ∈ shortSearch g a, ref ≠ refLong →
      (g.addrMap ref).lockCnt ≠ 0 → NoThird g code ref refLong))

instance (g : ZbAddrGlobals) : (call : AddressCall) → Decidable (MapIntact g call)
  | .update ieee a lock =>
      inferInstanceAs (Decidable (IndexIntact g (.update ieee a lock) ∧ LongClear g ieee a))
  | .delete ref => inferInstanceAs (Decidable (IndexIntact g (.delete ref) ∧ True))
  | .byIeee ieee create lock =>
      inferInstanceAs (Decidable (IndexIntact g (.byIeee ieee create lock) ∧ True))
  | .byShort a create lock =>
      inferInstanceAs (Decidable (IndexIntact g (.byShort a create lock) ∧ True))

/-- **One call keeps the table a bijection.** -/
theorem addressMap_step {call : AddressCall} (map : AddressMap g) (documented : Documented g call)
    (intact : MapIntact g call) (taken : addressStep g call = some g') : AddressMap g' := by
  cases call with
  | byIeee ieee create lock =>
      obtain ⟨⟨_, res⟩, called, rfl⟩ := Option.map_eq_some_iff.1 taken
      obtain ⟨g₁, code, compressed, looked⟩ := zbAddressByIeee_cases called
      obtain ⟨map₁, -, -, inside, used, -⟩ := map.compress compressed
      rcases looked with ⟨ref, -, tables, -⟩ | ⟨-, -, same, -⟩ | ⟨failed, -, g₂, added, tables⟩
      · exact map₁.congr tables
      · exact same ▸ map₁
      · exact (map₁.add added (fun known => absurd rfl known) (fun c hc => by cases hc; exact failed)
          (fun c hc => by cases hc; exact ⟨inside, used⟩)).1.congr tables
  | byShort a create lock =>
      obtain ⟨⟨_, res⟩, called, rfl⟩ := Option.map_eq_some_iff.1 taken
      rcases zbAddressByShort_cases called with ⟨ref, -, tables, -⟩ | ⟨-, -, same, -⟩ |
        ⟨failed, -, g₂, added, tables⟩
      · exact map.congr tables
      · exact same ▸ map
      · exact (map.add added (fun _ => failed) (fun _ hc => nomatch hc)
          (fun _ hc => nomatch hc)).1.congr tables
  | update ieee a lock =>
      obtain ⟨⟨_, res⟩, called, rfl⟩ := Option.map_eq_some_iff.1 taken
      exact (zbAddressUpdate_spec map documented.2 intact.1 intact.2 called).1
  | delete ref =>
      cases taken
      exact map.delete (pairs_of_used documented.1 documented.2) intact.1

/-- The number of used entries, counted in the table itself. -/
theorem occupied_pairs (g : ZbAddrGlobals) :
    occupied (pairs g) zbIeeeAddrTableSize =
      (List.range zbIeeeAddrTableSize).countP fun r => (g.addrMap r).used := by
  have upto : ∀ n, n ≤ zbIeeeAddrTableSize →
      occupied (pairs g) n = (List.range n).countP fun r => (g.addrMap r).used := by
    intro n
    induction n with
    | zero => intro _; rfl
    | succ n ih =>
        intro le
        rw [occupied, ih (by omega), List.range_succ, List.countP_append]
        cases used : (g.addrMap n).used with
        | true => simp [pairs_of_used (show n < zbIeeeAddrTableSize by omega) used, used]
        | false => simp [pairs_of_free used, used]
  exact upto _ (Nat.le_refl _)

/-- A partial bijection between known long addresses and short ones, with its
counter. -/
structure PartialBijection (g : ZbAddrGlobals) : Prop where
  short : ∀ r s, r < zbIeeeAddrTableSize → s < zbIeeeAddrTableSize →
    (g.addrMap r).used = true → (g.addrMap s).used = true →
    (g.addrMap r).addr ≠ zbUnknownShortAddr → (g.addrMap r).addr = (g.addrMap s).addr → r = s
  long : ∀ r s, r < zbIeeeAddrTableSize → s < zbIeeeAddrTableSize →
    (g.addrMap r).used = true → (g.addrMap s).used = true →
    (g.addrMap r).ieeeAddr ≠ .zero → (g.addrMap s).ieeeAddr ≠ .zero →
    (zbAddressByRef r g).1 = (zbAddressByRef s g).1 → r = s
  count : g.nElements = (List.range zbIeeeAddrTableSize).countP fun r => (g.addrMap r).used

theorem AddressMap.partialBijection (map : AddressMap g) : PartialBijection g where
  short r s hr hs usedR usedS known same :=
    map.pairsOk.short r s _ _ (pairs_of_used hr usedR) (pairs_of_used hs usedS) known same
  long r s hr hs usedR usedS knownR knownS same := by
    have atR := pairs_of_used hr usedR
    have atS := pairs_of_used hs usedS
    obtain ⟨insideR, slotR⟩ := map.pairsOk.coded r _ _ atR knownR
    obtain ⟨insideS, slotS⟩ := map.pairsOk.coded s _ _ atS knownS
    obtain ⟨sameM, sameD⟩ := ZbIeeeAddr.make_inj same
    have slots := map.distinct _ _ insideR insideS slotR slotS sameM
    refine map.pairsOk.long r s _ _ atR atS knownR ?_
    show (g.addrMap r).ieeeAddr = (g.addrMap s).ieeeAddr
    generalize (g.addrMap r).ieeeAddr = x at *
    generalize (g.addrMap s).ieeeAddr = y at *
    cases x
    cases y
    cases slots
    cases sameD
    rfl
  count := map.count.trans (occupied_pairs g)

/-- What an update promises when it returns `RET_OK` with `r`. -/
structure Found (g : ZbAddrGlobals) (ieee : ZbIeeeAddr) (a : UInt16) (r : Nat) : Prop where
  byIeee : ∀ create, ∃ g', zbAddressByIeee ieee create false g = some (g', .ok r)
  byShort : ∀ create, ∃ g', zbAddressByShort a create false g = some (g', .ok r)
  byRef : zbAddressByRef r g = (ieee, a)

theorem AddressMap.found {ieee : ZbIeeeAddr} {a : UInt16} {r : Nat} {code : ZbIeeeAddrCompressed}
    (map : AddressMap g) (short : a ≠ zbUnknownShortAddr) (there : pairs g r = some (code, a))
    (long : ieeeSearch g code = some r)
    (compressed : zbIeeeAddrCompress ieee g = some (g, code)) : Found g ieee a r where
  byIeee create := by
    refine ⟨g.setEnt r fun ent => { ent with clock := true }, ?_⟩
    simp only [zbAddressByIeee, compressed, long, lockIf, Option.bind_eq_bind, Option.bind_some]
  byShort create := by
    obtain ⟨s, hit⟩ := (shortSearch_isSome_iff map.index a).2
      ⟨r, indexed_iff.2 ⟨code, a, there, short⟩, (pairs_eq_some.1 there).2.2.2⟩
    obtain ⟨-, c, held⟩ := short_holder map.index hit
    obtain rfl := map.pairsOk.short s r _ _ held there short rfl
    refine ⟨g.setEnt s fun ent => { ent with clock := true }, ?_⟩
    simp only [zbAddressByShort, hit, lockIf, Option.bind_eq_bind, Option.bind_some]
  byRef := by
    obtain ⟨-, -, codeIs, addrIs⟩ := pairs_eq_some.1 there
    obtain ⟨-, -, device, -, -, same⟩ := map.compress compressed
    refine Prod.ext ?_ addrIs
    show ZbIeeeAddr.make (g.devManufacturer (g.addrMap r).ieeeAddr.devManufacturer)
      (g.addrMap r).ieeeAddr.deviceId = ieee
    rw [codeIs, same, device, ZbIeeeAddr.make_parts]

end Invariant

theorem addressMap_init : AddressMap .init where
  index := shortIndex_init
  pairsOk := by
    have empty : pairs .init = fun _ => none := funext fun r => pairs_of_free rfl
    rw [empty]
    exact ⟨fun _ _ _ _ impossible => (nomatch impossible), fun _ _ _ _ impossible =>
      (nomatch impossible), fun _ _ _ impossible => (nomatch impossible)⟩
  count := by
    have empty : pairs .init = fun _ => none := funext fun r => pairs_of_free rfl
    rw [empty, occupied_empty]
    rfl
  distinct _ _ _ _ used := nomatch used

/-- **The address map is a partial bijection.**  After any history of documented
calls that meet `MapIntact`, no short address and no known long address is held
twice and the counter is right; and an update that returns `RET_OK` with `r` is
found under both its addresses, as `r`. -/
theorem addressMap_of_run {calls : List AddressCall} {g : ZbAddrGlobals}
    (along : Along addressStep (fun g call => Documented g call ∧ MapIntact g call) .init calls)
    (ran : run addressStep .init calls = some g) :
    PartialBijection g ∧ ∀ ieee a lock g' r, Documented g (.update ieee a lock) →
      MapIntact g (.update ieee a lock) → zbAddressUpdate ieee a lock g = some (g', .ok r) →
      Found g' ieee a r := by
  have map : AddressMap g := run_invariant
    (fun _ _ _ map guarded taken => addressMap_step map guarded.1 guarded.2 taken)
    addressMap_init along ran
  refine ⟨map.partialBijection, fun ieee a lock g' r documented intact called => ?_⟩
  obtain ⟨map', placed⟩ := zbAddressUpdate_spec map documented.2 intact.1 intact.2 called
  obtain ⟨code, there, long, compressed⟩ := placed r rfl
  exact map'.found documented.2 there long compressed

/-- A conflict of two entries, the one found by the short address locked. -/
def lockedConflict : List AddressCall :=
  [.byIeee someDevice true false, .byShort 5 true true, .update someDevice 5 false]

theorem addressMap_of_lockedConflict :
    ∃ g, run addressStep .init lockedConflict = some g ∧ PartialBijection g ∧
      ∀ ieee a lock g' r, Documented g (.update ieee a lock) →
        MapIntact g (.update ieee a lock) → zbAddressUpdate ieee a lock g = some (g', .ok r) →
        Found g' ieee a r :=
  have ran := (Option.some_get (x := run addressStep .init lockedConflict) (by decide)).symm
  ⟨_, ran, addressMap_of_run (by decide) ran⟩

/-- **A dropped entry comes back twice.**  Entry 1 is in use with short address 2
but not listed any more, so a lookup of that address makes a second entry. -/
theorem dropped_entry_is_doubled :
    ¬ ∀ (calls : List AddressCall) (g : ZbAddrGlobals), Along addressStep Documented .init calls →
      run addressStep .init calls = some g → PartialBijection g := by
  intro sound
  have after : (run addressStep .init [.byShort 1 true false, .byShort 2 true false, .delete 0,
      .byShort 2 true false]).map (fun g => ((g.addrMap 0).used, (g.addrMap 0).addr,
        (g.addrMap 1).used, (g.addrMap 1).addr)) = some (true, 2, true, 2) := by
    decide
  obtain ⟨g, ran, seen⟩ := Option.map_eq_some_iff.1 after
  simp only [Prod.mk.injEq] at seen
  obtain ⟨used₀, addr₀, used₁, addr₁⟩ := seen
  have same := (sound _ g (by decide) ran).short 0 1 (by decide) (by decide) used₀ used₁
    (by rw [addr₀]; decide) (by rw [addr₀, addr₁])
  cases same

/-- Fifteen manufacturers, and three entries without a long address of which the
last is locked. -/
def unknownEntries : List AddressCall :=
  [.byShort 1 true false, .byShort 2 true false, .byShort 3 true true, .byShort 9 true false,
    .delete 3] ++
  (List.range 15).map fun i => .byIeee #v[1, 0, i.toUInt8, 1, 0, 0, 0, 0] true false

-- Device 0 of the sixteenth manufacturer looks like no address: the pair goes to
-- entry 2, and a lookup of its long half ends at entry 1.
example : ((run addressStep .init unknownEntries).bind fun g =>
    (zbAddressUpdate #v[1, 0, 20, 0, 0, 0, 0, 0] 3 false g).bind fun r =>
      (zbAddressByIeee #v[1, 0, 20, 0, 0, 0, 0, 0] false false r.1).map fun q =>
        (r.2.toOption, q.2.toOption)) = some (some 2, some 1) := by
  decide +kernel

end Zboss.Common.AddressBijection
