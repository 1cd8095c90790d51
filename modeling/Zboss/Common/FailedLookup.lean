/-
# Common.FailedLookup -- looking up an address that is not known

Three lookups ask for an address without creating an entry for it: `Lookup`.  When the
address is not known each of them should say so and leave the tables alone
(`ChangesNothing`).  By the short address that is so in every state
(`byShort_changesNothing`).  A long address is compressed before it is searched for, and
compressing it enters its manufacturer: the lookup changes nothing exactly when that is
in the book already (`byIeee_changesNothing_iff`).

`failedLookups_iff` carries this to any number of unknown addresses, one after the
other.  Pole: `lookup_enters_maker`.
-/
import Mathlib
import Zboss.Common.AddressCompress
import Zboss.Common.AddressHolds

namespace Zboss.Common.FailedLookup

open Zboss.Theory.Run
open Zboss.Theory.Intern
open Zboss.Common.Types
open Zboss.Common.Address
open Zboss.Common.AddressIndex
open Zboss.Common.AddressPairs
open Zboss.Common.AddressRun
open Zboss.Common.AddressBijection
open Zboss.Common.AddressCompress
open Zboss.Common.AddressHolds

set_option autoImplicit false

/-! ## Lookups -/

/-- A lookup that does not create what it asks for. -/
inductive Lookup where
  | byIeee (ieee : ZbIeeeAddr) (lock : Bool)
  | byShort (shortAddress : UInt16) (lock : Bool)
  | shortByIeee (ieee : ZbIeeeAddr)

def lookupStep (g : ZbAddrGlobals) : Lookup → Option ZbAddrGlobals
  | .byIeee ieee lock => (zbAddressByIeee ieee false lock g).map Prod.fst
  | .byShort shortAddress lock => (zbAddressByShort shortAddress false lock g).map Prod.fst
  | .shortByIeee ieee => (zbAddressShortByIeee ieee g).map Prod.fst

/-- An entry in use has the long address. -/
def KnownIeee (g : ZbAddrGlobals) (ieee : ZbIeeeAddr) : Prop :=
  ∃ r < zbIeeeAddrTableSize, (g.addrMap r).used = true ∧
    zbIeeeAddrDecompress g (g.addrMap r).ieeeAddr = ieee

/-- The index lists an entry with the short address. -/
def KnownShort (g : ZbAddrGlobals) (a : UInt16) : Prop :=
  ∃ r ∈ index g, (g.addrMap r).addr = a

/-- The address asked for is known. -/
def Known (g : ZbAddrGlobals) : Lookup → Prop
  | .byIeee ieee _ => KnownIeee g ieee
  | .byShort shortAddress _ => KnownShort g shortAddress
  | .shortByIeee ieee => KnownIeee g ieee

/-- **The lookup fails and changes nothing**: it returns, with the result for an address
that is not found, and every table is as it was. -/
def ChangesNothing (g : ZbAddrGlobals) : Lookup → Prop
  | .byIeee ieee lock => zbAddressByIeee ieee false lock g = some (g, .error .notFound)
  | .byShort shortAddress lock =>
      zbAddressByShort shortAddress false lock g = some (g, .error .notFound)
  | .shortByIeee ieee => zbAddressShortByIeee ieee g = some (g, 0xFFFF)

/-- The manufacturer of the long address has a place in the book. -/
def MakerKnown (g : ZbAddrGlobals) (ieee : ZbIeeeAddr) : Prop :=
  ∃ i < zbDevManufactorerTableSize, makers g i = some (ZbIeeeAddr.manufacturer ieee)

/-- Nothing has to be entered for the lookup. -/
def Coded (g : ZbAddrGlobals) : Lookup → Prop
  | .byIeee ieee _ => MakerKnown g ieee
  | .byShort _ _ => True
  | .shortByIeee ieee => MakerKnown g ieee

section Known

variable {g : ZbAddrGlobals} {a : UInt16}

instance (ieee : ZbIeeeAddr) : Decidable (KnownIeee g ieee) :=
  inferInstanceAs (Decidable (∃ r < zbIeeeAddrTableSize, _ ∧ _))

instance : Decidable (KnownShort g a) :=
  inferInstanceAs (Decidable (∃ r ∈ index g, _))

instance : (q : Lookup) → Decidable (Known g q)
  | .byIeee ieee _ => inferInstanceAs (Decidable (KnownIeee g ieee))
  | .byShort shortAddress _ => inferInstanceAs (Decidable (KnownShort g shortAddress))
  | .shortByIeee ieee => inferInstanceAs (Decidable (KnownIeee g ieee))

instance (ieee : ZbIeeeAddr) : Decidable (MakerKnown g ieee) :=
  inferInstanceAs (Decidable (∃ i < zbDevManufactorerTableSize, _))

instance : (q : Lookup) → Decidable (Coded g q)
  | .byIeee ieee _ => inferInstanceAs (Decidable (MakerKnown g ieee))
  | .byShort _ _ => isTrue trivial
  | .shortByIeee ieee => inferInstanceAs (Decidable (MakerKnown g ieee))

/-- Where the index lists entries in use only, an address no such entry has is not
known. -/
theorem not_knownShort_of_unused (ok : Listing g)
    (unused : ∀ r, (g.addrMap r).used = true → (g.addrMap r).addr ≠ a) : ¬ KnownShort g a := by
  rintro ⟨r, listed, same⟩
  exact unused r (ok.listed r listed).1 same

/-- Where the index is right, the known addresses are those of the entries in use. -/
theorem knownShort_iff (ix : ShortIndex g) :
    KnownShort g a ↔ ∃ r, Indexed g r ∧ (g.addrMap r).addr = a := by
  simp only [KnownShort, ix.members]

end Known

/-! ## By the short address -/

section Short

variable {g : ZbAddrGlobals} {a : UInt16} {lock : Bool}

theorem shortSearch_of_unknown (unknown : ¬ KnownShort g a) : shortSearch g a = none := by
  cases found : shortSearch g a with
  | none => rfl
  | some r => exact absurd ⟨r, shortSearch_eq_some found⟩ unknown

/-- **An unknown short address** is looked for without a trace. -/
theorem byShort_changesNothing (unknown : ¬ KnownShort g a) :
    ChangesNothing g (.byShort a lock) := by
  have failed := shortSearch_of_unknown unknown
  simp only [ChangesNothing, zbAddressByShort, failed]
  cases lock <;> rfl

end Short

/-! ## By the long address -/

section Long

variable {g g' : ZbAddrGlobals} {ieee : ZbIeeeAddr} {code : ZbIeeeAddrCompressed} {lock : Bool}

/-- Compressing an address of a known manufacturer enters nothing. -/
theorem compress_of_makerKnown (known : MakerKnown g ieee) :
    ∃ code, zbIeeeAddrCompress ieee g = some (g, code) := by
  obtain ⟨i, inside, there⟩ := known
  cases compressed : zbIeeeAddrCompress ieee g with
  | none =>
      obtain ⟨m, held, other⟩ := compress_eq_none.1 compressed i inside
      rw [there] at held
      cases held
      exact absurd rfl other
  | some result =>
      obtain ⟨g', code⟩ := result
      obtain ⟨-, -, ⟨-, -, rfl⟩ | ⟨-, absent, -⟩⟩ := zbIeeeAddrCompress_cases compressed
      · exact ⟨code, rfl⟩
      · obtain ⟨used, same⟩ := makers_eq_some.1 there
        exact absurd same (absent i inside used)

/-- Compressing that leaves the tables as they are has found the manufacturer. -/
theorem makerKnown_of_compress (compressed : zbIeeeAddrCompress ieee g = some (g, code)) :
    MakerKnown g ieee := by
  obtain ⟨inside, there⟩ := (compress_interns compressed).named
  exact ⟨_, inside, there⟩

/-- An entry found under the code of an address has that address. -/
theorem ieeeSearch_of_unknown (compressed : zbIeeeAddrCompress ieee g = some (g, code))
    (unknown : ¬ KnownIeee g ieee) : ieeeSearch g code = none := by
  cases found : ieeeSearch g code with
  | none => rfl
  | some r =>
      obtain ⟨a, holds⟩ := ieeeSearch_eq_some found
      obtain ⟨inside, used, same, -⟩ := pairs_eq_some.1 holds
      refine absurd ⟨r, inside, used, ?_⟩ unknown
      rw [same]
      exact decompress_compress compressed

/-- **An unknown long address** is looked for without a trace exactly when its
manufacturer is known. -/
theorem byIeee_changesNothing_iff (unknown : ¬ KnownIeee g ieee) :
    ChangesNothing g (.byIeee ieee lock) ↔ MakerKnown g ieee := by
  constructor
  · intro nothing
    obtain ⟨g₁, code, compressed, looked⟩ := zbAddressByIeee_cases nothing
    rcases looked with ⟨ref, -, -, found⟩ | ⟨-, -, same, -⟩ | ⟨-, creating, -⟩
    · cases found
    · subst same
      exact makerKnown_of_compress compressed
    · cases creating
  · intro known
    obtain ⟨code, compressed⟩ := compress_of_makerKnown known
    have failed := ieeeSearch_of_unknown compressed unknown
    simp only [ChangesNothing, zbAddressByIeee, compressed, Option.bind_eq_bind, Option.bind_some,
      failed]
    cases lock <;> rfl

/-- The short address of an unknown long one. -/
theorem shortByIeee_changesNothing_iff (unknown : ¬ KnownIeee g ieee) :
    ChangesNothing g (.shortByIeee ieee) ↔ MakerKnown g ieee := by
  constructor
  · intro nothing
    obtain ⟨⟨g₁, found⟩, looked, answered⟩ := Option.bind_eq_some_iff.1 nothing
    obtain ⟨g₂, code, compressed, outcome⟩ := zbAddressByIeee_cases looked
    rcases outcome with ⟨ref, hit, tables, rfl⟩ | ⟨-, -, same, rfl⟩ | ⟨-, creating, -⟩
    · -- an entry without a short address: the manufacturer is in its tables
      have same : g₁ = g := congrArg Prod.fst (Option.some.inj answered)
      obtain ⟨inside, there⟩ := (compress_interns compressed).named
      rw [← makers_table tables, same] at there
      exact ⟨_, inside, there⟩
    · cases answered
      subst same
      exact makerKnown_of_compress compressed
    · cases creating
  · intro known
    have nothing : ChangesNothing g (.byIeee ieee false) := (byIeee_changesNothing_iff unknown).2 known
    simp only [ChangesNothing] at nothing
    simp only [ChangesNothing, zbAddressShortByIeee, nothing]
    rfl

end Long

/-! ## Any number of lookups -/

section Runs

variable {g : ZbAddrGlobals} {q : Lookup} {qs : List Lookup}

theorem changesNothing_iff (unknown : ¬ Known g q) : ChangesNothing g q ↔ Coded g q := by
  cases q with
  | byIeee ieee lock => exact byIeee_changesNothing_iff unknown
  | byShort shortAddress lock =>
      exact iff_of_true (byShort_changesNothing unknown) trivial
  | shortByIeee ieee => exact shortByIeee_changesNothing_iff unknown

theorem lookupStep_of_changesNothing (nothing : ChangesNothing g q) :
    lookupStep g q = some g := by
  cases q with
  | byIeee ieee lock =>
      have looked : zbAddressByIeee ieee false lock g = _ := nothing
      rw [lookupStep, looked]
      rfl
  | byShort shortAddress lock =>
      have looked : zbAddressByShort shortAddress false lock g = _ := nothing
      rw [lookupStep, looked]
      rfl
  | shortByIeee ieee =>
      have looked : zbAddressShortByIeee ieee g = _ := nothing
      rw [lookupStep, looked]
      rfl

/-- Lookups that change nothing all see the same tables. -/
theorem along_changesNothing_iff :
    Along lookupStep ChangesNothing g qs ↔ ∀ q ∈ qs, ChangesNothing g q := by
  induction qs with
  | nil => simp [Along]
  | cons q qs ih =>
      rw [List.forall_mem_cons, ← ih]
      constructor
      · rintro ⟨nothing, rest⟩
        exact ⟨nothing, rest g (lookupStep_of_changesNothing nothing)⟩
      · rintro ⟨nothing, rest⟩
        refine ⟨nothing, fun t taken => ?_⟩
        rw [lookupStep_of_changesNothing nothing] at taken
        cases taken
        exact rest

end Runs

/-- **Failed lookups change nothing** exactly when the manufacturers of the long addresses
are known: for every state of the tables, and any number of addresses that are not
known in it. -/
theorem failedLookups_iff (g : ZbAddrGlobals) (qs : List Lookup)
    (unknown : ∀ q ∈ qs, ¬ Known g q) :
    Along lookupStep ChangesNothing g qs ↔ ∀ q ∈ qs, Coded g q := by
  rw [along_changesNothing_iff]
  exact forall₂_congr fun q mem => changesNothing_iff (unknown q mem)

theorem not_known_init (q : Lookup) : ¬ Known .init q := by
  cases q with
  | byIeee ieee lock =>
      rintro ⟨r, -, used, -⟩
      cases used
  | byShort shortAddress lock =>
      rintro ⟨r, listed, -⟩
      cases listed
  | shortByIeee ieee =>
      rintro ⟨r, -, used, -⟩
      cases used

/-- Another device of the first maker, and two short addresses. -/
def sameMaker : List Lookup :=
  [.byIeee #v[1, 0, 0, 9, 9, 9, 9, 9] true, .byShort 5 true, .shortByIeee #v[1, 0, 0, 8, 8, 8, 8, 8],
    .byShort 6 false]

theorem failedLookups_sameMaker :
    ∃ g, lookupStep .init (.byIeee (deviceOf 1) false) = some g ∧
      Along lookupStep ChangesNothing g sameMaker := by
  have entered : (lookupStep .init (.byIeee (deviceOf 1) false)).any
      (fun g => decide ((∀ q ∈ sameMaker, ¬ Known g q) ∧ ∀ q ∈ sameMaker, Coded g q)) = true := by
    decide +kernel
  obtain ⟨g, looked, holds⟩ := (Option.any_eq_true _ _).1 entered
  obtain ⟨unknown, coded⟩ := of_decide_eq_true holds
  exact ⟨g, looked, (failedLookups_iff g sameMaker unknown).2 coded⟩

/-- **A failed lookup enters the manufacturer** of the address it did not find. -/
theorem lookup_enters_maker :
    ¬ ∀ (g : ZbAddrGlobals) (qs : List Lookup), (∀ q ∈ qs, ¬ Known g q) →
      Along lookupStep ChangesNothing g qs := by
  intro always
  obtain ⟨nothing, -⟩ := always .init [.byIeee (deviceOf 1) false] fun q _ => not_known_init q
  have entered : (zbAddressByIeee (deviceOf 1) false false .init).map
      (fun r => r.1.usedManufacturer 15) = some true := by decide
  have looked : zbAddressByIeee (deviceOf 1) false false .init = _ := nothing
  rw [looked] at entered
  cases entered

end Zboss.Common.FailedLookup
