/-
# Common.PanIdTable -- the networks that have been heard

Each network heard is kept with its extended and its short PAN id, in a hash table that is
probed from the hash of the extended one.  The table stands for a partial map from extended
PAN ids to a reference and a short one (`networks`).

* `setPanId_spec`: what a call does to the map, in any table without doubles.  A network
  that is in the table already keeps the short PAN id it was entered with.
* `panIdTable_is_map_iff`: the table is a map along a run exactly when no network in it is
  set again with another short PAN id.

Pole: `changed_short_kept`.
-/
import Mathlib
import Zboss.Common.Constants
import Zboss.Theory.Run
import Zboss.Theory.Probe
import Zboss.Common.Address

namespace Zboss.Common.PanIdTable

open Zboss.Common.Constants
open Zboss.Theory.Run
open Zboss.Theory.Probe
open Zboss.Common.Address

set_option autoImplicit false

abbrev ZbExtPanId := Vector UInt8 8

structure ZbPanIdMap where
  longPanid : ZbExtPanId
  shortPanid : UInt16
  deriving DecidableEq

structure PanAddrGlobals where
  panMap : Nat → ZbPanIdMap
  usedPanAddr : Nat → Bool

/-- The zero-initialised table. -/
def PanAddrGlobals.init : PanAddrGlobals where
  panMap _ := ⟨Vector.replicate 8 0, 0⟩
  usedPanAddr _ := false

/-- `ZB_ADDRESS_PAN_ID_HASH`. -/
def zbAddressPanIdHash (panId : ZbExtPanId) : Nat :=
  let h := zbHashFuncStep (zbHashFuncStep (zbHashFuncStep (zbHashFuncStep 5381
    (panId.get 0).toUInt32) (panId.get 2).toUInt32) (panId.get 4).toUInt32) (panId.get 6).toUInt32
  (h &&& 0x7FFFFFFF).toNat % zbPanidTableSize

/-- The loop of `zb_address_set_pan_id` over the places it looks at: where it has found the
network, and the last free place passed until then. -/
def setScan (t : PanAddrGlobals) (panId : ZbExtPanId) :
    List Nat → Option Nat → Option Nat × Option Nat
  | [], freeI => (none, freeI)
  | i :: rest, freeI =>
      if t.usedPanAddr i then
        if (t.panMap i).longPanid = panId then (some i, freeI) else setScan t panId rest freeI
      else setScan t panId rest (some i)

/-- The result of `zb_address_set_pan_id`, with the reference where one is written. -/
inductive SetResult where
  | ok (ref : Nat)
  | alreadyExists (ref : Nat)
  | overflow
  deriving DecidableEq

/-- The network is entered in a place. -/
def entered (t : PanAddrGlobals) (i : Nat) (panId : ZbExtPanId) (shortPanId : UInt16) :
    PanAddrGlobals where
  panMap := Function.update t.panMap i ⟨panId, shortPanId⟩
  usedPanAddr := Function.update t.usedPanAddr i true

/-- If found return ref, otherwise add new pan id. -/
def zbAddressSetPanId (shortPanId : UInt16) (panId : ZbExtPanId) (t : PanAddrGlobals) :
    PanAddrGlobals × SetResult :=
  match setScan t panId (probes (zbAddressPanIdHash panId) zbPanidTableSize) none with
  | (some i, _) => (t, .alreadyExists i)
  | (none, some i) => (entered t i panId shortPanId, .ok i)
  | (none, none) => (t, .overflow)

/-- A used place with the extended PAN id. -/
def heldAt (t : PanAddrGlobals) (panId : ZbExtPanId) (i : Nat) : Bool :=
  t.usedPanAddr i && decide ((t.panMap i).longPanid = panId)

def zbAddressGetPanIdRef (panId : ZbExtPanId) (t : PanAddrGlobals) : Option Nat :=
  probe (heldAt t panId) (zbAddressPanIdHash panId) zbPanidTableSize

/-- `none` is the assertion. -/
def zbAddressGetShortPanId (ref : Nat) (t : PanAddrGlobals) : Option UInt16 :=
  if ref < zbPanidTableSize ∧ t.usedPanAddr ref = true then some (t.panMap ref).shortPanid else none

/-! ## The map -/

/-- **The networks of the table**: the reference and the short PAN id of an extended one. -/
def networks (t : PanAddrGlobals) (panId : ZbExtPanId) : Option (Nat × UInt16) :=
  (zbAddressGetPanIdRef panId t).map fun ref => (ref, (t.panMap ref).shortPanid)

/-- No network occupies two places. -/
def NoDoubles (t : PanAddrGlobals) : Prop :=
  ∀ panId, ∀ i < zbPanidTableSize, ∀ j < zbPanidTableSize,
    heldAt t panId i = true → heldAt t panId j = true → i = j

section Map

variable {t : PanAddrGlobals} {panId other : ZbExtPanId} {i ref : Nat} {shortPanId : UInt16}

theorem heldAt_iff : heldAt t panId i = true ↔
    t.usedPanAddr i = true ∧ (t.panMap i).longPanid = panId := by
  simp [heldAt]

/-- The network is where it is held. -/
theorem getPanIdRef_iff (once : NoDoubles t) :
    zbAddressGetPanIdRef panId t = some i ↔ i < zbPanidTableSize ∧ heldAt t panId i = true :=
  probe_iff (once panId)

theorem networks_of_heldAt (once : NoDoubles t) (inside : i < zbPanidTableSize)
    (held : heldAt t panId i = true) : networks t panId = some (i, (t.panMap i).shortPanid) := by
  rw [networks, (getPanIdRef_iff once).2 ⟨inside, held⟩]
  rfl

theorem networks_eq_none :
    networks t panId = none ↔ ∀ i < zbPanidTableSize, heldAt t panId i = false := by
  rw [networks, Option.map_eq_none_iff]
  exact probe_eq_none

/-- What the two lookups say is what the map says. -/
theorem networks_eq_some : networks t panId = some (ref, shortPanId) ↔
    zbAddressGetPanIdRef panId t = some ref ∧ zbAddressGetShortPanId ref t = some shortPanId := by
  simp only [networks, Option.map_eq_some_iff, Prod.mk.injEq]
  constructor
  · rintro ⟨r, found, rfl, rfl⟩
    obtain ⟨inside, held⟩ := probe_some found
    exact ⟨found, if_pos ⟨inside, (heldAt_iff.1 held).1⟩⟩
  · rintro ⟨found, read⟩
    obtain ⟨inside, held⟩ := probe_some found
    rw [zbAddressGetShortPanId, if_pos ⟨inside, (heldAt_iff.1 held).1⟩] at read
    exact ⟨ref, found, rfl, Option.some.inj read⟩

/-! ## Setting -/

section Scan

variable {is : List Nat} {freeI : Option Nat}

theorem setScan_cons_used (used : t.usedPanAddr i = true) :
    setScan t panId (i :: is) freeI =
      if (t.panMap i).longPanid = panId then (some i, freeI) else setScan t panId is freeI := by
  rw [setScan, if_pos used]

theorem setScan_cons_free (free : t.usedPanAddr i = false) :
    setScan t panId (i :: is) freeI = setScan t panId is (some i) := by
  rw [setScan, if_neg (by rw [free]; exact Bool.false_ne_true)]

/-- The loop finds what the search of `zb_address_get_pan_id_ref` finds. -/
theorem setScan_found : (setScan t panId is freeI).1 = is.find? (heldAt t panId) := by
  induction is generalizing freeI with
  | nil => rfl
  | cons i is ih =>
      cases used : t.usedPanAddr i with
      | true =>
          rw [setScan_cons_used used]
          by_cases same : (t.panMap i).longPanid = panId
          · rw [if_pos same, List.find?_cons_of_pos (heldAt_iff.2 ⟨used, same⟩)]
          · have absent : ¬ heldAt t panId i = true := fun held => same (heldAt_iff.1 held).2
            rw [if_neg same, List.find?_cons_of_neg absent, ih]
      | false =>
          have absent : ¬ heldAt t panId i = true := fun held => by
            rw [(heldAt_iff.1 held).1] at used
            cases used
          rw [setScan_cons_free used, List.find?_cons_of_neg absent, ih]

/-- The place it remembers is free. -/
theorem setScan_free (remembered : (setScan t panId is freeI).2 = some i) :
    freeI = some i ∨ (i ∈ is ∧ t.usedPanAddr i = false) := by
  induction is generalizing freeI with
  | nil => exact Or.inl remembered
  | cons j is ih =>
      have behind {f : Option Nat} (later : f = some i ∨ (i ∈ is ∧ t.usedPanAddr i = false)) :
          f = some i ∨ (i ∈ j :: is ∧ t.usedPanAddr i = false) :=
        later.imp_right fun ⟨mem, free⟩ => ⟨List.mem_cons_of_mem j mem, free⟩
      cases used : t.usedPanAddr j with
      | true =>
          rw [setScan_cons_used used] at remembered
          split at remembered
          · exact Or.inl remembered
          · exact behind (ih remembered)
      | false =>
          rw [setScan_cons_free used] at remembered
          rcases ih remembered with here | later
          · cases here
            exact Or.inr ⟨List.mem_cons_self, used⟩
          · exact behind (Or.inr later)

/-- It remembers one, if one has been passed. -/
theorem setScan_full (missed : (setScan t panId is freeI).1 = none)
    (none_ : (setScan t panId is freeI).2 = none) :
    freeI = none ∧ ∀ i ∈ is, t.usedPanAddr i = true := by
  induction is generalizing freeI with
  | nil => exact ⟨none_, fun i mem => nomatch mem⟩
  | cons j is ih =>
      cases used : t.usedPanAddr j with
      | true =>
          rw [setScan_cons_used used] at missed none_
          split at missed
          · cases missed
          · rename_i other
            rw [if_neg other] at none_
            obtain ⟨before, full⟩ := ih missed none_
            exact ⟨before, List.forall_mem_cons.2 ⟨used, full⟩⟩
      | false =>
          rw [setScan_cons_free used] at missed none_
          obtain ⟨before, -⟩ := ih missed none_
          cases before

end Scan

/-- The network set is the one found, or it is entered in a free place, or every place is
taken by another one. -/
theorem setPanId_cases (shortPanId : UInt16) (panId : ZbExtPanId) (t : PanAddrGlobals) :
    (∃ i, zbAddressGetPanIdRef panId t = some i ∧
        zbAddressSetPanId shortPanId panId t = (t, .alreadyExists i)) ∨
      (∃ i < zbPanidTableSize, zbAddressGetPanIdRef panId t = none ∧ t.usedPanAddr i = false ∧
        zbAddressSetPanId shortPanId panId t = (entered t i panId shortPanId, .ok i)) ∨
      (zbAddressGetPanIdRef panId t = none ∧ (∀ i < zbPanidTableSize, t.usedPanAddr i = true) ∧
        zbAddressSetPanId shortPanId panId t = (t, .overflow)) := by
  have search : (setScan t panId (probes (zbAddressPanIdHash panId) zbPanidTableSize) none).1 =
      zbAddressGetPanIdRef panId t := setScan_found
  unfold zbAddressSetPanId
  split
  · rename_i i freeI scanned
    rw [scanned] at search
    exact Or.inl ⟨i, search.symm, rfl⟩
  · rename_i i scanned
    rw [scanned] at search
    have remembered := setScan_free (congrArg Prod.snd scanned)
    obtain ⟨mem, free⟩ := remembered.resolve_left nofun
    exact Or.inr (Or.inl ⟨i, mem_probes.1 mem, search.symm, free, rfl⟩)
  · rename_i scanned
    rw [scanned] at search
    obtain ⟨-, full⟩ := setScan_full (congrArg Prod.fst scanned) (congrArg Prod.snd scanned)
    exact Or.inr (Or.inr ⟨search.symm, fun i inside => full i (mem_probes.2 inside), rfl⟩)

theorem heldAt_entered_self :
    heldAt (entered t i panId shortPanId) other i = decide (panId = other) := by
  simp [heldAt, entered]

theorem heldAt_entered_of_ne {j : Nat} (ne : j ≠ i) :
    heldAt (entered t i panId shortPanId) other j = heldAt t other j := by
  simp [heldAt, entered, ne]

theorem NoDoubles.entered (once : NoDoubles t)
    (absent : zbAddressGetPanIdRef panId t = none) :
    NoDoubles (entered t i panId shortPanId) := by
  have nowhere := probe_eq_none.1 absent
  intro other j insideJ k insideK heldJ heldK
  by_cases atJ : j = i
  · by_cases atK : k = i
    · rw [atJ, atK]
    · rw [atJ, heldAt_entered_self] at heldJ
      rw [heldAt_entered_of_ne atK, ← of_decide_eq_true heldJ, nowhere k insideK] at heldK
      cases heldK
  · by_cases atK : k = i
    · rw [atK, heldAt_entered_self] at heldK
      rw [heldAt_entered_of_ne atJ, ← of_decide_eq_true heldK, nowhere j insideJ] at heldJ
      cases heldJ
    · rw [heldAt_entered_of_ne atJ] at heldJ
      rw [heldAt_entered_of_ne atK] at heldK
      exact once other j insideJ k insideK heldJ heldK

/-- Entering a network adds it to the map, and changes nothing else there. -/
theorem networks_entered (once : NoDoubles t) (inside : i < zbPanidTableSize)
    (free : t.usedPanAddr i = false) (absent : zbAddressGetPanIdRef panId t = none) :
    networks (entered t i panId shortPanId) =
      Function.update (networks t) panId (some (i, shortPanId)) := by
  have once' : NoDoubles (entered t i panId shortPanId) := once.entered absent
  funext other
  by_cases same : other = panId
  · subst same
    rw [Function.update_self, networks_of_heldAt once' inside (by simp [heldAt_entered_self])]
    simp [entered]
  · rw [Function.update_of_ne same]
    cases before : networks t other with
    | none =>
        rw [networks_eq_none] at before ⊢
        intro j insideJ
        by_cases atJ : j = i
        · rw [atJ, heldAt_entered_self]
          exact decide_eq_false (Ne.symm same)
        · rw [heldAt_entered_of_ne atJ]
          exact before j insideJ
    | some found =>
        obtain ⟨j, short⟩ := found
        obtain ⟨located, -⟩ := networks_eq_some.1 before
        obtain ⟨insideJ, heldJ⟩ := probe_some located
        have ne : j ≠ i := by
          rintro rfl
          rw [(heldAt_iff.1 heldJ).1] at free
          cases free
        rw [networks_of_heldAt once' insideJ ((heldAt_entered_of_ne ne).trans heldJ), ← before,
          networks_of_heldAt once insideJ heldJ]
        simp [entered, ne]

/-- **What a call does to the map.**  A network that is new is entered with its short PAN
id, one that is there keeps the one it has, and a full table stays as it is. -/
theorem setPanId_spec (once : NoDoubles t) (shortPanId : UInt16) (panId : ZbExtPanId) :
    NoDoubles (zbAddressSetPanId shortPanId panId t).1 ∧
      match (zbAddressSetPanId shortPanId panId t).2 with
      | .ok ref => networks t panId = none ∧ networks (zbAddressSetPanId shortPanId panId t).1 =
          Function.update (networks t) panId (some (ref, shortPanId))
      | .alreadyExists ref => (∃ old, networks t panId = some (ref, old)) ∧
          (zbAddressSetPanId shortPanId panId t).1 = t
      | .overflow => networks t panId = none ∧ (zbAddressSetPanId shortPanId panId t).1 = t := by
  rcases setPanId_cases shortPanId panId t with ⟨i, found, set⟩ | ⟨i, inside, absent, free, set⟩ |
    ⟨absent, -, set⟩
  · rw [set]
    exact ⟨once, ⟨(t.panMap i).shortPanid, by rw [networks, found]; rfl⟩, rfl⟩
  · have none_ : networks t panId = none := by rw [networks, absent]; rfl
    rw [set]
    exact ⟨once.entered absent, none_, networks_entered once inside free absent⟩
  · have none_ : networks t panId = none := by rw [networks, absent]; rfl
    rw [set]
    exact ⟨once, none_, rfl⟩

end Map

/-! ## Runs -/

/-- A network is heard, with its short and its extended PAN id. -/
structure Heard where
  shortPanId : UInt16
  panId : ZbExtPanId

def panStep (t : PanAddrGlobals) (heard : Heard) : Option PanAddrGlobals :=
  some (zbAddressSetPanId heard.shortPanId heard.panId t).1

/-- **The call sets the network**: unless the table is full it can be looked up under the
reference returned and has the short PAN id given, the other networks are as they were,
and no network is there twice. -/
def SetsNetwork (t : PanAddrGlobals) (heard : Heard) : Prop :=
  let r := zbAddressSetPanId heard.shortPanId heard.panId t
  (∀ ref, r.2 = .ok ref ∨ r.2 = .alreadyExists ref →
    zbAddressGetPanIdRef heard.panId r.1 = some ref ∧
      zbAddressGetShortPanId ref r.1 = some heard.shortPanId) ∧
    (∀ other, other ≠ heard.panId → networks r.1 other = networks t other) ∧ NoDoubles r.1

/-- A network that is in the table has the short PAN id it had. -/
def ShortKept (t : PanAddrGlobals) (heard : Heard) : Prop :=
  ∀ i < zbPanidTableSize, t.usedPanAddr i = true → (t.panMap i).longPanid = heard.panId →
    (t.panMap i).shortPanid = heard.shortPanId

instance (t : PanAddrGlobals) (heard : Heard) : Decidable (ShortKept t heard) :=
  inferInstanceAs (Decidable (∀ i < zbPanidTableSize, _ → _ → _))

section Runs

variable {t : PanAddrGlobals} {heard : Heard}

/-- The others are as they were in any case. -/
theorem setPanId_others (once : NoDoubles t) {other : ZbExtPanId} (ne : other ≠ heard.panId) :
    networks (zbAddressSetPanId heard.shortPanId heard.panId t).1 other = networks t other := by
  obtain ⟨-, what⟩ := setPanId_spec once heard.shortPanId heard.panId
  split at what
  · rw [what.2, Function.update_of_ne ne]
  · rw [what.2]
  · rw [what.2]

theorem shortKept_iff (once : NoDoubles t) :
    ShortKept t heard ↔ ∀ ref old, networks t heard.panId = some (ref, old) →
      old = heard.shortPanId := by
  constructor
  · intro kept ref old there
    obtain ⟨located, -⟩ := networks_eq_some.1 there
    obtain ⟨inside, held⟩ := probe_some located
    obtain ⟨used, same⟩ := heldAt_iff.1 held
    rw [networks_of_heldAt once inside held] at there
    cases there
    exact kept ref inside used same
  · intro kept i inside used same
    exact kept i _ (networks_of_heldAt once inside (heldAt_iff.2 ⟨used, same⟩))

/-- **One call**, in any table without doubles. -/
theorem setsNetwork_iff (once : NoDoubles t) : SetsNetwork t heard ↔ ShortKept t heard := by
  rw [shortKept_iff once]
  obtain ⟨once', what⟩ := setPanId_spec once heard.shortPanId heard.panId
  constructor
  · rintro ⟨sets, -, -⟩ ref old there
    split at what
    · rw [what.1] at there
      cases there
    · rename_i ref' result
      obtain ⟨⟨old', found⟩, same⟩ := what
      have now := networks_eq_some.2 (sets ref' (Or.inr result))
      rw [same, there] at now
      cases now
      rfl
    · rw [what.1] at there
      cases there
  · intro kept
    refine ⟨fun ref result => ?_, fun other ne => setPanId_others once ne, once'⟩
    rw [← networks_eq_some]
    rcases result with result | result
    · rw [result] at what
      rw [what.2, Function.update_self]
    · rw [result] at what
      obtain ⟨⟨old, found⟩, same⟩ := what
      rw [same, found, kept ref old found]

theorem noDoubles_init : NoDoubles .init := by
  intro panId i inside j insideJ held
  cases (heldAt_iff.1 held).1

theorem noDoubles_step (t : PanAddrGlobals) (heard : Heard) (t' : PanAddrGlobals)
    (once : NoDoubles t) (taken : panStep t heard = some t') : NoDoubles t' := by
  cases taken
  exact (setPanId_spec once _ _).1

end Runs

/-- **The table is a map** along a run from the empty table exactly when every network that
is set again still has the short PAN id it was entered with. -/
theorem panIdTable_is_map_iff (calls : List Heard) :
    Along panStep SetsNetwork .init calls ↔ Along panStep ShortKept .init calls :=
  along_congr (fun t heard t' once _ taken => noDoubles_step t heard t' once taken)
    (fun _ _ once => setsNetwork_iff once) noDoubles_init

def someNetwork : ZbExtPanId := #v[1, 2, 3, 4, 5, 6, 7, 9]

/-- **A network that has changed its short PAN id keeps the old one.** -/
theorem changed_short_kept :
    ¬ ∀ calls : List Heard, Along panStep SetsNetwork .init calls := by
  intro always
  have second := (always [⟨0x1111, someNetwork⟩, ⟨0x2222, someNetwork⟩]).2 _ rfl
  obtain ⟨sets, -, -⟩ := second.1
  have result : (zbAddressSetPanId 0x2222 someNetwork
      (zbAddressSetPanId 0x1111 someNetwork .init).1).2 = .alreadyExists 4 := by decide
  have read : zbAddressGetShortPanId 4 (zbAddressSetPanId 0x2222 someNetwork
      (zbAddressSetPanId 0x1111 someNetwork .init).1).1 = some 0x1111 := by decide
  rw [(sets 4 (Or.inr result)).2] at read
  cases read

end Zboss.Common.PanIdTable
