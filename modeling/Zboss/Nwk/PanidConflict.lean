/-
# Nwk.PanidConflict -- the PAN identifier that resolves a conflict

The network manager learns of a conflict from a report, with the identifiers that are known, or
from a beacon; it draws a new identifier and announces it.  The loop that draws goes on while the
draw is zero *and* none of the known ones: any other draw is announced, be it known, the one in use,
or the broadcast identifier.

* `Fresh`: what is claimed of the identifier announced;
* `announcesFresh_iff`: it is fresh iff the draw that comes first is (`DrawsFresh`), whatever led to
  the announcement;
* `broadcast_announced`: no list of known identifiers keeps the broadcast one from being announced.

Pole: `known_announced`, an identifier of the report.
-/
import Mathlib
import Zboss.Common.Constants
import Zboss.Theory.Retry
import Zboss.Nwk.Formation

namespace Zboss.Nwk.PanidConflict

open Zboss.Common.Constants
open Zboss.Theory.Retry
open Zboss.Nwk.Formation

set_option autoImplicit false

/-! ## State -/

/-- `known_panids` -/
abbrev KnownPanids := Vector UInt16 zbPanidTableSize

/-- What the resolution uses of `ZG->nwk.handle`, and the identifier in use. -/
structure PanidHandle where
  state : ZbNlmeState
  panidConflict : Bool
  knownPanids : KnownPanids
  newPanid : UInt16
  panId : UInt16
  deriving DecidableEq

/-! ## The known identifiers -/

/-- The report is copied over zeros, as far as there is room; `panids` is the frame. -/
def knownFromReport (panids : Nat → UInt16) (nPanids : UInt8) : KnownPanids :=
  .ofFn fun i => if i < nPanids.toNat then panids i else 0

def zbPanidConflictRememberPanid (panid : UInt16) (known : KnownPanids) : KnownPanids :=
  match known.toList.findIdx? fun k => k == panid || k == 0 with
  | some i => known.setIfInBounds i panid
  | none => known

/-- A router that is not the manager collects identifiers for its report. -/
def zbPanidConflictScheduleNetworkReport (panid : UInt16) (s : PanidHandle) : PanidHandle :=
  if s.panidConflict ∧ s.newPanid ≠ 0 ∧ s.newPanid ≠ panid then s
  else if s.panidConflict then
    { s with knownPanids := zbPanidConflictRememberPanid panid s.knownPanids }
  else
    { s with
      knownPanids := zbPanidConflictRememberPanid panid (.replicate zbPanidTableSize 0)
      panidConflict := true
      newPanid := 0 }

/-- Whether the report leads to an update. -/
def zbPanidConflictGotNetworkReport (panids : Nat → UInt16) (nPanids : UInt8) (s : PanidHandle) :
    PanidHandle × Bool :=
  if s.state = .panidConflictResolution ∨ s.panidConflict then (s, false)
  else ({ s with knownPanids := knownFromReport panids nPanids, state := .idle }, true)

/-- A beacon of another network with the identifier in use: the manager is to update. -/
def beaconConflict (isManager : Bool) (srcPanId : UInt16) (s : PanidHandle) : PanidHandle × Bool :=
  if isManager then
    ({ s with knownPanids := .replicate zbPanidTableSize 0xFFFF, state := .idle }, true)
  else (zbPanidConflictScheduleNetworkReport srcPanId s, false)

/-! ## The draw -/

/-- The inner loop: where the identifier is, or the size of the table. -/
def searchKnown (known : KnownPanids) (panid : UInt16) : Nat :=
  known.toList.findIdx (· == panid)

/-- The loop ends at this draw. -/
def endsLoop (known : KnownPanids) (draw : UInt16) : Bool :=
  !(draw == 0 && searchKnown known draw == zbPanidTableSize)

/-- `random` is the source, of which `drawn` values are used. -/
def zbPanidConflictNetworkUpdate (random : Nat → UInt16) (fuel drawn : Nat) (s : PanidHandle) :
    Option (PanidHandle × Nat) :=
  (retry (endsLoop s.knownPanids) random fuel drawn).map fun (newPanid, drawn) =>
    ({ s with newPanid }, drawn)

inductive ConflictCall where
  | networkReport (panids : Nat → UInt16) (nPanids : UInt8)
  | beacon (isManager : Bool) (srcPanId : UInt16)
  /-- `zb_panid_conflict_network_update`, whatever is known. -/
  | networkUpdate

/-- What is known when the loop is reached, and whether it is. -/
def ConflictCall.prepare (s : PanidHandle) : ConflictCall → PanidHandle × Bool
  | .networkReport panids nPanids => zbPanidConflictGotNetworkReport panids nPanids s
  | .beacon isManager srcPanId => beaconConflict isManager srcPanId s
  | .networkUpdate => (s, true)

/-- Whether an identifier is announced; `none` is a loop that has not ended. -/
def conflictCall (random : Nat → UInt16) (fuel drawn : Nat) (s : PanidHandle)
    (call : ConflictCall) : Option (PanidHandle × Nat × Bool) :=
  let (s, update) := call.prepare s
  if update then
    (zbPanidConflictNetworkUpdate random fuel drawn s).map fun (s, drawn) => (s, drawn, true)
  else some (s, drawn, false)

/-! ## What is claimed -/

/-- **The identifier is fresh.** -/
structure Fresh (s : PanidHandle) : Prop where
  nonzero : s.newPanid ≠ 0
  single : s.newPanid ≠ 0xFFFF
  unknown : s.newPanid ∉ s.knownPanids.toList
  other : s.newPanid ≠ s.panId

/-- Of what is announced, if the call returns. -/
def AnnouncesFresh (random : Nat → UInt16) (drawn : Nat) (s : PanidHandle) (call : ConflictCall) :
    Prop :=
  ∀ fuel t drawn', conflictCall random fuel drawn s call = some (t, drawn', true) → Fresh t

/-- **The condition**: the first value drawn or, where none of the known identifiers is zero, the
first that is not zero, is not the broadcast identifier, not known and not in use. -/
def DrawsFresh (random : Nat → UInt16) (drawn : Nat) (s : PanidHandle) : Prop :=
  ∀ n, (∀ i < n, random (drawn + i) = 0 ∧ 0 ∉ s.knownPanids.toList) →
    (random (drawn + n) ≠ 0 ∨ 0 ∈ s.knownPanids.toList) →
      random (drawn + n) ≠ 0xFFFF ∧ random (drawn + n) ∉ s.knownPanids.toList ∧
        random (drawn + n) ≠ s.panId

/-! ## When the identifier is fresh -/

section Draw

variable {random : Nat → UInt16} {fuel drawn drawn' : Nat} {s t : PanidHandle}

theorem searchKnown_eq_size {known : KnownPanids} {panid : UInt16} :
    searchKnown known panid = zbPanidTableSize ↔ panid ∉ known.toList := by
  have length : known.toList.length = zbPanidTableSize := known.length_toList
  have none_ : searchKnown known panid = zbPanidTableSize ↔
      ∀ k ∈ known.toList, (k == panid) = false := by
    rw [searchKnown, ← List.findIdx_eq_length, length]
  rw [none_]
  constructor
  · intro none_ mem
    have other := none_ panid mem
    rw [beq_self_eq_true] at other
    cases other
  · intro absent k mem
    rw [beq_eq_false_iff_ne]
    rintro rfl
    exact absent mem

theorem endsLoop_iff {known : KnownPanids} {draw : UInt16} :
    endsLoop known draw = true ↔ draw ≠ 0 ∨ 0 ∈ known.toList := by
  rw [endsLoop, Bool.not_eq_true', Bool.and_eq_false_iff, beq_eq_false_iff_ne, beq_eq_false_iff_ne,
    Ne, Ne, searchKnown_eq_size, not_not]
  constructor
  · rintro (some_ | mem)
    · exact .inl some_
    · by_cases zero : draw = 0
      · exact .inr (zero ▸ mem)
      · exact .inl zero
  · rintro (some_ | mem)
    · exact .inl some_
    · by_cases zero : draw = 0
      · exact .inr (zero ▸ mem)
      · exact .inl zero

/-- **All that an update can announce**: the draw that comes first. -/
theorem networkUpdate_iff :
    zbPanidConflictNetworkUpdate random fuel drawn s = some (t, drawn') ↔
      ∃ n < fuel, (∀ i < n, random (drawn + i) = 0 ∧ 0 ∉ s.knownPanids.toList) ∧
        (random (drawn + n) ≠ 0 ∨ 0 ∈ s.knownPanids.toList) ∧
        t = { s with newPanid := random (drawn + n) } ∧ drawn' = drawn + n + 1 := by
  have passes : ∀ i, endsLoop s.knownPanids (random i) = false ↔
      random i = 0 ∧ 0 ∉ s.knownPanids.toList := by
    intro i
    rw [← Bool.not_eq_true, endsLoop_iff, not_or, not_not]
  rw [zbPanidConflictNetworkUpdate, Option.map_eq_some_iff]
  constructor
  · rintro ⟨⟨newPanid, k⟩, returns, is⟩
    cases is
    obtain ⟨n, lt, passed, ends, rfl, rfl⟩ := retry_eq_some_iff.1 returns
    exact ⟨n, lt, fun i before => (passes _).1 (passed i before), endsLoop_iff.1 ends, rfl, rfl⟩
  · rintro ⟨n, lt, passed, ends, rfl, rfl⟩
    refine ⟨(random (drawn + n), drawn + n + 1), ?_, rfl⟩
    exact retry_eq_some_iff.2
      ⟨n, lt, fun i before => (passes _).2 (passed i before), endsLoop_iff.2 ends, rfl, rfl⟩

/-- The identifier of an update is fresh iff the draw is. -/
theorem update_fresh_iff :
    (∀ fuel t drawn', zbPanidConflictNetworkUpdate random fuel drawn s = some (t, drawn') →
      Fresh t) ↔ DrawsFresh random drawn s := by
  constructor
  · intro fresh n passed ends
    have is := fresh (n + 1) _ _
      (networkUpdate_iff.2 ⟨n, Nat.lt_succ_self n, passed, ends, rfl, rfl⟩)
    exact ⟨is.single, is.unknown, is.other⟩
  · intro draws fuel t drawn' returns
    obtain ⟨n, -, passed, ends, rfl, -⟩ := networkUpdate_iff.1 returns
    obtain ⟨single, unknown, other⟩ := draws n passed ends
    refine ⟨?_, single, unknown, other⟩
    intro zero
    have zero : random (drawn + n) = 0 := zero
    rcases ends with some_ | mem
    · exact some_ zero
    · rw [zero] at unknown
      exact unknown mem

end Draw

/-- **What is announced is fresh iff the draw that comes first is**, for a report of any length, a
beacon, and an update with anything known. -/
theorem announcesFresh_iff (random : Nat → UInt16) (drawn : Nat) (s : PanidHandle)
    (call : ConflictCall) :
    AnnouncesFresh random drawn s call ↔
      ((call.prepare s).2 = true → DrawsFresh random drawn (call.prepare s).1) := by
  rw [AnnouncesFresh, ← update_fresh_iff]
  constructor
  · intro fresh update fuel t drawn' returns
    refine fresh fuel t drawn' ?_
    rw [conflictCall]
    dsimp only
    rw [if_pos update, returns]
    rfl
  · intro fresh fuel t drawn' called
    rw [conflictCall] at called
    dsimp only at called
    split at called
    · rename_i update
      obtain ⟨⟨u, k⟩, returns, is⟩ := Option.map_eq_some_iff.1 called
      cases is
      exact fresh update fuel _ _ returns
    · cases called

/-- **The broadcast identifier is announced** when it is drawn, whatever is known. -/
theorem broadcast_announced (s : PanidHandle) :
    ∃ t, zbPanidConflictNetworkUpdate (fun _ => 0xFFFF) 1 0 s = some (t, 1) ∧
      t.newPanid = 0xFFFF := by
  refine ⟨{ s with newPanid := 0xFFFF }, ?_, rfl⟩
  exact networkUpdate_iff.2
    ⟨0, Nat.one_pos, fun i lt => absurd lt (Nat.not_lt_zero i), .inl (by decide), rfl, rfl⟩

/-! ## Poles -/

/-- A manager in a network 0x1aaa. -/
def manager : PanidHandle := ⟨.idle, false, .replicate zbPanidTableSize 0, 0, 0x1aaa⟩

/-- **A known identifier is announced**: one of the report is drawn. -/
theorem known_announced :
    ¬ ∀ random drawn s call, AnnouncesFresh random drawn s call := by
  intro all
  have fresh := all (fun _ => 0x1bbb) 0 manager
    (.networkReport (fun i => if i = 0 then 0x1aaa else 0x1bbb) 2) 1 _ _ rfl
  exact fresh.unknown (by decide)

end Zboss.Nwk.PanidConflict
