/-
# Nwk.LockedRefs -- what a lock on an address is worth

An entry that is locked should stay what it is until its last lock is gone:
`LocksProtect`.  The address table keeps to that, the calls that drop a device do
not ask.  `LocksRespected` is the condition on a step: what it drops is not locked,
what it locks is in use, and an update that finds a locked entry by its short
address brings the long address the entry is known by.  `step_kept` is the step
lemma, by cases of the call; `locks_protect` carries it over every history.

Pole: `forgotten_while_locked`, a device that announces itself, becomes a neighbour
and leaves.  Its entry is dropped with two locks on it.
-/
import Mathlib
import Zboss.Common.AddressHolds
import Zboss.Nwk.Forget

namespace Zboss.Nwk.LockedRefs

open Zboss.Theory.Run
open Zboss.Common.Types
open Zboss.Common.Address
open Zboss.Common.AddressRun
open Zboss.Common.AddressHolds
open Zboss.Nwk.Neighbor
open Zboss.Nwk.Forget

set_option autoImplicit false

def lockCnt (s : NwkContext) (r : Nat) : Nat := (s.addr.addrMap r).lockCnt

def used (s : NwkContext) (r : Nat) : Bool := (s.addr.addrMap r).used

/-- How often a call locks the entry it returns. -/
def locksTaken : StackCall → Nat
  | .address (.byIeee _ _ lock) => if lock then 1 else 0
  | .address (.byShort _ _ lock) => if lock then 1 else 0
  | .address (.update _ _ lock) => if lock then 1 else 0
  | _ => 0

/-- **A lock protects its entry** in a history: from any point on, as long as it is
locked, the entry stays in use and is known by the same long address; and an entry
that a call puts in use has the locks of that call and no others. -/
structure LocksProtect (start : NwkContext) (calls : List StackCall) : Prop where
  keeps : ∀ before during after, calls = before ++ during ++ after →
    ∀ s t r, run stackStep start before = some s → run stackStep s during = some t →
      0 < lockCnt s r → Along stackStep (fun s _ => 0 < lockCnt s r) s during →
      used t r = true ∧
        ∀ ieee, knownIeee s.addr r = some ieee → knownIeee t.addr r = some ieee
  fresh : ∀ before call after, calls = before ++ call :: after →
    ∀ s t r, run stackStep start before = some s → stackStep s call = some t →
      used s r = false → used t r = true → lockCnt t r = locksTaken call

/-- Leaving forgets the device's own entry. -/
def LeaveRespects (s : NwkContext) (rejoin : Bool) : Prop :=
  rejoin = false → ∀ ref ∈ shortSearch s.addr s.networkAddress, lockCnt s ref = 0

/-- What a response that was not delivered finds. -/
def responseFound (s : NwkContext) : ResponseDst → Option Nat
  | .long addrLong => foundLong s.addr addrLong
  | .short addrShort => shortSearch s.addr addrShort

/-- The entry of a device that left, found by one of its addresses. -/
def leftFound (s : NwkContext) (deviceShortAddress : UInt16) (deviceAddress : ZbIeeeAddr) :
    Option Nat :=
  (shortSearch s.addr deviceShortAddress).or (foundLong s.addr deviceAddress)

/-- **The condition under which a call respects the locks.** -/
def LocksRespected (s : NwkContext) : StackCall → Prop
  | .address (.update ieee a _) => UpdateRespects s.addr ieee a
  | .address (.delete ref) => lockCnt s ref = 0
  | .lock ref => used s ref = true
  | .neighborGet ref createIfAbsent => createIfAbsent = true → used s ref = true
  | .leaveHandler srcAddr request => request = false →
      ∀ ref ∈ shortSearch s.addr srcAddr, s.neighbor.addrToNeighbor ref = 255 →
        lockCnt s ref = 0
  | .forgetDevice ref => lockCnt s ref = 0
  | .doLeave rejoin => LeaveRespects s rejoin
  | .leaveIndication deviceAddress rejoin =>
      if zbIeeeAddrIsZero deviceAddress = true then LeaveRespects s rejoin
      else ∀ ref ∈ foundLong s.addr deviceAddress, s.neighbor.addrToNeighbor ref ≠ 255 →
        lockCnt s
          (s.neighbor.baseNeighbor (s.neighbor.addrToNeighbor ref).toNat).addrRef = 0
  | .updateDevice left deviceShortAddress deviceAddress => left = true →
      ∀ ref ∈ leftFound s deviceShortAddress deviceAddress, lockCnt s ref = 0
  | .commStatus dstAddr success => success = false →
      ∀ ref ∈ responseFound s dstAddr, s.neighbor.addrToNeighbor ref ≠ 255 → lockCnt s ref = 0
  | _ => True

instance (g : ZbAddrGlobals) (ieee : ZbIeeeAddr) (a : UInt16) :
    Decidable (UpdateRespects g ieee a) :=
  inferInstanceAs (Decidable (_ ∧ _))

instance (s : NwkContext) (rejoin : Bool) : Decidable (LeaveRespects s rejoin) :=
  inferInstanceAs (Decidable (_ → _))

instance (s : NwkContext) : (call : StackCall) → Decidable (LocksRespected s call)
  | .address (.byIeee ..) => isTrue trivial
  | .address (.byShort ..) => isTrue trivial
  | .address (.update ieee a _) => inferInstanceAs (Decidable (UpdateRespects s.addr ieee a))
  | .address (.delete _) => inferInstanceAs (Decidable (_ = _))
  | .lock _ => inferInstanceAs (Decidable (_ = _))
  | .unlock _ => isTrue trivial
  | .neighborGet .. => inferInstanceAs (Decidable (_ → _))
  | .neighborDelete _ => isTrue trivial
  | .leaveHandler .. => inferInstanceAs (Decidable (_ → _))
  | .forgetDevice _ => inferInstanceAs (Decidable (_ = _))
  | .doLeave rejoin => inferInstanceAs (Decidable (LeaveRespects s rejoin))
  | .leaveIndication deviceAddress rejoin =>
      inferInstanceAs (Decidable (if zbIeeeAddrIsZero deviceAddress = true then
        LeaveRespects s rejoin
      else ∀ ref ∈ foundLong s.addr deviceAddress, s.neighbor.addrToNeighbor ref ≠ 255 →
        lockCnt s
          (s.neighbor.baseNeighbor (s.neighbor.addrToNeighbor ref).toNat).addrRef = 0))
  | .updateDevice .. => inferInstanceAs (Decidable (_ → _))
  | .commStatus .. => inferInstanceAs (Decidable (_ → _))
  | .setNetworkAddress _ => isTrue trivial

/-! ## The parts of a call -/

section Parts

variable {s t : NwkContext} {ref : Nat}

/-- A part of a call that is quiet on the address table and leaves the rest. -/
structure Looked (s t : NwkContext) : Prop where
  ok : HoldsOk t.addr
  quiet : Quiet s.addr t.addr
  neighbor : t.neighbor = s.neighbor
  networkAddress : t.networkAddress = s.networkAddress

theorem byShort_looked {a : UInt16} {res : Except ZbRet Nat} (ok : HoldsOk s.addr)
    (taken : s.byShort a = some (t, res)) :
    Looked s t ∧ (∀ ref, res = .ok ref → shortSearch s.addr a = some ref) ∧
      ∀ status, res = .error status → shortSearch s.addr a = none ∧ t = s := by
  simp only [NwkContext.byShort, Option.bind_eq_bind, Option.bind_eq_some_iff] at taken
  obtain ⟨⟨g, found⟩, looked, done⟩ := taken
  cases done
  obtain ⟨ok', quiet, here, missed⟩ := lookupShort_quiet ok looked
  refine ⟨⟨ok', quiet, rfl, rfl⟩, here, fun status failed => ?_⟩
  obtain ⟨absent, same⟩ := missed status failed
  exact ⟨absent, by rw [same]⟩

theorem byIeee_looked {ieee : ZbIeeeAddr} {res : Except ZbRet Nat} (ok : HoldsOk s.addr)
    (taken : s.byIeee ieee = some (t, res)) :
    Looked s t ∧ ∀ ref, res = .ok ref → foundLong s.addr ieee = some ref := by
  simp only [NwkContext.byIeee, Option.bind_eq_bind, Option.bind_eq_some_iff] at taken
  obtain ⟨⟨g, found⟩, looked, done⟩ := taken
  cases done
  obtain ⟨ok', quiet, here⟩ := lookupIeee_quiet ok looked
  exact ⟨⟨ok', quiet, rfl, rfl⟩, here⟩

/-- Looking for a neighbour changes nothing. -/
theorem neighborGet_found {res : Except ZbRet Nat}
    (taken : s.neighborGet ref false = some (t, res)) :
    t = s ∧ (s.neighbor.addrToNeighbor ref = 255 ∧ res = .error .notFound ∨
      s.neighbor.addrToNeighbor ref ≠ 255 ∧
        res = .ok (s.neighbor.addrToNeighbor ref).toNat) := by
  simp only [NwkContext.neighborGet, zbNwkNeighborGet, Option.bind_eq_bind,
    Option.bind_eq_some_iff] at taken
  obtain ⟨⟨g, tbl, got⟩, looked, done⟩ := taken
  cases done
  split at looked
  · rename_i absent
    cases looked
    exact ⟨rfl, Or.inl ⟨absent, rfl⟩⟩
  · rename_i there
    cases looked
    exact ⟨rfl, Or.inr ⟨there, rfl⟩⟩

theorem neighborGet_kept {createIfAbsent : Bool} {res : Except ZbRet Nat} (ok : HoldsOk s.addr)
    (inUse : createIfAbsent = true → used s ref = true)
    (taken : s.neighborGet ref createIfAbsent = some (t, res)) :
    HoldsOk t.addr ∧ Kept 0 s.addr t.addr := by
  simp only [NwkContext.neighborGet, zbNwkNeighborGet, Option.bind_eq_bind,
    Option.bind_eq_some_iff] at taken
  obtain ⟨⟨g, tbl, got⟩, looked, done⟩ := taken
  cases done
  have still : HoldsOk s.addr ∧ Kept 0 s.addr s.addr := ⟨ok, (Quiet.refl ok).kept⟩
  split at looked
  · split at looked
    · rename_i creating
      split at looked
      · cases looked
        exact still
      · obtain ⟨g₁, locked, made⟩ := Option.bind_eq_some_iff.1 looked
        cases made
        obtain ⟨ok', kept, -⟩ := lock_kept 0 ok (inUse creating) locked
        exact ⟨ok', kept⟩
    · cases looked
      exact still
  · cases looked
    exact still

/-- Dropping an entry that has no lock. -/
theorem delete_kept (ok : HoldsOk s.addr) (unlocked : lockCnt s ref = 0) :
    HoldsOk (s.delete ref).addr ∧ Quiet s.addr (s.delete ref).addr :=
  delete_quiet ok unlocked

theorem forget_kept (ok : HoldsOk s.addr) (unlocked : lockCnt s ref = 0) :
    HoldsOk (zbNwkForgetDevice ref s).addr ∧ Quiet s.addr (zbNwkForgetDevice ref s).addr :=
  delete_quiet ok unlocked

/-- The same after something was looked up. -/
theorem Looked.forget (looked : Looked s t) (unlocked : lockCnt s ref = 0) :
    HoldsOk (zbNwkForgetDevice ref t).addr ∧ Quiet s.addr (zbNwkForgetDevice ref t).addr := by
  have still : lockCnt t ref = 0 := (looked.quiet.locks ref).trans unlocked
  obtain ⟨ok, quiet⟩ := forget_kept looked.ok still
  exact ⟨ok, looked.quiet.trans quiet⟩

end Parts

/-! ## The calls -/

section Calls

variable {s t : NwkContext}

theorem leaveHandler_quiet {srcAddr : UInt16} {request : Bool} (ok : HoldsOk s.addr)
    (respected : LocksRespected s (.leaveHandler srcAddr request))
    (taken : zbNwkLeaveHandler srcAddr request s = some t) :
    HoldsOk t.addr ∧ Quiet s.addr t.addr := by
  simp only [zbNwkLeaveHandler, Option.bind_eq_bind, Option.bind_eq_some_iff] at taken
  obtain ⟨⟨s₁, found⟩, byShort, rest⟩ := taken
  obtain ⟨looked, here, -⟩ := byShort_looked ok byShort
  cases found with
  | error status =>
      cases rest
      exact ⟨looked.ok, looked.quiet⟩
  | ok ref =>
      obtain ⟨⟨s₂, got⟩, neighbor, rest⟩ := Option.bind_eq_some_iff.1 rest
      obtain ⟨rfl, ⟨absent, rfl⟩ | ⟨-, rfl⟩⟩ := neighborGet_found neighbor
      · cases rest
        dsimp only
        split
        · exact ⟨looked.ok, looked.quiet⟩
        · rename_i leaves
          have unlocked := respected (by simpa using leaves) ref (here ref rfl)
            (looked.neighbor ▸ absent)
          have still : lockCnt s₂ ref = 0 := (looked.quiet.locks ref).trans unlocked
          obtain ⟨deleted, quiet⟩ := delete_kept looked.ok still
          exact ⟨deleted, looked.quiet.trans quiet⟩
      · cases rest
        exact ⟨looked.ok, looked.quiet⟩

theorem doLeave_quiet {rejoin : Bool} (ok : HoldsOk s.addr) (respected : LeaveRespects s rejoin)
    (taken : zbNwkDoLeave rejoin s = some t) : HoldsOk t.addr ∧ Quiet s.addr t.addr := by
  simp only [zbNwkDoLeave] at taken
  split at taken
  · cases taken
    exact ⟨ok, Quiet.refl ok⟩
  · rename_i leaves
    simp only [Option.bind_eq_bind, Option.bind_eq_some_iff] at taken
    obtain ⟨⟨s₁, found⟩, byShort, rest⟩ := taken
    obtain ⟨looked, here, -⟩ := byShort_looked ok byShort
    cases rest
    cases found with
    | error status => exact ⟨looked.ok, looked.quiet⟩
    | ok ref => exact looked.forget (respected (by simpa using leaves) ref (here ref rfl))

theorem leaveIndication_quiet {deviceAddress : ZbIeeeAddr} {rejoin : Bool} (ok : HoldsOk s.addr)
    (respected : LocksRespected s (.leaveIndication deviceAddress rejoin))
    (taken : zbNlmeLeaveIndication deviceAddress rejoin s = some t) :
    HoldsOk t.addr ∧ Quiet s.addr t.addr := by
  simp only [zbNlmeLeaveIndication] at taken
  simp only [LocksRespected] at respected
  split at taken
  · rename_i itself
    rw [if_pos itself] at respected
    exact doLeave_quiet ok respected taken
  · rename_i other
    rw [if_neg other] at respected
    simp only [zbNwkNeighborGetByIeee, Option.bind_eq_bind, Option.bind_eq_some_iff] at taken
    obtain ⟨⟨s₂, got⟩, ⟨⟨s₁, found⟩, byIeee, rest⟩, done⟩ := taken
    obtain ⟨looked, here⟩ := byIeee_looked ok byIeee
    cases found with
    | error status =>
        cases rest
        cases done
        exact ⟨looked.ok, looked.quiet⟩
    | ok ref =>
        obtain ⟨⟨s₃, found⟩, neighbor, rest⟩ := Option.bind_eq_some_iff.1 rest
        obtain ⟨rfl, ⟨absent, rfl⟩ | ⟨there, rfl⟩⟩ := neighborGet_found neighbor
        · cases rest
          cases done
          exact ⟨looked.ok, looked.quiet⟩
        · cases rest
          cases done
          have unlocked := respected ref (here ref rfl) (looked.neighbor ▸ there)
          rw [← looked.neighbor] at unlocked
          exact looked.forget unlocked

/-- **An update of a device**: one that left is looked for by both its addresses, and forgotten
when it is found. -/
theorem updateDevice_cases {left : Bool} {a : UInt16} {ieee : ZbIeeeAddr}
    (taken : zbApsmeUpdateDeviceIndication left a ieee s = some t) :
    t = s ∨ left = true ∧
      ((∃ s₁ ref, s.byShort a = some (s₁, .ok ref) ∧ t = zbNwkForgetDevice ref s₁) ∨
        ∃ s₁ status, s.byShort a = some (s₁, .error status) ∧
          ((∃ s₂ ref, s₁.byIeee ieee = some (s₂, .ok ref) ∧ t = zbNwkForgetDevice ref s₂) ∨
            ∃ missed, s₁.byIeee ieee = some (t, .error missed))) := by
  simp only [zbApsmeUpdateDeviceIndication] at taken
  split at taken
  · rename_i gone
    simp only [Option.bind_eq_bind, Option.bind_eq_some_iff] at taken
    obtain ⟨⟨s₁, found⟩, byShort, rest⟩ := taken
    cases found with
    | ok ref =>
        cases rest
        exact .inr ⟨gone, .inl ⟨s₁, ref, byShort, rfl⟩⟩
    | error status =>
        obtain ⟨⟨s₂, found⟩, byIeee, rest⟩ := Option.bind_eq_some_iff.1 rest
        cases found with
        | ok ref =>
            cases rest
            exact .inr ⟨gone, .inr ⟨s₁, status, byShort, .inl ⟨s₂, ref, byIeee, rfl⟩⟩⟩
        | error missed =>
            cases rest
            exact .inr ⟨gone, .inr ⟨s₁, status, byShort, .inr ⟨missed, byIeee⟩⟩⟩
  · cases taken
    exact .inl rfl

theorem updateDevice_quiet {left : Bool} {a : UInt16} {ieee : ZbIeeeAddr} (ok : HoldsOk s.addr)
    (respected : LocksRespected s (.updateDevice left a ieee))
    (taken : zbApsmeUpdateDeviceIndication left a ieee s = some t) :
    HoldsOk t.addr ∧ Quiet s.addr t.addr := by
  rcases updateDevice_cases taken with rfl | ⟨gone, ⟨s₁, ref, byShort, rfl⟩ | ⟨s₁, status, byShort, found⟩⟩
  · exact ⟨ok, Quiet.refl ok⟩
  · obtain ⟨looked, here, -⟩ := byShort_looked ok byShort
    refine looked.forget (respected gone ref ?_)
    rw [leftFound, here ref rfl]
    rfl
  · obtain ⟨looked, -, missed⟩ := byShort_looked ok byShort
    obtain ⟨absent, rfl⟩ := missed status rfl
    rcases found with ⟨s₂, ref, byIeee, rfl⟩ | ⟨unknown, byIeee⟩
    · obtain ⟨looked, here⟩ := byIeee_looked ok byIeee
      refine looked.forget (respected gone ref ?_)
      rw [leftFound, absent]
      exact here ref rfl
    · obtain ⟨looked, -⟩ := byIeee_looked ok byIeee
      exact ⟨looked.ok, looked.quiet⟩

theorem commStatus_quiet {dstAddr : ResponseDst} {success : Bool} (ok : HoldsOk s.addr)
    (respected : LocksRespected s (.commStatus dstAddr success))
    (taken : zbMlmeCommStatusIndication dstAddr success s = some t) :
    HoldsOk t.addr ∧ Quiet s.addr t.addr := by
  simp only [zbMlmeCommStatusIndication, Option.bind_eq_bind, Option.bind_eq_some_iff] at taken
  obtain ⟨⟨s₁, found⟩, lookup, rest⟩ := taken
  obtain ⟨looked, here⟩ : Looked s s₁ ∧ ∀ ref, found = .ok ref →
      responseFound s dstAddr = some ref := by
    cases dstAddr with
    | long addrLong => exact byIeee_looked ok lookup
    | short addrShort =>
        obtain ⟨looked, here, -⟩ := byShort_looked ok lookup
        exact ⟨looked, here⟩
  cases found with
  | error status =>
      cases rest
      exact ⟨looked.ok, looked.quiet⟩
  | ok ref =>
      obtain ⟨⟨s₂, got⟩, neighbor, rest⟩ := Option.bind_eq_some_iff.1 rest
      obtain ⟨rfl, ⟨-, rfl⟩ | ⟨there, rfl⟩⟩ := neighborGet_found neighbor
      · cases rest
        exact ⟨looked.ok, looked.quiet⟩
      · cases rest
        dsimp only
        split
        · exact ⟨looked.ok, looked.quiet⟩
        · rename_i failed
          exact looked.forget (respected (by simpa using failed) ref (here ref rfl)
            (looked.neighbor ▸ there))

/-- **One call keeps what is locked.** -/
theorem step_kept {call : StackCall} (ok : HoldsOk s.addr) (respected : LocksRespected s call)
    (taken : stackStep s call = some t) :
    HoldsOk t.addr ∧ Kept (locksTaken call) s.addr t.addr := by
  have of_quiet : HoldsOk t.addr ∧ Quiet s.addr t.addr →
      HoldsOk t.addr ∧ Kept (locksTaken call) s.addr t.addr :=
    fun quiet => ⟨quiet.1, quiet.2.kept⟩
  cases call with
  | address call =>
      simp only [stackStep, Option.map_eq_some_iff] at taken
      obtain ⟨g, taken, rfl⟩ := taken
      cases call with
      | byIeee ieee create lock =>
          obtain ⟨⟨_, res⟩, called, rfl⟩ := Option.map_eq_some_iff.1 taken
          exact byIeee_kept ok called
      | byShort a create lock =>
          obtain ⟨⟨_, res⟩, called, rfl⟩ := Option.map_eq_some_iff.1 taken
          exact byShort_kept ok called
      | update ieee a lock =>
          obtain ⟨⟨_, res⟩, called, rfl⟩ := Option.map_eq_some_iff.1 taken
          exact update_kept ok respected called
      | delete ref =>
          cases taken
          exact of_quiet (delete_quiet ok respected)
  | lock ref =>
      simp only [stackStep, Option.map_eq_some_iff] at taken
      obtain ⟨g, taken, rfl⟩ := taken
      obtain ⟨locked, kept, -⟩ := lock_kept 0 ok respected taken
      exact ⟨locked, kept⟩
  | unlock ref =>
      simp only [stackStep, Option.map_eq_some_iff] at taken
      obtain ⟨g, taken, rfl⟩ := taken
      exact unlock_kept 0 ok taken
  | neighborGet ref createIfAbsent =>
      obtain ⟨⟨_, res⟩, called, rfl⟩ := Option.map_eq_some_iff.1 taken
      exact neighborGet_kept ok respected called
  | neighborDelete ref =>
      cases taken
      exact of_quiet ⟨ok, Quiet.refl ok⟩
  | leaveHandler srcAddr request => exact of_quiet (leaveHandler_quiet ok respected taken)
  | forgetDevice ref =>
      cases taken
      exact of_quiet (forget_kept ok respected)
  | doLeave rejoin => exact of_quiet (doLeave_quiet ok respected taken)
  | leaveIndication deviceAddress rejoin =>
      exact of_quiet (leaveIndication_quiet ok respected taken)
  | updateDevice left a ieee => exact of_quiet (updateDevice_quiet ok respected taken)
  | commStatus dstAddr success => exact of_quiet (commStatus_quiet ok respected taken)
  | setNetworkAddress networkAddress =>
      cases taken
      exact of_quiet ⟨ok, Quiet.refl ok⟩

end Calls

/-! ## Histories -/

section Histories

variable {start s t : NwkContext} {calls during : List StackCall}

theorem holdsOk_run (ok : HoldsOk start.addr)
    (along : Along stackStep LocksRespected start calls)
    (ran : run stackStep start calls = some s) : HoldsOk s.addr :=
  run_invariant (fun _ _ _ ok respected taken => (step_kept ok respected taken).1) ok along ran

/-- As long as an entry is locked it stays in use and known. -/
theorem locked_run {r : Nat} (ok : HoldsOk s.addr)
    (along : Along stackStep LocksRespected s during)
    (locked : Along stackStep (fun s _ => 0 < lockCnt s r) s during) (held : 0 < lockCnt s r)
    (ran : run stackStep s during = some t) :
    used t r = true ∧
      ∀ ieee, knownIeee s.addr r = some ieee → knownIeee t.addr r = some ieee := by
  have stays : HoldsOk t.addr ∧ used t r = true ∧
      ∀ ieee, knownIeee s.addr r = some ieee → knownIeee t.addr r = some ieee := by
    apply run_invariant ?_ ⟨ok, ok.held r held, fun _ known => known⟩ (along.and locked) ran
    rintro u call v ⟨okU, -, knownU⟩ ⟨respected, lockedU⟩ taken
    obtain ⟨okV, kept⟩ := step_kept okU respected taken
    exact ⟨okV, kept.used r lockedU, fun ieee known =>
      kept.known r ieee lockedU (knownU ieee known)⟩
  exact stays.2

/-- **Locks protect** in every history whose calls respect them. -/
theorem locks_protect {depth : UInt8} {networkAddress : UInt16}
    (along : Along stackStep LocksRespected (.init depth networkAddress) calls) :
    LocksProtect (.init depth networkAddress) calls where
  keeps := by
    rintro before during after rfl s t r ran on held locked
    have first := (along_append.1 (along_append.1 along).1)
    exact locked_run (holdsOk_run holdsOk_init first.1 ran) (first.2 s ran) locked held on
  fresh := by
    rintro before call after rfl s t r ran taken free inUse
    have split := along_append.1 along
    have ok := holdsOk_run holdsOk_init split.1 ran
    exact (step_kept ok (split.2 s ran).1 taken).2.fresh r free inUse

end Histories

/-- A child that joins, is looked up, changes its short address and leaves after
its locks are gone. -/
def joinAndLeave : List StackCall :=
  [.address (.update someDevice 7 false), .neighborGet 82 true,
    .address (.byIeee someDevice true true), .address (.update someDevice 9 false), .unlock 82,
    .unlock 82, .leaveIndication someDevice false]

theorem locks_protect_joinAndLeave : LocksProtect (.init 0 0) joinAndLeave :=
  locks_protect (by decide +kernel)

/-- A device announces itself, which locks its address, and becomes a neighbour,
which locks it again. -/
def announceAndJoin : List StackCall :=
  [.address (.update someDevice 7 true), .neighborGet 82 true]

/-- **A locked entry is forgotten**: when the neighbour leaves, its entry is taken
out of use with two locks on it. -/
theorem forgotten_while_locked :
    ¬ ∀ calls : List StackCall, LocksProtect (.init 0 0) calls := by
  intro protect
  have before : (run stackStep (.init 0 0) announceAndJoin).map (fun s => lockCnt s 82) =
      some 2 := by
    decide +kernel
  have after : (run stackStep (.init 0 0)
      (announceAndJoin ++ [.leaveIndication someDevice false])).map (fun s => used s 82) =
      some false := by
    decide +kernel
  obtain ⟨s, ran, two⟩ := Option.map_eq_some_iff.1 before
  obtain ⟨t, ranAll, gone⟩ := Option.map_eq_some_iff.1 after
  rw [run_append, ran] at ranAll
  have held : 0 < lockCnt s 82 := by omega
  have kept := (protect (announceAndJoin ++ [.leaveIndication someDevice false])).keeps
    announceAndJoin [.leaveIndication someDevice false] [] (by rw [List.append_nil]) s t 82 ran
    ranAll held ⟨held, fun _ _ => trivial⟩
  rw [gone] at kept
  cases kept.1

/-- The entry of the next device comes with the lock of the one before it. -/
example : (run stackStep (.init 0 0) [.address (.byShort 7 true true), .forgetDevice 0,
    .address (.byShort 8 true false)]).map (fun s => (used s 0, lockCnt s 0)) =
    some (true, 1) := by
  decide +kernel

end Zboss.Nwk.LockedRefs
