/-
# Zdo.LeaveEntry -- the neighbour entry of a device that leaves

A LEAVE is requested for this device or for a neighbour, and confirmed when it has been sent.
The entry pointer of the request is set for a neighbour only; the end of the request reads
it wherever the router role is compiled, and so does the confirm, which does not look
whether its own lookup found anything.  Reading an empty pointer is a stop here
(`LeaveStop.emptyEntry`).

`leaveSafe_iff`: a call touches no missing neighbour, and gives an address back only for the
end device that has it, exactly when `LeaveFits`: a router's request names a neighbour, and the
device a confirm drops has an entry.

Pole: `own_leave_reads_empty`.
-/
import Mathlib
import Zboss.Common.Constants
import Zboss.Nwk.ChildAddresses
import Zboss.Zdo.MgmtLeave

namespace Zboss.Zdo.LeaveEntry

open Zboss.Common.Constants
open Zboss.Common.Types
open Zboss.Common.Address
open Zboss.Nwk.Neighbor
open Zboss.Nwk.Forget (NwkContext zbIeeeAddrIsZero zbNwkNeighborDelete zbNwkNeighborGetByIeee)
open Zboss.Nwk.AcceptChild (JoinContext ChildNib releaseAddress zbNwkEdAddressAssign)
open Zboss.Nwk.ChildAddresses (knownEntry formedParent)
open Zboss.Zdo.MgmtLeave (LeaveState LeaveRequest willLeave zdoTrySendMgmtLeaveRsp
  zbNwkStatusUnknownDevice zbIeeeAddrZero)

set_option autoImplicit false

/-! ## The calls -/

/-- Why a call does not return: an assertion of the address table, or the empty entry
pointer. -/
inductive LeaveStop where
  | asserted
  | emptyEntry
  deriving DecidableEq

/-- The child counters and tables, and the requests to leave. -/
structure LeaveDevice where
  join : JoinContext
  mgmt : LeaveState
  deviceType : UInt8

def asserted {α : Type} : Option α → Except LeaveStop α
  | some x => .ok x
  | none => .error .asserted

/-- What the entry pointer points at. -/
def entryOf (nbt : Option Nat) (t : ZbNeighborTbl) : Except LeaveStop ZbNeighborTblEnt :=
  match nbt with
  | some n => .ok (t.baseNeighbor n)
  | none => .error .emptyEntry

/-- A device without the router role has one neighbour, its parent. -/
def neighborGetByIeee (routerRole : Bool) (ieee : ZbIeeeAddr) (s : NwkContext) :
    Option (NwkContext × Except ZbRet Nat) :=
  if routerRole then zbNwkNeighborGetByIeee ieee s
  else do
    let (s, found) ← s.byIeee ieee
    match found with
    | .ok ref => return (s, if (s.neighbor.baseNeighbor 0).addrRef = ref then .ok 0
        else .error .notFound)
    | .error _ => return (s, .error .notFound)

/-- What becomes of a request: the LEAVE goes out, to a neighbour that is to leave or to
all, or the request is confirmed at once. -/
inductive LeaveOutcome where
  | sent (dst : UInt16) (request : Bool)
  | confirmed (status : UInt8)

/-- The LEAVE is sent, and the address of the last end device is given back. -/
def sendLeave (routerRole : Bool) (nbt : Option Nat) (rejoin : Bool) (s : LeaveDevice) :
    Except LeaveStop (LeaveDevice × LeaveOutcome) := do
  let tables := s.join.nwk
  let (s, dst) := match nbt with
    | none => ({ s with mgmt := { s.mgmt with rejoinAfterLeave := rejoin } },
        zbNwkBroadcastRxOnWhenIdle)
    | some n => (s, (tables.addr.addrMap (tables.neighbor.baseNeighbor n).addrRef).addr)
  if routerRole then
    let ent ← entryOf nbt tables.neighbor
    let childAddr := (tables.addr.addrMap ent.addrRef).addr
    return ({ s with join := { s.join with nib := releaseAddress childAddr s.join.nib } },
      .sent dst nbt.isSome)
  else return (s, .sent dst false)

/-- The LEAVE is for a neighbour: the address is not empty, and the device has children. -/
def Remote (routerRole : Bool) (r : LeaveRequest) (deviceType : UInt8) : Prop :=
  routerRole = true ∧ zbIeeeAddrIsZero r.deviceAddress = false ∧
    (deviceType = zbNwkDeviceTypeCoordinator ∨ deviceType = zbNwkDeviceTypeRouter)

instance (routerRole : Bool) (r : LeaveRequest) (deviceType : UInt8) :
    Decidable (Remote routerRole r deviceType) := inferInstanceAs (Decidable (_ ∧ _ ∧ _))

def zbNlmeLeaveRequest (routerRole : Bool) (r : LeaveRequest) (s : LeaveDevice) :
    Except LeaveStop (LeaveDevice × LeaveOutcome) := do
  if s.mgmt.joined = false then return (s, .confirmed zbNwkStatusInvalidRequest)
  else if Remote routerRole r s.deviceType then
    let (nwk, got) ← asserted (zbNwkNeighborGetByIeee r.deviceAddress s.join.nwk)
    let s := { s with join := { s.join with nwk } }
    match got with
    | .error _ => return (s, .confirmed zbNwkStatusUnknownDevice)
    | .ok n =>
        match (nwk.neighbor.baseNeighbor n).relationship with
        | .unauthenticatedChild => return (s, .confirmed zbNwkStatusSuccess)
        | .child => sendLeave routerRole (some n) r.rejoin s
        | _ => return (s, .confirmed zbNwkStatusUnknownDevice)
  else sendLeave routerRole none r.rejoin s

/-- `zb_nwk_do_leave`: the requests and the device's own address are forgotten. -/
def doLeave (s : LeaveDevice) : Except LeaveStop LeaveDevice := do
  let rejoin := s.mgmt.rejoinAfterLeave
  let nwk ← asserted (Nwk.Forget.zbNwkDoLeave rejoin s.join.nwk)
  return { s with join := { s.join with nwk }, mgmt := MgmtLeave.zbNwkDoLeave rejoin true s.mgmt }

/-- The confirm of the request in buffer `param`: it is answered, where somebody asked for
it; otherwise this device leaves, or the one named is dropped from the neighbour table. -/
def zbNlmeLeaveConfirm (routerRole : Bool) (param : Nat) (status : UInt8)
    (deviceAddress : ZbIeeeAddr) (s : LeaveDevice) : Except LeaveStop LeaveDevice := do
  let will := willLeave status deviceAddress
  match zdoTrySendMgmtLeaveRsp param status will will s.mgmt with
  | some mgmt => return { s with mgmt := { mgmt with leaveAfterMgmtLeaveRspConf := will } }
  | none =>
      if will then doLeave s
      else
        let (nwk, got) ← asserted (neighborGetByIeee routerRole deviceAddress s.join.nwk)
        let ent ← entryOf got.toOption nwk.neighbor
        let neighbor := (zbNwkNeighborDelete ent.addrRef nwk.neighbor).1
        return { s with join := { s.join with nwk := { nwk with neighbor } } }

inductive LeaveCall where
  | request (r : LeaveRequest)
  | confirm (param : Nat) (status : UInt8) (deviceAddress : ZbIeeeAddr)

def leaveCall (routerRole : Bool) (s : LeaveDevice) : LeaveCall → Except LeaveStop LeaveDevice
  | .request r => (zbNlmeLeaveRequest routerRole r s).map Prod.fst
  | .confirm param status deviceAddress =>
      zbNlmeLeaveConfirm routerRole param status deviceAddress s

/-! ## What is claimed of them -/

/-- The device of this entry, with this address, is the last end device that was given an
address. -/
structure LastEndDevice (nib : ChildNib) (ent : ZbNeighborTblEnt) (addr : UInt16) : Prop where
  child : ent.relationship = .child
  endDevice : ent.deviceType = zbNwkDeviceTypeEd
  last : addr.toNat + 1 = zbNwkEdAddressAssign nib
  counted : nib.edChildNum ≠ 0

/-- An address is given back only by the last end device. -/
def Released (s : LeaveDevice) : LeaveCall → Prop
  | .request r => ∃ ent addr, knownEntry r.deviceAddress s.join.nwk = some (ent, addr) ∧
      LastEndDevice s.join.nib ent addr
  | .confirm _ _ _ => False

/-- **A call touches no missing neighbour.** -/
structure LeaveSafe (routerRole : Bool) (s : LeaveDevice) (call : LeaveCall) : Prop where
  entry : leaveCall routerRole s call ≠ .error .emptyEntry
  count : ∀ t, leaveCall routerRole s call = .ok t →
    t.join.nib.edChildNum ≠ s.join.nib.edChildNum → Released s call

/-- A router's request names a neighbour; and where it is a child with the address behind which
the next end device's is, that child is an end device, and counted. -/
def RequestFits (routerRole : Bool) (r : LeaveRequest) (s : LeaveDevice) : Prop :=
  s.mgmt.joined = true → routerRole = true → Remote routerRole r s.deviceType ∧
    ∀ known ∈ knownEntry r.deviceAddress s.join.nwk, known.1.relationship = .child →
      known.2.toNat + 1 = zbNwkEdAddressAssign s.join.nib →
        known.1.deviceType = zbNwkDeviceTypeEd ∧ s.join.nib.edChildNum ≠ 0

/-- The lookup of the device fails. -/
def Missing (routerRole : Bool) (deviceAddress : ZbIeeeAddr) (s : NwkContext) : Prop :=
  ∃ nwk status, neighborGetByIeee routerRole deviceAddress s = some (nwk, .error status)

/-- The device that is dropped, where one is, has an entry. -/
def ConfirmFits (routerRole : Bool) (param : Nat) (status : UInt8) (deviceAddress : ZbIeeeAddr)
    (s : LeaveDevice) : Prop :=
  MgmtLeave.pendingOf param s.mgmt = none → willLeave status deviceAddress = false →
    ¬ Missing routerRole deviceAddress s.join.nwk

/-- **When a call is safe.** -/
def LeaveFits (routerRole : Bool) (s : LeaveDevice) : LeaveCall → Prop
  | .request r => RequestFits routerRole r s
  | .confirm param status deviceAddress => ConfirmFits routerRole param status deviceAddress s

section Requests

variable {routerRole : Bool} {r : LeaveRequest} {s t : LeaveDevice} {nib : ChildNib}

/-- Giving an address back lowers the count, whatever it was. -/
theorem releaseAddress_count {addr : UInt16} :
    (releaseAddress addr nib).edChildNum ≠ nib.edChildNum ↔
      addr.toNat + 1 = zbNwkEdAddressAssign nib := by
  rw [releaseAddress]
  split
  · rename_i last
    exact iff_of_true (by simp) last
  · rename_i other
    exact iff_of_false (fun differs => differs rfl) other

/-- The LEAVE of this device, with an empty entry pointer. -/
theorem sendLeave_none (routerRole : Bool) (s : LeaveDevice) (rejoin : Bool) :
    if routerRole then sendLeave routerRole none rejoin s = .error .emptyEntry
    else ∃ t outcome, sendLeave routerRole none rejoin s = .ok (t, outcome) ∧ t.join = s.join := by
  cases routerRole with
  | true => rfl
  | false => exact ⟨_, _, rfl, rfl⟩

/-- The LEAVE for a neighbour. -/
theorem sendLeave_some (n : Nat) (rejoin : Bool) :
    ∃ t outcome, sendLeave true (some n) rejoin s = .ok (t, outcome) ∧
      t.join.nib = releaseAddress (s.join.nwk.addr.addrMap
        (s.join.nwk.neighbor.baseNeighbor n).addrRef).addr s.join.nib :=
  ⟨_, _, rfl, rfl⟩

/-- A request that is confirmed at once, or made without the router role, counts nothing. -/
theorem leaveSafe_of_kept {call : LeaveCall} (ran : leaveCall routerRole s call = .ok t)
    (kept : t.join.nib = s.join.nib) : LeaveSafe routerRole s call := by
  refine ⟨fun empty => ?_, fun u ran' differs => ?_⟩
  · rw [ran] at empty
    cases empty
  · rw [ran] at ran'
    cases ran'
    exact absurd (congrArg ChildNib.edChildNum kept) differs

theorem leaveSafe_of_asserted {call : LeaveCall}
    (stopped : leaveCall routerRole s call = .error .asserted) : LeaveSafe routerRole s call := by
  refine ⟨fun empty => ?_, fun u ran _ => ?_⟩
  · rw [stopped] at empty
    cases empty
  · rw [stopped] at ran
    cases ran

/-- The request for a neighbour: a child is sent the LEAVE, another one stays. -/
theorem request_remote (joined : s.mgmt.joined = true) (remote : Remote true r s.deviceType) :
    leaveCall true s (.request r) =
      match zbNwkNeighborGetByIeee r.deviceAddress s.join.nwk with
      | none => .error .asserted
      | some (nwk, .error _) => .ok { s with join := { s.join with nwk } }
      | some (nwk, .ok n) =>
          if (nwk.neighbor.baseNeighbor n).relationship = .child then
            (sendLeave true (some n) r.rejoin { s with join := { s.join with nwk } }).map Prod.fst
          else .ok { s with join := { s.join with nwk } } := by
  simp only [leaveCall, zbNlmeLeaveRequest, joined, remote, Bool.true_eq_false, if_true, if_false]
  rcases zbNwkNeighborGetByIeee r.deviceAddress s.join.nwk with _ | ⟨nwk, _ | n⟩
  · rfl
  · rfl
  · simp only [asserted, bind, Except.bind]
    cases relationship : (nwk.neighbor.baseNeighbor n).relationship with
    | child => rfl
    | _ => rfl

/-- The request for a neighbour is safe when its address is given back rightly. -/
theorem remote_iff (joined : s.mgmt.joined = true) (remote : Remote routerRole r s.deviceType) :
    LeaveSafe routerRole s (.request r) ↔
      ∀ known ∈ knownEntry r.deviceAddress s.join.nwk, known.1.relationship = .child →
        known.2.toNat + 1 = zbNwkEdAddressAssign s.join.nib →
          known.1.deviceType = zbNwkDeviceTypeEd ∧ s.join.nib.edChildNum ≠ 0 := by
  obtain rfl := remote.1
  have does : leaveCall true s (.request r) = _ := request_remote joined remote
  cases looked : zbNwkNeighborGetByIeee r.deviceAddress s.join.nwk with
  | none =>
      rw [looked] at does
      refine iff_of_true (leaveSafe_of_asserted does) fun known there => ?_
      simp [knownEntry, looked] at there
  | some found =>
      obtain ⟨nwk, got⟩ := found
      rw [looked] at does
      cases got with
      | error status =>
          refine iff_of_true (leaveSafe_of_kept does rfl) fun known there => ?_
          simp [knownEntry, looked] at there
      | ok n =>
          have entry : knownEntry r.deviceAddress s.join.nwk = some (nwk.neighbor.baseNeighbor n,
              (nwk.addr.addrMap (nwk.neighbor.baseNeighbor n).addrRef).addr) := by
            simp [knownEntry, looked]
          by_cases child : (nwk.neighbor.baseNeighbor n).relationship = .child
          · obtain ⟨t, outcome, sent, nib⟩ := sendLeave_some
              (s := { s with join := { s.join with nwk } }) n r.rejoin
            have ran : leaveCall true s (.request r) = .ok t := by
              refine does.trans ?_
              dsimp only
              rw [if_pos child, sent]
              rfl
            have count : t.join.nib.edChildNum ≠ s.join.nib.edChildNum ↔
                (nwk.addr.addrMap (nwk.neighbor.baseNeighbor n).addrRef).addr.toNat + 1 =
                  zbNwkEdAddressAssign s.join.nib := by
              rw [nib]
              exact releaseAddress_count
            constructor
            · rintro safe known there - last
              rw [entry] at there
              cases there
              obtain ⟨ent, addr, entry', fits⟩ := safe.count t ran (count.2 last)
              rw [entry] at entry'
              cases entry'
              exact ⟨fits.endDevice, fits.counted⟩
            · intro fits
              refine ⟨fun empty => ?_, fun u ran' differs => ?_⟩
              · rw [ran] at empty
                cases empty
              · rw [ran] at ran'
                cases ran'
                have last := count.1 differs
                obtain ⟨endDevice, counted⟩ := fits _ entry child last
                exact ⟨_, _, entry, child, endDevice, last, counted⟩
          · refine iff_of_true (leaveSafe_of_kept (does.trans (if_neg child)) rfl)
              fun known there isChild => ?_
            rw [entry] at there
            cases there
            exact absurd isChild child

/-- A request for a neighbour does to the counters and tables what `Nwk.AcceptChild` has of it. -/
theorem leaveRequest_acceptChild (joined : s.mgmt.joined = true)
    (remote : Remote routerRole r s.deviceType) :
    (zbNlmeLeaveRequest routerRole r s).toOption.map (fun sent => sent.1.join) =
      (Nwk.AcceptChild.zbNlmeLeaveRequest r.deviceAddress s.join).toOption.map Prod.fst := by
  obtain rfl := remote.1
  have named := remote.2.1
  simp only [zbNlmeLeaveRequest, Nwk.AcceptChild.zbNlmeLeaveRequest, joined, remote, named,
    Bool.true_eq_false, Bool.false_eq_true, if_false, if_true]
  cases looked : zbNwkNeighborGetByIeee r.deviceAddress s.join.nwk with
  | none => rfl
  | some found =>
      obtain ⟨nwk, got⟩ := found
      cases got with
      | error status => rfl
      | ok n =>
          simp only [asserted, DeviceInfo.asserted, bind, Except.bind]
          cases relationship : (nwk.neighbor.baseNeighbor n).relationship with
          | child => rfl
          | _ => rfl

/-- **Requests.** -/
theorem request_iff : LeaveSafe routerRole s (.request r) ↔ RequestFits routerRole r s := by
  cases joined : s.mgmt.joined with
  | false =>
      have ran : leaveCall routerRole s (.request r) = .ok s := by
        simp [leaveCall, zbNlmeLeaveRequest, joined, pure, Except.pure, Except.map]
      exact iff_of_true (leaveSafe_of_kept ran rfl) fun impossible => by simp [joined] at impossible
  | true =>
      by_cases remote : Remote routerRole r s.deviceType
      · rw [remote_iff joined remote]
        constructor
        · exact fun fits _ _ => ⟨remote, fits⟩
        · exact fun fits => (fits joined remote.1).2
      · have own : leaveCall routerRole s (.request r) =
            (sendLeave routerRole none r.rejoin s).map Prod.fst := by
          simp [leaveCall, zbNlmeLeaveRequest, joined, remote]
        have sent := sendLeave_none routerRole s r.rejoin
        cases routerRole with
        | true =>
            refine iff_of_false (fun safe => safe.entry ?_) fun fits => remote (fits joined rfl).1
            rw [own, show sendLeave true none r.rejoin s = _ from sent]
            rfl
        | false =>
            obtain ⟨t, outcome, ran, kept⟩ := sent
            refine iff_of_true (leaveSafe_of_kept (t := t) ?_ (by rw [kept])) fun _ impossible => by
              cases impossible
            rw [own, ran]
            rfl

end Requests

section Confirms

variable {routerRole : Bool} {s : LeaveDevice} {param : Nat} {status : UInt8}
  {deviceAddress : ZbIeeeAddr}

theorem doLeave_spec {call : LeaveCall} (same : leaveCall routerRole s call = doLeave s) :
    LeaveSafe routerRole s call := by
  cases left : Nwk.Forget.zbNwkDoLeave s.mgmt.rejoinAfterLeave s.join.nwk with
  | none =>
      refine leaveSafe_of_asserted (same.trans ?_)
      simp [doLeave, left, asserted, bind, Except.bind]
  | some nwk =>
      refine leaveSafe_of_kept (same.trans ?_) (t := { s with
        join := { s.join with nwk }
        mgmt := MgmtLeave.zbNwkDoLeave s.mgmt.rejoinAfterLeave true s.mgmt }) rfl
      simp [doLeave, left, asserted, bind, Except.bind, pure, Except.pure]

/-- A confirm nobody asked for, of a device that is not this one. -/
theorem confirm_other (nobody : MgmtLeave.pendingOf param s.mgmt = none)
    (stays : willLeave status deviceAddress = false) :
    leaveCall routerRole s (.confirm param status deviceAddress) =
      match neighborGetByIeee routerRole deviceAddress s.join.nwk with
      | none => .error .asserted
      | some (_, .error _) => .error .emptyEntry
      | some (nwk, .ok n) => .ok { s with join := { s.join with nwk := { nwk with
          neighbor := (zbNwkNeighborDelete (nwk.neighbor.baseNeighbor n).addrRef nwk.neighbor).1 } } } := by
  have unasked : zdoTrySendMgmtLeaveRsp param status false false s.mgmt = none := by
    simp [zdoTrySendMgmtLeaveRsp, nobody]
  simp only [leaveCall, zbNlmeLeaveConfirm, stays, unasked]
  rcases neighborGetByIeee routerRole deviceAddress s.join.nwk with _ | ⟨nwk, _ | n⟩
  · rfl
  · rfl
  · rfl

/-- **Confirms.** -/
theorem confirm_iff : LeaveSafe routerRole s (.confirm param status deviceAddress) ↔
    ConfirmFits routerRole param status deviceAddress s := by
  cases asked : MgmtLeave.pendingOf param s.mgmt with
  | some i =>
      have answered : ∃ mgmt, zdoTrySendMgmtLeaveRsp param status (willLeave status deviceAddress)
          (willLeave status deviceAddress) s.mgmt = some mgmt := by
        simp [zdoTrySendMgmtLeaveRsp, asked]
      obtain ⟨mgmt, answered⟩ := answered
      refine iff_of_true (leaveSafe_of_kept (t := { s with mgmt := { mgmt with
        leaveAfterMgmtLeaveRspConf := willLeave status deviceAddress } }) ?_ rfl) fun nobody => ?_
      · simp [leaveCall, zbNlmeLeaveConfirm, answered, pure, Except.pure]
      · rw [asked] at nobody
        cases nobody
  | none =>
      cases will : willLeave status deviceAddress with
      | true =>
          refine iff_of_true (doLeave_spec ?_) fun _ named => ?_
          · simp [leaveCall, zbNlmeLeaveConfirm, will, zdoTrySendMgmtLeaveRsp, asked]
          · rw [will] at named
            cases named
      | false =>
          have does : leaveCall routerRole s (.confirm param status deviceAddress) = _ :=
            confirm_other asked will
          cases looked : neighborGetByIeee routerRole deviceAddress s.join.nwk with
          | none =>
              rw [looked] at does
              refine iff_of_true (leaveSafe_of_asserted does) fun _ _ missing => ?_
              obtain ⟨nwk, status, failed⟩ := missing
              rw [looked] at failed
              cases failed
          | some found =>
              obtain ⟨nwk, got⟩ := found
              rw [looked] at does
              cases got with
              | error failure =>
                  exact iff_of_false (fun safe => safe.entry does) fun fits =>
                    fits asked will ⟨nwk, failure, looked⟩
              | ok n =>
                  refine iff_of_true (leaveSafe_of_kept does rfl) fun _ _ missing => ?_
                  obtain ⟨nwk', failure, failed⟩ := missing
                  rw [looked] at failed
                  cases failed

end Confirms

/-- **When a leave touches no missing neighbour**: for every device, state and call. -/
theorem leaveSafe_iff (routerRole : Bool) (s : LeaveDevice) (call : LeaveCall) :
    LeaveSafe routerRole s call ↔ LeaveFits routerRole s call := by
  cases call with
  | request r => exact request_iff
  | confirm param status deviceAddress => exact confirm_iff

/-- A coordinator in its network. -/
def formedCoordinator : LeaveDevice where
  join := (formedParent 4 2 2).join
  mgmt := .init 0
  deviceType := zbNwkDeviceTypeCoordinator

/-- **A device with the router role that leaves reads an empty entry pointer.** -/
theorem own_leave_reads_empty :
    ¬ ∀ routerRole s call, LeaveSafe routerRole s call := by
  intro safe
  have leaves : leaveCall true formedCoordinator (.request ⟨zbIeeeAddrZero, false⟩) =
      .error .emptyEntry := rfl
  exact (safe true formedCoordinator (.request ⟨zbIeeeAddrZero, false⟩)).entry leaves

end Zboss.Zdo.LeaveEntry
