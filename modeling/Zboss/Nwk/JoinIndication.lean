/-
# Nwk.JoinIndication -- which device a join indication names

* `joinIndication_named`: in a run of rejoin requests, confirms and changes of the
  tables, every confirm issues the indication of its own rejoin, and every accepted
  rejoin is indicated exactly once, if and only if every confirm comes `InTurn`: the
  last address remembered is the one of its response, and the tables still know the
  device under it with the same capabilities;
* `lastSent_inTurn`: the addresses are in turn when the confirms come in the reverse
  order of the responses, in particular when only one is on its way at a time.

Two overlapping rejoins confirmed in the order of the requests are not in turn
(`confirmed_in_order`).
-/
import Mathlib
import Zboss.Common.Constants
import Zboss.Common.AddressIndex
import Zboss.Nwk.ChildAddresses
import Zboss.Nwk.Rejoin

namespace Zboss.Nwk.JoinIndication

open Zboss.Common.Constants
open Zboss.Theory.Run
open Zboss.Common.Types
open Zboss.Common.Address
open Zboss.Common.AddressIndex
open Zboss.Nwk.Neighbor
open Zboss.Nwk.Forget
open Zboss.Nwk.AcceptChild
open Zboss.Nwk.Rejoin
open Zboss.Zdo.DeviceInfo hiding zbNwkAcceptChild

set_option autoImplicit false

/-! ## What is claimed of a confirm -/

/-- The indication of an accepted rejoin. -/
def indicationOf (p : Pending) : ZbNlmeJoinIndication where
  networkAddress := p.response.networkAddr
  extendedAddress := p.response.dstIeeeAddr
  capabilityInformation := meaningful (zbMacCapGetDeviceType p.capability)
    (zbMacCapGetRxOnWhenIdle p.capability)
  rejoinNetwork := true
  secureRejoin := !p.response.security

/-- The confirm of a rejoin issues its indication. -/
def NamedFor (s : RejoinState) (p : Pending) : Prop :=
  ∃ t, zbNlmeRejoinRespSent p.response s = .ok (t, indicationOf p)

def Named (s : RejoinState) : RejoinCall → Prop
  | .respSent k => ∀ p ∈ s.inFlight[k]?, NamedFor s p
  | _ => True

/-- From `start`, every rejoin that was on its way or accepted has been indicated once,
or is on its way still. -/
def IndicatedOnce (start s : RejoinState) (calls : List RejoinCall) : Prop :=
  ((start.inFlight ++ trace rejoinStep accepted start calls).map indicationOf).Perm
    (trace rejoinStep indications start calls ++ s.inFlight.map indicationOf)

/-! ## The condition -/

/-- The tables know the device under its address, with the capabilities it asked with. -/
def StillKnown (nwk : NwkContext) (p : Pending) : Prop :=
  ∃ ref ∈ shortSearch nwk.addr p.response.networkAddr,
    zbIeeeAddrDecompress nwk.addr (nwk.addr.addrMap ref).ieeeAddr = p.response.dstIeeeAddr ∧
    nwk.neighbor.addrToNeighbor ref ≠ 255 ∧
    sameCapabilities (zbMacCapGetDeviceType p.capability) (zbMacCapGetRxOnWhenIdle p.capability)
      (nwk.neighbor.baseNeighbor (nwk.neighbor.addrToNeighbor ref).toNat) = true

def InTurnFor (s : RejoinState) (p : Pending) : Prop :=
  s.rejoinReqTable.getLast? = some p.response.networkAddr ∧ StillKnown s.join.nwk p

def InTurn (s : RejoinState) : RejoinCall → Prop
  | .respSent k => ∀ p ∈ s.inFlight[k]?, InTurnFor s p
  | _ => True

instance (nwk : NwkContext) (p : Pending) : Decidable (StillKnown nwk p) :=
  inferInstanceAs (Decidable (∃ ref ∈ shortSearch nwk.addr p.response.networkAddr, _))

instance (s : RejoinState) (p : Pending) : Decidable (InTurnFor s p) :=
  inferInstanceAs (Decidable (_ ∧ _))

instance (s : RejoinState) (call : RejoinCall) : Decidable (InTurn s call) :=
  match call with
  | .respSent k => inferInstanceAs (Decidable (∀ p ∈ s.inFlight[k]?, InTurnFor s p))
  | .rejoinRequest _ => inferInstanceAs (Decidable True)
  | .doLeave _ => inferInstanceAs (Decidable True)
  | .tables _ => inferInstanceAs (Decidable True)

/-! ## One confirm -/

section Confirm

variable {s : RejoinState} {p : Pending} {ref : Nat} {address : UInt16}

theorem meaningful_inj {a b c d : Bool} : meaningful a b = meaningful c d ↔ a = c ∧ b = d := by
  revert a b c d
  decide

/-- A look-up that takes no lock. -/
theorem zbAddressByShort_lookup (a : UInt16) (g : ZbAddrGlobals) :
    zbAddressByShort a false false g =
      match shortSearch g a with
      | some ref => some (g.setEnt ref fun ent => { ent with clock := true }, .ok ref)
      | none => some (g, .error .notFound) := by
  rw [zbAddressByShort]
  cases shortSearch g a <;> rfl

/-- The clock of an entry is no part of its pair. -/
theorem zbAddressByRef_clock (ref : Nat) (g : ZbAddrGlobals) :
    zbAddressByRef ref (g.setEnt ref fun ent => { ent with clock := true }) =
      zbAddressByRef ref g := by
  simp [zbAddressByRef, zbIeeeAddrDecompress, ZbAddrGlobals.setEnt]

/-- What a confirm does, by what the tables say about the last address remembered. -/
theorem zbNlmeRejoinRespSent_eq_ok {t : RejoinState} {indication : ZbNlmeJoinIndication}
    {response : RejoinResponse} :
    zbNlmeRejoinRespSent response s = .ok (t, indication) ↔
      ∃ address ref, s.rejoinReqTable.getLast? = some address ∧
        shortSearch s.join.nwk.addr address = some ref ∧
        s.join.nwk.neighbor.addrToNeighbor ref ≠ 255 ∧
        { s with
            join := { s.join with nwk := { s.join.nwk with
              addr := s.join.nwk.addr.setEnt ref fun ent => { ent with clock := true } } }
            rejoinReqTable := s.rejoinReqTable.dropLast } = t ∧
        ZbNlmeJoinIndication.mk (s.join.nwk.addr.addrMap ref).addr
          (zbIeeeAddrDecompress s.join.nwk.addr (s.join.nwk.addr.addrMap ref).ieeeAddr)
          (meaningful
            (decide ((s.join.nwk.neighbor.baseNeighbor
              (s.join.nwk.neighbor.addrToNeighbor ref).toNat).deviceType = zbNwkDeviceTypeRouter))
            (s.join.nwk.neighbor.baseNeighbor
              (s.join.nwk.neighbor.addrToNeighbor ref).toNat).rxOnWhenIdle)
          true (!response.security) = indication := by
  rw [zbNlmeRejoinRespSent]
  cases last : s.rejoinReqTable.getLast? with
  | none => simp
  | some address =>
      simp only [zbAddressByShort_lookup]
      cases found : shortSearch s.join.nwk.addr address with
      | none => simp [found]
      | some ref =>
          simp only [zbAddressByRef_clock]
          split
          · rename_i entry
            simp only [Except.ok.injEq, Prod.mk.injEq, Option.some.injEq, zbAddressByRef]
            constructor
            · rintro ⟨same, named⟩
              exact ⟨address, ref, rfl, found, entry, same, named⟩
            · rintro ⟨_, _, rfl, found', -, same, named⟩
              rw [found] at found'
              cases found'
              exact ⟨same, named⟩
          · rename_i none_
            constructor
            · intro impossible
              cases impossible
            · rintro ⟨_, _, last', found', entry, -⟩
              cases last'
              rw [found] at found'
              cases found'
              exact (none_ entry).elim

theorem sameCapabilities_iff {router rxOnWhenIdle : Bool} {nbe : ZbNeighborTblEnt} :
    sameCapabilities router rxOnWhenIdle nbe = true ↔
      decide (nbe.deviceType = zbNwkDeviceTypeRouter) = router ∧
        nbe.rxOnWhenIdle = rxOnWhenIdle := by
  rw [sameCapabilities, Bool.and_eq_true, beq_iff_eq, beq_iff_eq, eq_comm (a := rxOnWhenIdle)]

/-- **A confirm names its device** exactly when it comes in turn. -/
theorem namedFor_iff (s : RejoinState) (p : Pending) : NamedFor s p ↔ InTurnFor s p := by
  constructor
  · rintro ⟨t, confirmed⟩
    obtain ⟨address, ref, last, found, entry, -, named⟩ := zbNlmeRejoinRespSent_eq_ok.1 confirmed
    obtain ⟨same, device, capability, -, -⟩ := ZbNlmeJoinIndication.mk.inj named
    have same : address = p.response.networkAddr := (shortSearch_eq_some found).2.symm.trans same
    subst same
    exact ⟨last, ref, found, device, entry, sameCapabilities_iff.2 (meaningful_inj.1 capability)⟩
  · rintro ⟨last, ref, found, device, entry, same⟩
    refine ⟨_, zbNlmeRejoinRespSent_eq_ok.2 ⟨_, ref, last, found, entry, rfl, ?_⟩⟩
    obtain ⟨router, rxOnWhenIdle⟩ := sameCapabilities_iff.1 same
    rw [(shortSearch_eq_some found).2, device, router, rxOnWhenIdle]
    rfl

theorem named_iff (s : RejoinState) (call : RejoinCall) : Named s call ↔ InTurn s call := by
  cases call with
  | respSent k => exact forall₂_congr fun p _ => namedFor_iff s p
  | rejoinRequest req => exact Iff.rfl
  | doLeave rejoin => exact Iff.rfl
  | tables nwk => exact Iff.rfl

end Confirm

/-! ## Runs -/

section Runs

variable {start s t : RejoinState} {calls : List RejoinCall} {call : RejoinCall}

/-- What a request does to the responses on their way and to the addresses remembered. -/
theorem zbNlmeRejoinRequest_spec {req : RejoinRequest} {sent : Option RejoinResponse}
    (taken : zbNlmeRejoinRequest req s = .ok (t, sent)) :
    t.inFlight = s.inFlight ++ accepted s (.rejoinRequest req) ∧
      t.rejoinReqTable = s.rejoinReqTable ++
        (accepted s (.rejoinRequest req)).map fun p => p.response.networkAddr := by
  have output := taken
  rw [zbNlmeRejoinRequest] at output
  split at output
  · cases joined : zbNwkAcceptChild req.device req.capabilityInformation req.lqi s.join with
    | error stop => simp [joined, bind, Except.bind] at output
    | ok r =>
        obtain ⟨join, address⟩ := r
        cases address with
        | none =>
            simp only [joined, bind, Except.bind, pure, Except.pure, Except.ok.injEq,
              Prod.mk.injEq] at output
            obtain ⟨rfl, rfl⟩ := output
            simp [accepted, taken, rejoinResponse]
        | some address =>
            simp only [joined, bind, Except.bind, pure, Except.pure, Except.ok.injEq,
              Prod.mk.injEq] at output
            obtain ⟨rfl, rfl⟩ := output
            simp [accepted, taken, rejoinResponse]
  · cases output
    simp [accepted, taken]

/-- What comes on its way is indicated, or still on its way. -/
theorem step_balance (named : Named s call) (taken : rejoinStep s call = some t) :
    (s.inFlight.map indicationOf ++ (accepted s call).map indicationOf).Perm
      (indications s call ++ t.inFlight.map indicationOf) := by
  cases call with
  | tables nwk =>
      cases taken
      simp [accepted, indications]
  | doLeave rejoin =>
      obtain ⟨nwk, left, rfl⟩ := Option.map_eq_some_iff.1 taken
      simp [accepted, indications]
  | rejoinRequest req =>
      obtain ⟨⟨t, sent⟩, requested, rfl⟩ := Option.map_eq_some_iff.1 taken
      have requested := toOption_eq_some.1 requested
      rw [(zbNlmeRejoinRequest_spec requested).1, List.map_append]
      exact List.Perm.refl _
  | respSent k =>
      obtain ⟨⟨t, indication⟩, confirmed, rfl⟩ := Option.map_eq_some_iff.1 taken
      have output : indications s (.respSent k) = [indication] := by
        simp [indications, confirmed]
      simp only [respSent, Option.bind_eq_bind, Option.bind_eq_some_iff] at confirmed
      obtain ⟨p, found, ⟨u, issued⟩, sent, same⟩ := confirmed
      cases same
      obtain ⟨u', sent'⟩ := named p found
      rw [sent'] at sent
      cases sent
      obtain ⟨inside, rfl⟩ := List.getElem?_eq_some_iff.1 found
      rw [output]
      simp only [accepted, List.map_nil, List.append_nil, List.singleton_append]
      exact ((List.getElem_cons_eraseIdx_perm inside).map indicationOf).symm
  
/-- **The join indication names the right device**, exactly once for each rejoin, exactly
when every confirm comes in turn. -/
theorem joinIndication_named (start : RejoinState) (calls : List RejoinCall) :
    (Along rejoinStep Named start calls ∧
        ∀ s, run rejoinStep start calls = some s → IndicatedOnce start s calls) ↔
      Along rejoinStep InTurn start calls := by
  constructor
  · rintro ⟨named, -⟩
    exact named.mono fun s call => (named_iff s call).1
  · intro inTurn
    have named : Along rejoinStep Named start calls :=
      inTurn.mono fun s call => (named_iff s call).2
    refine ⟨named, ?_⟩
    intro s ran
    rw [IndicatedOnce, List.map_append, map_trace]
    exact trace_perm
      (fun s call t named taken => step_balance named taken) named ran

/-! ## In the reverse order -/

/-- A confirm is that of the last response on its way, and the parent itself stays as
long as there is one. -/
def LastSent (s : RejoinState) : RejoinCall → Prop
  | .respSent k => k + 1 = s.inFlight.length
  | .doLeave _ => s.inFlight = []
  | _ => True

/-- The tables know the device of a confirm. -/
def Known (s : RejoinState) : RejoinCall → Prop
  | .respSent k => ∀ p ∈ s.inFlight[k]?, StillKnown s.join.nwk p
  | _ => True

/-- The addresses remembered are those of the responses on their way. -/
def Remembered (s : RejoinState) : Prop :=
  s.rejoinReqTable = s.inFlight.map fun p => p.response.networkAddr

theorem step_remembered (ok : Remembered s) (last : LastSent s call)
    (taken : rejoinStep s call = some t) : Remembered t := by
  cases call with
  | tables nwk =>
      cases taken
      exact ok
  | doLeave rejoin =>
      obtain ⟨nwk, left, rfl⟩ := Option.map_eq_some_iff.1 taken
      have none : s.inFlight = [] := last
      simp [Remembered, none]
  | rejoinRequest req =>
      obtain ⟨⟨t, sent⟩, requested, rfl⟩ := Option.map_eq_some_iff.1 taken
      obtain ⟨inFlight, table⟩ := zbNlmeRejoinRequest_spec (toOption_eq_some.1 requested)
      rw [Remembered, inFlight, table, ok, List.map_append]
  | respSent k =>
      obtain ⟨⟨t, indication⟩, confirmed, rfl⟩ := Option.map_eq_some_iff.1 taken
      simp only [respSent, Option.bind_eq_bind, Option.bind_eq_some_iff] at confirmed
      obtain ⟨p, found, ⟨u, issued⟩, sent, same⟩ := confirmed
      cases same
      have sent := toOption_eq_some.1 sent
      obtain ⟨address, ref, -, -, -, rfl, -⟩ := zbNlmeRejoinRespSent_eq_ok.1 sent
      have k_eq : k = s.inFlight.length - 1 := by
        have last : k + 1 = s.inFlight.length := last
        omega
      simp only [Remembered] at ok ⊢
      rw [ok, k_eq, List.eraseIdx_length_sub_one, List.map_dropLast]

/-- **In the reverse order** of the responses, the addresses come in turn. -/
theorem lastSent_inTurn (remembered : Remembered start)
    (last : Along rejoinStep LastSent start calls) (known : Along rejoinStep Known start calls) :
    Along rejoinStep InTurn start calls := by
  refine along_of_invariant (fun s call t ok guard taken => step_remembered ok guard.1 taken)
    ?_ remembered (last.and known)
  intro s call ok guard
  cases call with
  | tables nwk => trivial
  | doLeave rejoin => trivial
  | rejoinRequest req => trivial
  | respSent k =>
      intro p found
      obtain ⟨last, known⟩ := guard
      have last : k + 1 = s.inFlight.length := last
      refine ⟨?_, known p found⟩
      have place : s.inFlight.getLast? = some p := by
        rw [List.getLast?_eq_getElem?, ← last]
        exact found
      rw [ok, List.getLast?_map, place]
      rfl

end Runs

/-! ## Out of turn -/

/-- A parent that waits for no confirm. -/
def idleParent : RejoinState where
  join := (ChildAddresses.formedParent 4 2 2).join
  rejoinReqTable := []
  inFlight := []

/-- A rejoin request in the clear. -/
def rejoinOf (device : ZbIeeeAddr) (capability : UInt8) : RejoinCall :=
  .rejoinRequest
    { destinationIeee := false
      sourceIeee := true
      security := false
      srcAddr := 0xFFFE
      dstIeeeAddr := device
      srcIeeeAddr := device
      capabilityInformation := capability
      lqi := 0 }

/-- Two rejoins overlap, and are confirmed in the order of the requests: the first
confirm names the second device. -/
theorem confirmed_in_order :
    ¬ ∀ start calls, start.inFlight = [] → start.rejoinReqTable = [] →
      Along rejoinStep Named start calls ∧
        ∀ s, run rejoinStep start calls = some s → IndicatedOnce start s calls := by
  intro claim
  obtain ⟨named, -⟩ := claim idleParent
    [rejoinOf ChildAddresses.deviceOne 0x80, rejoinOf ChildAddresses.deviceTwo 0x80, .respSent 0]
    rfl rfl
  have inTurn := named.mono fun s call => (named_iff s call).1
  exact absurd inTurn (by decide +kernel)

/-- A device rejoins again as a router before its first response has been sent: the
address it had been given as an end device is no longer known, and the assertion is
reached. -/
theorem assertion_reached :
    (run rejoinStep idleParent
        [rejoinOf ChildAddresses.deviceOne 0x80, rejoinOf ChildAddresses.deviceOne 0x82,
          .respSent 1]).map (fun s => s.inFlight.map fun p =>
            (zbNlmeRejoinRespSent p.response s).map fun r => r.2) =
      some [.error .asserted] := by
  decide +kernel

end Zboss.Nwk.JoinIndication
