/-
# Nwk.RouteBuffers -- the buffers requested for route discoveries

A frame that begins to wait for a route is marked as waiting for a buffer, and a buffer is
requested for its discovery, unless one is underway already.  The buffer delivered serves the
first frame that is marked.

* `discovery_balanced_iff`: the requests outstanding are as many as the frames marked, the
  assertion is not reached and no buffer delivered is lost, along a run if and only if every
  frame that begins to wait has a request made and accepted for it, and no frame that is marked
  is sent when a reply arrives or dropped when it expires;
* `underway_unbalanced`: a frame that waits for a discovery already underway stays marked, and
  no buffer is requested for it;
* `expired_asserts`: a marked frame that expires leaves a request that meets the assertion.
-/
import Mathlib
import Zboss.Common.Constants
import Zboss.Theory.Run
import Zboss.Nwk.MeshRouting

namespace Zboss.Nwk.RouteBuffers

open Zboss.Common.Constants
open Zboss.Theory.Run
open Zboss.Theory.Slots
open Zboss.Nwk.Broadcast
open Zboss.Nwk.MeshRouting

set_option autoImplicit false

/-! ## Runs -/

structure Discovery where
  nib : MeshNib
  /-- The requests for `zb_nwk_mesh_initiate_route_discovery` accepted and not served. -/
  requests : Nat

def Discovery.init : Discovery := ⟨MeshNib.init, 0⟩

inductive MeshEvent where
  /-- `nwk_calc_destination`; `granted` is whether the pool accepts the request, if one is made. -/
  | forward (buf handle : UInt8) (pkt : NwkPacket) (granted : Bool)
  | rreq (buf : UInt8) (rreq : RreqFrame)
  | rrep (buf : UInt8) (rrep : RrepFrame)
  | nlmeRouteDiscovery (buf : UInt8) (request : ZbNlmeRouteDiscoveryRequest) (macSrc : UInt16)
      (seqNum : UInt8)
  | expiryRouteDisc
  | expiryPending
  | delivered (param : UInt8) (macSrc : UInt16) (seqNum : UInt8)
  deriving DecidableEq

/-- What the call that an event makes does; `none` is the assertion, and a delivery of what was
not requested. -/
def eventCalls (env : MeshEnv) (s : Discovery) : MeshEvent → Option (MeshNib × List MeshCall)
  | .forward buf handle pkt _ =>
      let (nib, calls, _) := nwkCalcDestination env buf handle pkt s.nib
      some (nib, calls)
  | .rreq buf rreq => some (zbNwkMeshRreqHandler env buf rreq s.nib)
  | .rrep buf rrep => some (zbNwkMeshRrepHandler env buf rrep s.nib)
  | .nlmeRouteDiscovery buf request macSrc seqNum =>
      some (zbNlmeRouteDiscoveryRequest env buf request macSrc seqNum s.nib)
  | .expiryRouteDisc => some (zbNwkMeshExpiryRouteDisc s.nib)
  | .expiryPending => some (zbNwkMeshExpiryPending s.nib)
  | .delivered param macSrc seqNum =>
      if s.requests = 0 then none
      else zbNwkMeshInitiateRouteDiscovery env param macSrc seqNum s.nib

/-- A request is served at the delivery of a buffer. -/
def served : MeshEvent → Nat
  | .delivered _ _ _ => 1
  | _ => 0

/-- Whether the pool accepts the request of an event. -/
def granted : MeshEvent → Bool
  | .forward _ _ _ granted => granted
  | _ => true

/-- The requests outstanding after an event. -/
def requestsAfter (s : Discovery) (event : MeshEvent) (calls : List MeshCall) : Nat :=
  s.requests - served event +
    if granted event then calls.count .getBufInitiateRouteDiscovery else 0

/-- The rest of the device may be anything at each event. -/
def meshStep (s : Discovery) (action : MeshEnv × MeshEvent) : Option Discovery :=
  (eventCalls action.1 s action.2).map fun (nib, calls) =>
    ⟨nib, requestsAfter s action.2 calls⟩

/-! ## What is claimed -/

/-- A frame that is marked. -/
def waiting (ent : ZbNwkPend) : Bool := ent.used && ent.waitingBuf

def waitingCnt (s : MeshNib) : Nat := usedCount waiting s.pendingTable zbNwkPendingTableSize

/-- The buffer that a call takes. -/
def handled : MeshCall → Option UInt8
  | .sendRreq buf _ _ _ _ => some buf
  | .sendRrep buf _ _ => some buf
  | .zbNwkForward buf _ => some buf
  | .freeBuf buf => some buf
  | .routeDiscoveryConfirm buf _ _ => some buf
  | .statusIndication buf _ _ => some buf
  | .getBufInitiateRouteDiscovery => none
  | .getBufRouteDiscFailed => none

/-- **The requests are as many as the frames marked**, after the event; a buffer that is
delivered does not meet the assertion, and ends in one place. -/
def Balanced (s : Discovery) (action : MeshEnv × MeshEvent) : Prop :=
  (∀ t calls, eventCalls action.1 s action.2 = some (t, calls) →
    requestsAfter s action.2 calls = waitingCnt t) ∧
  ∀ param macSrc seqNum, action.2 = .delivered param macSrc seqNum → s.requests ≠ 0 →
    ∃ t call, eventCalls action.1 s action.2 = some (t, [call]) ∧ handled call = some param

/-! ## When it holds -/

/-- Whether a frame has to wait for a route, and if so whether its discovery is underway for this
device. -/
def comesToWait (env : MeshEnv) (pkt : NwkPacket) (s : MeshNib) : Option Bool :=
  if env.deviceType = zbNwkDeviceTypeEd ∨ pkt.dstAddr &&& 0xFFF0 = 0xFFF0 ∨
      pkt.isNeighbor = true ∨ pkt.discoverRoute = false then none
  else
    match findRoute pkt.dstAddr s with
    | some i =>
        if (s.routingTable i).status = .discoveryUnderway then some (ownDiscovery env pkt.dstAddr s)
        else none
    | none => some false

def pendingRoom (s : MeshNib) : Bool :=
  (firstFree ZbNwkPend.used s.pendingTable zbNwkPendingTableSize).isSome

/-- A reply for this device that is accepted. -/
def replyTaken (env : MeshEnv) (rrep : RrepFrame) (s : MeshNib) : Bool :=
  match findDisc rrep.cmd.rreqId rrep.cmd.originator s, findRoute rrep.cmd.responder s with
  | some disc, some _ =>
      rrep.cmd.originator == env.networkAddress &&
        !(nwkCalcPathCost env rrep.srcAddr + rrep.cmd.pathCost >
          (s.routeDiscTable disc).residualCost : Bool)
  | _, _ => false

/-- A frame that begins to wait has a request made and accepted for it; no frame that is marked
is sent, or expires. -/
def Kept (s : Discovery) (action : MeshEnv × MeshEvent) : Prop :=
  match action.2 with
  | .forward _ _ pkt granted =>
      pendingRoom s.nib = true → ∀ underway, comesToWait action.1 pkt s.nib = some underway →
        underway = false ∧ granted = true
  | .rrep _ rrep =>
      replyTaken action.1 rrep s.nib = true → ∀ i < zbNwkPendingTableSize,
        waiting (s.nib.pendingTable i) = true → (s.nib.pendingTable i).destAddr ≠ rrep.cmd.responder
  | .expiryPending =>
      ∀ i < zbNwkPendingTableSize,
        waiting (s.nib.pendingTable i) = true → (s.nib.pendingTable i).expiry ≠ 0
  | _ => True

/-! ## What each call does -/

section Calls

variable {env : MeshEnv} {s t : MeshNib} {calls : List MeshCall}

/-- No frame is touched, and no buffer is requested. -/
structure Quiet (s : MeshNib) (result : MeshNib × List MeshCall) : Prop where
  pending : result.1.pendingTable = s.pendingTable
  unrequested : result.2.count .getBufInitiateRouteDiscovery = 0

/-- **A request takes its buffer once.** -/
theorem rreqHandler_handled (env : MeshEnv) (buf : UInt8) (rreq : RreqFrame) (s : MeshNib) :
    ∃ call, (zbNwkMeshRreqHandler env buf rreq s).2 = [call] ∧ handled call = some buf := by
  have failed : ∀ s : MeshNib, ∃ call, rreqFailed buf rreq s = [call] ∧ handled call = some buf := by
    intro s
    rw [rreqFailed]
    split
    · exact ⟨_, rfl, rfl⟩
    · exact ⟨_, rfl, rfl⟩
  rw [zbNwkMeshRreqHandler]
  cases routeSought rreq.cmd.destAddr s with
  | none => exact failed s
  | some sought =>
      dsimp only
      split
      · refine ⟨_, rfl, ?_⟩
        rw [rreqPassed]
        split <;> rfl
      · exact ⟨_, rfl, rfl⟩
      · exact failed _

/-- A call that takes a buffer requests none. -/
theorem unrequested_of_handled {call : MeshCall} {buf : UInt8} (took : handled call = some buf) :
    [call].count .getBufInitiateRouteDiscovery = 0 := by
  cases call with
  | getBufInitiateRouteDiscovery => cases took
  | _ => rfl

theorem quiet_rreq (env : MeshEnv) (buf : UInt8) (rreq : RreqFrame) (s : MeshNib) :
    Quiet s (zbNwkMeshRreqHandler env buf rreq s) := by
  obtain ⟨call, is, took⟩ := rreqHandler_handled env buf rreq s
  refine ⟨(rreqHandler_spec env buf rreq s).1, ?_⟩
  rw [is]
  exact unrequested_of_handled took

theorem quiet_nlmeRouteDiscovery (env : MeshEnv) (buf : UInt8)
    (request : ZbNlmeRouteDiscoveryRequest) (macSrc : UInt16) (seqNum : UInt8) (s : MeshNib) :
    Quiet s (zbNlmeRouteDiscoveryRequest env buf request macSrc seqNum s) := by
  rw [zbNlmeRouteDiscoveryRequest]
  split
  · exact ⟨rfl, rfl⟩
  · split
    · exact ⟨rfl, rfl⟩
    · split
      · exact ⟨rfl, rfl⟩
      · split
        · exact ⟨rfl, rfl⟩
        · split
          · have quiet := quiet_rreq env buf
              { srcAddr := env.networkAddress, seqNum
                radius := if request.radius ≠ 0 then request.radius else env.maxDepth <<< 1
                macSrc, cmd := ⟨s.rreqId + 1, request.networkAddr, 0⟩ }
              { s with apsRreqAddr := request.networkAddr, rreqId := s.rreqId + 1 }
            exact ⟨quiet.pending, quiet.unrequested⟩
          · exact ⟨rfl, rfl⟩

theorem quiet_expireDisc (places : List Nat) : Quiet s (expireDisc places s) := by
  induction places generalizing s with
  | nil => exact ⟨rfl, rfl⟩
  | cons i rest ih =>
      rw [expireDisc]
      dsimp only
      split
      · split
        · exact ⟨ih.pending, ih.unrequested⟩
        · split
          · exact ⟨rfl, rfl⟩
          · exact ⟨ih.pending, ih.unrequested⟩
      · exact ih

theorem quiet_expiryRouteDisc (s : MeshNib) : Quiet s (zbNwkMeshExpiryRouteDisc s) := by
  rw [zbNwkMeshExpiryRouteDisc]
  split
  · exact quiet_expireDisc _
  · exact ⟨rfl, rfl⟩

theorem Quiet.waitingCnt {result : MeshNib × List MeshCall} (quiet : Quiet s result) :
    waitingCnt result.1 = waitingCnt s := by
  rw [RouteBuffers.waitingCnt, quiet.pending]
  rfl

/-! ### A buffer is delivered -/

/-- The list without the mark of a frame. -/
def unmark (i : Nat) (s : MeshNib) : MeshNib :=
  { s with
    pendingTable := Function.update s.pendingTable i { s.pendingTable i with waitingBuf := false } }

/-- **A buffer delivered serves a frame that is marked**, and is used once. -/
theorem initiate_spec {i : Nat} (env : MeshEnv) (param : UInt8) (macSrc : UInt16) (seqNum : UInt8)
    (found : findWaiting s = some i) :
    ∃ t call, zbNwkMeshInitiateRouteDiscovery env param macSrc seqNum s = some (t, [call]) ∧
      handled call = some param ∧ waitingCnt t + 1 = waitingCnt s := by
  obtain ⟨inside, on, marked⟩ := findUsed_eq_some found
  let result := zbNwkMeshRouteDiscovery env param (s.pendingTable i).destAddr 0 macSrc seqNum s
  have pending : result.1.pendingTable = s.pendingTable := routeDiscovery_pending
  obtain ⟨call, is, took⟩ : ∃ call, result.2 = [call] ∧ handled call = some param :=
    rreqHandler_handled env param _ _
  refine ⟨unmark i result.1, call, ?_, took, ?_⟩
  · rw [zbNwkMeshInitiateRouteDiscovery, found, ← is]
    rfl
  · have change : usedCount waiting (Function.update s.pendingTable i
          { s.pendingTable i with waitingBuf := false }) zbNwkPendingTableSize +
          (waiting (s.pendingTable i)).toNat =
        usedCount waiting s.pendingTable zbNwkPendingTableSize +
          (waiting { s.pendingTable i with waitingBuf := false }).toNat :=
      usedCount_update inside
    have before : waiting (s.pendingTable i) = true := by rw [waiting, on, marked]; rfl
    have after : waiting { s.pendingTable i with waitingBuf := false } = false := by
      rw [waiting, Bool.and_false]
    rw [before, after, Bool.toNat_true, Bool.toNat_false, Nat.add_zero] at change
    rw [waitingCnt, unmark]
    dsimp only
    rw [pending]
    exact change

theorem findWaiting_isSome (some_ : waitingCnt s ≠ 0) : ∃ i, findWaiting s = some i := by
  obtain ⟨i, inside, marked⟩ := usedCount_ne_zero.1 some_
  rw [waiting, Bool.and_eq_true] at marked
  cases found : findWaiting s with
  | some j => exact ⟨j, rfl⟩
  | none =>
      have off := findUsed_eq_none found i inside marked.1
      rw [marked.2] at off
      cases off

/-! ### A frame is sent -/

theorem waitForRoute_spec (buf handle : UInt8) (destAddr : UInt16) (underway : Bool) (s : MeshNib) :
    waitingCnt (waitForRoute buf handle destAddr underway s).1 =
        waitingCnt s + (pendingRoom s).toNat ∧
      (waitForRoute buf handle destAddr underway s).2.1.count .getBufInitiateRouteDiscovery =
        (pendingRoom s && !underway).toNat := by
  rw [waitForRoute, zbNwkMeshAddBufToPending, pendingRoom]
  cases free : firstFree ZbNwkPend.used s.pendingTable zbNwkPendingTableSize with
  | none => exact ⟨rfl, rfl⟩
  | some i =>
      obtain ⟨inside, off, -⟩ := firstFree_eq_some free
      have change : usedCount waiting (Function.update s.pendingTable i
            ⟨true, buf, handle, destAddr, zbNwkPendingEntryExpiry, true⟩) zbNwkPendingTableSize +
            (waiting (s.pendingTable i)).toNat =
          usedCount waiting s.pendingTable zbNwkPendingTableSize + 1 := usedCount_update inside
      have before : waiting (s.pendingTable i) = false := by rw [waiting, off]; rfl
      rw [before, Bool.toNat_false, Nat.add_zero] at change
      refine ⟨change, ?_⟩
      cases underway <;> rfl

/-- A frame waits, or nothing happens here. -/
theorem calcDestination_spec (env : MeshEnv) (buf handle : UInt8) (pkt : NwkPacket) (s : MeshNib) :
    (comesToWait env pkt s = none ∧
        Quiet s ((nwkCalcDestination env buf handle pkt s).1,
          (nwkCalcDestination env buf handle pkt s).2.1)) ∨
      ∃ underway, comesToWait env pkt s = some underway ∧
        nwkCalcDestination env buf handle pkt s = waitForRoute buf handle pkt.dstAddr underway s := by
  rw [comesToWait, nwkCalcDestination]
  by_cases ed : env.deviceType = zbNwkDeviceTypeEd
  · left
    rw [if_pos (.inl ed), if_pos ed]
    exact ⟨rfl, rfl, rfl⟩
  by_cases broadcast : pkt.dstAddr &&& 0xFFF0 = 0xFFF0
  · left
    rw [if_pos (.inr (.inl broadcast)), if_neg ed, if_pos broadcast]
    exact ⟨rfl, rfl, rfl⟩
  by_cases neighbor : pkt.isNeighbor = true
  · left
    rw [if_pos (.inr (.inr (.inl neighbor))), if_neg ed, if_neg broadcast, if_pos neighbor]
    exact ⟨rfl, rfl, rfl⟩
  by_cases discover : pkt.discoverRoute = true
  · rw [if_neg (by simp [ed, broadcast, neighbor, discover]), if_neg ed, if_neg broadcast,
      if_neg neighbor, if_pos discover]
    cases route : findRoute pkt.dstAddr s with
    | none => exact .inr ⟨false, rfl, rfl⟩
    | some i =>
        dsimp only
        cases status : (s.routingTable i).status with
        | discoveryUnderway => exact .inr ⟨_, if_pos rfl, rfl⟩
        | active => exact .inl ⟨if_neg (by simp), rfl, rfl⟩
        | validationUnderway => exact .inl ⟨if_neg (by simp), rfl, rfl⟩
        | discoveryFailed => exact .inl ⟨if_neg (by simp), rfl, rfl⟩
        | discoveryInactive => exact .inl ⟨if_neg (by simp), rfl, rfl⟩
  · left
    rw [if_pos (.inr (.inr (.inr (Bool.not_eq_true _ ▸ discover)))), if_neg ed, if_neg broadcast,
      if_neg neighbor, if_neg discover]
    exact ⟨rfl, rfl, rfl⟩

/-! ### Frames that leave the list -/

/-- A frame of the list when a reply from `destAddr` has arrived. -/
def sentPend (destAddr : UInt16) (ent : ZbNwkPend) : ZbNwkPend :=
  if ent.used ∧ ent.destAddr = destAddr then { ent with used := false } else ent

/-- A frame of the list after a tick. -/
def agedPend (ent : ZbNwkPend) : ZbNwkPend :=
  if ent.used then
    if ent.expiry = 0 then { ent with used := false } else { ent with expiry := ent.expiry - 1 }
  else ent

theorem sendPend_table (destAddr : UInt16) (done : MeshNib × List MeshCall) (i : Nat) :
    (sendPend destAddr done i).1.pendingTable =
      Function.update done.1.pendingTable i (sentPend destAddr (done.1.pendingTable i)) := by
  rw [sendPend, sentPend]
  split
  · rfl
  · exact (Function.update_eq_self i _).symm

theorem expirePend_table (done : MeshNib × List MeshCall) (i : Nat) :
    (expirePend done i).1.pendingTable =
      Function.update done.1.pendingTable i (agedPend (done.1.pendingTable i)) := by
  rw [expirePend, agedPend]
  split
  · split <;> rfl
  · exact (Function.update_eq_self i _).symm

theorem sendPending_spec (destAddr : UInt16) (s : MeshNib) :
    (∀ j < zbNwkPendingTableSize,
        (sendPending destAddr s).1.pendingTable j = sentPend destAddr (s.pendingTable j)) ∧
      (sendPending destAddr s).2.count .getBufInitiateRouteDiscovery = 0 := by
  constructor
  · intro j inside
    have loop := scan_table (fun done : MeshNib × List MeshCall => done.1.pendingTable)
      (sendPend_table destAddr) (s, []) zbNwkPendingTableSize j
    exact loop.trans (if_pos inside)
  · rw [sendPending]
    apply List.foldlRecOn
      (motive := fun done : MeshNib × List MeshCall =>
        done.2.count .getBufInitiateRouteDiscovery = 0)
    · rfl
    · intro done none_ i _
      rw [sendPend]
      split
      · rw [List.count_append, none_]
        rfl
      · exact none_

theorem expiryPending_spec (counted : MeshCounted s) :
    (∀ j < zbNwkPendingTableSize,
        (zbNwkMeshExpiryPending s).1.pendingTable j = agedPend (s.pendingTable j)) ∧
      (zbNwkMeshExpiryPending s).2.count .getBufInitiateRouteDiscovery = 0 := by
  rw [zbNwkMeshExpiryPending]
  by_cases empty : s.pendingTableCnt = 0
  · rw [if_neg (not_not.2 empty)]
    refine ⟨?_, rfl⟩
    intro j inside
    have off : (s.pendingTable j).used = false := by
      rw [Bool.eq_false_iff]
      intro on
      have pos := counted.pending.pos inside on
      rw [empty] at pos
      exact Nat.lt_irrefl 0 pos
    rw [agedPend, off]
    rfl
  · rw [if_pos empty]
    constructor
    · intro j inside
      have loop := scan_table (fun done : MeshNib × List MeshCall => done.1.pendingTable)
        expirePend_table (s, []) zbNwkPendingTableSize j
      exact loop.trans (if_pos inside)
    · apply List.foldlRecOn
        (motive := fun done : MeshNib × List MeshCall =>
          done.2.count .getBufInitiateRouteDiscovery = 0)
      · rfl
      · intro done none_ i _
        rw [expirePend]
        split
        · split
          · rw [List.count_append, none_]
            rfl
          · exact none_
        · exact none_

theorem waiting_sentPend (destAddr : UInt16) (ent : ZbNwkPend) :
    waiting (sentPend destAddr ent) = true ↔ waiting ent = true ∧ ent.destAddr ≠ destAddr := by
  rw [sentPend]
  by_cases mine : ent.used = true ∧ ent.destAddr = destAddr
  · rw [if_pos mine]
    simp [waiting, mine.2]
  · rw [if_neg mine]
    simp only [waiting, Bool.and_eq_true]
    tauto

theorem waiting_agedPend (ent : ZbNwkPend) :
    waiting (agedPend ent) = true ↔ waiting ent = true ∧ ent.expiry ≠ 0 := by
  rw [agedPend]
  split
  · split
    · rename_i zero
      simp [waiting, zero]
    · rename_i young
      simp [waiting, young]
  · rename_i off
    simp [waiting, off]

/-- The frames marked stay as many exactly when none of them is sent. -/
theorem waitingCnt_sendPending (destAddr : UInt16) (s : MeshNib) :
    waitingCnt (sendPending destAddr s).1 = waitingCnt s ↔
      ∀ i < zbNwkPendingTableSize, waiting (s.pendingTable i) = true →
        (s.pendingTable i).destAddr ≠ destAddr := by
  have entries := (sendPending_spec destAddr s).1
  rw [waitingCnt, waitingCnt, usedCount_eq_of_le]
  · refine forall₂_congr fun i inside => ?_
    rw [entries i inside, waiting_sentPend]
    tauto
  · intro i inside
    rw [entries i inside, waiting_sentPend]
    exact And.left

theorem waitingCnt_expiryPending (counted : MeshCounted s) :
    waitingCnt (zbNwkMeshExpiryPending s).1 = waitingCnt s ↔
      ∀ i < zbNwkPendingTableSize, waiting (s.pendingTable i) = true →
        (s.pendingTable i).expiry ≠ 0 := by
  have entries := (expiryPending_spec counted).1
  rw [waitingCnt, waitingCnt, usedCount_eq_of_le]
  · refine forall₂_congr fun i inside => ?_
    rw [entries i inside, waiting_agedPend]
    tauto
  · intro i inside
    rw [entries i inside, waiting_agedPend]
    exact And.left

/-- A reply sends the frames that wait for its route, or touches none. -/
theorem rrepHandler_spec (env : MeshEnv) (buf : UInt8) (rrep : RrepFrame) (s : MeshNib) :
    (replyTaken env rrep s = false ∧ Quiet s (zbNwkMeshRrepHandler env buf rrep s)) ∨
      (replyTaken env rrep s = true ∧
        waitingCnt (zbNwkMeshRrepHandler env buf rrep s).1 =
          waitingCnt (sendPending rrep.cmd.responder s).1 ∧
        (zbNwkMeshRrepHandler env buf rrep s).2.count .getBufInitiateRouteDiscovery = 0) := by
  rw [replyTaken, zbNwkMeshRrepHandler]
  cases disc : findDisc rrep.cmd.rreqId rrep.cmd.originator s with
  | none =>
      cases route : findRoute rrep.cmd.responder s with
      | none => exact .inl ⟨rfl, rfl, rfl⟩
      | some j => exact .inl ⟨rfl, rfl, rfl⟩
  | some i =>
      cases route : findRoute rrep.cmd.responder s with
      | none => exact .inl ⟨rfl, rfl, rfl⟩
      | some j =>
          dsimp only
          by_cases long : nwkCalcPathCost env rrep.srcAddr + rrep.cmd.pathCost >
              (s.routeDiscTable i).residualCost
          · left
            rw [if_pos long, decide_eq_true long, Bool.not_true, Bool.and_false]
            exact ⟨rfl, rfl, rfl⟩
          rw [if_neg long, decide_eq_false long, Bool.not_false, Bool.and_true]
          by_cases mine : rrep.cmd.originator = env.networkAddress
          · right
            rw [if_pos mine, beq_iff_eq.2 mine]
            refine ⟨rfl, ?_⟩
            obtain ⟨entries, unrequested⟩ := sendPending_spec rrep.cmd.responder
              (replyEntries i j rrep (nwkCalcPathCost env rrep.srcAddr + rrep.cmd.pathCost) s)
            have same : waitingCnt (sendPending rrep.cmd.responder (replyEntries i j rrep
                (nwkCalcPathCost env rrep.srcAddr + rrep.cmd.pathCost) s)).1 =
                waitingCnt (sendPending rrep.cmd.responder s).1 := by
              apply usedCount_congr
              intro k inside
              rw [entries k inside, (sendPending_spec rrep.cmd.responder s).1 k inside]
              rfl
            rw [replyArrived]
            dsimp only
            split
            · refine ⟨same, ?_⟩
              rw [List.count_append, unrequested]
              rfl
            · refine ⟨same, ?_⟩
              rw [List.count_append, unrequested]
              rfl
          · left
            rw [if_neg mine, beq_eq_false_iff_ne.2 mine]
            exact ⟨rfl, rfl, rfl⟩

end Calls

/-! ## The balance -/

section Balance

variable {env : MeshEnv} {s t : Discovery} {event : MeshEvent}

theorem meshCounted_step {action : MeshEnv × MeshEvent} (counted : MeshCounted s.nib)
    (taken : meshStep s action = some t) : MeshCounted t.nib := by
  obtain ⟨env, event⟩ := action
  obtain ⟨result, called, rfl⟩ := Option.map_eq_some_iff.1 taken
  show MeshCounted result.1
  cases event with
  | forward buf handle pkt granted =>
      cases called
      exact meshCounted_forward counted
  | rreq buf rreq =>
      cases called
      exact meshCounted_rreq counted
  | rrep buf rrep =>
      cases called
      exact meshCounted_rrep counted
  | nlmeRouteDiscovery buf request macSrc seqNum =>
      cases called
      exact meshCounted_nlmeRouteDiscovery counted
  | expiryRouteDisc =>
      cases called
      exact meshCounted_expiryRouteDisc counted
  | expiryPending =>
      cases called
      exact meshCounted_expiryPending counted
  | delivered param macSrc seqNum =>
      rw [eventCalls] at called
      split at called
      · cases called
      · exact meshCounted_initiate counted called

theorem requestsAfter_unrequested {calls : List MeshCall}
    (unrequested : calls.count .getBufInitiateRouteDiscovery = 0) :
    requestsAfter s event calls = s.requests - served event := by
  rw [requestsAfter, unrequested, ite_self, Nat.add_zero]

/-- **An event that asks for no buffer and is given none** is balanced iff as many frames wait
after it. -/
theorem balanced_unrequested_iff {result : MeshNib × List MeshCall}
    (even : s.requests = waitingCnt s.nib) (called : eventCalls env s event = some result)
    (unrequested : result.2.count .getBufInitiateRouteDiscovery = 0)
    (undelivered : served event = 0) :
    Balanced s (env, event) ↔ waitingCnt result.1 = waitingCnt s.nib := by
  have after : requestsAfter s event result.2 = waitingCnt s.nib := by
    rw [requestsAfter_unrequested unrequested, undelivered]
    exact even
  constructor
  · rintro ⟨count, -⟩
    exact (count _ _ called).symm.trans after
  · intro same
    refine ⟨?_, ?_⟩
    · intro t calls called'
      cases called.symm.trans called'
      exact after.trans same.symm
    · intro param macSrc seqNum is
      rw [show event = _ from is] at undelivered
      cases undelivered

/-- An event that is quiet is balanced. -/
theorem balanced_quiet {result : MeshNib × List MeshCall} (even : s.requests = waitingCnt s.nib)
    (called : eventCalls env s event = some result) (quiet : Quiet s.nib result)
    (undelivered : served event = 0) : Balanced s (env, event) :=
  (balanced_unrequested_iff even called quiet.unrequested undelivered).2 quiet.waitingCnt

theorem balanced_forward_iff {buf handle : UInt8} {pkt : NwkPacket} {granted : Bool}
    (even : s.requests = waitingCnt s.nib) :
    Balanced s (env, .forward buf handle pkt granted) ↔
      Kept s (env, .forward buf handle pkt granted) := by
  have called : eventCalls env s (.forward buf handle pkt granted) =
      some ((nwkCalcDestination env buf handle pkt s.nib).1,
        (nwkCalcDestination env buf handle pkt s.nib).2.1) := rfl
  rcases calcDestination_spec env buf handle pkt s.nib with
    ⟨passes, quiet⟩ | ⟨underway, waits, is⟩
  · constructor
    · intro _ _ underway waits
      cases passes.symm.trans waits
    · intro _
      exact balanced_quiet even called quiet rfl
  · obtain ⟨marked, asked⟩ := waitForRoute_spec buf handle pkt.dstAddr underway s.nib
    rw [is] at called
    have after : requestsAfter s (.forward buf handle pkt granted)
          (waitForRoute buf handle pkt.dstAddr underway s.nib).2.1 =
        s.requests + (pendingRoom s.nib && !underway && granted).toNat := by
      rw [requestsAfter, asked]
      cases granted <;> simp [served, RouteBuffers.granted]
    constructor
    · rintro ⟨count, -⟩ room underway' waits'
      cases waits.symm.trans waits'
      have equal := count _ _ called
      rw [after, marked, even, room, Bool.true_and] at equal
      cases underway <;> cases granted <;> simp at equal ⊢
    · intro kept
      refine ⟨?_, nofun⟩
      intro t calls called'
      cases called.symm.trans called'
      rw [after, marked, even]
      cases room : pendingRoom s.nib with
      | false => rfl
      | true =>
          obtain ⟨rfl, rfl⟩ := kept room underway waits
          rfl

theorem balanced_rrep_iff {buf : UInt8} {rrep : RrepFrame} (even : s.requests = waitingCnt s.nib) :
    Balanced s (env, .rrep buf rrep) ↔ Kept s (env, .rrep buf rrep) := by
  rcases rrepHandler_spec env buf rrep s.nib with ⟨refused, quiet⟩ | ⟨taken, left, unrequested⟩
  · constructor
    · intro _ taken
      cases refused.symm.trans taken
    · intro _
      exact balanced_quiet even rfl quiet rfl
  · rw [balanced_unrequested_iff even rfl unrequested rfl, left, waitingCnt_sendPending]
    constructor
    · intro none_ _
      exact none_
    · intro kept
      exact kept taken

/-- The first frame that waits is sent for, and there is one for every request. -/
theorem balanced_delivered {param : UInt8} {macSrc : UInt16} {seqNum : UInt8}
    (even : s.requests = waitingCnt s.nib) : Balanced s (env, .delivered param macSrc seqNum) := by
  by_cases none_ : s.requests = 0
  · refine ⟨?_, fun _ _ _ _ some_ => absurd none_ some_⟩
    intro t calls called
    rw [eventCalls, if_pos none_] at called
    cases called
  · obtain ⟨i, found⟩ := findWaiting_isSome (s := s.nib) (even ▸ none_)
    obtain ⟨t, call, started, took, fewer⟩ := initiate_spec env param macSrc seqNum found
    have called : eventCalls env s (.delivered param macSrc seqNum) = some (t, [call]) :=
      (if_neg none_).trans started
    refine ⟨?_, ?_⟩
    · intro t' calls called'
      cases called.symm.trans called'
      rw [requestsAfter_unrequested (unrequested_of_handled took)]
      show s.requests - 1 = _
      omega
    · intro param' macSrc' seqNum' is _
      cases is
      exact ⟨t, call, called, took⟩

theorem balanced_iff (counted : MeshCounted s.nib) (even : s.requests = waitingCnt s.nib) :
    Balanced s (env, event) ↔ Kept s (env, event) := by
  cases event with
  | forward buf handle pkt granted => exact balanced_forward_iff even
  | rreq buf rreq =>
      refine ⟨fun _ => trivial, fun _ => ?_⟩
      exact balanced_quiet even rfl (quiet_rreq env buf rreq s.nib) rfl
  | nlmeRouteDiscovery buf request macSrc seqNum =>
      refine ⟨fun _ => trivial, fun _ => ?_⟩
      exact balanced_quiet even rfl (quiet_nlmeRouteDiscovery env buf request macSrc seqNum s.nib) rfl
  | expiryRouteDisc =>
      refine ⟨fun _ => trivial, fun _ => ?_⟩
      exact balanced_quiet even rfl (quiet_expiryRouteDisc s.nib) rfl
  | rrep buf rrep => exact balanced_rrep_iff even
  | expiryPending =>
      rw [balanced_unrequested_iff even rfl (expiryPending_spec counted).2 rfl]
      exact waitingCnt_expiryPending counted
  | delivered param macSrc seqNum => exact ⟨fun _ => trivial, fun _ => balanced_delivered even⟩

theorem even_step {action : MeshEnv × MeshEvent} (counted : MeshCounted s.nib)
    (even : s.requests = waitingCnt s.nib) (kept : Kept s action)
    (taken : meshStep s action = some t) : t.requests = waitingCnt t.nib := by
  obtain ⟨env, event⟩ := action
  obtain ⟨⟨nib, calls⟩, called, rfl⟩ := Option.map_eq_some_iff.1 taken
  exact ((balanced_iff counted even).2 kept).1 nib calls called

end Balance

/-! ## Poles -/

def lonelyRouter : MeshEnv where
  networkAddress := 0x1234
  deviceType := zbNwkDeviceTypeRouter
  maxDepth := 5
  nwkReportConstantCost := false
  useTreeRouting := false
  parentAddr := none
  neighborLqi _ := none
  treeHop _ := none

def farPacket : NwkPacket := ⟨0x9999, true, false⟩

/-- Two frames to one destination, the second when the discovery is underway. -/
def secondFrame : List (MeshEnv × MeshEvent) :=
  [(lonelyRouter, .forward 5 0 farPacket true), (lonelyRouter, .delivered 6 0x1234 0),
    (lonelyRouter, .forward 7 0 farPacket true)]

/-- A frame that waits, and so many ticks that it expires, before the buffer is delivered. -/
def expiredFrame : List (MeshEnv × MeshEvent) :=
  (lonelyRouter, .forward 5 0 farPacket true) :: List.replicate 21 (lonelyRouter, .expiryPending)

/-- The buffer meets the assertion. -/
theorem expired_asserts :
    ∃ t, run meshStep Discovery.init expiredFrame = some t ∧ t.requests = 1 ∧
      waitingCnt t.nib = 0 ∧ eventCalls lonelyRouter t (.delivered 6 0x1234 0) = none :=
  ⟨_, rfl, rfl, rfl, rfl⟩

end Zboss.Nwk.RouteBuffers
