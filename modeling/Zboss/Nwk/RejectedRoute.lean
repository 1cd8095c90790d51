/-
# Nwk.RejectedRoute -- what a dropped route command does to the routes

A route request or reply may be dropped: there is no room for an entry, the discovery or the
route is not known, or its cost is too high (`Dropped`).  Then the routes that were there should
be there still, and no entry of another discovery should go (`LeavesAlone`).  Both handlers
clean up behind such a command: they release the entries they have in hand, without
asking who made them.

`rejectedRoute_iff`: a dropped command leaves everything alone exactly when no route is in
hand while its discovery cannot be found or made (`Spared`): no request for a known
destination comes when the discovery table is full, and no reply from a known responder
for a discovery that is not known.

Pole: `forged_reply_drops_route`.
-/
import Mathlib
import Zboss.Nwk.RequestCosts

namespace Zboss.Nwk.RejectedRoute

open Zboss.Theory.Slots
open Zboss.Nwk.MeshRouting
open Zboss.Nwk.RequestCosts

set_option autoImplicit false

/-! ## Commands -/

inductive RouteCommand where
  | rreq (rreq : RreqFrame)
  | rrep (rrep : RrepFrame)

def handleCommand (env : MeshEnv) (buf : UInt8) (s : MeshNib) : RouteCommand → MeshNib
  | .rreq rreq => (zbNwkMeshRreqHandler env buf rreq s).1
  | .rrep rrep => (zbNwkMeshRrepHandler env buf rrep s).1

/-- The discovery a command belongs to: who asked, and under which number. -/
def RouteCommand.discovery : RouteCommand → UInt8 × UInt16
  | .rreq frame => (frame.cmd.rreqId, frame.srcAddr)
  | .rrep frame => (frame.cmd.rreqId, frame.cmd.originator)

/-- The destination of the route that is sought. -/
def RouteCommand.destination : RouteCommand → UInt16
  | .rreq frame => frame.cmd.destAddr
  | .rrep frame => frame.cmd.responder

/-- What has become of a request that is not passed on. -/
def discFailed : DiscSought → Bool
  | .goOn _ => false
  | .skip | .full => true

/-- **The command is dropped.** -/
def Dropped (env : MeshEnv) (s : MeshNib) : RouteCommand → Prop
  | .rreq rreq =>
      ∀ sought ∈ routeSought rreq.cmd.destAddr s,
        discFailed (discSought rreq (nwkCalcPathCost env rreq.srcAddr + rreq.cmd.pathCost)
          sought.2) = true
  | .rrep rrep =>
      ∀ disc ∈ findDisc rrep.cmd.rreqId rrep.cmd.originator s,
        ∀ routing ∈ findRoute rrep.cmd.responder s,
          nwkCalcPathCost env rrep.srcAddr + rrep.cmd.pathCost > (s.routeDiscTable disc).residualCost

/-! ## What is claimed -/

/-- A route is in use as it was: with its destination and its next hop, and active or under
validation if it was. -/
structure RouteKept (before after : ZbNwkRouting) : Prop where
  used : after.used = true
  destAddr : after.destAddr = before.destAddr
  nextHopAddr : after.nextHopAddr = before.nextHopAddr
  active : after.status = .active ↔ before.status = .active
  validation : after.status = .validationUnderway ↔ before.status = .validationUnderway

/-- **The routes are as they were**, and so are the entries of other discoveries. -/
structure LeavesAlone (discovery : UInt8 × UInt16) (s t : MeshNib) : Prop where
  routes : ∀ i < zbNwkRoutingTableSize, (s.routingTable i).used = true →
    RouteKept (s.routingTable i) (t.routingTable i)
  discoveries : ∀ i < zbNwkRouteDiscoveryTableSize, (s.routeDiscTable i).used = true →
    ((s.routeDiscTable i).requestId, (s.routeDiscTable i).sourceAddr) ≠ discovery →
      t.routeDiscTable i = s.routeDiscTable i

/-- **A rejected command leaves existing routes alone.** -/
def RejectedSafely (env : MeshEnv) (buf : UInt8) (s : MeshNib) (command : RouteCommand) : Prop :=
  Dropped env s command → LeavesAlone command.discovery s (handleCommand env buf s command)

/-- The discovery of a command has an entry, or a request can be given one. -/
def DiscAtHand (s : MeshNib) : RouteCommand → Prop
  | .rreq rreq => findDisc rreq.cmd.rreqId rreq.srcAddr s ≠ none ∨
      firstFree ZbNwkRouteDiscovery.used s.routeDiscTable zbNwkRouteDiscoveryTableSize ≠ none
  | .rrep rrep => findDisc rrep.cmd.rreqId rrep.cmd.originator s ≠ none

/-- No route is in hand without a discovery. -/
def Spared (s : MeshNib) (command : RouteCommand) : Prop :=
  findRoute command.destination s ≠ none → DiscAtHand s command

/-! ## The routes -/

section Routes

variable {s t : MeshNib} {i : Nat} {destAddr : UInt16} {discovery : UInt8 × UInt16}

theorem RouteKept.refl {ent : ZbNwkRouting} (used : ent.used = true) : RouteKept ent ent :=
  ⟨used, rfl, rfl, Iff.rfl, Iff.rfl⟩

theorem leavesAlone_refl (s : MeshNib) : LeavesAlone discovery s s :=
  ⟨fun _ _ used => .refl used, fun _ _ _ _ => rfl⟩

/-- Seeking a route keeps those there are; one that is made takes a free place. -/
theorem routeSought_kept (sought : routeSought destAddr s = some (i, t)) :
    (∀ j, (s.routingTable j).used = true → RouteKept (s.routingTable j) (t.routingTable j)) ∧
      (findRoute destAddr s = some i ∨
        findRoute destAddr s = none ∧ (s.routingTable i).used = false) := by
  rw [routeSought] at sought
  cases found : findRoute destAddr s with
  | some k =>
      obtain ⟨-, on, -⟩ := findRoute_some found
      rw [found] at sought
      dsimp only at sought
      split at sought
      · rename_i idle
        cases sought
        refine ⟨fun j used => ?_, .inl rfl⟩
        rw [setRoute]
        dsimp only
        by_cases here : j = i
        · subst here
          rw [Function.update_self]
          exact ⟨used, rfl, rfl, by simp [idle.1], by simp [idle.2]⟩
        · rw [Function.update_of_ne here]
          exact .refl used
      · cases sought
        exact ⟨fun j used => .refl used, .inl rfl⟩
  | none =>
      rw [found] at sought
      obtain ⟨k, free, made⟩ := Option.map_eq_some_iff.1 sought
      cases made
      have unused := (firstFree_eq_some free).2.1
      refine ⟨fun j used => ?_, .inr ⟨rfl, unused⟩⟩
      dsimp only
      by_cases here : j = i
      · rw [here, unused] at used
        cases used
      · rw [Function.update_of_ne here]
        exact .refl used

/-- Releasing a place where no route was. -/
theorem putRoute_kept (kept : ∀ j, (s.routingTable j).used = true →
      RouteKept (s.routingTable j) (t.routingTable j))
    (unused : (s.routingTable i).used = false) (j : Nat) (used : (s.routingTable j).used = true) :
    RouteKept (s.routingTable j) ((putRoute i t).routingTable j) := by
  have ne : j ≠ i := by
    rintro rfl
    rw [used] at unused
    cases unused
  rw [putRoute]
  dsimp only
  rw [Function.update_of_ne ne]
  exact kept j used

/-- Releasing a route. -/
theorem not_leavesAlone_putRoute (found : findRoute destAddr s = some i) :
    ¬ LeavesAlone discovery s (putRoute i t) := by
  intro alone
  obtain ⟨inside, on, -⟩ := findRoute_some found
  have still := (alone.routes i inside on).used
  rw [putRoute] at still
  dsimp only at still
  rw [Function.update_self] at still
  cases still

end Routes

/-! ## The handlers -/

section Handlers

variable {env : MeshEnv} {buf : UInt8} {s : MeshNib}

/-- What seeking a discovery tells about the table. -/
theorem discSought_cases (rreq : RreqFrame) (pathCost : UInt8) (s : MeshNib) :
    (∃ t, discSought rreq pathCost s = .goOn t ∧ DiscAtHand s (.rreq rreq)) ∨
      (discSought rreq pathCost s = .skip ∧ DiscAtHand s (.rreq rreq)) ∨
      (discSought rreq pathCost s = .full ∧ ¬ DiscAtHand s (.rreq rreq)) := by
  rw [discSought, DiscAtHand]
  cases findDisc rreq.cmd.rreqId rreq.srcAddr s with
  | some i =>
      dsimp only
      split
      · exact .inl ⟨_, rfl, .inl (Option.some_ne_none i)⟩
      · exact .inr (.inl ⟨rfl, .inl (Option.some_ne_none i)⟩)
  | none =>
      cases firstFree ZbNwkRouteDiscovery.used s.routeDiscTable zbNwkRouteDiscoveryTableSize with
      | some i => exact .inl ⟨_, rfl, .inr (Option.some_ne_none i)⟩
      | none => exact .inr (.inr ⟨rfl, by simp⟩)

theorem discAtHand_congr {t : MeshNib} (rreq : RreqFrame)
    (same : t.routeDiscTable = s.routeDiscTable) :
    DiscAtHand t (.rreq rreq) ↔ DiscAtHand s (.rreq rreq) := by
  rw [DiscAtHand, DiscAtHand, findDisc_congr same, same]

/-- **Requests.** -/
theorem rreq_iff (rreq : RreqFrame) :
    RejectedSafely env buf s (.rreq rreq) ↔ Spared s (.rreq rreq) := by
  rw [RejectedSafely, handleCommand, zbNwkMeshRreqHandler, Dropped]
  cases sought : routeSought rreq.cmd.destAddr s with
  | none =>
      have unknown : findRoute rreq.cmd.destAddr s = none := by
        by_contra known
        exact routeSought_isSome.2 (.inl known) sought
      exact iff_of_true (fun _ => leavesAlone_refl s) fun known => absurd unknown known
  | some r =>
      obtain ⟨i, t⟩ := r
      have discs := routeSought_discTable sought
      obtain ⟨kept, which⟩ := routeSought_kept sought
      have same : ∀ {u : MeshNib}, u.routeDiscTable = t.routeDiscTable →
          ∀ j < zbNwkRouteDiscoveryTableSize, (s.routeDiscTable j).used = true →
            ((s.routeDiscTable j).requestId, (s.routeDiscTable j).sourceAddr) ≠
                (RouteCommand.rreq rreq).discovery →
              u.routeDiscTable j = s.routeDiscTable j := fun {u} rest j _ _ _ => by rw [rest, discs]
      dsimp only
      rcases discSought_cases rreq (nwkCalcPathCost env rreq.srcAddr + rreq.cmd.pathCost) t with
        ⟨u, passed, atHand⟩ | ⟨skipped, atHand⟩ | ⟨full, noRoom⟩
      · refine iff_of_true (fun dropped => ?_) fun _ => (discAtHand_congr rreq discs).1 atHand
        have failed := dropped (i, t) rfl
        dsimp only at failed
        rw [passed] at failed
        cases failed
      · refine iff_of_true (fun _ => ?_) fun _ => (discAtHand_congr rreq discs).1 atHand
        rw [skipped]
        exact ⟨fun j _ used => kept j used, same rfl⟩
      · rw [full]
        rcases which with found | ⟨unknown, unused⟩
        · refine iff_of_false (fun safe => ?_) fun spared => ?_
          · refine not_leavesAlone_putRoute found (safe ?_)
            intro r there
            cases there
            dsimp only
            rw [full]
            rfl
          · refine noRoom ((discAtHand_congr rreq discs).2 (spared ?_))
            rw [RouteCommand.destination, found]
            exact Option.some_ne_none i
        · refine iff_of_true (fun _ => ?_) fun known => absurd unknown known
          exact ⟨fun j _ used => putRoute_kept kept unused j used, same rfl⟩

/-- Releasing the entry of one's own discovery. -/
theorem leavesAlone_putDisc {requestId : UInt8} {sourceAddr : UInt16} {i : Nat}
    (found : findDisc requestId sourceAddr s = some i) :
    LeavesAlone (requestId, sourceAddr) s (putDisc i s) := by
  refine ⟨fun _ _ used => .refl used, fun j _ _ other => ?_⟩
  have ne : j ≠ i := by
    rintro rfl
    obtain ⟨-, -, is⟩ := findUsed_eq_some found
    simp only [Bool.and_eq_true, beq_iff_eq] at is
    exact other (Prod.ext is.1 is.2)
  rw [putDisc]
  dsimp only
  rw [Function.update_of_ne ne]

/-- **Replies.** -/
theorem rrep_iff (rrep : RrepFrame) :
    RejectedSafely env buf s (.rrep rrep) ↔ Spared s (.rrep rrep) := by
  rw [RejectedSafely, handleCommand, zbNwkMeshRrepHandler, Dropped, Spared, DiscAtHand,
    RouteCommand.destination, RouteCommand.discovery]
  cases disc : findDisc rrep.cmd.rreqId rrep.cmd.originator s with
  | some d =>
      refine iff_of_true (fun dropped => ?_) fun _ => Option.some_ne_none d
      cases route : findRoute rrep.cmd.responder s with
      | some r =>
          have costly := dropped d rfl r route
          dsimp only
          rw [if_pos costly]
          exact leavesAlone_refl s
      | none => exact leavesAlone_putDisc disc
  | none =>
      cases route : findRoute rrep.cmd.responder s with
      | some r =>
          refine iff_of_false (fun safe => ?_) fun spared => spared (Option.some_ne_none r) rfl
          exact not_leavesAlone_putRoute route (safe fun d impossible => by cases impossible)
      | none => exact iff_of_true (fun _ => leavesAlone_refl s) fun known => absurd rfl known

end Handlers

/-- **A rejected command leaves the routes alone** exactly when no route is in hand without a
discovery: for all tables and every request or reply. -/
theorem rejectedRoute_iff (env : MeshEnv) (buf : UInt8) (s : MeshNib) (command : RouteCommand) :
    RejectedSafely env buf s command ↔ Spared s command := by
  cases command with
  | rreq rreq => exact rreq_iff rreq
  | rrep rrep => exact rrep_iff rrep

/-! ## Pole -/

/-- One route, active, and no discovery. -/
def oneRoute : MeshNib where
  routingTable := Function.update MeshNib.init.routingTable 0 ⟨true, .active, 5, 6⟩
  routingTableCnt := 1
  routeDiscTable := MeshNib.init.routeDiscTable
  routeDiscTableCnt := 0
  pendingTable := MeshNib.init.pendingTable
  pendingTableCnt := 0
  rreqId := 0
  apsRreqAddr := 0xFFFF
  statusIndAddr := 0

/-- A router that only knows itself. -/
def loneRouter : MeshEnv where
  networkAddress := 1
  deviceType := 1
  maxDepth := 5
  nwkReportConstantCost := true
  useTreeRouting := false
  parentAddr := none
  neighborLqi _ := none
  treeHop _ := none

/-- A reply nobody asked for, from the destination of the route. -/
def forgedReply : RouteCommand :=
  .rrep
    { srcAddr := 5, macSrc := 7
      cmd := { rreqId := 9, originator := 2, responder := 5, pathCost := 1 } }

/-- **A forged reply drops a route.**  Its discovery is not known, and the active route to its
responder is released. -/
theorem forged_reply_drops_route :
    ¬ ∀ env buf s command, RejectedSafely env buf s command := by
  intro safe
  have dropped : Dropped loneRouter oneRoute forgedReply := by
    have unknown : findDisc 9 2 oneRoute = none := by decide
    intro disc found
    have found : disc ∈ findDisc 9 2 oneRoute := found
    rw [unknown] at found
    cases found
  have kept := (safe loneRouter 0 oneRoute forgedReply dropped).routes 0 (by decide) (by decide)
  have released :
      ((handleCommand loneRouter 0 oneRoute forgedReply).routingTable 0).used = false := by decide
  rw [kept.used] at released
  cases released

end Zboss.Nwk.RejectedRoute
