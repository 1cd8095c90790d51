/-
# Nwk.MeshLoops -- the routes on demand of a network

Routers that all run `zb_nwk_mesh_rreq_handler` and `zb_nwk_mesh_rrep_handler`.  Discoveries are
started anywhere, for any destination.  The frames sent stay in the air (`MeshNet.air`), so that
each may come late, more than once or never to a router that hears its sender.  Links cost what
`NWK_CALC_PATH_COST` says, and no sum of costs comes to 255 (`SumsBelow`).

A reply is compared with the replies to the same discovery only, although all discoveries of a
destination share one route.  What keeps loops away is that no router takes a reply that is worse
than one it has sent (`NoWorse`): then each route rests on a reply of its next hop that is better
than all its own (`Backed`), in the sense of `Theory.NextHop`.

* `sound_rreq`, `sound_rrep`: what a handler leaves of that, for all routers.
* `loopFree_of_run`: in no run of this kind does a route have a loop.

Poles: `routes_through_two`, where the second discovery makes a route shorter, and
`crossing_replies_loop`, where the replies to two discoveries cross and leave two routers that
send to each other.
-/
import Mathlib
import Zboss.Common.Constants
import Zboss.Theory.Run
import Zboss.Theory.NextHop
import Zboss.Nwk.MeshRouting

namespace Zboss.Nwk.MeshLoops

open Zboss.Common.Constants
open Zboss.Theory.Slots
open Zboss.Theory.Run
open Zboss.Theory.NextHop
open Zboss.Nwk.MeshRouting

set_option autoImplicit false

/-! ## The network -/

/-- Routers by short address.  Those that are linked hear each other and have each other as
neighbours, so that a frame from one to the other goes there in one hop. -/
structure Mesh where
  env : UInt16 → MeshEnv
  linked : UInt16 → UInt16 → Bool
  own : ∀ a, (env a).networkAddress = a
  neighbor : ∀ a b, linked a b = true → ((env a).neighborLqi b).isSome = true
  both : ∀ a b, linked a b = linked b a
  apart : ∀ a, linked a a = false

/-- A frame as it was sent: a request is broadcast, a reply has a destination. -/
inductive MeshFrame where
  | rreq (frame : RreqFrame)
  | rrep (src dst : UInt16) (cmd : ZbNwkCmdRrep)
  deriving DecidableEq

structure MeshNet where
  nib : UInt16 → MeshNib
  /-- All that was sent so far. -/
  air : List MeshFrame

def MeshNet.init : MeshNet := ⟨fun _ => MeshNib.init, []⟩

/-- What a call of the router `a` sends; the source of a reply is the router itself. -/
def sentBy (a : UInt16) : MeshCall → Option MeshFrame
  | .sendRreq _ cmd srcAddr seqNum radius => some (.rreq ⟨srcAddr, seqNum, radius, a, cmd⟩)
  | .sendRrep _ cmd senderAddr => some (.rrep a senderAddr cmd)
  | _ => none

/-- The router `a` has done something. -/
def MeshNet.after (net : MeshNet) (a : UInt16) (done : MeshNib × List MeshCall) : MeshNet where
  nib := Function.update net.nib a done.1
  air := net.air ++ done.2.filterMap (sentBy a)

inductive MeshEvent where
  /-- `zb_nwk_mesh_route_discovery` -/
  | start (a : UInt16) (buf : UInt8) (destAddr : UInt16) (radius seqNum : UInt8)
  /-- A request comes to a router, its radius one less. -/
  | rreq (a : UInt16) (buf : UInt8) (frame : RreqFrame)
  /-- A reply comes to its destination. -/
  | rrep (a : UInt16) (buf : UInt8) (src : UInt16) (cmd : ZbNwkCmdRrep)

def meshStep (mesh : Mesh) (net : MeshNet) : MeshEvent → Option MeshNet
  | .start a buf destAddr radius seqNum =>
      some (net.after a
        (zbNwkMeshRouteDiscovery (mesh.env a) buf destAddr radius a seqNum (net.nib a)))
  | .rreq a buf frame =>
      if .rreq frame ∈ net.air ∧ mesh.linked a frame.macSrc = true ∧ frame.radius ≠ 0 then
        some (net.after a
          (zbNwkMeshRreqHandler (mesh.env a) buf { frame with radius := frame.radius - 1 }
            (net.nib a)))
      else none
  | .rrep a buf src cmd =>
      if .rrep src a cmd ∈ net.air ∧ mesh.linked a src = true then
        some (net.after a (zbNwkMeshRrepHandler (mesh.env a) buf ⟨src, src, cmd⟩ (net.nib a)))
      else none

/-! ## Next hops -/

/-- A route that frames are sent by. -/
def usable (ent : ZbNwkRouting) : Bool :=
  ent.status == .active || ent.status == .validationUnderway

def nextHop (net : MeshNet) (destAddr a : UInt16) : Option UInt16 :=
  match findRoute destAddr (net.nib a) with
  | some i =>
      let ent := (net.nib a).routingTable i
      if usable ent then some ent.nextHopAddr else none
  | none => none

/-- **A frame is sent there** by a router, where the destination is not a neighbour. -/
theorem calcDestination_nextHop {env : MeshEnv} {net : MeshNet} {a b : UInt16} {buf handle : UInt8}
    {pkt : NwkPacket} (router : env.deviceType ≠ zbNwkDeviceTypeEd)
    (unicast : pkt.dstAddr &&& 0xFFF0 ≠ 0xFFF0) (far : pkt.isNeighbor = false)
    (discover : pkt.discoverRoute = true) (hop : nextHop net pkt.dstAddr a = some b) :
    (nwkCalcDestination env buf handle pkt (net.nib a)).2.2 = .ok b := by
  rw [nwkCalcDestination, if_neg router, if_neg unicast, far, if_neg Bool.false_ne_true, discover,
    if_pos rfl]
  rw [nextHop] at hop
  cases found : findRoute pkt.dstAddr (net.nib a) with
  | none =>
      rw [found] at hop
      cases hop
  | some i =>
      rw [found] at hop
      obtain ⟨use, same⟩ := Option.ite_none_right_eq_some.1 hop
      cases same
      dsimp only
      rw [usable] at use
      cases status : ((net.nib a).routingTable i).status with
      | active => rfl
      | validationUnderway => rfl
      | discoveryUnderway => simp [status] at use
      | discoveryFailed => simp [status] at use
      | discoveryInactive => simp [status] at use

/-! ## Costs -/

/-- The sum that a handler forms stays below 255. -/
def SumsBelow (mesh : Mesh) (_ : MeshNet) : MeshEvent → Prop
  | .start _ _ _ _ _ => True
  | .rreq a _ frame =>
      (nwkCalcPathCost (mesh.env a) frame.srcAddr).toNat + frame.cmd.pathCost.toNat < 255
  | .rrep a _ src cmd => (nwkCalcPathCost (mesh.env a) src).toNat + cmd.pathCost.toNat < 255

/-- A reply as the router passes it on. -/
def passedOn (env : MeshEnv) (src : UInt16) (cmd : ZbNwkCmdRrep) : ZbNwkCmdRrep :=
  { cmd with pathCost := nwkCalcPathCost env src + cmd.pathCost }

/-- The router takes the reply: it has both entries, and the reply costs no more than those to
the same discovery before. -/
def taken (env : MeshEnv) (src : UInt16) (cmd : ZbNwkCmdRrep) (s : MeshNib) : Bool :=
  match findDisc cmd.rreqId cmd.originator s, findRoute cmd.responder s with
  | some disc, some _ => (passedOn env src cmd).pathCost ≤ (s.routeDiscTable disc).residualCost
  | _, _ => false

/-- The router answers requests for the destination: it is its own address or a neighbour. -/
def answers (env : MeshEnv) (destAddr : UInt16) : Bool :=
  destAddr = env.networkAddress ∨ (env.neighborLqi destAddr).isSome

/-- The replies for a destination that a router has sent. -/
def repliesOf (a destAddr : UInt16) (air : List MeshFrame) : List ZbNwkCmdRrep :=
  air.filterMap fun
    | .rrep src _ cmd => if src = a ∧ cmd.responder = destAddr then some cmd else none
    | .rreq _ => none

/-- What a reply is worth: of a later discovery it is less, and then if it costs less. -/
def worth (rank : UInt16 → UInt8 → Nat) (cmd : ZbNwkCmdRrep) : Natᵒᵈ ×ₗ Nat :=
  toLex (OrderDual.toDual (rank cmd.originator cmd.rreqId), cmd.pathCost.toNat)

/-- A router that takes a reply does not answer for the destination itself, and has sent no reply
for it that is better than the one it takes. -/
structure NoWorse (mesh : Mesh) (rank : UInt16 → UInt8 → Nat) (net : MeshNet) (a src : UInt16)
    (cmd : ZbNwkCmdRrep) : Prop where
  asks : answers (mesh.env a) cmd.responder = false
  noWorse : ∀ sent ∈ repliesOf a cmd.responder net.air,
    worth rank (passedOn (mesh.env a) src cmd) ≤ worth rank sent

def Fits (mesh : Mesh) (rank : UInt16 → UInt8 → Nat) (net : MeshNet) : MeshEvent → Prop
  | .rrep a _ src cmd =>
      taken (mesh.env a) src cmd (net.nib a) = true → NoWorse mesh rank net a src cmd
  | _ => True

section Checks

variable (mesh : Mesh) (rank : UInt16 → UInt8 → Nat) (net : MeshNet)

instance (event : MeshEvent) : Decidable (SumsBelow mesh net event) :=
  match event with
  | .start _ _ _ _ _ => isTrue trivial
  | .rreq a _ frame => inferInstanceAs (Decidable
      ((nwkCalcPathCost (mesh.env a) frame.srcAddr).toNat + frame.cmd.pathCost.toNat < 255))
  | .rrep a _ src cmd => inferInstanceAs (Decidable
      ((nwkCalcPathCost (mesh.env a) src).toNat + cmd.pathCost.toNat < 255))

instance (a src : UInt16) (cmd : ZbNwkCmdRrep) : Decidable (NoWorse mesh rank net a src cmd) :=
  decidable_of_iff (answers (mesh.env a) cmd.responder = false ∧
      ∀ sent ∈ repliesOf a cmd.responder net.air,
        worth rank (passedOn (mesh.env a) src cmd) ≤ worth rank sent)
    ⟨fun ⟨asks, noWorse⟩ => ⟨asks, noWorse⟩, fun ⟨asks, noWorse⟩ => ⟨asks, noWorse⟩⟩

instance (event : MeshEvent) : Decidable (Fits mesh rank net event) :=
  match event with
  | .rrep a _ src cmd =>
      inferInstanceAs (Decidable (taken (mesh.env a) src cmd (net.nib a) = true →
        NoWorse mesh rank net a src cmd))
  | .start _ _ _ _ _ => isTrue trivial
  | .rreq _ _ _ => isTrue trivial

end Checks

/-! ## The routes of one router -/

/-- One entry for each destination, and of those that are usable a property of the destination
and the next hop. -/
structure Routes (P : UInt16 → UInt16 → Prop) (s : MeshNib) : Prop where
  single : ∀ i < zbNwkRoutingTableSize, ∀ j < zbNwkRoutingTableSize,
    (s.routingTable i).used = true → (s.routingTable j).used = true →
      (s.routingTable i).destAddr = (s.routingTable j).destAddr → i = j
  backed : ∀ i < zbNwkRoutingTableSize, (s.routingTable i).used = true →
    usable (s.routingTable i) = true →
      P (s.routingTable i).destAddr (s.routingTable i).nextHopAddr

section Routes

variable {P Q : UInt16 → UInt16 → Prop} {env : MeshEnv} {s t : MeshNib} {i : Nat}
  {ent : ZbNwkRouting} {destAddr src a : UInt16} {cmd : ZbNwkCmdRrep} {buf : UInt8}

theorem routes_init : Routes P MeshNib.init := by
  refine ⟨?_, ?_⟩
  · intro i _ j _ on
    cases on
  · intro i _ on
    cases on

theorem Routes.congr (routes : Routes P s) (table : t.routingTable = s.routingTable) :
    Routes P t := by
  refine ⟨?_, ?_⟩
  · rw [table]
    exact routes.single
  · rw [table]
    exact routes.backed

/-- One entry is written. -/
theorem Routes.update (routes : Routes P s)
    (table : t.routingTable = Function.update s.routingTable i ent)
    (alone : ent.used = true → ∀ j < zbNwkRoutingTableSize, j ≠ i →
      (s.routingTable j).used = true → (s.routingTable j).destAddr ≠ ent.destAddr)
    (made : ent.used = true → usable ent = true → Q ent.destAddr ent.nextHopAddr)
    (others : ∀ j < zbNwkRoutingTableSize, j ≠ i → (s.routingTable j).used = true →
      P (s.routingTable j).destAddr (s.routingTable j).nextHopAddr →
        Q (s.routingTable j).destAddr (s.routingTable j).nextHopAddr) :
    Routes Q t := by
  refine ⟨?_, ?_⟩
  · intro j inside k inside' on on' same
    rw [table] at on on' same
    by_cases first : j = i
    · subst first
      by_cases second : k = j
      · exact second.symm
      · rw [Function.update_self] at on same
        rw [Function.update_of_ne second] at on' same
        exact absurd same.symm (alone on k inside' second on')
    · rw [Function.update_of_ne first] at on same
      by_cases second : k = i
      · subst second
        rw [Function.update_self] at on' same
        exact absurd same (alone on' j inside first on)
      · rw [Function.update_of_ne second] at on' same
        exact routes.single j inside k inside' on on' same
  · intro j inside on use
    rw [table] at on use ⊢
    by_cases here : j = i
    · subst here
      rw [Function.update_self] at on use ⊢
      exact made on use
    · rw [Function.update_of_ne here] at on use ⊢
      exact others j inside here on (routes.backed j inside on use)

/-- An entry keeps its destination. -/
theorem Routes.alone (routes : Routes P s) (inside : i < zbNwkRoutingTableSize)
    (on : (s.routingTable i).used = true) {j : Nat} (inside' : j < zbNwkRoutingTableSize)
    (apart : j ≠ i) (on' : (s.routingTable j).used = true) :
    (s.routingTable j).destAddr ≠ (s.routingTable i).destAddr := by
  intro same
  exact apart (routes.single j inside' i inside on' on same)

theorem routes_putRoute (routes : Routes P s) : Routes P (putRoute i s) := by
  apply routes.update rfl
  · intro on
    cases on
  · intro on
    cases on
  · exact fun _ _ _ _ backed => backed

/-! ### A request -/

/-- A route that is sought is not one that frames are sent by, unless it was there before. -/
theorem routes_routeSought (routes : Routes P s)
    (sought : routeSought destAddr s = some (i, t)) : Routes P t := by
  rw [routeSought] at sought
  cases found : findRoute destAddr s with
  | some j =>
      obtain ⟨inside, on, -⟩ := findRoute_some found
      rw [found] at sought
      dsimp only at sought
      split at sought
      · cases sought
        apply routes.update rfl
        · exact fun _ k inside' apart on' => routes.alone inside on inside' apart on'
        · intro _ use
          cases use
        · exact fun _ _ _ _ backed => backed
      · cases sought
        exact routes
  | none =>
      rw [found] at sought
      obtain ⟨j, -, is⟩ := Option.map_eq_some_iff.1 sought
      cases is
      apply routes.update rfl
      · intro _ k inside' _ on' same
        have off := findUsed_eq_none found k inside' on'
        simp [same] at off
      · intro _ use
        cases use
      · exact fun _ _ _ _ backed => backed

theorem routes_rreq {rreq : RreqFrame} (routes : Routes P s) :
    Routes P (zbNwkMeshRreqHandler env buf rreq s).1 := by
  rw [zbNwkMeshRreqHandler]
  cases route : routeSought rreq.cmd.destAddr s with
  | none => exact routes
  | some sought =>
      obtain ⟨i, u⟩ := sought
      have kept := routes_routeSought routes route
      dsimp only
      split
      · rename_i v disc
        exact kept.congr (discSought_spec disc).1
      · exact kept
      · exact routes_putRoute kept

/-- A request is answered by those who answer for its destination, and goes on from all others. -/
theorem sent_rreq {rreq : RreqFrame} {frame : MeshFrame}
    (mem : frame ∈ (zbNwkMeshRreqHandler env buf rreq s).2.filterMap (sentBy a)) :
    (answers env rreq.cmd.destAddr = true ∧
      ∃ cost, frame =
        .rrep a rreq.macSrc ⟨rreq.cmd.rreqId, rreq.srcAddr, rreq.cmd.destAddr, cost⟩) ∨
      (answers env rreq.cmd.destAddr = false ∧
        ∃ cost, frame = .rreq ⟨rreq.srcAddr, rreq.seqNum, rreq.radius, a,
          ⟨rreq.cmd.rreqId, rreq.cmd.destAddr, cost⟩⟩) := by
  have failed : ∀ u, (rreqFailed buf rreq u).filterMap (sentBy a) = [] := by
    intro u
    rw [rreqFailed]
    split <;> rfl
  rw [zbNwkMeshRreqHandler] at mem
  cases route : routeSought rreq.cmd.destAddr s with
  | none =>
      rw [route] at mem
      dsimp only at mem
      rw [failed s] at mem
      cases mem
  | some sought =>
      obtain ⟨i, u⟩ := sought
      rw [route] at mem
      dsimp only at mem
      split at mem
      · rw [rreqPassed] at mem
        split at mem
        · rename_i answered
          cases List.mem_singleton.1 mem
          exact .inl ⟨decide_eq_true answered, _, rfl⟩
        · rename_i asked
          cases List.mem_singleton.1 mem
          exact .inr ⟨decide_eq_false asked, _, rfl⟩
      · cases mem
      · dsimp only at mem
        rw [failed u] at mem
        cases mem

/-! ### A reply -/

theorem sendPending_still (destAddr : UInt16) (s : MeshNib) :
    (sendPending destAddr s).1.routingTable = s.routingTable ∧
      (sendPending destAddr s).1.routeDiscTable = s.routeDiscTable ∧
        ∀ a, (sendPending destAddr s).2.filterMap (sentBy a) = [] := by
  rw [sendPending]
  apply List.foldlRecOn (motive := fun done : MeshNib × List MeshCall =>
    done.1.routingTable = s.routingTable ∧ done.1.routeDiscTable = s.routeDiscTable ∧
      ∀ a, done.2.filterMap (sentBy a) = [])
  · exact ⟨rfl, rfl, fun _ => rfl⟩
  · rintro done ⟨routing, disc, silent⟩ i -
    rw [sendPend]
    split
    · refine ⟨routing, disc, ?_⟩
      intro a
      rw [List.filterMap_append, silent a]
      rfl
    · exact ⟨routing, disc, silent⟩

/-- The frames that have waited are on their way; the tables are left. -/
theorem replyArrived_still (buf : UInt8) (rrep : RrepFrame) (s : MeshNib) :
    (replyArrived buf rrep s).1.routingTable = s.routingTable ∧
      (replyArrived buf rrep s).1.routeDiscTable = s.routeDiscTable ∧
        ∀ a, (replyArrived buf rrep s).2.filterMap (sentBy a) = [] := by
  obtain ⟨routing, disc, silent⟩ := sendPending_still rrep.cmd.responder s
  rw [replyArrived]
  dsimp only
  split
  · refine ⟨routing, disc, ?_⟩
    intro a
    rw [List.filterMap_append, silent a]
    rfl
  · refine ⟨routing, disc, ?_⟩
    intro a
    rw [List.filterMap_append, silent a]
    rfl

/-- **A reply that is not taken** goes no further, and gives up the entry that is found without the
other. -/
theorem rrep_dropped_cases (buf : UInt8) (drop : taken env src cmd s = false) :
    (zbNwkMeshRrepHandler env buf ⟨src, src, cmd⟩ s).2 = [.freeBuf buf] ∧
      ((zbNwkMeshRrepHandler env buf ⟨src, src, cmd⟩ s).1 = s ∨
        (∃ j, findRoute cmd.responder s = some j ∧
          (zbNwkMeshRrepHandler env buf ⟨src, src, cmd⟩ s).1 = putRoute j s) ∨
        ∃ i, findDisc cmd.rreqId cmd.originator s = some i ∧ findRoute cmd.responder s = none ∧
          (zbNwkMeshRrepHandler env buf ⟨src, src, cmd⟩ s).1 = putDisc i s) := by
  rw [zbNwkMeshRrepHandler]
  rw [taken] at drop
  cases disc : findDisc cmd.rreqId cmd.originator s with
  | none =>
      cases route : findRoute cmd.responder s with
      | none => exact ⟨rfl, .inl rfl⟩
      | some j => exact ⟨rfl, .inr (.inl ⟨j, rfl, rfl⟩)⟩
  | some i =>
      rw [disc] at drop
      cases route : findRoute cmd.responder s with
      | none => exact ⟨rfl, .inr (.inr ⟨i, rfl, rfl, rfl⟩)⟩
      | some j =>
          rw [route] at drop
          have more : nwkCalcPathCost env src + cmd.pathCost > (s.routeDiscTable i).residualCost :=
            UInt8.not_le.1 (of_decide_eq_false drop)
          dsimp only
          rw [if_pos more]
          exact ⟨rfl, .inl rfl⟩

/-- A reply that is not taken makes no route, and goes no further. -/
theorem rrep_dropped (buf : UInt8) (drop : taken env src cmd s = false) :
    (∀ P, Routes P s → Routes P (zbNwkMeshRrepHandler env buf ⟨src, src, cmd⟩ s).1) ∧
      ∀ a, (zbNwkMeshRrepHandler env buf ⟨src, src, cmd⟩ s).2.filterMap (sentBy a) = [] := by
  obtain ⟨calls, kept⟩ := rrep_dropped_cases buf drop
  refine ⟨fun _ routes => ?_, fun _ => by rw [calls]; rfl⟩
  rcases kept with same | ⟨j, -, put⟩ | ⟨i, -, -, put⟩
  · rwa [same]
  · rw [put]
    exact routes_putRoute routes
  · rw [put]
    exact routes.congr rfl

/-- A reply that is taken: the two entries, and the reply that goes on. -/
theorem rrep_taken (buf : UInt8) (took : taken env src cmd s = true) :
    ∃ disc routing, findDisc cmd.rreqId cmd.originator s = some disc ∧
      findRoute cmd.responder s = some routing ∧
      (passedOn env src cmd).pathCost ≤ (s.routeDiscTable disc).residualCost ∧
      (zbNwkMeshRrepHandler env buf ⟨src, src, cmd⟩ s).1.routingTable =
        (replyEntries disc routing ⟨src, src, cmd⟩ (passedOn env src cmd).pathCost s).routingTable ∧
      (zbNwkMeshRrepHandler env buf ⟨src, src, cmd⟩ s).1.routeDiscTable =
        (replyEntries disc routing ⟨src, src, cmd⟩ (passedOn env src cmd).pathCost
          s).routeDiscTable ∧
      ∀ a, ∀ frame ∈ (zbNwkMeshRrepHandler env buf ⟨src, src, cmd⟩ s).2.filterMap (sentBy a),
        frame = .rrep a (s.routeDiscTable disc).senderAddr (passedOn env src cmd) := by
  rw [taken] at took
  cases disc : findDisc cmd.rreqId cmd.originator s with
  | none =>
      rw [disc] at took
      cases took
  | some i =>
      rw [disc] at took
      cases route : findRoute cmd.responder s with
      | none =>
          rw [route] at took
          cases took
      | some j =>
          rw [route] at took
          have less := of_decide_eq_true took
          have fits : ¬ nwkCalcPathCost env src + cmd.pathCost >
              (s.routeDiscTable i).residualCost := UInt8.not_lt.2 less
          refine ⟨i, j, rfl, rfl, less, ?_⟩
          rw [zbNwkMeshRrepHandler]
          simp only [disc, route]
          rw [if_neg fits]
          split
          · obtain ⟨routing, discs, silent⟩ := replyArrived_still buf ⟨src, src, cmd⟩
              (replyEntries i j ⟨src, src, cmd⟩ (passedOn env src cmd).pathCost s)
            refine ⟨routing, discs, ?_⟩
            intro a frame mem
            have none : frame ∈ [] := silent a ▸ mem
            cases none
          · refine ⟨rfl, rfl, ?_⟩
            intro a frame mem
            cases List.mem_singleton.1 mem
            simp [replyEntries, setDisc, setRoute, passedOn]

/-- A reply that is taken makes one route: for what it answers, by who sent it. -/
theorem routes_taken {disc : Nat} {rrep : RrepFrame} {cost : UInt8} (routes : Routes P s)
    (found : findRoute rrep.cmd.responder s = some i)
    (table : t.routingTable = (replyEntries disc i rrep cost s).routingTable)
    (made : Q rrep.cmd.responder rrep.macSrc)
    (others : ∀ d u, d ≠ rrep.cmd.responder → P d u → Q d u) : Routes Q t := by
  obtain ⟨inside, on, is⟩ := findRoute_some found
  apply routes.update table
  · exact fun _ j inside' apart on' => routes.alone inside on inside' apart on'
  · intro _ _
    show Q (s.routingTable i).destAddr rrep.macSrc
    rw [is]
    exact made
  · intro j inside' apart on' backed
    apply others _ _ _ backed
    rw [← is]
    exact routes.alone inside on inside' apart on'

end Routes

/-! ## What was sent -/

section Air

variable {a b destAddr : UInt16} {air new : List MeshFrame} {cmd : ZbNwkCmdRrep}
  {calls : List MeshCall}

theorem mem_repliesOf :
    cmd ∈ repliesOf a destAddr air ↔
      (∃ dst, MeshFrame.rrep a dst cmd ∈ air) ∧ cmd.responder = destAddr := by
  rw [repliesOf, List.mem_filterMap]
  constructor
  · rintro ⟨frame, mem, is⟩
    cases frame with
    | rreq frame => cases is
    | rrep src dst cmd' =>
        obtain ⟨⟨rfl, responder⟩, same⟩ := Option.ite_none_right_eq_some.1 is
        cases same
        exact ⟨⟨dst, mem⟩, responder⟩
  · rintro ⟨⟨dst, mem⟩, responder⟩
    exact ⟨.rrep a dst cmd, mem, if_pos ⟨rfl, responder⟩⟩

theorem repliesOf_append :
    repliesOf a destAddr (air ++ new) = repliesOf a destAddr air ++ repliesOf a destAddr new :=
  List.filterMap_append

/-- A router sends in its own name. -/
theorem repliesOf_sent (apart : b ≠ a) :
    repliesOf b destAddr (calls.filterMap (sentBy a)) = [] := by
  rw [List.eq_nil_iff_forall_not_mem]
  intro cmd mem
  obtain ⟨⟨dst, mem⟩, -⟩ := mem_repliesOf.1 mem
  obtain ⟨call, -, is⟩ := List.mem_filterMap.1 mem
  cases call with
  | sendRrep buf cmd' dst' =>
      cases is
      exact apart rfl
  | _ => cases is

end Air

/-! ## Costs -/

theorem linkCost_pos (lqi : UInt8) : 0 < (linkCost lqi).toNat := by
  have steps : lqiSteps lqi ≤ 7 := by
    have bound := lqi.toNat_lt
    rw [lqiSteps]
    omega
  rw [linkCost]
  split
  · decide
  · rw [UInt8.toNat_ofNat']
    omega

/-- **A link costs something.** -/
theorem nwkCalcPathCost_pos {mesh : Mesh} {a b : UInt16} (linked : mesh.linked a b = true) :
    0 < (nwkCalcPathCost (mesh.env a) b).toNat := by
  obtain ⟨lqi, is⟩ := Option.isSome_iff_exists.1 (mesh.neighbor a b linked)
  rw [nwkCalcPathCost]
  split
  · decide
  · rw [is]
    exact linkCost_pos lqi

theorem worth_passedOn {mesh : Mesh} (rank : UInt16 → UInt8 → Nat) {a src : UInt16}
    {cmd : ZbNwkCmdRrep} (linked : mesh.linked a src = true)
    (sum : (nwkCalcPathCost (mesh.env a) src).toNat + cmd.pathCost.toNat < 255) :
    worth rank cmd < worth rank (passedOn (mesh.env a) src cmd) := by
  have cost := nwkCalcPathCost_pos linked
  rw [Prod.Lex.lt_iff]
  right
  refine ⟨rfl, ?_⟩
  show cmd.pathCost.toNat < (nwkCalcPathCost (mesh.env a) src + cmd.pathCost).toNat
  rw [UInt8.toNat_add]
  omega

/-! ## Every route rests on a reply -/

/-- The next hop of `a` has sent a reply for the destination that is better than all that `a` has
sent itself; and `a` does not answer for it. -/
def Backed (mesh : Mesh) (rank : UInt16 → UInt8 → Nat) (air : List MeshFrame)
    (a destAddr nextHopAddr : UInt16) : Prop :=
  answers (mesh.env a) destAddr = false ∧
    ∃ heard ∈ repliesOf nextHopAddr destAddr air, ∀ sent ∈ repliesOf a destAddr air,
      worth rank heard < worth rank sent

def Sound (mesh : Mesh) (rank : UInt16 → UInt8 → Nat) (net : MeshNet) : Prop :=
  ∀ a, Routes (Backed mesh rank net.air a) (net.nib a)

section Sound

variable {mesh : Mesh} {rank : UInt16 → UInt8 → Nat} {net net' : MeshNet} {events : List MeshEvent}
  {event : MeshEvent} {a : UInt16}

theorem sound_init : Sound mesh rank .init := fun _ => routes_init

theorem Routes.mono {P Q : UInt16 → UInt16 → Prop} {s : MeshNib} (routes : Routes P s)
    (le : ∀ d u, P d u → Q d u) : Routes Q s :=
  ⟨routes.single, fun i inside on use => le _ _ (routes.backed i inside on use)⟩

/-- A frame more leaves a route as it is, unless the router has sent it, for this destination. -/
theorem Backed.sent {air new : List MeshFrame} {destAddr nextHopAddr : UInt16}
    (backed : Backed mesh rank air a destAddr nextHopAddr)
    (others : repliesOf a destAddr new = []) :
    Backed mesh rank (air ++ new) a destAddr nextHopAddr := by
  obtain ⟨asks, heard, mem, less⟩ := backed
  refine ⟨asks, heard, ?_, ?_⟩
  · rw [repliesOf_append]
    exact List.mem_append_left _ mem
  · rw [repliesOf_append, others, List.append_nil]
    exact less

/-- It is enough to look at the router that does something. -/
theorem sound_after {done : MeshNib × List MeshCall} (sound : Sound mesh rank net)
    (here : Routes (Backed mesh rank (net.after a done).air a) done.1) :
    Sound mesh rank (net.after a done) := by
  intro b
  by_cases same : b = a
  · subst same
    rw [MeshNet.after]
    dsimp only
    rw [Function.update_self]
    exact here
  · rw [MeshNet.after]
    dsimp only
    rw [Function.update_of_ne same]
    apply (sound b).mono
    intro d u backed
    exact backed.sent (repliesOf_sent same)

/-- A request makes no route, and is answered by those only who have none. -/
theorem sound_rreq {buf : UInt8} {rreq : RreqFrame} {s : MeshNib} (sound : Sound mesh rank net)
    (routing : s.routingTable = (net.nib a).routingTable) :
    Sound mesh rank (net.after a (zbNwkMeshRreqHandler (mesh.env a) buf rreq s)) := by
  apply sound_after sound
  apply routes_rreq
  apply Routes.congr _ routing
  apply (sound a).mono
  intro d u backed
  apply backed.sent
  rw [List.eq_nil_iff_forall_not_mem]
  intro cmd mem
  obtain ⟨⟨dst, mem⟩, is⟩ := mem_repliesOf.1 mem
  rcases sent_rreq mem with ⟨answered, cost, reply⟩ | ⟨-, cost, request⟩
  · cases reply
    rw [← is] at backed
    rw [backed.1] at answered
    cases answered
  · cases request

theorem sound_rrep {buf : UInt8} {src : UInt16} {cmd : ZbNwkCmdRrep} (sound : Sound mesh rank net)
    (sent : .rrep src a cmd ∈ net.air) (linked : mesh.linked a src = true)
    (sum : (nwkCalcPathCost (mesh.env a) src).toNat + cmd.pathCost.toNat < 255)
    (fits : taken (mesh.env a) src cmd (net.nib a) = true → NoWorse mesh rank net a src cmd) :
    Sound mesh rank
      (net.after a (zbNwkMeshRrepHandler (mesh.env a) buf ⟨src, src, cmd⟩ (net.nib a))) := by
  apply sound_after sound
  cases took : taken (mesh.env a) src cmd (net.nib a) with
  | false =>
      obtain ⟨keeps, silent⟩ := rrep_dropped buf took
      apply keeps
      apply (sound a).mono
      intro d u backed
      apply backed.sent
      rw [silent a]
      rfl
  | true =>
      obtain ⟨disc, routing, -, found, -, table, -, sends⟩ := rrep_taken buf took
      obtain ⟨asks, noWorse⟩ := fits took
      apply routes_taken (sound a) found table
      · refine ⟨asks, cmd, ?_, ?_⟩
        · rw [MeshNet.after, repliesOf_append]
          exact List.mem_append_left _ (mem_repliesOf.2 ⟨⟨a, sent⟩, rfl⟩)
        · intro earlier mem
          have grows := worth_passedOn rank linked sum
          rw [MeshNet.after, repliesOf_append] at mem
          rcases List.mem_append.1 mem with mem | mem
          · exact grows.trans_le (noWorse earlier mem)
          · obtain ⟨⟨dst, mem⟩, -⟩ := mem_repliesOf.1 mem
            cases sends a _ mem
            exact grows
      · intro d u apart backed
        apply backed.sent
        rw [List.eq_nil_iff_forall_not_mem]
        intro cmd' mem
        obtain ⟨⟨dst, mem⟩, is⟩ := mem_repliesOf.1 mem
        cases sends a _ mem
        exact apart is.symm

theorem sound_step (sound : Sound mesh rank net)
    (fits : SumsBelow mesh net event ∧ Fits mesh rank net event)
    (stepped : meshStep mesh net event = some net') : Sound mesh rank net' := by
  cases event with
  | start a buf destAddr radius seqNum =>
      cases stepped
      exact sound_rreq sound rfl
  | rreq a buf frame =>
      obtain ⟨-, is⟩ := Option.ite_none_right_eq_some.1 stepped
      cases is
      exact sound_rreq sound rfl
  | rrep a buf src cmd =>
      obtain ⟨⟨sent, linked⟩, is⟩ := Option.ite_none_right_eq_some.1 stepped
      cases is
      exact sound_rrep sound sent linked fits.1 fits.2

theorem backed_of_nextHop {destAddr b : UInt16} (sound : Sound mesh rank net)
    (hop : nextHop net destAddr a = some b) : Backed mesh rank net.air a destAddr b := by
  rw [nextHop] at hop
  cases found : findRoute destAddr (net.nib a) with
  | none =>
      rw [found] at hop
      cases hop
  | some i =>
      obtain ⟨inside, on, is⟩ := findRoute_some found
      rw [found] at hop
      obtain ⟨use, same⟩ := Option.ite_none_right_eq_some.1 hop
      cases same
      rw [← is]
      exact (sound a).backed i inside on use

theorem loopFree_of_sound (sound : Sound mesh rank net) (destAddr : UInt16) :
    LoopFree (nextHop net destAddr) := by
  let said : UInt16 → Natᵒᵈ ×ₗ Nat → Prop :=
    fun a w => ∃ cmd ∈ repliesOf a destAddr net.air, worth rank cmd = w
  apply @loopFree_of_rests _ _ _ said
  intro a b hop
  obtain ⟨-, heard, mem, less⟩ := backed_of_nextHop sound hop
  refine ⟨worth rank heard, ⟨b, hop, heard, mem, rfl⟩, ?_⟩
  rintro w ⟨sent, mem', rfl⟩
  exact less sent mem'

/-- **Where no router takes a reply that is worse than one it has sent, no route has a loop**,
whatever is started, and whichever frames come, in whatever order. -/
theorem loopFree_of_run (sums : Along (meshStep mesh) (SumsBelow mesh) .init events)
    (fits : Along (meshStep mesh) (Fits mesh rank) .init events)
    (ran : run (meshStep mesh) .init events = some net) (destAddr : UInt16) :
    LoopFree (nextHop net destAddr) := by
  have sound : Sound mesh rank net :=
    run_invariant (fun _ _ _ sound fits stepped => sound_step sound fits stepped) sound_init
      (sums.and fits) ran
  exact loopFree_of_sound sound destAddr

end Sound

/-! ## Two discoveries -/

/-- The short addresses of the three routers. -/
def routers : List UInt16 := [1, 2, 3]

/-- Three routers that hear each other well; 3 has the destination 4 as a neighbour. -/
def threeRouters : Mesh where
  env a :=
    { networkAddress := a
      deviceType := 1
      maxDepth := 5
      nwkReportConstantCost := false
      useTreeRouting := false
      parentAddr := none
      neighborLqi b := if a ≠ b ∧ a ∈ routers ∧ b ∈ routers ∨ a = 3 ∧ b = 4 then some 255 else none
      treeHop _ := none }
  linked a b := decide (a ≠ b ∧ a ∈ routers ∧ b ∈ routers)
  own _ := rfl
  neighbor a b linked := by
    have hears := of_decide_eq_true linked
    dsimp only
    rw [if_pos (Or.inl hears)]
    rfl
  both a b := by
    rw [decide_eq_decide]
    constructor
    · rintro ⟨apart, one, two⟩
      exact ⟨apart.symm, two, one⟩
    · rintro ⟨apart, two, one⟩
      exact ⟨apart.symm, one, two⟩
  apart a := by simp

/-- The router 1 seeks 4, and is heard by 2 alone, which 3 answers. -/
def firstDiscovery : List MeshEvent :=
  [.start 1 0 4 0 7, .rreq 2 0 ⟨1, 7, 10, 1, 1, 4, 0⟩, .rreq 3 0 ⟨1, 7, 9, 2, 1, 4, 1⟩]

/-- The router 2 seeks 4, and is heard by 1 alone, which 3 answers. -/
def secondDiscovery : List MeshEvent :=
  [.start 2 0 4 0 8, .rreq 1 0 ⟨2, 8, 10, 2, 1, 4, 0⟩, .rreq 3 0 ⟨2, 8, 9, 1, 1, 4, 1⟩]

/-- Each of the two hears first of 3, and then of the other. -/
def crossingReplies : List MeshEvent :=
  [.rrep 2 0 3 ⟨1, 1, 4, 2⟩, .rrep 1 0 3 ⟨1, 2, 4, 2⟩, .rrep 1 0 2 ⟨1, 1, 4, 3⟩,
    .rrep 2 0 1 ⟨1, 2, 4, 3⟩]

/-- One discovery after the other; the request of the second is heard by 3. -/
def oneAfterTheOther : List MeshEvent :=
  firstDiscovery ++ [.rrep 2 0 3 ⟨1, 1, 4, 2⟩, .rrep 1 0 2 ⟨1, 1, 4, 3⟩, .start 2 0 4 0 8,
    .rreq 3 0 ⟨2, 8, 10, 2, 1, 4, 0⟩, .rrep 2 0 3 ⟨1, 2, 4, 1⟩]

theorem routes_through_two : ∃ net,
    run (meshStep threeRouters) .init oneAfterTheOther = some net ∧
      nextHop net 4 1 = some 2 ∧ nextHop net 4 2 = some 3 ∧ ∀ d, LoopFree (nextHop net d) := by
  have there : (run (meshStep threeRouters) .init oneAfterTheOther).isSome = true := by
    decide +kernel
  have hops : ((run (meshStep threeRouters) .init oneAfterTheOther).map
      fun net => (nextHop net 4 1, nextHop net 4 2)) = some (some 2, some 3) := by decide +kernel
  obtain ⟨net, ran⟩ := Option.isSome_iff_exists.1 there
  rw [ran] at hops
  obtain ⟨first, second⟩ := Prod.mk.inj (Option.some.inj hops)
  refine ⟨net, ran, first, second, ?_⟩
  exact @loopFree_of_run threeRouters (fun _ _ => 0) net oneAfterTheOther (by decide +kernel)
    (by decide +kernel) ran

/-- The replies to both discoveries are taken, and each of the two routers sends to the other. -/
theorem crossing_replies_loop :
    ¬ ∀ (mesh : Mesh) (events : List MeshEvent) (net : MeshNet),
      Along (meshStep mesh) (SumsBelow mesh) .init events →
        run (meshStep mesh) .init events = some net → ∀ d, LoopFree (nextHop net d) := by
  intro always
  have hops : ((run (meshStep threeRouters) .init
      (firstDiscovery ++ secondDiscovery ++ crossingReplies)).map
        fun net => follow (nextHop net 4) 2 1) = some (some 1) := by decide +kernel
  obtain ⟨net, ran, back⟩ := Option.map_eq_some_iff.1 hops
  have free := always threeRouters _ net (by decide +kernel) ran 4
  exact free 1 1 0 2 (by decide) rfl back

end Zboss.Nwk.MeshLoops
