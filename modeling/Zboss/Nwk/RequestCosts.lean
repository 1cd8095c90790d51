/-
# Nwk.RequestCosts -- what a route discovery keeps of the copies of its request

A request is broadcast by its originator and by every router that does not answer it, so
that a router hears it from several neighbours, at several costs.  Every copy carries the
source and the sequence number of the originator, and has to pass the filter of
`zb_mcps_data_indication` before `zb_nwk_mesh_rreq_handler` compares it with the entry of
the discovery.

* `later_copy`: a copy that comes after one that passed the filter is dropped there;
* `Leads`: the condition, that the first copy goes through, is the cheapest, and is as far
  away as the originator;
* `cheapest_iff`: the entry is that of the cheapest copy, and every cheaper copy was passed
  on, exactly when the first copy leads.

Pole: `cheaper_dropped`, two copies of which the second is the cheaper.
-/
import Mathlib
import Zboss.Common.Constants
import Zboss.Nwk.BroadcastFilter
import Zboss.Nwk.MeshRouting

namespace Zboss.Nwk.RequestCosts

open Zboss.Common.Constants
open Zboss.Theory.Slots
open Zboss.Nwk.Broadcast
open Zboss.Nwk.BroadcastFilter
open Zboss.Nwk.MeshRouting

set_option autoImplicit false

/-! ## A request comes in -/

/-- What a request meets: `nsBuild` is that the stack is built for the simulator, where the
quality of a link is made up. -/
structure Router where
  nsBuild : Bool
  joinedPro : Bool
  env : MeshEnv
  btt : Btt
  nib : MeshNib

/-- A frame with a route request, broadcast to routers, as the MAC hands it on. -/
structure RreqInd where
  param : UInt8
  /-- Its header is the one on the air, `radius` too. -/
  rreq : RreqFrame
  lqi : UInt8
  /-- `zb_nwk_unsecure_frame` succeeds, or the frame is not secured. -/
  unsecured : Bool
  deriving DecidableEq

/-- `LQI_TEST` -/
def lqiTest (srcAddr : UInt16) : UInt8 :=
  if srcAddr.toNat * 10 > 255 then 255 else UInt8.ofNat (srcAddr.toNat * 10)

/-- The quality of the link goes to the neighbour that the NWK header names. -/
def updateLqi (nsBuild : Bool) (srcAddr : UInt16) (lqi : UInt8) (env : MeshEnv) : MeshEnv :=
  match env.neighborLqi srcAddr with
  | some _ =>
      { env with
        neighborLqi := Function.update env.neighborLqi srcAddr
          (some (if nsBuild then lqiTest srcAddr else lqi)) }
  | none => env

/-- `zb_mcps_data_indication` of a request, and `nwk_frame_indication` behind it. -/
def zbMcpsDataIndication (s : Router) (ind : RreqInd) : Router × List MeshCall :=
  if ind.rreq.radius = 0 then (s, [.freeBuf ind.param])
  else if s.joinedPro then (s, [.freeBuf ind.param])
  else
    let (btt, passed) := indicationFilter ind.rreq.srcAddr ind.rreq.seqNum s.btt
    let s := { s with btt }
    if passed then
      if ind.unsecured then
        let env := updateLqi s.nsBuild ind.rreq.srcAddr ind.lqi s.env
        let rreq := { ind.rreq with radius := ind.rreq.radius - 1 }
        let (nib, calls) := zbNwkMeshRreqHandler env ind.param rreq s.nib
        ({ s with env, nib }, calls)
      -- the buffer stays for a status indication
      else (s, [])
    else (s, [.freeBuf ind.param])

/-- The router after requests have come in, in this order. -/
def receive : List RreqInd → Router → Router
  | [], s => s
  | ind :: rest, s => receive rest (zbMcpsDataIndication s ind).1

/-! ## The copies of a request -/

/-- A discovery: who asks, and the number of the request. -/
structure DiscoveryKey where
  srcAddr : UInt16
  rreqId : UInt8
  deriving DecidableEq

def RreqInd.isCopy (key : DiscoveryKey) (ind : RreqInd) : Bool :=
  ind.rreq.srcAddr == key.srcAddr && ind.rreq.cmd.rreqId == key.rreqId

/-- The path that a copy has come by: the cost it carries, and that of the link to the
neighbour it was heard from. -/
def pathCostOf (env : MeshEnv) (ind : RreqInd) : Nat :=
  ind.rreq.cmd.pathCost.toNat + (nwkCalcPathCost env ind.rreq.macSrc).toNat

/-- A copy that was heard: its cost, and what was done with it. -/
structure Heard where
  ind : RreqInd
  cost : Nat
  calls : List MeshCall

/-- The copies of a request among what comes in. -/
def heard (key : DiscoveryKey) : List RreqInd → Router → List Heard
  | [], _ => []
  | ind :: rest, s =>
      let done := zbMcpsDataIndication s ind
      if ind.isCopy key then
        ⟨ind, pathCostOf done.1.env ind, done.2⟩ :: heard key rest done.1
      else heard key rest done.1

/-- The buffer of a copy goes on as a request or as a reply. -/
def Heard.PassedOn (copy : Heard) : Prop :=
  ∃ call ∈ copy.calls,
    (∃ cmd srcAddr seqNum radius, call = .sendRreq copy.ind.param cmd srcAddr seqNum radius) ∨
      ∃ cmd senderAddr, call = .sendRrep copy.ind.param cmd senderAddr

/-- **The entry is that of the cheapest copy**, and each copy that was cheaper than all before
it was passed on. -/
structure Cheapest (key : DiscoveryKey) (inds : List RreqInd) (s : Router) : Prop where
  entry : ∃ i, findDisc key.rreqId key.srcAddr (receive inds s).nib = some i ∧
    (∀ copy ∈ heard key inds s,
      ((receive inds s).nib.routeDiscTable i).forwardCost.toNat ≤ copy.cost) ∧
    ∃ copy ∈ heard key inds s,
      copy.cost = ((receive inds s).nib.routeDiscTable i).forwardCost.toNat ∧
        copy.ind.rreq.macSrc = ((receive inds s).nib.routeDiscTable i).senderAddr
  passedOn : ∀ before copy after, heard key inds s = before ++ copy :: after →
    (∀ earlier ∈ before, copy.cost < earlier.cost) → copy.PassedOn

/-! ## The condition -/

/-- The cost that the handler computes: that of the link to the originator, on a byte. -/
def handlerCost (env : MeshEnv) (ind : RreqInd) : UInt8 :=
  nwkCalcPathCost env ind.rreq.srcAddr + ind.rreq.cmd.pathCost

/-- What the neighbour table is when the handler is called. -/
def envOf (s : Router) (ind : RreqInd) : MeshEnv :=
  updateLqi s.nsBuild ind.rreq.srcAddr ind.lqi s.env

/-- **The request goes through**: it passes the filters, and there is room in the tables. -/
structure GoesThrough (s : Router) (ind : RreqInd) : Prop where
  radius : ind.rreq.radius ≠ 0
  takesPart : s.joinedPro = false
  unheard : findBtt ind.rreq.srcAddr ind.rreq.seqNum s.btt = none
  room : firstFree ZbNwkBtr.used s.btt.btt zbNwkBtrTableSize ≠ none
  unsecured : ind.unsecured = true
  route : findRoute ind.rreq.cmd.destAddr s.nib ≠ none ∨
    firstFree ZbNwkRouting.used s.nib.routingTable zbNwkRoutingTableSize ≠ none
  newDisc : findDisc ind.rreq.cmd.rreqId ind.rreq.srcAddr s.nib = none →
    firstFree ZbNwkRouteDiscovery.used s.nib.routeDiscTable zbNwkRouteDiscoveryTableSize ≠ none
  oldDisc : ∀ i, findDisc ind.rreq.cmd.rreqId ind.rreq.srcAddr s.nib = some i →
    handlerCost (envOf s ind) ind < (s.nib.routeDiscTable i).forwardCost

/-- **The first copy leads**: it goes through, the handler finds its cost, and no copy after it
is cheaper. -/
def Leads (key : DiscoveryKey) (inds : List RreqInd) (s : Router) : Prop :=
  ∃ before first after, inds = before ++ first :: after ∧
    (∀ ind ∈ before, ind.isCopy key = false) ∧ first.isCopy key = true ∧
    GoesThrough (receive before s) first ∧
    (handlerCost (envOf (receive before s) first) first).toNat =
      pathCostOf (envOf (receive before s) first) first ∧
    ∀ copy ∈ heard key inds s, pathCostOf (envOf (receive before s) first) first ≤ copy.cost

/-! ## One frame -/

section Frame

variable {s : Router} {ind : RreqInd} {key : DiscoveryKey} {nib t : MeshNib} {i : Nat}

/-- Looking for the route does not touch the discoveries. -/
theorem routeSought_discTable {destAddr : UInt16}
    (sought : routeSought destAddr nib = some (i, t)) : t.routeDiscTable = nib.routeDiscTable := by
  rw [routeSought] at sought
  cases found : findRoute destAddr nib with
  | some j =>
      rw [found] at sought
      dsimp only at sought
      split at sought <;> cases sought <;> rfl
  | none =>
      rw [found] at sought
      obtain ⟨j, -, is⟩ := Option.map_eq_some_iff.1 sought
      cases is
      rfl

theorem routeSought_isSome {destAddr : UInt16} :
    routeSought destAddr nib ≠ none ↔ findRoute destAddr nib ≠ none ∨
      firstFree ZbNwkRouting.used nib.routingTable zbNwkRoutingTableSize ≠ none := by
  rw [routeSought]
  cases found : findRoute destAddr nib with
  | some j =>
      dsimp only
      split <;> simp
  | none => simp

theorem findDisc_congr {requestId : UInt8} {sourceAddr : UInt16}
    (same : t.routeDiscTable = nib.routeDiscTable) :
    findDisc requestId sourceAddr t = findDisc requestId sourceAddr nib := by
  rw [findDisc, same, findDisc]

/-- **A request that is compared and wins** has the entry. -/
theorem discSought_goOn {rreq : RreqFrame} {pathCost : UInt8}
    (sought : discSought rreq pathCost nib = .goOn t) :
    ∃ i, findDisc rreq.cmd.rreqId rreq.srcAddr t = some i ∧
      (t.routeDiscTable i).forwardCost = pathCost ∧
      (t.routeDiscTable i).senderAddr = rreq.macSrc := by
  rw [discSought] at sought
  cases found : findDisc rreq.cmd.rreqId rreq.srcAddr nib with
  | some j =>
      rw [found] at sought
      dsimp only at sought
      split at sought
      · cases sought
        obtain ⟨inside, on, is⟩ := findUsed_eq_some found
        refine ⟨j, ?_, ?_, ?_⟩
        · exact findUsed_update_self inside on is (.inl found)
        · simp [setDisc]
        · simp [setDisc]
      · cases sought
  | none =>
      rw [found] at sought
      dsimp only at sought
      split at sought
      · rename_i j free
        cases sought
        obtain ⟨inside, -, -⟩ := firstFree_eq_some free
        refine ⟨j, ?_, ?_, ?_⟩
        · apply findUsed_update_self inside rfl _ (.inr found)
          simp
        · simp
        · simp
      · cases sought

/-- When a request is compared, and wins. -/
theorem discSought_isGoOn {rreq : RreqFrame} {pathCost : UInt8} :
    (∃ t, discSought rreq pathCost nib = .goOn t) ↔
      (findDisc rreq.cmd.rreqId rreq.srcAddr nib = none →
        firstFree ZbNwkRouteDiscovery.used nib.routeDiscTable zbNwkRouteDiscoveryTableSize ≠ none) ∧
      ∀ i, findDisc rreq.cmd.rreqId rreq.srcAddr nib = some i →
        pathCost < (nib.routeDiscTable i).forwardCost := by
  rw [discSought]
  cases found : findDisc rreq.cmd.rreqId rreq.srcAddr nib with
  | some j =>
      dsimp only
      by_cases less : pathCost < (nib.routeDiscTable j).forwardCost
      · simp [less]
      · simp [less]
  | none =>
      cases free : firstFree ZbNwkRouteDiscovery.used nib.routeDiscTable
          zbNwkRouteDiscoveryTableSize with
      | some j => simp
      | none => simp

/-- A request of another discovery does not touch the entry. -/
theorem discSought_other {rreq : RreqFrame} {pathCost : UInt8}
    (other : ¬ (rreq.cmd.rreqId = key.rreqId ∧ rreq.srcAddr = key.srcAddr))
    (found : findDisc key.rreqId key.srcAddr nib = some i)
    (sought : discSought rreq pathCost nib = .goOn t) :
    findDisc key.rreqId key.srcAddr t = some i ∧ t.routeDiscTable i = nib.routeDiscTable i := by
  obtain ⟨-, on, is⟩ := findUsed_eq_some found
  rw [Bool.and_eq_true, beq_iff_eq, beq_iff_eq] at is
  rw [discSought] at sought
  split at sought
  · rename_i j theirs
    dsimp only at sought
    split at sought
    · cases sought
      obtain ⟨-, -, isTheirs⟩ := findUsed_eq_some theirs
      have isTheirs' := isTheirs
      rw [Bool.and_eq_true, beq_iff_eq, beq_iff_eq] at isTheirs
      have apart : i ≠ j := by
        rintro rfl
        exact other ⟨isTheirs.1.symm.trans is.1, isTheirs.2.symm.trans is.2⟩
      have notMine : ((nib.routeDiscTable j).requestId == key.rreqId &&
          (nib.routeDiscTable j).sourceAddr == key.srcAddr) = false := by
        rw [isTheirs.1, isTheirs.2, Bool.eq_false_iff]
        simpa using other
      constructor
      · rw [← found]
        apply findUsed_update_of_not
        · rw [notMine, Bool.and_false]
        · dsimp only
          rw [notMine, Bool.and_false]
      · rw [setDisc]
        exact Function.update_of_ne apart _ _
    · cases sought
  · split at sought
    · rename_i j free
      cases sought
      obtain ⟨-, off, -⟩ := firstFree_eq_some free
      have apart : i ≠ j := by
        rintro rfl
        rw [on] at off
        cases off
      constructor
      · rw [← found]
        apply findUsed_update_of_not
        · rw [off, Bool.false_and]
        · rw [Bool.true_and, Bool.eq_false_iff]
          simpa using other
      · exact Function.update_of_ne apart _ _
    · cases sought

/-- **The handler, when the request wins.** -/
theorem handler_wins {env : MeshEnv} {buf : UInt8} {rreq : RreqFrame} {routing : Nat} {u : MeshNib}
    (sought : routeSought rreq.cmd.destAddr nib = some (routing, u))
    (wins : discSought rreq (nwkCalcPathCost env rreq.srcAddr + rreq.cmd.pathCost) u = .goOn t) :
    zbNwkMeshRreqHandler env buf rreq nib =
      (t, [rreqPassed env buf rreq (nwkCalcPathCost env rreq.srcAddr + rreq.cmd.pathCost)]) := by
  rw [zbNwkMeshRreqHandler, sought]
  dsimp only
  rw [wins]

/-- Only then is the buffer passed on. -/
theorem handler_passes {env : MeshEnv} {buf : UInt8} {rreq : RreqFrame} {cost : Nat}
    (passed : Heard.PassedOn ⟨ind, cost, (zbNwkMeshRreqHandler env buf rreq nib).2⟩) :
    ∃ routing u t, routeSought rreq.cmd.destAddr nib = some (routing, u) ∧
      discSought rreq (nwkCalcPathCost env rreq.srcAddr + rreq.cmd.pathCost) u = .goOn t := by
  have notFailed : ∀ v : MeshNib, ¬ Heard.PassedOn ⟨ind, cost, rreqFailed buf rreq v⟩ := by
    intro v passed
    unfold Heard.PassedOn rreqFailed at passed
    dsimp only at passed
    split at passed <;> simp at passed
  rw [zbNwkMeshRreqHandler] at passed
  cases sought : routeSought rreq.cmd.destAddr nib with
  | none =>
      rw [sought] at passed
      exact absurd passed (notFailed nib)
  | some found =>
      obtain ⟨routing, u⟩ := found
      rw [sought] at passed
      dsimp only at passed
      split at passed
      · rename_i t goOn
        exact ⟨routing, u, t, rfl, goOn⟩
      · simp [Heard.PassedOn] at passed
      · exact absurd passed (notFailed u)

theorem addBtt_isSome {src : UInt16} {seq : UInt8} {btt : Btt} :
    addBtt src seq btt ≠ none ↔ firstFree ZbNwkBtr.used btt.btt zbNwkBtrTableSize ≠ none := by
  rw [addBtt]
  cases firstFree ZbNwkBtr.used btt.btt zbNwkBtrTableSize <;> simp

/-- **A copy that comes after one that passed the filter is dropped there.** -/
theorem later_copy (holds : Holds ind.rreq.srcAddr ind.rreq.seqNum s.btt) :
    zbMcpsDataIndication s ind = (s, [.freeBuf ind.param]) := by
  obtain ⟨i, found⟩ := Option.isSome_iff_exists.1 holds
  rw [zbMcpsDataIndication]
  split
  · rfl
  · split
    · rfl
    · rw [indicationFilter, found]
      rfl

/-- What passed the filter is not forgotten. -/
theorem holds_step {src : UInt16} {seq : UInt8} (holds : Holds src seq s.btt) :
    Holds src seq (zbMcpsDataIndication s ind).1.btt := by
  obtain ⟨i, inside, mine⟩ := holds_iff.1 holds
  have kept : Holds src seq (indicationFilter ind.rreq.srcAddr ind.rreq.seqNum s.btt).1 := by
    have there : HoldsFor src seq i 0 s.btt := ⟨inside, mine, Nat.zero_le _⟩
    have taken : bttStep s.btt (.indication ind.rreq.srcAddr ind.rreq.seqNum) =
        some (indicationFilter ind.rreq.srcAddr ind.rreq.seqNum s.btt).1 := rfl
    have after := holdsFor_filter there taken (by simp)
    exact holds_iff.2 ⟨i, after.1, after.2.1⟩
  rw [zbMcpsDataIndication]
  split
  · exact holds
  · split
    · exact holds
    · dsimp only
      split
      · split
        · exact kept
        · exact kept
      · exact kept

/-- **The request goes through**: what the router keeps of it. -/
theorem goes_through (through : GoesThrough s ind) :
    (zbMcpsDataIndication s ind).1.env = envOf s ind ∧
      (zbMcpsDataIndication s ind).2 =
        [rreqPassed (envOf s ind) ind.param { ind.rreq with radius := ind.rreq.radius - 1 }
          (handlerCost (envOf s ind) ind)] ∧
      Holds ind.rreq.srcAddr ind.rreq.seqNum (zbMcpsDataIndication s ind).1.btt ∧
      ∃ i, findDisc ind.rreq.cmd.rreqId ind.rreq.srcAddr (zbMcpsDataIndication s ind).1.nib = some i ∧
        ((zbMcpsDataIndication s ind).1.nib.routeDiscTable i).forwardCost =
          handlerCost (envOf s ind) ind ∧
        ((zbMcpsDataIndication s ind).1.nib.routeDiscTable i).senderAddr = ind.rreq.macSrc := by
  obtain ⟨btt, added⟩ := Option.ne_none_iff_exists'.1 (addBtt_isSome.2 through.room)
  obtain ⟨⟨routing, u⟩, sought⟩ := Option.ne_none_iff_exists'.1 (routeSought_isSome.2 through.route)
  have discs := routeSought_discTable sought
  have compared : ∃ t, discSought { ind.rreq with radius := ind.rreq.radius - 1 }
      (handlerCost (envOf s ind) ind) u = .goOn t := by
    apply discSought_isGoOn.2
    rw [findDisc_congr discs, discs]
    exact ⟨through.newDisc, through.oldDisc⟩
  obtain ⟨t, wins⟩ := compared
  have filtered : indicationFilter ind.rreq.srcAddr ind.rreq.seqNum s.btt = (btt, true) := by
    rw [indicationFilter, through.unheard]
    dsimp only
    rw [added]
  have done : zbMcpsDataIndication s ind =
      ({ s with btt, env := envOf s ind, nib := t },
        [rreqPassed (envOf s ind) ind.param { ind.rreq with radius := ind.rreq.radius - 1 }
          (handlerCost (envOf s ind) ind)]) := by
    rw [zbMcpsDataIndication, if_neg through.radius, if_neg (by simp [through.takesPart]), filtered]
    dsimp only
    rw [if_pos rfl, if_pos through.unsecured]
    have handled : zbNwkMeshRreqHandler (envOf s ind) ind.param
        { ind.rreq with radius := ind.rreq.radius - 1 } s.nib = _ := handler_wins sought wins
    rw [envOf] at handled
    rw [handled]
    rfl
  rw [done]
  refine ⟨rfl, rfl, ?_, discSought_goOn wins⟩
  obtain ⟨i, inside, -, table, -⟩ := addBtt_eq added
  refine holds_iff.2 ⟨i, inside, ?_⟩
  rw [table, Function.update_self]
  simp [isFor]

/-- **Only a request that goes through is passed on.** -/
theorem passedOn_through {cost : Nat}
    (passed : Heard.PassedOn ⟨ind, cost, (zbMcpsDataIndication s ind).2⟩) : GoesThrough s ind := by
  rw [zbMcpsDataIndication] at passed
  by_cases radius : ind.rreq.radius = 0
  · rw [if_pos radius] at passed
    simp [Heard.PassedOn] at passed
  rw [if_neg radius] at passed
  by_cases pro : s.joinedPro = true
  · rw [if_pos pro] at passed
    simp [Heard.PassedOn] at passed
  rw [if_neg pro, indicationFilter] at passed
  cases unheard : findBtt ind.rreq.srcAddr ind.rreq.seqNum s.btt with
  | some i =>
      rw [unheard] at passed
      simp [Heard.PassedOn] at passed
  | none =>
  rw [unheard] at passed
  cases added : addBtt ind.rreq.srcAddr ind.rreq.seqNum s.btt with
  | none =>
      rw [added] at passed
      simp [Heard.PassedOn] at passed
  | some btt =>
  rw [added] at passed
  dsimp only at passed
  rw [if_pos rfl] at passed
  by_cases unsecured : ind.unsecured = true
  · rw [if_pos unsecured] at passed
    obtain ⟨routing, u, t, sought, wins⟩ := handler_passes passed
    have discs := routeSought_discTable sought
    obtain ⟨newDisc, oldDisc⟩ := discSought_isGoOn.1 ⟨t, wins⟩
    rw [findDisc_congr discs, discs] at newDisc oldDisc
    exact
      { radius, unheard, unsecured, newDisc, oldDisc
        takesPart := Bool.eq_false_iff.2 pro
        room := addBtt_isSome.1 (by rw [added]; exact Option.some_ne_none btt)
        route := routeSought_isSome.1 (by rw [sought]; exact Option.some_ne_none _) }
  · rw [if_neg unsecured] at passed
    simp [Heard.PassedOn] at passed

/-- A request of another discovery leaves the entry. -/
theorem other_keeps (other : ind.isCopy key = false)
    (found : findDisc key.rreqId key.srcAddr s.nib = some i) :
    findDisc key.rreqId key.srcAddr (zbMcpsDataIndication s ind).1.nib = some i ∧
      (zbMcpsDataIndication s ind).1.nib.routeDiscTable i = s.nib.routeDiscTable i := by
  have other' : ¬ (ind.rreq.cmd.rreqId = key.rreqId ∧ ind.rreq.srcAddr = key.srcAddr) := by
    rintro ⟨sameId, sameSrc⟩
    simp [RreqInd.isCopy, sameId, sameSrc] at other
  have handled : ∀ env, findDisc key.rreqId key.srcAddr (zbNwkMeshRreqHandler env ind.param
        { ind.rreq with radius := ind.rreq.radius - 1 } s.nib).1 = some i ∧
      (zbNwkMeshRreqHandler env ind.param { ind.rreq with radius := ind.rreq.radius - 1 }
        s.nib).1.routeDiscTable i = s.nib.routeDiscTable i := by
    intro env
    rw [zbNwkMeshRreqHandler]
    cases sought : routeSought ind.rreq.cmd.destAddr s.nib with
    | none => exact ⟨found, rfl⟩
    | some route =>
        obtain ⟨routing, u⟩ := route
        have discs := routeSought_discTable sought
        have found' := (findDisc_congr discs).trans found
        dsimp only
        split
        · rename_i t wins
          obtain ⟨still, same⟩ := discSought_other other' found' wins
          exact ⟨still, same.trans (congrFun discs i)⟩
        · exact ⟨found', congrFun discs i⟩
        · exact ⟨found', congrFun discs i⟩
  rw [zbMcpsDataIndication]
  split
  · exact ⟨found, rfl⟩
  · split
    · exact ⟨found, rfl⟩
    · dsimp only
      split
      · split
        · exact handled _
        · exact ⟨found, rfl⟩
      · exact ⟨found, rfl⟩

end Frame

/-! ## All copies -/

section Copies

variable {s : Router} {inds before after : List RreqInd} {first : RreqInd} {key : DiscoveryKey}
  {seq : UInt8}

theorem receive_append : receive (before ++ after) s = receive after (receive before s) := by
  induction before generalizing s with
  | nil => rfl
  | cons ind rest ih => exact ih

theorem heard_append :
    heard key (before ++ after) s = heard key before s ++ heard key after (receive before s) := by
  induction before generalizing s with
  | nil => rfl
  | cons ind rest ih =>
      rw [List.cons_append, heard, heard, receive]
      split
      · rw [ih, List.cons_append]
      · exact ih

theorem heard_nil (none_ : ∀ ind ∈ inds, ind.isCopy key = false) : heard key inds s = [] := by
  induction inds generalizing s with
  | nil => rfl
  | cons ind rest ih =>
      rw [heard, none_ ind List.mem_cons_self]
      exact ih fun ind mem => none_ ind (List.mem_cons_of_mem _ mem)

/-- What is heard begins with the first copy. -/
theorem heard_first (none_ : ∀ ind ∈ before, ind.isCopy key = false)
    (copy : first.isCopy key = true) :
    heard key (before ++ first :: after) s =
      ⟨first, pathCostOf (zbMcpsDataIndication (receive before s) first).1.env first,
        (zbMcpsDataIndication (receive before s) first).2⟩ ::
        heard key after (zbMcpsDataIndication (receive before s) first).1 := by
  rw [heard_append, heard_nil none_, List.nil_append, heard, if_pos copy]

/-- **Behind the first copy that passed the filter** the entry stays, and no copy is passed on. -/
theorem after_first {i : Nat} (holds : Holds key.srcAddr seq s.btt)
    (found : findDisc key.rreqId key.srcAddr s.nib = some i)
    (oneSeq : ∀ ind ∈ inds, ind.isCopy key = true → ind.rreq.seqNum = seq) :
    findDisc key.rreqId key.srcAddr (receive inds s).nib = some i ∧
      (receive inds s).nib.routeDiscTable i = s.nib.routeDiscTable i ∧
      ∀ copy ∈ heard key inds s, ¬ copy.PassedOn := by
  induction inds generalizing s with
  | nil => exact ⟨found, rfl, nofun⟩
  | cons ind rest ih =>
      have oneSeq' : ∀ ind ∈ rest, ind.isCopy key = true → ind.rreq.seqNum = seq :=
        fun ind mem => oneSeq ind (List.mem_cons_of_mem _ mem)
      rw [receive, heard]
      cases copy : ind.isCopy key with
      | true =>
          have sameSeq := oneSeq ind List.mem_cons_self copy
          have sameSrc : ind.rreq.srcAddr = key.srcAddr := by
            rw [RreqInd.isCopy, Bool.and_eq_true, beq_iff_eq] at copy
            exact copy.1
          have dropped : zbMcpsDataIndication s ind = (s, [.freeBuf ind.param]) := by
            apply later_copy
            rw [sameSrc, sameSeq]
            exact holds
          rw [dropped]
          obtain ⟨found', same, others⟩ := ih holds found oneSeq'
          refine ⟨found', same, ?_⟩
          rw [if_pos rfl, List.forall_mem_cons]
          refine ⟨?_, others⟩
          simp [Heard.PassedOn]
      | false =>
          obtain ⟨found', same⟩ := other_keeps copy found
          obtain ⟨found'', same', others⟩ := ih (holds_step holds) found' oneSeq'
          exact ⟨found'', same'.trans same, others⟩

/-- **The first copy goes through**: the entry is its own, and no other copy is passed on. -/
theorem first_settles (oneSeq : ∀ ind ∈ inds, ind.isCopy key = true → ind.rreq.seqNum = seq)
    (is : inds = before ++ first :: after) (none_ : ∀ ind ∈ before, ind.isCopy key = false)
    (copy : first.isCopy key = true) (through : GoesThrough (receive before s) first) :
    ∃ i rest, findDisc key.rreqId key.srcAddr (receive inds s).nib = some i ∧
      ((receive inds s).nib.routeDiscTable i).forwardCost =
        handlerCost (envOf (receive before s) first) first ∧
      ((receive inds s).nib.routeDiscTable i).senderAddr = first.rreq.macSrc ∧
      heard key inds s =
        ⟨first, pathCostOf (envOf (receive before s) first) first,
          (zbMcpsDataIndication (receive before s) first).2⟩ :: rest ∧
      ∀ copy ∈ rest, ¬ copy.PassedOn := by
  subst is
  obtain ⟨env, -, holds, i, found, cost, sender⟩ := goes_through through
  have mine : first.rreq.srcAddr = key.srcAddr ∧ first.rreq.cmd.rreqId = key.rreqId := by
    rwa [RreqInd.isCopy, Bool.and_eq_true, beq_iff_eq, beq_iff_eq] at copy
  have sameSeq : first.rreq.seqNum = seq := oneSeq first (by simp) copy
  have oneSeq' : ∀ ind ∈ after, ind.isCopy key = true → ind.rreq.seqNum = seq :=
    fun ind mem => oneSeq ind (by simp [mem])
  rw [mine.1, sameSeq] at holds
  rw [mine.1, mine.2] at found
  obtain ⟨found', same, dropped⟩ := after_first holds found oneSeq'
  refine ⟨i, _, ?_, ?_, ?_, ?_, dropped⟩
  · rw [receive_append]
    exact found'
  · rw [receive_append]
    exact (congrArg _ same).trans cost
  · rw [receive_append]
    exact (congrArg _ same).trans sender
  · rw [heard_first none_ copy, env]

/-- Of copies that were not passed on, the first that is cheaper than the one before them all
should have been. -/
theorem none_cheaper {head : Heard} {rest : List Heard} (dropped : ∀ copy ∈ rest, ¬ copy.PassedOn)
    (passedOn : ∀ before copy after, head :: rest = before ++ copy :: after →
      (∀ earlier ∈ before, copy.cost < earlier.cost) → copy.PassedOn) :
    ∀ copy ∈ rest, head.cost ≤ copy.cost := by
  by_contra cheaper
  push Not at cheaper
  obtain ⟨some_, someIn, less⟩ := cheaper
  obtain ⟨next, found⟩ :
      ∃ next, rest.find? (fun copy => decide (copy.cost < head.cost)) = some next := by
    rw [← Option.isSome_iff_exists, List.find?_isSome]
    exact ⟨some_, someIn, decide_eq_true less⟩
  obtain ⟨nextLess, earlier, later, rfl, notLess⟩ := List.find?_eq_some_iff_append.1 found
  rw [decide_eq_true_eq] at nextLess
  apply dropped next (by simp)
  apply passedOn (head :: earlier) next later rfl
  rw [List.forall_mem_cons]
  refine ⟨nextLess, ?_⟩
  intro copy mem
  have dearer := notLess copy mem
  simp only [Bool.not_eq_true', decide_eq_false_iff_not, not_lt] at dearer
  exact nextLess.trans_le dearer

/-- **The cheapest copy has the entry exactly when the first copy leads.** -/
theorem cheapest_iff (oneSeq : ∀ ind ∈ inds, ind.isCopy key = true → ind.rreq.seqNum = seq) :
    Cheapest key inds s ↔ Leads key inds s := by
  constructor
  · intro cheapest
    obtain ⟨i, found, least, best, bestIn, bestCost, -⟩ := cheapest.entry
    obtain ⟨first, firstFound⟩ : ∃ first, inds.find? (RreqInd.isCopy key) = some first := by
      rw [← Option.isSome_iff_exists, List.find?_isSome]
      by_contra none_
      push Not at none_
      have empty : heard key inds s = [] := heard_nil fun ind mem => by simpa using none_ ind mem
      rw [empty] at bestIn
      cases bestIn
    obtain ⟨copy, before, after, is, none_⟩ := List.find?_eq_some_iff_append.1 firstFound
    have none_' : ∀ ind ∈ before, ind.isCopy key = false := by
      intro ind mem
      simpa using none_ ind mem
    have through : GoesThrough (receive before s) first := by
      have begins : heard key (before ++ first :: after) s = _ := heard_first none_' copy
      rw [← is] at begins
      exact passedOn_through (cheapest.passedOn [] _ _ begins nofun)
    obtain ⟨j, rest, found', cost, -, begins, dropped⟩ := first_settles oneSeq is none_' copy through
    obtain rfl : i = j := Option.some.inj (found.symm.trans found')
    have passedOn := cheapest.passedOn
    rw [begins] at passedOn least bestIn
    have all : ∀ copy ∈ heard key inds s,
        pathCostOf (envOf (receive before s) first) first ≤ copy.cost := by
      rw [begins, List.forall_mem_cons]
      exact ⟨le_refl _, none_cheaper dropped passedOn⟩
    refine ⟨before, first, after, is, none_', copy, through, ?_, all⟩
    rw [← cost]
    apply Nat.le_antisymm
    · exact least _ List.mem_cons_self
    · rw [← bestCost]
      exact all best (begins ▸ bestIn)
  · rintro ⟨before, first, after, is, none_, copy, through, finds, least⟩
    obtain ⟨i, rest, found, cost, sender, begins, -⟩ := first_settles oneSeq is none_ copy through
    constructor
    · refine ⟨i, found, ?_, ?_⟩
      · rw [cost, finds]
        exact least
      · refine ⟨_, begins ▸ List.mem_cons_self, ?_, sender.symm⟩
        rw [cost, finds]
    · intro earlier lowered later isHeard cheaper
      cases earlier with
      | nil =>
          rw [begins, List.nil_append, List.cons.injEq] at isHeard
          rw [← isHeard.1]
          unfold Heard.PassedOn
          dsimp only
          rw [(goes_through through).2.1]
          refine ⟨_, List.mem_singleton_self _, ?_⟩
          rw [rreqPassed]
          split
          · exact .inr ⟨_, _, rfl⟩
          · exact .inl ⟨_, _, _, _, rfl⟩
      | cons head earlier =>
          rw [begins, List.cons_append, List.cons.injEq] at isHeard
          have less := cheaper head List.mem_cons_self
          rw [← isHeard.1] at less
          have le := least lowered (by rw [begins, isHeard.2]; simp)
          exact absurd (less.trans_le le) (lt_irrefl _)

end Copies

/-! ## Poles -/

section Poles

/-- A router with two neighbours, where every link costs the same. -/
def poleRouter : Router where
  nsBuild := false
  joinedPro := false
  env :=
    { networkAddress := 0x0003
      deviceType := zbNwkDeviceTypeRouter
      maxDepth := 5
      nwkReportConstantCost := true
      useTreeRouting := false
      parentAddr := none
      neighborLqi := fun addr => if addr = 0x0001 ∨ addr = 0x0002 then some 200 else none
      treeHop := fun _ => none }
  btt := Btt.init
  nib := MeshNib.init

/-- A copy of request 7 of 0x0009, from a neighbour. -/
def poleCopy (param : UInt8) (macSrc : UInt16) (pathCost : UInt8) : RreqInd :=
  ⟨param, ⟨0x0009, 0x21, 4, macSrc, ⟨7, 0x0050, pathCost⟩⟩, 200, true⟩

theorem cheapest_iff_two : Cheapest ⟨0x0009, 7⟩ [poleCopy 1 0x0001 3, poleCopy 2 0x0002 9] poleRouter := by
  apply (cheapest_iff (by decide : ∀ ind ∈ [poleCopy 1 0x0001 3, poleCopy 2 0x0002 9],
    ind.isCopy ⟨0x0009, 7⟩ = true → ind.rreq.seqNum = 0x21)).2
  refine ⟨[], _, _, rfl, nofun, rfl, ?_, by decide, ?_⟩
  · exact
      { radius := by decide
        takesPart := rfl
        unheard := by decide
        room := by decide
        unsecured := rfl
        route := .inr (by decide)
        newDisc := fun _ => by decide
        oldDisc := fun i found => absurd found (by decide +revert) }
  · decide

/-- **The cheaper copy is dropped**: its sequence number is that of the first. -/
theorem cheaper_dropped :
    ¬ Cheapest ⟨0x0009, 7⟩ [poleCopy 1 0x0001 9, poleCopy 2 0x0002 3] poleRouter := by
  rintro ⟨⟨i, found, least, -⟩, -⟩
  have at_ : findDisc 7 0x0009
      (receive [poleCopy 1 0x0001 9, poleCopy 2 0x0002 3] poleRouter).nib = some 0 := by decide
  obtain rfl : i = 0 := Option.some.inj (found.symm.trans at_)
  revert least
  decide

end Poles

end Zboss.Nwk.RequestCosts
