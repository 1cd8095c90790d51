/-
# Nwk.DiscoveryExpiry -- whether the aging of route discoveries keeps running

`zb_nwk_mesh_expiry_route_disc` sets its alarm again, except where a discovery takes its route with
it: then a buffer is requested for `nwk_route_disc_failed`, and that sets the alarm when it has the
buffer.  The address goes from one to the other in a global.  Neither the request nor the alarm has
its result looked at.

Around every event the pool, the timer queue and the neighbours may be anything; what comes of a
request, an alarm or a freed buffer is computed by the code of the pool and of the scheduler.

* `Alive`: one alarm is set or one request is outstanding, and every route removed was reported, or
  is about to be by the request;
* `alive_run`: so it is in every state of a run whose steps all find room (`RoomFor`).

Pole: `aging_stops`, a pool without a buffer or an entry to wait in.
-/
import Mathlib
import Zboss.Common.Constants
import Zboss.Nwk.RouteBuffers
import Zboss.Common.BufpoolRun
import Zboss.Common.AlarmTime

namespace Zboss.Nwk.DiscoveryExpiry

open Zboss.Common.Constants
open Zboss.Theory
open Zboss.Theory.Run
open Zboss.Theory.Slots
open Zboss.Common.Scheduler
open Zboss.Common.ListMacros
open Zboss.Common.RingBuffer
open Zboss.Common.Bufpool
open Zboss.Common.BufpoolRun
open Zboss.Common.AlarmTime
open Zboss.Nwk.MeshRouting
open Zboss.Nwk.RouteBuffers

set_option autoImplicit false

/-! ## Events -/

/-- The callbacks that are told apart here. -/
inductive Task where
  | expiryRouteDisc
  | routeDiscFailed
  | statusIndication
  | other (n : Nat)
  deriving DecidableEq

/-- `ZB_NWK_EXPIRY_ROUTE_DISCOVERY`, two seconds. -/
def zbNwkExpiryRouteDiscovery : ZbTime := UInt16.ofNat (2 * zbTimeOneSecond)

/-- The rest of the device at an event. -/
structure Around where
  env : MeshEnv
  pool : ZbBufpool Task
  sched : ZbSchedGlobals Task
  timer : ZbTime

structure Expiry where
  nib : MeshNib
  /-- The alarms set for `zb_nwk_mesh_expiry_route_disc`. -/
  alarms : Nat
  /-- The requests for `nwk_route_disc_failed` that wait for a buffer. -/
  waiting : Nat
  /-- Those that have one and are in the callback queue. -/
  handed : Nat
  /-- The destinations of the routes removed, and of those reported. -/
  removed : List UInt16
  indicated : List UInt16

/-- After `zb_nwk_mesh_routing_init`. -/
def Expiry.init : Expiry := ⟨MeshNib.init, 1, 0, 0, [], []⟩

def Expiry.requests (s : Expiry) : Nat := s.waiting + s.handed

inductive ExpiryEvent where
  /-- The alarm runs. -/
  | expiry
  /-- Somebody frees an output buffer, and the request is the first to wait. -/
  | freed (buf : Nat)
  /-- `nwk_route_disc_failed` is called with its buffer. -/
  | delivered (param : UInt8)
  /-- Anything else of the routing. -/
  | mesh (event : MeshEvent)
  deriving DecidableEq

/-- What comes of a request for a buffer. -/
inductive Request where
  | handed
  | waits
  | refused
  deriving DecidableEq

/-- `ZB_GET_OUT_BUF_DELAYED(nwk_route_disc_failed)` -/
def requestBuf (pool : ZbBufpool Task) : Option Request :=
  (zbGetBufDelayed .routeDiscFailed false pool).map fun
    | (t, .ok _) => if (scheduled pool t).isEmpty then .waits else .handed
    | (_, .error _) => .refused

def setAlarm (sched : ZbSchedGlobals Task) (timer : ZbTime) (s : Expiry) : Option Expiry :=
  (zbScheduleAlarm .expiryRouteDisc 0 zbNwkExpiryRouteDiscovery timer sched).map fun
    | (_, .ok _) => { s with alarms := s.alarms + 1 }
    | (_, .error _) => s

/-- The destinations of the routes that are in use before and not after. -/
def removedRoutes (s t : MeshNib) : List UInt16 :=
  ((List.range zbNwkRoutingTableSize).filter fun i =>
    (s.routingTable i).used && !(t.routingTable i).used).map fun i => (s.routingTable i).destAddr

/-- `none` is an assertion, or an event that cannot be. -/
def expiryStep (s : Expiry) : Around × ExpiryEvent → Option Expiry
  | (around, .expiry) =>
      if s.alarms = 0 then none
      else
        let (nib, calls) := zbNwkMeshExpiryRouteDisc s.nib
        let s := { s with
          nib, alarms := s.alarms - 1, removed := s.removed ++ removedRoutes s.nib nib }
        if .getBufRouteDiscFailed ∈ calls then
          (requestBuf around.pool).map fun
            | .handed => { s with handed := s.handed + 1 }
            | .waits => { s with waiting := s.waiting + 1 }
            | .refused => s
        else setAlarm around.sched around.timer s
  | (around, .freed buf) =>
      if s.waiting = 0 ∨ (around.pool.pool buf).isInBuf = true ∨
          (waits false around.pool).head? ≠ some .routeDiscFailed then none
      else
        (zbFreeBuf buf around.pool).map fun t =>
          { s with
            waiting := s.waiting - 1
            handed := s.handed + (scheduled around.pool t).length }
  | (around, .delivered param) =>
      if s.handed = 0 then none
      else do
        let (_, ret) ← zbScheduleCallback .statusIndication param around.pool.cbQ
        let reported := (nwkRouteDiscFailed param s.nib).filterMap fun
          | .statusIndication _ _ addr => some addr
          | _ => none
        let (sched, _) ← zbScheduleAlarmCancel .expiryRouteDisc 0 around.sched
        setAlarm sched around.timer { s with
          handed := s.handed - 1
          alarms := s.alarms - 1
          indicated := match ret with
            | .ok _ => s.indicated ++ reported
            | .error _ => s.indicated }
  | (around, .mesh event) =>
      if event = .expiryRouteDisc then none
      else (eventCalls around.env ⟨s.nib, 1⟩ event).map fun (nib, _) => { s with nib }

/-! ## What is claimed -/

/-- **The aging keeps running**: one alarm is set, or one request is outstanding; and the routes
removed are those reported, but for the one that the request is for. -/
structure Alive (s : Expiry) : Prop where
  running : (s.alarms = 1 ∧ s.requests = 0) ∨ (s.alarms = 0 ∧ s.requests = 1)
  reported : s.removed = s.indicated ++ if s.requests = 0 then [] else [s.nib.statusIndAddr]

/-- The pool takes a request: it has an output buffer and the callback queue has room for it, or an
entry to wait in. -/
def RoomForRequest (pool : ZbBufpool Task) : Prop :=
  if pool.bufsAllocated false < zbBufsLimit ∧ pool.head.isSome then pool.cbQ.isFull = false
  else pool.bufFreelist.isSome

instance (pool : ZbBufpool Task) : Decidable (RoomForRequest pool) :=
  inferInstanceAs (Decidable (if pool.bufsAllocated false < zbBufsLimit ∧ pool.head.isSome then
    pool.cbQ.isFull = false else pool.bufFreelist.isSome))

/-- **The condition**: whatever an event puts somewhere finds room there. -/
def RoomFor (s : Expiry) : Around × ExpiryEvent → Prop
  | (around, .expiry) =>
      if .getBufRouteDiscFailed ∈ (zbNwkMeshExpiryRouteDisc s.nib).2 then RoomForRequest around.pool
      else around.sched.tmFreelist.isSome
  | (around, .freed _) => around.pool.cbQ.isFull = false
  | (around, .delivered _) => around.pool.cbQ.isFull = false ∧ around.sched.tmFreelist.isSome
  | (_, .mesh _) => True

instance (s : Expiry) : (action : Around × ExpiryEvent) → Decidable (RoomFor s action)
  | (around, .expiry) =>
      inferInstanceAs (Decidable (if .getBufRouteDiscFailed ∈ (zbNwkMeshExpiryRouteDisc s.nib).2 then
        RoomForRequest around.pool else around.sched.tmFreelist.isSome))
  | (_, .freed _) => inferInstanceAs (Decidable (_ = _))
  | (_, .delivered _) => inferInstanceAs (Decidable (_ ∧ _))
  | (_, .mesh _) => isTrue trivial

/-! ## The aging -/

section Aging

variable {s t : MeshNib} {calls : List MeshCall} {i : Nat}

theorem removedRoutes_same (same : t.routingTable = s.routingTable) : removedRoutes s t = [] := by
  rw [removedRoutes, same]
  simp

theorem removedRoutes_put (inside : i < zbNwkRoutingTableSize) (on : (s.routingTable i).used = true)
    (put : t.routingTable =
      Function.update s.routingTable i { s.routingTable i with used := false }) :
    removedRoutes s t = [(s.routingTable i).destAddr] := by
  have only : ∀ j, ((s.routingTable j).used && !(t.routingTable j).used) = (j == i) := by
    intro j
    rw [put]
    by_cases here : j = i
    · subst here
      simp [on]
    · rw [Function.update_of_ne here, Bool.and_not_self, beq_eq_false_iff_ne.2 here]
  have single : (List.range zbNwkRoutingTableSize).filter (· == i) = [i] := by
    rw [zbNwkRoutingTableSize] at inside ⊢
    interval_cases i <;> rfl
  rw [removedRoutes, List.filter_congr fun j _ => only j, single]
  rfl

/-- **The aging removes no route and asks for nothing**, or it removes one, leaves its destination
in the global, and asks for a buffer. -/
theorem expireDisc_spec (places : List Nat) (s : MeshNib) :
    ((expireDisc places s).2 = [] ∧ (expireDisc places s).1.routingTable = s.routingTable) ∨
      (expireDisc places s).2 = [.getBufRouteDiscFailed] ∧
        ∃ i < zbNwkRoutingTableSize, (s.routingTable i).used = true ∧
          (expireDisc places s).1.routingTable =
            Function.update s.routingTable i { s.routingTable i with used := false } ∧
          (expireDisc places s).1.statusIndAddr = (s.routingTable i).destAddr := by
  induction places generalizing s with
  | nil => exact .inl ⟨rfl, rfl⟩
  | cons place rest ih =>
      rw [expireDisc]
      dsimp only
      split
      · split
        · exact ih _
        · split
          · rename_i route found
            obtain ⟨inside, on⟩ := findStaleRoute_eq_some found
            exact .inr ⟨rfl, route, inside, on, rfl, rfl⟩
          · exact ih _
      · exact ih _

theorem expiryRouteDisc_spec (s : MeshNib) :
    ((zbNwkMeshExpiryRouteDisc s).2 = [] ∧ removedRoutes s (zbNwkMeshExpiryRouteDisc s).1 = []) ∨
      (zbNwkMeshExpiryRouteDisc s).2 = [.getBufRouteDiscFailed] ∧
        removedRoutes s (zbNwkMeshExpiryRouteDisc s).1 =
          [(zbNwkMeshExpiryRouteDisc s).1.statusIndAddr] := by
  rw [zbNwkMeshExpiryRouteDisc]
  split
  · rcases expireDisc_spec (List.range zbNwkRouteDiscoveryTableSize) s with
      ⟨quiet, same⟩ | ⟨asked, i, inside, on, put, addr⟩
    · exact .inl ⟨quiet, removedRoutes_same same⟩
    · right
      rw [removedRoutes_put inside on put, addr]
      exact ⟨asked, rfl⟩
  · exact .inl ⟨rfl, removedRoutes_same rfl⟩

end Aging

/-! ## The global is left alone -/

section Global

variable {env : MeshEnv} {s t : MeshNib} {calls : List MeshCall} {i : Nat}

theorem routeSought_addr {destAddr : UInt16} (sought : routeSought destAddr s = some (i, t)) :
    t.statusIndAddr = s.statusIndAddr := by
  rw [routeSought] at sought
  split at sought
  · dsimp only at sought
    split at sought <;> cases sought <;> rfl
  · obtain ⟨j, -, is⟩ := Option.map_eq_some_iff.1 sought
    cases is
    rfl

theorem discSought_addr {rreq : RreqFrame} {pathCost : UInt8}
    (sought : discSought rreq pathCost s = .goOn t) : t.statusIndAddr = s.statusIndAddr := by
  rw [discSought] at sought
  split at sought
  · dsimp only at sought
    split at sought <;> cases sought
    rfl
  · split at sought <;> cases sought
    rfl

theorem rreqHandler_addr (env : MeshEnv) (buf : UInt8) (rreq : RreqFrame) (s : MeshNib) :
    (zbNwkMeshRreqHandler env buf rreq s).1.statusIndAddr = s.statusIndAddr := by
  rw [zbNwkMeshRreqHandler]
  split
  · rfl
  · rename_i routing u sought
    have same := routeSought_addr sought
    split
    · rename_i v goOn
      exact (discSought_addr goOn).trans same
    · exact same
    · exact same

theorem routeDiscovery_addr (buf radius seqNum : UInt8) (destAddr macSrc : UInt16) (s : MeshNib) :
    (zbNwkMeshRouteDiscovery env buf destAddr radius macSrc seqNum s).1.statusIndAddr =
      s.statusIndAddr := rreqHandler_addr env buf _ _

theorem sendPending_addr (destAddr : UInt16) (s : MeshNib) :
    (sendPending destAddr s).1.statusIndAddr = s.statusIndAddr := by
  rw [sendPending]
  apply List.foldlRecOn
    (motive := fun done : MeshNib × List MeshCall => done.1.statusIndAddr = s.statusIndAddr)
  · rfl
  · intro done same i _
    rw [sendPend]
    split
    · exact same
    · exact same

theorem rrepHandler_addr (env : MeshEnv) (buf : UInt8) (rrep : RrepFrame) (s : MeshNib) :
    (zbNwkMeshRrepHandler env buf rrep s).1.statusIndAddr = s.statusIndAddr := by
  rw [zbNwkMeshRrepHandler]
  dsimp only
  split
  · split
    · rfl
    · split
      · rw [replyArrived]
        dsimp only
        split
        · exact sendPending_addr _ _
        · exact sendPending_addr _ _
      · rfl
  · rfl
  · rfl
  · rfl

theorem expiryPending_addr (s : MeshNib) :
    (zbNwkMeshExpiryPending s).1.statusIndAddr = s.statusIndAddr := by
  rw [zbNwkMeshExpiryPending]
  split
  · apply List.foldlRecOn
      (motive := fun done : MeshNib × List MeshCall => done.1.statusIndAddr = s.statusIndAddr)
    · rfl
    · intro done same i _
      rw [expirePend]
      split
      · split
        · exact same
        · exact same
      · exact same
  · rfl

theorem calcDestination_addr (env : MeshEnv) (buf handle : UInt8) (pkt : NwkPacket) (s : MeshNib) :
    (nwkCalcDestination env buf handle pkt s).1.statusIndAddr = s.statusIndAddr := by
  have waits : ∀ destAddr underway,
      (waitForRoute buf handle destAddr underway s).1.statusIndAddr = s.statusIndAddr := by
    intro destAddr underway
    rw [waitForRoute]
    split
    · rename_i t added
      obtain ⟨j, -, -, rfl⟩ := addBufToPending_spec added
      rfl
    · rfl
  rw [nwkCalcDestination]
  split
  · rfl
  · split
    · rfl
    · split
      · rfl
      · split
        · split
          · dsimp only
            split
            · rfl
            · rfl
            · exact waits _ _
            · rfl
          · exact waits _ _
        · rfl

/-- **Nothing but the aging writes the global.** -/
theorem eventCalls_addr {requests : Nat} {event : MeshEvent} (other : event ≠ .expiryRouteDisc)
    (called : eventCalls env ⟨s, requests⟩ event = some (t, calls)) :
    t.statusIndAddr = s.statusIndAddr := by
  cases event with
  | forward buf handle pkt granted =>
      cases called
      exact calcDestination_addr env buf handle pkt s
  | rreq buf rreq =>
      have same := rreqHandler_addr env buf rreq s
      rwa [Option.some.inj called] at same
  | rrep buf rrep =>
      have same := rrepHandler_addr env buf rrep s
      rwa [Option.some.inj called] at same
  | nlmeRouteDiscovery buf request macSrc seqNum =>
      have same : (zbNlmeRouteDiscoveryRequest env buf request macSrc seqNum s).1.statusIndAddr =
          s.statusIndAddr := by
        rw [zbNlmeRouteDiscoveryRequest]
        split
        · rfl
        · split
          · rfl
          · split
            · rfl
            · split
              · rfl
              · split
                · exact routeDiscovery_addr _ _ _ _ _ _
                · rfl
      rwa [Option.some.inj called] at same
  | expiryRouteDisc => exact absurd rfl other
  | expiryPending =>
      have same := expiryPending_addr s
      rwa [Option.some.inj called] at same
  | delivered param macSrc seqNum =>
      rw [eventCalls] at called
      split at called
      · cases called
      · obtain ⟨j, -, is⟩ := Option.map_eq_some_iff.1 called
        cases is
        exact routeDiscovery_addr _ _ _ _ _ _

end Global

/-! ## What finds room -/

section Room

variable {pool t : ZbBufpool Task} {sched sched' : ZbSchedGlobals Task} {timer : ZbTime}
  {s u : Expiry}

theorem scheduled_length (pool t : ZbBufpool Task) :
    (scheduled pool t).length = t.cbQ.written - pool.cbQ.written := by
  rw [scheduled, List.length_drop, entries_length, entries_length]

/-- A callback that finds room is put, or the assertion on its parameter is reached. -/
theorem scheduleCallback_room {task : Task} {param : UInt8} {cbQ cbQ' : ZbCbQ Task}
    {ret : Except Common.Types.ZbRet Unit} (room : cbQ.isFull = false)
    (put : zbScheduleCallback task param cbQ = some (cbQ', ret)) :
    ret = .ok () ∧ cbQ'.written = cbQ.written + 1 := by
  rw [zbScheduleCallback, if_neg (Bool.eq_false_iff.1 room)] at put
  split at put
  · cases put
    exact ⟨rfl, rfl⟩
  · cases put

/-- A buffer is given if one is free and the limit is not reached; the callback queue is not touched. -/
theorem getBuf_cases {isIn : Bool} {buf : Option Nat} (got : zbGetBuf isIn pool = some (t, buf)) :
    (buf = none ∧ t = pool ∧ ¬ (pool.bufsAllocated isIn < zbBufsLimit ∧ pool.head.isSome)) ∨
      buf.isSome ∧ t.cbQ = pool.cbQ ∧ pool.bufsAllocated isIn < zbBufsLimit ∧ pool.head.isSome := by
  rw [zbGetBuf] at got
  split at got
  · split at got
    · rename_i below
      split at got
      · rename_i there head
        cases got
        exact .inr ⟨rfl, rfl, below, by rw [head]; rfl⟩
      · rename_i head
        cases got
        exact .inl ⟨rfl, rfl, by simp [head]⟩
    · rename_i above
      cases got
      exact .inl ⟨rfl, rfl, fun free => above free.1⟩
  · cases got

theorem getBufDelayed_room {ret : Except Common.Types.ZbRet Unit} (room : RoomForRequest pool)
    (got : zbGetBufDelayed .routeDiscFailed false pool = some (t, ret)) : ret = .ok () := by
  obtain ⟨⟨pool', buf⟩, taken, rest⟩ := Option.bind_eq_some_iff.1 got
  dsimp only at rest
  rcases getBuf_cases taken with ⟨rfl, rfl, short⟩ | ⟨some_, cbQ, free⟩
  · rw [RoomForRequest, if_neg short] at room
    obtain ⟨ent, spare⟩ := Option.isSome_iff_exists.1 room
    rw [spare] at rest
    cases rest
    rfl
  · rw [RoomForRequest, if_pos free] at room
    obtain ⟨there, rfl⟩ := Option.isSome_iff_exists.1 some_
    obtain ⟨⟨cbQ', ret'⟩, put, is⟩ := Option.bind_eq_some_iff.1 rest
    cases is
    rw [cbQ] at put
    exact (scheduleCallback_room room put).1

/-- **A request that finds room is taken.** -/
theorem request_taken (room : RoomForRequest pool) {request : Request}
    (asked : requestBuf pool = some request) : request ≠ .refused := by
  obtain ⟨⟨t, ret⟩, got, rfl⟩ := Option.map_eq_some_iff.1 asked
  obtain rfl := getBufDelayed_room room got
  show (if _ then Request.waits else Request.handed) ≠ _
  split <;> simp

theorem setAlarm_room (room : sched.tmFreelist.isSome) (set : setAlarm sched timer s = some u) :
    u = { s with alarms := s.alarms + 1 } := by
  obtain ⟨ent, free⟩ := Option.isSome_iff_exists.1 room
  obtain ⟨⟨sched', ret⟩, scheduled, rfl⟩ := Option.map_eq_some_iff.1 set
  rw [zbScheduleAlarm, free] at scheduled
  obtain ⟨⟨links, queue⟩, -, is⟩ := Option.bind_eq_some_iff.1 scheduled
  cases is
  rfl

/-- A cancelled alarm gives its entry back. -/
theorem cancel_free {task : Task} {param : UInt8} {n : Nat} {ent : Option Nat}
    {ret ret' : Except Common.Types.ZbRet Unit} (room : sched.tmFreelist.isSome)
    (cancelled : cancelScan task param n ent ret sched = some (sched', ret')) :
    sched'.tmFreelist.isSome := by
  induction n generalizing ent ret sched with
  | zero =>
      cases ent with
      | none =>
          cases cancelled
          exact room
      | some ent => cases cancelled
  | succ n ih =>
      cases ent with
      | none =>
          cases cancelled
          exact room
      | some ent =>
          rw [cancelScan] at cancelled
          dsimp only at cancelled
          split at cancelled
          · obtain ⟨⟨links, queue⟩, -, rest⟩ := Option.bind_eq_some_iff.1 cancelled
            dsimp only at rest
            split at rest
            · cases rest
              rfl
            · exact ih rfl rest
          · exact ih room cancelled

/-- **A buffer freed while the request is the first to wait goes to it.** -/
theorem freed_handsOver {buf : Nat} (room : pool.cbQ.isFull = false)
    (out : (pool.pool buf).isInBuf ≠ true) (first : (waits false pool).head? = some .routeDiscFailed)
    (freed : zbFreeBuf buf pool = some t) : (scheduled pool t).length = 1 := by
  have out := Bool.eq_false_iff.2 out
  have head : ∃ ent, pool.outbufQueue.head = some ent := by
    rw [← Option.isSome_iff_exists]
    by_contra none_
    rw [Option.not_isSome_iff_eq_none] at none_
    have empty : waits false pool = [] := by
      show (LinkedList.walk _ _ pool.outbufQueue.head).map _ = []
      rw [none_]
      rfl
    rw [empty] at first
    cases first
  obtain ⟨ent, head⟩ := head
  rw [zbFreeBuf] at freed
  dsimp only at freed
  split at freed
  · have kind : ∀ m, ((pushBuf buf { pool with bufsAllocated := m }).pool buf).isInBuf = false := by
      intro m
      simp [pushBuf, out]
    rw [kind] at freed
    have cut : ∀ q : ZbBufpool Task, q.outbufQueue = pool.outbufQueue →
        (cutWaiter false q).1 = some ent ∧ (cutWaiter false q).2.cbQ = q.cbQ := by
      intro q same
      rw [cutWaiter, Bool.false_and, if_neg (by decide)]
      simp [ZbBufpool.queue, ZbBufpool.setQueue, same, zbSlListCutHead, head]
    obtain ⟨some_, cbQ⟩ := cut (pushBuf buf { pool with
      bufsAllocated := Function.update pool.bufsAllocated (pool.pool buf).isInBuf
        (pool.bufsAllocated (pool.pool buf).isInBuf - 1) }) rfl
    split at freed
    · rename_i ent' rest cuts
      rw [cuts] at cbQ
      obtain ⟨⟨q, got⟩, taken, more⟩ := Option.bind_eq_some_iff.1 freed
      dsimp only at more
      obtain ⟨there, given, more⟩ := Option.bind_eq_some_iff.1 more
      obtain ⟨⟨cbQ', ret⟩, put, is⟩ := Option.bind_eq_some_iff.1 more
      cases is
      rw [given] at taken
      rcases getBuf_cases taken with ⟨none_, -⟩ | ⟨-, same, -⟩
      · cases none_
      · have queue : q.cbQ = pool.cbQ := same.trans cbQ
        rw [queue] at put
        rw [scheduled_length, (scheduleCallback_room room put).2]
        exact Nat.add_sub_cancel_left _ _
    · rename_i rest cuts
      rw [cuts] at some_
      cases some_
  · cases freed

end Room

/-! ## The run -/

section Run

variable {s t : Expiry} {around : Around}

theorem alive_init : Alive Expiry.init := ⟨.inl ⟨rfl, rfl⟩, rfl⟩

/-- With the alarm set, nothing is outstanding and everything removed was reported. -/
theorem Alive.of_alarm (alive : Alive s) (set : s.alarms ≠ 0) :
    s.alarms = 1 ∧ s.requests = 0 ∧ s.removed = s.indicated := by
  rcases alive.running with ⟨one, none_⟩ | ⟨zero, -⟩
  · have reported := alive.reported
    rw [if_pos none_, List.append_nil] at reported
    exact ⟨one, none_, reported⟩
  · exact absurd zero set

/-- With a request outstanding, no alarm is set and one route is to be reported. -/
theorem Alive.of_request (alive : Alive s) (asked : s.requests ≠ 0) :
    s.alarms = 0 ∧ s.waiting + s.handed = 1 ∧ s.removed = s.indicated ++ [s.nib.statusIndAddr] := by
  rcases alive.running with ⟨-, none_⟩ | ⟨zero, one⟩
  · exact absurd none_ asked
  · have reported := alive.reported
    rw [if_neg asked] at reported
    exact ⟨zero, one, reported⟩

theorem alive_expiry (alive : Alive s) (room : RoomFor s (around, .expiry))
    (taken : expiryStep s (around, .expiry) = some t) : Alive t := by
  rw [expiryStep] at taken
  split at taken
  · cases taken
  · rename_i set
    obtain ⟨one, none_, reported⟩ := alive.of_alarm set
    rw [Expiry.requests] at none_
    rw [RoomFor] at room
    dsimp only at taken
    rcases expiryRouteDisc_spec s.nib with ⟨quiet, kept⟩ | ⟨asked, gone⟩
    · rw [if_neg (by rw [quiet]; exact List.not_mem_nil)] at taken room
      cases setAlarm_room room taken
      constructor
      case running => exact .inl ⟨by show s.alarms - 1 + 1 = 1; omega, none_⟩
      case reported =>
        show s.removed ++ removedRoutes s.nib _ = s.indicated ++ if s.waiting + s.handed = 0 then [] else _
        rw [kept, if_pos none_, reported]
    · have mem : MeshCall.getBufRouteDiscFailed ∈ (zbNwkMeshExpiryRouteDisc s.nib).2 := by
        rw [asked]
        exact List.mem_singleton_self _
      rw [if_pos mem] at taken room
      obtain ⟨request, outcome, rfl⟩ := Option.map_eq_some_iff.1 taken
      cases request with
      | refused => exact absurd rfl (request_taken room outcome)
      | handed =>
          constructor
          case running =>
            exact .inr ⟨by show s.alarms - 1 = 0; omega, by show s.waiting + (s.handed + 1) = 1; omega⟩
          case reported =>
            show s.removed ++ removedRoutes s.nib _ =
              s.indicated ++ if s.waiting + (s.handed + 1) = 0 then [] else _
            rw [gone, if_neg (by omega), reported]
      | waits =>
          constructor
          case running =>
            exact .inr ⟨by show s.alarms - 1 = 0; omega, by show s.waiting + 1 + s.handed = 1; omega⟩
          case reported =>
            show s.removed ++ removedRoutes s.nib _ =
              s.indicated ++ if s.waiting + 1 + s.handed = 0 then [] else _
            rw [gone, if_neg (by omega), reported]

theorem alive_freed {buf : Nat} (alive : Alive s) (room : RoomFor s (around, .freed buf))
    (taken : expiryStep s (around, .freed buf) = some t) : Alive t := by
  rw [expiryStep] at taken
  split at taken
  · cases taken
  · rename_i could
    simp only [not_or, not_not] at could
    obtain ⟨waits, out, first⟩ := could
    obtain ⟨pool, freed, rfl⟩ := Option.map_eq_some_iff.1 taken
    have one := freed_handsOver room out first freed
    obtain ⟨zero, total, reported⟩ := alive.of_request (by rw [Expiry.requests]; omega)
    constructor
    case running =>
      refine .inr ⟨zero, ?_⟩
      show s.waiting - 1 + (s.handed + _) = 1
      rw [one]
      omega
    case reported =>
      show s.removed = s.indicated ++ if s.waiting - 1 + (s.handed + _) = 0 then [] else _
      rw [one, if_neg (by omega)]
      exact reported

theorem alive_delivered {param : UInt8} (alive : Alive s) (room : RoomFor s (around, .delivered param))
    (taken : expiryStep s (around, .delivered param) = some t) : Alive t := by
  rw [expiryStep] at taken
  split at taken
  · cases taken
  · rename_i handed
    obtain ⟨⟨cbQ, ret⟩, put, rest⟩ := Option.bind_eq_some_iff.1 taken
    dsimp only at rest
    obtain ⟨⟨sched, ret'⟩, cancelled, set⟩ := Option.bind_eq_some_iff.1 rest
    obtain ⟨rfl, -⟩ := scheduleCallback_room room.1 put
    cases setAlarm_room (cancel_free room.2 cancelled) set
    obtain ⟨zero, total, reported⟩ := alive.of_request (by rw [Expiry.requests]; omega)
    have none_ : s.waiting + (s.handed - 1) = 0 := by omega
    constructor
    case running => exact .inl ⟨by show s.alarms - 1 + 1 = 1; omega, none_⟩
    case reported =>
      show s.removed = s.indicated ++ [s.nib.statusIndAddr] ++
        if s.waiting + (s.handed - 1) = 0 then [] else _
      rw [if_pos none_, List.append_nil]
      exact reported

theorem alive_step {action : Around × ExpiryEvent} (alive : Alive s) (room : RoomFor s action)
    (taken : expiryStep s action = some t) : Alive t := by
  obtain ⟨around, event⟩ := action
  cases event with
  | expiry => exact alive_expiry alive room taken
  | freed buf => exact alive_freed alive room taken
  | delivered param => exact alive_delivered alive room taken
  | mesh event =>
      rw [expiryStep] at taken
      split at taken
      · cases taken
      · rename_i other
        obtain ⟨⟨nib, calls⟩, called, rfl⟩ := Option.map_eq_some_iff.1 taken
        have reported := alive.reported
        rw [← eventCalls_addr other called] at reported
        exact ⟨alive.running, reported⟩

/-- **The aging keeps running** in every state of a run whose steps find room. -/
theorem alive_run {actions : List (Around × ExpiryEvent)}
    (room : Along expiryStep RoomFor Expiry.init actions)
    (ran : run expiryStep Expiry.init actions = some s) : Alive s :=
  run_invariant (fun _ _ _ alive room taken => alive_step alive room taken) alive_init room ran

end Run

/-! ## Poles -/

section Poles

/-- A router that knows no neighbour. -/
def poleEnv : MeshEnv where
  networkAddress := 0x0003
  deviceType := zbNwkDeviceTypeRouter
  maxDepth := 5
  nwkReportConstantCost := true
  useTreeRouting := false
  parentAddr := none
  neighborLqi := fun _ => none
  treeHop := fun _ => none

def freshPool : ZbBufpool Task := schedInitBufs (zbInitBuffers (.zero .statusIndication))

/-- Nobody asks for anything. -/
def quiet : Around := ⟨poleEnv, freshPool, zbSchedInit (.zero .statusIndication), 0⟩

/-- All output buffers are taken, and others wait in every entry. -/
def crowded : Around :=
  { quiet with
    pool := (run bufStep freshPool (List.replicate zbBufsLimit .getOut ++
      List.replicate zbBufQSize (.getOutDelayed (.other 0)))).getD freshPool }

/-- APS asks for a route, and no reply comes until the discovery expires. -/
def unanswered (last : Around) : List (Around × ExpiryEvent) :=
  (quiet, .mesh (.nlmeRouteDiscovery 1 ⟨zbAddr16bitDevOrBroadcast, 0x0009, 5⟩ 0x0003 1)) ::
    (List.replicate 10 (quiet, .expiry) ++ [(last, .expiry)])

/-- The rest of the device refuses the request, or is quiet until the buffer is delivered. -/
theorem unanswered_runs :
    ((run expiryStep Expiry.init (unanswered crowded)).any fun s =>
      decide (s.alarms = 0 ∧ s.requests = 0 ∧ s.removed = [0x0009] ∧ s.indicated = [])) = true ∧
    ((run expiryStep Expiry.init (unanswered quiet ++ [(quiet, .delivered 1)])).any fun s =>
      decide (s.removed = [0x0009])) = true ∧
    Along expiryStep RoomFor Expiry.init (unanswered quiet ++ [(quiet, .delivered 1)]) := by
  decide +kernel

/-- **The aging stops**: the request is refused, no alarm is set, and the route removed is not
reported. -/
theorem aging_stops :
    ¬ ∀ actions s, run expiryStep Expiry.init actions = some s → Alive s := by
  intro all
  obtain ⟨s, ran, is⟩ := (Option.any_eq_true _ _).1 unanswered_runs.1
  obtain ⟨noAlarm, noRequest, -, -⟩ := of_decide_eq_true is
  rcases (all _ s ran).running with ⟨one, -⟩ | ⟨-, one⟩
  · rw [noAlarm] at one
    cases one
  · rw [noRequest] at one
    cases one

theorem alive_reported :
    ∃ s, run expiryStep Expiry.init (unanswered quiet ++ [(quiet, .delivered 1)]) = some s ∧
      s.removed = [0x0009] ∧ Alive s := by
  obtain ⟨s, ran, is⟩ := (Option.any_eq_true _ _).1 unanswered_runs.2.1
  exact ⟨s, ran, of_decide_eq_true is, alive_run unanswered_runs.2.2 ran⟩

end Poles

end Zboss.Nwk.DiscoveryExpiry
