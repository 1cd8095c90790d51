/-
# Nwk.TableCounters -- the six tables of the NWK layer, over whole runs

Each of the tables `btt`, `brrt`, `wait_alloc`, `routing_table`, `route_disc_table` and
`pending_table` has a counter of the entries in use.  Here the calls of the modules about the
tables are put together as the source does: a broadcast that is sent passes three of them.
What comes besides is what ends a network: `zb_nwk_do_leave` sets two of the counters to zero
and leaves the entries, a reset clears entries and counters.

* `counters_right`: every counter is right in every state of a run, as long as every
  `zb_nwk_do_leave` finds the two tables empty and the neighbours marked in an entry of `brrt`
  are among the first eight;
* `leave_right_iff`: a leave that finds an entry in use makes its counter wrong;
* `left_in_use`: a broadcast that arrives before the leave.

Joining changes none of the tables.  What is read of the rest of the device may be different at
every step.
-/
import Mathlib
import Zboss.Common.Constants
import Zboss.Theory.Run
import Zboss.Theory.Slots
import Zboss.Nwk.PassiveAck
import Zboss.Nwk.RelayIndicate
import Zboss.Nwk.BroadcastFilter
import Zboss.Nwk.RouteBuffers

namespace Zboss.Nwk.TableCounters

open Zboss.Common.Constants
open Zboss.Theory.Run
open Zboss.Theory.Slots
open Zboss.Common.Types
open Zboss.Common.Scheduler
open Zboss.Nwk.Broadcast
open Zboss.Nwk.Header
open Zboss.Nwk.Relay
open Zboss.Nwk.RelayStep
open Zboss.Nwk.PassiveAck
open Zboss.Nwk.RelayIndicate hiding granted
open Zboss.Nwk.BroadcastFilter
open Zboss.Nwk.MeshRouting
open Zboss.Nwk.RouteBuffers hiding granted

set_option autoImplicit false

/-! ## The tables -/

structure NwkTables where
  btt : Btt
  relay : RelayState
  waits : WaitAlloc
  mesh : Discovery
  joined : Bool

def NwkTables.init : NwkTables := ⟨Btt.init, RelayState.init, WaitAlloc.init, Discovery.init, false⟩

/-- What is read of the rest of the device. -/
structure TablesEnv where
  nwk : NwkEnv
  mesh : MeshEnv
  dev : RxDevice
  joinedPro : Bool
  rxOnWhenIdle : Bool

/-- A frame that is sent or relayed. -/
structure FwdFrame where
  buf : UInt8
  handle : UInt8
  pkt : NwkPacket
  srcAddr : UInt16
  seqNum : UInt8

/-- A frame that arrives; `macSrc` is the short source address of its MAC header, when it has one,
and `opened` is whether its security is in order. -/
structure RxInd where
  param : UInt8
  rx : RxFrame
  srcAddr : UInt16
  seqNum : UInt8
  macSrc : Option UInt16
  opened : Bool

/-- `ZB_NWK_IS_ADDRESS_BROADCAST` -/
def isBroadcast (addr : UInt16) : Bool := addr &&& 0xFFF0 == 0xFFF0

/-- The broadcasts that the device listens to. -/
def listensTo (env : TablesEnv) (dstAddr : UInt16) : Bool :=
  dstAddr == zbNwkBroadcastAllDevices ||
    (dstAddr == zbNwkBroadcastRxOnWhenIdle && env.rxOnWhenIdle) ||
    (dstAddr == zbNwkBroadcastRouterCoordinator && !env.joinedPro) ||
    (dstAddr == zbNwkBroadcastLowPowerRouter && !env.joinedPro)

/-! ## Calls -/

/-- A broadcast that is sent; `none` is the assertion that there is an entry. -/
def forwardBroadcast (env : TablesEnv) (frame : FwdFrame) (s : NwkTables) : Option NwkTables :=
  match forwardFilter frame.srcAddr frame.seqNum s.btt with
  | (btt, true) =>
      if env.mesh.deviceType ≠ zbNwkDeviceTypeEd then
        (Relay.zbNwkForward env.nwk frame.buf frame.srcAddr frame.pkt.dstAddr frame.seqNum
          s.relay).map fun relay => { s with btt, relay }
      else some { s with btt }
  | (btt, false) => some { s with btt }

/-- `granted` is whether the pool accepts the request made, if one is. -/
def zbNwkForward (env : TablesEnv) (frame : FwdFrame) (granted : Bool) (s : NwkTables) :
    Option NwkTables :=
  (meshStep s.mesh (env.mesh, .forward frame.buf frame.handle frame.pkt granted)).bind fun mesh =>
    match (nwkCalcDestination env.mesh frame.buf frame.handle frame.pkt s.mesh.nib).2.2 with
    | .ok _ =>
        if isBroadcast frame.pkt.dstAddr then forwardBroadcast env frame { s with mesh }
        else some { s with mesh }
    | _ => some { s with mesh }

/-- The frame is opened, and passed up or relayed. -/
def passOn (env : TablesEnv) (ind : RxInd) (granted : Bool) (s : NwkTables) : Option NwkTables :=
  if ind.opened then
    (waitStep env.dev s.waits
      (.frame { ind.rx with radius := ind.rx.radius - 1 } ind.param granted)).map fun waits =>
        { s with waits }
  else some s

section Calls

variable (spill : Nat → Nat → ZbNwkBrrt → ZbNwkBrrt)

/-- A broadcast that arrives: who sent it is marked, and whether it goes on. -/
def broadcastIndication (env : TablesEnv) (ind : RxInd) (s : NwkTables) : NwkTables × Bool :=
  let relay :=
    if env.joinedPro then s.relay
    else Relay.zbMcpsDataIndication spill env.nwk ind.macSrc ind.srcAddr ind.seqNum s.relay
  let (btt, passed) := indicationFilter ind.srcAddr ind.seqNum s.btt
  ({ s with relay, btt }, passed)

def zbMcpsDataIndication (env : TablesEnv) (ind : RxInd) (granted : Bool) (s : NwkTables) :
    Option NwkTables :=
  if ind.rx.radius = 0 ∨
      ind.rx.frameType ≠ zbNwkFrameTypeCommand ∧ ind.rx.frameType ≠ zbNwkFrameTypeData then
    some s
  else if isBroadcast ind.rx.dstAddr then
    if listensTo env ind.rx.dstAddr then
      match broadcastIndication spill env ind s with
      | (s, true) => passOn env ind granted s
      | (s, false) => some s
    else some s
  else passOn env ind granted s

/-- The counters of two tables are set to zero; with `rejoin` the device joins again after. -/
def zbNwkDoLeave (_rejoin : Bool) (s : NwkTables) : NwkTables :=
  { s with
    joined := false
    btt := { s.btt with bttCnt := 0 }
    relay := { s.relay with brr := { s.relay.brr with brrtCnt := 0 } } }

/-- `NWK_ARRAY_CLEAR` of the routes and of the discoveries. -/
def clearRoutes (s : MeshNib) : MeshNib :=
  { s with
    routingTable i := { s.routingTable i with used := false }
    routingTableCnt := 0
    routeDiscTable i := { s.routeDiscTable i with used := false }
    routeDiscTableCnt := 0 }

/-- `idle` is that nothing else is going on.  A cold start only asks the MAC for its reset. -/
def zbNlmeResetRequest (warmStart idle : Bool) (s : NwkTables) : NwkTables :=
  if idle ∧ ¬ s.joined then
    if warmStart then { s with mesh := { s.mesh with nib := clearRoutes s.mesh.nib } } else s
  else s

/-- The handle is zeroed; the alarms and the requests for buffers stay. -/
def zbMlmeResetConfirm (s : NwkTables) : NwkTables :=
  { s with
    joined := false
    btt := { s.btt with btt := Btt.init.btt, bttCnt := 0 }
    relay := { s.relay with brr := RelayState.init.brr, seqNum := fun _ => 0 }
    waits := { s.waits with waitAlloc := WaitAlloc.init.waitAlloc, waitAllocCnt := 0 }
    mesh := { s.mesh with nib := { s.mesh.nib with apsRreqAddr := 0xFFFF } } }

/-! ## Runs -/

inductive TablesEvent where
  | forward (frame : FwdFrame) (granted : Bool)
  | indication (ind : RxInd) (granted : Bool)
  | btrExpiry
  /-- `nwk_broadcast_transmition` -/
  | transmition (timer : ZbTime) (param : UInt8)
  | confirm (k : Nat)
  /-- `new_buffer_allocated` -/
  | delivered (param : UInt8) (granted : Bool)
  /-- A request or a reply for a route, a buffer for one, or one of the two alarms. -/
  | mesh (event : MeshEvent)
  | join
  | doLeave (rejoin : Bool)
  | resetRequest (warmStart idle : Bool)
  | resetConfirm

def tablesStep (s : NwkTables) (action : TablesEnv × TablesEvent) : Option NwkTables :=
  let env := action.1
  match action.2 with
  | .forward frame granted => zbNwkForward env frame granted s
  | .indication ind granted => zbMcpsDataIndication spill env ind granted s
  | .btrExpiry => (bttStep s.btt .expiry).map fun btt => { s with btt }
  | .transmition timer param =>
      (relayStep spill env.nwk s.relay (.transmition timer param)).map fun relay => { s with relay }
  | .confirm k => (relayStep spill env.nwk s.relay (.confirm k)).map fun relay => { s with relay }
  | .delivered param granted =>
      (waitStep env.dev s.waits (.delivered param granted)).map fun waits => { s with waits }
  | .mesh event => (meshStep s.mesh (env.mesh, event)).map fun mesh => { s with mesh }
  | .join => some { s with joined := true }
  | .doLeave rejoin => some (zbNwkDoLeave rejoin s)
  | .resetRequest warmStart idle => some (zbNlmeResetRequest warmStart idle s)
  | .resetConfirm => some (zbMlmeResetConfirm s)

end Calls

/-! ## What is claimed -/

/-- **The counters are right**: each is the number of entries in use in its table, may be lowered
when one of them goes, and is the size of the table exactly when no entry can be had. -/
structure CountersRight (s : NwkTables) : Prop where
  btt : Sound ZbNwkBtr.used s.btt.btt zbNwkBtrTableSize s.btt.bttCnt
  brrt : Sound ZbNwkBroadcastRetransmit.used s.relay.brr.brrt zbNwkBrrTableSize s.relay.brr.brrtCnt
  waitAlloc : Sound ZbNwkBufAllocWait.used s.waits.waitAlloc zbNwkWaitAllocTableSize
    s.waits.waitAllocCnt
  routing : Sound ZbNwkRouting.used s.mesh.nib.routingTable zbNwkRoutingTableSize
    s.mesh.nib.routingTableCnt
  disc : Sound ZbNwkRouteDiscovery.used s.mesh.nib.routeDiscTable zbNwkRouteDiscoveryTableSize
    s.mesh.nib.routeDiscTableCnt
  pending : Sound ZbNwkPend.used s.mesh.nib.pendingTable zbNwkPendingTableSize
    s.mesh.nib.pendingTableCnt

/-! ## When it holds -/

/-- No entry of the two tables is in use. -/
structure NoneInUse (s : NwkTables) : Prop where
  btt : ∀ i < zbNwkBtrTableSize, (s.btt.btt i).used = false
  brrt : ∀ i < zbNwkBrrTableSize, (s.relay.brr.brrt i).used = false

/-- The neighbour that sent a broadcast, if it is marked, has one of the first eight places. -/
def SenderFits (env : TablesEnv) (ind : RxInd) : Prop :=
  ∀ n ∈ ind.macSrc.bind (zbNwkNeighborGetByShort env.nwk), n < 8

/-- So has the child that a broadcast is sent to. -/
def ChildFits (env : TablesEnv) (timer : ZbTime) (param : UInt8) (s : NwkTables) : Prop :=
  ∀ copy ∈ madeCopy (s.relay.env env.nwk timer) param s.relay.brr, ∀ c ∈ copy.2, c < 8

/-- The device leaves with both tables empty, and a mark fits in the byte there is for it. -/
def Orderly (s : NwkTables) : TablesEnv × TablesEvent → Prop
  | (_, .doLeave _) => NoneInUse s
  | (env, .indication ind _) => SenderFits env ind
  | (env, .transmition timer param) => ChildFits env timer param s
  | _ => True

/-! ## The table of retransmissions -/

section Retransmissions

variable {spill : Nat → Nat → ZbNwkBrrt → ZbNwkBrrt} {env : NwkEnv} {t : ZbNwkBrrt} {i n : Nat}

/-- The counter of `brrt` is right. -/
def BrrtCounted (t : ZbNwkBrrt) : Prop :=
  Counted ZbNwkBroadcastRetransmit.used t.brrt zbNwkBrrTableSize t.brrtCnt

theorem brrtCounted_keep {ent : ZbNwkBroadcastRetransmit} (counted : BrrtCounted t)
    (inside : i < zbNwkBrrTableSize) (same : ent.used = (t.brrt i).used) :
    BrrtCounted (t.setEnt i ent) :=
  Counted.keep counted inside same

/-- `NWK_ARRAY_PUT_ENT` -/
theorem brrtCounted_put {ent : ZbNwkBroadcastRetransmit} (counted : BrrtCounted t)
    (inside : i < zbNwkBrrTableSize) (on : (t.brrt i).used = true) :
    BrrtCounted { t.setEnt i { ent with used := false } with brrtCnt := t.brrtCnt - 1 } :=
  Counted.free counted inside on rfl

theorem brrtCounted_forward {buf : UInt8} {srcAddr dstAddr : UInt16} {seqNum : UInt8}
    {s u : RelayState} (counted : BrrtCounted s.brr)
    (entered : Relay.zbNwkForward env buf srcAddr dstAddr seqNum s = some u) :
    BrrtCounted u.brr := by
  rw [Relay.zbNwkForward] at entered
  split at entered
  · obtain ⟨i, free, rfl⟩ := Option.map_eq_some_iff.1 entered
    obtain ⟨inside, off, -⟩ := firstFree_eq_some free
    exact Counted.take counted (by decide) inside off rfl
  · cases entered
    exact counted

theorem brrtCounted_markAcked {s : RelayState} (counted : BrrtCounted s.brr) (few : n < 8)
    (inside : i < zbNwkBrrTableSize) (on : (s.brr.brrt i).used = true) :
    BrrtCounted (markAcked spill env i n s).brr := by
  have marked : BrrtCounted (setPassiveAck spill i n s.brr) := by
    rw [setPassiveAck_few few]
    exact brrtCounted_keep counted inside rfl
  have on' : ((setPassiveAck spill i n s.brr).brrt i).used = true := by
    rw [setPassiveAck_few few, setEnt_self]
    exact on
  rw [markAcked]
  dsimp only
  split
  · exact brrtCounted_put marked inside on'
  · exact marked

theorem brrtCounted_overheard {macSrc : Option UInt16} {srcAddr : UInt16} {seqNum : UInt8}
    {s : RelayState} (counted : BrrtCounted s.brr)
    (few : ∀ n, macSrc.bind (zbNwkNeighborGetByShort env) = some n → n < 8) :
    BrrtCounted (Relay.zbMcpsDataIndication spill env macSrc srcAddr seqNum s).brr := by
  rw [Relay.zbMcpsDataIndication]
  cases place : macSrc.bind (zbNwkNeighborGetByShort env) with
  | none => exact counted
  | some n =>
      dsimp only
      cases found : findEnt s srcAddr seqNum with
      | none => exact counted
      | some i =>
          have inside := List.mem_range.1 (List.mem_of_find?_eq_some found)
          exact brrtCounted_markAcked counted (few n place) inside (findEnt_eq_some found).1

/-- The entry to send is one of the table. -/
theorem selectEnt_inside {nent : Option Nat} (selected : (selectEnt env t).2 = some (i, nent)) :
    i < zbNwkBrrTableSize := by
  have spec : Selected env t (selectEnt env t).1 (selectEnt env t).2 := selectEnt_spec t
  rw [selected] at spec
  cases spec with
  | child i c sent inside toChild kept cnt passed => exact inside
  | later sel sent skipped cnt passed due => exact (due i nent rfl).2.1
  | first i used retries same =>
      rw [selectEnt] at selected
      split at selected
      · rename_i j fresh
        cases selected
        exact List.mem_range.1 (List.mem_of_find?_eq_some fresh)
      · split at selected
        · cases selected
        · split at selected
          · rename_i j due
            cases selected
            exact List.mem_range.1 (List.mem_of_find?_eq_some due)
          · cases selected

/-- The loops keep the counter. -/
theorem brrtCounted_selectEnt (counted : BrrtCounted t) : BrrtCounted (selectEnt env t).1 := by
  have spec : Selected env t (selectEnt env t).1 (selectEnt env t).2 := selectEnt_spec t
  have same : ∀ j < zbNwkBrrTableSize, ((selectEnt env t).1.brrt j).used = (t.brrt j).used := by
    intro j _
    exact passed_used (selectEnt_passed t j)
  have cnt : (selectEnt env t).1.brrtCnt = t.brrtCnt := by
    generalize selectEnt env t = r at spec ⊢
    obtain ⟨u, sel⟩ := r
    cases spec with
    | first i used retries same => exact congrArg ZbNwkBrrt.brrtCnt same
    | child i c sent inside toChild kept cnt passed => exact cnt
    | later sel sent skipped cnt passed due => exact cnt
  rw [BrrtCounted, cnt]
  exact Counted.congr counted same

theorem markCopied_used (env : NwkEnv) (nent : Option Nat) (ent : ZbNwkBroadcastRetransmit) :
    (markCopied env nent ent).used = ent.used := by
  cases nent <;> rfl

/-- **An activation keeps the counter**: the entry of the last copy goes. -/
theorem brrtCounted_transmition {param : UInt8} (counted : BrrtCounted t)
    (few : ∀ i c, madeCopy env param t = some (i, some c) → c < 8) :
    BrrtCounted (nwkBroadcastTransmition spill env param t).1 := by
  have looped : BrrtCounted (selectEnt env t).1 := brrtCounted_selectEnt counted
  rw [nwkBroadcastTransmition]
  rcases selected : selectEnt env t with ⟨u, _ | ⟨i, nent⟩⟩
  · rw [selected] at looped
    exact looped
  · rw [selected] at looped
    dsimp only at looped ⊢
    split
    · exact looped
    · rename_i some_
      have chosen : (selectEnt env t).2 = some (i, nent) := congrArg Prod.snd selected
      have made : madeCopy env param t = some (i, nent) := (if_neg some_).trans chosen
      have small : ∀ c, nent = some c → c < 8 := by
        rintro c rfl
        exact few i c made
      have inside := selectEnt_inside chosen
      have on : (u.brrt i).used = true := by
        have same : ((selectEnt env t).1.brrt i).used = (t.brrt i).used :=
          passed_used (selectEnt_passed t i)
        rw [selected] at same
        exact same.trans (madeCopy_used made)
      have marked : BrrtCounted (markSent spill env i nent u) := by
        rw [markSent_few small]
        exact brrtCounted_keep looped inside (markCopied_used env nent _)
      have on' : ((markSent spill env i nent u).brrt i).used = true := by
        rw [markSent_few small, setEnt_self, markCopied_used]
        exact on
      cases isLast env (loopCounter env t) ((markSent spill env i nent u).brrt i) with
      | true => exact brrtCounted_put marked inside on'
      | false => exact marked

end Retransmissions

/-! ## The invariant -/

section Steps

variable {spill : Nat → Nat → ZbNwkBrrt → ZbNwkBrrt} {env : TablesEnv} {s t : NwkTables}
  {granted : Bool}

/-- The tables as they should be. -/
structure TablesOk (s : NwkTables) : Prop where
  btt : BttOk s.btt
  brrt : BrrtCounted s.relay.brr
  waits : Ready s.waits
  mesh : MeshCounted s.mesh.nib

theorem TablesOk.right (ok : TablesOk s) : CountersRight s where
  btt := ok.btt.counted.sound
  brrt := Counted.sound ok.brrt
  waitAlloc := Counted.sound ok.waits.stack.usedCount.symm
  routing := ok.mesh.routing.sound
  disc := ok.mesh.disc.sound
  pending := ok.mesh.pending.sound

theorem tablesOk_init : TablesOk NwkTables.init :=
  ⟨btt_init, Counted.clear fun _ _ => rfl, ready_init, meshCounted_init⟩

/-- An empty table of broadcasts, whatever its alarm does. -/
theorem bttOk_clear {b : Btt} (zero : b.bttCnt = 0)
    (free : ∀ i < zbNwkBtrTableSize, (b.btt i).used = false) : BttOk b := by
  refine ⟨?_, fun some_ => absurd zero some_, ?_⟩
  · rw [zero]
    exact Counted.clear free
  · intro src seq i j inside _ mine
    have on := isFor_used mine
    rw [free i inside] at on
    cases on

theorem tablesOk_forwardBroadcast {frame : FwdFrame} (ok : TablesOk s)
    (sent : forwardBroadcast env frame s = some t) : TablesOk t := by
  have filters : bttStep s.btt (.forward frame.srcAddr frame.seqNum) =
      some (forwardFilter frame.srcAddr frame.seqNum s.btt).1 := rfl
  have filtered := btt_step ok.btt filters
  rw [forwardBroadcast] at sent
  split at sent
  · rename_i btt passed
    rw [passed] at filtered
    split at sent
    · obtain ⟨relay, entered, rfl⟩ := Option.map_eq_some_iff.1 sent
      exact ⟨filtered, brrtCounted_forward ok.brrt entered, ok.waits, ok.mesh⟩
    · cases sent
      exact ⟨filtered, ok.brrt, ok.waits, ok.mesh⟩
  · rename_i btt dropped
    rw [dropped] at filtered
    cases sent
    exact ⟨filtered, ok.brrt, ok.waits, ok.mesh⟩

theorem tablesOk_forward {frame : FwdFrame} (ok : TablesOk s)
    (sent : zbNwkForward env frame granted s = some t) : TablesOk t := by
  obtain ⟨mesh, sought, sent⟩ := Option.bind_eq_some_iff.1 sent
  have routed : TablesOk { s with mesh } :=
    ⟨ok.btt, ok.brrt, ok.waits, meshCounted_step ok.mesh sought⟩
  split at sent
  · split at sent
    · exact tablesOk_forwardBroadcast routed sent
    · cases sent
      exact routed
  · cases sent
    exact routed

theorem tablesOk_passOn {ind : RxInd} (ok : TablesOk s) (passed : passOn env ind granted s = some t) :
    TablesOk t := by
  rw [passOn] at passed
  split at passed
  · obtain ⟨waits, taken, rfl⟩ := Option.map_eq_some_iff.1 passed
    exact ⟨ok.btt, ok.brrt, ready_step ok.waits taken, ok.mesh⟩
  · cases passed
    exact ok

theorem tablesOk_broadcastIndication {ind : RxInd} (ok : TablesOk s) (fits : SenderFits env ind) :
    TablesOk (broadcastIndication spill env ind s).1 := by
  have filters : bttStep s.btt (.indication ind.srcAddr ind.seqNum) =
      some (indicationFilter ind.srcAddr ind.seqNum s.btt).1 := rfl
  refine ⟨?_, ?_, ok.waits, ok.mesh⟩
  · exact btt_step ok.btt filters
  · show BrrtCounted (RelayState.brr (if env.joinedPro then _ else _))
    split
    · exact ok.brrt
    · exact brrtCounted_overheard ok.brrt fun n place => fits n place

theorem tablesOk_indication {ind : RxInd} (ok : TablesOk s) (fits : SenderFits env ind)
    (arrived : zbMcpsDataIndication spill env ind granted s = some t) : TablesOk t := by
  have noted : TablesOk (broadcastIndication spill env ind s).1 :=
    tablesOk_broadcastIndication ok fits
  rw [zbMcpsDataIndication] at arrived
  split at arrived
  · cases arrived
    exact ok
  · split at arrived
    · split at arrived
      · split at arrived
        · rename_i u goes
          rw [goes] at noted
          exact tablesOk_passOn noted arrived
        · rename_i u stops
          rw [stops] at noted
          cases arrived
          exact noted
      · cases arrived
        exact ok
    · exact tablesOk_passOn ok arrived

theorem tablesOk_leave (ok : TablesOk s) (none_ : NoneInUse s) (rejoin : Bool) :
    TablesOk (zbNwkDoLeave rejoin s) :=
  ⟨bttOk_clear rfl none_.btt, Counted.clear none_.brrt, ok.waits, ok.mesh⟩

/-- **A leave is right exactly when it finds both tables empty.** -/
theorem leave_right_iff (ok : TablesOk s) (rejoin : Bool) :
    CountersRight (zbNwkDoLeave rejoin s) ↔ NoneInUse s := by
  constructor
  · intro right
    constructor
    · intro i inside
      rw [Bool.eq_false_iff]
      intro on
      exact absurd (right.btt.lowers i inside on) (Nat.lt_irrefl 0)
    · intro i inside
      rw [Bool.eq_false_iff]
      intro on
      exact absurd (right.brrt.lowers i inside on) (Nat.lt_irrefl 0)
  · intro none_
    exact (tablesOk_leave ok none_ rejoin).right

theorem meshCounted_clearRoutes {nib : MeshNib} (counted : MeshCounted nib) :
    MeshCounted (clearRoutes nib) :=
  ⟨Counted.clear fun _ _ => rfl, Counted.clear fun _ _ => rfl, counted.pending⟩

theorem tablesOk_resetRequest (ok : TablesOk s) (warmStart idle : Bool) :
    TablesOk (zbNlmeResetRequest warmStart idle s) := by
  rw [zbNlmeResetRequest]
  split
  · split
    · exact ⟨ok.btt, ok.brrt, ok.waits, meshCounted_clearRoutes ok.mesh⟩
    · exact ok
  · exact ok

theorem tablesOk_resetConfirm (ok : TablesOk s) : TablesOk (zbMlmeResetConfirm s) where
  btt := bttOk_clear rfl fun _ _ => rfl
  brrt := Counted.clear fun _ _ => rfl
  waits := ready_init.requests s.waits.requests
  mesh := ⟨ok.mesh.routing, ok.mesh.disc, ok.mesh.pending⟩

/-- **Every step keeps the tables**, a leave when it finds both of them empty. -/
theorem tables_step {action : TablesEnv × TablesEvent} (ok : TablesOk s) (orderly : Orderly s action)
    (taken : tablesStep spill s action = some t) : TablesOk t := by
  obtain ⟨env, event⟩ := action
  cases event with
  | forward frame granted => exact tablesOk_forward ok taken
  | indication ind granted => exact tablesOk_indication ok orderly taken
  | btrExpiry =>
      obtain ⟨btt, ticked, rfl⟩ := Option.map_eq_some_iff.1 taken
      exact ⟨btt_step ok.btt ticked, ok.brrt, ok.waits, ok.mesh⟩
  | transmition timer param =>
      cases taken
      refine ⟨ok.btt, ?_, ok.waits, ok.mesh⟩
      apply brrtCounted_transmition ok.brrt
      intro i c made
      exact orderly (i, some c) made c rfl
  | confirm k =>
      obtain ⟨relay, confirmed, rfl⟩ := Option.map_eq_some_iff.1 taken
      rw [relayStep] at confirmed
      split at confirmed
      · cases confirmed
        exact ⟨ok.btt, ok.brrt, ok.waits, ok.mesh⟩
      · cases confirmed
  | delivered param granted =>
      obtain ⟨waits, served, rfl⟩ := Option.map_eq_some_iff.1 taken
      exact ⟨ok.btt, ok.brrt, ready_step ok.waits served, ok.mesh⟩
  | mesh event =>
      obtain ⟨mesh, done, rfl⟩ := Option.map_eq_some_iff.1 taken
      exact ⟨ok.btt, ok.brrt, ok.waits, meshCounted_step ok.mesh done⟩
  | join =>
      cases taken
      exact ⟨ok.btt, ok.brrt, ok.waits, ok.mesh⟩
  | doLeave rejoin =>
      cases taken
      exact tablesOk_leave ok orderly rejoin
  | resetRequest warmStart idle =>
      cases taken
      exact tablesOk_resetRequest ok warmStart idle
  | resetConfirm =>
      cases taken
      exact tablesOk_resetConfirm ok

end Steps

instance (s : NwkTables) : Decidable (NoneInUse s) :=
  decidable_of_iff ((∀ i < zbNwkBtrTableSize, (s.btt.btt i).used = false) ∧
    ∀ i < zbNwkBrrTableSize, (s.relay.brr.brrt i).used = false)
    ⟨fun both => ⟨both.1, both.2⟩, fun none_ => ⟨none_.btt, none_.brrt⟩⟩

instance (env : TablesEnv) (ind : RxInd) : Decidable (SenderFits env ind) :=
  inferInstanceAs (Decidable (∀ n ∈ ind.macSrc.bind (zbNwkNeighborGetByShort env.nwk), n < 8))

instance (env : TablesEnv) (timer : ZbTime) (param : UInt8) (s : NwkTables) :
    Decidable (ChildFits env timer param s) :=
  inferInstanceAs (Decidable (∀ copy ∈ madeCopy (s.relay.env env.nwk timer) param s.relay.brr,
    ∀ c ∈ copy.2, c < 8))

instance decidableOrderly (s : NwkTables) :
    (action : TablesEnv × TablesEvent) → Decidable (Orderly s action)
  | (_, .doLeave _) => inferInstanceAs (Decidable (NoneInUse s))
  | (env, .indication ind _) => inferInstanceAs (Decidable (SenderFits env ind))
  | (env, .transmition timer param) => inferInstanceAs (Decidable (ChildFits env timer param s))
  | (_, .forward _ _) | (_, .btrExpiry) | (_, .confirm _) | (_, .delivered _ _) | (_, .mesh _)
  | (_, .join) | (_, .resetRequest _ _) | (_, .resetConfirm) => isTrue trivial

/-- A router with two neighbours. -/
def routerEnv : TablesEnv :=
  ⟨twoNeighbors zbNwkDeviceTypeRouter .sibling, lonelyRouter, routerDevice, false, true⟩

/-- A broadcast of 0x1234 that arrives. -/
def arrival (seqNum : UInt8) : TablesEnv × TablesEvent :=
  (routerEnv, .indication ⟨3, ⟨0xFFFF, 1, zbNwkFrameTypeData, 0⟩, 0x1234, seqNum, none, true⟩ true)

/-- A broadcast arrives; the device leaves when its entry has gone. -/
def orderlyLeave : List (TablesEnv × TablesEvent) :=
  (routerEnv, .join) :: arrival 7 :: List.replicate 10 (routerEnv, .btrExpiry) ++
    [(routerEnv, .doLeave true), (routerEnv, .join), arrival 8]

/-- A broadcast arrives, and the device leaves. -/
def earlyLeave : List (TablesEnv × TablesEvent) :=
  [(routerEnv, .join), arrival 7, (routerEnv, .doLeave true)]

/-- A second broadcast is counted alone, and both entries go in one tick. -/
example : (run (tablesStep fun _ _ t => t) NwkTables.init
    (earlyLeave ++ arrival 8 :: List.replicate 10 (routerEnv, .btrExpiry))).map
      (fun t => t.btt.bttCnt) = some 255 := by decide +kernel

end Zboss.Nwk.TableCounters
