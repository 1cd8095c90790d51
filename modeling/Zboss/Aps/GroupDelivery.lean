/-
# Aps.GroupDelivery -- every accepted group packet goes up to its whole group

The machine of `Aps.GroupUp` over all of its runs.  `PacketsOk` is about the packets,
`PendingOk` about the callbacks that wait: the work of passing up is pending at most once,
and only while there is a packet; a local copy is waited for at most once for each packet
of the device itself.  Neither needs anything of the environment.  What was passed up of the
packet at work (`PassedOk`), and that the work is pending (`Waiting`), do: a refused request
is lost.

* `group_fifo`: in every run packets leave in the order in which they were accepted, each
  once, and no callback meets an empty queue or a missing packet;
* `group_delivery`: where no request of the work is refused, a packet is freed when one copy
  of it has gone up for each endpoint of its group, and until then the work goes on.
-/
import Mathlib
import Zboss.Aps.GroupUp

namespace Zboss.Aps.GroupDelivery

open Zboss.Common.RingBuffer
open Zboss.Theory.Run
open Zboss.Aps.ApsFrame
open Zboss.Aps.GroupTable
open Zboss.Aps.GroupUp

set_option autoImplicit false

/-! ## The work that waits -/

section Pending

variable {s : GroupState} {func : Func}

theorem scheduleCallback_eq (job : Job) (s : GroupState) :
    ∃ cbQ room, scheduleCallback job s = { s with cbQ, room } := by
  unfold scheduleCallback
  split
  · exact ⟨_, _, rfl⟩
  · exact ⟨s.cbQ, s.room, rfl⟩

theorem zbGetInBufDelayed_eq (func : Func) (s : GroupState) :
    ∃ cbQ inbufQueue room, zbGetInBufDelayed func s = { s with cbQ, inbufQueue, room } := by
  unfold zbGetInBufDelayed
  cases s.room.inBuf with
  | some param =>
      obtain ⟨cbQ, room, eq⟩ :=
        scheduleCallback_eq (func.job param) { s with room := { s.room with inBuf := none } }
      exact ⟨cbQ, s.inbufQueue, room, eq⟩
  | none =>
      dsimp only
      split
      · exact ⟨s.cbQ, _, _, rfl⟩
      · exact ⟨s.cbQ, s.inbufQueue, s.room, rfl⟩

@[simp] theorem scheduleCallback_activePassUpBuf (job : Job) (s : GroupState) :
    (scheduleCallback job s).activePassUpBuf = s.activePassUpBuf := by
  obtain ⟨cbQ, room, eq⟩ := scheduleCallback_eq job s
  rw [eq]

@[simp] theorem scheduleCallback_localDupQ (job : Job) (s : GroupState) :
    (scheduleCallback job s).localDupQ = s.localDupQ := by
  obtain ⟨cbQ, room, eq⟩ := scheduleCallback_eq job s
  rw [eq]

@[simp] theorem zbGetInBufDelayed_activePassUpBuf (func : Func) (s : GroupState) :
    (zbGetInBufDelayed func s).activePassUpBuf = s.activePassUpBuf := by
  obtain ⟨cbQ, inbufQueue, room, eq⟩ := zbGetInBufDelayed_eq func s
  rw [eq]

@[simp] theorem zbGetInBufDelayed_localDupQ (func : Func) (s : GroupState) :
    (zbGetInBufDelayed func s).localDupQ = s.localDupQ := by
  obtain ⟨cbQ, inbufQueue, room, eq⟩ := zbGetInBufDelayed_eq func s
  rw [eq]

theorem pending_scheduleCallback (func : Func) (job : Job) (s : GroupState) :
    pending func (scheduleCallback job s) =
      pending func s + if 0 < s.room.cbQ ∧ job.func = some func then 1 else 0 := by
  unfold scheduleCallback pending
  split
  · next room =>
      rw [List.countP_append, List.countP_singleton]
      by_cases asks : job.func = some func
      · simp only [asks, BEq.rfl, if_true, room, and_self]
        omega
      · simp only [beq_iff_eq, asks, if_false, and_false]
        omega
  · next full => simp only [full, false_and, if_false, Nat.add_zero]

theorem func_job (func : Func) (param : UInt8) : (func.job param).func = some func := by
  cases func with
  | passLocalGroupPktUp => rfl
  | passGroupMsgUp => rfl

/-- A request that is not refused is pending from then on. -/
theorem pending_zbGetInBufDelayed (func asked : Func) (s : GroupState) :
    pending func (zbGetInBufDelayed asked s) =
      pending func s + if s.room.grants 0 = true ∧ asked = func then 1 else 0 := by
  unfold zbGetInBufDelayed Room.grants
  cases s.room.inBuf with
  | some param =>
      dsimp only
      rw [pending_scheduleCallback, func_job]
      simp only [Option.some.injEq, decide_eq_true_eq]
      rfl
  | none =>
      dsimp only
      split
      · next spare =>
          unfold pending
          rw [List.count_append, List.count_singleton]
          by_cases same : asked = func
          · simp only [same, spare, BEq.rfl, if_true, decide_true, and_self]
            omega
          · simp only [beq_iff_eq, same, if_false, and_false]
            omega
      · next none_ => simp only [none_, decide_false, Bool.false_eq_true, false_and, if_false, Nat.add_zero]

/-- The callback that runs is not pending any more. -/
theorem pending_run {i : Nat} {job : Job} (scheduled : s.cbQ[i]? = some job) :
    pending func s =
      pending func { s with cbQ := s.cbQ.eraseIdx i } +
        if job.func = some func then 1 else 0 := by
  obtain ⟨inside, is⟩ := List.getElem?_eq_some_iff.1 scheduled
  have perm := (List.getElem_cons_eraseIdx_perm inside).countP_eq fun job => job.func == some func
  rw [is, List.countP_cons] at perm
  unfold pending
  rw [← perm]
  simp only [beq_iff_eq]
  omega

end Pending

/-! ## The packets -/

section Packets

variable {nibNetworkAddress : UInt16} {s t : GroupState} {buf : GroupBuf} {param : UInt8}

/-- The packet at work is at a place of its group; those in the ring wait behind it. -/
structure PacketsOk (s : GroupState) : Prop where
  groups : TableOk s.groups
  upQ : RingOk s.passUpQ
  dupQ : RingOk s.localDupQ
  unread : ∀ buf ∈ s.passUpQ.entries, buf.handle = 0
  idle : s.activePassUpBuf = none → s.passUpQ.entries = []
  place : ∀ active, s.activePassUpBuf = some active →
    active.handle.toNat ≤ (endpointsOf s.groups active.hdr.groupAddr).length

/-- The packet at work has been copied for the endpoints before the one it is at. -/
def PassedOk (s : GroupState) : Prop :=
  ∀ active, s.activePassUpBuf = some active →
    s.passed =
      ((endpointsOf s.groups active.hdr.groupAddr).take active.handle.toNat).map (copyFor active)

/-- The packets that are accepted and not freed, as they came. -/
def waits (s : GroupState) : List GroupBuf :=
  (s.activePassUpBuf.toList ++ s.passUpQ.entries).map GroupBuf.unread

theorem packetsOk_init : PacketsOk GroupState.init where
  groups := tableOk_nil
  upQ := ringOk_init _ (by decide)
  dupQ := ringOk_init _ (by decide)
  unread := fun _ mem => absurd mem List.not_mem_nil
  idle := fun _ => rfl
  place := by
    intro active is
    cases is

theorem passedOk_init : PassedOk GroupState.init := by
  intro active is
  cases is

/-- The queues of the scheduler hold no packets. -/
theorem PacketsOk.queues (ok : PacketsOk s) (cbQ : List Job) (inbufQueue : List Func)
    (room : Room) : PacketsOk { s with cbQ, inbufQueue, room } :=
  ⟨ok.groups, ok.upQ, ok.dupQ, ok.unread, ok.idle, ok.place⟩

theorem PacketsOk.scheduleCallback (ok : PacketsOk s) (job : Job) :
    PacketsOk (scheduleCallback job s) := by
  obtain ⟨cbQ, room, eq⟩ := scheduleCallback_eq job s
  rw [eq]
  exact ok.queues _ _ _

theorem PacketsOk.zbGetInBufDelayed (ok : PacketsOk s) (func : Func) :
    PacketsOk (zbGetInBufDelayed func s) := by
  obtain ⟨cbQ, inbufQueue, room, eq⟩ := zbGetInBufDelayed_eq func s
  rw [eq]
  exact ok.queues _ _ _

theorem PassedOk.scheduleCallback (ok : PassedOk s) (job : Job) :
    PassedOk (scheduleCallback job s) := by
  obtain ⟨cbQ, room, eq⟩ := scheduleCallback_eq job s
  rw [eq]
  exact ok

theorem PassedOk.zbGetInBufDelayed (ok : PassedOk s) (func : Func) :
    PassedOk (zbGetInBufDelayed func s) := by
  obtain ⟨cbQ, inbufQueue, room, eq⟩ := zbGetInBufDelayed_eq func s
  rw [eq]
  exact ok

@[simp] theorem waits_scheduleCallback (job : Job) (s : GroupState) :
    waits (scheduleCallback job s) = waits s := by
  obtain ⟨cbQ, room, eq⟩ := scheduleCallback_eq job s
  rw [eq]
  rfl

@[simp] theorem waits_zbGetInBufDelayed (func : Func) (s : GroupState) :
    waits (zbGetInBufDelayed func s) = waits s := by
  obtain ⟨cbQ, inbufQueue, room, eq⟩ := zbGetInBufDelayed_eq func s
  rw [eq]
  rfl

/-- A group that grows does so behind the place of the packet at work. -/
theorem PacketsOk.addGroup (ok : PacketsOk s) (req : ZbApsmeAddGroupReq) :
    PacketsOk { s with groups := (zbApsmeAddGroupRequest req s.groups).1 } where
  groups := ok.groups.add req
  upQ := ok.upQ
  dupQ := ok.dupQ
  unread := ok.unread
  idle := ok.idle
  place := by
    intro active is
    have grown : endpointsOf s.groups active.hdr.groupAddr <+:
        endpointsOf (zbApsmeAddGroupRequest req s.groups).1 active.hdr.groupAddr :=
      endpointsOf_addGroup _
    exact (ok.place active is).trans grown.length_le

theorem PassedOk.addGroup (ok : PacketsOk s) (passed : PassedOk s) (req : ZbApsmeAddGroupReq) :
    PassedOk { s with groups := (zbApsmeAddGroupRequest req s.groups).1 } := by
  intro active is
  have grown : endpointsOf s.groups active.hdr.groupAddr <+:
      endpointsOf (zbApsmeAddGroupRequest req s.groups).1 active.hdr.groupAddr :=
    endpointsOf_addGroup _
  have inside := ok.place active is
  obtain ⟨more, grown⟩ := grown
  show s.passed = _
  rw [passed active is, ← grown, List.take_append_of_le_length inside]

/-! ### Accepting -/

theorem groupDataRequest_packets (ok : PacketsOk s) (buf : GroupBuf) :
    PacketsOk (groupDataRequest buf s) ∧ waits (groupDataRequest buf s) = waits s ∧
      (PassedOk s → PassedOk (groupDataRequest buf s)) := by
  unfold groupDataRequest
  split
  · next room =>
      have put : PacketsOk { s with localDupQ := s.localDupQ.put buf } :=
        ⟨ok.groups, ok.upQ, ringOk_put ok.dupQ room.2.1 buf, ok.unread, ok.idle, ok.place⟩
      refine ⟨put.zbGetInBufDelayed _, waits_zbGetInBufDelayed _ _, fun passed => ?_⟩
      exact PassedOk.zbGetInBufDelayed (s := { s with localDupQ := s.localDupQ.put buf }) passed _
  · exact ⟨ok.scheduleCallback _, waits_scheduleCallback _ _, fun passed => passed.scheduleCallback _⟩

theorem passLocal_packets (ok : PacketsOk s)
    (taken : zbApsPassLocalGroupPktUp nibNetworkAddress param s = some t) :
    PacketsOk t ∧ waits t = waits s ∧ (PassedOk s → PassedOk t) := by
  unfold zbApsPassLocalGroupPktUp at taken
  split at taken
  · cases taken
  · next some_ =>
      have flushed : PacketsOk { s with localDupQ := s.localDupQ.flushGet } :=
        ⟨ok.groups, ok.upQ, ringOk_flushGet ok.dupQ (Bool.eq_false_iff.2 some_), ok.unread,
          ok.idle, ok.place⟩
      obtain rfl := Option.some.inj taken
      refine ⟨(flushed.scheduleCallback _).scheduleCallback _, ?_, fun passed => ?_⟩
      · rw [waits_scheduleCallback, waits_scheduleCallback]
        rfl
      · have kept : PassedOk { s with localDupQ := s.localDupQ.flushGet } := passed
        exact (kept.scheduleCallback _).scheduleCallback _

/-- A packet at the beginning of its group. -/
theorem PacketsOk.start (ok : PacketsOk s) (buf : GroupBuf) (first : buf.handle = 0) :
    PacketsOk { s with activePassUpBuf := some buf, passed := [] } ∧
      PassedOk { s with activePassUpBuf := some buf, passed := [] } := by
  refine ⟨⟨ok.groups, ok.upQ, ok.dupQ, ok.unread, ?_, ?_⟩, ?_⟩
  · intro isNone
    cases isNone
  · intro active is
    obtain rfl := Option.some.inj is
    rw [first]
    exact Nat.zero_le _
  · intro active is
    obtain rfl := Option.some.inj is
    rw [first]
    rfl

theorem passUp_packets (ok : PacketsOk s) (buf : GroupBuf) :
    PacketsOk (zbApsPassUpGroupBuf buf s) ∧
      waits (zbApsPassUpGroupBuf buf s) =
        waits s ++ (if s.passUpQ.isFull then [] else [{ buf with handle := 0 }]) ∧
      (PassedOk s → PassedOk (zbApsPassUpGroupBuf buf s)) := by
  unfold zbApsPassUpGroupBuf
  split
  · exact ⟨ok, (List.append_nil _).symm, id⟩
  · next room =>
      have room : s.passUpQ.isFull = false := Bool.eq_false_iff.2 room
      split
      · next idle =>
          obtain ⟨packets, passed⟩ := ok.start { buf with handle := 0 } rfl
          refine ⟨packets.zbGetInBufDelayed _, ?_, fun _ => passed.zbGetInBufDelayed _⟩
          rw [waits_zbGetInBufDelayed]
          unfold waits
          rw [ok.idle idle, idle]
          rfl
      · next first active =>
          refine ⟨⟨ok.groups, ringOk_put ok.upQ room _, ok.dupQ, ?_, ?_, ok.place⟩, ?_, id⟩
          · intro buf' mem
            rw [entries_put ok.upQ room] at mem
            rcases List.mem_append.1 mem with old | new
            · exact ok.unread buf' old
            · rw [List.mem_singleton.1 new]
          · intro isNone
            rw [active] at isNone
            cases isNone
          · unfold waits
            dsimp only
            rw [entries_put ok.upQ room, ← List.append_assoc, List.map_append]
            rfl

/-! ### Passing up -/

theorem nextEndpoint_none {groups : List ZbApsGroupTableEnt}
    (inside : buf.handle.toNat ≤ (endpointsOf groups buf.hdr.groupAddr).length)
    (done : nextEndpoint groups buf = none) :
    buf.handle.toNat = (endpointsOf groups buf.hdr.groupAddr).length :=
  Nat.le_antisymm inside (List.getElem?_eq_none_iff.1 done)

/-- The packet that is done leaves, and the next one is at the beginning of its group. -/
theorem done_packets {active : GroupBuf} (ok : PacketsOk s) (working : s.activePassUpBuf = some active)
    (done : nextEndpoint s.groups active = none)
    (taken : zbApsPassGroupMsgUp param s = some t) :
    PacketsOk t ∧ waits s = active.unread :: waits t ∧ PassedOk t := by
  simp only [zbApsPassGroupMsgUp, working, done] at taken
  split at taken
  · next last =>
      have empty : s.passUpQ.entries = [] := by
        rw [← List.length_eq_zero_iff, entries_length]
        simpa [ZbRingBuffer.isEmpty] using last
      obtain rfl := Option.some.inj taken
      refine ⟨⟨ok.groups, ok.upQ, ok.dupQ, ok.unread, fun _ => empty, ?_⟩, ?_, ?_⟩
      · intro active is
        cases is
      · unfold waits
        rw [working]
        rfl
      · intro active is
        cases is
  · next more =>
      have more : s.passUpQ.isEmpty = false := Bool.eq_false_iff.2 more
      have split := entries_flushGet more
      have first : s.passUpQ.get.handle = 0 := ok.unread _ (split ▸ List.mem_cons_self)
      obtain rfl := Option.some.inj taken
      refine ⟨?_, ?_, ?_⟩
      · apply PacketsOk.scheduleCallback
        refine ⟨ok.groups, ringOk_flushGet ok.upQ more, ok.dupQ, ?_, ?_, ?_⟩
        · intro buf mem
          exact ok.unread buf (split ▸ List.mem_cons_of_mem _ mem)
        · intro isNone
          cases isNone
        · intro active is
          obtain rfl := Option.some.inj is
          rw [first]
          exact Nat.zero_le _
      · rw [waits_scheduleCallback]
        unfold waits
        rw [working, split]
        rfl
      · apply PassedOk.scheduleCallback
        intro active is
        obtain rfl := Option.some.inj is
        rw [first]
        rfl

/-- The handle counts on; a group has at most eight endpoints. -/
theorem handle_succ {active : GroupBuf} {endpoint : UInt8} (ok : PacketsOk s)
    (at_ : nextEndpoint s.groups active = some endpoint) :
    (active.handle + 1).toNat = active.handle.toNat + 1 ∧
      active.handle.toNat < (endpointsOf s.groups active.hdr.groupAddr).length := by
  have inside : active.handle.toNat < (endpointsOf s.groups active.hdr.groupAddr).length :=
    (List.getElem?_eq_some_iff.1 at_).1
  have bound := (endpointsOf_ok ok.groups.rows active.hdr.groupAddr).2
  have eight : zbApsEndpointsInGroupTable = 8 := rfl
  refine ⟨?_, inside⟩
  rw [UInt8.toNat_add]
  show (active.handle.toNat + 1) % 256 = _
  omega

theorem copy_packets {active : GroupBuf} {endpoint : UInt8} (ok : PacketsOk s)
    (working : s.activePassUpBuf = some active)
    (at_ : nextEndpoint s.groups active = some endpoint)
    (taken : zbApsPassGroupMsgUp param s = some t) :
    PacketsOk t ∧ waits t = waits s ∧ (PassedOk s → 0 < s.room.cbQ → PassedOk t) := by
  obtain ⟨counted, inside⟩ := handle_succ ok at_
  simp only [zbApsPassGroupMsgUp, working, at_] at taken
  obtain rfl := Option.some.inj taken
  refine ⟨?_, ?_, fun passed room => ?_⟩
  · apply PacketsOk.zbGetInBufDelayed
    apply PacketsOk.scheduleCallback
    refine ⟨ok.groups, ok.upQ, ok.dupQ, ok.unread, ?_, ?_⟩
    · intro isNone
      cases isNone
    · intro active' is
      obtain rfl := Option.some.inj is
      dsimp only
      omega
  · rw [waits_zbGetInBufDelayed, waits_scheduleCallback]
    unfold waits
    rw [working]
    rfl
  · apply PassedOk.zbGetInBufDelayed
    apply PassedOk.scheduleCallback
    intro active' is
    obtain rfl := Option.some.inj is
    have last : (endpointsOf s.groups active.hdr.groupAddr)[active.handle.toNat]? = some endpoint := at_
    dsimp only
    rw [if_pos room, passed active working, counted, List.take_add_one, last, List.map_append]
    rfl

end Packets

/-! ## One step -/

/-- The work is pending at most once, and only while there is a packet; a buffer for a local
copy is waited for at most once for each packet it is for. -/
structure PendingOk (s : GroupState) : Prop where
  up : pending .passGroupMsgUp s ≤ s.activePassUpBuf.toList.length
  local_ : pending .passLocalGroupPktUp s ≤ s.localDupQ.entries.length

/-- The work goes on while there is a packet. -/
def Waiting (s : GroupState) : Prop :=
  s.activePassUpBuf.isSome → 0 < pending .passGroupMsgUp s

/-- What is proved of a step. -/
structure Stepped (s : GroupState) (call : Call) (t : GroupState) : Prop where
  packets : PacketsOk t
  pending : PendingOk t
  balance : waits s ++ accepted s call = (finished s call).map GroupBuf.unread ++ waits t
  delivers : PassedOk s → Waiting s → Granted s call →
    PassedOk t ∧ Waiting t ∧ EachEndpointOnce s call

section Step

variable {nibNetworkAddress : UInt16} {s t : GroupState} {i : Nat} {job : Job}

/-- A callback that is not of this work. -/
theorem pending_scheduleOther (other : job.func = none) (func : Func) (s : GroupState) :
    pending func (scheduleCallback job s) = pending func s := by
  rw [pending_scheduleCallback, other]
  simp

/-- A step that frees nothing. -/
theorem eachEndpointOnce_of_none {call : Call} (none_ : finished s call = []) :
    EachEndpointOnce s call := by
  intro buf mem
  rw [none_] at mem
  cases mem

/-- A request for a buffer, as far as the other callback is concerned. -/
theorem pending_zbGetInBufDelayed_ne {func asked : Func} (other : asked ≠ func) (s : GroupState) :
    pending func (zbGetInBufDelayed asked s) = pending func s := by
  rw [pending_zbGetInBufDelayed, if_neg fun both => other both.2, Nat.add_zero]

theorem pending_zbGetInBufDelayed_le (func : Func) (s : GroupState) :
    pending func (zbGetInBufDelayed func s) ≤ pending func s + 1 := by
  rw [pending_zbGetInBufDelayed]
  split <;> omega

theorem pending_scheduleCallback_le (func : Func) (job : Job) (s : GroupState) :
    pending func (scheduleCallback job s) ≤ pending func s + 1 := by
  rw [pending_scheduleCallback]
  split <;> omega

theorem dataRequest_stepped (ok : PacketsOk s) (pend : PendingOk s) (buf : GroupBuf) :
    Stepped s (.dataRequest buf) (groupDataRequest buf s) := by
  obtain ⟨packets, same, passed⟩ := groupDataRequest_packets ok buf
  have balance : waits s ++ [] = [] ++ waits (groupDataRequest buf s) := by
    rw [same]
    exact List.append_nil _
  unfold groupDataRequest at packets passed balance ⊢
  split at packets
  · next room =>
      rw [if_pos room] at passed balance ⊢
      let put : GroupState := { s with localDupQ := s.localDupQ.put buf }
      have up : pending .passGroupMsgUp (zbGetInBufDelayed .passLocalGroupPktUp put) =
          pending .passGroupMsgUp s := pending_zbGetInBufDelayed_ne (by decide) put
      refine ⟨packets, ⟨?_, ?_⟩, balance, fun was waiting _ => ⟨passed was, ?_,
        eachEndpointOnce_of_none rfl⟩⟩
      · rw [up, zbGetInBufDelayed_activePassUpBuf]
        exact pend.up
      · have asked := pending_zbGetInBufDelayed_le .passLocalGroupPktUp put
        have before : pending .passLocalGroupPktUp put ≤ s.localDupQ.entries.length := pend.local_
        have one : put.localDupQ.entries.length = s.localDupQ.entries.length + 1 := by
          rw [entries_put ok.dupQ room.2.1, List.length_append, List.length_singleton]
        rw [zbGetInBufDelayed_localDupQ]
        exact asked.trans (one ▸ Nat.succ_le_succ before)
      · intro working
        rw [up]
        rw [zbGetInBufDelayed_activePassUpBuf] at working
        exact waiting working
  · next none_ =>
      rw [if_neg none_] at passed balance ⊢
      have kept : ∀ func, pending func (scheduleCallback (.nldeDataRequest buf.ref) s) =
          pending func s := fun func => pending_scheduleOther rfl func s
      refine ⟨packets, ⟨?_, ?_⟩, balance, fun was waiting _ => ⟨passed was, ?_,
        eachEndpointOnce_of_none rfl⟩⟩
      · rw [kept, scheduleCallback_activePassUpBuf]
        exact pend.up
      · rw [kept, scheduleCallback_localDupQ]
        exact pend.local_
      · intro working
        rw [kept]
        rw [scheduleCallback_activePassUpBuf] at working
        exact waiting working

/-- The callback that is run. -/
def started (s : GroupState) (i : Nat) : GroupState := { s with cbQ := s.cbQ.eraseIdx i }

theorem PacketsOk.started (ok : PacketsOk s) (i : Nat) : PacketsOk (started s i) :=
  ok.queues _ _ _

/-- A buffer that comes goes to the first who waits. -/
theorem bufFreed_stepped (ok : PacketsOk s) (pend : PendingOk s) (param : UInt8)
    (taken : groupStep nibNetworkAddress s (.bufFreed param) = some t) :
    Stepped s (.bufFreed param) t := by
  simp only [groupStep] at taken
  split at taken
  · cases taken
  · next func rest waiting_ =>
      obtain rfl := Option.some.inj taken
      let freed : GroupState := { s with
        inbufQueue := rest
        room := { s.room with delayedEnts := s.room.delayedEnts + 1 } }
      have count : ∀ f, pending f s = pending f freed + if func = f then 1 else 0 := by
        intro f
        unfold pending
        rw [waiting_, List.count_cons]
        simp only [beq_iff_eq, freed]
        omega
      have after : ∀ f, pending f (scheduleCallback (func.job param) freed) =
          pending f freed + if 0 < s.room.cbQ ∧ func = f then 1 else 0 := by
        intro f
        rw [pending_scheduleCallback, func_job]
        simp only [Option.some.injEq]
        rfl
      have fewer : ∀ f, pending f (scheduleCallback (func.job param) freed) ≤ pending f s := by
        intro f
        rw [after, count]
        by_cases own : func = f
        · simp only [own, and_true, if_true]
          split <;> omega
        · simp [own]
      have packets : PacketsOk freed := ok.queues _ _ _
      refine ⟨packets.scheduleCallback _, ⟨?_, ?_⟩, ?_, fun was waiting room => ⟨?_, ?_,
        eachEndpointOnce_of_none rfl⟩⟩
      · rw [scheduleCallback_activePassUpBuf]
        exact (fewer _).trans pend.up
      · rw [scheduleCallback_localDupQ]
        exact (fewer _).trans pend.local_
      · rw [waits_scheduleCallback]
        exact List.append_nil _
      · have kept : PassedOk freed := was
        exact kept.scheduleCallback _
      · intro working
        rw [scheduleCallback_activePassUpBuf] at working
        have before := waiting working
        rw [count] at before
        rw [after]
        by_cases own : func = .passGroupMsgUp
        · have space : 0 < s.room.cbQ := by
            simpa [Granted, granted, waiting_, own] using room
          rw [if_pos ⟨space, own⟩]
          omega
        · rw [if_neg own] at before
          omega

/-- The packet of the device itself goes to NWK, and its copy up. -/
theorem passLocal_stepped {param : UInt8} (ok : PacketsOk s) (pend : PendingOk s)
    (scheduled : s.cbQ[i]? = some (.passLocalGroupPktUp param)) :
    ∃ t, zbApsPassLocalGroupPktUp nibNetworkAddress param (started s i) = some t ∧
      Stepped s (.run i) t := by
  have one : pending .passLocalGroupPktUp s = pending .passLocalGroupPktUp (started s i) + 1 :=
    pending_run scheduled
  have up : pending .passGroupMsgUp s = pending .passGroupMsgUp (started s i) := pending_run scheduled
  have waits_ := pend.local_
  have queued : s.localDupQ.isEmpty = false := by
    have length : s.localDupQ.written ≠ 0 := by
      rw [← entries_length]
      omega
    simpa [ZbRingBuffer.isEmpty] using length
  have fewer : s.localDupQ.entries.length = s.localDupQ.flushGet.entries.length + 1 := by
    rw [entries_flushGet queued, List.length_cons]
  have nothing : accepted s (.run i) = [] ∧ finished s (.run i) = [] := by
    simp only [accepted, finished, scheduled, and_self]
  obtain ⟨t, taken⟩ : ∃ t, zbApsPassLocalGroupPktUp nibNetworkAddress param (started s i) = some t := by
    refine ⟨_, if_neg ?_⟩
    show ¬ s.localDupQ.isEmpty = true
    rw [queued]
    decide
  refine ⟨t, taken, ?_⟩
  obtain ⟨packets, same, passed⟩ := passLocal_packets (ok.started i) taken
  have shape : t.activePassUpBuf = s.activePassUpBuf ∧ t.localDupQ = s.localDupQ.flushGet ∧
      ∀ f, pending f t = pending f (started s i) := by
    unfold zbApsPassLocalGroupPktUp at taken
    split at taken
    · cases taken
    · obtain rfl := Option.some.inj taken
      refine ⟨?_, ?_, fun f => ?_⟩
      · rw [scheduleCallback_activePassUpBuf, scheduleCallback_activePassUpBuf]
        rfl
      · rw [scheduleCallback_localDupQ, scheduleCallback_localDupQ]
        rfl
      · rw [pending_scheduleOther rfl, pending_scheduleOther rfl]
        rfl
  obtain ⟨active, flushed, kept⟩ := shape
  refine ⟨packets, ⟨?_, ?_⟩, ?_, fun was waiting _ => ⟨passed was, ?_,
    eachEndpointOnce_of_none nothing.2⟩⟩
  · rw [kept, ← up, active]
    exact pend.up
  · rw [kept, flushed]
    omega
  · rw [nothing.1, nothing.2, same]
    exact List.append_nil _
  · intro working
    rw [kept, ← up]
    rw [active] at working
    exact waiting working

theorem grants_of_passUp {buf : GroupBuf} (scheduled : s.cbQ[i]? = some (.passUpGroupBuf buf))
    (idle : s.activePassUpBuf = none) (space : s.passUpQ.isFull = false)
    (room : Granted s (.run i)) : s.room.grants 0 = true := by
  simpa [Granted, granted, scheduled, idle, space] using room

/-- A packet is accepted. -/
theorem passUp_stepped {buf : GroupBuf} (ok : PacketsOk s) (pend : PendingOk s)
    (scheduled : s.cbQ[i]? = some (.passUpGroupBuf buf)) :
    Stepped s (.run i) (zbApsPassUpGroupBuf buf (started s i)) := by
  have same : ∀ f, pending f s = pending f (started s i) := fun f => pending_run scheduled
  have accepts : accepted s (.run i) =
      if s.passUpQ.isFull then [] else [{ buf with handle := 0 }] := by
    simp only [accepted, scheduled]
  have nothing : finished s (.run i) = [] := by
    simp only [finished, scheduled]
  obtain ⟨packets, waits_, passed⟩ := passUp_packets (ok.started i) buf
  have balance : waits s ++ accepted s (.run i) =
      (finished s (.run i)).map GroupBuf.unread ++ waits (zbApsPassUpGroupBuf buf (started s i)) := by
    rw [waits_, accepts, nothing]
    rfl
  have up := pend.up
  have local_ := pend.local_
  rw [same] at up local_
  refine ⟨packets, ?_, balance, fun was waiting room => ⟨passed was, ?_,
    eachEndpointOnce_of_none nothing⟩⟩
  · unfold zbApsPassUpGroupBuf
    split
    · exact ⟨up, local_⟩
    · split
      · next idle =>
          have idle : s.activePassUpBuf = none := idle
          rw [idle] at up
          refine ⟨?_, ?_⟩
          · rw [zbGetInBufDelayed_activePassUpBuf]
            exact (pending_zbGetInBufDelayed_le _ _).trans (Nat.succ_le_succ up)
          · rw [pending_zbGetInBufDelayed_ne (by decide), zbGetInBufDelayed_localDupQ]
            exact local_
      · exact ⟨up, local_⟩
  · unfold Waiting at waiting
    rw [same] at waiting
    unfold zbApsPassUpGroupBuf
    split
    · exact waiting
    · next space =>
        split
        · next idle =>
            have asked := grants_of_passUp scheduled idle (Bool.eq_false_iff.2 space) room
            intro _
            rw [pending_zbGetInBufDelayed, if_pos ⟨asked, rfl⟩]
            exact Nat.succ_pos _
        · exact waiting

/-- The packet that is done has been passed to its whole group. -/
theorem eachEndpointOnce_done {active : GroupBuf} (ok : PacketsOk s) (passed : PassedOk s)
    (working : s.activePassUpBuf = some active) (done : nextEndpoint s.groups active = none)
    {call : Call} (leaves : finished s call = [active]) : EachEndpointOnce s call := by
  intro buf mem
  rw [leaves, List.mem_singleton] at mem
  subst mem
  have all := nextEndpoint_none (ok.place buf working) done
  refine ⟨?_, (endpointsOf_ok ok.groups.rows _).1⟩
  rw [passed buf working, all, List.take_length]

/-- The end of the packet at work. -/
theorem done_stepped {param : UInt8} {active : GroupBuf} (ok : PacketsOk s) (pend : PendingOk s)
    (scheduled : s.cbQ[i]? = some (.passGroupMsgUp param))
    (working : s.activePassUpBuf = some active) (done : nextEndpoint s.groups active = none)
    (last : pending .passGroupMsgUp (started s i) = 0) :
    ∃ t, zbApsPassGroupMsgUp param (started s i) = some t ∧ Stepped s (.run i) t := by
  have local_ := pend.local_
  have same : pending .passLocalGroupPktUp s = pending .passLocalGroupPktUp (started s i) :=
    pending_run scheduled
  have nothing : accepted s (.run i) = [] := by
    simp only [accepted, scheduled]
  have leaves : finished s (.run i) = [active] := by
    simp only [finished, scheduled, working, done, if_true]
  have work : (started s i).activePassUpBuf = some active := working
  have over_ : nextEndpoint (started s i).groups active = none := done
  obtain ⟨t, taken⟩ : ∃ t, zbApsPassGroupMsgUp param (started s i) = some t := by
    simp only [zbApsPassGroupMsgUp, work, over_]
    split
    · exact ⟨_, rfl⟩
    · exact ⟨_, rfl⟩
  obtain ⟨packets, rest, passed⟩ := done_packets (ok.started i) work over_ taken
  have balance : waits s ++ accepted s (.run i) =
      (finished s (.run i)).map GroupBuf.unread ++ waits t := by
    rw [nothing, leaves, List.append_nil]
    exact rest
  refine ⟨t, taken, ?_⟩
  simp only [zbApsPassGroupMsgUp, work, over_] at taken
  split at taken
  · obtain rfl := Option.some.inj taken
    refine ⟨packets, ⟨last.le, same ▸ local_⟩, balance, fun was _ _ => ⟨passed, ?_,
      eachEndpointOnce_done ok was working done leaves⟩⟩
    intro working
    cases working
  · next more =>
      obtain rfl := Option.some.inj taken
      refine ⟨packets, ⟨?_, ?_⟩, balance, fun was _ room => ⟨passed, ?_,
        eachEndpointOnce_done ok was working done leaves⟩⟩
      · rw [scheduleCallback_activePassUpBuf]
        refine (pending_scheduleCallback_le _ _ _).trans ?_
        exact Nat.succ_le_succ last.le
      · have plain : (Job.passGroupMsgUp param).func ≠ some .passLocalGroupPktUp := by
          intro other
          cases other
        rw [pending_scheduleCallback, if_neg fun both => plain both.2, scheduleCallback_localDupQ]
        exact same ▸ local_
      · have more : s.passUpQ.isEmpty = false := Bool.eq_false_iff.2 more
        have space : 0 < s.room.cbQ := by
          simpa [Granted, granted, scheduled, working, done, more] using room
        intro _
        rw [pending_scheduleCallback, if_pos ⟨space, rfl⟩]
        exact Nat.succ_pos _

/-- A callback that was scheduled has taken its place. -/
theorem grants_scheduled (job : Job) (space : 0 < s.room.cbQ) :
    (scheduleCallback job s).room.grants 0 = s.room.grants 1 := by
  have fewer : 0 < s.room.cbQ - 1 ↔ 1 < s.room.cbQ := by omega
  unfold scheduleCallback Room.grants
  rw [if_pos space]
  dsimp only
  cases s.room.inBuf with
  | some param => exact decide_eq_decide.2 fewer
  | none => rfl

/-- **One endpoint of the packet at work.** -/
theorem copy_stepped {param : UInt8} {active : GroupBuf} {endpoint : UInt8} (ok : PacketsOk s)
    (pend : PendingOk s) (scheduled : s.cbQ[i]? = some (.passGroupMsgUp param))
    (working : s.activePassUpBuf = some active)
    (at_ : nextEndpoint s.groups active = some endpoint)
    (last : pending .passGroupMsgUp (started s i) = 0) :
    ∃ t, zbApsPassGroupMsgUp param (started s i) = some t ∧ Stepped s (.run i) t := by
  have local_ := pend.local_
  have same : pending .passLocalGroupPktUp s = pending .passLocalGroupPktUp (started s i) :=
    pending_run scheduled
  have nothing : accepted s (.run i) = [] ∧ finished s (.run i) = [] := by
    simp [accepted, finished, scheduled, working, at_]
  have work : (started s i).activePassUpBuf = some active := working
  have place : nextEndpoint (started s i).groups active = some endpoint := at_
  let copied : GroupState := { started s i with
    activePassUpBuf := some { active with handle := active.handle + 1 }
    passed := if 0 < s.room.cbQ then s.passed ++ [copyFor active endpoint] else s.passed }
  let indication : Job := .apsdeDataIndication
    ⟨param, (copyFor active endpoint).1, (copyFor active endpoint).2, 0⟩
  have taken : zbApsPassGroupMsgUp param (started s i) =
      some (zbGetInBufDelayed .passGroupMsgUp (scheduleCallback indication copied)) := by
    simp only [zbApsPassGroupMsgUp, work, place]
    rfl
  have none_ : pending .passGroupMsgUp (scheduleCallback indication copied) = 0 := by
    rw [pending_scheduleOther rfl]
    exact last
  obtain ⟨packets, rest, passed⟩ := copy_packets (ok.started i) work place taken
  refine ⟨_, taken, packets, ⟨?_, ?_⟩, ?_, fun was _ room => ?_⟩
  · rw [zbGetInBufDelayed_activePassUpBuf, scheduleCallback_activePassUpBuf]
    refine (pending_zbGetInBufDelayed_le _ _).trans ?_
    exact Nat.succ_le_succ none_.le
  · rw [pending_zbGetInBufDelayed_ne (by decide), pending_scheduleOther rfl,
      zbGetInBufDelayed_localDupQ, scheduleCallback_localDupQ]
    exact same ▸ local_
  · rw [nothing.1, nothing.2, rest]
    exact List.append_nil _
  · obtain ⟨space, grants⟩ : 0 < s.room.cbQ ∧ s.room.grants 1 = true := by
      simpa [Granted, granted, scheduled, working, at_] using room
    refine ⟨passed was space, ?_, eachEndpointOnce_of_none nothing.2⟩
    intro _
    have asked : (scheduleCallback indication copied).room.grants 0 = true := by
      rw [grants_scheduled indication (show 0 < copied.room.cbQ from space)]
      exact grants
    rw [pending_zbGetInBufDelayed, if_pos ⟨asked, rfl⟩]
    exact Nat.succ_pos _

/-- The work of passing up. -/
theorem passMsgUp_stepped {param : UInt8} (ok : PacketsOk s) (pend : PendingOk s)
    (scheduled : s.cbQ[i]? = some (.passGroupMsgUp param)) :
    ∃ t, zbApsPassGroupMsgUp param (started s i) = some t ∧ Stepped s (.run i) t := by
  have one : pending .passGroupMsgUp s = pending .passGroupMsgUp (started s i) + 1 :=
    pending_run scheduled
  have up := pend.up
  rw [one] at up
  cases working : s.activePassUpBuf with
  | none =>
      rw [working] at up
      exact absurd up (Nat.not_succ_le_zero _)
  | some active =>
      rw [working] at up
      have last : pending .passGroupMsgUp (started s i) = 0 :=
        Nat.le_zero.1 (Nat.le_of_succ_le_succ up)
      cases at_ : nextEndpoint s.groups active with
      | none => exact done_stepped ok pend scheduled working at_ last
      | some endpoint => exact copy_stepped ok pend scheduled working at_ last

/-- A call that touches neither packets nor callbacks of this work. -/
theorem quiet_stepped {call : Call} (packets : PacketsOk t) (pend : PendingOk s)
    (active : t.activePassUpBuf = s.activePassUpBuf) (dup : t.localDupQ = s.localDupQ)
    (same : ∀ f, pending f t = pending f s) (balance : waits t = waits s)
    (nothing : accepted s call = [] ∧ finished s call = [])
    (passed : PassedOk s → PassedOk t) : Stepped s call t := by
  refine ⟨packets, ⟨?_, ?_⟩, ?_, fun was waiting _ => ⟨passed was, ?_,
    eachEndpointOnce_of_none nothing.2⟩⟩
  · rw [same, active]
    exact pend.up
  · rw [same, dup]
    exact pend.local_
  · rw [nothing.1, nothing.2, balance]
    exact List.append_nil _
  · intro working
    rw [same]
    rw [active] at working
    exact waiting working

theorem indication_stepped (ok : PacketsOk s) (pend : PendingOk s) {call : Call} (other : job.func = none)
    (nothing : accepted s call = [] ∧ finished s call = []) :
    Stepped s call (scheduleCallback job s) :=
  quiet_stepped (ok.scheduleCallback _) pend (scheduleCallback_activePassUpBuf _ _)
    (scheduleCallback_localDupQ _ _) (fun f => pending_scheduleOther other f s)
    (waits_scheduleCallback _ _) nothing fun passed => passed.scheduleCallback _

/-- A callback of another layer leaves the queue. -/
theorem other_stepped (ok : PacketsOk s) (pend : PendingOk s) (scheduled : s.cbQ[i]? = some job)
    (other : job.func = none)
    (nothing : accepted s (.run i) = [] ∧ finished s (.run i) = []) :
    Stepped s (.run i) (started s i) := by
  refine quiet_stepped (ok.started i) pend rfl rfl (fun f => ?_) rfl nothing id
  have one := @pending_run s f i job scheduled
  rw [other, if_neg (by simp), Nat.add_zero] at one
  exact one.symm

/-- **Every callback of the work can run.** -/
theorem run_stepped (nibNetworkAddress : UInt16) (ok : PacketsOk s) (pend : PendingOk s)
    (scheduled : s.cbQ[i]? = some job) :
    ∃ t, groupStep nibNetworkAddress s (.run i) = some t ∧ Stepped s (.run i) t := by
  simp only [groupStep, scheduled]
  cases job with
  | passLocalGroupPktUp param => exact passLocal_stepped ok pend scheduled
  | passUpGroupBuf buf => exact ⟨_, rfl, passUp_stepped ok pend scheduled⟩
  | passGroupMsgUp param => exact passMsgUp_stepped ok pend scheduled
  | apsdeDataIndication buf =>
      exact ⟨_, rfl, other_stepped ok pend scheduled rfl (by simp [accepted, finished, scheduled])⟩
  | nldeDataRequest ref =>
      exact ⟨_, rfl, other_stepped ok pend scheduled rfl (by simp [accepted, finished, scheduled])⟩

theorem groupStep_stepped {call : Call} (ok : PacketsOk s) (pend : PendingOk s)
    (taken : groupStep nibNetworkAddress s call = some t) : Stepped s call t := by
  cases call with
  | others room =>
      obtain rfl := Option.some.inj taken
      exact quiet_stepped (ok.queues _ _ _) pend rfl rfl (fun _ => rfl) rfl ⟨rfl, rfl⟩ id
  | addGroup req =>
      obtain rfl := Option.some.inj taken
      exact quiet_stepped (ok.addGroup req) pend rfl rfl (fun _ => rfl) rfl ⟨rfl, rfl⟩
        fun passed => passed.addGroup ok req
  | dataRequest buf =>
      obtain rfl := Option.some.inj taken
      exact dataRequest_stepped ok pend buf
  | dataIndication buf =>
      obtain rfl := Option.some.inj taken
      exact indication_stepped ok pend rfl ⟨rfl, rfl⟩
  | bufFreed param => exact bufFreed_stepped ok pend param taken
  | run i =>
      cases scheduled : s.cbQ[i]? with
      | none => simp [groupStep, scheduled] at taken
      | some job =>
          obtain ⟨t', taken', stepped⟩ := run_stepped nibNetworkAddress ok pend scheduled
          obtain rfl := Option.some.inj (taken.symm.trans taken')
          exact stepped

end Step

/-! ## Every run -/

section Runs

variable {nibNetworkAddress : UInt16} {calls : List Call} {s : GroupState}

/-- What holds between two calls. -/
structure Between (s : GroupState) : Prop where
  packets : PacketsOk s
  pending : PendingOk s

theorem between_init : Between GroupState.init :=
  ⟨packetsOk_init, ⟨Nat.zero_le _, Nat.zero_le _⟩⟩

theorem Between.step {call : Call} {t : GroupState} (ok : Between s)
    (taken : groupStep nibNetworkAddress s call = some t) : Between t :=
  let stepped := groupStep_stepped ok.packets ok.pending taken
  ⟨stepped.packets, stepped.pending⟩

/-- A packet for a group of two: received, copied for each endpoint, freed. -/
def twoEndpoints : List Call :=
  [.others ⟨16, none, 8⟩, .addGroup ⟨7, 1⟩, .addGroup ⟨7, 2⟩,
    .dataIndication { emptyBuf with hdr := { emptyBuf.hdr with groupAddr := 7 }, data := [42] },
    .run 0, .bufFreed 5, .run 0, .bufFreed 6, .run 1, .bufFreed 8, .run 2]

/-- **First in, first out**: in every run, whatever is refused, the packets that were
accepted are those that were freed, in the same order and each once, followed by those that
still wait; and every scheduled callback can run. -/
theorem group_fifo (ran : run (groupStep nibNetworkAddress) GroupState.init calls = some s) :
    trace (groupStep nibNetworkAddress) accepted GroupState.init calls =
        (trace (groupStep nibNetworkAddress) finished GroupState.init calls).map GroupBuf.unread ++
          waits s ∧
      ∀ i, i < s.cbQ.length → (groupStep nibNetworkAddress s (.run i)).isSome := by
  have keeps : ∀ s call t, Between s → groupStep nibNetworkAddress s call = some t → Between t :=
    fun s call t ok taken => ok.step taken
  constructor
  · rw [map_trace]
    exact trace_balance_of_step keeps
      (fun s call t ok taken => (groupStep_stepped ok.packets ok.pending taken).balance) between_init ran
  · intro i inside
    have ok : Between s := run_invariant_of_step keeps between_init ran
    obtain ⟨t, taken, -⟩ := run_stepped nibNetworkAddress ok.packets ok.pending
      (List.getElem?_eq_getElem inside)
    rw [taken]
    rfl

theorem group_fifo_two :
    ∃ s, run (groupStep 0) GroupState.init twoEndpoints = some s ∧
      trace (groupStep 0) accepted GroupState.init twoEndpoints =
        (trace (groupStep 0) finished GroupState.init twoEndpoints).map GroupBuf.unread ++ waits s := by
  obtain ⟨s, ran⟩ := Option.isSome_iff_exists.1
    (by decide : (run (groupStep 0) GroupState.init twoEndpoints).isSome = true)
  exact ⟨s, ran, (group_fifo ran).1⟩

/-- **Group delivery**: in every run in which no request of this work is refused, each packet
that is freed has gone up once for every endpoint its group has, and as long as a packet is
at work, its next call waits for a buffer or is scheduled. -/
theorem group_delivery
    (granted : Along (groupStep nibNetworkAddress) Granted GroupState.init calls) :
    Along (groupStep nibNetworkAddress) EachEndpointOnce GroupState.init calls ∧
      ∀ s, run (groupStep nibNetworkAddress) GroupState.init calls = some s → Waiting s := by
  have keeps : ∀ s call t, (Between s ∧ PassedOk s ∧ Waiting s) → Granted s call →
      groupStep nibNetworkAddress s call = some t → Between t ∧ PassedOk t ∧ Waiting t := by
    intro s call t ok room taken
    obtain ⟨between, passed, waiting⟩ := ok
    have stepped := groupStep_stepped between.packets between.pending taken
    obtain ⟨passed', waiting', -⟩ := stepped.delivers passed waiting room
    exact ⟨between.step taken, passed', waiting'⟩
  have start : Between GroupState.init ∧ PassedOk GroupState.init ∧ Waiting GroupState.init := by
    refine ⟨between_init, passedOk_init, ?_⟩
    intro working
    cases working
  refine ⟨along_of_invariant keeps ?_ start granted, fun s ran =>
    (run_invariant keeps start granted ran).2.2⟩
  intro s call ok room
  obtain ⟨between, passed, waiting⟩ := ok
  cases call with
  | run i =>
      cases scheduled : s.cbQ[i]? with
      | none => exact eachEndpointOnce_of_none (by simp [finished, scheduled])
      | some job =>
          obtain ⟨t, -, stepped⟩ := run_stepped nibNetworkAddress between.packets between.pending
            scheduled
          exact (stepped.delivers passed waiting room).2.2
  | others room => exact eachEndpointOnce_of_none rfl
  | addGroup req => exact eachEndpointOnce_of_none rfl
  | dataRequest buf => exact eachEndpointOnce_of_none rfl
  | dataIndication buf => exact eachEndpointOnce_of_none rfl
  | bufFreed param => exact eachEndpointOnce_of_none rfl

theorem group_delivery_two :
    Along (groupStep 0) EachEndpointOnce GroupState.init twoEndpoints ∧
      (trace (groupStep 0) finished GroupState.init twoEndpoints).map (·.handle) = [2] :=
  ⟨(@group_delivery 0 twoEndpoints (by decide)).1, by decide⟩

end Runs

end Zboss.Aps.GroupDelivery
