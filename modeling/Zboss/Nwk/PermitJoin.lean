/-
# Nwk.PermitJoin -- for how long devices may join, and what the beacons tell of it

`zb_nlme_permit_joining_request` opens a router or coordinator for joining: for good, or for a number
of seconds, after which an alarm of the scheduler closes it.  Each request replaces the one before,
with its alarm.  The permission is a bit of the MAC, where association closes it as well, when there
are enough children; the beacon tells of it in the superframe specification, which is filled in when
the beacon is sent, and in the capacities of the payload, which was stored before.

The machine is the scheduler with its timer, as it is, and beside it what the network layer keeps.
Nothing of the stack writes the bit through `MLME-SET`.

* `permission_of_request`: in every run an alarm that ends a permission was asked for by the last
  request of all, and fires no earlier than that request has said, if no reset comes in between;
* `beacon_truth`: in every run a beacon tells what is so: whoever scans takes its sender for a parent
  to join exactly if that permits joining at this moment, although the capacities can be out of date.
-/
import Mathlib
import Zboss.Common.Constants
import Zboss.Common.AlarmTime
import Zboss.Mac.Beacon

namespace Zboss.Nwk.PermitJoin

open Zboss.Common.Constants
open Zboss.Theory.Run
open Zboss.Common.Types
open Zboss.Common.Scheduler
open Zboss.Common.TimerQueue
open Zboss.Common
open Zboss.Common.AlarmTime (zbTimeOneSecond nowOf Waiting waiting_step waiting_alarm waitsOut_none_iff
  Fires fires_iff le_of_timeGe mem_queueOf)
open Zboss.Common.PanIdTable (ZbExtPanId)
open Zboss.Nwk.Formation (ZbNlmeState)
open Zboss.Nwk.DiscoveryConfirm
open Zboss.Mac.Beacon

set_option autoImplicit false

/-! ## State -/

/-- The callbacks: the two of this file, and those of all others. -/
inductive Callback where
  | nwkPermitTimeout
  | zbNlmePermitJoiningConfirm
  | other (n : Nat)
  deriving DecidableEq

def zbStackProfile : UInt8 := 1

def zbNwkMaxDepth : UInt8 := 5

/-- What the network layer of a router or coordinator keeps of its network; the PIB is in `mac`. -/
structure Router where
  deviceType : UInt8
  depth : UInt8
  extendedPanId : ZbExtPanId
  updateId : UInt8
  maxChildren : UInt8
  routerChildNum : UInt8
  edChildNum : UInt8
  permitJoin : Bool
  mac : BeaconSource

structure State where
  sched : SchedState Callback
  router : Router

/-! ## The beacon payload -/

/-- Assign beacon payload stored in MAC PIB.  Too deep in the tree, nobody may join. -/
def zbNwkUpdateBeaconPayload (r : Router) : Router :=
  let permit := if r.depth < zbNwkMaxDepth then r.mac.macAssociationPermit else 0
  { r with mac := { r.mac with
      macAssociationPermit := permit
      macBeaconPayload :=
        { protocolId := 0
          stackProfile := zbStackProfile &&& 0x0F
          protocolVersion := zbProtocolVersion &&& 0x0F
          routerCapacity := permit &&& 1
          deviceDepth := r.depth &&& 0x0F
          endDeviceCapacity := permit &&& 1
          extendedPanid := r.extendedPanId
          txoffset := Vector.replicate 3 0xFF
          nwkUpdateId := r.updateId }
      macBeaconPayloadLength := sizeofBeaconPayload } }

def Router.setPermit (permit : UInt8) (r : Router) : Router :=
  { r with mac := { r.mac with macAssociationPermit := permit } }

/-! ## Permissions -/

/-- The alarm: the payload is not updated. -/
def nwkPermitTimeout (r : Router) : Router := { r.setPermit 0 with permitJoin := false }

/-- Cancel any other permit timeout. -/
def cancelPermit (s : State) : Option State :=
  if s.router.permitJoin then do
    let sched ← schedStep s.sched (.cancel .nwkPermitTimeout zbAlarmAnyParam)
    return { sched, router := { s.router with permitJoin := false } }
  else some s

/-- A second is a number of beacon intervals. -/
def permitTicks (permitDuration : UInt8) : ZbTime :=
  UInt16.ofNat (permitDuration.toNat * zbTimeOneSecond)

/-- The duration: none, for good, or in seconds. -/
def permitFor (permitDuration : UInt8) (s : State) : Option State :=
  if permitDuration = 0 then some { s with router := s.router.setPermit 0 }
  else if permitDuration = 0xFF then some { s with router := s.router.setPermit 1 }
  else do
    let sched ← schedStep s.sched (.alarm .nwkPermitTimeout 0 (permitTicks permitDuration))
    return { sched, router := { s.router.setPermit 1 with permitJoin := true } }

def permits (deviceType : UInt8) : Prop :=
  deviceType = zbNwkDeviceTypeCoordinator ∨ deviceType = zbNwkDeviceTypeRouter

instance (deviceType : UInt8) : Decidable (permits deviceType) :=
  inferInstanceAs (Decidable (_ ∨ _))

/-- Only a router or coordinator changes anything, and its payload. -/
def changePermit (permitDuration : UInt8) (s : State) : Option (State × UInt8) :=
  if permits s.router.deviceType then do
    let s ← permitFor permitDuration s
    return ({ s with router := zbNwkUpdateBeaconPayload s.router }, zbNwkStatusSuccess)
  else some (s, zbNwkStatusInvalidRequest)

/-- The request, and the status it is confirmed with. -/
def zbNlmePermitJoiningRequest (param permitDuration : UInt8) (s : State) :
    Option (State × UInt8) := do
  let s ← cancelPermit s
  let (s, status) ← changePermit permitDuration s
  let sched ← schedStep s.sched (.callback .zbNlmePermitJoiningConfirm param)
  return ({ s with sched }, status)

/-! ## What else changes the beacons -/

/-- The end of `zb_mlme_associate_indication`: enough children. -/
def disableWhenFull (r : Router) : Router :=
  if r.mac.macAssociationPermit ≠ 0 ∧
      r.maxChildren.toNat ≤ r.routerChildNum.toNat + r.edChildNum.toNat then
    zbNwkUpdateBeaconPayload (r.setPermit 0)
  else r

/-- Of the MAC's device types only whether it is `MAC_DEV_FFD` is kept. -/
def zbNwkSetDeviceType (deviceType : UInt8) (r : Router) : Router :=
  { r with deviceType, mac := { r.mac with devFfd := decide (permits deviceType) } }

/-- Nothing is the assertion. -/
def zbMlmeStartConfirm (success : Bool) (state : ZbNlmeState) (r : Router) : Option Router :=
  if success then
    match state with
    | .router =>
        let r := zbNwkSetDeviceType zbNwkDeviceTypeRouter r
        some (zbNwkUpdateBeaconPayload
          (r.setPermit (if r.routerChildNum.toNat + r.edChildNum.toNat < r.maxChildren.toNat then 1
            else 0)))
    | .formation => some (zbNwkUpdateBeaconPayload (zbNwkSetDeviceType zbNwkDeviceTypeCoordinator r))
    | .panidConflictResolution => some r
    | _ => none
  else some r

/-- The update id is set back, for an increment that is no longer made. -/
def zbPanidConflictNetworkUpdateRecv (updateId : UInt8) (r : Router) : Router :=
  zbNwkUpdateBeaconPayload { r with updateId := updateId - 1 }

/-- What the network layer keeps is set to zero; the PIB and the scheduler stay as they are. -/
def zbMlmeResetConfirm (r : Router) : Router := { r with permitJoin := false }

/-! ## Histories -/

/-- What happens to the machine.  Others use the scheduler with callbacks of their own; the children
are counted, and the place in the network is set, elsewhere. -/
inductive Call where
  | permitJoining (param permitDuration : UInt8)
  | children (routerChildNum edChildNum : UInt8)
  | associate (routerChildNum edChildNum : UInt8)
  /-- A join indication, or the update of a PAN id conflict. -/
  | updateBeaconPayload
  | startConfirm (success : Bool) (state : ZbNlmeState)
  | networkUpdate (updateId : UInt8)
  | joined (depth : UInt8) (extendedPanId : ZbExtPanId)
  | setDeviceType (deviceType : UInt8)
  | setPib (macPanId macShortAddress : UInt16) (macBeaconOrder : UInt8) (macSuperframeOrder : UInt16)
  | setUpdateId (updateId : UInt8)
  | reset
  | beaconReq (coordinatorRole : Bool) (macExtendedAddress : ZbIeeeAddr)
  | callback (n : Nat) (param : UInt8)
  | alarm (n : Nat) (param : UInt8) (runAfter : ZbTime)
  | cancel (n : Nat) (param : UInt8)
  | tick (ticks : Nat)
  | loop (brk : Bool)

def onRouter (f : Router → Router) (s : State) : Option State := some { s with router := f s.router }

/-- What the scheduler is asked. -/
def onSched (s : State) (call : SchedCall Callback) : Option State :=
  (schedStep s.sched call).map fun sched => { s with sched }

/-- The alarm that the loop has just gone on to. -/
def fired (sched : SchedState Callback) : Option Callback :=
  match sched.loopAt with
  | .firing _ ent => some (sched.sched.tmBuffer ent).func
  | _ => none

/-- A stretch of the main loop; the callback of an alarm runs as a whole. -/
def loopStep (brk : Bool) (s : State) : State :=
  let sched := schedLoop brk s.sched
  { sched, router := if fired sched = some .nwkPermitTimeout then nwkPermitTimeout s.router else s.router }

/-- Requests come from callbacks of the scheduler. -/
def step (s : State) : Call → Option State
  | .permitJoining param permitDuration =>
      if s.sched.loopAt = .calling then
        (zbNlmePermitJoiningRequest param permitDuration s).map Prod.fst
      else none
  | .children routerChildNum edChildNum => onRouter (fun r => { r with routerChildNum, edChildNum }) s
  | .associate routerChildNum edChildNum =>
      onRouter (fun r => disableWhenFull { r with routerChildNum, edChildNum }) s
  | .updateBeaconPayload => onRouter zbNwkUpdateBeaconPayload s
  | .startConfirm success state =>
      (zbMlmeStartConfirm success state s.router).map fun router => { s with router }
  | .networkUpdate updateId => onRouter (zbPanidConflictNetworkUpdateRecv updateId) s
  | .joined depth extendedPanId => onRouter (fun r => { r with depth, extendedPanId }) s
  | .setDeviceType deviceType => onRouter (zbNwkSetDeviceType deviceType) s
  | .setPib macPanId macShortAddress macBeaconOrder macSuperframeOrder =>
      onRouter (fun r =>
        { r with mac := { r.mac with macPanId, macShortAddress, macBeaconOrder, macSuperframeOrder } }) s
  | .setUpdateId updateId => onRouter (fun r => { r with updateId }) s
  | .reset => onRouter zbMlmeResetConfirm s
  | .beaconReq coordinatorRole macExtendedAddress =>
      (zbHandleBeaconReq coordinatorRole macExtendedAddress s.router.mac).map fun (_, mac) =>
        { s with router := { s.router with mac } }
  | .callback n param => onSched s (.callback (.other n) param)
  | .alarm n param runAfter => onSched s (.alarm (.other n) param runAfter)
  | .cancel n param => onSched s (.cancel (.other n) param)
  | .tick ticks => onSched s (.tick ticks)
  | .loop brk => some (loopStep brk s)

/-! ## The alarms that end a permission -/

def isTimeout (g : ZbSchedGlobals Callback) (ent : Nat) : Bool :=
  (g.tmBuffer ent).func == .nwkPermitTimeout

/-- Those that are pending. -/
def timeouts (sched : SchedState Callback) : List Nat := (queueOf sched).filter (isTimeout sched.sched)

section Lists

variable {α : Type} {p q : α → Bool}

theorem filter_eraseP_self (l : List α) : (l.eraseP p).filter p = (l.filter p).tail := by
  induction l with
  | nil => rfl
  | cons a l ih =>
      by_cases here : p a = true
      · rw [List.eraseP_cons_of_pos here, List.filter_cons_of_pos here, List.tail_cons]
      · rw [List.eraseP_cons_of_neg here, List.filter_cons_of_neg here, List.filter_cons_of_neg here, ih]

theorem filter_eraseP_other (apart : ∀ a, p a = true → q a = false) (l : List α) :
    (l.eraseP p).filter q = l.filter q := by
  induction l with
  | nil => rfl
  | cons a l ih =>
      by_cases here : p a = true
      · rw [List.eraseP_cons_of_pos here, List.filter_cons_of_neg (by simp [apart a here])]
      · rw [List.eraseP_cons_of_neg here, List.filter_cons, List.filter_cons, ih]

end Lists

section Timeouts

variable {sched sched' : SchedState Callback} {n : Nat} {param : UInt8} {runAfter : ZbTime}

theorem mem_timeouts {ent : Nat} : ent ∈ timeouts sched ↔
    ent ∈ queueOf sched ∧ (sched.sched.tmBuffer ent).func = .nwkPermitTimeout := by
  simp [timeouts, isTimeout]

/-- The entry that an alarm gets is new to the queue. -/
theorem filter_insert (parts : PartsOk sched) {func : Callback} {nent : Nat} {rest before after : List Nat}
    (free : freeOf sched = nent :: rest) (split : queueOf sched = before ++ after)
    (buffer : sched'.sched.tmBuffer =
      Function.update sched.sched.tmBuffer nent ⟨func, param, sched.timer + runAfter⟩) :
    (before ++ after).filter (isTimeout sched'.sched) = timeouts sched := by
  rw [timeouts, split]
  apply List.filter_congr
  intro ent mem
  have ne : ent ≠ nent := by
    rintro rfl
    exact parts.apart ent (free ▸ List.mem_cons_self) (split ▸ mem)
  rw [isTimeout, isTimeout, buffer, Function.update_of_ne ne]

theorem timeouts_alarm_other (parts : PartsOk sched)
    (taken : schedStep sched (.alarm (.other n) param runAfter) = some sched') :
    timeouts sched' = timeouts sched := by
  obtain ⟨full, room⟩ := (step_keeps parts (.alarm (.other n) param runAfter)).1
  cases free : freeOf sched with
  | nil =>
      simp only [schedStep, full free, Option.map_some, Option.some_inj] at taken
      rw [← taken]
  | cons nent rest =>
      obtain ⟨t, before, after, -, step, split, queue, -, buffer⟩ := room nent rest free
      obtain rfl := Option.some.inj (step.symm.trans taken)
      have foreign : isTimeout t.sched nent = false := by
        rw [isTimeout, buffer, Function.update_self]
        rfl
      rw [← filter_insert parts free split buffer, timeouts, queue, List.filter_append,
        List.filter_cons_of_neg (by simp [foreign]), List.filter_append]

theorem timeouts_alarm_own (parts : PartsOk sched) (none_ : timeouts sched = [])
    (taken : schedStep sched (.alarm .nwkPermitTimeout 0 runAfter) = some sched') :
    (freeOf sched = [] ∧ timeouts sched' = []) ∨
      ∃ ent, sched.sched.tmFreelist = some ent ∧ timeouts sched' = [ent] := by
  obtain ⟨full, room⟩ := (step_keeps parts (.alarm .nwkPermitTimeout 0 runAfter)).1
  cases free : freeOf sched with
  | nil =>
      simp only [schedStep, full free, Option.map_some, Option.some_inj] at taken
      exact .inl ⟨rfl, taken ▸ none_⟩
  | cons nent rest =>
      obtain ⟨t, before, after, -, step, split, queue, -, buffer⟩ := room nent rest free
      obtain rfl := Option.some.inj (step.symm.trans taken)
      have own : isTimeout t.sched nent = true := by
        rw [isTimeout, buffer, Function.update_self]
        rfl
      have others := (filter_insert parts free split buffer).trans none_
      rw [List.filter_append, List.append_eq_nil_iff] at others
      have freed := parts.freed
      rw [free] at freed
      refine .inr ⟨nent, freed.1, ?_⟩
      rw [timeouts, queue, List.filter_append, List.filter_cons_of_pos own, others.1, others.2]
      rfl

/-- A cancel that names any parameter takes the first alarm of its callback. -/
theorem timeouts_cancel_own (parts : PartsOk sched)
    (taken : schedStep sched (.cancel .nwkPermitTimeout zbAlarmAnyParam) = some sched') :
    timeouts sched' = (timeouts sched).tail := by
  obtain ⟨t, ret, -, step, queue, buffer, -⟩ :=
    (step_keeps parts (.cancel .nwkPermitTimeout zbAlarmAnyParam)).1
  obtain rfl := Option.some.inj (step.symm.trans taken)
  have named : (fun x => decide (Cancels .nwkPermitTimeout zbAlarmAnyParam (sched.sched.tmBuffer x))) =
      isTimeout sched.sched := by
    funext x
    simp only [Cancels, true_or, and_true]
    rfl
  have same : isTimeout t.sched = isTimeout sched.sched := by
    funext x
    rw [isTimeout, isTimeout, buffer]
  have single : zbAlarmAnyParam ≠ zbAlarmAllCb := by decide
  rw [timeouts, queue, left, if_neg single, named, timeouts, ← filter_eraseP_self, same]

theorem timeouts_cancel_other (parts : PartsOk sched)
    (taken : schedStep sched (.cancel (.other n) param) = some sched') :
    timeouts sched' = timeouts sched := by
  obtain ⟨t, ret, -, step, queue, buffer, -⟩ := (step_keeps parts (.cancel (.other n) param)).1
  obtain rfl := Option.some.inj (step.symm.trans taken)
  have apart : ∀ x, decide (Cancels (.other n) param (sched.sched.tmBuffer x)) = true →
      isTimeout sched.sched x = false := by
    intro x named
    obtain ⟨func, -⟩ := of_decide_eq_true named
    rw [isTimeout, func]
    rfl
  have same : isTimeout t.sched = isTimeout sched.sched := by
    funext x
    rw [isTimeout, isTimeout, buffer]
  rw [timeouts, timeouts, queue, same, left]
  split
  · rw [List.filter_filter]
    apply List.filter_congr
    intro x _
    cases named : decide (Cancels (.other n) param (sched.sched.tmBuffer x)) with
    | true => simp [apart x named]
    | false => simp
  · exact filter_eraseP_other apart _

/-- The loop leaves them alone, or fires the first. -/
theorem timeouts_loop (parts : PartsOk sched) (brk : Bool) :
    (timeouts (schedLoop brk sched) = timeouts sched ∧
        fired (schedLoop brk sched) ≠ some .nwkPermitTimeout) ∨
      ∃ ent, timeouts sched = ent :: timeouts (schedLoop brk sched) ∧
        fired (schedLoop brk sched) = some .nwkPermitTimeout := by
  obtain ⟨⟨queue, buffer⟩, keeps⟩ := step_keeps parts (.loop brk)
  have parts' := (keeps _ rfl).1
  have same : isTimeout (schedLoop brk sched).sched = isTimeout sched.sched := by
    funext x
    rw [isTimeout, isTimeout, buffer]
  cases place : (schedLoop brk sched).loopAt with
  | firing time ent =>
      have firing : firingOf (schedLoop brk sched) = [ent] := by rw [firingOf, place]
      have head : sched.sched.tmQueue = some ent := by
        rcases schedLoop_timer (s := sched) brk with ⟨-, -, idle, -, -⟩ |
          ⟨time', ent', links, list, -, head, -, -, is⟩ | ⟨time', ent', -, is⟩
        · rw [idle] at firing
          cases firing
        · rw [is] at place
          cases place
          exact head
        · rw [is] at place
          cases place
      have cut : queueOf sched = ent :: queueOf (schedLoop brk sched) := by
        rcases queue with kept | ⟨time', ent', cut, at_, -⟩
        · have gone := (parts'.notFiring ent (by rw [firing]; exact List.mem_singleton_self ent)).1
          exact absurd (kept ▸ mem_queueOf head) gone
        · rw [place] at at_
          cases at_
          exact cut
      have is : fired (schedLoop brk sched) = some (sched.sched.tmBuffer ent).func := by
        rw [fired, place]
        exact congrArg (fun buffer => some (buffer ent).func) buffer
      by_cases own : isTimeout sched.sched ent = true
      · refine .inr ⟨ent, ?_, ?_⟩
        · rw [timeouts, cut, List.filter_cons_of_pos own, timeouts, same]
        · rw [is, beq_iff_eq.1 own]
      · refine .inl ⟨?_, ?_⟩
        · rw [timeouts, timeouts, cut, List.filter_cons_of_neg own, same]
        · rw [is]
          exact fun func => own (beq_iff_eq.2 (Option.some.inj func))
  | callbacks | calling | alarms time =>
      have none_ : fired (schedLoop brk sched) = none := by rw [fired, place]
      have other : fired (schedLoop brk sched) ≠ some .nwkPermitTimeout := by
        rw [none_]
        exact (Option.some_ne_none _).symm
      refine .inl ⟨?_, other⟩
      rcases queue with kept | ⟨time', ent', cut, at_, -⟩
      · rw [timeouts, timeouts, kept, same]
      · rw [place] at at_
        cases at_

end Timeouts

/-! ## What a call does to them -/

/-- At most one alarm will end a permission, and only while there is one. -/
structure DoorOk (s : State) : Prop where
  parts : PartsOk s.sched
  once : (timeouts s.sched).length ≤ 1
  flagged : timeouts s.sched ≠ [] → s.router.permitJoin = true

section Calls

variable {s t : State} {param permitDuration : UInt8}

/-- A cancel frees entries, and takes none. -/
theorem free_cancel {sched sched' : SchedState Callback} {func : Callback} (parts : PartsOk sched)
    (taken : schedStep sched (.cancel func param) = some sched') (some_ : freeOf sched ≠ []) :
    freeOf sched' ≠ [] := by
  obtain ⟨does, keeps⟩ := step_keeps parts (.cancel func param)
  obtain ⟨t, ret, -, step, queue, -, -⟩ := does
  obtain rfl := Option.some.inj (step.symm.trans taken)
  have place : t.loopAt = sched.loopAt := by
    obtain ⟨⟨g, ret'⟩, -, rfl⟩ := Option.map_eq_some_iff.1 taken
    rfl
  have fewer : (queueOf t).length ≤ (queueOf sched).length := by
    rw [queue, left]
    split
    · exact List.length_filter_le _ _
    · exact List.length_eraseP_le
  have before := parts.length
  have after := (keeps t taken).1.length
  have firing : firingOf t = firingOf sched := by rw [firingOf, firingOf, place]
  have pos := List.length_pos_of_ne_nil some_
  intro none_
  rw [none_, firing, List.length_nil] at after
  omega

theorem cancelPermit_spec (ok : DoorOk s) (taken : cancelPermit s = some t) :
    PartsOk t.sched ∧ timeouts t.sched = [] ∧ t.router.permitJoin = false ∧
      nowOf t.sched = nowOf s.sched ∧ (freeOf s.sched ≠ [] → freeOf t.sched ≠ []) := by
  rw [cancelPermit] at taken
  split at taken
  · obtain ⟨sched, cancelled, done⟩ := Option.bind_eq_some_iff.1 taken
    obtain rfl := Option.some.inj done
    have none_ : timeouts sched = [] := by
      rw [timeouts_cancel_own ok.parts cancelled]
      exact List.eq_nil_of_length_eq_zero (by have := ok.once; rw [List.length_tail]; omega)
    have place : nowOf sched = nowOf s.sched := by
      obtain ⟨⟨g, ret'⟩, -, rfl⟩ := Option.map_eq_some_iff.1 cancelled
      rfl
    exact ⟨((step_keeps ok.parts _).2 sched cancelled).1, none_, rfl, place,
      fun some_ => free_cancel ok.parts cancelled some_⟩
  · next closed =>
    obtain rfl := Option.some.inj taken
    have none_ : timeouts s.sched = [] := by
      by_contra pending
      exact closed (ok.flagged pending)
    exact ⟨ok.parts, none_, Bool.eq_false_iff.2 closed, rfl, id⟩

/-- The alarm that a permission gets, if it gets one. -/
theorem permitFor_spec (parts : PartsOk s.sched) (none_ : timeouts s.sched = [])
    (closed : s.router.permitJoin = false) (place : nowOf s.sched = none)
    (taken : permitFor permitDuration s = some t) :
    DoorOk t ∧
      (∀ ent ∈ timeouts t.sched, permitDuration ≠ 0 ∧ permitDuration ≠ 0xFF ∧
        ∃ timer, Waiting none timer (permitTicks permitDuration) ent 0 t.sched) ∧
      (freeOf s.sched ≠ [] → timeouts t.sched = [] → t.router.permitJoin = false) := by
  have quiet : ∀ r : Router, r.permitJoin = s.router.permitJoin →
      DoorOk { s with router := r } ∧
        (∀ ent ∈ timeouts s.sched, permitDuration ≠ 0 ∧ permitDuration ≠ 0xFF ∧
          ∃ timer, Waiting none timer (permitTicks permitDuration) ent 0 s.sched) ∧
        (freeOf s.sched ≠ [] → timeouts s.sched = [] → r.permitJoin = false) := by
    intro r same
    refine ⟨⟨parts, ?_, fun pending => absurd none_ pending⟩, ?_, fun _ _ => same.trans closed⟩
    · exact none_ ▸ Nat.zero_le 1
    · rw [none_]
      intro ent mem
      cases mem
  rw [permitFor] at taken
  split at taken
  · obtain rfl := Option.some.inj taken
    exact quiet _ rfl
  · next some_ =>
    split at taken
    · obtain rfl := Option.some.inj taken
      exact quiet _ rfl
    · next limited =>
      obtain ⟨sched, scheduled, done⟩ := Option.bind_eq_some_iff.1 taken
      obtain rfl := Option.some.inj done
      have parts' := ((step_keeps parts _).2 sched scheduled).1
      rcases timeouts_alarm_own parts none_ scheduled with ⟨full, none'⟩ | ⟨ent, free, one⟩
      · refine ⟨⟨parts', ?_, fun _ => rfl⟩, ?_, fun room => absurd full room⟩
        · exact none' ▸ Nat.zero_le 1
        · show ∀ ent ∈ timeouts sched, _
          rw [none']
          intro ent mem
          cases mem
      · have waiting := waiting_alarm parts free scheduled
        rw [place] at waiting
        refine ⟨⟨parts', ?_, fun _ => rfl⟩, ?_, fun _ none' => ?_⟩
        · show (timeouts sched).length ≤ 1
          rw [one]
          exact Nat.le_refl 1
        · show ∀ ent ∈ timeouts sched, _
          rw [one]
          intro ent' mem
          obtain rfl := List.mem_singleton.1 mem
          exact ⟨some_, limited, _, waiting⟩
        · exact absurd (one.symm.trans none') (List.cons_ne_nil _ _)

/-- **A request replaces what was pending** by its own alarm, if it has one. -/
theorem request_spec (ok : DoorOk s) (taken : step s (.permitJoining param permitDuration) = some t) :
    DoorOk t ∧
      (∀ ent ∈ timeouts t.sched, permitDuration ≠ 0 ∧ permitDuration ≠ 0xFF ∧
        ∃ timer, Waiting none timer (permitTicks permitDuration) ent 0 t.sched) ∧
      (freeOf s.sched ≠ [] → timeouts t.sched = [] → t.router.permitJoin = false) := by
  rw [step] at taken
  split at taken
  · next calling =>
    obtain ⟨⟨u, status⟩, requested, rfl⟩ := Option.map_eq_some_iff.1 taken
    obtain ⟨s₁, cancelled, rest⟩ := Option.bind_eq_some_iff.1 requested
    obtain ⟨⟨s₂, status'⟩, permitted, rest⟩ := Option.bind_eq_some_iff.1 rest
    obtain ⟨sched, confirmed, done⟩ := Option.bind_eq_some_iff.1 rest
    obtain ⟨rfl, rfl⟩ := Prod.mk.inj (Option.some.inj done)
    obtain ⟨parts₁, none_, closed, place, room⟩ := cancelPermit_spec ok cancelled
    have now : nowOf s₁.sched = none := by rw [place, nowOf, calling]
    have opened : DoorOk s₂ ∧
        (∀ ent ∈ timeouts s₂.sched, permitDuration ≠ 0 ∧ permitDuration ≠ 0xFF ∧
          ∃ timer, Waiting none timer (permitTicks permitDuration) ent 0 s₂.sched) ∧
        (freeOf s₁.sched ≠ [] → timeouts s₂.sched = [] → s₂.router.permitJoin = false) := by
      rw [changePermit] at permitted
      split at permitted
      · obtain ⟨s', opened, done⟩ := Option.bind_eq_some_iff.1 permitted
        obtain ⟨rfl, rfl⟩ := Prod.mk.inj (Option.some.inj done)
        obtain ⟨ok', asked, granted⟩ := permitFor_spec parts₁ none_ closed now opened
        exact ⟨⟨ok'.parts, ok'.once, ok'.flagged⟩, asked, granted⟩
      · obtain ⟨rfl, rfl⟩ := Prod.mk.inj (Option.some.inj permitted)
        refine ⟨⟨parts₁, none_ ▸ Nat.zero_le 1, fun pending => absurd none_ pending⟩, ?_,
          fun _ _ => closed⟩
        rw [none_]
        intro ent mem
        cases mem
    obtain ⟨ok₂, asked, granted⟩ := opened
    have parts₃ := ((step_keeps ok₂.parts _).2 sched confirmed).1
    obtain ⟨⟨cbQ, ret⟩, -, rfl⟩ := Option.map_eq_some_iff.1 confirmed
    refine ⟨⟨parts₃, ok₂.once, ok₂.flagged⟩, fun ent mem => ?_, fun free => granted (room free)⟩
    obtain ⟨some_, limited, timer, waiting⟩ := asked ent mem
    exact ⟨some_, limited, timer, waiting.runTime, waiting.clock, waiting.read⟩
  · cases taken

/-- A call that only the router notices. -/
theorem router_spec (ok : DoorOk s) (same : t.sched = s.sched)
    (flag : t.router.permitJoin = s.router.permitJoin) :
    DoorOk t ∧ timeouts t.sched = timeouts s.sched ∧ t.router.permitJoin = s.router.permitJoin := by
  refine ⟨⟨same ▸ ok.parts, same ▸ ok.once, fun pending => ?_⟩, by rw [same], flag⟩
  rw [flag]
  exact ok.flagged (same ▸ pending)

theorem updateBeaconPayload_permitJoin (r : Router) :
    (zbNwkUpdateBeaconPayload r).permitJoin = r.permitJoin := rfl

theorem disableWhenFull_permitJoin (r : Router) : (disableWhenFull r).permitJoin = r.permitJoin := by
  rw [disableWhenFull]
  split <;> rfl

theorem startConfirm_permitJoin {success : Bool} {state : ZbNlmeState} {r r' : Router}
    (taken : zbMlmeStartConfirm success state r = some r') : r'.permitJoin = r.permitJoin := by
  cases success with
  | false =>
      obtain rfl := Option.some.inj taken
      rfl
  | true =>
      cases state <;>
        simp only [zbMlmeStartConfirm, if_true, Option.some_inj, reduceCtorEq] at taken <;>
        rw [← taken] <;> rfl

theorem handleBeaconReq_mac {coordinatorRole : Bool} {macExtendedAddress : ZbIeeeAddr}
    {mac mac' : BeaconSource} {frame : Option (List UInt8)}
    (taken : zbHandleBeaconReq coordinatorRole macExtendedAddress mac = some (frame, mac')) :
    mac' = mac ∨ mac' = { mac with macBsn := mac.macBsn + 1 } := by
  rw [zbHandleBeaconReq] at taken
  split at taken
  · obtain ⟨⟨frame', mac''⟩, sent, done⟩ := Option.bind_eq_some_iff.1 taken
    obtain ⟨-, rfl⟩ := Prod.mk.inj (Option.some.inj done)
    obtain ⟨-, -, done⟩ := Option.bind_eq_some_iff.1 sent
    exact .inr (Prod.mk.inj (Option.some.inj done)).2.symm
  · exact .inl (Prod.mk.inj (Option.some.inj taken)).2.symm

/-- The ticks that pass in a call. -/
def Call.ticks : Call → Nat
  | .tick ticks => ticks
  | _ => 0

def Call.isRequest : Call → Bool
  | .permitJoining .. => true
  | _ => false

/-- A call of the scheduler that leaves the permission alone. -/
theorem sched_spec {c : SchedCall Callback} {sched : SchedState Callback} (ok : DoorOk s)
    (taken : schedStep s.sched c = some sched) (same : timeouts sched = timeouts s.sched) :
    DoorOk { s with sched } ∧ timeouts sched = timeouts s.sched :=
  ⟨⟨((step_keeps ok.parts c).2 sched taken).1, same ▸ ok.once, fun pending => ok.flagged (same ▸ pending)⟩,
    same⟩

/-- A reset comes when no permission has an alarm. -/
def Quiet (s : State) (call : Call) : Prop := call = .reset → timeouts s.sched = []

/-- **No other call asks for an alarm**: what is pending stays as it was, or is fired, and then
nothing is permitted. -/
theorem other_spec (ok : DoorOk s) {call : Call} (other : call.isRequest = false)
    (quiet : Quiet s call) (taken : step s call = some t) :
    DoorOk t ∧
      ((timeouts t.sched = timeouts s.sched ∧ t.router.permitJoin = s.router.permitJoin) ∨
        (timeouts t.sched = [] ∧ t.router.permitJoin = false)) := by
  have router_kept : ∀ r : Router, r.permitJoin = s.router.permitJoin →
      some { s with router := r } = some t → DoorOk t ∧
        ((timeouts t.sched = timeouts s.sched ∧ t.router.permitJoin = s.router.permitJoin) ∨
          (timeouts t.sched = [] ∧ t.router.permitJoin = false)) := by
    intro r keeps taken
    obtain rfl := Option.some.inj taken
    obtain ⟨ok', same, flag⟩ := router_spec ok (t := { s with router := r }) rfl keeps
    exact ⟨ok', .inl ⟨same, flag⟩⟩
  have onSched_spec : ∀ c : SchedCall Callback,
      (∀ sched, schedStep s.sched c = some sched → timeouts sched = timeouts s.sched) →
      onSched s c = some t → DoorOk t ∧
        ((timeouts t.sched = timeouts s.sched ∧ t.router.permitJoin = s.router.permitJoin) ∨
          (timeouts t.sched = [] ∧ t.router.permitJoin = false)) := by
    intro c keeps taken
    obtain ⟨sched, called, rfl⟩ := Option.map_eq_some_iff.1 taken
    obtain ⟨ok', same⟩ := sched_spec ok called (keeps sched called)
    exact ⟨ok', .inl ⟨same, rfl⟩⟩
  cases call with
  | permitJoining param permitDuration => cases other
  | children router ed =>
      refine router_kept _ ?_ taken
      rfl
  | associate router ed =>
      refine router_kept _ ?_ taken
      exact disableWhenFull_permitJoin _
  | updateBeaconPayload =>
      refine router_kept _ ?_ taken
      exact updateBeaconPayload_permitJoin _
  | startConfirm success state =>
      obtain ⟨router, started, rfl⟩ := Option.map_eq_some_iff.1 taken
      exact router_kept router (startConfirm_permitJoin started) rfl
  | networkUpdate updateId =>
      refine router_kept _ ?_ taken
      rfl
  | joined depth extendedPanId =>
      refine router_kept _ ?_ taken
      rfl
  | setDeviceType deviceType =>
      refine router_kept _ ?_ taken
      rfl
  | setPib macPanId macShortAddress macBeaconOrder macSuperframeOrder =>
      refine router_kept _ ?_ taken
      rfl
  | setUpdateId updateId =>
      refine router_kept _ ?_ taken
      rfl
  | reset =>
      obtain rfl := Option.some.inj taken
      have none_ := quiet rfl
      exact ⟨⟨ok.parts, ok.once, fun pending => absurd none_ pending⟩, .inr ⟨none_, rfl⟩⟩
  | beaconReq coordinatorRole macExtendedAddress =>
      obtain ⟨⟨frame, mac⟩, -, rfl⟩ := Option.map_eq_some_iff.1 taken
      exact router_kept { s.router with mac } rfl rfl
  | callback n param =>
      refine onSched_spec _ (fun sched called => ?_) taken
      obtain ⟨⟨cbQ, ret⟩, -, rfl⟩ := Option.map_eq_some_iff.1 called
      rfl
  | alarm n param runAfter =>
      exact onSched_spec _ (fun sched called => timeouts_alarm_other ok.parts called) taken
  | cancel n param =>
      exact onSched_spec _ (fun sched called => timeouts_cancel_other ok.parts called) taken
  | tick ticks =>
      refine onSched_spec _ (fun sched called => ?_) taken
      obtain rfl := Option.some.inj called
      rfl
  | loop brk =>
      obtain rfl := Option.some.inj taken
      have parts := ((step_keeps ok.parts (.loop brk)).2 _ rfl).1
      rcases timeouts_loop ok.parts brk with ⟨same, quiet⟩ | ⟨ent, cut, fires⟩
      · have router : (loopStep brk s).router = s.router := if_neg quiet
        refine ⟨⟨parts, same ▸ ok.once, fun pending => ?_⟩, .inl ⟨same, by rw [router]⟩⟩
        rw [router]
        exact ok.flagged (same ▸ pending)
      · have none_ : timeouts (schedLoop brk s.sched) = [] := by
          have once := ok.once
          rw [cut, List.length_cons] at once
          exact List.eq_nil_of_length_eq_zero (by omega)
        have router : (loopStep brk s).router = nwkPermitTimeout s.router := if_pos fires
        exact ⟨⟨parts, none_ ▸ Nat.zero_le 1, fun pending => absurd none_ pending⟩,
          .inr ⟨none_, by rw [router]; rfl⟩⟩

/-- What stays pending goes on waiting. -/
theorem other_waits (ok : DoorOk s) {call : Call} (other : call.isRequest = false)
    (taken : step s call = some t) {timer runAfter : ZbTime} {ent ticks : Nat}
    (pending : ent ∈ timeouts s.sched) (waiting : Waiting none timer runAfter ent ticks s.sched) :
    Waiting none timer runAfter ent (ticks + call.ticks) t.sched := by
  have queued := (mem_timeouts.1 pending).1
  have onRouter_waits : t.sched = s.sched → Waiting none timer runAfter ent (ticks + 0) t.sched := by
    intro same
    rw [same]
    exact waiting
  have onSched_waits : ∀ c : SchedCall Callback, onSched s c = some t →
      Waiting none timer runAfter ent (ticks + AlarmTime.ticksOf [c]) t.sched := by
    intro c taken
    obtain ⟨sched, called, rfl⟩ := Option.map_eq_some_iff.1 taken
    exact waiting_step ok.parts queued waiting called
  cases call with
  | permitJoining param permitDuration => cases other
  | children router ed => exact onRouter_waits (by cases taken; rfl)
  | associate router ed => exact onRouter_waits (by cases taken; rfl)
  | updateBeaconPayload => exact onRouter_waits (by cases taken; rfl)
  | startConfirm success state =>
      obtain ⟨router, -, rfl⟩ := Option.map_eq_some_iff.1 taken
      exact onRouter_waits rfl
  | networkUpdate updateId => exact onRouter_waits (by cases taken; rfl)
  | joined depth extendedPanId => exact onRouter_waits (by cases taken; rfl)
  | setDeviceType deviceType => exact onRouter_waits (by cases taken; rfl)
  | setPib macPanId macShortAddress macBeaconOrder macSuperframeOrder =>
      exact onRouter_waits (by cases taken; rfl)
  | setUpdateId updateId => exact onRouter_waits (by cases taken; rfl)
  | reset => exact onRouter_waits (by cases taken; rfl)
  | beaconReq coordinatorRole macExtendedAddress =>
      obtain ⟨⟨frame, mac⟩, -, rfl⟩ := Option.map_eq_some_iff.1 taken
      exact onRouter_waits rfl
  | callback n param => exact onSched_waits _ taken
  | alarm n param runAfter' => exact onSched_waits _ taken
  | cancel n param => exact onSched_waits _ taken
  | tick more => exact onSched_waits _ taken
  | loop brk =>
      obtain rfl := Option.some.inj taken
      have called : schedStep s.sched (.loop brk) = some (schedLoop brk s.sched) := rfl
      exact waiting_step ok.parts queued waiting called

end Calls

/-! ## When the alarm comes -/

/-- An alarm goes on to its callback in the alarm loop, when it is due at the time read there. -/
theorem fired_due {sched : SchedState Callback} (parts : PartsOk sched) {brk : Bool}
    (is : fired (schedLoop brk sched) = some .nwkPermitTimeout) :
    ∃ ent ∈ timeouts sched, ∃ time, nowOf sched = some time ∧
      zbTimeGe time (timeOf sched.sched ent) := by
  have buffer := (step_keeps parts (.loop brk)).1.2
  rcases schedLoop_timer (s := sched) brk with ⟨-, -, idle, -, -⟩ |
    ⟨time, ent, links, list, place, head, due, -, next⟩ | ⟨time, ent, -, next⟩
  · unfold fired at is
    unfold firingOf at idle
    split at is <;> simp_all
  · have func : (sched.sched.tmBuffer ent).func = .nwkPermitTimeout := by
      rw [next, fired] at is
      exact Option.some.inj is
    exact ⟨ent, mem_timeouts.2 ⟨mem_queueOf head, func⟩, time, by rw [nowOf, place], due⟩
  · rw [next, fired] at is
    cases is

/-- Every permission ends in time: the longest is less than half the range of the timer. -/
theorem permitTicks_waits (permitDuration : UInt8) :
    (permitTicks permitDuration).toNat ≤ 32769 := by
  have bound := permitDuration.toNat_lt
  have second : zbTimeOneSecond = 65 := rfl
  have ticks : (permitTicks permitDuration).toNat ≤ permitDuration.toNat * 65 := by
    rw [permitTicks, second, UInt16.toNat_ofNat']
    exact Nat.mod_le _ _
  omega

/-! ## Runs -/

/-- The device is started: nobody may join, and no payload is stored. -/
def State.start (null : Callback) (timer : ZbTime) (router : Router) : State :=
  { sched := .start null timer
    router := { router with
      permitJoin := false
      mac := { router.mac with macAssociationPermit := 0, macBeaconPayloadLength := 0 } } }

/-- The ticks of the timer. -/
def ticksOf : List Call → Nat
  | [] => 0
  | call :: calls => call.ticks + ticksOf calls

theorem ticksOf_snoc (calls : List Call) (call : Call) :
    ticksOf (calls ++ [call]) = ticksOf calls + call.ticks := by
  induction calls with
  | nil => exact Nat.add_comm _ _
  | cons first calls ih => rw [List.cons_append, ticksOf, ticksOf, ih, Nat.add_assoc]

theorem isRequest_iff {call : Call} :
    call.isRequest = true ↔ ∃ param permitDuration, call = .permitJoining param permitDuration := by
  constructor
  · intro request
    cases call with
    | permitJoining param permitDuration => exact ⟨param, permitDuration, rfl⟩
    | _ => cases request
  · rintro ⟨param, permitDuration, rfl⟩
    rfl

/-- The last request of all was for a time, and `good` of that time and of the calls since. -/
def LastAsked (good : UInt8 → List Call → Prop) (calls : List Call) : Prop :=
  ∃ before param permitDuration after,
    calls = before ++ .permitJoining param permitDuration :: after ∧
      (∀ call ∈ after, call.isRequest = false) ∧ permitDuration ≠ 0 ∧ permitDuration ≠ 0xFF ∧
      good permitDuration after

/-- The alarms that are pending wait for the last request. -/
def Asked (calls : List Call) (s : State) : Prop :=
  ∀ ent ∈ timeouts s.sched, LastAsked (fun permitDuration after =>
    ∃ timer, Waiting none timer (permitTicks permitDuration) ent (ticksOf after) s.sched) calls

section Runs

variable {null : Callback} {timer : ZbTime} {router : Router} {calls : List Call} {s : State}

theorem timeouts_start : timeouts (SchedState.start null timer) = [] := by
  rw [timeouts, queueOf]
  rfl

theorem doorOk_start : DoorOk (.start null timer router) where
  parts := (start_ok null timer).parts
  once := by
    show (timeouts (SchedState.start null timer)).length ≤ 1
    rw [timeouts_start]
    exact Nat.zero_le 1
  flagged := fun pending => absurd timeouts_start pending

/-- **Every call keeps the account** of what was asked for. -/
theorem asked_step {t : State} {call : Call} (ok : DoorOk s) (asked : Asked calls s)
    (quiet : Quiet s call) (taken : step s call = some t) : DoorOk t ∧ Asked (calls ++ [call]) t := by
  cases request : call.isRequest with
  | true =>
      obtain ⟨param, permitDuration, rfl⟩ := isRequest_iff.1 request
      obtain ⟨ok', waits, -⟩ := request_spec ok taken
      refine ⟨ok', fun ent mem => ?_⟩
      obtain ⟨some_, limited, waiting⟩ := waits ent mem
      exact ⟨calls, param, permitDuration, [], rfl, List.forall_mem_nil _, some_, limited, waiting⟩
  | false =>
      obtain ⟨ok', ⟨same, -⟩ | ⟨none_, -⟩⟩ := other_spec ok request quiet taken
      · refine ⟨ok', fun ent mem => ?_⟩
        rw [same] at mem
        obtain ⟨before, param, permitDuration, after, rfl, last, some_, limited, timer, waiting⟩ :=
          asked ent mem
        refine ⟨before, param, permitDuration, after ++ [call], by simp, fun more here => ?_, some_,
          limited, timer, ?_⟩
        · rcases List.mem_append.1 here with before | now
          · exact last more before
          · rw [List.mem_singleton.1 now]
            exact request
        · rw [ticksOf_snoc]
          exact other_waits ok request taken mem waiting
      · refine ⟨ok', fun ent mem => ?_⟩
        rw [none_] at mem
        cases mem

theorem asked_run (quiet : Along step Quiet (.start null timer router) calls)
    (ran : run step (.start null timer router) calls = some s) : DoorOk s ∧ Asked calls s := by
  induction calls using List.reverseRecOn generalizing s with
  | nil =>
      obtain rfl := Option.some.inj ran
      refine ⟨doorOk_start, fun ent mem => ?_⟩
      have none_ : ent ∈ timeouts (SchedState.start null timer) := mem
      rw [timeouts_start] at none_
      cases none_
  | append_singleton calls call ih =>
      obtain ⟨t, before, taken⟩ := run_snoc.1 ran
      obtain ⟨quietBefore, quietThen⟩ := along_append.1 quiet
      obtain ⟨ok, asked⟩ := ih quietBefore before
      exact asked_step ok asked (quietThen t before).1 taken

/-- The timer table has room when a permission is asked for. -/
def Roomy (s : State) (call : Call) : Prop := call.isRequest = true → freeOf s.sched ≠ []

/-- Where the timer table has room at each request, a permission that is flagged has its alarm. -/
theorem pending_run (quiet : Along step Quiet (.start null timer router) calls)
    (roomy : Along step Roomy (.start null timer router) calls)
    (ran : run step (.start null timer router) calls = some s) :
    timeouts s.sched = [] → s.router.permitJoin = false := by
  have keeps : ∀ t call u, DoorOk t ∧ (timeouts t.sched = [] → t.router.permitJoin = false) →
      Quiet t call ∧ Roomy t call → step t call = some u →
        DoorOk u ∧ (timeouts u.sched = [] → u.router.permitJoin = false) := by
    rintro t call u ⟨ok, closed⟩ ⟨quiet, room⟩ taken
    cases request : call.isRequest with
    | true =>
        obtain ⟨param, permitDuration, rfl⟩ := isRequest_iff.1 request
        obtain ⟨ok', -, granted⟩ := request_spec ok taken
        exact ⟨ok', granted (room request)⟩
    | false =>
        obtain ⟨ok', ⟨same, flag⟩ | ⟨-, shut⟩⟩ := other_spec ok request quiet taken
        · refine ⟨ok', fun none_ => ?_⟩
          rw [flag]
          exact closed (same ▸ none_)
        · exact ⟨ok', fun _ => shut⟩
  exact (run_invariant keeps ⟨doorOk_start, fun _ => rfl⟩ (quiet.and roomy) ran).2

/-- **A permission ends as the last request has said**, if no reset comes before its alarm.  At most one
alarm is pending; when one fires, the last request of all was for a time, and that is over; and as
long as the timer table has room, the alarm of a flagged permission is there. -/
theorem permission_of_request (quiet : Along step Quiet (.start null timer router) calls)
    (ran : run step (.start null timer router) calls = some s) :
    (timeouts s.sched).length ≤ 1 ∧
      (∀ brk, fired (schedLoop brk s.sched) = some .nwkPermitTimeout →
        LastAsked (fun permitDuration after => (permitTicks permitDuration).toNat ≤ ticksOf after)
          calls) ∧
      (Along step Roomy (.start null timer router) calls →
        s.router.permitJoin = true → timeouts s.sched ≠ []) := by
  obtain ⟨ok, asked⟩ := asked_run quiet ran
  refine ⟨ok.once, fun brk fires => ?_, fun roomy flag none_ => ?_⟩
  · obtain ⟨ent, mem, time, now, due⟩ := fired_due ok.parts fires
    obtain ⟨before, param, permitDuration, after, split, last, some_, limited, asked', waiting⟩ :=
      asked ent mem
    refine ⟨before, param, permitDuration, after, split, last, some_, limited, ?_⟩
    rw [waiting.runTime] at due
    rcases waitsOut_none_iff.2 (permitTicks_waits permitDuration) with zero | ⟨waits, -⟩
    · rw [zero]
      exact Nat.zero_le _
    · rcases waiting.read time now with before | ⟨j, le, rfl⟩
      · cases before
      · exact (le_of_timeGe waits due).trans le
  · rw [pending_run quiet roomy ran none_] at flag
    cases flag

end Runs

/-- A router before it is started; four children are allowed. -/
def freshRouter : Router where
  deviceType := zbNwkDeviceTypeNone
  depth := 1
  extendedPanId := Vector.replicate 8 1
  updateId := 0
  maxChildren := 4
  routerChildNum := 0
  edChildNum := 0
  permitJoin := false
  mac :=
    { devFfd := false
      macBsn := 0
      macPanId := 0x1AAA
      macShortAddress := 1
      macBeaconOrder := 15
      macSuperframeOrder := 15
      macBattLifeExt := 0
      macAssociationPermit := 0
      macBeaconPayload := .zero
      macBeaconPayloadLength := 0
      apsDesignatedCoordinator := 0 }

/-- The router is started, and a second of joining is asked for and over. -/
def oneSecond : List Call :=
  [.startConfirm true .router, .callback 0 0, .loop false, .permitJoining 0 1, .loop false,
    .loop false, .loop false, .tick 65, .loop false]

theorem permission_of_request_second :
    ∃ s, run step (.start (.other 0) 0 freshRouter) oneSecond = some s ∧
      fired (schedLoop false s.sched) = some .nwkPermitTimeout ∧
      LastAsked (fun permitDuration after => (permitTicks permitDuration).toNat ≤ ticksOf after)
        oneSecond := by
  have others : Along step (fun _ call => call ≠ .reset) (.start (.other 0) 0 freshRouter) oneSecond :=
    along_of_mem (by simp [oneSecond])
  have quiet : Along step Quiet (.start (.other 0) 0 freshRouter) oneSecond :=
    others.mono fun _ _ other reset => absurd reset other
  have ran : run step (.start (.other 0) 0 freshRouter) oneSecond = some _ := rfl
  exact ⟨_, ran, rfl, (permission_of_request quiet ran).2.1 false rfl⟩

/-! ## What the beacons tell -/

/-- What is stored of the payload fits the permission, unless nobody may join. -/
structure Advertised (mac : BeaconSource) : Prop where
  permit : mac.macAssociationPermit = 0 ∨
    mac.macAssociationPermit = 1 ∧ mac.macBeaconPayload.routerCapacity = 1 ∧
      mac.macBeaconPayload.endDeviceCapacity = 1
  stored : mac.macBeaconPayloadLength = 0 ∨
    mac.macBeaconPayloadLength = sizeofBeaconPayload ∧ mac.macBeaconPayload.protocolId = 0 ∧
      mac.macBeaconPayload.stackProfile = zbStackProfile ∧
      mac.macBeaconPayload.protocolVersion = zbProtocolVersion

section Advertised

variable {r : Router}

theorem Advertised.bit {mac : BeaconSource} (adv : Advertised mac) :
    mac.macAssociationPermit = 0 ∨ mac.macAssociationPermit = 1 :=
  adv.permit.imp id And.left

/-- Nobody may join: the capacities do not matter. -/
theorem Advertised.closed {mac : BeaconSource} (adv : Advertised mac) :
    Advertised { mac with macAssociationPermit := 0 } :=
  ⟨.inl rfl, adv.stored⟩

/-- An update stores what is so. -/
theorem advertised_update (bit : r.mac.macAssociationPermit = 0 ∨ r.mac.macAssociationPermit = 1) :
    Advertised (zbNwkUpdateBeaconPayload r).mac := by
  refine ⟨?_, .inr ⟨rfl, rfl, rfl, rfl⟩⟩
  rw [zbNwkUpdateBeaconPayload]
  dsimp only
  by_cases shallow : r.depth < zbNwkMaxDepth
  · rw [if_pos shallow]
    rcases bit with none_ | one
    · exact .inl none_
    · rw [one]
      exact .inr ⟨rfl, rfl, rfl⟩
  · exact .inl (if_neg shallow)

theorem advertised_request {param permitDuration : UInt8} {s t : State}
    (adv : Advertised s.router.mac) (taken : step s (.permitJoining param permitDuration) = some t) :
    Advertised t.router.mac := by
  rw [step] at taken
  split at taken
  · obtain ⟨⟨u, status⟩, requested, rfl⟩ := Option.map_eq_some_iff.1 taken
    obtain ⟨s₁, cancelled, rest⟩ := Option.bind_eq_some_iff.1 requested
    obtain ⟨⟨s₂, status'⟩, permitted, rest⟩ := Option.bind_eq_some_iff.1 rest
    obtain ⟨sched, -, done⟩ := Option.bind_eq_some_iff.1 rest
    obtain ⟨rfl, rfl⟩ := Prod.mk.inj (Option.some.inj done)
    have adv₁ : Advertised s₁.router.mac := by
      rw [cancelPermit] at cancelled
      split at cancelled
      · obtain ⟨sched', -, done⟩ := Option.bind_eq_some_iff.1 cancelled
        obtain rfl := Option.some.inj done
        exact adv
      · obtain rfl := Option.some.inj cancelled
        exact adv
    rw [changePermit] at permitted
    split at permitted
    · obtain ⟨s', opened, done⟩ := Option.bind_eq_some_iff.1 permitted
      obtain ⟨rfl, rfl⟩ := Prod.mk.inj (Option.some.inj done)
      refine advertised_update ?_
      rw [permitFor] at opened
      split at opened
      · obtain rfl := Option.some.inj opened
        exact .inl rfl
      · split at opened
        · obtain rfl := Option.some.inj opened
          exact .inr rfl
        · obtain ⟨sched', -, done⟩ := Option.bind_eq_some_iff.1 opened
          obtain rfl := Option.some.inj done
          exact .inr rfl
    · obtain ⟨rfl, rfl⟩ := Prod.mk.inj (Option.some.inj permitted)
      exact adv₁
  · cases taken

theorem advertised_full (adv : Advertised r.mac) : Advertised (disableWhenFull r).mac := by
  rw [disableWhenFull]
  split
  · exact advertised_update (.inl rfl)
  · exact adv

theorem advertised_startConfirm {success : Bool} {state : ZbNlmeState} {r' : Router}
    (adv : Advertised r.mac) (taken : zbMlmeStartConfirm success state r = some r') :
    Advertised r'.mac := by
  cases success with
  | false =>
      obtain rfl := Option.some.inj taken
      exact adv
  | true =>
      cases state with
      | router =>
          obtain rfl := Option.some.inj taken
          refine advertised_update ?_
          show (if _ then (1 : UInt8) else 0) = 0 ∨ (if _ then (1 : UInt8) else 0) = 1
          split
          · exact .inr rfl
          · exact .inl rfl
      | formation =>
          obtain rfl := Option.some.inj taken
          exact advertised_update adv.bit
      | panidConflictResolution =>
          obtain rfl := Option.some.inj taken
          exact adv
      | _ => cases taken

theorem advertised_step {s t : State} {call : Call} (adv : Advertised s.router.mac)
    (taken : step s call = some t) : Advertised t.router.mac := by
  have onSched_kept : ∀ c : SchedCall Callback, onSched s c = some t → Advertised t.router.mac := by
    intro c taken
    obtain ⟨sched, -, rfl⟩ := Option.map_eq_some_iff.1 taken
    exact adv
  cases call with
  | permitJoining param permitDuration => exact advertised_request adv taken
  | children router ed =>
      obtain rfl := Option.some.inj taken
      exact adv
  | associate router ed =>
      obtain rfl := Option.some.inj taken
      exact advertised_full (r := { s.router with routerChildNum := router, edChildNum := ed }) adv
  | updateBeaconPayload =>
      obtain rfl := Option.some.inj taken
      exact advertised_update adv.bit
  | startConfirm success state =>
      obtain ⟨router, started, rfl⟩ := Option.map_eq_some_iff.1 taken
      exact advertised_startConfirm adv started
  | networkUpdate updateId =>
      obtain rfl := Option.some.inj taken
      exact advertised_update (r := { s.router with updateId := updateId - 1 }) adv.bit
  | joined depth extendedPanId =>
      obtain rfl := Option.some.inj taken
      exact adv
  | setDeviceType deviceType =>
      obtain rfl := Option.some.inj taken
      exact ⟨adv.permit, adv.stored⟩
  | setPib macPanId macShortAddress macBeaconOrder macSuperframeOrder =>
      obtain rfl := Option.some.inj taken
      exact ⟨adv.permit, adv.stored⟩
  | setUpdateId updateId =>
      obtain rfl := Option.some.inj taken
      exact adv
  | reset =>
      obtain rfl := Option.some.inj taken
      exact adv
  | beaconReq coordinatorRole macExtendedAddress =>
      obtain ⟨⟨frame, mac⟩, sent, rfl⟩ := Option.map_eq_some_iff.1 taken
      rcases handleBeaconReq_mac sent with same | counted
      · show Advertised mac
        rw [same]
        exact adv
      · show Advertised mac
        rw [counted]
        exact ⟨adv.permit, adv.stored⟩
  | callback n param => exact onSched_kept _ taken
  | alarm n param runAfter => exact onSched_kept _ taken
  | cancel n param => exact onSched_kept _ taken
  | tick ticks => exact onSched_kept _ taken
  | loop brk =>
      obtain rfl := Option.some.inj taken
      show Advertised (if _ then nwkPermitTimeout s.router else s.router).mac
      split
      · exact adv.closed
      · exact adv

theorem advertised_run {null : Callback} {timer : ZbTime} {router : Router} {calls : List Call}
    {s : State} (ran : run step (.start null timer router) calls = some s) :
    Advertised s.router.mac := by
  have keeps : ∀ t call u, Advertised t.router.mac → step t call = some u → Advertised u.router.mac :=
    fun _ _ _ adv taken => advertised_step adv taken
  exact run_invariant_of_step keeps ⟨.inl rfl, .inl rfl⟩ ran

end Advertised

/-! ## Who reads them -/

/-- `enbt->potential_parent`: `routerRole` in a build with that role, on a device that is no end
device. -/
def potentialParent (routerRole : Bool) (en : ZbExtNeighborTblEnt) : Bool :=
  if routerRole && en.stackProfile != 2 then en.permitJoining && en.routerCapacity
  else en.permitJoining && en.endDeviceCapacity

/-- **A beacon tells what is so**: whatever the history, who scans takes the beacon of a device for one
of its own protocol, and its sender for a parent to join exactly if that permits joining now. -/
theorem beacon_truth {null : Callback} {timer : ZbTime} {router : Router} {calls : List Call}
    {s : State} (ran : run step (.start null timer router) calls = some s) {coordinatorRole : Bool}
    {macExtendedAddress : ZbIeeeAddr} {frame : List UInt8} {mac : BeaconSource}
    (sent : zbHandleBeaconReq coordinatorRole macExtendedAddress s.router.mac = some (some frame, mac))
    (logicalChannel : UInt8) (rest : List UInt8) :
    ∃ payload, (beaconOf logicalChannel (frame ++ rest)).payload = some payload ∧
      payload.protocolId = 0 ∧ payload.protocolVersion = zbProtocolVersion ∧
      ∀ routerRole panidRef en, potentialParent routerRole
          (fillExNeighbor (beaconOf logicalChannel (frame ++ rest)) payload panidRef en) =
        (s.router.mac.macAssociationPermit != 0) := by
  have adv := advertised_run ran
  generalize s.router.mac = source at adv sent
  have answers : Answers source := by
    rw [zbHandleBeaconReq] at sent
    split at sent
    · next asked => exact ⟨asked.1, (adv.stored.resolve_left asked.2).1⟩
    · cases (Prod.mk.inj (Option.some.inj sent)).1
  obtain ⟨protocolId, stackProfile, protocolVersion⟩ :=
    (adv.stored.resolve_left (by rw [answers.2]; decide)).2
  have made := (handleBeaconReq_answers coordinatorRole macExtendedAddress answers).symm.trans sent
  obtain rfl := Option.some.inj (Prod.mk.inj (Option.some.inj made)).1
  rw [beaconOf_sent]
  refine ⟨_, rfl, protocolId, ?_, fun routerRole panidRef en => ?_⟩
  · show source.macBeaconPayload.protocolVersion &&& 0x0F = zbProtocolVersion
    rw [protocolVersion]
    rfl
  · have permit := (superframe_bits coordinatorRole (beaconFrameParams source) source).2.2
    have read : zbMacGetAssociationPermit
        (beaconSaid coordinatorRole logicalChannel source).superframeSpec =
          (source.macAssociationPermit &&& 1 != 0) := permit
    rw [potentialParent]
    simp only [fillExNeighbor, read, readPayload, stackProfile]
    rcases adv.permit with none_ | ⟨one, router, endDevice⟩
    · rw [none_]
      cases routerRole <;> rfl
    · rw [one, router, endDevice]
      cases routerRole <;> rfl

theorem beacon_truth_started :
    ∃ s frame mac, run step (.start (.other 0) 0 freshRouter) [.startConfirm true .router] = some s ∧
      zbHandleBeaconReq false (Vector.replicate 8 0) s.router.mac = some (some frame, mac) ∧
      ∃ payload, (beaconOf 11 (frame ++ [0xFF])).payload = some payload ∧
        ∀ routerRole panidRef en, potentialParent routerRole
            (fillExNeighbor (beaconOf 11 (frame ++ [0xFF])) payload panidRef en) = true := by
  have sent := handleBeaconReq_answers false (Vector.replicate 8 0)
    (s := (zbNwkUpdateBeaconPayload ((zbNwkSetDeviceType zbNwkDeviceTypeRouter freshRouter).setPermit 1)).mac)
    ⟨rfl, rfl⟩
  have ran : run step (.start (.other 0) 0 freshRouter) [.startConfirm true .router] = some _ := rfl
  obtain ⟨payload, is, -, -, truth⟩ := beacon_truth ran sent 11 [0xFF]
  exact ⟨_, _, _, ran, sent, payload, is, truth⟩

end Zboss.Nwk.PermitJoin
