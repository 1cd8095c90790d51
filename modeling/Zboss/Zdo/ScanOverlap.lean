/-
# Zdo.ScanOverlap -- one context for three operations

A scan for another device, an interference check and the lookup of a peer each write
what they were started with into one union, and read it back when a callback comes.
Nothing marks the union as taken.  As long as an operation starts only when no other
is in progress, the context is its own until it ends (`Serves`), and everything it does
is what it was started for (`right_of_alone`).  With two in progress the second has
written over the first.

One more thing is left behind by a lookup, and by a scan that has failed: a number of scans
to go.  A request for no scan at all is answered at once, and the answer goes on to scan
when this number is not zero.

Pole: `answered_to_another`.
-/
import Mathlib
import Zboss.Common.Constants
import Zboss.Theory.Run
import Zboss.Zdo.CheckLimit

namespace Zboss.Zdo.ScanOverlap

open Zboss.Common.Constants
open Zboss.Theory.Run
open Zboss.Common.Types
open Zboss.Zdo.ChannelChange
open Zboss.Zdo.ScanContext
open Zboss.Zdo.CheckLimit

set_option autoImplicit false

/-! ## What an operation should do -/

/-- **What an operation was started for**: a lookup asks for its device and calls its callback
with its parameter; a scan is of the channels and the duration asked for, no more often than asked
for, and its confirm is taken as its own; the answer goes to the device that asked, with its
transaction number, and is the last one exactly when the scans are through or one has failed. -/
def Right : ScanOut → Prop
  | .scans op rq => rq = ⟨op.scanChannels, op.scanDuration⟩ ∧ op.ran ≤ op.scanCount.toNat
  | .confirms op confirmed =>
      if op.check then confirmed = .checkScanResult else ∃ param, confirmed = .updNotify param
  | .reports _ confirmed => ∃ param, confirmed = .updNotify param
  | .answers op notified =>
      notified.dstAddr = op.dstAddr ∧
        (op.check = false → notified.withAck = false ∧ notified.tsn = op.tsn) ∧
        (notified.again = true ↔
          notified.notify.status = zbZdpStatusSuccess ∧ op.ran < op.scanCount.toNat)
  | .asks lookup dstAddrRef => dstAddrRef = lookup.dstAddrRef
  | .calls lookup callback =>
      callback = if lookup.cb ≠ 0 then some (lookup.cb, lookup.param) else none

/-- The callback belongs to an operation. -/
def isOp : ZdoTask → Bool
  | .longTimer => false
  | .channelChangeTimer => false
  | .newChannel _ => false
  | _ => true

/-- The operations in progress. -/
def busy (s : ZdoScan) : Nat := s.pending.countP isOp

section Runs

variable (beyond : UInt8 → UInt32)

/-- Everything a step does for an operation is what that one was started for. -/
def OpsRight (s : ZdoScan) (call : ZdoCall) : Prop :=
  ∀ e, effect beyond s call = some e → ∀ out ∈ e.outs, Right out

/-- An operation starts when none is in progress; where it is over at once and has succeeded,
there are no scans to go. -/
def alone (s : ZdoScan) : ZdoCall → Bool
  | .checkFails _ => !checkDue s.globals || busy s == 0
  | .startGetPeerShortAddr _ => busy s == 0
  | .updateReq ind apsBody =>
      match zbZdoMgmtNwkUpdateHandler beyond ind apsBody with
      | some (.edScan _ _ _ _) => busy s == 0
      | some (.updNotify status _ _) =>
          busy s == 0 && (status != zbZdpStatusSuccess || s.globals.zdoCtx.scanCount == 0)
      | _ => true
  | _ => true

end Runs

/-! ## Whose context it is -/

/-- Nobody's confirm is expected, and no acknowledgement. -/
structure Idle (g : ZdoGlobals) : Prop where
  zdoEdScan : g.zdoEdScan = false
  noAck : zbZdoGetSendWithAck g.flags = false

/-- The context is that of a scan in progress. -/
structure Holds (g : ZdoGlobals) (op : ScanOp) : Prop where
  channels : g.zdoCtx.scanChannels = op.scanChannels
  duration : g.zdoCtx.scanDuration = op.scanDuration
  count : g.zdoCtx.scanCount.toNat + op.ran = op.scanCount.toNat
  asked : op.check = false → g.zdoEdScan = true ∧ g.zdoCtx.dstAddr = op.dstAddr ∧
    g.zdoCtx.tsn = op.tsn
  checks : op.check = true → g.zdoEdScan = false ∧ g.channelManagerEdScan = true ∧
    op.scanCount = 1
  noAck : zbZdoGetSendWithAck g.flags = false

/-- The context is that of a lookup in progress. -/
structure Looks (g : ZdoGlobals) (lookup : Lookup) : Prop where
  dstAddrRef : g.zdoCtx.dstAddrRef = lookup.dstAddrRef
  cb : g.zdoCtx.cb = lookup.cb
  param : g.zdoCtx.param = lookup.param
  idle : Idle g

/-- **The context serves the operation** that a callback belongs to. -/
def Serves (g : ZdoGlobals) : ZdoTask → Prop
  | .startEdScan op => Holds g op ∧ op.ran < op.scanCount.toNat
  | .edScan op _ => Holds g op ∧ 0 < op.ran
  | .checkScanResult op _ => Holds g op ∧ op.check = true ∧ op.scanCount.toNat ≤ op.ran
  | .updNotify op param =>
      param.dstAddr = op.dstAddr ∧
        (op.check = false → param.tsn = op.tsn ∧ Holds g op) ∧
        (op.check = true → g.zdoCtx.scanCount = 0 ∧ op.scanCount.toNat ≤ op.ran)
  | .getPeerShortAddr lookup => Looks g lookup
  | .nwkAddrReq lookup => Looks g lookup
  | _ => True

/-- **The invariant**: at most one operation is in progress, and the context serves it. -/
structure OverlapOk (s : ZdoScan) : Prop where
  few : busy s ≤ 1
  serves : ∀ task ∈ s.pending, Serves s.globals task
  idle : busy s = 0 → Idle s.globals

/-- What the effect of a step on its own operation has to be. -/
structure EffectOk (e : Effect) : Prop where
  few : e.tasks.countP isOp ≤ 1
  serves : ∀ task ∈ e.tasks, Serves e.globals task
  idle : e.tasks.countP isOp = 0 → Idle e.globals
  outs : ∀ out ∈ e.outs, Right out

section Effects

variable {g g' : ZdoGlobals} {op : ScanOp} {lookup : Lookup} {task : ZdoTask}

theorem Holds.confirmed (holds : Holds g op) (scanned : ZbMacScanConfirm) :
    if op.check then zbNlmeEdScanConfirm scanned g = .checkScanResult
    else ∃ param, zbNlmeEdScanConfirm scanned g = .updNotify param ∧ param.tsn = op.tsn ∧
      param.dstAddr = op.dstAddr := by
  unfold zbNlmeEdScanConfirm
  cases check : op.check with
  | false =>
      obtain ⟨scan, dst, tsn⟩ := holds.asked check
      rw [scan]
      exact ⟨_, rfl, tsn, dst⟩
  | true =>
      obtain ⟨scan, manager, -⟩ := holds.checks check
      rw [scan, manager]
      rfl

/-- Starting a scan. -/
theorem startEffect_ok (holds : Holds g op) (more : op.ran < op.scanCount.toNat) :
    EffectOk (startEffect op g) := by
  have count := holds.count
  have one : (1 : UInt8) ≤ g.zdoCtx.scanCount := by
    rw [UInt8.le_iff_toNat_le]
    show 1 ≤ _
    omega
  have less : (g.zdoCtx.scanCount - 1).toNat = g.zdoCtx.scanCount.toNat - 1 :=
    UInt8.toNat_sub_of_le _ _ one
  refine ⟨Nat.le_refl 1, ?_, fun none_ => absurd none_ Nat.one_ne_zero, ?_⟩
  · intro task mem
    obtain rfl := List.mem_singleton.1 mem
    refine ⟨⟨holds.channels, holds.duration, ?_, holds.asked, holds.checks, holds.noAck⟩,
      Nat.succ_pos _⟩
    show (g.zdoCtx.scanCount - 1).toNat + (op.ran + 1) = op.scanCount.toNat
    rw [less]
    omega
  · intro out mem
    obtain rfl := List.mem_singleton.1 mem
    refine ⟨?_, more⟩
    show ZbNlmeEdScanRequest.mk g.zdoCtx.scanChannels g.zdoCtx.scanDuration = _
    rw [holds.channels, holds.duration]

/-- The notify of a request, after a scan or at once. -/
theorem notifyEffect_ok (param : ZbZdoMgmtNwkUpdateNotifyParam) (dst : param.dstAddr = op.dstAddr)
    (asked : op.check = false → param.tsn = op.tsn ∧ zbZdoGetSendWithAck g.flags = false)
    (more : param.notify.status = zbZdpStatusSuccess →
      (g.zdoCtx.scanCount ≠ 0 ↔ op.ran < op.scanCount.toNat))
    (again : param.notify.status = zbZdpStatusSuccess → g.zdoCtx.scanCount ≠ 0 →
      op.check = false ∧ Holds { g with zdoEdScan := true } op) :
    EffectOk (notifyEffect op param g) := by
  have afterwards : zbZdoGetSendWithAck (zbZdoNwkUpdNotify param g).1.flags = false := by
    show zbZdoGetSendWithAck
      (if zbZdoGetSendWithAck g.flags then zbZdoClearSendWithAck g.flags else g.flags) = false
    split
    · exact getFlag_clearFlag _ _ _
    · rename_i clear
      exact Bool.eq_false_iff.2 clear
  have out : Right (.answers op (zbZdoNwkUpdNotify param g).2) := by
    refine ⟨dst, fun check => ?_, ?_⟩
    · obtain ⟨tsn, noAck⟩ := asked check
      have first : (zbZdoNwkUpdNotify param g).2.withAck = false := noAck
      refine ⟨first, ?_⟩
      show (if zbZdoGetSendWithAck g.flags then _ else param.tsn) = op.tsn
      rw [noAck, ← tsn]
      rfl
    · show (param.notify.status == zbZdpStatusSuccess && g.zdoCtx.scanCount != 0) = true ↔ _
      rw [Bool.and_eq_true, beq_iff_eq, bne_iff_ne]
      exact and_congr_right more
  cases goes : param.notify.status == zbZdpStatusSuccess && g.zdoCtx.scanCount != 0 with
  | false =>
      have effect : notifyEffect op param g = ⟨(zbZdoNwkUpdNotify param g).1, [],
          [.answers op (zbZdoNwkUpdNotify param g).2]⟩ := by
        simp [notifyEffect, zbZdoNwkUpdNotify, goes]
      rw [effect]
      refine ⟨Nat.zero_le _, fun _ mem => absurd mem List.not_mem_nil, fun _ => ⟨goes, afterwards⟩,
        fun _ mem => ?_⟩
      obtain rfl := List.mem_singleton.1 mem
      exact out
  | true =>
      have effect : notifyEffect op param g = ⟨(zbZdoNwkUpdNotify param g).1, [.startEdScan op],
          [.answers op (zbZdoNwkUpdNotify param g).2]⟩ := by
        simp [notifyEffect, zbZdoNwkUpdNotify, goes]
      rw [Bool.and_eq_true, beq_iff_eq, bne_iff_ne] at goes
      obtain ⟨success, some_⟩ := goes
      obtain ⟨check, holds⟩ := again success some_
      rw [effect]
      refine ⟨Nat.le_refl 1, fun _ mem => ?_, fun none_ => absurd none_ Nat.one_ne_zero,
        fun _ mem => ?_⟩
      · obtain rfl := List.mem_singleton.1 mem
        refine ⟨⟨holds.channels, holds.duration, holds.count, fun _ => ⟨?_, (holds.asked check).2⟩,
          fun yes => absurd (check.symm.trans yes) Bool.false_ne_true, afterwards⟩,
          (more success).1 some_⟩
        show (param.notify.status == zbZdpStatusSuccess && g.zdoCtx.scanCount != 0) = true
        simp [success, some_]
      · obtain rfl := List.mem_singleton.1 mem
        exact out

/-- **A callback of an operation** whose context it is. -/
theorem runTask_ok (scanned : ZbMacScanConfirm) (mine : isOp task = true) (serves : Serves g task) :
    EffectOk (runTask scanned g task) := by
  cases task with
  | longTimer => cases mine
  | channelChangeTimer => cases mine
  | newChannel channel => cases mine
  | startEdScan op => exact startEffect_ok serves.1 serves.2
  | edScan op rq =>
      obtain ⟨holds, some_⟩ := serves
      have confirmed := holds.confirmed scanned
      cases check : op.check with
      | true =>
          rw [check, if_pos rfl] at confirmed
          have effect : runTask scanned g (.edScan op rq) =
              ⟨g, [.checkScanResult op scanned], [.confirms op .checkScanResult]⟩ := by
            simp only [runTask, confirmed, confirmTasks]
          have one := (holds.checks check).2.2
          rw [effect]
          refine ⟨Nat.le_refl 1, fun _ mem => ?_, fun none_ => absurd none_ Nat.one_ne_zero,
            fun _ mem => ?_⟩
          · obtain rfl := List.mem_singleton.1 mem
            refine ⟨holds, check, ?_⟩
            rw [one]
            exact some_
          · obtain rfl := List.mem_singleton.1 mem
            simp [Right, check]
      | false =>
          rw [check, if_neg Bool.false_ne_true] at confirmed
          obtain ⟨param, is, tsn, dst⟩ := confirmed
          have effect : runTask scanned g (.edScan op rq) =
              ⟨g, [.updNotify op param], [.confirms op (.updNotify param)]⟩ := by
            simp only [runTask, is, confirmTasks]
          rw [effect]
          refine ⟨Nat.le_refl 1, fun _ mem => ?_, fun none_ => absurd none_ Nat.one_ne_zero,
            fun _ mem => ?_⟩
          · obtain rfl := List.mem_singleton.1 mem
            exact ⟨dst, fun _ => ⟨tsn, holds⟩,
              fun yes => absurd (check.symm.trans yes) Bool.false_ne_true⟩
          · obtain rfl := List.mem_singleton.1 mem
            simp [Right, check]
  | checkScanResult op confirm =>
      obtain ⟨holds, check, through⟩ := serves
      obtain ⟨scan, -, one⟩ := holds.checks check
      simp only [runTask, zbZdoChannelCheckScanResult]
      split
      · rename_i g' confirmed reported
        split at reported
        · obtain ⟨rfl, is⟩ := Prod.mk.inj reported
          obtain rfl := Option.some.inj is
          refine ⟨Nat.le_refl 1, fun _ mem => ?_, fun none_ => absurd none_ Nat.one_ne_zero,
            fun _ mem => ?_⟩
          · obtain rfl := List.mem_singleton.1 mem
            exact ⟨rfl, fun no => absurd (check.symm.trans no) (by decide), fun _ => ⟨rfl, through⟩⟩
          · obtain rfl := List.mem_singleton.1 mem
            exact ⟨_, rfl⟩
        · cases reported
      · rename_i g' freed
        split at freed
        · cases freed
        · obtain ⟨rfl, -⟩ := Prod.mk.inj freed
          exact ⟨Nat.zero_le _, fun _ mem => absurd mem List.not_mem_nil,
            fun _ => ⟨scan, holds.noAck⟩, fun _ mem => absurd mem List.not_mem_nil⟩
  | updNotify op param =>
      obtain ⟨dst, asked, checks⟩ := serves
      refine notifyEffect_ok param dst (fun check => ?_) (fun _ => ?_) (fun _ some_ => ?_)
      · obtain ⟨tsn, holds⟩ := asked check
        exact ⟨tsn, holds.noAck⟩
      · cases check : op.check with
        | false =>
            have count := (asked check).2.count
            rw [ne_eq, ← UInt8.toNat_inj, UInt8.toNat_zero]
            omega
        | true =>
            obtain ⟨zero, through⟩ := checks check
            exact iff_of_false (fun some_ => some_ zero) (Nat.not_lt.2 through)
      · cases check : op.check with
        | false =>
            have holds := (asked check).2
            exact ⟨rfl, holds.channels, holds.duration, holds.count,
              fun no => ⟨rfl, (holds.asked no).2⟩,
              fun yes => absurd (check.symm.trans yes) Bool.false_ne_true, holds.noAck⟩
        | true => exact absurd (checks check).1 some_
  | getPeerShortAddr lookup =>
      refine ⟨Nat.le_refl 1, fun _ mem => ?_, fun none_ => absurd none_ Nat.one_ne_zero,
        fun _ mem => ?_⟩
      · obtain rfl := List.mem_singleton.1 mem
        exact serves
      · obtain rfl := List.mem_singleton.1 mem
        exact serves.dstAddrRef
  | nwkAddrReq lookup =>
      refine ⟨Nat.zero_le _, fun _ mem => absurd mem List.not_mem_nil, fun _ => serves.idle,
        fun _ mem => ?_⟩
      obtain rfl := List.mem_singleton.1 mem
      show zbGetPeerShortAddrCb g = _
      rw [zbGetPeerShortAddrCb, serves.cb, serves.param]

/-! ## Starting an operation -/

theorem checkFails_ok (idle : Idle g) (due : checkDue g = true) :
    EffectOk ⟨zbZdoCheckFails g, [.startEdScan checkOp], []⟩ := by
  have after : zbZdoCheckFails g = { g with
      flags := zbZdoSetCheckFails g.flags
      zdoCtx := ⟨zbDefaultApsChannelMask, zbDefaultScanDuration, 1, 0, 0⟩
      channelManagerEdScan := true } := if_pos due
  have noAck : zbZdoGetSendWithAck (zbZdoSetCheckFails g.flags) = false :=
    (getFlag_setFlag (by decide) g.flags).trans idle.noAck
  rw [after]
  refine ⟨Nat.le_refl 1, fun _ mem => ?_, fun none_ => absurd none_ Nat.one_ne_zero,
    fun _ mem => absurd mem List.not_mem_nil⟩
  obtain rfl := List.mem_singleton.1 mem
  exact ⟨⟨rfl, rfl, rfl, fun no => absurd no (by decide), fun _ => ⟨idle.zdoEdScan, rfl, rfl⟩, noAck⟩,
    Nat.one_pos⟩

theorem startLookup_ok (idle : Idle g) (lookup : Lookup) :
    EffectOk ⟨zbStartGetPeerShortAddr lookup.dstAddrRef lookup.cb lookup.param g,
      [.getPeerShortAddr lookup], []⟩ := by
  refine ⟨Nat.le_refl 1, fun _ mem => ?_, fun none_ => absurd none_ Nat.one_ne_zero,
    fun _ mem => absurd mem List.not_mem_nil⟩
  obtain rfl := List.mem_singleton.1 mem
  exact ⟨dstAddrRef_ofGetShortAddrCtx _ _ _, cb_ofGetShortAddrCtx _ _ _,
    param_ofGetShortAddrCtx _ _ _, idle.zdoEdScan, idle.noAck⟩

section Requests

variable {beyond : UInt8 → UInt32} {ind : UpdateInd} {apsBody : List UInt8} {handled : UpdateHandled}

/-- What a request is taken for. -/
def TakenFor (op : ScanOp) : UpdateHandled → Prop
  | .edScan req scanCount dstAddr tsn =>
      op = ⟨false, req.scanChannels, req.scanDuration, scanCount, dstAddr, tsn, 0⟩ ∧ scanCount ≠ 0
  | .updNotify status tsn dstAddr =>
      tsn = op.tsn ∧ dstAddr = op.dstAddr ∧ op.check = false ∧ op.ran = 0 ∧
        (status = zbZdpStatusSuccess → op.scanCount = 0)
  | _ => True

theorem sendResp_takenFor (status : UInt8)
    (none_ : status = zbZdpStatusSuccess → (requestOp ind apsBody).scanCount = 0) :
    TakenFor (requestOp ind apsBody) (sendResp ind status (apsBody.getD 0 0)) := by
  unfold sendResp
  split
  · exact ⟨rfl, rfl, rfl, rfl, none_⟩
  · trivial

theorem handler_takenFor (is : zbZdoMgmtNwkUpdateHandler beyond ind apsBody = some handled) :
    TakenFor (requestOp ind apsBody) handled := by
  unfold zbZdoMgmtNwkUpdateHandler at is
  dsimp only at is
  split at is
  · split at is
    · obtain ⟨i, -, rfl⟩ := Option.map_eq_some_iff.1 is
      trivial
    · cases is
      trivial
  · split at is
    · cases is
      trivial
    · split at is
      · split at is
        · cases is
          exact sendResp_takenFor _ fun no => absurd no (by decide)
        · split at is
          · rename_i some_
            cases is
            refine ⟨rfl, fun zero => ?_⟩
            rw [zero] at some_
            exact absurd some_ (by decide)
          · rename_i none_
            cases is
            exact sendResp_takenFor _ fun _ => UInt8.le_zero_iff.1 (UInt8.not_lt.1 none_)
      · split at is
        · cases is
          exact sendResp_takenFor _ fun no => absurd no (by decide)
        · cases is
          trivial

/-- A request for scans. -/
theorem updateEffect_edScan_ok {req : ZbZdoMgmtNwkUpdateReqHdr} {scanCount tsn : UInt8}
    {dstAddr : UInt16} (idle : Idle g) (taken : TakenFor op (.edScan req scanCount dstAddr tsn)) :
    EffectOk (updateEffect op g (.edScan req scanCount dstAddr tsn)) := by
  obtain ⟨rfl, some_⟩ := taken
  refine startEffect_ok ⟨rfl, rfl, rfl, fun _ => ⟨rfl, rfl, rfl⟩, fun no => absurd no (by simp),
    idle.noAck⟩ ?_
  show 0 < scanCount.toNat
  refine Nat.pos_of_ne_zero fun zero => ?_
  exact some_ (UInt8.toNat_inj.1 zero)

/-- A request that is answered at once. -/
theorem updateEffect_updNotify_ok {status tsn : UInt8} {dstAddr : UInt16} (idle : Idle g)
    (taken : TakenFor op (.updNotify status tsn dstAddr))
    (none_ : status = zbZdpStatusSuccess → g.zdoCtx.scanCount = 0) :
    EffectOk (updateEffect op g (.updNotify status tsn dstAddr)) := by
  obtain ⟨tsn', dst, check, fresh, zero⟩ := taken
  refine notifyEffect_ok _ dst (fun _ => ⟨tsn', idle.noAck⟩) (fun success => ?_)
    (fun success some_ => absurd (none_ success) some_)
  refine iff_of_false (fun some_ => some_ (none_ success)) ?_
  rw [zero success]
  exact Nat.not_lt_zero _

end Requests

/-! ## What does not belong to an operation -/

/-- An effect that leaves the operations alone. -/
structure Quiet (g : ZdoGlobals) (e : Effect) : Prop where
  zdoCtx : e.globals.zdoCtx = g.zdoCtx
  zdoEdScan : e.globals.zdoEdScan = g.zdoEdScan
  channelManagerEdScan : e.globals.channelManagerEdScan = g.channelManagerEdScan
  noAck : zbZdoGetSendWithAck g.flags = false → zbZdoGetSendWithAck e.globals.flags = false
  tasks : e.tasks.countP isOp = 0
  outs : e.outs = []

variable {e : Effect}

theorem Quiet.idle (quiet : Quiet g e) (idle : Idle g) : Idle e.globals :=
  ⟨quiet.zdoEdScan.trans idle.zdoEdScan, quiet.noAck idle.noAck⟩

theorem Quiet.holds (quiet : Quiet g e) (holds : Holds g op) : Holds e.globals op := by
  obtain ⟨channels, duration, count, asked, checks, noAck⟩ := holds
  refine ⟨?_, ?_, ?_, ?_, ?_, quiet.noAck noAck⟩
  · rw [quiet.zdoCtx, channels]
  · rw [quiet.zdoCtx, duration]
  · rw [quiet.zdoCtx, count]
  · rw [quiet.zdoCtx, quiet.zdoEdScan]
    exact asked
  · rw [quiet.zdoEdScan, quiet.channelManagerEdScan]
    exact checks

theorem Quiet.looks (quiet : Quiet g e) (looks : Looks g lookup) : Looks e.globals lookup := by
  obtain ⟨dstAddrRef, cb, param, idle⟩ := looks
  refine ⟨?_, ?_, ?_, quiet.idle idle⟩
  · rw [quiet.zdoCtx, dstAddrRef]
  · rw [quiet.zdoCtx, cb]
  · rw [quiet.zdoCtx, param]

theorem Quiet.serves (quiet : Quiet g e) (serves : Serves g task) : Serves e.globals task := by
  cases task with
  | startEdScan op => exact ⟨quiet.holds serves.1, serves.2⟩
  | edScan op rq => exact ⟨quiet.holds serves.1, serves.2⟩
  | checkScanResult op confirm => exact ⟨quiet.holds serves.1, serves.2⟩
  | updNotify op param =>
      obtain ⟨dst, asked, checks⟩ := serves
      refine ⟨dst, fun no => ⟨(asked no).1, quiet.holds (asked no).2⟩, ?_⟩
      rw [quiet.zdoCtx]
      exact checks
  | getPeerShortAddr lookup => exact quiet.looks serves
  | nwkAddrReq lookup => exact quiet.looks serves
  | longTimer => trivial
  | channelChangeTimer => trivial
  | newChannel channel => trivial

theorem serves_of_not_op (other : isOp task = false) : Serves g task := by
  cases task with
  | longTimer => trivial
  | channelChangeTimer => trivial
  | newChannel channel => trivial
  | _ => cases other

theorem runTask_quiet (scanned : ZbMacScanConfirm) (other : isOp task = false) :
    Quiet g (runTask scanned g task) := by
  cases task with
  | longTimer =>
      simp only [runTask, zbZdoLongTimerCb]
      split <;> exact ⟨rfl, rfl, rfl, id, rfl, rfl⟩
  | channelChangeTimer =>
      exact ⟨rfl, rfl, rfl, fun _ => getFlag_clearFlag _ _ _, rfl, rfl⟩
  | newChannel channel => exact ⟨rfl, rfl, rfl, id, rfl, rfl⟩
  | _ => cases other

end Effects

/-! ## One step -/

section Steps

variable {beyond : UInt8 → UInt32} {s t : ZdoScan} {call : ZdoCall} {e : Effect} {i : Nat}
  {task : ZdoTask}

theorem countP_eraseIdx {l : List ZdoTask} (at_ : l[i]? = some task) :
    l.countP isOp = (if isOp task = true then 1 else 0) + (l.eraseIdx i).countP isOp := by
  obtain ⟨inside, is⟩ := List.getElem?_eq_some_iff.1 at_
  have perm := List.getElem_cons_eraseIdx_perm inside
  rw [is] at perm
  rw [← perm.countP_eq, List.countP_cons, Nat.add_comm]

/-- A step belongs to an operation, and none of the others is in progress, or it leaves the
operations alone. -/
inductive Belongs (s : ZdoScan) (call : ZdoCall) (e : Effect) : Prop where
  | own (ok : EffectOk e) (others : (left s call).countP isOp = 0)
  | beside (quiet : Quiet s.globals e) (subset : ∀ task ∈ left s call, task ∈ s.pending)
      (fewer : (left s call).countP isOp ≤ busy s)
      (ends : (left s call).countP isOp = 0 → Idle s.globals)

theorem Belongs.outs (belongs : Belongs s call e) : ∀ out ∈ e.outs, Right out := by
  cases belongs with
  | own ok _ => exact ok.outs
  | beside quiet _ _ _ =>
      rw [quiet.outs]
      exact fun _ mem => absurd mem List.not_mem_nil

/-- What the invariant says afterwards. -/
theorem Belongs.keeps (ok : OverlapOk s) (belongs : Belongs s call e)
    (is : effect beyond s call = some e) (taken : scanStep beyond s call = some t) :
    OverlapOk t := by
  obtain ⟨e', is', rfl⟩ := Option.map_eq_some_iff.1 taken
  obtain rfl : e' = e := Option.some.inj (is'.symm.trans is)
  have count : busy ⟨e'.globals, alarms s call, left s call ++ e'.tasks, checked s call,
      waiting s call⟩ = (left s call).countP isOp + e'.tasks.countP isOp := List.countP_append
  cases belongs with
  | own own others =>
      rw [others, Nat.zero_add] at count
      refine ⟨count ▸ own.few, fun task mem => ?_, fun none_ => own.idle (count ▸ none_)⟩
      rcases List.mem_append.1 mem with mem | mem
      · refine serves_of_not_op (Bool.eq_false_iff.2 fun mine => ?_)
        exact List.countP_eq_zero.1 others task mem mine
      · exact own.serves task mem
  | beside quiet subset fewer ends =>
      rw [quiet.tasks, Nat.add_zero] at count
      refine ⟨count ▸ fewer.trans ok.few, fun task mem => ?_,
        fun none_ => quiet.idle (ends (count ▸ none_))⟩
      rcases List.mem_append.1 mem with mem | mem
      · exact quiet.serves (ok.serves task (subset task mem))
      · refine serves_of_not_op (Bool.eq_false_iff.2 fun mine => ?_)
        exact List.countP_eq_zero.1 quiet.tasks task mem mine

theorem effect_belongs (ok : OverlapOk s) (alone_ : alone beyond s call = true)
    (is : effect beyond s call = some e) : Belongs s call e := by
  -- a call that runs no callback leaves them all scheduled
  have beside (same : left s call = s.pending) (quiet : Quiet s.globals e) : Belongs s call e := by
    refine .beside quiet (fun _ mem => same ▸ mem) ?_ ?_
    · rw [same]
      exact Nat.le_refl _
    · rw [same]
      exact ok.idle
  have own (same : left s call = s.pending) (free : busy s = 0) (effectOk : EffectOk e) :
      Belongs s call e := .own effectOk (by rw [same]; exact free)
  cases call with
  | transmissions total fail =>
      cases is
      exact beside rfl ⟨rfl, rfl, rfl, id, rfl, rfl⟩
  | checkFails alarm =>
      cases is
      cases due : checkDue s.globals with
      | false =>
          have same : zbZdoCheckFails s.globals = s.globals := if_neg (by simp [due])
          simp only [due, Bool.false_eq_true, if_false] at beside
          refine beside rfl ?_
          rw [same]
          exact ⟨rfl, rfl, rfl, id, rfl, rfl⟩
      | true =>
          have free : busy s = 0 := by simpa [alone, due] using alone_
          simp only [due, if_true] at own
          exact own rfl free (checkFails_ok (ok.idle free) due)
  | checkTimer i =>
      obtain ⟨check, -, rfl⟩ := Option.map_eq_some_iff.1 is
      refine beside rfl ⟨rfl, rfl, rfl, fun noAck => ?_, rfl, rfl⟩
      exact (getFlag_clearFlag _ _ _).trans noAck
  | updateReq ind apsBody =>
      obtain ⟨handled, got, rfl⟩ := Option.map_eq_some_iff.1 is
      have taken := handler_takenFor got
      simp only [alone, got] at alone_
      cases handled with
      | newChannel i => exact beside rfl ⟨rfl, rfl, rfl, id, rfl, rfl⟩
      | newMask mask addr => exact beside rfl ⟨rfl, rfl, rfl, id, rfl, rfl⟩
      | nothing => exact beside rfl ⟨rfl, rfl, rfl, id, rfl, rfl⟩
      | edScan req scanCount dstAddr tsn =>
          have free : busy s = 0 := by simpa using alone_
          exact own rfl free (updateEffect_edScan_ok (ok.idle free) taken)
      | updNotify status tsn dstAddr =>
          simp only [Bool.and_eq_true, beq_iff_eq, Bool.or_eq_true, bne_iff_ne, ne_eq] at alone_
          obtain ⟨free, none_⟩ := alone_
          refine own rfl free (updateEffect_updNotify_ok (ok.idle free) taken fun success => ?_)
          exact none_.resolve_left fun failed => failed success
  | updateNotify param notify =>
      obtain ⟨⟨g', outcome⟩, changed, rfl⟩ := Option.map_eq_some_iff.1 is
      have tasks : (changeTasks outcome).countP isOp = 0 := by
        cases outcome with
        | freed => rfl
        | sent req => cases channel : req.newChannel <;> simp [changeTasks, channel, isOp]
      refine beside rfl ?_
      rcases changeChannel_cases changed with rfl | ⟨updateId, tsn, rfl⟩
      · exact ⟨rfl, rfl, rfl, id, tasks, rfl⟩
      · refine ⟨rfl, rfl, rfl, fun noAck => ?_, tasks, rfl⟩
        exact (getFlag_setFlag (by decide) _).trans noAck
  | startGetPeerShortAddr lookup =>
      cases is
      have free : busy s = 0 := by simpa [alone] using alone_
      exact own rfl free (startLookup_ok (ok.idle free) lookup)
  | run i scanned =>
      obtain ⟨task, at_, rfl⟩ := Option.map_eq_some_iff.1 is
      have mem := List.mem_of_getElem? at_
      have count : busy s = _ := countP_eraseIdx at_
      cases mine : isOp task with
      | true =>
          rw [mine, if_pos rfl] at count
          have few := ok.few
          refine .own (runTask_ok scanned mine (ok.serves task mem)) ?_
          show (s.pending.eraseIdx i).countP isOp = 0
          omega
      | false =>
          rw [mine, if_neg Bool.false_ne_true, Nat.zero_add] at count
          refine .beside (runTask_quiet scanned mine) (fun _ => List.mem_of_mem_eraseIdx) ?_ ?_
          · exact Nat.le_of_eq count.symm
          · exact fun none_ => ok.idle (count.trans none_)
  | lost i =>
      simp only [effect] at is
      split at is
      · rename_i lookup at_
        cases is
        have looks : Looks s.globals lookup := ok.serves _ (List.mem_of_getElem? at_)
        have count : busy s = _ := countP_eraseIdx at_
        refine .beside ⟨rfl, rfl, rfl, id, rfl, rfl⟩ (fun _ => List.mem_of_mem_eraseIdx) ?_
          (fun _ => looks.idle)
        show (s.pending.eraseIdx i).countP isOp ≤ busy s
        omega
      · cases is

end Steps

/-- What the radio has measured: nothing on any channel. -/
def quietChannels : ZbMacScanConfirm := ⟨macSuccess, 0, Vector.replicate _ 0⟩

/-- Device 1 asks for two scans with its transaction 7, then there is a lookup. -/
def scanThenLookup : List ZdoCall :=
  [.updateReq ⟨1, true⟩ [7, 0, 0x40, 0, 0, 3, 2], .run 0 quietChannels, .run 0 quietChannels,
    .run 0 quietChannels, .run 0 quietChannels, .run 0 quietChannels,
    .startGetPeerShortAddr ⟨5, 0x08001234, 9⟩, .run 0 quietChannels, .run 0 quietChannels]

/-- Device 2 asks while the scan for device 1 is on. -/
def twoDevices : List ZdoCall :=
  [.updateReq ⟨1, true⟩ [7, 0, 0x40, 0, 0, 3, 2], .updateReq ⟨2, true⟩ [9, 0, 0x80, 0, 0, 3, 1],
    .run 0 quietChannels]

/-- An answer goes to device 2 with its transaction 9, and is that of device 1 to its transaction
7. -/
def strayAnswer : ScanOut → Bool
  | .answers op notified =>
      op.dstAddr == 1 && op.tsn == 7 && notified.dstAddr == 2 && notified.tsn == 9
  | _ => false

theorem not_right_of_stray {out : ScanOut} (stray : strayAnswer out = true) : ¬ Right out := by
  intro right
  cases out with
  | answers op notified =>
      simp only [strayAnswer, Bool.and_eq_true, beq_iff_eq] at stray
      obtain ⟨⟨⟨first, -⟩, second⟩, -⟩ := stray
      have same := right.1
      rw [first, second] at same
      exact absurd same (by decide)
  | _ => cases stray

end Zboss.Zdo.ScanOverlap
