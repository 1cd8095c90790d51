/-
# Mac.ScanStep -- a scan, one channel for each step

`zb_mlme_scan_request` starts a scan, and `zb_mlme_scan_step` is its step: it looks for the first
channel of the mask that is still left, from 11 on, tunes to it, takes it out of the mask and sets
an alarm for itself.  When no channel is left, it gives the confirm.

* `scanStep_cases`: a step tunes to one more of the channels left, or ends the scan when none is, so
  that the channels tuned to and those left are together what was asked for;
* `scan_right_iff`: which requests are served as they should be.

Pole: the bound of the loop is the sum of the first channel and the last, so that it goes on to 36,
and the bits 27 to 31 of a mask are channels for it; for the channels 32 to 36 the shift of the loop
is not defined, and what it gives is a parameter (`ScanEnv.beyond`).  A step of an energy scan takes
the reading of the channel that the step before has tuned to, keeps only the largest, and writes it
nowhere; the channel of the last step is never read.  The build for the simulator does not scan for
energy at all.
-/
import Mathlib
import Zboss.Common.Constants
import Zboss.Zdo.ChannelChange

namespace Zboss.Mac.ScanStep

open Zboss.Common.Constants
open Zboss.Zdo.ChannelChange

set_option autoImplicit false

/-! ## Constants -/

def zbMaxScanDurationValue : Nat := 14

def zbMacSupportedChannelsByte : UInt8 := 16

/-! ## Data -/

/-- The two bits of `scan_type`. -/
inductive ScanType where
  | edScan
  | activeScan
  | passiveScan
  | orphanScan
  deriving DecidableEq, Repr

structure ZbMlmeScanParams where
  scanType : ScanType
  scanDuration : Fin 16
  channels : UInt32
  deriving DecidableEq

structure ZbMacScanConfirm where
  status : UInt8
  scanType : ScanType
  unscannedChannels : UInt32
  resultListSize : UInt8
  energyDetect : Vector UInt8 16
  deriving DecidableEq

/-- `ZB_BZERO` of a confirm -/
def zeroConfirm : ZbMacScanConfirm := ⟨0, .edScan, 0, 0, Vector.replicate 16 0⟩

/-- A buffer.  The parameters of the request lie at its end, and so does the confirm: they are the
last eight bytes of `energy_detect`. -/
structure ScanBuf where
  params : ZbMlmeScanParams
  confirm : ZbMacScanConfirm
  deriving DecidableEq

/-- `ZB_BZERO` of the confirm, parameters of the request included. -/
def ScanBuf.zeroed : ScanBuf := ⟨⟨.edScan, 0, 0⟩, zeroConfirm⟩

/-- What waits to be called. -/
inductive ScanTask where
  | zbHandleScanRequest (param : ScanBuf)
  | zbMlmeScanStep
  /-- the alarm of `zb_mlme_scan_step` -/
  | alarm
  deriving DecidableEq

/-- What a scan uses of `MAC_CTX()`. -/
structure MacCtx where
  pendingBuf : Option ScanBuf
  mlmeScanInProgress : Bool
  edScanStepPassed : Bool
  macStatus : UInt8
  currentChannel : UInt8
  unscannedChannels : UInt32
  saveChannel : UInt8
  maxRssiValue : UInt8
  deriving DecidableEq

/-- The context, what waits, and what has been done so far. -/
structure MacScan where
  ctx : MacCtx
  tasks : List ScanTask
  /-- the channels a step has tuned to, in order -/
  tuned : List UInt8
  /-- the channel put back after an energy scan -/
  restored : List UInt8
  /-- each reading of the transceiver, with the channel it was taken on -/
  measured : List (UInt8 × UInt8)
  confirms : List ZbMacScanConfirm
  deriving DecidableEq

/-- The build, and what the air does. -/
structure ScanEnv where
  /-- `ZB_NS_BUILD` -/
  nsBuild : Bool
  /-- what `1l << i` is for an `i` from 32 on -/
  beyond : UInt8 → UInt32
  /-- what `zb_transceiver_get_rssi` gives, the how-maniest time and on which channel -/
  rssi : Nat → UInt8 → UInt8
  /-- `beacon_found` or `got_realignment`, when the scan is over -/
  answered : Bool

/-! ## The mask -/

/-- `*unscanned_channels & 1l << channel_number` -/
def hasChannel (beyond : UInt8 → UInt32) (mask : UInt32) (channel : UInt8) : Bool :=
  mask &&& oneShl beyond channel != 0

/-- `*unscanned_channels &= ~(1l << channel_number)` -/
def clearChannel (beyond : UInt8 → UInt32) (mask : UInt32) (channel : UInt8) : UInt32 :=
  mask &&& ~~~oneShl beyond channel

/-- The channels of the loop: from `ZB_MAC_START_CHANNEL_NUMBER`, below
`ZB_MAC_START_CHANNEL_NUMBER + ZB_MAC_MAX_CHANNEL_NUMBER`. -/
def loopChannels : List UInt8 := (List.range zbMacMaxChannelNumber.toNat).map macChannel

/-- The channels 11 to 26. -/
def macChannels : List UInt8 := (List.range zbMacSupportedChannels).map macChannel

/-! ## The request -/

def MacScan.modifyCtx (f : MacCtx → MacCtx) (s : MacScan) : MacScan := { s with ctx := f s.ctx }

/-- A request the parameters of which are refused. -/
def refused (params : ZbMlmeScanParams) : Bool :=
  decide (params.scanDuration.val > zbMaxScanDurationValue) && params.scanType != .orphanScan

/-- `zb_mlme_scan_request`; `none` when it writes a confirm through a null `pending_buf`. -/
def zbMlmeScanRequest (param : ScanBuf) (s : MacScan) : Option MacScan :=
  let bad := refused param.params
  let s := s.modifyCtx fun c =>
    { c with macStatus := if bad then macInvalidParameter else macSuccess }
  if !bad && !s.ctx.mlmeScanInProgress then
    some { s with
      ctx := { s.ctx with pendingBuf := some param }
      tasks := s.tasks ++ [.zbHandleScanRequest param] }
  else
    s.ctx.pendingBuf.map fun buf =>
      let confirm := { buf.confirm with
        status := if bad then macInvalidParameter else macSuccess
        scanType := param.params.scanType }
      { s with
        ctx := { s.ctx with pendingBuf := some { buf with confirm := confirm } }
        confirms := s.confirms ++ [confirm] }

def zbMlmeActiveScan (buf : ScanBuf) (s : MacScan) : MacScan :=
  { s with
    ctx := { s.ctx with unscannedChannels := buf.params.channels }
    tasks := s.tasks ++ [.zbMlmeScanStep] }

def zbMlmeEdScan (env : ScanEnv) (buf : ScanBuf) (s : MacScan) : MacScan :=
  let confirm := { zeroConfirm with unscannedChannels := buf.params.channels }
  let s := s.modifyCtx fun c =>
    { c with
      unscannedChannels := buf.params.channels
      pendingBuf := some { ScanBuf.zeroed with confirm := confirm } }
  if env.nsBuild then
    let confirm := { confirm with resultListSize := zbMacSupportedChannelsByte }
    { s with
      ctx := { s.ctx with pendingBuf := some { ScanBuf.zeroed with confirm := confirm } }
      confirms := s.confirms ++ [confirm] }
  else
    { s with
      ctx := { s.ctx with saveChannel := s.ctx.currentChannel, maxRssiValue := 0 }
      tasks := s.tasks ++ [.alarm] }

def zbMlmeOrphanScan (buf : ScanBuf) (s : MacScan) : MacScan :=
  { s with
    ctx := { s.ctx with unscannedChannels := buf.params.channels }
    tasks := s.tasks ++ [.alarm] }

def zbHandleScanRequest (env : ScanEnv) (param : ScanBuf) (s : MacScan) : MacScan :=
  let s := s.modifyCtx fun c => { c with pendingBuf := some param }
  match param.params.scanType with
  | .activeScan => zbMlmeActiveScan param s
  | .edScan => (zbMlmeEdScan env param s).modifyCtx fun c => { c with edScanStepPassed := false }
  | .orphanScan => zbMlmeOrphanScan param s
  | .passiveScan => s.modifyCtx fun c => { c with macStatus := macInvalidParameter }

/-! ## The step -/

/-- The reading at the begin of a step of an energy scan. -/
def edReading (env : ScanEnv) (s : MacScan) : MacScan :=
  if s.ctx.edScanStepPassed then
    if env.nsBuild then s
    else
      let value := env.rssi s.measured.length s.ctx.currentChannel
      { s with
        ctx := { s.ctx with
          maxRssiValue := if value > s.ctx.maxRssiValue then value else s.ctx.maxRssiValue }
        measured := s.measured ++ [(s.ctx.currentChannel, value)] }
  else s.modifyCtx fun c => { c with edScanStepPassed := true }

/-- The body of the loop, at a channel that is left. -/
def visit (env : ScanEnv) (scanType : ScanType) (channel : UInt8) (s : MacScan) : MacScan :=
  let s := if scanType = .edScan then
      let s := edReading env s
      { s with tasks := s.tasks ++ [.alarm] }
    else s
  { s with
    ctx := { s.ctx with
      currentChannel := channel
      unscannedChannels := clearChannel env.beyond s.ctx.unscannedChannels channel }
    tuned := s.tuned ++ [channel]
    -- `ZB_SCHEDULE_ALARM_CANCEL` takes one alarm out, before the alarm is set
    tasks := s.tasks.erase .alarm ++ [.alarm] }

/-- No channel is left. -/
def finish (env : ScanEnv) (buf : ScanBuf) (s : MacScan) : MacScan :=
  let scanType := buf.params.scanType
  let confirm := { buf.confirm with
    status := if scanType = .edScan ∨ env.answered then macSuccess else macNoBeacon
    scanType := scanType }
  { s with
    ctx := { s.ctx with
      pendingBuf := some { buf with confirm := confirm }
      mlmeScanInProgress := false
      currentChannel := if scanType = .edScan then s.ctx.saveChannel else s.ctx.currentChannel }
    restored := if scanType = .edScan then s.restored ++ [s.ctx.saveChannel] else s.restored
    confirms := s.confirms ++ [confirm] }

/-- `none` for a null `pending_buf`. -/
def zbMlmeScanStep (env : ScanEnv) (s : MacScan) : Option MacScan :=
  s.ctx.pendingBuf.map fun buf =>
    let s := s.modifyCtx fun c => { c with mlmeScanInProgress := true }
    match loopChannels.find? (hasChannel env.beyond s.ctx.unscannedChannels) with
    | some channel => visit env buf.params.scanType channel s
    | none => finish env buf s

/-! ## A scan -/

def runTask (env : ScanEnv) (s : MacScan) : ScanTask → Option MacScan
  | .zbHandleScanRequest param => some (zbHandleScanRequest env param s)
  | .zbMlmeScanStep | .alarm => zbMlmeScanStep env s

/-- Up to `n` tasks, one after the other. -/
def runTasks (env : ScanEnv) : Nat → MacScan → Option MacScan
  | 0, s => some s
  | n + 1, s =>
      match s.tasks with
      | [] => some s
      | task :: rest => (runTask env { s with tasks := rest } task).bind (runTasks env n)

/-- No scan is going on. -/
def MacScan.idle (ctx : MacCtx) : MacScan :=
  ⟨{ ctx with mlmeScanInProgress := false }, [], [], [], [], []⟩

/-- A scan that is over after at most `n` activations. -/
def scanRun (env : ScanEnv) (param : ScanBuf) (ctx : MacCtx) (n : Nat) : Option MacScan :=
  (zbMlmeScanRequest param (.idle ctx)).bind (runTasks env n)

/-- The channels asked for: the bits 11 to 26. -/
def requested (mask : UInt32) : List UInt8 :=
  macChannels.filter fun channel => mask &&& (1 : UInt32) <<< channel.toUInt32 != 0

/-- The value a confirm reports for a channel. -/
def ZbMacScanConfirm.energyAt (confirm : ZbMacScanConfirm) (channel : UInt8) : UInt8 :=
  confirm.energyDetect.toList.getD (channel - zbMacStartChannelNumber).toNat 0

/-- What a scan should have done when it is over. -/
structure ScanRight (params : ZbMlmeScanParams) (s : MacScan) : Prop where
  over_ : s.tasks = []
  tuned : s.tuned = requested params.channels
  confirmed : s.confirms.length = 1
  energy : params.scanType = .edScan → ∀ confirm ∈ s.confirms,
    ∀ channel ∈ requested params.channels, (channel, confirm.energyAt channel) ∈ s.measured

/-- The channels of the loop that are none of the transceiver. -/
def channelsBeyond : List UInt8 := (List.range' 16 10).map macChannel

/-- Once the bits 11 to 26 are cleared, the loop finds no channel. -/
def noneBeyond (beyond : UInt8 → UInt32) (mask : UInt32) : Bool :=
  channelsBeyond.all fun channel => !hasChannel beyond (mask &&& 0xF80007FF) channel

/-- When a request is served as it should be. -/
def served (env : ScanEnv) (params : ZbMlmeScanParams) (ctx : MacCtx) : Bool :=
  if refused params then ctx.pendingBuf.isSome && (requested params.channels).isEmpty
  else
    match params.scanType with
    | .activeScan | .orphanScan => noneBeyond env.beyond params.channels
    | .edScan =>
        (requested params.channels).isEmpty &&
          (env.nsBuild || noneBeyond env.beyond params.channels)
    | .passiveScan => false

/-! ## One bit of the mask -/

section Mask

variable {beyond : UInt8 → UInt32} {mask : UInt32} {c d : UInt8}

theorem hasChannel_false : hasChannel beyond mask c = false ↔ mask &&& oneShl beyond c = 0 := by
  simp [hasChannel]

/-- A channel that is cleared is not found again. -/
theorem hasChannel_clearChannel_self :
    hasChannel beyond (clearChannel beyond mask c) c = false := by
  rw [hasChannel_false, clearChannel, UInt32.and_assoc, UInt32.and_comm (~~~_), UInt32.and_not_self,
    UInt32.and_zero]

/-- A step finds nothing that was not there. -/
theorem hasChannel_clearChannel_of_false (none_ : hasChannel beyond mask d = false) :
    hasChannel beyond (clearChannel beyond mask c) d = false := by
  rw [hasChannel_false] at none_ ⊢
  rw [clearChannel, UInt32.and_assoc, UInt32.and_comm (~~~_), ← UInt32.and_assoc, none_,
    UInt32.zero_and]

theorem oneShl_small (small : c < 32) : oneShl beyond c = 1 <<< c.toUInt32 := if_pos small

theorem toBitVec_oneShl (small : c < 32) :
    (oneShl beyond c).toBitVec = BitVec.twoPow 32 c.toNat := by
  have lt : c.toNat < 32 := UInt8.lt_iff_toNat_lt.1 small
  apply BitVec.eq_of_toNat_eq
  rw [oneShl_small small, UInt32.toNat_toBitVec, UInt32.toNat_shiftLeft, UInt8.toNat_toUInt32,
    Nat.mod_eq_of_lt lt, BitVec.toNat_twoPow]
  simp [Nat.shiftLeft_eq]

/-- The test of the loop reads one bit. -/
theorem hasChannel_eq_getLsbD (small : c < 32) :
    hasChannel beyond mask c = mask.toBitVec.getLsbD c.toNat := by
  have lt : c.toNat < 32 := UInt8.lt_iff_toNat_lt.1 small
  have bit : BitVec.twoPow 32 c.toNat ≠ 0#32 := by
    intro zero
    have own := congrArg (fun v => v.getLsbD c.toNat) zero
    simp [lt] at own
  rw [hasChannel, Bool.eq_iff_iff, bne_iff_ne, ne_eq, ← UInt32.toBitVec_inj,
    UInt32.toBitVec_and, toBitVec_oneShl small, BitVec.and_twoPow]
  by_cases set_ : mask.toBitVec.getLsbD c.toNat
  · simp [set_, bit]
  · simp [set_]

/-- A bit that is cleared is cleared, and no other is. -/
theorem hasChannel_clearChannel (small : c < 32) (small' : d < 32) (other : d ≠ c) :
    hasChannel beyond (clearChannel beyond mask c) d = hasChannel beyond mask d := by
  have lt' : d.toNat < 32 := UInt8.lt_iff_toNat_lt.1 small'
  have apart : c.toNat ≠ d.toNat := fun eq => other (UInt8.toNat_inj.1 eq.symm)
  rw [hasChannel_eq_getLsbD small', hasChannel_eq_getLsbD small', clearChannel,
    UInt32.toBitVec_and, UInt32.toBitVec_not, toBitVec_oneShl small]
  simp [lt', apart.symm]

/-- A bit that is not set needs no clearing. -/
theorem clearChannel_of_false (none_ : hasChannel beyond mask c = false) :
    clearChannel beyond mask c = mask := by
  rw [hasChannel_false, ← UInt32.toBitVec_inj] at none_
  rw [clearChannel, ← UInt32.toBitVec_inj]
  ext i inside
  have clear := congrArg (fun v => v.getLsbD i) none_
  simp only [UInt32.toBitVec_and, BitVec.getLsbD_and] at clear
  cases bit : mask.toBitVec.getLsbD i <;> simp_all

end Mask

/-! ## The channels a scan finds -/

/-- What the steps tune to, of the channels in order: each takes its bits out of the mask. -/
def visits (beyond : UInt8 → UInt32) : List UInt8 → UInt32 → List UInt8
  | [], _ => []
  | c :: cs, mask =>
      if hasChannel beyond mask c then c :: visits beyond cs (clearChannel beyond mask c)
      else visits beyond cs mask

section Visits

variable {beyond : UInt8 → UInt32} {mask : UInt32} {c : UInt8} {cs ds : List UInt8}

theorem visits_eq_nil :
    visits beyond cs mask = [] ↔ ∀ c ∈ cs, hasChannel beyond mask c = false := by
  induction cs with
  | nil => simp [visits]
  | cons c cs ih =>
      rw [visits, List.forall_mem_cons]
      cases here : hasChannel beyond mask c with
      | true => simp
      | false => simpa using ih

/-- **One step takes the first channel that is left.** -/
theorem visits_of_find? (first : cs.find? (hasChannel beyond mask) = some c) :
    visits beyond cs mask = c :: visits beyond cs (clearChannel beyond mask c) := by
  induction cs with
  | nil => cases first
  | cons x cs ih =>
      cases here : hasChannel beyond mask x with
      | true =>
          rw [List.find?_cons_of_pos here] at first
          cases first
          rw [visits, if_pos here, visits, hasChannel_clearChannel_self, if_neg Bool.false_ne_true]
      | false =>
          rw [List.find?_cons_of_neg (by simp [here])] at first
          rw [visits, here, if_neg Bool.false_ne_true, ih first, visits,
            hasChannel_clearChannel_of_false here, if_neg Bool.false_ne_true]

/-- The channels of some places, and then those of others in what is left of the mask. -/
theorem visits_append :
    visits beyond (cs ++ ds) mask =
      visits beyond cs mask ++ visits beyond ds (cs.foldl (clearChannel beyond) mask) := by
  induction cs generalizing mask with
  | nil => rfl
  | cons c cs ih =>
      rw [List.cons_append, visits, visits, List.foldl_cons]
      cases here : hasChannel beyond mask c with
      | true => simp [ih]
      | false => simp [ih, clearChannel_of_false here]

/-- Where every channel has a bit of its own, those are found whose bits are set. -/
theorem visits_small (small : ∀ c ∈ cs, c < 32) (once : cs.Nodup) :
    visits beyond cs mask = cs.filter fun c => mask &&& (1 : UInt32) <<< c.toUInt32 != 0 := by
  induction cs generalizing mask with
  | nil => rfl
  | cons c cs ih =>
      have ⟨new, once⟩ := List.nodup_cons.1 once
      have ⟨low, rest⟩ := List.forall_mem_cons.1 small
      have test : ∀ {m : UInt32} {d : UInt8}, d < 32 →
          hasChannel beyond m d = (m &&& (1 : UInt32) <<< d.toUInt32 != 0) := by
        intro m d low
        rw [hasChannel, oneShl_small low]
      rw [visits, List.filter_cons, ← test low]
      cases here : hasChannel beyond mask c with
      | true =>
          simp only [if_true, ih rest once, List.cons.injEq, true_and]
          apply List.filter_congr
          intro d mem
          have other : d ≠ c := fun eq => new (eq ▸ mem)
          rw [← test (rest d mem), ← test (rest d mem),
            hasChannel_clearChannel low (rest d mem) other]
      | false => simp [ih rest once]

theorem macChannels_eq :
    macChannels = [11, 12, 13, 14, 15, 16, 17, 18, 19, 20, 21, 22, 23, 24, 25, 26] := by decide

theorem macChannels_small : ∀ c ∈ macChannels, c < 32 := by
  simp [macChannels_eq]

theorem nodup_macChannels : macChannels.Nodup := by
  have numbers : macChannels.map UInt8.toNat = List.range' 11 16 := by decide
  apply List.Nodup.of_map UInt8.toNat
  rw [numbers]
  exact List.nodup_range'

theorem loopChannels_eq : loopChannels = macChannels ++ channelsBeyond := by decide +kernel

theorem foldl_clearChannel (small : ∀ c ∈ cs, c < 32) (kept : UInt32) :
    cs.foldl (clearChannel beyond) (mask &&& kept) =
      mask &&& cs.foldl (fun kept c => kept &&& ~~~((1 : UInt32) <<< c.toUInt32)) kept := by
  induction cs generalizing kept with
  | nil => rfl
  | cons c cs ih =>
      have ⟨low, rest⟩ := List.forall_mem_cons.1 small
      rw [List.foldl_cons, List.foldl_cons, clearChannel, oneShl_small low, UInt32.and_assoc,
        ih rest]

/-- What the channels of the transceiver leave of a mask. -/
theorem foldl_macChannels : macChannels.foldl (clearChannel beyond) mask = mask &&& 0xF80007FF := by
  have kept : macChannels.foldl (fun kept c => kept &&& ~~~((1 : UInt32) <<< c.toUInt32))
      0xFFFFFFFF = 0xF80007FF := by
    rw [macChannels_eq]
    decide +kernel
  have all := @foldl_clearChannel beyond mask macChannels macChannels_small 0xFFFFFFFF
  rw [kept] at all
  rwa [show mask &&& 0xFFFFFFFF = mask from UInt32.and_neg_one] at all

/-- The loop finds what was asked for, iff the mask has nothing beyond. -/
theorem visits_eq_requested_iff :
    visits beyond loopChannels mask = requested mask ↔ noneBeyond beyond mask = true := by
  rw [loopChannels_eq, visits_append, visits_small macChannels_small nodup_macChannels,
    foldl_macChannels, requested, List.append_right_eq_self, visits_eq_nil, noneBeyond,
    List.all_eq_true]
  simp only [Bool.not_eq_true']

theorem nodup_requested : (requested mask).Nodup := nodup_macChannels.filter _

end Visits

/-! ## The tasks -/

section Tasks

variable {env : ScanEnv} {s t t' : MacScan} {n m : Nat}

theorem runTasks_over (over_ : s.tasks = []) : runTasks env n s = some s := by
  cases n with
  | zero => rfl
  | succ n => rw [runTasks, over_]

theorem runTasks_add : runTasks env (n + m) s = (runTasks env n s).bind (runTasks env m) := by
  induction n generalizing s with
  | zero => rw [Nat.zero_add]; rfl
  | succ n ih =>
      rw [Nat.add_right_comm, runTasks, runTasks]
      cases waits : s.tasks with
      | nil => exact (runTasks_over waits).symm
      | cons task rest =>
          cases ran : runTask env { s with tasks := rest } task with
          | none => simp only [ran, Option.bind_none]
          | some u => simp only [ran, Option.bind_some, ih]

/-- A scan is over in one way only. -/
theorem over_unique (ran : runTasks env n s = some t) (over_ : t.tasks = [])
    (ran' : runTasks env m s = some t') (over_' : t'.tasks = []) : t = t' := by
  have one := @runTasks_add env s n m
  have two := @runTasks_add env s m n
  rw [ran, Option.bind_some, runTasks_over over_] at one
  rw [ran', Option.bind_some, runTasks_over over_', Nat.add_comm] at two
  exact Option.some.inj (one.symm.trans two)

end Tasks

/-! ## The steps of one scan -/

/-- The readings of an energy scan lag one channel behind. -/
structure Lags (s : MacScan) : Prop where
  measured : s.measured.map Prod.fst = s.tuned.dropLast
  passed : s.ctx.edScanStepPassed = !s.tuned.isEmpty
  current : ∀ c, s.tuned.getLast? = some c → s.ctx.currentChannel = c

/-- A scan that is going on. -/
structure Scanning (env : ScanEnv) (params : ZbMlmeScanParams) (s : MacScan) : Prop where
  waits : s.tasks = [.zbMlmeScanStep] ∨ s.tasks = [.alarm]
  buf : ∃ buf, s.ctx.pendingBuf = some buf ∧ buf.params.scanType = params.scanType
  left : s.tuned ++ visits env.beyond loopChannels s.ctx.unscannedChannels =
    visits env.beyond loopChannels params.channels
  open_ : s.confirms = []
  lags : params.scanType = .edScan → Lags s

/-- A scan that is over. -/
structure Scanned (env : ScanEnv) (params : ZbMlmeScanParams) (t : MacScan) : Prop where
  over_ : t.tasks = []
  tuned : t.tuned = visits env.beyond loopChannels params.channels
  confirmed : t.confirms.length = 1
  measured : params.scanType = .edScan → t.measured.map Prod.fst = t.tuned.dropLast

section Steps

variable {env : ScanEnv} {params : ZbMlmeScanParams} {s : MacScan} {c : UInt8}

/-- The reading belongs to the channel tuned to last. -/
theorem lags_visit (scans : env.nsBuild = false) (lags : Lags s) :
    Lags (visit env .edScan c s) := by
  have ⟨measured, passed, current⟩ := lags
  rw [visit]
  simp only [if_true]
  rw [edReading]
  rcases List.eq_nil_or_concat' s.tuned with empty | ⟨front, last, ends⟩
  · rw [empty, List.dropLast_nil] at measured
    rw [empty] at passed
    rw [if_neg (by simp [passed])]
    exact ⟨by simp [MacScan.modifyCtx, measured, empty], by simp [MacScan.modifyCtx],
      by simp [MacScan.modifyCtx, empty]⟩
  · rw [ends, List.dropLast_concat] at measured
    rw [ends] at passed
    have tuned := current last (by rw [ends, List.getLast?_concat])
    have read : s.ctx.edScanStepPassed = true := by cases front <;> exact passed
    rw [if_pos read, if_neg (by simp [scans])]
    exact ⟨by simp [measured, tuned, ends], by simp [read], by simp⟩

theorem visit_spec {scanType : ScanType} (alone : s.tasks = []) :
    (visit env scanType c s).tasks = [.alarm] ∧
      (visit env scanType c s).tuned = s.tuned ++ [c] ∧
      (visit env scanType c s).ctx.unscannedChannels =
        clearChannel env.beyond s.ctx.unscannedChannels c ∧
      (visit env scanType c s).ctx.pendingBuf = s.ctx.pendingBuf ∧
      (visit env scanType c s).confirms = s.confirms := by
  unfold visit edReading
  split
  · split
    · split <;> simp [alone]
    · simp [MacScan.modifyCtx, alone]
  · simp [alone]

/-- **A step tunes to one more channel, or ends the scan.** -/
theorem scanStep_cases (scans : params.scanType = .edScan → env.nsBuild = false)
    (scanning : Scanning env params s) :
    ∃ t, zbMlmeScanStep env { s with tasks := [] } = some t ∧
      ((Scanning env params t ∧
        (visits env.beyond loopChannels s.ctx.unscannedChannels).length =
          (visits env.beyond loopChannels t.ctx.unscannedChannels).length + 1) ∨
      Scanned env params t) := by
  obtain ⟨waits, ⟨buf, pending, type⟩, left, open_, lags⟩ := scanning
  rw [zbMlmeScanStep, pending, Option.map_some]
  refine ⟨_, rfl, ?_⟩
  dsimp only [MacScan.modifyCtx]
  cases first : loopChannels.find? (hasChannel env.beyond s.ctx.unscannedChannels) with
  | some c =>
      apply Or.inl
      obtain ⟨tasks, tuned, unscanned, pending', confirms⟩ := @visit_spec env
        { s with tasks := [], ctx := { s.ctx with mlmeScanInProgress := true } } c
        buf.params.scanType rfl
      have taken := visits_of_find? first
      refine ⟨⟨.inr tasks, ⟨buf, pending'.trans pending, type⟩, ?_, confirms.trans open_, ?_⟩,
        ?_⟩
      · rw [tuned, unscanned, List.append_assoc, List.singleton_append, ← taken]
        exact left
      · intro ed
        have ⟨measured, passed, current⟩ := lags ed
        rw [type, ed]
        exact lags_visit (scans ed) ⟨measured, passed, current⟩
      · rw [unscanned, taken, List.length_cons]
  | none =>
      apply Or.inr
      have none_left : visits env.beyond loopChannels s.ctx.unscannedChannels = [] :=
        visits_eq_nil.2 fun c mem => Bool.eq_false_iff.2 (List.find?_eq_none.1 first c mem)
      rw [none_left, List.append_nil] at left
      exact ⟨rfl, left, by simp [finish, open_], fun ed => (lags ed).measured⟩

/-- **A scan that is going on is over some steps later.** -/
theorem scanning_ends (scans : params.scanType = .edScan → env.nsBuild = false)
    (scanning : Scanning env params s) :
    ∃ n t, runTasks env n s = some t ∧ Scanned env params t := by
  obtain ⟨k, left⟩ : ∃ k,
      (visits env.beyond loopChannels s.ctx.unscannedChannels).length = k := ⟨_, rfl⟩
  induction k using Nat.strong_induction_on generalizing s with
  | _ k ih =>
      have one : ∀ n, runTasks env (n + 1) s =
          (zbMlmeScanStep env { s with tasks := [] }).bind (runTasks env n) := by
        intro n
        rw [runTasks]
        rcases scanning.waits with waits | waits <;> rw [waits] <;> rfl
      obtain ⟨u, step, ⟨on, fewer⟩ | ended⟩ := scanStep_cases scans scanning
      · obtain ⟨n, t, ran, ended⟩ := ih _ (by omega) on rfl
        exact ⟨n + 1, t, by rw [one, step, Option.bind_some, ran], ended⟩
      · exact ⟨1, u, by rw [one, step]; rfl, ended⟩

end Steps

/-! ## From the request on -/

/-- The scan is asked for, and nothing else waits. -/
def accepted (param : ScanBuf) (ctx : MacCtx) : MacScan :=
  .idle { ctx with macStatus := macSuccess, pendingBuf := some param }

section Request

variable {env : ScanEnv} {param : ScanBuf} {ctx : MacCtx} {n : Nat}

theorem scanRun_accepted (ok : refused param.params = false) :
    scanRun env param ctx (n + 1) =
      runTasks env n (zbHandleScanRequest env param (accepted param ctx)) := by
  simp [scanRun, zbMlmeScanRequest, ok, MacScan.modifyCtx, MacScan.idle, runTasks, runTask,
    accepted]

theorem scanning_active (type : param.params.scanType = .activeScan) :
    Scanning env param.params (zbHandleScanRequest env param (accepted param ctx)) := by
  rw [zbHandleScanRequest, type]
  exact ⟨.inl rfl, ⟨param, rfl, rfl⟩, rfl, rfl, fun ed => by rw [type] at ed; cases ed⟩

theorem scanning_orphan (type : param.params.scanType = .orphanScan) :
    Scanning env param.params (zbHandleScanRequest env param (accepted param ctx)) := by
  rw [zbHandleScanRequest, type]
  exact ⟨.inr rfl, ⟨param, rfl, rfl⟩, rfl, rfl, fun ed => by rw [type] at ed; cases ed⟩

theorem scanning_ed (type : param.params.scanType = .edScan) (scans : env.nsBuild = false) :
    Scanning env param.params (zbHandleScanRequest env param (accepted param ctx)) := by
  rw [zbHandleScanRequest, type]
  dsimp only
  rw [zbMlmeEdScan, if_neg (by simp [scans])]
  exact ⟨.inr rfl, ⟨_, rfl, type.symm⟩, rfl, rfl,
    fun _ => ⟨rfl, rfl, fun c last => by cases last⟩⟩

/-- A request is served as it should be, iff what its scan leaves when it is over is right. -/
theorem right_of_over_iff {m : Nat} {u : MacScan} (ok : refused param.params = false)
    (ran : runTasks env m (zbHandleScanRequest env param (accepted param ctx)) = some u)
    (over_ : u.tasks = []) :
    (∃ n t, scanRun env param ctx n = some t ∧ ScanRight param.params t) ↔
      ScanRight param.params u := by
  refine ⟨?_, fun right => ⟨m + 1, u, (scanRun_accepted ok).trans ran, right⟩⟩
  rintro ⟨n, t, run, right⟩
  cases n with
  | zero =>
      -- the request itself still waits
      exfalso
      simp only [scanRun, zbMlmeScanRequest, ok, MacScan.modifyCtx, MacScan.idle, Bool.not_false,
        Bool.and_self, if_true, Option.bind_some, runTasks, Option.some.injEq] at run
      have over_' := right.over_
      rw [← run] at over_'
      cases over_'
  | succ n =>
      rw [scanRun_accepted ok] at run
      rwa [over_unique run right.over_ ran over_] at right

/-- A scan that does not measure is right iff the mask has nothing beyond. -/
theorem scanned_right_iff {u : MacScan} (ended : Scanned env param.params u)
    (type : param.params.scanType ≠ .edScan) :
    ScanRight param.params u ↔ noneBeyond env.beyond param.params.channels = true := by
  rw [← visits_eq_requested_iff, ← ended.tuned]
  exact ⟨fun right => right.tuned,
    fun tuned => ⟨ended.over_, tuned, ended.confirmed, fun ed => absurd ed type⟩⟩

/-- The last channel is not measured, so an energy scan is right only where there is none. -/
theorem scanned_ed_right_iff {u : MacScan} (ended : Scanned env param.params u)
    (type : param.params.scanType = .edScan) :
    ScanRight param.params u ↔
      requested param.params.channels = [] ∧
        noneBeyond env.beyond param.params.channels = true := by
  rw [← visits_eq_requested_iff, ← ended.tuned]
  constructor
  · intro right
    refine ⟨?_, right.tuned⟩
    obtain ⟨confirm, only⟩ := List.length_eq_one_iff.1 ended.confirmed
    have energy := right.energy type confirm (by rw [only]; exact List.mem_singleton_self confirm)
    rcases List.eq_nil_or_concat' u.tuned with none_ | ⟨front, last, ends⟩
    · exact right.tuned.symm.trans none_
    · exfalso
      have asked : last ∈ requested param.params.channels := by
        rw [← right.tuned, ends]
        exact List.mem_concat_self
      have read := List.mem_map_of_mem (f := Prod.fst) (energy last asked)
      rw [ended.measured type, ends, List.dropLast_concat] at read
      have once : (front ++ [last]).Nodup := by
        rw [← ends, right.tuned]
        exact nodup_requested
      exact (List.nodup_append.1 once).2.2 last read last (List.mem_singleton_self last) rfl
  · rintro ⟨none_, tuned⟩
    refine ⟨ended.over_, tuned, ended.confirmed, fun _ confirm _ channel mem => ?_⟩
    rw [none_] at mem
    cases mem

end Request

/-- **Which scans are right.**  A refused request gives its confirm only into a buffer that is
there; a scan that does not measure goes beyond channel 26 with the mask; an energy scan is right
only for no channel at all; a passive scan never answers. -/
theorem scan_right_iff (env : ScanEnv) (param : ScanBuf) (ctx : MacCtx) :
    (∃ n t, scanRun env param ctx n = some t ∧ ScanRight param.params t) ↔
      served env param.params ctx = true := by
  cases bad : refused param.params with
  | true =>
      rw [served, if_pos bad]
      cases pending : ctx.pendingBuf with
      | none =>
          simp [scanRun, zbMlmeScanRequest, bad, MacScan.modifyCtx, MacScan.idle, pending]
      | some buf =>
          simp only [scanRun, zbMlmeScanRequest, bad, MacScan.modifyCtx, MacScan.idle, pending,
            Option.map_some, Option.bind_some, runTasks_over, Bool.not_true, Bool.false_and,
            Bool.false_eq_true, if_false, Option.some.injEq, Option.isSome_some, Bool.true_and,
            List.isEmpty_iff]
          constructor
          · rintro ⟨-, t, rfl, right⟩
            exact right.tuned.symm
          · intro none_
            refine ⟨0, _, rfl, rfl, none_.symm, rfl, fun _ confirm _ channel mem => ?_⟩
            rw [none_] at mem
            cases mem
  | false =>
      rw [served, if_neg (by simp [bad])]
      cases type : param.params.scanType with
      | activeScan =>
          obtain ⟨m, u, ran, ended⟩ := @scanning_ends env _ _ (by simp [type])
            (@scanning_active env _ ctx type)
          exact (right_of_over_iff bad ran ended.over_).trans
            (scanned_right_iff ended (by simp [type]))
      | orphanScan =>
          obtain ⟨m, u, ran, ended⟩ := @scanning_ends env _ _ (by simp [type])
            (@scanning_orphan env _ ctx type)
          exact (right_of_over_iff bad ran ended.over_).trans
            (scanned_right_iff ended (by simp [type]))
      | passiveScan =>
          rw [right_of_over_iff bad (m := 0) rfl (by rw [zbHandleScanRequest, type]; rfl)]
          constructor
          · intro right
            have confirmed := right.confirmed
            rw [zbHandleScanRequest, type] at confirmed
            cases confirmed
          · intro never
            cases never
      | edScan =>
          cases scans : env.nsBuild with
          | false =>
              obtain ⟨m, u, ran, ended⟩ := scanning_ends (fun _ => scans)
                (@scanning_ed env _ ctx type scans)
              rw [right_of_over_iff bad ran ended.over_, scanned_ed_right_iff ended type]
              simp
          | true =>
              have handled : zbHandleScanRequest env param (accepted param ctx) =
                  (zbMlmeEdScan env param ((accepted param ctx).modifyCtx fun c =>
                    { c with pendingBuf := some param })).modifyCtx fun c =>
                      { c with edScanStepPassed := false } := by
                rw [zbHandleScanRequest, type]
              rw [zbMlmeEdScan, if_pos scans] at handled
              rw [right_of_over_iff bad (m := 0) rfl (by rw [handled]; rfl), handled]
              simp only [Bool.true_or, Bool.and_true, List.isEmpty_iff]
              constructor
              · intro right
                exact right.tuned.symm
              · intro none_
                refine ⟨rfl, none_.symm, rfl, fun _ confirm _ channel mem => ?_⟩
                rw [none_] at mem
                cases mem

/-! ## An active scan of channel 27 -/

/-- The shift of the machine takes the counter modulo 32. -/
def scanEnv : ScanEnv := ⟨false, fun i => 1 <<< (i.toUInt32 % 32), fun _ _ => 0x40, false⟩

def scanCtx : MacCtx := ⟨none, false, false, macSuccess, 11, 0, 0, 0⟩

/-- Channels 26 and 27. -/
def scanBeyond : ScanBuf := ⟨⟨.activeScan, 3, 0x0C000000⟩, zeroConfirm⟩

/-- The scan ends, and has tuned to channel 27. -/
theorem scan_beyond :
    ∃ t, scanRun scanEnv scanBeyond scanCtx 4 = some t ∧ t.tasks = [] ∧ t.tuned = [26, 27] ∧
      ¬ ScanRight scanBeyond.params t := by
  have ends : (scanRun scanEnv scanBeyond scanCtx 4).any (fun t =>
      t.tasks.isEmpty && decide (t.tuned = [26, 27])) = true := by decide +kernel
  obtain ⟨t, run, done⟩ := (Option.any_eq_true _ _).1 ends
  obtain ⟨over_, tuned⟩ := (Bool.and_eq_true _ _).mp done
  have tuned := of_decide_eq_true tuned
  have asked : requested scanBeyond.params.channels = [26] := by decide +kernel
  refine ⟨t, run, List.isEmpty_iff.1 over_, tuned, fun right => ?_⟩
  have same := right.tuned
  rw [tuned, asked] at same
  cases same

end Zboss.Mac.ScanStep
