/-
# Zdo.BufferZero -- the first buffer of the pool, and the functions that take 0 for none

The callbacks run over the real pool.  Two things are kept beside the state of the
stack, for the statements only: a callback that waits for a buffer, or has been
given one, is marked `delivers`; and `announced`, `switching` are the buffers of the
announcement and of the key switch that have not been confirmed.

A buffer delivered is sent on or freed, and a confirm is attributed as it should be,
along a run if and only if no step of it meets reference 0 in the wrong place
(`reference_zero_iff`).
-/
import Mathlib
import Zboss.Theory.Run
import Zboss.Common.Bufpool
import Zboss.Zdo.App

namespace Zboss.Zdo.BufferZero

open Zboss.Theory.Run
open Zboss.Common.Types
open Zboss.Common.RingBuffer
open Zboss.Common.Scheduler
open Zboss.Common.Bufpool
open Zboss.Nwk.Neighbor
open Zboss.Nwk.Broadcast
open Zboss.Zdo.App

set_option autoImplicit false

/-! ## The machine -/

/-- A callback, and whether its parameter is a buffer the allocator hands over. -/
structure Callback where
  func : StackFn
  delivers : Bool
  deriving DecidableEq

structure Stack where
  bufpool : ZbBufpool Callback
  brr : ZbNwkBrrt
  zdo : ZdoHandle
  env : NwkEnv
  announced : Option UInt8
  switching : Option UInt8

variable (spill : Nat → Nat → ZbNwkBrrt → ZbNwkBrrt)

/-- What a callback does, and asks for. -/
def exec (func : StackFn) (param : UInt8) (s : Stack) : Stack × List StackCall :=
  match func with
  | .nwkBroadcastTransmition =>
      let (brr, calls) := nwkBroadcastTransmition spill s.env param s.brr
      ({ s with brr }, calls)
  | .zbZdoPollParent =>
      let (zdo, calls) := zbZdoPollParent s.env param s.zdo
      ({ s with zdo }, calls)
  | .zdoSendDeviceAnnce =>
      let (zdo, calls) := zdoSendDeviceAnnce param s.zdo
      ({ s with zdo, announced := some param }, calls)
  | .zbSecurSendNwkKeySwitch =>
      let (zdo, calls) := zbSecurSendNwkKeySwitch param s.zdo
      ({ s with zdo, switching := some param }, calls)
  | .zbApsdeDataConfirm =>
      let (zdo, calls) := zbApsdeDataConfirm s.env param s.zdo
      if s.announced = some param then ({ s with zdo, announced := none }, calls)
      else if s.switching = some param then ({ s with zdo, switching := none }, calls)
      else ({ s with zdo }, calls)
  | _ => (s, [])

/-- Carry out a call, as far as it concerns the pool and the callback queue. -/
def perform (bufpool : ZbBufpool Callback) : StackCall → Option (ZbBufpool Callback)
  | .schedule func param => bufStep bufpool (.schedule ⟨func, false⟩ param)
  | .getOutBufDelayed func => bufStep bufpool (.getOutDelayed ⟨func, true⟩)
  | .freeBuf buf => bufStep bufpool (.free buf.toNat)
  | _ => some bufpool

/-- What the rest of the stack asks of the pool. -/
def mark : BufCall StackFn → BufCall Callback
  | .getIn => .getIn
  | .getOut => .getOut
  | .getInDelayed func => .getInDelayed ⟨func, true⟩
  | .getOutDelayed func => .getOutDelayed ⟨func, true⟩
  | .free buf => .free buf
  | .fill buf first => .fill buf first
  | .rxNeedBuf need => .rxNeedBuf need
  | .schedule func param => .schedule ⟨func, false⟩ param
  | .done => .done

inductive StackStep where
  /-- The main loop runs the first callback, which keeps its slot meanwhile. -/
  | dispatch
  /-- An alarm, or another part of the stack, runs one. -/
  | call (func : StackFn) (param : UInt8)
  /-- Another part of the stack uses the pool, changes the table or its own state. -/
  | pool (call : BufCall StackFn)
  | brr (table : ZbNwkBrrt)
  | env (now : NwkEnv)

def runCallback (func : StackFn) (param : UInt8) (s : Stack) : Option Stack :=
  let (s, calls) := exec spill func param s
  (calls.foldlM perform s.bufpool).map fun bufpool => { s with bufpool }

def stackStep (s : Stack) : StackStep → Option Stack
  | .dispatch =>
      match s.bufpool.cbQ.peek with
      | some ⟨⟨func, _⟩, param⟩ =>
          (runCallback spill func param s).map fun s =>
            { s with bufpool := { s.bufpool with cbQ := s.bufpool.cbQ.flushGet } }
      | none => some s
  | .call func param => runCallback spill func param s
  | .pool call => (bufStep s.bufpool (mark call)).map fun bufpool => { s with bufpool }
  | .brr table => some { s with brr := table }
  | .env now => some { s with env := now }

/-- The pool at its start, nothing remembered. -/
def Stack.start (brr : ZbNwkBrrt) (env : NwkEnv) : Stack where
  bufpool := schedInitBufs (zbInitBuffers (.zero ⟨.other, false⟩))
  brr := brr
  zdo := ⟨0, 0, false, false⟩
  env := env
  announced := none
  switching := none

/-! ## What a step ought to do -/

/-- The callback that the main loop runs, if it is one of the two that ask for a
buffer, with the buffer it has been given. -/
def delivered (s : Stack) : StackStep → Option (StackFn × UInt8)
  | .dispatch => s.bufpool.cbQ.peek.bind fun ent =>
      if ent.func.delivers ∧ (ent.func.func = .nwkBroadcastTransmition ∨
          ent.func.func = .zbZdoPollParent) then some (ent.func.func, ent.param)
      else none
  | _ => none

/-- The buffer a step confirms. -/
def confirmed (s : Stack) : StackStep → Option UInt8
  | .dispatch => s.bufpool.cbQ.peek.bind fun ent =>
      if ent.func.func = .zbApsdeDataConfirm then some ent.param else none
  | .call .zbApsdeDataConfirm param => some param
  | _ => none

/-- The callback frees the buffer or passes it on, and the queue takes it. -/
def Handled (s : Stack) (func : StackFn) (param : UInt8) : Prop :=
  let calls := (exec spill func param s).2
  .freeBuf param ∈ calls ∨
    (s.bufpool.cbQ.isFull = false ∧
      (.schedule .zbMcpsDataRequest param ∈ calls ∨ .schedule .zbNlmeSyncRequest param ∈ calls))

/-- A buffer is taken for the announcement, or for the key switch, exactly if it is. -/
def Attributed (s : Stack) (param : UInt8) : Prop :=
  let calls := (exec spill .zbApsdeDataConfirm param s).2
  (.lockOwnAddress ∈ calls ↔ s.announced = some param) ∧
    (.securNwkKeySwitch ∈ calls ↔ s.announced ≠ some param ∧ s.switching = some param)

def ReferenceKept (s : Stack) (step : StackStep) : Prop :=
  (∀ d ∈ delivered s step, Handled spill s d.1 d.2) ∧
    ∀ param ∈ confirmed s step, Attributed spill s param

instance (s : Stack) (step : StackStep) : Decidable (ReferenceKept spill s step) := by
  unfold ReferenceKept Handled Attributed
  infer_instance

/-! ## When it does -/

/-- The callback has to pass its buffer on. -/
def passes (s : Stack) : StackFn → Bool
  | .nwkBroadcastTransmition => mustSend spill s.env s.brr
  | _ => true

/-- Reference 0 is not delivered, and is confirmed only where it, or both others, are
remembered; and the queue has room for a buffer to be passed on. -/
def ZeroApart (s : Stack) (step : StackStep) : Prop :=
  (∀ d ∈ delivered s step, d.2 ≠ 0 ∧ (passes spill s d.1 = true → s.bufpool.cbQ.isFull = false)) ∧
    ∀ param ∈ confirmed s step,
      param ≠ 0 ∨ s.announced = some 0 ∨ (s.announced.isSome ∧ s.switching.isSome)

section Steps

variable {s t : Stack} {param : UInt8}

theorem broadcast_handled_iff :
    Handled spill s .nwkBroadcastTransmition param ↔
      param ≠ 0 ∧
        (passes spill s .nwkBroadcastTransmition = true → s.bufpool.cbQ.isFull = false) := by
  unfold Handled passes mustSend
  simp only [exec, nwkBroadcastTransmition]
  generalize loopCounter s.env s.brr = counter
  rcases selectEnt s.env s.brr with ⟨brr, _ | ⟨i, nent⟩⟩
  · -- nothing to send: the buffer is freed, unless it is 0
    by_cases zero : param = 0
    · by_cases idle : brr.brrtCnt = 0 <;> simp [zero, idle]
    · simp [zero]
  · by_cases zero : param = 0
    · simp [zero]
    · cases last : isLast s.env counter ((markSent spill s.env i nent brr).brrt i) with
      | true => simp [zero, last]
      | false =>
          cases nent <;> simp [zero, last]

theorem poll_handled_iff :
    Handled spill s .zbZdoPollParent param ↔
      param ≠ 0 ∧ (passes spill s .zbZdoPollParent = true → s.bufpool.cbQ.isFull = false) := by
  unfold Handled passes
  simp only [exec, zbZdoPollParent]
  by_cases zero : param = 0
  · cases s.env.joined <;> simp [zero]
  · simp [zero]

/-- The fields are what is remembered, or 0. -/
structure Remembered (s : Stack) : Prop where
  devAnnce : s.zdo.devAnnce = s.announced.getD 0
  keySw : s.zdo.keySw = s.switching.getD 0

/-- What a confirm is taken for. -/
theorem confirm_calls (env : NwkEnv) (param : UInt8) (zdo : ZdoHandle) :
    (.lockOwnAddress ∈ (zbApsdeDataConfirm env param zdo).2 ↔ zdo.devAnnce = param) ∧
      (.securNwkKeySwitch ∈ (zbApsdeDataConfirm env param zdo).2 ↔
        zdo.devAnnce ≠ param ∧ zdo.keySw = param) := by
  unfold zbApsdeDataConfirm
  by_cases annce : zdo.devAnnce = param
  · cases started : zdo.started <;> simp [annce]
  · by_cases switch : zdo.keySw = param
    · simp [annce, switch]
    · cases leaves : env.leaveWaits param
      · cases sent : env.sent param <;> simp [annce, switch]
      · simp [annce, switch]

/-- A field that equals a buffer not remembered is 0. -/
theorem eq_zero_of_getD {remembered : Option UInt8} (isNot : remembered ≠ some param)
    (is : remembered.getD 0 = param) : param = 0 := by
  cases remembered with
  | none => exact is.symm
  | some buf => exact absurd (congrArg some is) isNot

/-- What a confirm leaves in the fields. -/
theorem confirm_fields (env : NwkEnv) (param : UInt8) (zdo : ZdoHandle) :
    (zbApsdeDataConfirm env param zdo).1.devAnnce =
        (if zdo.devAnnce = param then 0 else zdo.devAnnce) ∧
      (zbApsdeDataConfirm env param zdo).1.keySw =
        (if zdo.devAnnce ≠ param ∧ zdo.keySw = param then 0 else zdo.keySw) := by
  unfold zbApsdeDataConfirm
  by_cases annce : zdo.devAnnce = param
  · simp [annce]
  · by_cases switch : zdo.keySw = param
    · simp [annce, switch]
    · cases leaves : env.leaveWaits param <;> simp [annce, switch]

theorem attributed_iff (remembered : Remembered s) :
    Attributed spill s param ↔
      param ≠ 0 ∨ s.announced = some 0 ∨ (s.announced.isSome ∧ s.switching.isSome) := by
  have calls : (exec spill .zbApsdeDataConfirm param s).2 =
      (zbApsdeDataConfirm s.env param s.zdo).2 := by
    simp only [exec]
    split
    · rfl
    · split <;> rfl
  obtain ⟨lock, switch⟩ := confirm_calls s.env param s.zdo
  unfold Attributed
  rw [calls]
  simp only [lock, switch, remembered.devAnnce, remembered.keySw]
  by_cases zero : param = 0
  · subst zero
    cases s.announced <;> cases s.switching <;> simp
  · have apart : (0 : UInt8) ≠ param := Ne.symm zero
    cases s.announced <;> cases s.switching <;> simp [zero, apart]

theorem zeroApart_iff (remembered : Remembered s) (step : StackStep) :
    ReferenceKept spill s step ↔ ZeroApart spill s step := by
  refine and_congr ?_ (forall₂_congr fun param _ => attributed_iff spill remembered)
  refine forall₂_congr fun d mem => ?_
  obtain ⟨func, param⟩ := d
  cases step with
  | dispatch =>
      obtain ⟨ent, -, is⟩ := Option.bind_eq_some_iff.1 mem
      split at is
      · rename_i asks
        obtain ⟨rfl, rfl⟩ := Prod.mk.inj (Option.some.inj is)
        rcases asks.2 with broadcast | poll
        · rw [broadcast]
          exact broadcast_handled_iff spill
        · rw [poll]
          exact poll_handled_iff spill
      · cases is
  | call func param => cases mem
  | pool call => cases mem
  | brr table => cases mem
  | env now => cases mem

/-! ## Runs -/

/-- The fields follow what is remembered, also where a confirm of reference 0 is
taken for another. -/
theorem remembered_exec (remembered : Remembered s) (func : StackFn) (param : UInt8) :
    Remembered (exec spill func param s).1 := by
  obtain ⟨devAnnce, keySw⟩ := remembered
  cases func with
  | zbZdoPollParent =>
      simp only [exec, zbZdoPollParent]
      split <;> exact ⟨devAnnce, keySw⟩
  | zdoSendDeviceAnnce => exact ⟨rfl, keySw⟩
  | zbSecurSendNwkKeySwitch => exact ⟨devAnnce, rfl⟩
  | zbApsdeDataConfirm =>
      obtain ⟨annce, switch⟩ := confirm_fields s.env param s.zdo
      rw [devAnnce] at annce switch
      rw [keySw] at switch
      simp only [exec]
      split
      · rename_i is
        refine ⟨?_, ?_⟩
        · simpa [is] using annce
        · simpa [is] using switch
      · rename_i isNot
        have annce : (zbApsdeDataConfirm s.env param s.zdo).1.devAnnce = s.announced.getD 0 := by
          rw [annce]
          split
          · rename_i is
            rw [is, eq_zero_of_getD isNot is]
          · rfl
        split
        · rename_i is
          refine ⟨annce, ?_⟩
          rw [switch, is]
          split
          · rfl
          · rename_i other
            have same : s.announced.getD 0 = param := by simpa using other
            exact eq_zero_of_getD isNot same
        · rename_i isNot'
          refine ⟨annce, ?_⟩
          rw [switch]
          split
          · rename_i is
            rw [is.2, eq_zero_of_getD isNot' is.2]
          · rfl
  | nwkBroadcastTransmition => exact ⟨devAnnce, keySw⟩
  | _ => exact ⟨devAnnce, keySw⟩

theorem remembered_runCallback {func : StackFn} (remembered : Remembered s)
    (ran : runCallback spill func param s = some t) : Remembered t := by
  obtain ⟨bufpool, -, rfl⟩ := Option.map_eq_some_iff.1 ran
  obtain ⟨devAnnce, keySw⟩ := remembered_exec spill remembered func param
  exact ⟨devAnnce, keySw⟩

theorem remembered_step (remembered : Remembered s) {step : StackStep}
    (taken : stackStep spill s step = some t) : Remembered t := by
  cases step with
  | dispatch =>
      simp only [stackStep] at taken
      split at taken
      · obtain ⟨u, ran, rfl⟩ := Option.map_eq_some_iff.1 taken
        obtain ⟨devAnnce, keySw⟩ := remembered_runCallback spill remembered ran
        exact ⟨devAnnce, keySw⟩
      · cases taken
        exact remembered
  | call func param => exact remembered_runCallback spill remembered taken
  | pool call =>
      obtain ⟨bufpool, -, rfl⟩ := Option.map_eq_some_iff.1 taken
      exact ⟨remembered.devAnnce, remembered.keySw⟩
  | brr table =>
      cases taken
      exact ⟨remembered.devAnnce, remembered.keySw⟩
  | env now =>
      cases taken
      exact ⟨remembered.devAnnce, remembered.keySw⟩

end Steps

/-- **Every step of a run keeps its references if and only if reference 0 stays apart
in every step.** -/
theorem reference_zero_iff (brr : ZbNwkBrrt) (env : NwkEnv) (steps : List StackStep) :
    Along (stackStep spill) (ReferenceKept spill) (.start brr env) steps ↔
      Along (stackStep spill) (ZeroApart spill) (.start brr env) steps := by
  have keeps : ∀ s step t, Remembered s → ReferenceKept spill s step →
      stackStep spill s step = some t → Remembered t :=
    fun _ _ _ remembered _ taken => remembered_step spill remembered taken
  apply along_congr keeps
  · intro s step remembered
    exact zeroApart_iff spill remembered step
  · exact ⟨rfl, rfl⟩

/-! ## A run -/

/-- A device without neighbours. -/
def alone : NwkEnv where
  timer := 100
  pibShortAddress := 0x1234
  neighbor :=
    { baseNeighbor := fun _ => { newNeighbor 0 0 with used := false }
      addrToNeighbor := fun _ => 255
      baseNeighborSize := 32
      baseNeighborUsed := 0 }
  addr := .init
  nwkSrcAddr := fun _ => 0x1234
  joined := true
  sent := fun _ => true
  leaveWaits := fun _ => false

/-- A frame in buffer 1 is to be broadcast. -/
def oneFrame : ZbNwkBrrt where
  brrt i := ⟨i == 0, 0, 1, none, 0, 0x5678, zbNwkBroadcastAllDevices, 0⟩
  brrtCnt := 1

/-- Buffer 0 is free again when `zb_nwk_forward` asks for a buffer for the frame. -/
def firstBufferIsFree : List StackStep :=
  [.pool .getOut, .pool .getOut, .pool (.free 0), .brr oneFrame,
    .pool (.getOutDelayed .nwkBroadcastTransmition), .dispatch]

/-- The buffer delivered is buffer 0: the callback asks for another one, and it is lost. -/
theorem first_buffer_is_lost :
    ¬ ∀ (spill : Nat → Nat → ZbNwkBrrt → ZbNwkBrrt) (brr : ZbNwkBrrt) (env : NwkEnv)
      (steps : List StackStep),
      Along (stackStep spill) (ReferenceKept spill) (.start brr env) steps := by
  intro always
  have broken : ¬ Along (stackStep fun _ _ t => t) (ReferenceKept fun _ _ t => t)
      (.start oneFrame alone) firstBufferIsFree := by decide +kernel
  exact broken (always _ _ _ _)

end Zboss.Zdo.BufferZero
