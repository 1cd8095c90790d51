/-
# Mac.IndirectQueue -- whether an indirect frame leaves the queue once, to its device

The slot that a data request command chooses is remembered while its frame is sent; its alarm, and
other procedures that share `pending_buf`, run meanwhile.

* `isFor_iff`: a frame is for the device that its slot names;
* `Ready`: while the continuation waits, the slot chosen holds the frame chosen;
* `txCall_passes`: what one event that `Fits` takes into the queue, and hands on from it;
* `txCall_held`: an event hands on only what the MAC has, and has it no longer;
* `indirect_of_run`: along every run that `Fits`, each queued buffer is handed on once, and no buffer
  again before it is given to the MAC again.

Poles: `expired_while_sent`, a frame that is handed on for another one.
-/
import Mathlib
import Zboss.Common.Constants
import Zboss.Mac.Transmit

namespace Zboss.Mac.IndirectQueue

open Zboss.Common.Constants
open Zboss.Common.Types
open Zboss.Theory.Run
open Zboss.Theory.Slots
open Zboss.Mac.Header
open Zboss.Mac.Transmit

set_option autoImplicit false

/-! ## What is claimed -/

/-- A buffer is put in the queue. -/
def queued : TxCall → Option UInt8
  | .queue buf => some buf
  | _ => none

/-- A buffer is confirmed, reported or freed. -/
def handsOn : TxCall → Option UInt8
  | .mcpsDataConfirm param _ => some param
  | .commStatusIndication param _ => some param
  | .freeBuf param => some param
  | _ => none

/-- A frame is sent for a data request command: the argument of the command, and its buffer. -/
def answers : TxCall → Option (UInt8 × UInt8)
  | .send (some (.handleDataRequestCmdContinue, arg)) (some buf) => some (arg, buf)
  | _ => none

/-- The buffers in the queue. -/
def inQueue (s : MacTx) : List UInt8 :=
  contents (fun i => (s.pendingDataQueue i).map PendingData.pendingData) zbMacPendingQueueSize

/-- The buffer that an entry of `mac_tx_q` is called with. -/
def argument : TxCb → Option UInt8
  | .handleMcpsDataReq param _ => some param
  | .acceptDataRequestCmd param _ => some param
  | .sendAssociationReqCmd param => some param
  | .handleOrphanResponse param => some param
  | .handlePollRequest param => some param
  | .handleBeaconReq => none

/-- What the continuation that waits may hand on. -/
def waiting (s : MacTx) : List UInt8 :=
  match s.txWaitCb with
  | some .handleMcpsDataReqContinue => [s.txWaitCbArg]
  | some .handleDataRequestCmdContinue | some .handleOrphanResponseContinue => s.pendingBuf.toList
  | some .sendAssociationReqContinue | none => []

/-- The buffers that the MAC has: in the queue of frames, in that of procedures, and waiting. -/
def held (s : MacTx) : List UInt8 := inQueue s ++ s.macTxQ.filterMap argument ++ waiting s

/-- The buffers that an event gives to the MAC. -/
def given (_ : MacTx) : TxEvent → List UInt8
  | .schedule cb => (argument cb).toList
  | .associateResponse _ param _ => [param]
  | _ => []

variable (build : TxBuild)

/-- What an event hands on. -/
def handsOut (s : MacTx) (event : TxEvent) : List UInt8 := (txOut build s event).filterMap handsOn

/-- What an event hands on of the buffers in the queue. -/
def handed (s : MacTx) (event : TxEvent) : List UInt8 :=
  (handsOut build s event).filter (· ∈ inQueue s)

/-- `zb_handle_data_request_cmd_continue` is called. -/
def Continues (s : MacTx) : TxEvent → Prop
  | .mainLoop _ => s.txWaitCb = some .handleDataRequestCmdContinue ∧ s.txCnt ≠ 0
  | _ => False

/-- The slot chosen still holds the frame that was chosen. -/
def SameFrame (s : MacTx) (event : TxEvent) : Prop :=
  Continues s event → ∃ data, s.pendingDataQueue s.macDataReq.dataFoundIndex = some data ∧
    data.pendingData = s.macDataReq.fcf

/-- The source address of a command is the destination of a slot. -/
def SameDevice (mhr : ZbMacMhr) (data : PendingData) : Prop :=
  fcfGetSrcAddressingMode mhr.frameControl = data.dstAddrMode ∧
    (data.dstAddrMode = zbAddr64bitDev ∧ mhr.srcAddr = data.dstAddr ∨
      data.dstAddrMode = zbAddr16bitDevOrBroadcast ∧
        addrShort mhr.srcAddr = addrShort data.dstAddr)

/-- The frame is in a slot for the device whose command comes next. -/
def Asked (s : MacTx) (arg buf : UInt8) : Prop :=
  ∃ mhr i data, s.macTxQ.head? = some (.acceptDataRequestCmd arg mhr) ∧
    s.pendingDataQueue i = some data ∧ data.pendingData = buf ∧ SameDevice mhr data

/-- A frame is sent only to the device that asks for it. -/
def RightDevice (s : MacTx) (event : TxEvent) : Prop :=
  ∀ arg buf, (arg, buf) ∈ (txOut build s event).filterMap answers → Asked s arg buf

/-- **What is claimed of a run.** -/
structure Indirect (s : MacTx) (events : List TxEvent) (u : MacTx) : Prop where
  once : (inQueue s ++
      trace (txStep build) (fun s event => (txOut build s event).filterMap queued) s events).Perm
    (trace (txStep build) (handed build) s events ++ inQueue u)
  /-- No buffer is handed on more often than it is given to the MAC. -/
  again : ∀ buf, (trace (txStep build) (handsOut build) s events ++ held u).count buf ≤
    (held s ++ trace (txStep build) given s events).count buf
  same : Along (txStep build) SameFrame s events
  device : Along (txStep build) (RightDevice build) s events

/-! ## The condition -/

/-- What an event may hand on that is not in a slot. -/
def others (s : MacTx) : TxEvent → List UInt8
  | .mainLoop _ =>
      match s.txWaitCb with
      | some _ => waiting s
      | none =>
          match s.macTxQ.head? with
          | some (.acceptDataRequestCmd param _) => [param]
          | _ => []
  | .associateResponse _ param _ => [param]
  | _ => []

/-- The alarm that runs out is not that of the slot chosen. -/
def Undisturbed (s : MacTx) : TxEvent → Prop
  | .pendingDataTimeout i =>
      ¬ (s.txWaitCb = some .handleDataRequestCmdContinue ∧ i = s.macDataReq.dataFoundIndex)
  | _ => True

/-- The continuation that waits reads `pending_buf`. -/
def ReadsPendingBuf (s : MacTx) : Prop :=
  s.txWaitCb = some .handleDataRequestCmdContinue ∨ s.txWaitCb = some .handleOrphanResponseContinue

/-- No other buffer is put in `pending_buf` while a continuation waits that reads it. -/
def Kept (s : MacTx) : TxEvent → Prop
  | .associateResponse joinedPro _ _ => ReadsPendingBuf s → joinedPro = true
  | .elsewhere pendingBuf _ _ _ =>
      ReadsPendingBuf s → pendingBuf = s.pendingBuf ∨ pendingBuf = none
  | _ => True

/-- There is room for what is handed on from a slot. -/
def Room (s : MacTx) : TxEvent → Prop
  | .mainLoop _ => s.txWaitCb = some .handleDataRequestCmdContinue →
      s.macDataReq.mhrPend ≠ macFrameCommand → s.cbRoom ≠ 0
  | .pendingDataTimeout _ => s.cbRoom ≠ 0
  | _ => True

/-- **The condition**, on what comes and the state it meets. -/
structure Fits (s : MacTx) (event : TxEvent) : Prop where
  others : ∀ buf ∈ others s event, buf ∉ inQueue s
  undisturbed : Undisturbed s event
  kept : Kept s event
  room : Room s event

instance (s : MacTx) (event : TxEvent) : Decidable (Undisturbed s event) :=
  match event with
  | .pendingDataTimeout _ => inferInstanceAs (Decidable (¬ (_ ∧ _)))
  | .schedule _ | .mainLoop _ | .counted | .associateResponse .. | .sendOutside _ | .elsewhere .. =>
      inferInstanceAs (Decidable True)

instance (s : MacTx) : Decidable (ReadsPendingBuf s) := inferInstanceAs (Decidable (_ ∨ _))

instance (s : MacTx) (event : TxEvent) : Decidable (Kept s event) :=
  match event with
  | .associateResponse .. => inferInstanceAs (Decidable (_ → _))
  | .elsewhere .. => inferInstanceAs (Decidable (_ → _ ∨ _))
  | .schedule _ | .mainLoop _ | .counted | .pendingDataTimeout _ | .sendOutside _ =>
      inferInstanceAs (Decidable True)

instance (s : MacTx) (event : TxEvent) : Decidable (Room s event) :=
  match event with
  | .mainLoop _ => inferInstanceAs (Decidable (_ → _ → _))
  | .pendingDataTimeout _ => inferInstanceAs (Decidable (_ ≠ _))
  | .schedule _ | .counted | .associateResponse .. | .sendOutside _ | .elsewhere .. =>
      inferInstanceAs (Decidable True)

instance (s : MacTx) (event : TxEvent) : Decidable (Fits s event) :=
  decidable_of_iff ((∀ buf ∈ others s event, buf ∉ inQueue s) ∧ Undisturbed s event ∧
      Kept s event ∧ Room s event)
    ⟨fun all => ⟨all.1, all.2.1, all.2.2.1, all.2.2.2⟩, fun fits => ⟨fits.1, fits.2, fits.3, fits.4⟩⟩

/-! ## The queue -/

/-- **The invariant**: nothing is beyond the array, and the slot chosen holds the frame chosen. -/
structure Ready (s : MacTx) : Prop where
  beyond : ∀ i, zbMacPendingQueueSize ≤ i → s.pendingDataQueue i = none
  chosen : s.txWaitCb = some .handleDataRequestCmdContinue →
    ∃ data, s.pendingDataQueue s.macDataReq.dataFoundIndex = some data ∧
      data.pendingData = s.macDataReq.fcf ∧ data.frame.frameType = s.macDataReq.mhrPend

section Queue

variable {build : TxBuild} {radio : Radio} {s t : MacTx} {out more : List TxCall}
  {param arg : UInt8} {cb : TxWaitCb} {r : MacTx × List TxCall} {i : Nat} {data : PendingData}

theorem isFor_iff {mhr : ZbMacMhr} : isFor mhr data = true ↔ SameDevice mhr data := by
  rw [isFor, SameDevice, Bool.and_eq_true, beq_iff_eq]
  refine and_congr_right fun mode => ?_
  rw [mode]
  have differ : zbAddr16bitDevOrBroadcast ≠ zbAddr64bitDev := by decide
  by_cases long : data.dstAddrMode = zbAddr64bitDev
  · rw [if_pos long, beq_iff_eq]
    constructor
    · exact fun same => .inl ⟨long, same.symm⟩
    · rintro (⟨-, same⟩ | ⟨short, -⟩)
      · exact same.symm
      · exact absurd (short.symm.trans long) differ
  · rw [if_neg long]
    by_cases short : data.dstAddrMode = zbAddr16bitDevOrBroadcast
    · rw [if_pos short, beq_iff_eq]
      constructor
      · exact fun same => .inr ⟨short, same⟩
      · rintro (⟨is, -⟩ | ⟨-, same⟩)
        · exact absurd is long
        · exact same
    · rw [if_neg short]
      constructor
      · exact fun never => absurd never Bool.false_ne_true
      · rintro (⟨is, -⟩ | ⟨is, -⟩)
        · exact absurd is long
        · exact absurd is short

/-- A slot in use is in the array. -/
theorem Ready.inside (ready : Ready s) (slot : s.pendingDataQueue i = some data) :
    i < zbMacPendingQueueSize := by
  by_contra beyond
  rw [ready.beyond i (Nat.le_of_not_lt beyond)] at slot
  cases slot

/-- The slots stay as they are, and the slot chosen too. -/
theorem Ready.still (ready : Ready s) (same : t.pendingDataQueue = s.pendingDataQueue)
    (cb : t.txWaitCb = some .handleDataRequestCmdContinue →
      s.txWaitCb = some .handleDataRequestCmdContinue ∧ t.macDataReq = s.macDataReq) : Ready t := by
  refine ⟨?_, fun waits => ?_⟩
  · rw [same]
    exact ready.beyond
  · obtain ⟨waited, storage⟩ := cb waits
    rw [same, storage]
    exact ready.chosen waited

theorem Ready.choose (ready : Ready s) (same : t.pendingDataQueue = s.pendingDataQueue)
    (slot : s.pendingDataQueue i = some data)
    (storage : t.macDataReq = ⟨i, data.pendingData, data.frame.frameType⟩) : Ready t := by
  refine ⟨?_, fun _ => ?_⟩
  · rw [same]
    exact ready.beyond
  · rw [same, storage]
    exact ⟨data, slot, rfl, rfl⟩

/-- A free slot is filled: it is not the one chosen. -/
theorem Ready.fill (ready : Ready s)
    (free : firstFree Option.isSome s.pendingDataQueue zbMacPendingQueueSize = some i)
    (put : t.pendingDataQueue = Function.update s.pendingDataQueue i (some data))
    (cb : t.txWaitCb = s.txWaitCb) (storage : t.macDataReq = s.macDataReq) : Ready t := by
  obtain ⟨inside, empty, -⟩ := firstFree_eq_some free
  have empty : s.pendingDataQueue i = none := by simpa using empty
  refine ⟨fun j beyond => ?_, fun waits => ?_⟩
  · rw [put, Function.update_of_ne (by omega)]
    exact ready.beyond j beyond
  · obtain ⟨chosen, slot, rest⟩ := ready.chosen (cb ▸ waits)
    have apart : s.macDataReq.dataFoundIndex ≠ i := by
      rintro rfl
      rw [empty] at slot
      cases slot
    rw [put, storage, Function.update_of_ne apart]
    exact ⟨chosen, slot, rest⟩

theorem Ready.clear (ready : Ready s) (slot : s.pendingDataQueue i = some data)
    (cleared : t.pendingDataQueue = Function.update s.pendingDataQueue i none)
    (idle : t.txWaitCb = some .handleDataRequestCmdContinue →
      s.txWaitCb = some .handleDataRequestCmdContinue ∧ t.macDataReq = s.macDataReq ∧
        i ≠ s.macDataReq.dataFoundIndex) : Ready t := by
  have inside := ready.inside slot
  refine ⟨fun j beyond => ?_, fun waits => ?_⟩
  · rw [cleared, Function.update_of_ne (by omega)]
    exact ready.beyond j beyond
  · obtain ⟨waited, storage, other⟩ := idle waits
    rw [cleared, storage, Function.update_of_ne other.symm]
    exact ready.chosen waited

theorem map_update {q : Nat → Option PendingData} {x : Option PendingData} :
    (fun j => (Function.update q i x j).map PendingData.pendingData) =
      Function.update (fun j => (q j).map PendingData.pendingData) i (x.map PendingData.pendingData) :=
  Function.comp_update (Option.map PendingData.pendingData) q i x

theorem inQueue_congr (same : t.pendingDataQueue = s.pendingDataQueue) : inQueue t = inQueue s := by
  rw [inQueue, same, inQueue]

/-- A frame is put in a free slot. -/
theorem inQueue_fill (inside : i < zbMacPendingQueueSize) (free : s.pendingDataQueue i = none)
    (put : t.pendingDataQueue = Function.update s.pendingDataQueue i (some data)) :
    (inQueue t).Perm (data.pendingData :: inQueue s) := by
  rw [inQueue, put, map_update]
  exact contents_fill inside (by rw [free]; rfl)

/-- A slot is cleared. -/
theorem inQueue_clear (inside : i < zbMacPendingQueueSize) (slot : s.pendingDataQueue i = some data)
    (cleared : t.pendingDataQueue = Function.update s.pendingDataQueue i none) :
    (inQueue s).Perm (data.pendingData :: inQueue t) := by
  rw [inQueue, inQueue, cleared, map_update]
  exact contents_clear inside (by rw [slot]; rfl)

theorem mem_inQueue (inside : i < zbMacPendingQueueSize) (slot : s.pendingDataQueue i = some data) :
    data.pendingData ∈ inQueue s :=
  mem_contents.2 ⟨i, inside, by rw [slot]; rfl⟩

end Queue

/-! ## One event -/

section Passes

variable {build : TxBuild} {radio : Radio} {s t : MacTx} {out more : List TxCall}
  {param arg : UInt8} {cb : TxWaitCb} {r : MacTx × List TxCall} {i : Nat} {data : PendingData}

/-- What one event takes into the queue, and hands on from it. -/
structure Passes (s : MacTx) (out : List TxCall) (t : MacTx) : Prop where
  ready : Ready t
  once : (inQueue s ++ out.filterMap queued).Perm
    ((out.filterMap handsOn).filter (· ∈ inQueue s) ++ inQueue t)
  device : ∀ arg buf, (arg, buf) ∈ out.filterMap answers → Asked s arg buf

/-- A call that has nothing to do with the queue. -/
structure Apart (s : MacTx) (call : TxCall) : Prop where
  queued : queued call = none
  answers : answers call = none
  handsOn : ∀ buf, handsOn call = some buf → buf ∉ inQueue s

/-- A call that hands no buffer on. -/
theorem apart_of_silent {call : TxCall} (unqueued : queued call = none)
    (unanswered : answers call = none) (silent : handsOn call = none) : Apart s call := by
  refine ⟨unqueued, unanswered, fun buf given => ?_⟩
  rw [silent] at given
  cases given

theorem queued_nil (apart : ∀ call ∈ out, Apart s call) : out.filterMap queued = [] :=
  List.filterMap_eq_nil_iff.2 fun call mem => (apart call mem).queued

theorem answers_nil (apart : ∀ call ∈ out, Apart s call) : out.filterMap answers = [] :=
  List.filterMap_eq_nil_iff.2 fun call mem => (apart call mem).answers

theorem handed_nil (apart : ∀ call ∈ out, Apart s call) :
    (out.filterMap handsOn).filter (· ∈ inQueue s) = [] := by
  refine List.filter_eq_nil_iff.2 fun buf mem => ?_
  obtain ⟨call, in_, is⟩ := List.mem_filterMap.1 mem
  simpa using (apart call in_).handsOn buf is

/-- **The queue stays as it is.** -/
theorem Passes.still (ready : Ready s) (same : t.pendingDataQueue = s.pendingDataQueue)
    (cb : t.txWaitCb = some .handleDataRequestCmdContinue →
      s.txWaitCb = some .handleDataRequestCmdContinue ∧ t.macDataReq = s.macDataReq)
    (apart : ∀ call ∈ out, Apart s call) : Passes s out t := by
  refine ⟨ready.still same cb, ?_, ?_⟩
  · rw [queued_nil apart, handed_nil apart, inQueue_congr same, List.append_nil, List.nil_append]
  · rw [answers_nil apart]
    nofun

/-- **A slot is chosen.** -/
theorem Passes.choose (ready : Ready s) (same : t.pendingDataQueue = s.pendingDataQueue)
    (slot : s.pendingDataQueue i = some data)
    (storage : t.macDataReq = ⟨i, data.pendingData, data.frame.frameType⟩)
    (nothing : out.filterMap queued = [] ∧ out.filterMap handsOn = [])
    (device : ∀ arg buf, (arg, buf) ∈ out.filterMap answers → Asked s arg buf) : Passes s out t := by
  refine ⟨ready.choose same slot storage, ?_, device⟩
  rw [nothing.1, nothing.2, inQueue_congr same]
  simp

/-- **A frame is put in the queue**: its slot is not the one chosen. -/
theorem Passes.fill (ready : Ready s)
    (free : firstFree Option.isSome s.pendingDataQueue zbMacPendingQueueSize = some i)
    (put : t.pendingDataQueue = Function.update s.pendingDataQueue i (some data))
    (cb : t.txWaitCb = s.txWaitCb) (storage : t.macDataReq = s.macDataReq)
    (out_ : out = [.queue data.pendingData]) : Passes s out t := by
  obtain ⟨inside, empty, -⟩ := firstFree_eq_some free
  have empty : s.pendingDataQueue i = none := by simpa using empty
  subst out_
  refine ⟨ready.fill free put cb storage, ?_, nofun⟩
  have filled := inQueue_fill inside empty put
  exact List.perm_append_comm.trans filled.symm

/-- **A slot is cleared**, and its buffer handed on. -/
theorem Passes.clear (before after : List TxCall) (call : TxCall) (ready : Ready s)
    (slot : s.pendingDataQueue i = some data)
    (cleared : t.pendingDataQueue = Function.update s.pendingDataQueue i none)
    (idle : t.txWaitCb = some .handleDataRequestCmdContinue →
      s.txWaitCb = some .handleDataRequestCmdContinue ∧ t.macDataReq = s.macDataReq ∧
        i ≠ s.macDataReq.dataFoundIndex)
    (out_ : out = before ++ call :: after) (ends : handsOn call = some data.pendingData)
    (apart : ∀ call ∈ before ++ after, Apart s call) : Passes s out t := by
  have inside := ready.inside slot
  have mem := mem_inQueue inside slot
  have first : ∀ call ∈ before, Apart s call := fun call mem => apart call (List.mem_append_left _ mem)
  have last : ∀ call ∈ after, Apart s call := fun call mem => apart call (List.mem_append_right _ mem)
  have nothing : queued call = none ∧ answers call = none := by
    cases call with
    | mcpsDataConfirm => exact ⟨rfl, rfl⟩
    | commStatusIndication => exact ⟨rfl, rfl⟩
    | freeBuf => exact ⟨rfl, rfl⟩
    | send => cases ends
    | report => cases ends
    | wait => cases ends
    | call => cases ends
    | queue => cases ends
    | respTimeout => cases ends
  subst out_
  refine ⟨ready.clear slot cleared idle, ?_, ?_⟩
  · rw [List.filterMap_append, List.filterMap_append, List.filter_append, List.filterMap_cons,
      List.filterMap_cons, nothing.1, ends, queued_nil first, queued_nil last, handed_nil first]
    dsimp only
    rw [List.filter_cons_of_pos (by simpa using mem), handed_nil last]
    simpa using inQueue_clear inside slot cleared
  · rw [List.filterMap_append, List.filterMap_cons, nothing.2, answers_nil first, answers_nil last]
    nofun

/-! ## Continuations -/

/-- The continuation of a data request command ends the frame chosen. -/
theorem handleDataRequestCmdContinue_passes (ready : Ready s)
    (is : s.txWaitCb = some .handleDataRequestCmdContinue)
    (others : ∀ buf ∈ s.pendingBuf.toList, buf ∉ inQueue s)
    (room : s.macDataReq.mhrPend ≠ macFrameCommand → s.cbRoom ≠ 0)
    (ran : zbHandleDataRequestCmdContinue radio { s with txCnt := 0 } = some r) :
    Passes s (.call .handleDataRequestCmdContinue s.txWaitCbArg :: r.2)
      { r.1 with txWaitCb := none } := by
  obtain ⟨data, status, freed, macStatus, cbRoom, slot, about, association, -⟩ :=
    handleDataRequestCmdContinue_cases ran
  obtain ⟨chosen, there, fcf, mhrPend⟩ := ready.chosen is
  obtain rfl : chosen = data := Option.some.inj (there.symm.trans slot)
  have apart : ∀ call ∈ status ++ freed, Apart s call := by
    intro call mem
    obtain ⟨buffer, has, is⟩ := about call mem
    have not : buffer ∉ inQueue s := others buffer (by rw [show s.pendingBuf = _ from has]; simp)
    obtain rfl | ⟨value, rfl⟩ := is
    · exact ⟨rfl, rfl, fun buf same => Option.some.inj same ▸ not⟩
    · exact ⟨rfl, rfl, fun buf same => Option.some.inj same ▸ not⟩
  have ends : ∃ call, endCalls s.macDataReq.mhrPend chosen (s.cbRoom - status.length) = [call] ∧
      handsOn call = some chosen.pendingData := by
    rw [endCalls]
    by_cases command : s.macDataReq.mhrPend = macFrameCommand
    · rw [if_pos command]
      exact ⟨_, rfl, rfl⟩
    · have same : fcfFrame radio chosen { s with txCnt := 0 } = chosen.frame := if_pos fcf
      have nothing : status = [] := association (by rw [same, mhrPend]; exact command)
      have left : s.cbRoom - status.length ≠ 0 := by
        rw [nothing]
        exact room command
      rw [if_neg command, if_neg left]
      exact ⟨_, rfl, rfl⟩
  obtain ⟨call, one, gives⟩ := ends
  refine .clear (.call .handleDataRequestCmdContinue s.txWaitCbArg :: status) freed call ready there
    rfl (by simp) ?_ gives ?_
  · show _ :: (status ++ endCalls s.macDataReq.mhrPend chosen (s.cbRoom - status.length) ++ freed) = _
    rw [one]
    simp
  · intro other mem
    cases mem with
    | head => exact apart_of_silent rfl rfl rfl
    | tail _ mem => exact apart other mem

/-- **What the loop calls.** -/
theorem callTxWaitCb_passes (ready : Ready s) (is : s.txWaitCb = some cb)
    (fits : Fits s (.mainLoop radio))
    (ran : callTxWaitCb radio s.txWaitCbArg { s with txCnt := 0 } cb = some r) :
    Passes s (.call cb s.txWaitCbArg :: r.2) { r.1 with txWaitCb := none } := by
  obtain ⟨others, -, -, room⟩ := fits
  rw [IndirectQueue.others, is] at others
  dsimp only at others
  rw [waiting, is] at others
  cases cb with
  | handleMcpsDataReqContinue =>
      cases ran
      obtain ⟨macStatus, same⟩ := @handleMcpsDataReqContinue_eq radio { s with txCnt := 0 } s.txWaitCbArg
      rw [same]
      refine .still ready rfl nofun fun call mem => ?_
      cases mem with
      | head => exact apart_of_silent rfl rfl rfl
      | tail _ mem =>
          dsimp only at mem
          split at mem
          · cases mem
          · rw [List.mem_singleton.1 mem]
            refine ⟨rfl, rfl, fun buf same => ?_⟩
            exact Option.some.inj same ▸ others _ (List.mem_singleton_self _)
  | handleDataRequestCmdContinue =>
      exact handleDataRequestCmdContinue_passes ready is others (room is) ran
  | sendAssociationReqContinue =>
      cases ran
      obtain ⟨macStatus, same, out⟩ := @sendAssociationReqContinue_eq radio { s with txCnt := 0 }
      rw [same]
      refine .still ready rfl nofun fun call mem => ?_
      cases mem with
      | head => exact apart_of_silent rfl rfl rfl
      | tail _ mem =>
          rw [out call mem]
          exact apart_of_silent rfl rfl rfl
  | handleOrphanResponseContinue =>
      obtain ⟨buffer, macStatus, cbRoom, has, same, -, out⟩ := handleOrphanResponseContinue_cases ran
      rw [same]
      refine .still ready rfl nofun fun call mem => ?_
      cases mem with
      | head => exact apart_of_silent rfl rfl rfl
      | tail _ mem =>
          rw [out call mem]
          refine ⟨rfl, rfl, fun buf same => ?_⟩
          exact Option.some.inj same ▸ others _ (by rw [show s.pendingBuf = _ from has]; simp)

/-! ## Procedures -/

/-- What is sent without a slot. -/
theorem transSendCommand_passes {tx : Tx} {buf : Option UInt8} (none_ : tx = none ∨ buf = none) :
    ∀ call ∈ (transSendCommand radio tx buf t).2, Apart s call := by
  intro call mem
  obtain ⟨air, txCnt, -, -, sends⟩ := @transSendCommand_cases radio t tx buf
  rw [sends call mem]
  obtain rfl | rfl := none_
  · exact apart_of_silent rfl rfl rfl
  · refine ⟨rfl, ?_, nofun⟩
    rcases tx with - | ⟨cb, arg⟩
    · rfl
    · cases cb with
      | handleMcpsDataReqContinue => rfl
      | handleDataRequestCmdContinue => rfl
      | sendAssociationReqContinue => rfl
      | handleOrphanResponseContinue => rfl

/-- The command that comes next is answered with a frame for its device. -/
theorem asked_of_found {mhr : ZbMacMhr} {rest : List TxCb}
    (queue : s.macTxQ = .acceptDataRequestCmd param mhr :: rest)
    (found : checkPendingData mhr s = some i) (slot : s.pendingDataQueue i = some data) :
    Asked s param data.pendingData := by
  obtain ⟨-, own, there, for_⟩ := checkPendingData_eq_some found
  obtain rfl : own = data := Option.some.inj (there.symm.trans slot)
  exact ⟨mhr, i, own, by rw [queue]; rfl, slot, rfl, isFor_iff.1 for_⟩

/-- **What the loop takes from its queue.** -/
theorem callTxCb_passes {entry : TxCb} {rest : List TxCb} (ready : Ready s)
    (idle : s.txWaitCb = none) (queue : s.macTxQ = entry :: rest) (fits : Fits s (.mainLoop radio))
    (ran : callTxCb build radio s entry = some r) :
    Passes s r.2 { r.1 with macTxQ := r.1.macTxQ.tail } := by
  have others := fits.others
  rw [IndirectQueue.others, idle, queue] at others
  cases entry with
  | handleMcpsDataReq param req =>
      cases handleMcpsDataReq_cases ran with
      | counterError => exact .still ready rfl (fun waits => ⟨waits, rfl⟩) (by simp)
      | queued i indirect free => exact .fill ready free rfl rfl rfl rfl
      | putBack => exact .still ready rfl (fun waits => ⟨waits, rfl⟩) (by simp)
      | insecure => exact .still ready rfl (fun waits => ⟨waits, rfl⟩) (by simp)
      | unsent =>
          refine .still ready rfl (by simp) fun call mem => ?_
          rw [List.mem_singleton.1 mem]
          exact apart_of_silent rfl rfl rfl
      | sent =>
          refine .still ready rfl (by simp) fun call mem => ?_
          simp only [List.mem_cons, List.not_mem_nil, or_false] at mem
          obtain rfl | rfl := mem
          · exact apart_of_silent rfl rfl rfl
          · exact apart_of_silent rfl rfl rfl
  | acceptDataRequestCmd param mhr =>
      have answered := @handleDataRequestCmd_cases build radio s param mhr
      cases ran
      generalize zbHandleDataRequestCmd build radio param mhr s = r at answered ⊢
      cases answered with
      | nothing =>
          refine .still ready rfl (fun waits => ⟨waits, rfl⟩) fun call mem => ?_
          rw [List.mem_singleton.1 mem]
          refine ⟨rfl, rfl, fun buf same => ?_⟩
          exact Option.some.inj same ▸ others _ (List.mem_singleton_self _)
      | unsent i data found slot =>
          exact .choose ready rfl slot rfl ⟨rfl, rfl⟩ (by simp [answers])
      | sent i data found slot =>
          refine .choose ready rfl slot rfl ⟨rfl, rfl⟩ fun arg buf mem => ?_
          obtain ⟨rfl, rfl⟩ := Prod.mk.inj (List.mem_singleton.1 mem)
          exact asked_of_found queue found slot
  | handleBeaconReq =>
      cases ran
      obtain ⟨air, txCnt, is, out⟩ := @handleBeaconReq_cases radio s
      rw [is]
      refine .still ready rfl (fun waits => ⟨waits, rfl⟩) fun call mem => ?_
      rw [out call mem]
      exact apart_of_silent rfl rfl rfl
  | sendAssociationReqCmd param =>
      cases ran
      obtain ⟨air, txCnt, is, out⟩ := @sendAssociationReqCmd_cases radio s param
      rw [is]
      refine .still ready rfl (by simp) fun call mem => ?_
      obtain rfl | rfl := out call mem
      · exact apart_of_silent rfl rfl rfl
      · exact apart_of_silent rfl rfl rfl
  | handleOrphanResponse param =>
      cases ran
      obtain ⟨air, txCnt, is, out⟩ := @handleOrphanResponse_cases radio s param
      rw [is]
      refine .still ready rfl (by simp) fun call mem => ?_
      obtain rfl | rfl := out call mem
      · exact apart_of_silent rfl rfl rfl
      · exact apart_of_silent rfl rfl rfl
  | handlePollRequest param =>
      obtain ⟨air, txCnt, is, -, out⟩ := handlePollRequest_cases ran
      rw [is]
      refine .still ready rfl (fun waits => ⟨waits, rfl⟩) fun call mem => ?_
      obtain rfl | ⟨tx, -, rfl⟩ := out call mem
      · exact apart_of_silent rfl rfl rfl
      · exact apart_of_silent rfl rfl rfl

/-- **One event** that `Fits`. -/
theorem txCall_passes {event : TxEvent} (ready : Ready s) (fits : Fits s event)
    (ran : txCall build s event = some r) : Passes s r.2 r.1 := by
  cases event with
  | schedule cb =>
      cases ran
      rw [scheduleTxCb]
      split
      · exact .still ready rfl (fun waits => ⟨waits, rfl⟩) (by simp)
      · exact .still ready rfl (fun waits => ⟨waits, rfl⟩) (by simp)
  | mainLoop radio =>
      cases mainLoop_cases ran with
      | nothing => exact .still ready rfl (fun waits => ⟨waits, rfl⟩) (by simp)
      | calls cb called waits _ went => exact callTxWaitCb_passes ready waits fits went
      | takes entry rest called idle queue took => exact callTxCb_passes ready idle queue fits took
  | counted =>
      cases ran
      rw [countSent]
      split
      · exact .still ready rfl (fun waits => ⟨waits, rfl⟩) (by simp)
      · refine .still ready rfl (fun waits => ⟨waits, rfl⟩) fun call mem => ?_
        rw [List.mem_singleton.1 mem]
        exact apart_of_silent rfl rfl rfl
  | associateResponse joinedPro param deviceAddress =>
      have responded := @associateResponse_cases s param joinedPro deviceAddress
      have not : param ∉ inQueue s := fits.others param (List.mem_singleton_self param)
      cases ran
      generalize zbMlmeAssociateResponse joinedPro param deviceAddress s = r at responded ⊢
      cases responded with
      | freed =>
          refine .still ready rfl (fun waits => ⟨waits, rfl⟩) fun call mem => ?_
          rw [List.mem_singleton.1 mem]
          exact ⟨rfl, rfl, fun buf same => Option.some.inj same ▸ not⟩
      | queued i data is command free =>
          subst is
          exact .fill ready free rfl rfl rfl rfl
      | overflow =>
          refine .still ready rfl (fun waits => ⟨waits, rfl⟩) fun call mem => ?_
          dsimp only at mem
          split at mem
          · cases mem
          · rw [List.mem_singleton.1 mem]
            exact ⟨rfl, rfl, fun buf same => Option.some.inj same ▸ not⟩
  | pendingDataTimeout i =>
      obtain ⟨alarm, data, slot, rfl⟩ := pendingDataTimeout_cases ran
      have room : s.cbRoom ≠ 0 := fits.room
      refine .clear [] [] (.commStatusIndication data.pendingData macTransactionExpired) ready slot
        rfl (fun waits => ?_) (if_neg room) rfl (by simp)
      exact ⟨waits, rfl, fun same => fits.undisturbed ⟨waits, same⟩⟩
  | sendOutside radio =>
      cases ran
      obtain ⟨air, txCnt, is, -⟩ := @transSendCommand_cases radio s none none
      have apart := @transSendCommand_passes radio s s none none (.inl rfl)
      rw [is]
      exact .still ready rfl (fun waits => ⟨waits, rfl⟩) apart
  | elsewhere pendingBuf macStatus macFrameCounter cbRoom =>
      cases ran
      exact .still ready rfl (fun waits => ⟨waits, rfl⟩) (by simp)

end Passes

/-! ## What the MAC has -/

section Held

variable {build : TxBuild} {radio : Radio} {s t : MacTx} {out : List TxCall} {cb : TxWaitCb}
  {r : MacTx × List TxCall} {event : TxEvent} {data : PendingData} {gone more : List UInt8}
  {buf : UInt8} {i : Nat}

theorem waiting_idle (idle : s.txWaitCb = none) : waiting s = [] := by rw [waiting, idle]

/-- Where nobody reads it, `pending_buf` does not count. -/
theorem waiting_unread (unread : ¬ ReadsPendingBuf s) (cb : t.txWaitCb = s.txWaitCb)
    (arg : t.txWaitCbArg = s.txWaitCbArg) : waiting t = waiting s := by
  rw [waiting, waiting, cb, arg]
  cases is : s.txWaitCb with
  | none => rfl
  | some cb =>
      cases cb with
      | handleMcpsDataReqContinue => rfl
      | handleDataRequestCmdContinue => exact absurd (.inl is) unread
      | sendAssociationReqContinue => rfl
      | handleOrphanResponseContinue => exact absurd (.inr is) unread

/-- The queue of frames stays as it is. -/
theorem held_still (gone : List UInt8) (same : t.pendingDataQueue = s.pendingDataQueue)
    (le : gone.count buf + (t.macTxQ.filterMap argument).count buf + (waiting t).count buf ≤
      (s.macTxQ.filterMap argument).count buf + (waiting s).count buf + more.count buf) :
    (gone ++ held t).count buf ≤ (held s ++ more).count buf := by
  have kept : inQueue t = inQueue s := inQueue_congr same
  rw [held, held, kept]
  simp only [List.count_append]
  omega

/-- A frame is put in the queue. -/
theorem held_fill (free : firstFree Option.isSome s.pendingDataQueue zbMacPendingQueueSize = some i)
    (put : t.pendingDataQueue = Function.update s.pendingDataQueue i (some data))
    (waits : waiting t = waiting s)
    (le : (t.macTxQ.filterMap argument).count buf + [data.pendingData].count buf ≤
      (s.macTxQ.filterMap argument).count buf + more.count buf) :
    (held t).count buf ≤ (held s ++ more).count buf := by
  obtain ⟨inside, empty, -⟩ := firstFree_eq_some free
  have filled := (inQueue_fill inside (by simpa using empty) put).count_eq buf
  rw [held, held, waits]
  rw [List.count_singleton] at le
  simp only [List.count_append, List.count_cons] at filled ⊢
  omega

/-- A slot is cleared. -/
theorem held_clear (inside : i < zbMacPendingQueueSize) (slot : s.pendingDataQueue i = some data)
    (cleared : t.pendingDataQueue = Function.update s.pendingDataQueue i none)
    (entries : t.macTxQ = s.macTxQ)
    (le : gone.count buf + (waiting t).count buf ≤
      [data.pendingData].count buf + (waiting s).count buf) :
    (gone ++ held t).count buf ≤ (held s ++ []).count buf := by
  have left := (inQueue_clear inside slot cleared).count_eq buf
  rw [held, held, entries]
  rw [List.count_singleton] at le
  simp only [List.count_append, List.count_cons, List.count_nil] at left ⊢
  omega

theorem handsOn_nil (silent : ∀ call ∈ out, handsOn call = none) : out.filterMap handsOn = [] :=
  List.filterMap_eq_nil_iff.2 silent

/-- One call at most, with one buffer. -/
theorem count_handsOn_le {buffer : UInt8} (once : out.length ≤ 1)
    (about : ∀ call ∈ out, handsOn call = some buffer) :
    (out.filterMap handsOn).count buf ≤ [buffer].count buf := by
  match out, once with
  | [], _ => exact Nat.zero_le _
  | [call], _ =>
      rw [List.filterMap_cons_some (about call (List.mem_singleton_self call))]
      exact Nat.le_refl _

theorem count_endCalls_le {mhrPend : UInt8} {room : Nat} :
    ((endCalls mhrPend data room).filterMap handsOn).count buf ≤ [data.pendingData].count buf := by
  rw [endCalls]
  split
  · exact Nat.le_refl _
  · split
    · exact Nat.zero_le _
    · exact Nat.le_refl _

/-- **A continuation hands on what waits for it**, and the frame in the slot. -/
theorem callTxWaitCb_held (ready : Ready s) (is : s.txWaitCb = some cb)
    (ran : callTxWaitCb radio s.txWaitCbArg { s with txCnt := 0 } cb = some r) :
    ((TxCall.call cb s.txWaitCbArg :: r.2).filterMap handsOn ++
        held { r.1 with txWaitCb := none }).count buf ≤ (held s ++ []).count buf := by
  rw [List.filterMap_cons_none rfl]
  cases cb with
  | handleMcpsDataReqContinue =>
      cases ran
      obtain ⟨macStatus, same⟩ := @handleMcpsDataReqContinue_eq radio { s with txCnt := 0 } s.txWaitCbArg
      rw [same]
      refine held_still _ rfl ?_
      have hands : ((if s.cbRoom = 0 then [] else
          [TxCall.mcpsDataConfirm s.txWaitCbArg (some macStatus)]).filterMap handsOn).count buf ≤
          [s.txWaitCbArg].count buf := by
        split
        · exact Nat.zero_le _
        · exact Nat.le_refl _
      have waits : waiting s = [s.txWaitCbArg] := by rw [waiting, is]
      rw [waits, waiting_idle rfl, List.count_nil]
      dsimp only at hands ⊢
      omega
  | handleDataRequestCmdContinue =>
      obtain ⟨data, status, freed, macStatus, cbRoom, slot, about, -, once⟩ :=
        handleDataRequestCmdContinue_cases ran
      refine held_clear (ready.inside slot) slot rfl rfl ?_
      have waits : waiting s = s.pendingBuf.toList := by rw [waiting, is]
      have ended := @count_endCalls_le data buf s.macDataReq.mhrPend (s.cbRoom - status.length)
      have others : ((status ++ freed).filterMap handsOn).count buf ≤
          s.pendingBuf.toList.count buf := by
        cases has : s.pendingBuf with
        | none =>
            have silent : ∀ call ∈ status ++ freed, handsOn call = none := by
              intro call mem
              obtain ⟨buffer, own, -⟩ := about call mem
              cases has.symm.trans own
            rw [handsOn_nil silent]
            exact Nat.le_refl _
        | some own =>
            refine count_handsOn_le once fun call mem => ?_
            obtain ⟨buffer, there, told⟩ := about call mem
            obtain rfl : own = buffer := Option.some.inj (has.symm.trans there)
            obtain rfl | ⟨_, rfl⟩ := told
            · rfl
            · rfl
      rw [waits, waiting_idle rfl, List.count_nil]
      simp only [List.filterMap_append, List.count_append] at others ⊢
      omega
  | sendAssociationReqContinue =>
      cases ran
      obtain ⟨macStatus, same, out⟩ := @sendAssociationReqContinue_eq radio { s with txCnt := 0 }
      rw [same, handsOn_nil fun call mem => by rw [out call mem]; rfl]
      refine held_still _ rfl ?_
      rw [waiting_idle rfl, List.count_nil]
      dsimp only
      omega
  | handleOrphanResponseContinue =>
      obtain ⟨buffer, macStatus, cbRoom, has, same, once, out⟩ :=
        handleOrphanResponseContinue_cases ran
      rw [same]
      refine held_still _ rfl ?_
      have waits : waiting s = [buffer] := by
        rw [waiting, is, show s.pendingBuf = some buffer from has]
        rfl
      have hands := @count_handsOn_le r.2 buf buffer once fun call mem => by rw [out call mem]; rfl
      rw [waits, waiting_idle rfl, List.count_nil]
      dsimp only
      omega

theorem count_entry {entry : TxCb} {rest : List TxCb} (queue : s.macTxQ = entry :: rest) :
    (s.macTxQ.filterMap argument).count buf =
      (argument entry).toList.count buf + (s.macTxQ.tail.filterMap argument).count buf := by
  rw [queue, List.filterMap_cons, List.tail_cons]
  cases argument entry with
  | none => rw [Option.toList_none, List.count_nil, Nat.zero_add]
  | some own => rw [Option.toList_some, List.count_cons, List.count_singleton, Nat.add_comm]

/-- **A procedure has its buffer from the queue of procedures**, and hands it on or waits with it. -/
theorem held_takes (gone : List UInt8) {entry : TxCb} {rest : List TxCb}
    (queue : s.macTxQ = entry :: rest) (same : t.pendingDataQueue = s.pendingDataQueue)
    (entries : t.macTxQ = s.macTxQ)
    (le : gone.count buf + (waiting t).count buf ≤ (argument entry).toList.count buf) :
    (gone ++ held { t with macTxQ := t.macTxQ.tail }).count buf ≤ (held s ++ []).count buf := by
  refine held_still _ same ?_
  have had := @count_entry s buf entry rest queue
  have unchanged : waiting { t with macTxQ := t.macTxQ.tail } = waiting t := rfl
  rw [unchanged, entries, List.count_nil]
  dsimp only
  omega

theorem held_takes_idle {entry : TxCb} {rest : List TxCb} (queue : s.macTxQ = entry :: rest)
    (same : t.pendingDataQueue = s.pendingDataQueue) (entries : t.macTxQ = s.macTxQ)
    (idle : t.txWaitCb = none) (le : gone.count buf ≤ (argument entry).toList.count buf) :
    (gone ++ held { t with macTxQ := t.macTxQ.tail }).count buf ≤ (held s ++ []).count buf := by
  refine held_takes _ queue same entries ?_
  rw [waiting_idle idle]
  exact le

theorem callTxCb_held {entry : TxCb} {rest : List TxCb} (idle : s.txWaitCb = none)
    (queue : s.macTxQ = entry :: rest) (ran : callTxCb build radio s entry = some r) :
    (r.2.filterMap handsOn ++ held { r.1 with macTxQ := r.1.macTxQ.tail }).count buf ≤
      (held s ++ []).count buf := by
  cases entry with
  | handleMcpsDataReq param req =>
      cases handleMcpsDataReq_cases ran with
      | counterError => exact held_takes_idle queue rfl rfl idle (Nat.zero_le _)
      | queued i indirect free =>
          have unread : ¬ ReadsPendingBuf s := by simp [ReadsPendingBuf, idle]
          refine held_fill free rfl (waiting_unread unread rfl rfl) ?_
          have had := @count_entry s buf _ rest queue
          have own : (argument (.handleMcpsDataReq param req)).toList = [param] := rfl
          rw [own] at had
          dsimp only
          omega
      | putBack => exact held_takes_idle queue rfl rfl idle (Nat.zero_le _)
      | insecure => exact held_takes_idle queue rfl rfl idle (Nat.zero_le _)
      | unsent => exact held_takes [] queue rfl rfl (by simp [waiting, argument])
      | sent => exact held_takes [] queue rfl rfl (by simp [waiting, argument])
  | acceptDataRequestCmd param mhr =>
      have answered := @handleDataRequestCmd_cases build radio s param mhr
      cases ran
      generalize zbHandleDataRequestCmd build radio param mhr s = r at answered ⊢
      cases answered with
      | nothing => exact held_takes_idle queue rfl rfl idle (Nat.le_refl _)
      | unsent => exact held_takes [] queue rfl rfl (by simp [waiting, argument])
      | sent => exact held_takes [] queue rfl rfl (by simp [waiting, argument])
  | handleBeaconReq =>
      cases ran
      obtain ⟨air, txCnt, is, out⟩ := @handleBeaconReq_cases radio s
      rw [is, handsOn_nil fun call mem => by rw [out call mem]; rfl]
      exact held_takes_idle queue rfl rfl idle (Nat.zero_le _)
  | sendAssociationReqCmd param =>
      cases ran
      obtain ⟨air, txCnt, is, out⟩ := @sendAssociationReqCmd_cases radio s param
      have silent : ∀ call ∈ (zbMlmeSendAssociationReqCmd radio param s).2, handsOn call = none := by
        intro call mem
        obtain rfl | rfl := out call mem
        · rfl
        · rfl
      rw [is, handsOn_nil silent]
      exact held_takes _ queue rfl rfl (by simp [waiting])
  | handleOrphanResponse param =>
      cases ran
      obtain ⟨air, txCnt, is, out⟩ := @handleOrphanResponse_cases radio s param
      have silent : ∀ call ∈ (zbMlmeHandleOrphanResponse radio param s).2, handsOn call = none := by
        intro call mem
        obtain rfl | rfl := out call mem
        · rfl
        · rfl
      rw [is, handsOn_nil silent]
      exact held_takes _ queue rfl rfl (by simp [waiting, argument])
  | handlePollRequest param =>
      obtain ⟨air, txCnt, is, -, out⟩ := handlePollRequest_cases ran
      have silent : ∀ call ∈ r.2, handsOn call = none := by
        intro call mem
        obtain rfl | ⟨tx, -, rfl⟩ := out call mem
        · rfl
        · rfl
      rw [is, handsOn_nil silent]
      exact held_takes_idle queue rfl rfl idle (Nat.zero_le _)

/-- What is handed on has been given by the event. -/
theorem held_gives (same : t.pendingDataQueue = s.pendingDataQueue) (entries : t.macTxQ = s.macTxQ)
    (waits : waiting t = waiting s) (le : gone.count buf ≤ more.count buf) :
    (gone ++ held t).count buf ≤ (held s ++ more).count buf := by
  refine held_still _ same ?_
  rw [entries, waits]
  omega

theorem held_silent (same : t.pendingDataQueue = s.pendingDataQueue) (entries : t.macTxQ = s.macTxQ)
    (waits : waiting t = waiting s) (silent : ∀ call ∈ out, handsOn call = none) :
    (out.filterMap handsOn ++ held t).count buf ≤ (held s ++ more).count buf := by
  refine held_gives same entries waits ?_
  rw [handsOn_nil silent]
  exact Nat.zero_le _

/-- **One event hands on only what the MAC has**, and the MAC has it no longer. -/
theorem txCall_held (ready : Ready s) (kept : Kept s event) (ran : txCall build s event = some r) :
    (r.2.filterMap handsOn ++ held r.1).count buf ≤ (held s ++ given s event).count buf := by
  cases event with
  | schedule cb =>
      cases ran
      rw [scheduleTxCb]
      split
      · exact held_silent rfl rfl rfl (List.forall_mem_nil _)
      · refine held_still [] rfl ?_
        have same : waiting { s with macTxQ := s.macTxQ ++ [cb] } = waiting s := rfl
        have last : ([cb].filterMap argument).count buf = (argument cb).toList.count buf := by
          rw [List.filterMap_cons]
          cases argument cb with
          | none => rfl
          | some own => rfl
        rw [same, given, List.filterMap_append, List.count_append, last, List.count_nil]
        omega
  | mainLoop radio =>
      cases mainLoop_cases ran with
      | nothing => exact held_silent rfl rfl rfl (List.forall_mem_nil _)
      | calls cb called waits _ went => exact callTxWaitCb_held ready waits went
      | takes entry rest called idle queue took => exact callTxCb_held idle queue took
  | counted =>
      cases ran
      rw [countSent]
      split
      · exact held_silent rfl rfl rfl (List.forall_mem_nil _)
      · refine held_silent rfl rfl rfl fun call mem => ?_
        rw [List.mem_singleton.1 mem]
        rfl
  | associateResponse joinedPro param deviceAddress =>
      cases ran
      cases joinedPro with
      | true => exact held_gives rfl rfl rfl (Nat.le_refl _)
      | false =>
          have unread : ¬ ReadsPendingBuf s := fun reads => Bool.false_ne_true (kept reads)
          have responded := @associateResponse_cases s param false deviceAddress
          generalize zbMlmeAssociateResponse false param deviceAddress s = r at responded ⊢
          cases responded with
          | freed => exact held_gives rfl rfl rfl (Nat.le_refl _)
          | queued i data is command free =>
              subst is
              exact held_fill free rfl (waiting_unread unread rfl rfl) (Nat.le_refl _)
          | overflow =>
              refine held_gives rfl rfl (waiting_unread unread rfl rfl) ?_
              split
              · exact Nat.zero_le _
              · exact Nat.le_refl _
  | pendingDataTimeout i =>
      obtain ⟨alarm, data, slot, rfl⟩ := pendingDataTimeout_cases ran
      refine held_clear (ready.inside slot) slot rfl rfl (Nat.add_le_add_right ?_ _)
      split
      · exact Nat.zero_le _
      · exact Nat.le_refl _
  | sendOutside radio =>
      cases ran
      obtain ⟨air, txCnt, is, -, out⟩ := @transSendCommand_cases radio s none none
      refine held_silent (by rw [is]) (by rw [is]) (by rw [is]; rfl) fun call mem => ?_
      rw [out call mem]
      rfl
  | elsewhere pendingBuf macStatus macFrameCounter cbRoom =>
      cases ran
      by_cases reads : ReadsPendingBuf s
      · obtain rfl | rfl := kept reads
        · exact held_silent rfl rfl rfl (List.forall_mem_nil _)
        · refine held_still [] rfl ?_
          have nothing : waiting { s with pendingBuf := none, macStatus, macFrameCounter, cbRoom } = [] := by
            obtain is | is := reads
            · rw [waiting, is]
              rfl
            · rw [waiting, is]
              rfl
          rw [nothing, List.count_nil]
          dsimp only
          omega
      · exact held_silent rfl rfl (waiting_unread reads rfl rfl) (List.forall_mem_nil _)

end Held

/-! ## Runs -/

section Runs

variable {build : TxBuild} {s u : MacTx} {events : List TxEvent}

/-- **Each queued buffer is handed on once**, and to its device, along every run that `Fits`. -/
theorem indirect_of_run (ready : Ready s) (along : Along (txStep build) Fits s events)
    (ran : run (txStep build) s events = some u) : Indirect build s events u := by
  have passes (s : MacTx) (event : TxEvent) (t : MacTx) (ready : Ready s) (fits : Fits s event)
      (taken : txStep build s event = some t) : Passes s (txOut build s event) t :=
    txCall_passes ready fits (txStep_eq_some taken)
  have keeps (s : MacTx) (event : TxEvent) (t : MacTx) (ready : Ready s) (fits : Fits s event)
      (taken : txStep build s event = some t) : Ready t := (passes s event t ready fits taken).ready
  have both : Along (txStep build) (fun s event => Ready s ∧ Fits s event) s events :=
    along_of_invariant keeps (fun _ _ => And.intro) ready along
  refine ⟨?_, fun buf => ?_, along_of_invariant keeps (fun s event ready _ => ?_) ready along,
    along_of_invariant keeps (fun s event ready fits => ?_) ready along⟩
  · exact trace_perm (fun s event t fits taken => (passes s event t fits.1 fits.2 taken).once) both ran
  · exact trace_count_le (fun s event t fits taken =>
      txCall_held fits.1 fits.2.kept (txStep_eq_some taken)) both ran
  · intro continues
    cases event with
    | mainLoop radio =>
        obtain ⟨data, slot, is, -⟩ := ready.chosen continues.1
        exact ⟨data, slot, is⟩
    | schedule => exact continues.elim
    | counted => exact continues.elim
    | associateResponse => exact continues.elim
    | pendingDataTimeout => exact continues.elim
    | sendOutside => exact continues.elim
    | elsewhere => exact continues.elim
  · intro arg buf mem
    rw [txOut] at mem
    cases called : txCall build s event with
    | none =>
        rw [called] at mem
        cases mem
    | some r =>
        rw [called] at mem
        exact (txCall_passes ready fits called).device arg buf mem

end Runs

/-! ## Poles -/

section Poles

/-- An indirect request in clear, for the device 0x1234. -/
def indirectReqTo : McpsDataReq := ⟨2, ofAddrShort 0x1234, 5, 0, .noEncr⟩

/-- The header of a command from that device. -/
def commandFrom : ZbMacMhr := ⟨(0x63, 0x88), 1, 0x1AAA, ofAddrShort 0, 0x1AAA, ofAddrShort 0x1234⟩

def transceiver : Radio := ⟨true, true, true, 1, none, ⟨macFrameData, 0, .noEncr⟩⟩

/-- A frame is queued in buffer 3, its device asks for it, and it is sent. -/
def askedFor : List TxEvent :=
  [.schedule (.handleMcpsDataReq 3 indirectReqTo), .mainLoop transceiver,
    .schedule (.acceptDataRequestCmd 5 commandFrom), .mainLoop transceiver]

theorem asked_frame_leaves :
    ∃ u, run (txStep routerBuild) idleTx (askedFor ++ [.counted, .mainLoop transceiver]) = some u ∧
      Indirect routerBuild idleTx (askedFor ++ [.counted, .mainLoop transceiver]) u :=
  ⟨_, rfl, indirect_of_run ⟨fun _ _ => rfl, nofun⟩ (by decide +kernel) rfl⟩

/-- **Its alarm runs out while it is sent**, and an association response takes the slot: that is
confirmed in its place. -/
theorem expired_while_sent : ¬ ∀ build s events u, Ready s →
    run (txStep build) s events = some u → Indirect build s events u := by
  intro always
  have before : ∃ t, run (txStep routerBuild) idleTx (askedFor ++
      [.pendingDataTimeout 0, .associateResponse false 9 (ofAddrShort 0), .counted]) = some t ∧
      t.txWaitCb = some .handleDataRequestCmdContinue ∧ t.txCnt ≠ 0 ∧ t.macDataReq.fcf = 3 ∧
      (t.pendingDataQueue t.macDataReq.dataFoundIndex).map PendingData.pendingData = some 9 :=
    ⟨_, rfl, rfl, by decide, rfl, rfl⟩
  obtain ⟨t, ran, waits, counted, fcf, slot⟩ := before
  have after : ∃ u, run (txStep routerBuild) idleTx ((askedFor ++
      [.pendingDataTimeout 0, .associateResponse false 9 (ofAddrShort 0), .counted]) ++
      [.mainLoop transceiver]) = some u := ⟨_, rfl⟩
  obtain ⟨u, whole⟩ := after
  have same := (always routerBuild idleTx _ u ⟨fun _ _ => rfl, nofun⟩ whole).same
  obtain ⟨data, there, is⟩ := ((along_append.1 same).2 t ran).1 ⟨waits, counted⟩
  rw [there, Option.map_some, is, fcf] at slot
  exact absurd slot (by decide)

end Poles

end Zboss.Mac.IndirectQueue
