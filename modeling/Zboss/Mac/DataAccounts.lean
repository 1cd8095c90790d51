/-
# Mac.DataAccounts -- whether every data request is somewhere, until it is given back

A request is in `mac_tx_q`, then in `tx_wait_cb_arg` while its frame is sent, in a slot of the
pending queue, or in the ring `out`; it ends with `zb_mcps_data_confirm`, or with the comm-status
of a transaction that expired.

* `places`: where a request can be;
* `txCall_accounts`: what one event that `Fits` takes in, moves and gives back;
* `accounted_of_run`: along every run that `Fits`, each request is in one place or was given back.

Poles: `no_key_loses_request`, a request that is nowhere.
-/
import Mathlib
import Zboss.Common.Constants
import Zboss.Mac.IndirectQueue

namespace Zboss.Mac.DataAccounts

open Zboss.Common.Constants
open Zboss.Common.Types
open Zboss.Theory.Run
open Zboss.Theory.Slots
open Zboss.Mac.Header
open Zboss.Mac.Transmit
open Zboss.Mac.IndirectQueue (Ready Undisturbed transceiver)

set_option autoImplicit false

/-! ## What is claimed -/

/-- The buffer of a data request. -/
def requestOf : TxCb → Option UInt8
  | .handleMcpsDataReq param _ => some param
  | .acceptDataRequestCmd .. => none
  | .handleBeaconReq => none
  | .sendAssociationReqCmd _ => none
  | .handleOrphanResponse _ => none
  | .handlePollRequest _ => none

/-- What is in a slot, if it is not a command. -/
def dataOf (data : PendingData) : Option UInt8 :=
  if data.frame.frameType = macFrameCommand then none else some data.pendingData

/-- The requests in `mac_tx_q`. -/
def waiting (s : MacTx) : List UInt8 := s.macTxQ.filterMap requestOf

/-- The request whose frame is sent. -/
def inProgress (s : MacTx) : List UInt8 :=
  if s.txWaitCb = some .handleMcpsDataReqContinue then [s.txWaitCbArg] else []

/-- The requests in the pending queue. -/
def indirect (s : MacTx) : List UInt8 :=
  contents (fun i => (s.pendingDataQueue i).bind dataOf) zbMacPendingQueueSize

/-- **Where a request can be.** -/
def places (s : MacTx) : List UInt8 := waiting s ++ inProgress s ++ indirect s ++ s.out

def submitted : TxEvent → List UInt8
  | .schedule cb => (requestOf cb).toList
  | _ => []

def confirms : TxCall → Option UInt8
  | .mcpsDataConfirm param _ => some param
  | _ => none

def reported : TxCall → Option UInt8
  | .commStatusIndication param _ => some param
  | _ => none

/-- The request in the slot of an alarm, once it is reported. -/
def expired (s : MacTx) (out : List TxCall) : TxEvent → List UInt8
  | .pendingDataTimeout i =>
      (out.filterMap reported).filter fun buf => (s.pendingDataQueue i).bind dataOf = some buf
  | _ => []

variable (build : TxBuild)

/-- The requests that an event gives back. -/
def given (s : MacTx) (event : TxEvent) : List UInt8 :=
  (txOut build s event).filterMap confirms ++ expired s (txOut build s event) event

/-- A request that the loop takes is sent, queued or put back, or confirmed with an error. -/
def Concluded (s : MacTx) (event : TxEvent) : Prop :=
  ∀ radio param req rest t, event = .mainLoop radio → s.txWaitCb = none →
    s.macTxQ = .handleMcpsDataReq param req :: rest → txStep build s event = some t →
      .send (some (.handleMcpsDataReqContinue, param)) (some param) ∈ txOut build s event ∨
      .queue param ∈ txOut build s event ∨
      t.out = s.out ++ [param] ∨
      ∃ status, status ≠ macSuccess ∧
        .mcpsDataConfirm param (some status) ∈ txOut build s event

/-- When a slot becomes free, a request that was put back is taken out. -/
def Retaken (s : MacTx) (event : TxEvent) : Prop :=
  ∀ i t, txStep build s event = some t → s.pendingDataQueue i ≠ none →
    t.pendingDataQueue i = none → s.out ≠ [] → t.out.length < s.out.length

/-- **What is claimed of a run.** -/
structure Accounted (s : MacTx) (events : List TxEvent) (u : MacTx) : Prop where
  accounted : (places s ++ trace (txStep build) (fun _ event => submitted event) s events).Perm
    (trace (txStep build) (given build) s events ++ places u)
  concluded : Along (txStep build) (Concluded build) s events
  retaken : Along (txStep build) (Retaken build) s events

/-! ## The condition -/

/-- The request is sent now, or may go to the pending queue. -/
def Proceeds (radio : Radio) (s : MacTx) : TxCb → Prop
  | .handleMcpsDataReq _ req =>
      goesOut build radio req s = true ∧ radio.sent = true ∨
        indirectReq build req = true ∧
          ¬ (securedReq build req = true ∧ s.macFrameCounter = 0xFFFFFFFF)
  | .acceptDataRequestCmd .. => True
  | .handleBeaconReq => True
  | .sendAssociationReqCmd _ => True
  | .handleOrphanResponse _ => True
  | .handlePollRequest _ => True

/-- There is room for a request and for what gives it back, the request that is taken `Proceeds`,
and no slot becomes free while a request is put back. -/
def Room (s : MacTx) : TxEvent → Prop
  | .schedule cb => requestOf cb ≠ none → s.macTxQ.length ≠ zbMacQueueSize
  | .mainLoop radio =>
      (s.txWaitCb = some .handleMcpsDataReqContinue → s.txCnt ≠ 0 → s.cbRoom ≠ 0) ∧
      (s.txWaitCb = some .handleDataRequestCmdContinue → s.txCnt ≠ 0 →
        s.out = [] ∧ (s.macDataReq.mhrPend ≠ macFrameCommand → s.cbRoom ≠ 0)) ∧
      (s.txWaitCb = none → ∀ cb ∈ s.macTxQ.head?, Proceeds build radio s cb)
  | .pendingDataTimeout i =>
      ((s.pendingDataQueue i).bind dataOf ≠ none → s.cbRoom ≠ 0) ∧ s.out = []
  | .counted => True
  | .associateResponse .. => True
  | .sendOutside _ => True
  | .elsewhere .. => True

/-- **The condition**, on what comes and the state it meets. -/
structure Fits (s : MacTx) (event : TxEvent) : Prop where
  undisturbed : Undisturbed s event
  room : Room build s event

instance (radio : Radio) (s : MacTx) (cb : TxCb) : Decidable (Proceeds build radio s cb) :=
  match cb with
  | .handleMcpsDataReq .. => inferInstanceAs (Decidable (_ ∧ _ ∨ _ ∧ ¬ (_ ∧ _)))
  | .acceptDataRequestCmd .. | .handleBeaconReq | .sendAssociationReqCmd _
  | .handleOrphanResponse _ | .handlePollRequest _ => inferInstanceAs (Decidable True)

instance (s : MacTx) (event : TxEvent) : Decidable (Room build s event) :=
  match event with
  | .schedule _ => inferInstanceAs (Decidable (_ → _))
  | .mainLoop _ => inferInstanceAs (Decidable (_ ∧ _ ∧ (_ → ∀ cb ∈ s.macTxQ.head?, Proceeds ..)))
  | .pendingDataTimeout _ => inferInstanceAs (Decidable (_ ∧ _))
  | .counted | .associateResponse .. | .sendOutside _ | .elsewhere .. =>
      inferInstanceAs (Decidable True)

instance (s : MacTx) (event : TxEvent) : Decidable (Fits build s event) :=
  decidable_of_iff (Undisturbed s event ∧ Room build s event)
    ⟨fun both => ⟨both.1, both.2⟩, fun fits => ⟨fits.1, fits.2⟩⟩

/-! ## Where a request goes -/

section Places

variable {build : TxBuild} {s t : MacTx} {came gone : List UInt8} {out : List TxCall} {i : Nat}
  {data : PendingData}

/-- What one event takes in, moves and gives back. -/
structure Accounts (s : MacTx) (came : List UInt8) (out : List TxCall) (gone : List UInt8)
    (t : MacTx) : Prop where
  ready : Ready t
  perm : (places s ++ came).Perm (out.filterMap confirms ++ gone ++ places t)
  frees : ∀ i, s.pendingDataQueue i ≠ none → t.pendingDataQueue i = none → s.out = []

/-- Each place counts for itself. -/
theorem places_perm (counts : ∀ buf,
    (waiting s).count buf + (inProgress s).count buf + (indirect s).count buf + s.out.count buf +
        came.count buf =
      gone.count buf + ((waiting t).count buf + (inProgress t).count buf +
        (indirect t).count buf + t.out.count buf)) :
    (places s ++ came).Perm (gone ++ places t) := by
  refine List.perm_iff_count.2 fun buf => ?_
  have count := counts buf
  simp only [places, List.count_append]
  omega

theorem confirms_nil (apart : ∀ call ∈ out, confirms call = none) : out.filterMap confirms = [] :=
  List.filterMap_eq_nil_iff.2 apart

theorem bind_update {q : Nat → Option PendingData} {x : Option PendingData} :
    (fun j => (Function.update q i x j).bind dataOf) =
      Function.update (fun j => (q j).bind dataOf) i (x.bind dataOf) :=
  Function.comp_update (Option.bind · dataOf) q i x

/-- A frame is put in a free slot. -/
theorem indirect_fill (inside : i < zbMacPendingQueueSize) (free : s.pendingDataQueue i = none)
    (put : t.pendingDataQueue = Function.update s.pendingDataQueue i (some data)) :
    (indirect t).Perm ((dataOf data).toList ++ indirect s) := by
  have change := @contents_update zbMacPendingQueueSize i UInt8
    (fun j => (s.pendingDataQueue j).bind dataOf) (dataOf data) inside
  rw [free] at change
  rw [indirect, put, bind_update]
  exact change

/-- A slot is cleared. -/
theorem indirect_clear (inside : i < zbMacPendingQueueSize) (slot : s.pendingDataQueue i = some data)
    (cleared : t.pendingDataQueue = Function.update s.pendingDataQueue i none) :
    (indirect s).Perm ((dataOf data).toList ++ indirect t) := by
  have change := @contents_update zbMacPendingQueueSize i UInt8
    (fun j => (s.pendingDataQueue j).bind dataOf) none inside
  rw [slot] at change
  rw [indirect, indirect, cleared, bind_update]
  exact change.symm

/-- **No slot is touched**: a request is taken in, or moves, or is given back. -/
theorem Accounts.move {waits progress : List UInt8} (ready : Ready t)
    (same : t.pendingDataQueue = s.pendingDataQueue)
    (waits_ : waiting t = waits) (progress_ : inProgress t = progress)
    (moves : ∀ buf, (waiting s).count buf + (inProgress s).count buf + s.out.count buf +
        came.count buf =
      (out.filterMap confirms).count buf + (waits.count buf + progress.count buf + t.out.count buf)) :
    Accounts s came out [] t := by
  have kept : indirect t = indirect s := by rw [indirect, same, indirect]
  refine ⟨ready, ?_, ?_⟩
  · rw [List.append_nil]
    refine places_perm fun buf => ?_
    have count := moves buf
    rw [kept, waits_, progress_]
    omega
  · intro i used free
    exact absurd (same ▸ free) used

/-- **All stays where it is.** -/
theorem Accounts.still (ready : Ready t) (same : t.pendingDataQueue = s.pendingDataQueue)
    (waits : waiting t = waiting s) (progress : inProgress t = inProgress s) (deferred : t.out = s.out)
    (apart : ∀ call ∈ out, confirms call = none) : Accounts s [] out [] t := by
  refine .move ready same waits progress fun buf => ?_
  rw [deferred, confirms_nil apart, List.count_nil]
  omega

/-- **A frame is put in a slot**: a request, or a command of the MAC. -/
theorem Accounts.fill (ready : Ready s)
    (free : firstFree Option.isSome s.pendingDataQueue zbMacPendingQueueSize = some i)
    (put : t.pendingDataQueue = Function.update s.pendingDataQueue i (some data))
    (cb : t.txWaitCb = s.txWaitCb) (arg : t.txWaitCbArg = s.txWaitCbArg)
    (storage : t.macDataReq = s.macDataReq) (deferred : t.out = s.out)
    (waits : waiting s = (dataOf data).toList ++ waiting t)
    (apart : ∀ call ∈ out, confirms call = none) : Accounts s [] out [] t := by
  obtain ⟨inside, empty, -⟩ := firstFree_eq_some free
  have empty : s.pendingDataQueue i = none := by simpa using empty
  have progress : inProgress t = inProgress s := by rw [inProgress, inProgress, cb, arg]
  refine ⟨ready.fill free put cb storage, ?_, fun j used freed => ?_⟩
  · rw [confirms_nil apart, List.nil_append]
    refine places_perm fun buf => ?_
    have filled := (indirect_fill inside empty put).count_eq buf
    rw [List.count_append] at filled
    rw [waits, progress, deferred, List.count_append, List.count_nil]
    omega
  · rw [put] at freed
    by_cases here : j = i
    · rw [here, Function.update_self] at freed
      cases freed
    · rw [Function.update_of_ne here] at freed
      exact absurd freed used

/-- **A slot is cleared**: what was in it is given back, if it was a request. -/
theorem Accounts.clear (ready : Ready s) (slot : s.pendingDataQueue i = some data)
    (cleared : t.pendingDataQueue = Function.update s.pendingDataQueue i none)
    (idle : t.txWaitCb = some .handleDataRequestCmdContinue →
      s.txWaitCb = some .handleDataRequestCmdContinue ∧ t.macDataReq = s.macDataReq ∧
        i ≠ s.macDataReq.dataFoundIndex)
    (waits : waiting t = waiting s) (progress : inProgress t = inProgress s) (deferred : t.out = s.out)
    (nothing : s.out = [])
    (gives : out.filterMap confirms ++ gone = (dataOf data).toList) : Accounts s [] out gone t := by
  refine ⟨ready.clear slot cleared idle, ?_, fun _ _ _ => nothing⟩
  rw [gives]
  refine places_perm fun buf => ?_
  have emptied := (indirect_clear (ready.inside slot) slot cleared).count_eq buf
  rw [List.count_append] at emptied
  rw [waits, progress, deferred, List.count_nil]
  omega

end Places

/-! ## Continuations -/

section Events

variable {build : TxBuild} {radio : Radio} {s : MacTx} {param : UInt8} {cb : TxWaitCb}
  {r : MacTx × List TxCall}

theorem waiting_cons {entry : TxCb} {rest : List TxCb} (queue : s.macTxQ = entry :: rest) :
    waiting s = (requestOf entry).toList ++ rest.filterMap requestOf := by
  rw [waiting, queue, List.filterMap_cons]
  cases requestOf entry with
  | none => rfl
  | some param => rfl

/-- Nobody is in progress for another continuation. -/
theorem inProgress_nil (other : s.txWaitCb ≠ some .handleMcpsDataReqContinue) : inProgress s = [] :=
  if_neg other

theorem endCalls_confirms {mhrPend : UInt8} {data : PendingData} {room : Nat}
    (type : data.frame.frameType = mhrPend) (some_ : mhrPend ≠ macFrameCommand → room ≠ 0) :
    (endCalls mhrPend data room).filterMap confirms = (dataOf data).toList := by
  rw [endCalls, dataOf, type]
  by_cases command : mhrPend = macFrameCommand
  · rw [if_pos command, if_pos command]
    rfl
  · rw [if_neg command, if_neg command, if_neg (some_ command)]
    rfl

/-- The frame that was asked for is given back. -/
theorem handleDataRequestCmdContinue_accounts (ready : Ready s)
    (is : s.txWaitCb = some .handleDataRequestCmdContinue) (nothing : s.out = [])
    (room : s.macDataReq.mhrPend ≠ macFrameCommand → s.cbRoom ≠ 0)
    (ran : zbHandleDataRequestCmdContinue radio { s with txCnt := 0 } = some r) :
    Accounts s [] (.call .handleDataRequestCmdContinue s.txWaitCbArg :: r.2) []
      { r.1 with txWaitCb := none } := by
  obtain ⟨chosen, slot, fcf, type⟩ := ready.chosen is
  cases handleDataRequestCmdContinue_cases ran with
  | mk data status freed macStatus cbRoom there about association =>
      obtain rfl : chosen = data := Option.some.inj (slot.symm.trans there)
      have same : fcfFrame radio chosen { s with txCnt := 0 } = chosen.frame := if_pos fcf
      have apart : ∀ call ∈ status ++ freed, confirms call = none := by
        intro call mem
        obtain ⟨buffer, -, rfl | ⟨_, rfl⟩⟩ := about call mem
        · rfl
        · rfl
      have first : status.filterMap confirms = [] :=
        confirms_nil fun call mem => apart call (List.mem_append_left _ mem)
      have last : freed.filterMap confirms = [] :=
        confirms_nil fun call mem => apart call (List.mem_append_right _ mem)
      have left : s.macDataReq.mhrPend ≠ macFrameCommand → s.cbRoom - status.length ≠ 0 := by
        intro other
        rw [association (by rw [same, type]; exact other)]
        exact room other
      refine .clear ready slot rfl nofun rfl ?_ rfl nothing ?_
      · exact (inProgress_nil (by nofun)).trans (inProgress_nil (by rw [is]; nofun)).symm
      · show List.filterMap confirms (_ :: (status ++ endCalls s.macDataReq.mhrPend chosen
          (s.cbRoom - status.length) ++ freed)) ++ [] = _
        rw [List.filterMap_cons, List.filterMap_append, List.filterMap_append, first, last,
          endCalls_confirms type left]
        simp [confirms]

/-- **What the loop calls.** -/
theorem callTxWaitCb_accounts (ready : Ready s) (is : s.txWaitCb = some cb) (counted : s.txCnt ≠ 0)
    (room : Room build s (.mainLoop radio))
    (ran : callTxWaitCb radio s.txWaitCbArg { s with txCnt := 0 } cb = some r) :
    Accounts s [] (.call cb s.txWaitCbArg :: r.2) [] { r.1 with txWaitCb := none } := by
  cases cb with
  | handleMcpsDataReqContinue =>
      cases ran
      obtain ⟨macStatus, same⟩ := @handleMcpsDataReqContinue_eq radio { s with txCnt := 0 } s.txWaitCbArg
      rw [same]
      have progress : inProgress s = [s.txWaitCbArg] := if_pos is
      have left : ({ s with txCnt := 0 } : MacTx).cbRoom ≠ 0 := room.1 is counted
      refine .move (ready.still rfl nofun) rfl rfl (inProgress_nil (by nofun)) fun buf => ?_
      rw [progress, if_neg left]
      show _ = List.count buf [s.txWaitCbArg] + _
      simp only [List.count_nil]
      show (waiting s).count buf + _ + s.out.count buf + 0 = _ + ((waiting s).count buf + 0 + s.out.count buf)
      omega
  | handleDataRequestCmdContinue =>
      obtain ⟨nothing, left⟩ := room.2.1 is counted
      exact handleDataRequestCmdContinue_accounts ready is nothing left ran
  | sendAssociationReqContinue =>
      cases ran
      obtain ⟨macStatus, same, out⟩ := @sendAssociationReqContinue_eq radio { s with txCnt := 0 }
      rw [same]
      refine .still (ready.still rfl nofun) rfl rfl ?_ rfl fun call mem => ?_
      · exact (inProgress_nil (by nofun)).trans (inProgress_nil (by rw [is]; nofun)).symm
      · cases mem with
        | head => rfl
        | tail _ mem =>
            rw [out call mem]
            rfl
  | handleOrphanResponseContinue =>
      obtain ⟨buffer, macStatus, cbRoom, has, same, -, out⟩ := handleOrphanResponseContinue_cases ran
      rw [same]
      refine .still (ready.still rfl nofun) rfl rfl ?_ rfl fun call mem => ?_
      · exact (inProgress_nil (by nofun)).trans (inProgress_nil (by rw [is]; nofun)).symm
      · cases mem with
        | head => rfl
        | tail _ mem =>
            rw [out call mem]
            rfl

/-! ## Procedures -/

theorem transSendCommand_confirms {tx : Tx} {buf : Option UInt8} {t : MacTx} :
    ∀ call ∈ (transSendCommand radio tx buf t).2, confirms call = none := by
  intro call mem
  obtain ⟨air, txCnt, -, -, sends⟩ := @transSendCommand_cases radio t tx buf
  rw [sends call mem]
  rfl

section Request

variable {req : McpsDataReq} (proceeds : Proceeds build radio s (.handleMcpsDataReq param req))

include proceeds

/-- The frame counter of a request that `Proceeds` is not exhausted. -/
theorem proceeds_counter : ¬ (securedReq build req = true ∧ s.macFrameCounter = 0xFFFFFFFF) := by
  intro exhausted
  obtain ⟨out, -⟩ | ⟨-, not⟩ := proceeds
  · rw [goesOut, exhausted.1, exhausted.2] at out
    exact absurd out (by simp)
  · exact not exhausted

/-- Sent at once, it is secured. -/
theorem proceeds_secured (direct : indirectReq build req = false) : goesOut build radio req s = true := by
  obtain ⟨out, -⟩ | ⟨is, -⟩ := proceeds
  · exact out
  · exact absurd (is.symm.trans direct) nofun

theorem proceeds_sent (out : goesOut build radio req s = true) : radio.sent = true := by
  obtain ⟨-, sent⟩ | ⟨is, -⟩ := proceeds
  · exact sent
  · rw [goesOut, is] at out
    exact absurd out (by simp)

end Request

/-- **What the loop takes from its queue.** -/
theorem callTxCb_accounts {entry : TxCb} {rest : List TxCb} (ready : Ready s)
    (idle : s.txWaitCb = none) (queue : s.macTxQ = entry :: rest)
    (proceeds : Proceeds build radio s entry) (ran : callTxCb build radio s entry = some r) :
    Accounts s [] r.2 [] { r.1 with macTxQ := r.1.macTxQ.tail } := by
  have front := waiting_cons queue
  have nobody : inProgress s = [] := inProgress_nil (by rw [idle]; simp)
  have tail {t : MacTx} (same : t.macTxQ = s.macTxQ.tail) :
      waiting t = rest.filterMap requestOf := by
    rw [waiting, same, queue]
    rfl
  -- an entry that is not a request is not counted
  have kept {t : MacTx} (same : t.macTxQ = s.macTxQ.tail) (other : requestOf entry = none) :
      waiting t = waiting s := by
    rw [tail same, front, other]
    rfl
  cases entry with
  | handleMcpsDataReq param req =>
      have front : waiting s = [param] ++ rest.filterMap requestOf := front
      cases handleMcpsDataReq_cases ran with
      | counterError is => exact absurd is (proceeds_counter proceeds)
      | queued i indirect free macFrameCounter =>
          refine .fill ready free rfl rfl rfl rfl rfl ?_ (by simp [confirms])
          exact front.trans (congrArg ([param] ++ ·) (tail rfl).symm)
      | putBack indirect full =>
          refine .move (ready.still rfl (fun waits => ⟨waits, rfl⟩)) rfl (tail rfl) nobody fun buf => ?_
          rw [front, nobody]
          simp only [List.count_append, List.filterMap_nil, List.count_nil]
          omega
      | insecure direct stays =>
          exact absurd ((proceeds_secured proceeds direct).symm.trans stays) (by simp)
      | unsent out fails macFrameCounter =>
          refine .move (ready.still rfl (by simp)) rfl (tail rfl) (if_pos rfl) fun buf => ?_
          rw [front, nobody]
          simp only [List.count_append, List.filterMap_cons, confirms, List.filterMap_nil, List.count_nil]
          omega
      | sent out sent macFrameCounter =>
          refine .move (ready.still rfl (by simp)) rfl (tail rfl) (if_pos rfl) fun buf => ?_
          rw [front, nobody]
          simp only [List.count_append, List.filterMap_cons, confirms, List.filterMap_nil, List.count_nil]
          omega
  | acceptDataRequestCmd param mhr =>
      have answered := @handleDataRequestCmd_cases build radio s param mhr
      cases ran
      generalize zbHandleDataRequestCmd build radio param mhr s = r at answered ⊢
      cases answered with
      | nothing =>
          exact .still (ready.still rfl (fun waits => ⟨waits, rfl⟩)) rfl (kept rfl rfl) rfl rfl
            (by simp [confirms])
      | unsent i data found slot =>
          exact .still (ready.choose rfl slot rfl) rfl (kept rfl rfl)
            ((inProgress_nil (by simp)).trans nobody.symm) rfl (by simp [confirms])
      | sent i data found slot =>
          exact .still (ready.choose rfl slot rfl) rfl (kept rfl rfl)
            ((inProgress_nil (by simp)).trans nobody.symm) rfl (by simp [confirms])
  | handleBeaconReq =>
      cases ran
      obtain ⟨air, txCnt, is, out⟩ := @handleBeaconReq_cases radio s
      rw [is]
      refine .still (ready.still rfl (fun waits => ⟨waits, rfl⟩)) rfl (kept rfl rfl) rfl rfl
        fun call mem => ?_
      rw [out call mem]
      rfl
  | sendAssociationReqCmd param =>
      cases ran
      obtain ⟨air, txCnt, is, out⟩ := @sendAssociationReqCmd_cases radio s param
      rw [is]
      refine .still (ready.still rfl (by simp)) rfl (kept rfl rfl)
        ((inProgress_nil (by simp)).trans nobody.symm) rfl fun call mem => ?_
      obtain rfl | rfl := out call mem
      · rfl
      · rfl
  | handleOrphanResponse param =>
      cases ran
      obtain ⟨air, txCnt, is, out⟩ := @handleOrphanResponse_cases radio s param
      rw [is]
      refine .still (ready.still rfl (by simp)) rfl (kept rfl rfl)
        ((inProgress_nil (by simp)).trans nobody.symm) rfl fun call mem => ?_
      obtain rfl | rfl := out call mem
      · rfl
      · rfl
  | handlePollRequest param =>
      obtain ⟨air, txCnt, is, -, out⟩ := handlePollRequest_cases ran
      rw [is]
      refine .still (ready.still rfl (fun waits => ⟨waits, rfl⟩)) rfl (kept rfl rfl) rfl rfl
        fun call mem => ?_
      obtain rfl | ⟨tx, -, rfl⟩ := out call mem
      · rfl
      · rfl

/-! ## One event -/

/-- A request that comes is put behind the others. -/
theorem scheduleTxCb_accounts {entry : TxCb} (ready : Ready s)
    (room : requestOf entry ≠ none → s.macTxQ.length ≠ zbMacQueueSize) :
    Accounts s (requestOf entry).toList [] [] (scheduleTxCb entry s) := by
  rw [scheduleTxCb]
  by_cases full : s.macTxQ.length = zbMacQueueSize
  · have other : requestOf entry = none := by
      by_contra request
      exact room request full
    rw [if_pos full, other]
    exact .still (ready.still rfl (fun waits => ⟨waits, rfl⟩)) rfl rfl rfl rfl (by simp)
  · rw [if_neg full]
    have more : waiting { s with macTxQ := s.macTxQ ++ [entry] } =
        waiting s ++ (requestOf entry).toList := by
      rw [waiting, waiting, List.filterMap_append]
      cases requestOf_ : requestOf entry <;> simp [requestOf_]
    refine .move (ready.still rfl (fun waits => ⟨waits, rfl⟩)) rfl more rfl fun buf => ?_
    rw [List.count_append, List.filterMap_nil, List.count_nil]
    show _ = 0 + (_ + (inProgress s).count buf + s.out.count buf)
    omega

/-- **One event** that `Fits`. -/
theorem txCall_accounts {event : TxEvent} (ready : Ready s) (fits : Fits build s event)
    (ran : txCall build s event = some r) :
    Accounts s (submitted event) r.2 (expired s r.2 event) r.1 := by
  have calm : ∀ waits : s.txWaitCb = some .handleDataRequestCmdContinue,
      s.txWaitCb = some .handleDataRequestCmdContinue ∧ s.macDataReq = s.macDataReq :=
    fun waits => ⟨waits, rfl⟩
  cases event with
  | schedule cb =>
      cases ran
      exact scheduleTxCb_accounts ready fits.room
  | mainLoop radio =>
      cases mainLoop_cases ran with
      | nothing => exact .still ready rfl rfl rfl rfl (by simp)
      | calls cb called waits counted went =>
          exact callTxWaitCb_accounts ready waits counted fits.room went
      | takes entry rest called idle queue took =>
          exact callTxCb_accounts ready idle queue
            (fits.room.2.2 idle entry (by rw [queue]; rfl)) took
  | counted =>
      cases ran
      rw [countSent]
      split
      · exact .still ready rfl rfl rfl rfl (by simp)
      · exact .still (ready.still rfl calm) rfl rfl rfl rfl (by simp [confirms])
  | associateResponse joinedPro param deviceAddress =>
      have responded := @associateResponse_cases s param joinedPro deviceAddress
      cases ran
      generalize zbMlmeAssociateResponse joinedPro param deviceAddress s = r at responded ⊢
      cases responded with
      | freed => exact .still ready rfl rfl rfl rfl (by simp [confirms])
      | queued i data is command free =>
          have other : dataOf data = none := if_pos command
          exact .fill ready free rfl rfl rfl rfl rfl (by rw [other]; rfl) (by simp [confirms])
      | overflow =>
          refine .still (ready.still rfl calm) rfl rfl rfl rfl fun call mem => ?_
          dsimp only at mem
          split at mem
          · cases mem
          · rw [List.mem_singleton.1 mem]
            rfl
  | pendingDataTimeout i =>
      obtain ⟨alarm, data, slot, rfl⟩ := pendingDataTimeout_cases ran
      obtain ⟨room, nothing⟩ := fits.room
      refine .clear ready slot rfl (fun waits => ?_) rfl rfl rfl nothing ?_
      · exact ⟨waits, rfl, fun same => fits.undisturbed ⟨waits, same⟩⟩
      · rw [slot, Option.bind_some] at room
        rw [expired, slot, Option.bind_some]
        dsimp only
        by_cases command : data.frame.frameType = macFrameCommand
        · rw [dataOf, if_pos command]
          split
          · rfl
          · simp [confirms]
        · have request : dataOf data = some data.pendingData := if_neg command
          rw [request, if_neg (room (by rw [request]; simp))]
          simp [confirms, reported]
  | sendOutside radio =>
      cases ran
      obtain ⟨air, txCnt, is, -⟩ := @transSendCommand_cases radio s none none
      have apart := @transSendCommand_confirms radio none none s
      rw [is]
      exact .still (ready.still rfl calm) rfl rfl rfl rfl apart
  | elsewhere pendingBuf macStatus macFrameCounter cbRoom =>
      cases ran
      exact .still (ready.still rfl calm) rfl rfl rfl rfl (by simp)

/-- **A request that `Proceeds` is concluded.** -/
theorem handleMcpsDataReq_concluded {req : McpsDataReq}
    (proceeds : Proceeds build radio s (.handleMcpsDataReq param req))
    (ran : zbHandleMcpsDataReq build radio param req s = some r) :
    .send (some (.handleMcpsDataReqContinue, param)) (some param) ∈ r.2 ∨ .queue param ∈ r.2 ∨
      r.1.out = s.out ++ [param] := by
  cases handleMcpsDataReq_cases ran with
  | counterError is => exact absurd is (proceeds_counter proceeds)
  | queued => exact .inr (.inl (List.mem_singleton_self _))
  | putBack => exact .inr (.inr rfl)
  | insecure direct stays =>
      exact absurd ((proceeds_secured proceeds direct).symm.trans stays) nofun
  | unsent out fails => exact absurd ((proceeds_sent proceeds out).symm.trans fails) nofun
  | sent => exact .inl (by simp)

end Events

/-! ## Runs -/

section Runs

variable {build : TxBuild} {s u : MacTx} {event : TxEvent} {events : List TxEvent}

theorem concluded_of_fits (fits : Fits build s event) : Concluded build s event := by
  rintro radio param req rest t rfl idle queue taken
  have proceeds := fits.room.2.2 idle (.handleMcpsDataReq param req) (by rw [queue]; rfl)
  have ran := txStep_eq_some taken
  rw [txCall, zbMacMainLoop, idle, queue] at ran
  obtain ⟨called, took, is⟩ := Option.map_eq_some_iff.1 ran
  obtain ⟨rfl, out⟩ := Prod.mk.inj is
  rw [← out]
  obtain sent | put | back := handleMcpsDataReq_concluded proceeds took
  · exact .inl sent
  · exact .inr (.inl put)
  · exact .inr (.inr (.inl back))

/-- **Each request is in one place, or was given back**, along every run that `Fits`. -/
theorem accounted_of_run (ready : Ready s) (along : Along (txStep build) (Fits build) s events)
    (ran : run (txStep build) s events = some u) : Accounted build s events u := by
  have accounts (s : MacTx) (event : TxEvent) (t : MacTx) (ready : Ready s)
      (fits : Fits build s event) (taken : txStep build s event = some t) :=
    txCall_accounts ready fits (txStep_eq_some taken)
  have keeps (s : MacTx) (event : TxEvent) (t : MacTx) (ready : Ready s)
      (fits : Fits build s event) (taken : txStep build s event = some t) : Ready t :=
    (accounts s event t ready fits taken).ready
  refine ⟨?_, along.mono fun _ _ => concluded_of_fits,
    along_of_invariant keeps (fun s event ready fits => ?_) ready along⟩
  · have both : Along (txStep build) (fun s event => Ready s ∧ Fits build s event) s events :=
      along_of_invariant keeps (fun _ _ => And.intro) ready along
    exact trace_perm (fun s event t fits taken => (accounts s event t fits.1 fits.2 taken).perm) both ran
  · intro i t taken used free back
    exact absurd ((accounts s event t ready fits taken).frees i used free) back

end Runs

/-! ## Poles -/

section Poles

/-- A request in clear that is sent at once, and one that waits for its device. -/
def directReqTo : McpsDataReq := ⟨2, ofAddrShort 0x1234, 1, 0, .noEncr⟩

def waitingReqTo : McpsDataReq := ⟨2, ofAddrShort 0x1234, 5, 0, .noEncr⟩

/-- One request is sent and confirmed, and the other one expires. -/
def twoRequests : List TxEvent :=
  [.schedule (.handleMcpsDataReq 3 directReqTo), .schedule (.handleMcpsDataReq 4 waitingReqTo),
    .mainLoop transceiver, .counted, .mainLoop transceiver, .mainLoop transceiver,
    .pendingDataTimeout 0]

theorem two_requests_accounted : ∃ u, run (txStep routerBuild) idleTx twoRequests = some u ∧
    Accounted routerBuild idleTx twoRequests u :=
  ⟨_, rfl, accounted_of_run ⟨fun _ _ => rfl, nofun⟩ (by decide +kernel) rfl⟩

/-- A frame of the network layer, and no key for it. -/
def securedReqTo : McpsDataReq := ⟨2, ofAddrShort 0x1234, 1, 0, .nwkEncr⟩

def keyless : Radio := ⟨true, false, true, 1, none, ⟨macFrameData, 0, .noEncr⟩⟩

/-- **A request for which there is no key is lost**: nothing confirms it. -/
theorem no_key_loses_request : ¬ ∀ build s events u, Ready s →
    run (txStep build) s events = some u → Accounted build s events u := by
  intro always
  have ran : ∃ u, run (txStep routerBuild) idleTx
      [.schedule (.handleMcpsDataReq 3 securedReqTo), .mainLoop keyless] = some u ∧
      trace (txStep routerBuild) (given routerBuild) idleTx
        [.schedule (.handleMcpsDataReq 3 securedReqTo), .mainLoop keyless] ++ places u = [] :=
    ⟨_, rfl, by decide +kernel⟩
  obtain ⟨u, whole, nowhere⟩ := ran
  have perm := (always routerBuild idleTx _ u ⟨fun _ _ => rfl, nofun⟩ whole).accounted
  rw [nowhere] at perm
  exact absurd perm.length_eq (by decide +kernel)

end Poles

end Zboss.Mac.DataAccounts
