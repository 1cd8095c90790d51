/-
# Mac.Poll -- whether every poll is confirmed

`zb_handle_poll_request` asks the parent for data and, when the answer says that there are some,
remembers its buffer in `rt_ctx` until they come: two flags, the alarm of
`zb_mac_indirect_data_timeout` and the reference must agree, and an association uses the same.
The received frames go through `Mac.Receive`; the rest of the stack may write whatever it writes
of the MAC context between any two steps.

* `Served`: what one step does with the polls that wait and the one that comes, `Served.trans`;
* `getIndirectData_quiet`: a request for data leaves the polls alone until it is answered;
* `polls_confirmed_of_run`: along every run that `Fits`, a poll is confirmed at most once, and when
  nothing is pending every poll has been.

Poles: `second_poll_overwrites`, two polls of which the first is never confirmed.
-/
import Mathlib
import Zboss.Common.Constants
import Zboss.Mac.Receive
import Zboss.Theory.Run

namespace Zboss.Mac.Poll

open Zboss.Common.Constants
open Zboss.Theory.Run
open Zboss.Mac.Header
open Zboss.Mac.Receive

set_option autoImplicit false

/-! ## Constants -/

def macAssConfirmCallback : UInt8 := 0

def macPollRequestCallback : UInt8 := 1

def macNoAck : UInt8 := 0xe9

/-! ## A request for data -/

/-- One transmission of a data request, and what is heard after it.  `sent` is what sending it
returns, and waiting for its end; `status` is what becomes of the MAC status where that fails.
`pending` is what an interrupt reads in the acknowledgement; with `ZB_MANUAL_ACK` the
acknowledgement is waited for, one frame may come, or the time is over.  `sameTick` is whether the
alarm that is set runs out no later than the first of the timer queue. -/
structure Attempt where
  sent : TxRet
  status : UInt8
  pending : Bool
  sameTick : Bool
  timedOut : Bool
  frame : Option (UInt8 × List UInt8)

/-- `ZB_MAC_START_ACK_WAITING`, as far as it is read here. -/
def startAckWaiting (s : MacCtx) : MacCtx := { s with ackOk := false, ackTimeout := true }

/-- A frame that comes while the acknowledgement is waited for. -/
def recvWhileWaiting (build : MacBuild) (frame : Option (UInt8 × List UInt8)) (s : MacCtx) :
    MacCtx × List MacCall :=
  match frame with
  | some (param, bytes) => zbMacParseRecvData build param bytes s
  | none => (s, [])

/-- The alarms all have one delay: a later one runs out later, or in the same tick, and then it is
before the others if they are the first of the timer queue. -/
def scheduleTimeout (sameTick : Bool) (cbType : UInt8) (timeouts : List UInt8) : List UInt8 :=
  if sameTick then cbType :: timeouts else timeouts ++ [cbType]

/-- The end of `zb_mac_get_indirect_data`, when the request was sent. -/
def indirectAnswered (sameTick : Bool) (cbType : UInt8) (s : MacCtx) : MacCtx × TxRet :=
  if s.pendingData then
    ({ s with
      indirectDataRequest := true
      rtCtx := { s.rtCtx with bufRef := 0 }
      indirectDataTimeout := scheduleTimeout sameTick cbType s.indirectDataTimeout }, .ok)
  else ({ s with macStatus := macNoData }, .error)

/-- The attempts but the first are made when an acknowledgement is missed; after the last of them
`retry_counter` is beyond its bound. -/
def zbMacGetIndirectData (build : MacBuild) (cbType : UInt8) (first : Attempt) :
    List Attempt → MacCtx → MacCtx × List MacCall × TxRet
  | rest, s =>
      let s := { s with indirectDataRequest := true }
      match first.sent with
      | .blocked => (s, [], .blocked)
      | .error => ({ s with pendingData := false, macStatus := first.status }, [], .error)
      | .ok =>
          if build.nsBuild then
            let s := startAckWaiting s
            if first.timedOut then
              match rest with
              | [] => ({ s with ackTimeout := false, pendingData := false, macStatus := macNoAck }, [],
                  .error)
              | next :: rest =>
                  zbMacGetIndirectData build cbType next rest { s with ackTimeout := false }
            else
              let (s, calls) := recvWhileWaiting build first.frame s
              if s.ackOk then
                let (s, ret) := indirectAnswered first.sameTick cbType s
                (s, calls, ret)
              else (s, calls, .blocked)
          else
            let (s, ret) :=
              indirectAnswered first.sameTick cbType { s with pendingData := first.pending || s.pendingData }
            (s, [], ret)

/-- `call_indirect_data_callback`; `none` is its assertion. -/
def callIndirectDataCallback (cbType : UInt32) (cbStatus : UInt8) (param : UInt8) (s : MacCtx) :
    Option (MacCtx × List MacCall) :=
  if cbType = macAssConfirmCallback.toUInt32 then
    some (scheduleCallback
      (.callback (.zbMlmeAssociateConfirm ⟨Vector.replicate 8 0, 0, cbStatus⟩) param)
      { s with assRequest := false })
  else if cbType = macPollRequestCallback.toUInt32 then
    some (scheduleCallback (.pollConfirm param cbStatus) { s with pollRequest := false })
  else none

/-- The status of a procedure that failed. -/
def failedStatus (s : MacCtx) : UInt8 :=
  if s.macStatus = macSuccess then macInvalidParameter else s.macStatus

/-- What is received meanwhile does not touch `pending_buf`. -/
def zbHandlePollRequest (build : MacBuild) (param : UInt8) (first : Attempt) (rest : List Attempt)
    (s : MacCtx) : MacCtx × List MacCall :=
  let (s, calls, ret) :=
    zbMacGetIndirectData build macPollRequestCallback first rest { s with pendingBuf := some param }
  if ret = .ok then
    ({ s with
      pollRequest := true
      rtCtx := { s.rtCtx with bufRef := param }
      pendingBuf := none }, calls)
  else
    let (s, confirmed) := scheduleCallback (.pollConfirm param (failedStatus s)) s
    ({ s with pendingBuf := none }, calls ++ confirmed)

/-- The parent did not answer the association at once; `none` is a null pointer. -/
def zbMacRespTimeout (build : MacBuild) (first : Attempt) (rest : List Attempt) (s : MacCtx) :
    Option (MacCtx × List MacCall) := do
  let param ← s.pendingBuf
  let (s, calls, ret) :=
    zbMacGetIndirectData build macAssConfirmCallback first rest { s with assRequest := true }
  if ret = .ok then
    return ({ s with pendingBuf := none }, calls ++ [.freeBuf param])
  else
    let (s, confirmed) ←
      callIndirectDataCallback macAssConfirmCallback.toUInt32 (failedStatus s) param s
    return (s, calls ++ confirmed)

/-! ## Runs -/

/-- `delayed` is how many buffers `zb_get_out_buf_delayed` still owes to
`indirect_data_callback_caller`. -/
structure PollState where
  mac : MacCtx
  delayed : Nat

inductive PollEvent where
  | handlePollRequest (param : UInt8) (first : Attempt) (rest : List Attempt)
  | parseRecvData (param : UInt8) (frame : List UInt8)
  | handleDataFrame (sent : TxRet) (param : UInt8) (frame : List UInt8)
  | mlmeCommandAccept (param : UInt8) (frame : List UInt8)
  | mlmeAckAccept (param : UInt8) (frame : List UInt8)
  | respTimeout (first : Attempt) (rest : List Attempt)
  | indirectDataTimeout (param : UInt8)
  | indirectDataCallbackCaller (param : UInt8)
  /-- Whatever else runs: scans, interrupts, the scheduler, `ZB_SET_MAC_STATUS`. -/
  | elsewhere (other : MacCtx)

/-- What nothing else writes: the two flags, the reference and the alarm. -/
def keepingPolls (s other : MacCtx) : MacCtx :=
  { other with
    indirectDataRequest := s.indirectDataRequest
    pollRequest := s.pollRequest
    rtCtx := { other.rtCtx with bufRef := s.rtCtx.bufRef }
    indirectDataTimeout := s.indirectDataTimeout }

/-- `zb_mac_indirect_data_timeout`; its alarm must be scheduled. -/
def zbMacIndirectDataTimeout (param : UInt8) (s : PollState) : Option (PollState × List MacCall) :=
  if param ∈ s.mac.indirectDataTimeout then
    let mac := { s.mac with indirectDataTimeout := s.mac.indirectDataTimeout.erase param }
    if mac.rtCtx.bufRef ≠ 0 then do
      let (mac, calls) ← callIndirectDataCallback param.toUInt32 macNoData mac.rtCtx.bufRef mac
      return ({ s with mac := { mac with rtCtx := { mac.rtCtx with bufRef := 0 } } }, calls)
    else
      some (⟨{ mac with
        rtCtx := { mac.rtCtx with cbType := param.toUInt32, cbStatus := macNoData.toUInt32 } },
        s.delayed + 1⟩, [])
  else none

def indirectDataCallbackCaller (param : UInt8) (s : PollState) :
    Option (PollState × List MacCall) :=
  if s.delayed = 0 then none
  else
    (callIndirectDataCallback s.mac.rtCtx.cbType s.mac.rtCtx.cbStatus.toUInt8 param s.mac).map
      fun r => (⟨r.1, s.delayed - 1⟩, r.2)

variable (build : MacBuild)

/-- One event; `none` where the program stops, or where it cannot happen. -/
def pollCall (s : PollState) : PollEvent → Option (PollState × List MacCall)
  | .handlePollRequest param first rest =>
      let r := zbHandlePollRequest build param first rest s.mac
      some ({ s with mac := r.1 }, r.2)
  | .parseRecvData param frame =>
      let r := zbMacParseRecvData build param frame s.mac
      some ({ s with mac := r.1 }, r.2)
  | .handleDataFrame sent param frame =>
      let r := zbHandleDataFrame build sent param frame s.mac
      some ({ s with mac := r.1 }, r.2)
  | .mlmeCommandAccept param frame =>
      (zbMlmeCommandAccept build param frame s.mac).map fun r => ({ s with mac := r.1 }, r.2)
  | .mlmeAckAccept param frame =>
      let r := zbMlmeAckAccept build param (zbParseMhr frame).1 s.mac
      some ({ s with mac := r.1 }, r.2)
  | .respTimeout first rest =>
      (zbMacRespTimeout build first rest s.mac).map fun r => ({ s with mac := r.1 }, r.2)
  | .indirectDataTimeout param => zbMacIndirectDataTimeout param s
  | .indirectDataCallbackCaller param => indirectDataCallbackCaller param s
  | .elsewhere other => some ({ s with mac := keepingPolls s.mac other }, [])

def pollStep (s : PollState) (event : PollEvent) : Option PollState :=
  (pollCall build s event).map Prod.fst

/-- The buffers that are handed to `zb_handle_poll_request`. -/
def handed : PollEvent → List UInt8
  | .handlePollRequest param _ _ => [param]
  | _ => []

/-- The buffers that are given to `zb_mlme_poll_confirm`. -/
def confirms (calls : List MacCall) : List UInt8 :=
  calls.filterMap fun
    | .pollConfirm bufRef _ => some bufRef
    | _ => none

def confirmed (s : PollState) (event : PollEvent) : List UInt8 :=
  (pollCall build s event).elim [] fun r => confirms r.2

/-- No indirect transfer is pending. -/
structure Quiet (s : PollState) : Prop where
  indirect : s.mac.indirectDataRequest = false
  poll : s.mac.pollRequest = false
  timeout : s.mac.indirectDataTimeout = []

/-- **What is claimed of a run**: no poll is confirmed twice, and when nothing is pending each has
been confirmed. -/
structure ConfirmedOnce (s : PollState) (events : List PollEvent) (u : PollState) : Prop where
  atMostOnce : ∀ buf, (trace (pollStep build) (confirmed build) s events).count buf ≤
    (trace (pollStep build) (fun _ => handed) s events).count buf
  quiet : Quiet u → ∀ buf, (trace (pollStep build) (confirmed build) s events).count buf =
    (trace (pollStep build) (fun _ => handed) s events).count buf

/-! ## The condition -/

/-- **The condition**, on what comes and the state it meets: no second request for data is sent
while a poll waits, no poll is in buffer 0, while a poll waits the alarm of an association does not
run out and is not before its own when a frame comes, the type that a delayed buffer finds is that
of an association, and there is room for a confirm. -/
def Fits (s : PollState) : PollEvent → Prop
  | .handlePollRequest param first _ =>
      (s.mac.pollRequest = false ∧ param ≠ 0 ∨ first.sent ≠ .ok) ∧ 1 < s.mac.cbRoom
  | .parseRecvData _ _ => s.mac.pollRequest = true →
      s.mac.cbRoom ≠ 0 ∧ s.mac.indirectDataTimeout.tail.count macPollRequestCallback = 0
  | .respTimeout first _ => s.mac.pollRequest = false ∨ first.sent ≠ .ok
  | .indirectDataTimeout param =>
      s.mac.pollRequest = true → param = macPollRequestCallback ∧ s.mac.cbRoom ≠ 0
  | .indirectDataCallbackCaller _ => s.mac.rtCtx.cbType ≠ macPollRequestCallback.toUInt32
  | .handleDataFrame .. => True
  | .mlmeCommandAccept .. => True
  | .mlmeAckAccept .. => True
  | .elsewhere _ => True

/-! ## The polls that wait -/

/-- What the MAC context says of polls. -/
structure Polls where
  request : Bool
  ref : UInt8
  alarms : List UInt8

def pollsOf (s : MacCtx) : Polls := ⟨s.pollRequest, s.rtCtx.bufRef, s.indirectDataTimeout⟩

/-- The poll that waits. -/
def Polls.waiting (p : Polls) : List UInt8 := if p.request then [p.ref] else []

/-- A poll that waits is not in buffer 0, and none but it has an alarm. -/
structure Polls.Ok (p : Polls) : Prop where
  ref : p.request = true → p.ref ≠ 0
  alarm : p.alarms.count macPollRequestCallback ≤ p.request.toNat

/-- **One step**: what comes and what waited is confirmed or waits. -/
structure Served (came : List UInt8) (p : Polls) (calls : List MacCall) (q : Polls) : Prop where
  ok : q.Ok
  balance : (p.waiting ++ came).Perm (confirms calls ++ q.waiting)

section Polls

variable {p q r : Polls} {came : List UInt8} {calls more : List MacCall}

@[simp] theorem confirms_append : confirms (calls ++ more) = confirms calls ++ confirms more :=
  List.filterMap_append

theorem Served.still (ok : p.Ok) (none_ : confirms calls = []) : Served [] p calls p :=
  ⟨ok, by rw [none_, List.append_nil, List.nil_append]⟩

/-- Two steps, of which the first brings nothing. -/
theorem Served.trans (first : Served [] p calls q) (second : Served came q more r) :
    Served came p (calls ++ more) r := by
  refine ⟨second.ok, ?_⟩
  have one : p.waiting.Perm (confirms calls ++ q.waiting) := by
    simpa using first.balance
  have both : (p.waiting ++ came).Perm (confirms calls ++ (q.waiting ++ came)) := by
    rw [← List.append_assoc]
    exact one.append_right came
  rw [confirms_append, List.append_assoc]
  exact both.trans (second.balance.append_left _)

/-- No alarm of a poll without a poll. -/
theorem Polls.Ok.no_alarm (ok : p.Ok) (idle : p.request = false) :
    p.alarms.count macPollRequestCallback = 0 := by
  have few := ok.alarm
  rw [idle] at few
  exact Nat.le_zero.1 few

/-- An alarm more. -/
theorem count_scheduleTimeout {sameTick : Bool} {cbType other : UInt8} {timeouts : List UInt8} :
    (scheduleTimeout sameTick cbType timeouts).count other =
      timeouts.count other + [cbType].count other := by
  rw [scheduleTimeout]
  split
  · rw [List.count_cons, List.count_singleton]
  · exact List.count_append

/-- A poll that does not wait. -/
theorem Served.confirmNow {param status : UInt8} (ok : q.Ok) (none_ : confirms calls = [])
    (same : p.waiting = q.waiting) :
    Served [param] p (calls ++ [.pollConfirm param status]) q := by
  refine ⟨ok, ?_⟩
  rw [same, confirms_append, none_]
  exact List.perm_append_comm

/-- No poll waits, before and after. -/
theorem Served.idle (before : p.request = false) (after : q.request = false)
    (quiet : q.alarms.count macPollRequestCallback = 0) (none_ : confirms calls = []) :
    Served [] p calls q := by
  refine ⟨⟨fun waits => ?_, quiet.trans_le (Nat.zero_le _)⟩, ?_⟩
  · rw [after] at waits
    cases waits
  · simp [Polls.waiting, before, after, none_]

/-- The poll that waits is confirmed. -/
theorem Served.confirm {status : UInt8} {ref : UInt8} {alarms : List UInt8}
    (waits : p.request = true) (none_ : alarms.count macPollRequestCallback = 0) :
    Served [] p [.pollConfirm p.ref status] ⟨false, ref, alarms⟩ := by
  refine ⟨⟨nofun, ?_⟩, ?_⟩
  · rw [none_]
    exact Nat.zero_le _
  · simp [Polls.waiting, waits, confirms]

end Polls

/-! ## Received frames -/

section Frames

variable {build : MacBuild} {param : UInt8} {frame : List UInt8} {mhr : ZbMacMhr} {s : MacCtx}
  {call : MacCall}

@[simp] theorem scheduleCallback_polls : pollsOf (scheduleCallback call s).1 = pollsOf s := by
  rw [scheduleCallback]
  split
  · rfl
  · rfl

theorem scheduleCallback_room : s.cbRoom ≤ (scheduleCallback call s).1.cbRoom + 1 := by
  rw [scheduleCallback]
  split
  · exact Nat.le_succ _
  · show s.cbRoom ≤ s.cbRoom - 1 + 1
    omega

/-- A call that confirms no poll. -/
theorem scheduleCallback_confirms {cb : MacCallback} :
    confirms (scheduleCallback (.callback cb param) s).2 = [] := by
  rw [scheduleCallback]
  split
  · rfl
  · rfl

/-- **The dispatch** leaves the polls alone. -/
theorem dispatchFrame_still :
    pollsOf (dispatchFrame build param mhr s).1 = pollsOf s ∧
      confirms (dispatchFrame build param mhr s).2 = [] ∧
      s.cbRoom ≤ (dispatchFrame build param mhr s).1.cbRoom + 1 := by
  rw [dispatchFrame]
  dsimp only
  by_cases data : fcfGetFrameType mhr.frameControl = macFrameData
  · rw [if_pos data]
    exact ⟨scheduleCallback_polls, scheduleCallback_confirms, scheduleCallback_room⟩
  rw [if_neg data]
  by_cases beacon : fcfGetFrameType mhr.frameControl = macFrameBeacon
  · rw [if_pos beacon]
    refine ⟨?_, scheduleCallback_confirms, ?_⟩
    · split
      · exact (scheduleCallback_polls : pollsOf (scheduleCallback _ s).1 = pollsOf s)
      · exact scheduleCallback_polls
    · split
      · exact (scheduleCallback_room : s.cbRoom ≤ (scheduleCallback _ s).1.cbRoom + 1)
      · exact scheduleCallback_room
  rw [if_neg beacon]
  by_cases ack : fcfGetFrameType mhr.frameControl = macFrameAcknowledgment
  · rw [if_pos ack]
    split
    · rw [zbMlmeAckAccept]
      split
      · exact ⟨rfl, rfl, Nat.le_succ _⟩
      · exact ⟨rfl, rfl, Nat.le_succ _⟩
    · exact ⟨scheduleCallback_polls, scheduleCallback_confirms, scheduleCallback_room⟩
  rw [if_neg ack]
  split
  · exact ⟨scheduleCallback_polls, scheduleCallback_confirms, scheduleCallback_room⟩
  · exact ⟨rfl, rfl, Nat.le_succ _⟩

/-- **A frame that ends a transfer**: a data frame confirms the poll, any other takes its alarm. -/
theorem checkIndirect_served (ok : (pollsOf s).Ok) (room : s.pollRequest = true →
      s.cbRoom ≠ 0 ∧ s.indirectDataTimeout.tail.count macPollRequestCallback = 0) :
    Served [] (pollsOf s) (checkIndirect mhr s).2 (pollsOf (checkIndirect mhr s).1) := by
  rw [checkIndirect]
  split
  · rw [indirectDataReceived, confirmPoll]
    split
    · rename_i taken
      rw [scheduleCallback_polls, scheduleCallback, if_neg (room taken.1).1]
      exact .confirm (p := pollsOf s) taken.1 (room taken.1).2
    · refine ⟨⟨ok.ref, ((List.tail_sublist _).count_le _).trans ok.alarm⟩, ?_⟩
      show ((pollsOf s).waiting ++ []).Perm ([] ++ (pollsOf s).waiting)
      simp
  · exact .still ok rfl

/-- While no poll waits, a frame confirms none. -/
theorem checkIndirect_idle (idle : s.pollRequest = false) :
    (checkIndirect mhr s).1.pollRequest = false ∧ confirms (checkIndirect mhr s).2 = [] ∧
      (checkIndirect mhr s).1.cbRoom = s.cbRoom := by
  rw [checkIndirect]
  split
  · rw [indirectDataReceived, confirmPoll]
    have not_ : ¬ (s.pollRequest = true ∧ fcfGetFrameType mhr.frameControl = macFrameData ∧
        s.rtCtx.bufRef ≠ 0) := by
      rw [idle]
      exact fun taken => Bool.false_ne_true taken.1
    rw [if_neg not_]
    exact ⟨idle, rfl, rfl⟩
  · exact ⟨idle, rfl, rfl⟩

/-- **A received frame**, whatever it is. -/
theorem parseRecvData_served (ok : (pollsOf s).Ok) (room : s.pollRequest = true →
      s.cbRoom ≠ 0 ∧ s.indirectDataTimeout.tail.count macPollRequestCallback = 0) :
    Served [] (pollsOf s) (zbMacParseRecvData build param frame s).2
      (pollsOf (zbMacParseRecvData build param frame s).1) := by
  rw [zbMacParseRecvData]
  split
  · have first := @checkIndirect_served (zbParseMhr frame).1 s ok room
    obtain ⟨same, none_, -⟩ := @dispatchFrame_still build param (zbParseMhr frame).1
      (checkIndirect (zbParseMhr frame).1 s).1
    refine first.trans ?_
    rw [same]
    exact .still first.ok none_
  · exact .still ok rfl

theorem parseRecvData_idle (idle : s.pollRequest = false) :
    (zbMacParseRecvData build param frame s).1.pollRequest = false ∧
      confirms (zbMacParseRecvData build param frame s).2 = [] ∧
      s.cbRoom ≤ (zbMacParseRecvData build param frame s).1.cbRoom + 1 := by
  rw [zbMacParseRecvData]
  split
  · obtain ⟨still, none_, room⟩ := @checkIndirect_idle (zbParseMhr frame).1 s idle
    obtain ⟨same, noneAfter, roomAfter⟩ := @dispatchFrame_still build param (zbParseMhr frame).1
      (checkIndirect (zbParseMhr frame).1 s).1
    refine ⟨(congrArg Polls.request same).trans still, ?_, room ▸ roomAfter⟩
    show confirms (_ ++ _) = []
    rw [confirms_append, none_, noneAfter, List.append_nil]
  · exact ⟨idle, rfl, Nat.le_succ _⟩

end Frames

/-! ## Requests for data -/

section Requests

variable {build : MacBuild} {param cbType : UInt8} {first : Attempt} {rest : List Attempt}
  {s : MacCtx}

/-- **What a request for data leaves** where no poll waits: it sets one alarm, of its own type, if
there are data. -/
structure Asked (cbType : UInt8) (s : MacCtx) (r : MacCtx × List MacCall × TxRet) : Prop where
  idle : r.1.pollRequest = false
  none_ : confirms r.2.1 = []
  room : s.cbRoom ≤ r.1.cbRoom + 1
  alarms : r.1.indirectDataTimeout.count macPollRequestCallback =
    if r.2.2 = .ok then [cbType].count macPollRequestCallback else 0

/-- The end of a request, after what was received meanwhile. -/
theorem indirectAnswered_asked {sameTick : Bool} {t : MacCtx} {calls : List MacCall}
    (idle : t.pollRequest = false) (none_ : confirms calls = []) (room : s.cbRoom ≤ t.cbRoom + 1)
    (quiet : t.indirectDataTimeout.count macPollRequestCallback = 0) :
    Asked cbType s
      ((indirectAnswered sameTick cbType t).1, calls, (indirectAnswered sameTick cbType t).2) := by
  rw [indirectAnswered]
  split
  · refine ⟨idle, none_, room, ?_⟩
    show (scheduleTimeout sameTick cbType t.indirectDataTimeout).count macPollRequestCallback = _
    rw [count_scheduleTimeout, quiet, Nat.zero_add, if_pos rfl]
  · exact ⟨idle, none_, room, quiet⟩

/-- A frame that comes before the answer. -/
theorem recvWhileWaiting_idle {t : MacCtx} {frame : Option (UInt8 × List UInt8)}
    (idle : t.pollRequest = false)
    (quiet : t.indirectDataTimeout.count macPollRequestCallback = 0) :
    (recvWhileWaiting build frame t).1.pollRequest = false ∧
      confirms (recvWhileWaiting build frame t).2 = [] ∧
      t.cbRoom ≤ (recvWhileWaiting build frame t).1.cbRoom + 1 ∧
      (recvWhileWaiting build frame t).1.indirectDataTimeout.count macPollRequestCallback = 0 := by
  cases frame with
  | none => exact ⟨idle, rfl, Nat.le_succ _, quiet⟩
  | some received =>
      obtain ⟨param, bytes⟩ := received
      have busy (waits : t.pollRequest = true) : False := by
        rw [idle] at waits
        cases waits
      have ok : (pollsOf t).Ok := ⟨fun waits => (busy waits).elim, quiet.trans_le (Nat.zero_le _)⟩
      obtain ⟨still, none_, room⟩ := @parseRecvData_idle build param bytes t idle
      have served := @parseRecvData_served build param bytes t ok fun waits => (busy waits).elim
      exact ⟨still, none_, room, served.ok.no_alarm still⟩

/-- The acknowledgement of a request, waited for. -/
theorem waitedAck_asked {sameTick : Bool} {t : MacCtx} {frame : Option (UInt8 × List UInt8)}
    (idle : t.pollRequest = false) (room : s.cbRoom ≤ t.cbRoom)
    (quiet : t.indirectDataTimeout.count macPollRequestCallback = 0) :
    Asked cbType s
      (let (s, calls) := recvWhileWaiting build frame t
      if s.ackOk then
        let (s, ret) := indirectAnswered sameTick cbType s
        (s, calls, ret)
      else (s, calls, .blocked)) := by
  obtain ⟨still, none_, left, alarms⟩ := @recvWhileWaiting_idle build t frame idle quiet
  dsimp only
  split
  · exact indirectAnswered_asked still none_ (room.trans left) alarms
  · exact ⟨still, none_, room.trans left, alarms⟩

/-- **A request for data leaves the polls alone** until it is answered. -/
theorem getIndirectData_quiet (idle : s.pollRequest = false)
    (quiet : s.indirectDataTimeout.count macPollRequestCallback = 0) :
    Asked cbType s (zbMacGetIndirectData build cbType first rest s) := by
  induction rest generalizing first s with
  | nil =>
      rw [zbMacGetIndirectData.eq_def]
      dsimp only
      cases first.sent with
      | blocked => exact ⟨idle, rfl, Nat.le_succ _, quiet⟩
      | error => exact ⟨idle, rfl, Nat.le_succ _, quiet⟩
      | ok =>
          dsimp only
          split
          · split
            · exact ⟨idle, rfl, Nat.le_succ _, quiet⟩
            · exact waitedAck_asked idle (Nat.le_refl _) quiet
          · exact indirectAnswered_asked idle rfl (Nat.le_succ _) quiet
  | cons next rest ih =>
      rw [zbMacGetIndirectData.eq_def]
      dsimp only
      cases first.sent with
      | blocked => exact ⟨idle, rfl, Nat.le_succ _, quiet⟩
      | error => exact ⟨idle, rfl, Nat.le_succ _, quiet⟩
      | ok =>
          dsimp only
          split
          · split
            · obtain ⟨still, none_, room, alarms⟩ := @ih next
                { startAckWaiting { s with indirectDataRequest := true } with ackTimeout := false }
                idle quiet
              exact ⟨still, none_, room, alarms⟩
            · exact waitedAck_asked idle (Nat.le_refl _) quiet
          · exact indirectAnswered_asked idle rfl (Nat.le_succ _) quiet

/-- A request that is not sent changes nothing of the polls. -/
theorem getIndirectData_unsent (fails : first.sent ≠ .ok) :
    pollsOf (zbMacGetIndirectData build cbType first rest s).1 = pollsOf s ∧
      (zbMacGetIndirectData build cbType first rest s).1.cbRoom = s.cbRoom ∧
      (zbMacGetIndirectData build cbType first rest s).2.1 = [] ∧
      (zbMacGetIndirectData build cbType first rest s).2.2 ≠ .ok := by
  rw [zbMacGetIndirectData.eq_def]
  dsimp only
  cases sent : first.sent with
  | blocked => exact ⟨rfl, rfl, rfl, nofun⟩
  | error => exact ⟨rfl, rfl, rfl, nofun⟩
  | ok => exact absurd sent fails

end Requests

/-! ## Each step -/

section Steps

variable {build : MacBuild} {param : UInt8} {first : Attempt} {rest : List Attempt}
  {frame : List UInt8} {s : MacCtx}

/-- A step that has nothing to do with polls. -/
structure Still (s : MacCtx) (r : MacCtx × List MacCall) : Prop where
  polls : pollsOf r.1 = pollsOf s
  none_ : confirms r.2 = []

theorem Still.served {r : MacCtx × List MacCall} (still : Still s r) (ok : (pollsOf s).Ok) :
    Served [] (pollsOf s) r.2 (pollsOf r.1) := by
  rw [still.polls]
  exact .still ok still.none_

theorem scheduleCallback_still {t : MacCtx} {cb : MacCallback} (same : pollsOf t = pollsOf s) :
    Still s (scheduleCallback (.callback cb param) t) :=
  ⟨scheduleCallback_polls.trans same, scheduleCallback_confirms⟩

theorem scheduleTxCb_still (param : UInt8) :
    Still s (scheduleTxCb (.txAcceptDataRequest param) s) := by
  rw [scheduleTxCb]
  split
  · exact ⟨rfl, rfl⟩
  · exact ⟨rfl, rfl⟩

/-- The end of an association is not that of a poll. -/
theorem callIndirect_other {cbType : UInt32} {cbStatus : UInt8} {t : MacCtx}
    {r : MacCtx × List MacCall} (same : pollsOf t = pollsOf s)
    (other : cbType ≠ macPollRequestCallback.toUInt32)
    (called : callIndirectDataCallback cbType cbStatus param t = some r) : Still s r := by
  rw [callIndirectDataCallback, if_neg other] at called
  split at called
  · cases called
    exact scheduleCallback_still same
  · cases called

/-- An acknowledgement is no confirm. -/
theorem confirms_ack (acked : Bool) (ackDsn : UInt8) :
    confirms (if acked = true then [MacCall.sendAck ackDsn] else []) = [] := by
  cases acked
  · rfl
  · rfl

theorem handleDataFrame_still {sent : TxRet} :
    Still s (zbHandleDataFrame build sent param frame s) := by
  rw [zbHandleDataFrame]
  dsimp only
  split
  · refine ⟨scheduleCallback_polls, ?_⟩
    rw [confirms_append, confirms_ack, scheduleCallback_confirms, List.append_nil]
  · exact ⟨rfl, confirms_ack _ _⟩
  · refine ⟨rfl, ?_⟩
    rw [confirms_append, confirms_ack]
    rfl

theorem associationResponse_still : Still s (acceptAssociationResponse build param frame s) := by
  rw [acceptAssociationResponse]
  dsimp only
  split
  · refine ⟨scheduleCallback_polls, ?_⟩
    rw [confirms_append, confirms_ack, scheduleCallback_confirms, List.append_nil]
  · refine ⟨rfl, ?_⟩
    rw [confirms_append, confirms_ack]
    rfl

theorem realignment_still {t : MacCtx} (accepted : acceptCoordinatorRealignment frame s = some t) :
    pollsOf t = pollsOf s := by
  rw [acceptCoordinatorRealignment] at accepted
  split at accepted
  · obtain ⟨buf, -, rfl⟩ := Option.map_eq_some_iff.1 accepted
    split
    · rfl
    · rfl
  · cases accepted
    rfl

/-- **A command**, whatever it is, leaves the polls alone. -/
theorem commandAccept_still {r : MacCtx × List MacCall}
    (accepted : zbMlmeCommandAccept build param frame s = some r) : Still s r := by
  rw [zbMlmeCommandAccept] at accepted
  dsimp only at accepted
  split at accepted
  · cases accepted
    rw [scheduleTxCb]
    split
    · exact ⟨rfl, rfl⟩
    · exact ⟨rfl, rfl⟩
  split at accepted
  · cases accepted
    exact scheduleCallback_still rfl
  split at accepted
  · cases accepted
    exact associationResponse_still
  split at accepted
  · split at accepted
    · cases accepted
      exact scheduleTxCb_still param
    · cases accepted
      exact ⟨rfl, rfl⟩
  split at accepted
  · obtain ⟨t, is, rfl⟩ := Option.map_eq_some_iff.1 accepted
    exact ⟨realignment_still is, rfl⟩
  split at accepted
  · split at accepted
    · cases accepted
      exact scheduleCallback_still rfl
    · cases accepted
      exact ⟨rfl, rfl⟩
  · cases accepted
    exact ⟨rfl, rfl⟩

theorem mlmeAckAccept_still {mhr : ZbMacMhr} : Still s (zbMlmeAckAccept build param mhr s) := by
  rw [zbMlmeAckAccept]
  split
  · exact ⟨rfl, rfl⟩
  · exact ⟨rfl, rfl⟩

/-- **A poll**: it waits, or it is confirmed at once. -/
theorem handlePollRequest_served (ok : (pollsOf s).Ok) (room : 1 < s.cbRoom)
    (fits : s.pollRequest = false ∧ param ≠ 0 ∨ first.sent ≠ .ok) :
    Served [param] (pollsOf s) (zbHandlePollRequest build param first rest s).2
      (pollsOf (zbHandlePollRequest build param first rest s).1) := by
  rw [zbHandlePollRequest]
  dsimp only
  obtain ⟨idle, nonzero⟩ | fails := fits
  · have asked := @getIndirectData_quiet build macPollRequestCallback first rest
      { s with pendingBuf := some param } idle (ok.no_alarm idle)
    have waits : (pollsOf s).waiting = [] := if_neg (by simp [pollsOf, idle])
    generalize zbMacGetIndirectData build macPollRequestCallback first rest
      { s with pendingBuf := some param } = r at asked
    obtain ⟨t, calls, ret⟩ := r
    obtain ⟨still, none_, left, alarms⟩ := asked
    dsimp only at still none_ left alarms ⊢
    split
    · rename_i answered
      rw [if_pos answered] at alarms
      refine ⟨⟨fun _ => nonzero, ?_⟩, ?_⟩
      · show t.indirectDataTimeout.count macPollRequestCallback ≤ 1
        rw [alarms]
        decide
      · rw [waits, none_]
        exact List.Perm.refl _
    · rename_i refused
      rw [if_neg refused] at alarms
      rw [scheduleCallback, if_neg (by omega)]
      refine .confirmNow ⟨fun waits => ?_, ?_⟩ none_ (waits.trans ?_)
      · exact absurd (still.symm.trans waits) Bool.false_ne_true
      · show t.indirectDataTimeout.count macPollRequestCallback ≤ _
        rw [alarms]
        exact Nat.zero_le _
      · exact (if_neg (by simp [pollsOf, still])).symm
  · obtain ⟨same, left, none_, refused⟩ := @getIndirectData_unsent build macPollRequestCallback
      first rest { s with pendingBuf := some param } fails
    have left : (zbMacGetIndirectData build macPollRequestCallback first rest
        { s with pendingBuf := some param }).1.cbRoom ≠ 0 := by
      rw [left]
      exact Nat.ne_of_gt (Nat.lt_of_succ_lt room)
    have same : pollsOf { (zbMacGetIndirectData build macPollRequestCallback first rest
        { s with pendingBuf := some param }).1 with pendingBuf := none } = pollsOf s := same
    rw [if_neg refused, none_, scheduleCallback, if_neg left]
    exact .confirmNow (same ▸ ok) rfl (congrArg Polls.waiting same).symm

/-- **The parent is asked for the answer to an association**: no poll is meant. -/
theorem respTimeout_served {r : MacCtx × List MacCall} (ok : (pollsOf s).Ok)
    (fits : s.pollRequest = false ∨ first.sent ≠ .ok)
    (ran : zbMacRespTimeout build first rest s = some r) :
    Served [] (pollsOf s) r.2 (pollsOf r.1) := by
  rw [zbMacRespTimeout] at ran
  obtain ⟨buf, -, ran⟩ := Option.bind_eq_some_iff.1 ran
  dsimp only at ran
  obtain idle | fails := fits
  · have asked := @getIndirectData_quiet build macAssConfirmCallback first rest
      { s with assRequest := true } idle (ok.no_alarm idle)
    generalize zbMacGetIndirectData build macAssConfirmCallback first rest
      { s with assRequest := true } = a at asked ran
    obtain ⟨t, calls, ret⟩ := a
    obtain ⟨still, none_, -, alarms⟩ := asked
    dsimp only at still none_ alarms ran
    have first : Served [] (pollsOf s) calls (pollsOf t) := by
      refine .idle idle still ?_ none_
      show t.indirectDataTimeout.count macPollRequestCallback = 0
      rw [alarms]
      split
      · decide
      · rfl
    split at ran
    · cases ran
      exact first.trans (.still first.ok rfl)
    · obtain ⟨u, called, is⟩ := Option.bind_eq_some_iff.1 ran
      cases is
      exact first.trans ((callIndirect_other rfl (by decide) called).served first.ok)
  · obtain ⟨same, -, none_, refused⟩ := @getIndirectData_unsent build macAssConfirmCallback first rest
      { s with assRequest := true } fails
    rw [if_neg refused] at ran
    obtain ⟨u, called, is⟩ := Option.bind_eq_some_iff.1 ran
    cases is
    have still := callIndirect_other (s := s) same (by decide) called
    refine Still.served ⟨still.polls, ?_⟩ ok
    rw [none_]
    exact still.none_

/-- **The alarm of a transfer**: that of a poll confirms it, no other does. -/
theorem indirectDataTimeout_served {s : PollState} {r : PollState × List MacCall}
    (ok : (pollsOf s.mac).Ok)
    (fits : s.mac.pollRequest = true → param = macPollRequestCallback ∧ s.mac.cbRoom ≠ 0)
    (ran : zbMacIndirectDataTimeout param s = some r) :
    Served [] (pollsOf s.mac) r.2 (pollsOf r.1.mac) := by
  rw [zbMacIndirectDataTimeout] at ran
  split at ran
  swap
  · cases ran
  rename_i alarm
  dsimp only at ran
  cases waits : s.mac.pollRequest with
  | true =>
      obtain ⟨rfl, room⟩ := fits waits
      have there : s.mac.rtCtx.bufRef ≠ 0 := ok.ref waits
      rw [if_pos there] at ran
      obtain ⟨called, is, ends⟩ := Option.bind_eq_some_iff.1 ran
      rw [callIndirectDataCallback, if_neg (by decide), if_pos rfl, scheduleCallback, if_neg room] at is
      cases is
      cases ends
      refine Served.confirm (p := pollsOf s.mac) waits ?_
      have few := ok.alarm
      rw [show (pollsOf s.mac).request = true from waits] at few
      show (s.mac.indirectDataTimeout.erase macPollRequestCallback).count macPollRequestCallback = 0
      rw [List.count_erase_self]
      exact Nat.sub_eq_zero_of_le few
  | false =>
      have quiet : s.mac.indirectDataTimeout.count macPollRequestCallback = 0 := ok.no_alarm waits
      have left : (s.mac.indirectDataTimeout.erase param).count macPollRequestCallback = 0 :=
        Nat.eq_zero_of_le_zero ((List.erase_sublist.count_le _).trans_eq quiet)
      have other : param ≠ macPollRequestCallback := by
        rintro rfl
        exact List.count_eq_zero.1 quiet alarm
      split at ran
      · obtain ⟨called, is, ends⟩ := Option.bind_eq_some_iff.1 ran
        cases ends
        have different : param.toUInt32 ≠ macPollRequestCallback.toUInt32 :=
          fun same => other (UInt8.toUInt32_inj.1 same)
        have still := callIndirect_other rfl different is
        have after : called.1.pollRequest = false := (congrArg Polls.request still.polls).trans waits
        refine .idle waits after ?_ still.none_
        show called.1.indirectDataTimeout.count macPollRequestCallback = 0
        rw [show called.1.indirectDataTimeout = _ from congrArg Polls.alarms still.polls]
        exact left
      · cases ran
        exact .idle waits waits left rfl

/-- A buffer that comes late is not for a poll. -/
theorem callbackCaller_served {s : PollState} {r : PollState × List MacCall}
    (ok : (pollsOf s.mac).Ok) (fits : s.mac.rtCtx.cbType ≠ macPollRequestCallback.toUInt32)
    (ran : indirectDataCallbackCaller param s = some r) :
    Served [] (pollsOf s.mac) r.2 (pollsOf r.1.mac) := by
  rw [indirectDataCallbackCaller] at ran
  split at ran
  · cases ran
  · obtain ⟨called, is, rfl⟩ := Option.map_eq_some_iff.1 ran
    exact (callIndirect_other rfl fits is).served ok

/-- **One event**: what the `Fits` keep. -/
theorem pollCall_served {s : PollState} {event : PollEvent} {r : PollState × List MacCall}
    (ok : (pollsOf s.mac).Ok) (fits : Fits s event) (ran : pollCall build s event = some r) :
    Served (handed event) (pollsOf s.mac) r.2 (pollsOf r.1.mac) := by
  cases event with
  | handlePollRequest param first rest =>
      cases ran
      exact handlePollRequest_served ok fits.2 fits.1
  | parseRecvData param frame =>
      cases ran
      exact parseRecvData_served ok fits
  | handleDataFrame sent param frame =>
      cases ran
      exact handleDataFrame_still.served ok
  | mlmeCommandAccept param frame =>
      obtain ⟨called, is, rfl⟩ := Option.map_eq_some_iff.1 ran
      exact (commandAccept_still is).served ok
  | mlmeAckAccept param frame =>
      cases ran
      exact mlmeAckAccept_still.served ok
  | respTimeout first rest =>
      obtain ⟨called, is, rfl⟩ := Option.map_eq_some_iff.1 ran
      exact respTimeout_served ok fits is
  | indirectDataTimeout param => exact indirectDataTimeout_served ok fits ran
  | indirectDataCallbackCaller param => exact callbackCaller_served ok fits ran
  | elsewhere other =>
      cases ran
      exact .still ok rfl

end Steps

/-! ## Runs -/

section Runs

variable {build : MacBuild} {s t u : PollState} {event : PollEvent} {events : List PollEvent}

theorem pollStep_served (ok : (pollsOf s.mac).Ok) (fits : Fits s event)
    (taken : pollStep build s event = some t) :
    Served (handed event) (pollsOf s.mac)
      ((pollCall build s event).elim [] Prod.snd) (pollsOf t.mac) := by
  obtain ⟨r, is, rfl⟩ := Option.map_eq_some_iff.1 taken
  rw [is]
  exact pollCall_served ok fits is

theorem confirmed_eq :
    confirmed build s event = confirms ((pollCall build s event).elim [] Prod.snd) := by
  rw [confirmed]
  cases pollCall build s event with
  | none => rfl
  | some r => rfl

/-- **Every poll is confirmed once**, from any state in which none waits. -/
theorem polls_confirmed_of_run (idle : s.mac.pollRequest = false)
    (quiet : s.mac.indirectDataTimeout.count macPollRequestCallback = 0)
    (along : Along (pollStep build) Fits s events) (ran : run (pollStep build) s events = some u) :
    ConfirmedOnce build s events u := by
  have start : (pollsOf s.mac).Ok := by
    refine ⟨fun waits => ?_, quiet.trans_le (Nat.zero_le _)⟩
    exact absurd (idle.symm.trans waits) Bool.false_ne_true
  have keeps (s : PollState) (event : PollEvent) (t : PollState) (ok : (pollsOf s.mac).Ok)
      (fits : Fits s event) (taken : pollStep build s event = some t) : (pollsOf t.mac).Ok :=
    (pollStep_served ok fits taken).ok
  have along : Along (pollStep build) (fun s event => (pollsOf s.mac).Ok ∧ Fits s event) s events :=
    along_of_invariant keeps (fun _ _ => And.intro) start along
  have conserved :
      ((pollsOf s.mac).waiting ++ trace (pollStep build) (fun _ => handed) s events).Perm
        (trace (pollStep build) (confirmed build) s events ++ (pollsOf u.mac).waiting) := by
    apply @trace_perm _ _ _ _ _ fun s : PollState => (pollsOf s.mac).waiting
    case along => exact along
    case ran => exact ran
    intro s event t fits taken
    rw [confirmed_eq]
    exact (pollStep_served fits.1 fits.2 taken).balance
  have nothing : (pollsOf s.mac).waiting = [] := if_neg (by simp [pollsOf, idle])
  rw [nothing, List.nil_append] at conserved
  have counts (buf : UInt8) := conserved.count_eq buf
  simp only [List.count_append] at counts
  refine ⟨fun buf => ?_, fun none_ buf => ?_⟩
  · rw [counts]
    exact Nat.le_add_right _ _
  · have noneLeft : (pollsOf u.mac).waiting = [] := if_neg (by simp [pollsOf, none_.poll])
    rw [counts, noneLeft, List.count_nil, Nat.add_zero]

end Runs

/-! ## Poles -/

section Poles

/-- A device without the simulator. -/
def childBuild : MacBuild := ⟨false, false, false, false, false⟩

def childState : PollState := ⟨poleCtx, 0⟩

/-- The parent acknowledges, and says that there are data. -/
def announced : Attempt := ⟨.ok, 0, true, false, false, none⟩

/-- A data frame for this device. -/
def answer : List UInt8 := [0x01, 0x88, 0x2A, 0xAA, 0x1A, 0x01, 0x00, 0xAA, 0x1A, 0x00, 0x00, 0x08]

def onePoll : List PollEvent := [.handlePollRequest 3 announced [], .parseRecvData 7 answer]

/-- Of the two alarms the answer cancels one, and the other runs out. -/
def twoPolls : List PollEvent :=
  [.handlePollRequest 3 announced [], .handlePollRequest 5 announced [], .parseRecvData 7 answer,
    .indirectDataTimeout macPollRequestCallback]

/-- One poll is confirmed. -/
theorem one_poll_confirmed : ∃ u, run (pollStep childBuild) childState onePoll = some u ∧
    ConfirmedOnce childBuild childState onePoll u := by
  refine ⟨_, rfl, polls_confirmed_of_run rfl rfl ?_ rfl⟩
  refine ⟨⟨.inl ⟨rfl, by decide⟩, by decide⟩, fun t taken => ?_⟩
  cases taken
  refine ⟨fun _ => ⟨by decide, by decide⟩, fun t taken => ?_⟩
  cases taken
  trivial

/-- **The second poll takes the place of the first**, which is never confirmed; the second is
confirmed twice. -/
theorem second_poll_overwrites : ¬ ∀ build s events u, s.mac.pollRequest = false →
    s.mac.indirectDataTimeout.count macPollRequestCallback = 0 →
    run (pollStep build) s events = some u → ConfirmedOnce build s events u := by
  intro always
  have ran : ∃ u, run (pollStep childBuild) childState twoPolls = some u ∧ Quiet u :=
    ⟨_, rfl, ⟨rfl, rfl, rfl⟩⟩
  obtain ⟨u, ran, quiet⟩ := ran
  have once := (always childBuild childState twoPolls u rfl rfl ran).quiet quiet 3
  exact absurd once (by decide)

end Poles

end Zboss.Mac.Poll
