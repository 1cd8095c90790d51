/-
# Mac.TransmitEngine -- whether the loop of the MAC calls each continuation once

A continuation is left in `tx_wait_cb` before, after or without a transmission, and called when
`tx_cnt` says that a frame was sent, whichever that was.

* `Turn`: the engine is idle, or waits for the one frame that is sent, or may go on with it;
* `txCall_moves`: what one event that `Fits` keeps, and passes on;
* `engine_of_run`: along every run that `Fits`, each continuation that is left is called once,
  when its own frame was counted, and the queue never waits for nothing.

Poles: `unsent_request_blocks`, a request that is not sent and for which the queue waits forever.
-/
import Mathlib
import Zboss.Mac.Transmit

namespace Zboss.Mac.TransmitEngine

open Zboss.Theory.Run
open Zboss.Mac.Transmit

set_option autoImplicit false

/-! ## What is claimed -/

/-- A continuation is left in `tx_wait_cb`. -/
def installs : TxCall → Option (TxWaitCb × UInt8)
  | .wait cb arg => some (cb, arg)
  | _ => none

/-- The loop calls one. -/
def calls : TxCall → Option (TxWaitCb × UInt8)
  | .call cb arg => some (cb, arg)
  | _ => none

/-- The frame that is meant for one is counted. -/
def reports : TxCall → Option (TxWaitCb × UInt8)
  | .report tx => tx
  | _ => none

/-- The continuation in `tx_wait_cb`. -/
def waiting (s : MacTx) : List (TxWaitCb × UInt8) := s.txWaitCb.toList.map (·, s.txWaitCbArg)

/-- The same once `tx_cnt` lets the loop call it. -/
def mayGoOn (s : MacTx) : List (TxWaitCb × UInt8) := if s.txCnt = 0 then [] else waiting s

variable (build : TxBuild)

/-- What a run puts out of one kind. -/
def traced (kind : TxCall → Option (TxWaitCb × UInt8)) (s : MacTx) (events : List TxEvent) :
    List (TxWaitCb × UInt8) :=
  trace (txStep build) (fun s event => (txOut build s event).filterMap kind) s events

/-- **What is claimed of a run**: of the continuations that are left none is lost, each is called
for its own frame, and one that waits has its frame in the air, or counted. -/
structure Engine (s : MacTx) (events : List TxEvent) (u : MacTx) : Prop where
  kept : traced build installs s events = traced build calls s events ++ waiting u
  matched : traced build reports s events = traced build calls s events ++ mayGoOn u
  released : ∀ cb, u.txWaitCb = some cb → u.txCnt ≠ 0 ∨ some (cb, u.txWaitCbArg) ∈ u.air

/-- Nobody waits, and nobody is meant by the frames in the air. -/
structure Idle (s : MacTx) : Prop where
  none_ : s.txWaitCb = none
  nobody : ∀ tx ∈ s.air, tx = none

/-! ## The condition -/

/-- A procedure that leaves a continuation sends its frame, and finds no other in the air; where it
leaves the argument as it was, that is its own. -/
def FitsTxCb (radio : Radio) (s : MacTx) : TxCb → Prop
  | .handleMcpsDataReq _ req => goesOut build radio req s = true → radio.sent = true ∧ s.air = []
  | .acceptDataRequestCmd param mhr => ∀ i data, checkPendingData mhr s = some i →
      s.pendingDataQueue i = some data →
        (zbMacCheckSecurity build radio data.frame.encryptType && radio.sent) = true ∧
          s.air = [] ∧ s.txWaitCbArg = param
  | .sendAssociationReqCmd param => radio.sent = true ∧ s.air = [] ∧ s.txWaitCbArg = param
  | .handleOrphanResponse _ => radio.sent = true ∧ s.air = []
  | .handleBeaconReq => True
  | .handlePollRequest _ => True

/-- **The condition**, on what comes and the state it meets: what the loop takes from the queue
`FitsTxCb`, and nothing is sent without the queue while a continuation waits. -/
def Fits (s : MacTx) : TxEvent → Prop
  | .mainLoop radio => s.txWaitCb = none → ∀ cb ∈ s.macTxQ.head?, FitsTxCb build radio s cb
  | .sendOutside radio => radio.sent = true → s.txWaitCb = none
  | .schedule _ => True
  | .counted => True
  | .associateResponse .. => True
  | .pendingDataTimeout _ => True
  | .elsewhere .. => True

/-! ## One event -/

/-- **The invariant.** -/
inductive Turn (s : MacTx) : Prop where
  | idle (is : Idle s)
  | waits (cb : TxWaitCb) (is : s.txWaitCb = some cb) (air : s.air = [some (cb, s.txWaitCbArg)])
      (none_ : s.txCnt = 0)
  | goesOn (cb : TxWaitCb) (is : s.txWaitCb = some cb) (air : s.air = []) (some_ : s.txCnt ≠ 0)

/-- What one event passes on. -/
structure Moves (s : MacTx) (out : List TxCall) (t : MacTx) : Prop where
  turn : Turn t
  kept : waiting s ++ out.filterMap installs = out.filterMap calls ++ waiting t
  matched : mayGoOn s ++ out.filterMap reports = out.filterMap calls ++ mayGoOn t

/-- Nothing of the engine is put out. -/
def Apart (out : List TxCall) : Prop :=
  ∀ call ∈ out, installs call = none ∧ calls call = none ∧ reports call = none

section Moves

variable {build : TxBuild} {radio : Radio} {s t : MacTx} {out more : List TxCall} {param arg : UInt8}
  {cb : TxWaitCb} {r : MacTx × List TxCall}

theorem Apart.installs (apart : Apart out) : out.filterMap installs = [] :=
  List.filterMap_eq_nil_iff.2 fun call mem => (apart call mem).1

theorem Apart.calls (apart : Apart out) : out.filterMap calls = [] :=
  List.filterMap_eq_nil_iff.2 fun call mem => (apart call mem).2.1

theorem Apart.reports (apart : Apart out) : out.filterMap reports = [] :=
  List.filterMap_eq_nil_iff.2 fun call mem => (apart call mem).2.2

theorem Apart.nil : Apart [] := nofun

theorem Apart.single {call : TxCall}
    (is : TransmitEngine.installs call = none ∧ TransmitEngine.calls call = none ∧
      TransmitEngine.reports call = none) : Apart [call] := by
  intro other mem
  rw [List.mem_singleton.1 mem]
  exact is

theorem Apart.append (first : Apart out) (second : Apart more) : Apart (out ++ more) := by
  intro call mem
  cases List.mem_append.1 mem with
  | inl left => exact first call left
  | inr right => exact second call right

/-- **An event that leaves the engine alone.** -/
theorem Moves.still (turn : Turn s) (apart : Apart out) (cb : t.txWaitCb = s.txWaitCb)
    (arg : t.txWaitCbArg = s.txWaitCbArg) (cnt : t.txCnt = s.txCnt) (air : t.air = s.air) :
    Moves s out t := by
  have same : waiting t = waiting s := by rw [waiting, waiting, cb, arg]
  have on : mayGoOn t = mayGoOn s := by rw [mayGoOn, mayGoOn, cnt, same]
  refine ⟨?_, ?_, ?_⟩
  · cases turn with
    | idle is => exact .idle ⟨cb.trans is.none_, air ▸ is.nobody⟩
    | waits own is sent none_ =>
        exact .waits own (cb.trans is) (by rw [air, sent, arg]) (cnt.trans none_)
    | goesOn own is sent some_ =>
        exact .goesOn own (cb.trans is) (air.trans sent) (by rwa [cnt])
  · rw [apart.installs, apart.calls, same, List.append_nil, List.nil_append]
  · rw [apart.reports, apart.calls, on, List.append_nil, List.nil_append]

theorem waiting_idle (idle : s.txWaitCb = none) : waiting s = [] := by
  rw [waiting, idle]
  rfl

theorem mayGoOn_idle (idle : s.txWaitCb = none) : mayGoOn s = [] := by
  rw [mayGoOn, waiting_idle idle, ite_self]

/-- From idle to idle. -/
theorem Moves.idle (before : s.txWaitCb = none) (after : Idle t)
    (apart : out.filterMap TransmitEngine.installs = [] ∧ out.filterMap TransmitEngine.calls = [] ∧
      out.filterMap TransmitEngine.reports = []) : Moves s out t := by
  refine ⟨.idle after, ?_, ?_⟩
  · rw [apart.1, apart.2.1, waiting_idle before, waiting_idle after.none_]
  · rw [apart.2.1, apart.2.2, mayGoOn_idle before, mayGoOn_idle after.none_]

/-- **A continuation is left, and its frame is sent.** -/
theorem Moves.start (before : s.txWaitCb = none) (is : t.txWaitCb = some cb)
    (air : t.air = [some (cb, t.txWaitCbArg)]) (none_ : t.txCnt = 0)
    (left : out.filterMap TransmitEngine.installs = [(cb, t.txWaitCbArg)] ∧
      out.filterMap TransmitEngine.calls = [] ∧ out.filterMap TransmitEngine.reports = []) :
    Moves s out t := by
  have waits : waiting t = [(cb, t.txWaitCbArg)] := by
    rw [waiting, is]
    rfl
  have stays : mayGoOn t = [] := if_pos none_
  refine ⟨.waits cb is air none_, ?_, ?_⟩
  · rw [left.1, left.2.1, waiting_idle before, waits]
  · rw [left.2.1, left.2.2, mayGoOn_idle before, stays]

/-! ## Continuations -/

theorem endCalls_apart {mhrPend : UInt8} {data : PendingData} {room : Nat} :
    Apart (endCalls mhrPend data room) := by
  rw [endCalls]
  split
  · exact .single ⟨rfl, rfl, rfl⟩
  split
  · exact .nil
  · exact .single ⟨rfl, rfl, rfl⟩

/-- **No continuation leaves another**, or sends. -/
theorem callTxWaitCb_apart (ran : callTxWaitCb radio arg s cb = some r) :
    r.1.air = s.air ∧ Apart r.2 := by
  cases cb with
  | handleMcpsDataReqContinue =>
      cases ran
      obtain ⟨macStatus, is⟩ := @handleMcpsDataReqContinue_eq radio s arg
      rw [is]
      refine ⟨rfl, ?_⟩
      dsimp only
      split
      · exact .nil
      · exact .single ⟨rfl, rfl, rfl⟩
  | handleDataRequestCmdContinue =>
      obtain ⟨data, status, freed, macStatus, cbRoom, slot, about, -⟩ :=
        handleDataRequestCmdContinue_cases ran
      have others : Apart (status ++ freed) := by
        intro call mem
        obtain ⟨buffer, -, rfl | ⟨status, rfl⟩⟩ := about call mem
        · exact ⟨rfl, rfl, rfl⟩
        · exact ⟨rfl, rfl, rfl⟩
      refine ⟨rfl, Apart.append (Apart.append ?_ endCalls_apart) ?_⟩
      · exact fun call mem => others call (List.mem_append_left _ mem)
      · exact fun call mem => others call (List.mem_append_right _ mem)
  | sendAssociationReqContinue =>
      cases ran
      obtain ⟨macStatus, is, out⟩ := @sendAssociationReqContinue_eq radio s
      refine ⟨by rw [is], fun call mem => ?_⟩
      rw [out call mem]
      exact ⟨rfl, rfl, rfl⟩
  | handleOrphanResponseContinue =>
      obtain ⟨buffer, macStatus, cbRoom, -, is, -, out⟩ := handleOrphanResponseContinue_cases ran
      refine ⟨by rw [is], fun call mem => ?_⟩
      rw [out call mem]
      exact ⟨rfl, rfl, rfl⟩

/-! ## Procedures -/

/-- What is sent is in the air. -/
theorem Idle.nobody_sent (idle : Idle s) : ∀ tx ∈ s.air ++ [none], tx = none := by
  intro tx mem
  cases List.mem_append.1 mem with
  | inl old => exact idle.nobody tx old
  | inr new => exact List.mem_singleton.1 new

/-- **A frame that nobody waits for.** -/
theorem Idle.send (idle : Idle s) {buf : Option UInt8} :
    Idle (transSendCommand radio none buf s).1 ∧ Apart (transSendCommand radio none buf s).2 := by
  obtain ⟨air, txCnt, is, within, sends⟩ := @transSendCommand_cases radio s none buf
  rw [is]
  refine ⟨⟨idle.none_, fun tx mem => idle.nobody_sent tx (within mem)⟩, fun call mem => ?_⟩
  rw [sends call mem]
  exact ⟨rfl, rfl, rfl⟩

/-- **A poll** waits for its own request, and leaves nothing. -/
theorem Idle.poll (idle : Idle s) (ran : zbHandlePollRequest radio param s = some r) :
    Idle r.1 ∧ Apart r.2 := by
  obtain ⟨air, txCnt, is, within, out⟩ := handlePollRequest_cases ran
  rw [is]
  refine ⟨⟨idle.none_, fun tx mem => idle.nobody_sent tx (within mem)⟩, fun call mem => ?_⟩
  obtain rfl | ⟨tx, sent, rfl⟩ := out call mem
  · exact ⟨rfl, rfl, rfl⟩
  · rw [idle.nobody_sent tx sent]
    exact ⟨rfl, rfl, rfl⟩

/-- **What the loop takes from the queue.** -/
theorem callTxCb_moves (idle : Idle s) {entry : TxCb} (fits : FitsTxCb build radio s entry)
    (ran : callTxCb build radio s entry = some r) : Moves s r.2 r.1 := by
  cases entry with
  | handleMcpsDataReq param req =>
      cases handleMcpsDataReq_cases ran with
      | counterError => exact .still (.idle idle) .nil rfl rfl rfl rfl
      | queued => exact .still (.idle idle) (.single ⟨rfl, rfl, rfl⟩) rfl rfl rfl rfl
      | putBack => exact .still (.idle idle) .nil rfl rfl rfl rfl
      | insecure => exact .still (.idle idle) .nil rfl rfl rfl rfl
      | unsent out fails => exact absurd (fits out).1 (by rw [fails]; exact Bool.false_ne_true)
      | sent out =>
          refine .start idle.none_ rfl ?_ rfl ⟨rfl, rfl, rfl⟩
          show s.air ++ _ = _
          rw [(fits out).2]
          rfl
  | acceptDataRequestCmd param mhr =>
      have answered := @handleDataRequestCmd_cases build radio s param mhr
      cases ran
      generalize zbHandleDataRequestCmd build radio param mhr s = r at answered ⊢
      cases answered with
      | nothing => exact .still (.idle idle) (.single ⟨rfl, rfl, rfl⟩) rfl rfl rfl rfl
      | unsent i data found slot stays =>
          rw [(fits i data found slot).1] at stays
          cases stays
      | sent i data found slot =>
          obtain ⟨-, air, arg⟩ := fits i data found slot
          refine .start idle.none_ rfl ?_ rfl ⟨rfl, rfl, rfl⟩
          show s.air ++ [_] = [_]
          rw [air, arg]
          rfl
  | handleBeaconReq =>
      cases ran
      rw [zbHandleBeaconReq]
      split
      · obtain ⟨rests, apart⟩ := @Idle.send radio s idle none
        exact .idle idle.none_ rests ⟨apart.installs, apart.calls, apart.reports⟩
      · exact .still (.idle idle) .nil rfl rfl rfl rfl
  | sendAssociationReqCmd param =>
      cases ran
      obtain ⟨sent, air, arg⟩ := fits
      rw [zbMlmeSendAssociationReqCmd, transSendCommand, if_pos sent]
      refine .start idle.none_ rfl ?_ rfl ⟨rfl, rfl, rfl⟩
      show s.air ++ [_] = [_]
      rw [air, arg]
      rfl
  | handleOrphanResponse param =>
      cases ran
      obtain ⟨sent, air⟩ := fits
      rw [zbMlmeHandleOrphanResponse, transSendCommand, if_pos sent]
      refine .start idle.none_ rfl ?_ rfl ⟨rfl, rfl, rfl⟩
      show s.air ++ [_] = [_]
      rw [air]
      rfl
  | handlePollRequest param =>
      obtain ⟨rests, apart⟩ := idle.poll ran
      exact .idle idle.none_ rests ⟨apart.installs, apart.calls, apart.reports⟩

/-- A continuation that waits for its frame: the frame is counted. -/
theorem Turn.count (turn : Turn s) : Moves s (countSent s).2 (countSent s).1 := by
  rw [countSent]
  cases turn with
  | idle is =>
      cases air : s.air with
      | nil => exact .still (.idle is) .nil rfl rfl rfl rfl
      | cons tx rest =>
          have nobody : tx = none := is.nobody tx (air ▸ List.mem_cons_self)
          have left : Idle { s with air := rest, txCnt := s.txCnt + 1 } :=
            ⟨is.none_, fun other mem => is.nobody other (air ▸ List.mem_cons_of_mem tx mem)⟩
          subst nobody
          exact .idle is.none_ left ⟨rfl, rfl, rfl⟩
  | waits cb is air none_ =>
      rw [air]
      have some_ : s.txCnt + 1 ≠ 0 := by
        rw [none_]
        decide
      have before : mayGoOn s = [] := if_pos none_
      have after : mayGoOn { s with air := [], txCnt := s.txCnt + 1 } = [(cb, s.txWaitCbArg)] := by
        rw [mayGoOn, if_neg some_, waiting, is]
        rfl
      refine ⟨.goesOn cb is rfl some_, List.append_nil _, ?_⟩
      dsimp only
      rw [before, after]
      rfl
  | goesOn cb is air some_ =>
      rw [air]
      exact .still (.goesOn cb is air some_) .nil rfl rfl rfl rfl

/-- **One turn of the loop.** -/
theorem mainLoop_moves (turn : Turn s)
    (fits : s.txWaitCb = none → ∀ cb ∈ s.macTxQ.head?, FitsTxCb build radio s cb)
    (ran : zbMacMainLoop build radio s = some r) : Moves s r.2 r.1 := by
  cases mainLoop_cases ran with
  | nothing => exact .still turn .nil rfl rfl rfl rfl
  | calls cb called waits counted went =>
      have own : s.air = [] := by
        cases turn with
        | idle is => exact absurd (is.none_.symm.trans waits) nofun
        | waits _ _ _ none_ => exact absurd none_ counted
        | goesOn _ _ air => exact air
      obtain ⟨still, apart⟩ := callTxWaitCb_apart went
      have rests : Idle { called.1 with txWaitCb := none } := by
        refine ⟨rfl, ?_⟩
        rw [show called.1.air = [] from still.trans own]
        nofun
      have before : waiting s = [(cb, s.txWaitCbArg)] := by
        rw [waiting, waits]
        rfl
      have on : mayGoOn s = [(cb, s.txWaitCbArg)] := by rw [mayGoOn, if_neg counted, before]
      refine ⟨.idle rests, ?_, ?_⟩
      · show waiting s ++ called.2.filterMap _ = (cb, s.txWaitCbArg) :: called.2.filterMap _ ++ _
        rw [apart.installs, apart.calls, before, waiting_idle rests.none_]
      · show mayGoOn s ++ called.2.filterMap _ = (cb, s.txWaitCbArg) :: called.2.filterMap _ ++ _
        rw [apart.reports, apart.calls, on, mayGoOn_idle rests.none_]
  | takes entry rest called idle queue took =>
      have is : Idle s := by
        cases turn with
        | idle is => exact is
        | waits _ waits => exact absurd (idle.symm.trans waits) nofun
        | goesOn _ waits => exact absurd (idle.symm.trans waits) nofun
      obtain ⟨turn, kept, matched⟩ := callTxCb_moves is (fits idle entry (by rw [queue]; rfl)) took
      refine ⟨?_, kept, matched⟩
      cases turn with
      | idle is => exact .idle ⟨is.none_, is.nobody⟩
      | waits cb is air none_ => exact .waits cb is air none_
      | goesOn cb is air some_ => exact .goesOn cb is air some_

theorem associateResponse_moves (turn : Turn s) {joinedPro : Bool}
    {deviceAddress : Common.Types.ZbIeeeAddr} :
    Moves s (zbMlmeAssociateResponse joinedPro param deviceAddress s).2
      (zbMlmeAssociateResponse joinedPro param deviceAddress s).1 := by
  have responded := @associateResponse_cases s param joinedPro deviceAddress
  generalize zbMlmeAssociateResponse joinedPro param deviceAddress s = r at responded ⊢
  cases responded with
  | freed => exact .still turn (.single ⟨rfl, rfl, rfl⟩) rfl rfl rfl rfl
  | queued => exact .still turn (.single ⟨rfl, rfl, rfl⟩) rfl rfl rfl rfl
  | overflow =>
      refine .still turn ?_ rfl rfl rfl rfl
      dsimp only
      split
      · exact .nil
      · exact .single ⟨rfl, rfl, rfl⟩

theorem pendingDataTimeout_moves (turn : Turn s) {i : Nat}
    (ran : zbMacPendingDataTimeout i s = some r) : Moves s r.2 r.1 := by
  obtain ⟨-, data, -, rfl⟩ := pendingDataTimeout_cases ran
  refine .still turn ?_ rfl rfl rfl rfl
  dsimp only
  split
  · exact .nil
  · exact .single ⟨rfl, rfl, rfl⟩

/-- **One event** that `Fits`. -/
theorem txCall_moves (turn : Turn s) {event : TxEvent} (fits : Fits build s event)
    (ran : txCall build s event = some r) : Moves s r.2 r.1 := by
  cases event with
  | schedule cb =>
      cases ran
      rw [scheduleTxCb]
      split
      · exact .still turn .nil rfl rfl rfl rfl
      · exact .still turn .nil rfl rfl rfl rfl
  | mainLoop radio => exact mainLoop_moves turn fits ran
  | counted =>
      cases ran
      exact turn.count
  | associateResponse joinedPro param deviceAddress =>
      cases ran
      exact associateResponse_moves turn
  | pendingDataTimeout param => exact pendingDataTimeout_moves turn ran
  | sendOutside radio =>
      cases ran
      cases sent : radio.sent with
      | false =>
          rw [transSendCommand, sent]
          exact .still turn .nil rfl rfl rfl rfl
      | true =>
          have none_ := fits sent
          cases turn with
          | idle is =>
              obtain ⟨rests, apart⟩ := @Idle.send radio s is none
              exact .idle none_ rests ⟨apart.installs, apart.calls, apart.reports⟩
          | waits cb is => exact absurd (none_.symm.trans is) (by simp)
          | goesOn cb is => exact absurd (none_.symm.trans is) (by simp)
  | elsewhere pendingBuf macStatus macFrameCounter cbRoom =>
      cases ran
      exact .still turn .nil rfl rfl rfl rfl

end Moves

/-! ## Runs -/

section Runs

variable {build : TxBuild} {s u : MacTx} {events : List TxEvent}

/-- **The engine**, along every run that `Fits`, from any state in which it is idle. -/
theorem engine_of_run (idle : Idle s) (along : Along (txStep build) (Fits build) s events)
    (ran : run (txStep build) s events = some u) : Engine build s events u := by
  have moves (s : MacTx) (event : TxEvent) (t : MacTx) (turn : Turn s) (fits : Fits build s event)
      (taken : txStep build s event = some t) : Moves s (txOut build s event) t :=
    txCall_moves turn fits (txStep_eq_some taken)
  have keeps (s : MacTx) (event : TxEvent) (t : MacTx) (turn : Turn s) (fits : Fits build s event)
      (taken : txStep build s event = some t) : Turn t := (moves s event t turn fits taken).turn
  have kept := trace_balance keeps
    (fun s event t turn fits taken => (moves s event t turn fits taken).kept) (.idle idle) along ran
  have matched := trace_balance keeps
    (fun s event t turn fits taken => (moves s event t turn fits taken).matched) (.idle idle) along ran
  rw [waiting_idle idle.none_, List.nil_append] at kept
  rw [mayGoOn_idle idle.none_, List.nil_append] at matched
  refine ⟨kept, matched, fun cb is => ?_⟩
  cases run_invariant keeps (.idle idle) along ran with
  | idle rests => exact absurd (rests.none_.symm.trans is) nofun
  | waits own waits air =>
      rw [air]
      exact .inr (by rw [Option.some.inj (waits.symm.trans is)]; exact List.mem_singleton_self _)
  | goesOn own waits air some_ => exact .inl some_

end Runs

/-! ## Poles -/

section Poles

/-- A request for a direct transmission in clear. -/
def directReq : McpsDataReq := ⟨2, Header.ofAddrShort 0x1234, 1, 0, .noEncr⟩

def radioOn : Radio := ⟨true, true, true, 1, none, ⟨1, 0, .noEncr⟩⟩

/-- Sending fails. -/
def radioOff : Radio := ⟨false, true, true, 1, none, ⟨1, 0, .noEncr⟩⟩

def oneRequest : List TxEvent :=
  [.schedule (.handleMcpsDataReq 3 directReq), .mainLoop radioOn, .counted, .mainLoop radioOn]

theorem one_request_goes : ∃ u, run (txStep routerBuild) idleTx oneRequest = some u ∧
    Engine routerBuild idleTx oneRequest u := by
  refine ⟨_, rfl, engine_of_run ⟨rfl, nofun⟩ ?_ rfl⟩
  refine ⟨trivial, fun t taken => ?_⟩
  cases taken
  refine ⟨fun _ entry is => ?_, fun t taken => ?_⟩
  · cases is
    exact fun _ => ⟨rfl, rfl⟩
  cases taken
  refine ⟨trivial, fun t taken => ?_⟩
  cases taken
  refine ⟨nofun, fun t taken => ?_⟩
  cases taken
  trivial

/-- **The queue waits for a request that was not sent.** -/
theorem unsent_request_blocks : ¬ ∀ build s events u, Idle s →
    run (txStep build) s events = some u → Engine build s events u := by
  intro always
  have ran : ∃ u, run (txStep routerBuild) idleTx
      [.schedule (.handleMcpsDataReq 3 directReq), .mainLoop radioOff] = some u ∧
      u.txWaitCb = some .handleMcpsDataReqContinue ∧ u.txCnt = 0 ∧ u.air = [] :=
    ⟨_, rfl, rfl, rfl, rfl⟩
  obtain ⟨u, ran, waits, none_, air⟩ := ran
  cases (always routerBuild idleTx _ u ⟨rfl, nofun⟩ ran).released _ waits with
  | inl counted => exact counted none_
  | inr sent =>
      rw [air] at sent
      cases sent

end Poles

end Zboss.Mac.TransmitEngine
