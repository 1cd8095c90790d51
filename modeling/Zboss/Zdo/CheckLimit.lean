/-
# Zdo.CheckLimit -- one interference check in each quarter of an hour

A check sets the check-fails flag and an alarm; while the flag is set no other check
starts, and only the callback of the alarm clears it.  That is the limit, as far as it
goes: a clear of another flag has a mask with the lower bits clear as well
(`getFlag_clearFlag`), so the notify that reports what the check has found ends the limit
with it, and the change timer ends everything.

* `limited_iff`: along a run a check starts only when the callback of the one before has
  been called, and no flag is touched but the one that is set or cleared, exactly when no
  notify with acknowledgement is sent while the check-fails flag is set and the change
  timer does not fire while one of the two other flags is.

Pole: `report_ends_limit`.
-/
import Mathlib
import Zboss.Common.Constants
import Zboss.Theory.Run
import Zboss.Zdo.ScanContext

namespace Zboss.Zdo.CheckLimit

open Zboss.Common.Constants
open Zboss.Theory.Run
open Zboss.Common.Types
open Zboss.Zdo.ChannelChange
open Zboss.Zdo.ScanContext

set_option autoImplicit false

/-! ## What a set and a clear do -/

/-- The masks of the sets: one bit each. -/
theorem set_mask (flag other : ZdoFlag) :
    (1 : UInt8) <<< other.shift &&& 1 <<< flag.shift =
      if flag = other then 1 <<< flag.shift else 0 := by
  cases flag <;> cases other <;> decide

/-- The masks of the clears: the bits above their own. -/
theorem clear_mask (flag other : ZdoFlag) :
    (~~~(1 : UInt8)) <<< other.shift &&& 1 <<< flag.shift =
      if other.shift < flag.shift then 1 <<< flag.shift else 0 := by
  cases flag <;> cases other <;> decide

theorem or_and_distrib (a b c : UInt8) : (a ||| b) &&& c = (a &&& c) ||| (b &&& c) := by
  rw [← UInt8.toNat_inj]
  simp only [UInt8.toNat_and, UInt8.toNat_or, Nat.and_or_distrib_right]

/-- A set changes its own flag only. -/
theorem getFlag_setFlag {flag other : ZdoFlag} (ne : flag ≠ other) (flags : UInt8) :
    getFlag flag (setFlag other flags) = getFlag flag flags := by
  rw [getFlag, setFlag, or_and_distrib, set_mask, if_neg ne, UInt8.or_zero, getFlag]

theorem getFlag_setFlag_self (flag : ZdoFlag) (flags : UInt8) :
    getFlag flag (setFlag flag flags) = true := by
  rw [getFlag, setFlag, or_and_distrib, set_mask, if_pos rfl, bne_iff_ne]
  intro zero
  have bit := (UInt8.or_eq_zero_iff.1 zero).2
  revert bit
  cases flag <;> decide

/-- **A clear takes the flags below its own with it.** -/
theorem getFlag_clearFlag (flag other : ZdoFlag) (flags : UInt8) :
    getFlag flag (clearFlag other flags) =
      if other.shift < flag.shift then getFlag flag flags else false := by
  rw [getFlag, clearFlag, UInt8.and_assoc, clear_mask]
  split
  · rfl
  · rw [UInt8.and_zero]
    rfl

/-- The end of the quiet time after a change of the channel. -/
example : zbZdoClearChannelChanged 0b111 = 0 := by decide

/-- Every flag but this one is as before. -/
def Apart (flag : Option ZdoFlag) (flags flags' : UInt8) : Prop :=
  ∀ other, flag ≠ some other → getFlag other flags' = getFlag other flags

section Apart

variable {flag : Option ZdoFlag} {flags flags' : UInt8}

theorem apart_refl : Apart flag flags flags := fun _ _ => rfl

theorem apart_set (flag : ZdoFlag) : Apart (some flag) flags (setFlag flag flags) :=
  fun _ ne => getFlag_setFlag (fun same => ne (congrArg some same.symm)) flags

/-- The lowest flag has none below it. -/
theorem apart_clear_checkFails : Apart (some .checkFails) flags (clearFlag .checkFails flags) := by
  intro other ne
  rw [getFlag_clearFlag, if_pos]
  cases other with
  | checkFails => exact absurd rfl ne
  | sendWithAck => decide
  | channelChanged => decide

theorem apart_clear_sendWithAck :
    Apart (some .sendWithAck) flags (clearFlag .sendWithAck flags) ↔
      getFlag .checkFails flags = false := by
  constructor
  · intro apart
    exact (apart .checkFails (by decide)).symm.trans (getFlag_clearFlag _ _ _)
  · intro clear other ne
    rw [getFlag_clearFlag]
    cases other with
    | checkFails => exact clear.symm
    | sendWithAck => exact absurd rfl ne
    | channelChanged => rfl

theorem apart_clear_channelChanged :
    Apart (some .channelChanged) flags (clearFlag .channelChanged flags) ↔
      getFlag .checkFails flags = false ∧ getFlag .sendWithAck flags = false := by
  constructor
  · intro apart
    exact ⟨(apart .checkFails (by decide)).symm.trans (getFlag_clearFlag _ _ _),
      (apart .sendWithAck (by decide)).symm.trans (getFlag_clearFlag _ _ _)⟩
  · rintro ⟨clear, clear'⟩ other ne
    rw [getFlag_clearFlag]
    cases other with
    | checkFails => exact clear.symm
    | sendWithAck => exact clear'.symm
    | channelChanged => exact absurd rfl ne

end Apart

/-! ## The limit -/

section Limit

variable (beyond : UInt8 → UInt32)

/-- The flag that a callback sets or clears. -/
def taskFlag : ZdoTask → Option ZdoFlag
  | .channelChangeTimer => some .channelChanged
  | .checkScanResult _ _ => some .sendWithAck
  | .updNotify _ _ => some .sendWithAck
  | _ => none

/-- The flag that a step sets or clears; a request that is refused is answered at once. -/
def callFlag (s : ZdoScan) : ZdoCall → Option ZdoFlag
  | .checkFails _ => some .checkFails
  | .checkTimer _ => some .checkFails
  | .updateReq _ _ => some .sendWithAck
  | .updateNotify _ _ => some .channelChanged
  | .run i _ => s.pending[i]?.bind taskFlag
  | _ => none

/-- A check that starts finds the timer callback of every check before it called, and a step
leaves every flag as it is but the one it sets or clears. -/
structure Limited (s : ZdoScan) (call : ZdoCall) : Prop where
  fired : ∀ alarm, call = .checkFails alarm → checkDue s.globals = true → s.unfired = []
  apart : ∀ t, scanStep beyond s call = some t →
    Apart (callFlag s call) s.globals.flags t.globals.flags

/-- A notify with acknowledgement while the check-fails flag is set. -/
def reportsInside (g : ZdoGlobals) : Bool :=
  zbZdoGetSendWithAck g.flags && zbZdoGetCheckFails g.flags

/-- No clear meets a flag below its own. -/
def SparesFlags (s : ZdoScan) : ZdoCall → Prop
  | .updateReq ind apsBody =>
      match zbZdoMgmtNwkUpdateHandler beyond ind apsBody with
      | some (.updNotify _ _ _) => reportsInside s.globals = false
      | _ => True
  | .run i _ =>
      match s.pending[i]? with
      | some (.updNotify _ _) => reportsInside s.globals = false
      | some .channelChangeTimer =>
          zbZdoGetCheckFails s.globals.flags = false ∧ zbZdoGetSendWithAck s.globals.flags = false
      | _ => True
  | _ => True

end Limit

section Steps

variable {beyond : UInt8 → UInt32} {s t : ZdoScan} {call : ZdoCall} {g : ZdoGlobals}

/-- The notify. -/
theorem apart_notify (op : ScanOp) (param : ZbZdoMgmtNwkUpdateNotifyParam) :
    Apart (some .sendWithAck) g.flags (notifyEffect op param g).globals.flags ↔
      reportsInside g = false := by
  have flags : (notifyEffect op param g).globals.flags =
      if zbZdoGetSendWithAck g.flags then zbZdoClearSendWithAck g.flags else g.flags := rfl
  rw [flags, reportsInside]
  cases zbZdoGetSendWithAck g.flags with
  | false => exact iff_of_true apart_refl rfl
  | true => exact apart_clear_sendWithAck

/-- A callback. -/
theorem apart_runTask (scanned : ZbMacScanConfirm) (task : ZdoTask) :
    Apart (taskFlag task) g.flags (runTask scanned g task).globals.flags ↔
      match task with
      | .updNotify _ _ => reportsInside g = false
      | .channelChangeTimer =>
          zbZdoGetCheckFails g.flags = false ∧ zbZdoGetSendWithAck g.flags = false
      | _ => True := by
  cases task with
  | updNotify op param => exact apart_notify op param
  | channelChangeTimer => exact apart_clear_channelChanged
  | checkScanResult op confirm =>
      refine iff_of_true ?_ trivial
      simp only [runTask, zbZdoChannelCheckScanResult]
      split
      · rename_i reported
        split at reported
        · cases reported
          exact apart_set .sendWithAck
        · cases reported
      · rename_i freed
        split at freed
        · cases freed
        · cases freed
          exact apart_refl
  | longTimer =>
      refine iff_of_true ?_ trivial
      simp only [runTask, zbZdoLongTimerCb]
      split <;> exact apart_refl
  | newChannel channel => exact iff_of_true apart_refl trivial
  | startEdScan op => exact iff_of_true apart_refl trivial
  | edScan op rq => exact iff_of_true apart_refl trivial
  | getPeerShortAddr lookup => exact iff_of_true apart_refl trivial
  | nwkAddrReq lookup => exact iff_of_true apart_refl trivial

theorem globals_of_step (taken : scanStep beyond s call = some t) :
    ∃ e, effect beyond s call = some e ∧ t.globals = e.globals := by
  obtain ⟨e, is, rfl⟩ := Option.map_eq_some_iff.1 taken
  exact ⟨e, is, rfl⟩

theorem apart_checkFails : Apart (some .checkFails) g.flags (zbZdoCheckFails g).flags := by
  unfold zbZdoCheckFails
  split
  · exact apart_set .checkFails
  · exact apart_refl

theorem apart_changeChannel {param : ZbZdoMgmtNwkUpdateReq} {notify : ZbZdoMgmtNwkUpdateNotify}
    {g' : ZdoGlobals} {outcome : ChangeOutcome}
    (changed : changeChannel beyond param notify g = some (g', outcome)) :
    Apart (some .channelChanged) g.flags g'.flags := by
  rcases changeChannel_cases changed with rfl | ⟨updateId, tsn, rfl⟩
  · exact apart_refl
  · exact apart_set .channelChanged

/-- What the request of a device does to the flags. -/
theorem apart_updateEffect (op : ScanOp) (handled : UpdateHandled) :
    Apart (some .sendWithAck) g.flags (updateEffect op g handled).globals.flags ↔
      match handled with
      | .updNotify _ _ _ => reportsInside g = false
      | _ => True := by
  cases handled with
  | updNotify status tsn dstAddr => exact apart_notify op _
  | newChannel i => exact iff_of_true apart_refl trivial
  | newMask mask addr => exact iff_of_true apart_refl trivial
  | edScan req scanCount dstAddr tsn => exact iff_of_true apart_refl trivial
  | nothing => exact iff_of_true apart_refl trivial

/-- **Each flag by itself**: a step leaves the other flags alone exactly when no clear meets a
flag below its own. -/
theorem apart_iff : (∀ t, scanStep beyond s call = some t →
      Apart (callFlag s call) s.globals.flags t.globals.flags) ↔ SparesFlags beyond s call := by
  have steps : (∀ t, scanStep beyond s call = some t →
        Apart (callFlag s call) s.globals.flags t.globals.flags) ↔
      ∀ e, effect beyond s call = some e →
        Apart (callFlag s call) s.globals.flags e.globals.flags := by
    constructor
    · intro all e is
      exact all _ (Option.map_eq_some_iff.2 ⟨e, is, rfl⟩)
    · intro all t taken
      obtain ⟨e, is, same⟩ := globals_of_step taken
      rw [same]
      exact all e is
  rw [steps]
  cases call with
  | updateReq ind apsBody =>
      simp only [effect, SparesFlags, callFlag]
      cases zbZdoMgmtNwkUpdateHandler beyond ind apsBody with
      | none => exact iff_of_true (fun _ is => nomatch is) trivial
      | some handled =>
          have one := apart_updateEffect (g := s.globals) (requestOp ind apsBody) handled
          simp only [Option.map_some, Option.some.injEq, forall_eq']
          rw [one]
          cases handled <;> exact Iff.rfl
  | run i scanned =>
      simp only [effect, SparesFlags, callFlag]
      cases s.pending[i]? with
      | none => exact iff_of_true (fun _ is => nomatch is) trivial
      | some task =>
          have one := apart_runTask (g := s.globals) scanned task
          simp only [Option.map_some, Option.bind_some, Option.some.injEq, forall_eq']
          rw [one]
          cases task <;> exact Iff.rfl
  | transmissions total fail =>
      refine iff_of_true (fun e is => ?_) trivial
      cases is
      exact apart_refl
  | checkFails alarm =>
      refine iff_of_true (fun e is => ?_) trivial
      cases is
      exact apart_checkFails
  | checkTimer i =>
      refine iff_of_true (fun e is => ?_) trivial
      obtain ⟨check, -, rfl⟩ := Option.map_eq_some_iff.1 is
      exact apart_clear_checkFails
  | updateNotify param notify =>
      refine iff_of_true (fun e is => ?_) trivial
      obtain ⟨⟨g', outcome⟩, changed, rfl⟩ := Option.map_eq_some_iff.1 is
      exact apart_changeChannel changed
  | startGetPeerShortAddr lookup =>
      refine iff_of_true (fun e is => ?_) trivial
      cases is
      exact apart_refl
  | lost i =>
      refine iff_of_true (fun e is => ?_) trivial
      simp only [effect] at is
      split at is
      · cases is
        exact apart_refl
      · cases is

/-! ## Runs -/

/-- **The invariant**: while the timer callback of a check has not been called, its flag is set,
and there is only one such check. -/
structure LimitOk (s : ZdoScan) : Prop where
  set : s.unfired ≠ [] → zbZdoGetCheckFails s.globals.flags = true
  one : s.unfired.length ≤ 1
  pending : s.checkAlarms.Sublist s.unfired

theorem LimitOk.fired (ok : LimitOk s) (due : checkDue s.globals = true) : s.unfired = [] := by
  by_contra some_
  have set := ok.set some_
  simp [checkDue, set] at due

theorem limited_iff_spares (ok : LimitOk s) :
    SparesFlags beyond s call ↔ Limited beyond s call := by
  constructor
  · intro spares
    exact ⟨fun _ _ due => ok.fired due, apart_iff.2 spares⟩
  · intro limited
    exact apart_iff.1 limited.apart

/-- A step that does not touch the checks keeps the invariant with their flag. -/
theorem LimitOk.other (ok : LimitOk s) (unfired : t.unfired = s.unfired)
    (checkAlarms : t.checkAlarms = s.checkAlarms)
    (flag : zbZdoGetCheckFails t.globals.flags = zbZdoGetCheckFails s.globals.flags) : LimitOk t := by
  obtain ⟨set, one, pending⟩ := ok
  exact ⟨by rw [unfired, flag]; exact set, by rw [unfired]; exact one,
    by rw [unfired, checkAlarms]; exact pending⟩

theorem limitOk_step (ok : LimitOk s) (spares : SparesFlags beyond s call)
    (taken : scanStep beyond s call = some t) : LimitOk t := by
  have apart := apart_iff.2 spares t taken
  obtain ⟨e, is, rfl⟩ := Option.map_eq_some_iff.1 taken
  cases call with
  | checkFails alarm =>
      cases is
      simp only [alarms, waiting]
      by_cases due : checkDue s.globals = true
      · have none_ := ok.fired due
        have noAlarm : s.checkAlarms = [] := List.sublist_nil.1 (none_ ▸ ok.pending)
        refine ⟨fun _ => ?_, ?_, ?_⟩
        · simp only [zbZdoCheckFails, due, if_true]
          exact getFlag_setFlag_self .checkFails _
        · simp [due, none_]
        · cases alarm <;> simp [due, none_, noAlarm]
      · refine ok.other ?_ ?_ ?_
        · simp [due]
        · simp [due]
        · simp [zbZdoCheckFails, due]
  | checkTimer i =>
      obtain ⟨check, at_, rfl⟩ := Option.map_eq_some_iff.1 is
      have mem : check ∈ s.unfired := ok.pending.subset (List.mem_of_getElem? at_)
      obtain ⟨only, same⟩ := List.length_eq_one_iff.1
        (Nat.le_antisymm ok.one (List.length_pos_of_mem mem))
      obtain rfl : check = only := by simpa [same] using mem
      have alarm : s.checkAlarms = [check] := by
        have short := ok.pending.length_le
        rw [same] at short
        have some_ := List.length_pos_of_mem (List.mem_of_getElem? at_)
        exact (same ▸ ok.pending).eq_of_length (by simp at short ⊢; omega)
      have zero : i = 0 := by
        rw [alarm] at at_
        obtain ⟨inside, -⟩ := List.getElem?_eq_some_iff.1 at_
        simpa using inside
      subst zero
      simp only [waiting, alarms, same, alarm]
      refine ⟨?_, ?_, ?_⟩ <;> simp
  | transmissions total fail => exact ok.other rfl rfl (apart .checkFails (by simp [callFlag]))
  | updateReq ind apsBody => exact ok.other rfl rfl (apart .checkFails (by simp [callFlag]))
  | updateNotify param notify => exact ok.other rfl rfl (apart .checkFails (by simp [callFlag]))
  | startGetPeerShortAddr lookup => exact ok.other rfl rfl (apart .checkFails (by simp [callFlag]))
  | lost i => exact ok.other rfl rfl (apart .checkFails (by simp [callFlag]))
  | run i scanned =>
      refine ok.other rfl rfl (apart .checkFails ?_)
      simp only [callFlag]
      cases s.pending[i]? with
      | none => simp
      | some task => cases task <;> simp [taskFlag]

end Steps

/-- **The limit of the interference checks.**  Along a run from the start every check finds the
timer callbacks of those before it called, and every set and clear leaves the other two flags
alone, exactly when no clear meets a flag below its own. -/
theorem limited_iff (beyond : UInt8 → UInt32) (calls : List ZdoCall) :
    Along (scanStep beyond) (Limited beyond) .init calls ↔
      Along (scanStep beyond) (SparesFlags beyond) .init calls := by
  have keeps : ∀ s call t, LimitOk s → SparesFlags beyond s call → scanStep beyond s call = some t →
      LimitOk t := fun _ _ _ ok spares taken => limitOk_step ok spares taken
  have start : LimitOk .init := ⟨fun some_ => absurd rfl some_, by decide, List.Sublist.refl _⟩
  exact (along_congr keeps (fun _ _ ok => limited_iff_spares ok) start).symm

/-! ## A run that breaks the limit -/

/-- The current channel is busy. -/
def busyChannel : ZbMacScanConfirm := ⟨macSuccess, 0, Vector.replicate _ 0x80⟩

/-- A check finds the channel busy, and reports it. -/
def checkAndReport : List ZdoCall :=
  [.transmissions 100 90, .checkFails true, .run 0 busyChannel, .run 0 busyChannel,
    .run 0 busyChannel, .run 0 busyChannel]

/-- **The report ends the limit**: the notify with acknowledgement clears the check-fails flag, and
another check starts before the timer callback of the first one has been called. -/
theorem report_ends_limit :
    ∃ s, run (scanStep fun _ => 0) .init checkAndReport = some s ∧ s.unfired = [0] ∧
      checkDue s.globals = true ∧
      ¬ Along (scanStep fun _ => 0) (Limited fun _ => 0) .init (checkAndReport ++ [.checkFails true]) := by
  have there : ((run (scanStep fun _ => 0) .init checkAndReport).any fun s =>
      decide (s.unfired = [0] ∧ checkDue s.globals = true)) = true := by decide +kernel
  obtain ⟨s, ran, seen⟩ := (Option.any_eq_true _ _).1 there
  obtain ⟨unfired, due⟩ := of_decide_eq_true seen
  refine ⟨s, ran, unfired, due, fun along => ?_⟩
  have last := ((along_append.1 along).2 s ran).1
  have none_ := last.fired true rfl due
  exact absurd (unfired.symm.trans none_) (List.cons_ne_nil _ _)

end Zboss.Zdo.CheckLimit
