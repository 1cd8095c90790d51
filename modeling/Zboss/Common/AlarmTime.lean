/-
# Common.AlarmTime -- when an alarm can fire early

An entry is fired when the time the loop has read is `ZB_TIME_GE` its run time.
That comparison sees the future as the past from half the range on, so it is
reliable only for an alarm that is not further ahead than that, both from the timer
and from the time a running alarm loop has read before (`WaitsOut`).

`neverEarly_iff`: these alarms never fire early, whatever else is pending, and all
others can.  The timeout of the channel check is one of the others
(`channelCheck_fires_early`).
-/
import Mathlib
import Zboss.Theory.Run
import Zboss.Common.TimerQueue

namespace Zboss.Common.AlarmTime

open Zboss.Theory.Run
open Zboss.Theory.LinkedList
open Zboss.Common.Types
open Zboss.Common.ListMacros
open Zboss.Common.Scheduler
open Zboss.Common.TimerQueue

set_option autoImplicit false

variable {F : Type}

/-! ## The timeouts of the callers -/

def zbMillisecondsToBeaconInterval (ms : Nat) : Nat := (10 * ms + 3) / (15360 / 100)

def zbTimeOneSecond : Nat := zbMillisecondsToBeaconInterval 1000

def zbZdoChannelCheckTimeout : ZbTime := UInt16.ofNat (zbTimeOneSecond * 60 * 15)

def zbZdo1MinTimeout : ZbTime := UInt16.ofNat (zbTimeOneSecond * 60)

/-! ## Early alarms -/

/-- The time that the alarm loop has read, inside the loop. -/
def nowOf (s : SchedState F) : Option ZbTime :=
  match s.loopAt with
  | .alarms time | .firing time _ => some time
  | .callbacks | .calling => none

/-- The ticks of the timer. -/
def ticksOf : List (SchedCall F) → Nat
  | [] => 0
  | .tick ticks :: calls => ticks + ticksOf calls
  | _ :: calls => ticksOf calls

/-- The loop goes on to the callback of this entry. -/
def Fires (s : SchedState F) (ent : Nat) : Prop := firingOf (schedLoop false s) = [ent]

variable [DecidableEq F]

/-- An alarm scheduled here is not fired before the timer has advanced that far:
`ent` is the entry it gets, and it stays in the queue until it is fired. -/
def NeverEarly (s : SchedState F) (runAfter : ZbTime) : Prop :=
  ∀ func param ent t, s.sched.tmFreelist = some ent →
    schedStep s (.alarm func param runAfter) = some t →
    ∀ calls u, Along schedStep (fun v _ => ent ∈ queueOf v) t calls →
      run schedStep t calls = some u → Fires u ent → runAfter.toNat ≤ ticksOf calls

/-- The run time is in the future, as `ZB_TIME_GE` sees it. -/
def WaitsOut (now : Option ZbTime) (timer runAfter : ZbTime) : Prop :=
  runAfter = 0 ∨
    (¬ zbTimeGe timer (timer + runAfter) ∧ ∀ time ∈ now, ¬ zbTimeGe time (timer + runAfter))

instance (now : Option ZbTime) (timer runAfter : ZbTime) : Decidable (WaitsOut now timer runAfter) :=
  have : Decidable (∀ time ∈ now, ¬ zbTimeGe time (timer + runAfter)) :=
    @Option.decidableForallMem _ _ _ now
  inferInstanceAs (Decidable (_ ∨ _))

section Time

variable {timer runAfter : ZbTime} {j : Nat}

theorem timeGe_add_iff :
    zbTimeGe (timer + UInt16.ofNat j) (timer + runAfter) ↔
      (65536 + j % 65536 - runAfter.toNat) % 65536 < 32767 := by
  simp only [zbTimeGe, zbHalfMaxTimeVal, UInt16.lt_iff_toNat_lt, UInt16.toNat_sub, UInt16.toNat_add,
    UInt16.toNat_ofNat', UInt16.reduceToNat]
  have := timer.toNat_lt
  have := runAfter.toNat_lt
  omega

theorem timeGe_self_add_iff :
    zbTimeGe timer (timer + runAfter) ↔ (65536 - runAfter.toNat) % 65536 < 32767 := by
  have ge : zbTimeGe (timer + UInt16.ofNat 0) (timer + runAfter) ↔
      (65536 + 0 % 65536 - runAfter.toNat) % 65536 < 32767 := timeGe_add_iff
  simpa using ge

/-- Outside the alarm loop only the distance counts. -/
theorem waitsOut_none_iff : WaitsOut none timer runAfter ↔ runAfter.toNat ≤ 32769 := by
  have bound := runAfter.toNat_lt
  have zero : runAfter = 0 ↔ runAfter.toNat = 0 := UInt16.toNat_inj.symm
  simp only [WaitsOut, timeGe_self_add_iff, zero, Option.mem_def, reduceCtorEq, false_implies,
    implies_true, and_true]
  omega

/-- A time after the schedule that sees the run time as past is past it. -/
theorem le_of_timeGe (waits : ¬ zbTimeGe timer (timer + runAfter))
    (due : zbTimeGe (timer + UInt16.ofNat j) (timer + runAfter)) : runAfter.toNat ≤ j := by
  rw [timeGe_self_add_iff] at waits
  rw [timeGe_add_iff] at due
  have bound := runAfter.toNat_lt
  omega

end Time

/-! ## Waiting alarms are not fired early -/

/-- The alarm waits: `ticks` after it was scheduled, its run time is what it was, and
the time of the alarm loop is the one from before or has been read since. -/
structure Waiting (now : Option ZbTime) (timer runAfter : ZbTime) (ent ticks : Nat)
    (s : SchedState F) : Prop where
  runTime : timeOf s.sched ent = timer + runAfter
  clock : s.timer = timer + UInt16.ofNat ticks
  read : ∀ time ∈ nowOf s, time ∈ now ∨ ∃ j ≤ ticks, time = timer + UInt16.ofNat j

section Steps

variable {now : Option ZbTime} {timer runAfter : ZbTime} {ent ticks : Nat} {s t : SchedState F}

theorem waiting_step (parts : PartsOk s) (pending : ent ∈ queueOf s)
    (waiting : Waiting now timer runAfter ent ticks s) {call : SchedCall F}
    (taken : schedStep s call = some t) :
    Waiting now timer runAfter ent (ticks + ticksOf [call]) t := by
  have does := (step_keeps parts call).1
  cases call with
  | callback func param =>
      obtain ⟨⟨cbQ, ret⟩, -, rfl⟩ := Option.map_eq_some_iff.1 taken
      exact ⟨waiting.runTime, waiting.clock, waiting.read⟩
  | alarm func param runAfter' =>
      obtain ⟨⟨g, ret⟩, called, rfl⟩ := Option.map_eq_some_iff.1 taken
      refine ⟨?_, waiting.clock, waiting.read⟩
      cases free : freeOf s with
      | nil =>
          obtain ⟨rfl, -⟩ := Prod.mk.inj (Option.some.inj (called.symm.trans (does.1 free)))
          exact waiting.runTime
      | cons nent rest =>
          -- the entry taken is another one
          obtain ⟨t', before, after, called', -, -, -, -, buffer⟩ := does.2 nent rest free
          obtain ⟨rfl, -⟩ := Prod.mk.inj (Option.some.inj (called.symm.trans called'))
          have ne : ent ≠ nent := by
            rintro rfl
            exact parts.apart ent (free ▸ List.mem_cons_self) pending
          show timeOf t'.sched ent = _
          rw [timeOf, buffer, Function.update_of_ne ne]
          exact waiting.runTime
  | cancel func param =>
      obtain ⟨t', ret, -, step, -, buffer, -⟩ := does
      obtain rfl := Option.some.inj (step.symm.trans taken)
      obtain ⟨⟨g, ret'⟩, -, rfl⟩ := Option.map_eq_some_iff.1 taken
      refine ⟨?_, waiting.clock, waiting.read⟩
      show timeOf g ent = _
      rw [timeOf, show g.tmBuffer = s.sched.tmBuffer from buffer]
      exact waiting.runTime
  | tick more =>
      cases taken
      refine ⟨waiting.runTime, ?_, fun time is => ?_⟩
      · show s.timer + UInt16.ofNat more = timer + UInt16.ofNat (ticks + (more + 0))
        rw [waiting.clock, Nat.add_zero, UInt16.ofNat_add, UInt16.add_assoc]
      · rcases waiting.read time is with before | ⟨j, le, rfl⟩
        · exact .inl before
        · exact .inr ⟨j, le.trans (Nat.le_add_right _ _), rfl⟩
  | loop brk =>
      cases taken
      have buffer := does.2
      have runTime : timeOf (schedLoop brk s).sched ent = timer + runAfter := by
        rw [timeOf, buffer]
        exact waiting.runTime
      rcases schedLoop_timer (s := s) brk with ⟨clock, -, idle, latest, -⟩ |
        ⟨time, ent', links, list, place, -, -, -, is⟩ | ⟨time, ent', place, is⟩
      · refine ⟨runTime, clock.trans waiting.clock, fun time is => ?_⟩
        have reads : (schedLoop brk s).loopAt = .alarms time := by
          unfold nowOf at is
          unfold firingOf at idle
          split at is <;> simp_all
        exact .inr ⟨ticks, Nat.le_refl _, (latest time reads).trans waiting.clock⟩
      · have before : nowOf s = some time := by rw [nowOf, place]
        exact ⟨runTime, by rw [is]; exact waiting.clock, fun time' now' => by
          rw [is] at now'
          exact waiting.read time' (before ▸ now')⟩
      · have before : nowOf s = some time := by rw [nowOf, place]
        exact ⟨runTime, by rw [is]; exact waiting.clock, fun time' now' => by
          rw [is] at now'
          exact waiting.read time' (before ▸ now')⟩

theorem waiting_run {calls : List (SchedCall F)} (parts : PartsOk s)
    (waiting : Waiting now timer runAfter ent ticks s)
    (pending : Along schedStep (fun v _ => ent ∈ queueOf v) s calls)
    (ran : run schedStep s calls = some t) :
    Waiting now timer runAfter ent (ticks + ticksOf calls) t := by
  induction calls generalizing s ticks with
  | nil =>
      cases ran
      exact waiting
  | cons call calls ih =>
      obtain ⟨u, taken, rest⟩ := run_cons_eq_some.1 ran
      have split : ticksOf (call :: calls) = ticksOf [call] + ticksOf calls := by
        cases call <;> simp [ticksOf]
      rw [split, ← Nat.add_assoc]
      exact ih ((step_keeps parts call).2 u taken).1 (waiting_step parts pending.1 waiting taken)
        (pending.2 u taken) rest

omit [DecidableEq F] in
/-- Where the loop goes on to an alarm. -/
theorem fires_iff : Fires s ent ↔
    ∃ time, s.loopAt = .alarms time ∧ s.sched.tmQueue = some ent ∧
      zbTimeGe time (timeOf s.sched ent) := by
  unfold Fires
  constructor
  · intro fires
    rcases schedLoop_timer (s := s) false with ⟨-, -, idle, -, -⟩ |
      ⟨time, ent', links, list, place, head, due, -, is⟩ | ⟨time, ent', -, is⟩
    · rw [idle] at fires
      cases fires
    · rw [is] at fires
      obtain ⟨rfl, -⟩ := List.cons.inj fires
      exact ⟨time, place, head, due⟩
    · rw [is] at fires
      cases fires
  · rintro ⟨time, place, head, due⟩
    rw [schedLoop_fire place head due, firingOf]

omit [DecidableEq F] in
theorem free_cons (parts : PartsOk s) (free : s.sched.tmFreelist = some ent) :
    ∃ rest, freeOf s = ent :: rest := by
  have freed := parts.freed
  cases is : freeOf s with
  | nil =>
      rw [is] at freed
      exact absurd (free.symm.trans freed) (by simp)
  | cons ent' rest =>
      rw [is] at freed
      obtain rfl := Option.some.inj (freed.1.symm.trans free)
      exact ⟨rest, rfl⟩

/-- An alarm waits in the entry it gets. -/
theorem waiting_alarm (parts : PartsOk s) {func : F} {param : UInt8} (free : s.sched.tmFreelist = some ent)
    (taken : schedStep s (.alarm func param runAfter) = some t) :
    Waiting (nowOf s) s.timer runAfter ent 0 t := by
  obtain ⟨rest, split⟩ := free_cons parts free
  obtain ⟨t', before, after, called, step, -, -, -, buffer⟩ :=
    ((step_keeps parts (.alarm func param runAfter)).1).2 ent rest split
  obtain rfl := Option.some.inj (step.symm.trans taken)
  obtain ⟨⟨g, ret⟩, -, rfl⟩ := Option.map_eq_some_iff.1 taken
  refine ⟨?_, by simp, fun time is => .inl is⟩
  show (g.tmBuffer ent).runTime = _
  rw [show g.tmBuffer = _ from buffer, Function.update_self]

/-- **An alarm that waits its time out is never fired early.** -/
theorem neverEarly_of_waitsOut (parts : PartsOk s) (waits : WaitsOut (nowOf s) s.timer runAfter) :
    NeverEarly s runAfter := by
  intro func param ent t free taken calls u pending ran fires
  have waiting := waiting_run ((step_keeps parts _).2 t taken).1 (waiting_alarm parts free taken)
    pending ran
  rw [Nat.zero_add] at waiting
  obtain ⟨time, place, -, due⟩ := fires_iff.1 fires
  rw [waiting.runTime] at due
  rcases waits with rfl | ⟨fromTimer, fromNow⟩
  · exact Nat.zero_le _
  · rcases waiting.read time (by rw [nowOf, place]; rfl) with before | ⟨j, le, rfl⟩
    · exact absurd due (fromNow time before)
    · exact (le_of_timeGe fromTimer due).trans le

end Steps

/-! ## The others can be -/

section Early

variable {null : F} {timer runAfter : ZbTime}

/-- With nothing else pending, an alarm scheduled outside the alarm loop is fired at
once if the timer sees its run time as past. -/
theorem early_outside (later : runAfter ≠ 0) (due : zbTimeGe timer (timer + runAfter)) :
    ¬ NeverEarly (.start null timer) runAfter := by
  intro never
  have early := never null 0 15 _ rfl rfl [.loop false] _ ⟨List.Mem.head _, fun _ _ => trivial⟩ rfl
    (fires_iff.2 ⟨timer, rfl, rfl, due⟩)
  exact later (UInt16.toNat_inj.1 (Nat.le_zero.1 early))

/-- From the start: an alarm fires, and in its callback the timer advances. -/
def intoCallback (null : F) (ticks : Nat) : List (SchedCall F) :=
  [.alarm null 0 0, .loop false, .loop false, .tick ticks]

theorem timeGe_refl (time : ZbTime) : zbTimeGe time time := by
  rw [zbTimeGe, UInt16.sub_self]
  decide

theorem callback_reached (null : F) (time timer : ZbTime) :
    ∃ s, run schedStep (.start null time) (intoCallback null (timer - time).toNat) = some s ∧
      s.timer = timer ∧ s.loopAt = .firing time 15 ∧ s.sched.tmQueue = none ∧
      s.sched.tmFreelist = some 14 := by
  refine ⟨_, run_cons_eq_some.2 ⟨_, rfl, run_cons_eq_some.2 ⟨_, rfl, run_cons_eq_some.2
    ⟨_, congrArg some (schedLoop_fire rfl rfl ?_), rfl⟩⟩⟩, ?_, rfl, rfl, rfl⟩
  · show zbTimeGe time (time + 0)
    rw [UInt16.add_zero]
    exact timeGe_refl time
  · show time + UInt16.ofNat (timer - time).toNat = timer
    rw [UInt16.ofNat_toNat, UInt16.add_comm, UInt16.sub_add_cancel]

omit [DecidableEq F] in
theorem mem_queueOf {s : SchedState F} {ent : Nat} (head : s.sched.tmQueue = some ent) :
    ent ∈ queueOf s := by
  rw [queueOf, head]
  exact List.Mem.head _

/-- In the callback of an alarm, with nothing else pending: an alarm is fired at once if
the time of the loop or the timer sees its run time as past. -/
theorem early_inside {s : SchedState F} {time : ZbTime} {ent nent : Nat} (null : F)
    (parts : PartsOk s) (place : s.loopAt = .firing time ent) (empty : s.sched.tmQueue = none)
    (free : s.sched.tmFreelist = some nent) (later : runAfter ≠ 0)
    (due : zbTimeGe time (s.timer + runAfter) ∨ zbTimeGe s.timer (s.timer + runAfter)) :
    ¬ NeverEarly s runAfter := by
  obtain ⟨t, taken, head⟩ : ∃ t, schedStep s (.alarm null 0 runAfter) = some t ∧
      t.sched.tmQueue = some nent := by
    obtain ⟨full, room⟩ := (step_keeps parts (.alarm null 0 runAfter)).1
    obtain ⟨rest, split⟩ := free_cons parts free
    obtain ⟨t, before, after, -, taken, was, is, -, -⟩ := room nent rest split
    have none_ : queueOf s = [] := (path_eq_nil_iff parts.listed.path).2 empty
    obtain ⟨rfl, rfl⟩ := List.append_eq_nil_iff.1 (was.symm.trans none_)
    refine ⟨t, taken, ?_⟩
    rw [← ((step_keeps parts _).2 t taken).1.listed.head_eq, is]
    rfl
  have waits := waiting_alarm parts free taken
  have runTime : timeOf t.sched nent = s.timer + runAfter := waits.runTime
  have clock : t.timer = s.timer := by simpa using waits.clock
  have place' : t.loopAt = .firing time ent := by
    obtain ⟨⟨g, ret⟩, -, rfl⟩ := Option.map_eq_some_iff.1 taken
    exact place
  -- the callback returns
  have returns : schedLoop false t = ⟨freeTmEnt ent t.sched, t.timer, .alarms time⟩ := by
    simp only [schedLoop, place']
  intro never
  suffices early : runAfter.toNat ≤ 0 from later (UInt16.toNat_inj.1 (Nat.le_zero.1 early))
  by_cases past : zbTimeGe time (s.timer + runAfter)
  · refine never null 0 nent t free taken [.loop false] _ ⟨mem_queueOf head, fun _ _ => trivial⟩ rfl
      (fires_iff.2 ⟨time, by rw [returns], by rw [returns]; exact head, ?_⟩)
    rw [returns]
    exact runTime ▸ past
  · have due := due.resolve_left past
    -- the loop ends there, and the next one reads the timer
    have ends : schedLoop false ⟨freeTmEnt ent t.sched, t.timer, .alarms time⟩ =
        ⟨freeTmEnt ent t.sched, t.timer, .callbacks⟩ := by
      have notDue : ¬ zbTimeGe time (timeOf t.sched nent) := runTime ▸ past
      simp only [schedLoop, freeTmEnt, head]
      rw [if_neg (by exact notDue)]
    have again : schedLoop true ⟨freeTmEnt ent t.sched, t.timer, .callbacks⟩ =
        ⟨freeTmEnt ent t.sched, t.timer, .alarms t.timer⟩ := by
      have some_ : (freeTmEnt ent t.sched).tmQueue ≠ none := by
        show t.sched.tmQueue ≠ none
        simp [head]
      simp only [schedLoop, toAlarms, if_true]
      split <;> rw [if_pos some_]
    refine never null 0 nent t free taken [.loop false, .loop false, .loop true]
      ⟨freeTmEnt ent t.sched, t.timer, .alarms t.timer⟩ ?_ ?_
      (fires_iff.2 ⟨t.timer, rfl, head, ?_⟩)
    · refine ⟨mem_queueOf head, fun v taken => ?_⟩
      obtain rfl : _ = v := Option.some.inj taken
      rw [returns]
      refine ⟨mem_queueOf head, fun v taken => ?_⟩
      obtain rfl : _ = v := Option.some.inj taken
      rw [ends]
      exact ⟨mem_queueOf head, fun _ _ => trivial⟩
    · simp only [run, schedStep, returns, ends, again, Option.bind_some]
    · show zbTimeGe t.timer (timeOf t.sched nent)
      rw [runTime, clock]
      exact due

end Early

/-! ## Runs -/

theorem partsOk_run {null : F} {time : ZbTime} {calls : List (SchedCall F)} {s : SchedState F}
    (ran : run schedStep (.start null time) calls = some s) : PartsOk s :=
  run_invariant_of_step (fun _ call t parts taken => ((step_keeps parts call).2 t taken).1)
    (start_ok null time).parts ran

/-- **Exactly the alarms that wait their time out are never fired early**: with `timer`
on the timer, and inside the alarm loop with `now` read. -/
theorem neverEarly_iff [Inhabited F] (now : Option ZbTime) (timer runAfter : ZbTime) :
    (∀ (null : F) time calls s, run schedStep (.start null time) calls = some s →
        s.timer = timer → nowOf s = now → NeverEarly s runAfter) ↔
      WaitsOut now timer runAfter := by
  constructor
  · intro never
    by_contra early
    have later : runAfter ≠ 0 := fun zero => early (.inl zero)
    cases now with
    | none =>
        have due : zbTimeGe timer (timer + runAfter) := by
          by_contra waits
          exact early (.inr ⟨waits, by simp⟩)
        exact early_outside later due (never default timer [] _ rfl rfl rfl)
    | some time =>
        obtain ⟨s, ran, rfl, place, empty, free⟩ := callback_reached (default : F) time timer
        refine early_inside default (partsOk_run ran) place empty free later ?_
          (never default time _ s ran rfl (by rw [nowOf, place]))
        by_contra waits
        rw [not_or] at waits
        exact early (.inr ⟨waits.2, by simpa using waits.1⟩)
  · rintro waits null time calls s ran rfl rfl
    exact neverEarly_of_waitsOut (partsOk_run ran) waits

/-- **The alarm of the channel check is fired at once**, not after a quarter of an
hour. -/
theorem channelCheck_fires_early :
    ¬ ∀ (null : Nat) (time runAfter : ZbTime) calls s,
        run schedStep (.start null time) calls = some s → NeverEarly s runAfter := by
  intro never
  have waits := never 0 0 zbZdoChannelCheckTimeout [] _ rfl
  exact early_outside (by decide) (by decide) waits

/-- The one-minute timeout waits. -/
example : WaitsOut none 65000 zbZdo1MinTimeout ∧ ¬ WaitsOut none 65000 zbZdoChannelCheckTimeout := by
  decide

end Zboss.Common.AlarmTime
