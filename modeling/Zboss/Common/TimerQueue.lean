/-
# Common.TimerQueue -- the representation of the timer queue

`Parts`: the queue is a doubly linked list, the freelist a stack, and together with
the entry being fired they are the entries of `tm_buffer`, each once.  Every step
keeps that, wherever it comes from.

The order of the queue is kept as long as the pending times fit half the range of
the timer (`WithinHalf`), where `ZB_TIME_GE` is an order (`timeGe_iff`).  Elsewhere
two times can be incomparable, and the scan then ends at the head, whose `prev` is
the tail.  `timerQueue_of_run` puts the two together with what each call does.
-/
import Mathlib
import Zboss.Theory.Run
import Zboss.Common.Scheduler
import Zboss.Common.CallbackQueue

namespace Zboss.Common.TimerQueue

open Zboss.Theory.Run
open Zboss.Theory.LinkedList
open Zboss.Common.Types
open Zboss.Common.ListMacros
open Zboss.Common.Scheduler

set_option autoImplicit false

variable {F : Type}

/-! ## Time within half the range -/

section Time

variable {a b base : ZbTime}

/-- Counted from a time not later than both, `ZB_TIME_GE` compares the distances. -/
theorem timeGe_iff (inA : zbTimeGe a base) (inB : zbTimeGe b base) :
    zbTimeGe a b ↔ (b - base).toNat ≤ (a - base).toNat := by
  simp only [zbTimeGe, zbHalfMaxTimeVal, UInt16.lt_iff_toNat_lt, UInt16.toNat_sub] at *
  have := a.toNat_lt
  have := b.toNat_lt
  have := base.toNat_lt
  simp only [UInt16.reduceToNat] at *
  omega

end Time

/-! ## The parts of `tm_buffer` -/

/-- The queue, the freelist and the entries being fired. -/
structure Parts (g : ZbSchedGlobals F) (firing queue free : List Nat) : Prop where
  listed : Lists g.tmLinks g.tmQueue queue
  freed : Stacked g.tmLinks g.tmFreelist free
  parted : (queue ++ free ++ firing).Perm (List.range zbSchedulerQSize)

/-- The time an entry runs at. -/
def timeOf (g : ZbSchedGlobals F) (ent : Nat) : ZbTime := (g.tmBuffer ent).runTime

/-- Each entry runs at the same time as the ones before it or later. -/
def InOrder (g : ZbSchedGlobals F) (queue : List Nat) : Prop :=
  queue.Pairwise fun x y => zbTimeGe (timeOf g y) (timeOf g x)

section Parts

variable {g : ZbSchedGlobals F} {firing queue free : List Nat}

theorem Parts.nodup (parts : Parts g firing queue free) : (queue ++ free ++ firing).Nodup :=
  parts.parted.nodup_iff.2 List.nodup_range

theorem Parts.length (parts : Parts g firing queue free) :
    queue.length + free.length + firing.length = zbSchedulerQSize := by
  have := parts.parted.length_eq
  simpa [List.length_append, Nat.add_assoc] using this

/-- No entry of the queue is free. -/
theorem Parts.apart (parts : Parts g firing queue free) : ∀ z ∈ free, z ∉ queue := by
  have nodup := (List.nodup_append.1 parts.nodup).1
  intro z mem mem'
  exact (List.nodup_append.1 nodup).2.2 z mem' z mem rfl

theorem Parts.notFiring (parts : Parts g firing queue free) :
    ∀ z ∈ firing, z ∉ queue ∧ z ∉ free := by
  intro z mem
  have apart := (List.nodup_append.1 parts.nodup).2.2
  exact ⟨fun mem' => apart z (List.mem_append_left _ mem') z mem rfl,
    fun mem' => apart z (List.mem_append_right _ mem') z mem rfl⟩

theorem Parts.free_nodup (parts : Parts g firing queue free) : free.Nodup :=
  (List.nodup_append.1 (List.nodup_append.1 parts.nodup).1).2.1

/-! ## Linking an alarm in -/

variable {nent : Nat} {before after : List Nat}

theorem alarmScan_spec (runTime : ZbTime) {n : Nat} {start : Option Nat} {l : List Nat}
    (path : Path g.tmLinks.next start l none) (room : l.length ≤ n) :
    alarmScan g runTime n start =
      some (l.dropWhile fun x => decide (zbTimeGe runTime (timeOf g x))).head? := by
  induction l generalizing n start with
  | nil =>
      obtain rfl : start = none := path
      cases n <;> rfl
  | cons x l ih =>
      obtain ⟨rfl, path⟩ := path
      cases n with
      | zero => simp at room
      | succ n =>
          have tail := ih path (Nat.le_of_succ_le_succ room)
          rw [alarmScan, List.dropWhile_cons, tail]
          by_cases later : zbTimeGe runTime (timeOf g x)
          · rw [if_pos (by exact later), if_pos (by simpa using later)]
          · rw [if_neg (by exact later), if_neg (by simpa using later)]
            rfl

/-- The scan cuts a list where the first later entry is. -/
theorem scan_split (g : ZbSchedGlobals F) (runTime : ZbTime) (l : List Nat) :
    ∃ before after, l = before ++ after ∧
      (l.dropWhile fun x => decide (zbTimeGe runTime (timeOf g x))) = after ∧
      (∀ x ∈ before, zbTimeGe runTime (timeOf g x)) ∧
      ∀ h ∈ after.head?, ¬ zbTimeGe runTime (timeOf g h) := by
  refine ⟨l.takeWhile fun x => decide (zbTimeGe runTime (timeOf g x)), _,
    List.takeWhile_append_dropWhile.symm, rfl, fun x mem => ?_, fun h is => ?_⟩
  · simpa using List.mem_takeWhile_imp mem
  · have stops := List.head?_dropWhile_not (fun x => decide (zbTimeGe runTime (timeOf g x))) l
    rw [is] at stops
    simpa using stops

/-- Where the new entry goes: before a head that is not earlier, or behind all that
are not later, or, where it cannot be compared with the head, anywhere. -/
def Place (g : ZbSchedGlobals F) (nent : Nat) (before after : List Nat) : Prop :=
  (before = [] ∧ ∀ h ∈ after.head?, zbTimeGe (timeOf g h) (timeOf g nent)) ∨
    ((∀ x ∈ before, zbTimeGe (timeOf g nent) (timeOf g x)) ∧
      ∀ h ∈ after.head?, ¬ zbTimeGe (timeOf g nent) (timeOf g h)) ∨
    ∃ h ∈ (before ++ after).head?,
      ¬ zbTimeGe (timeOf g h) (timeOf g nent) ∧ ¬ zbTimeGe (timeOf g nent) (timeOf g h)

theorem insertTmq_spec (listed : Lists g.tmLinks g.tmQueue queue) (fresh : nent ∉ queue)
    (room : queue.length ≤ zbSchedulerQSize) :
    ∃ links list before after, insertTmq nent g = some (links, list) ∧ queue = before ++ after ∧
      Lists links list (before ++ nent :: after) ∧
      Spares g.tmLinks links (before ++ nent :: after) ∧ Place g nent before after := by
  have atHead : ∀ (place : Place g nent [] queue)
      (is : insertTmq nent g = some (zbListInsertHead g.tmLinks g.tmQueue nent)),
      ∃ links list before after, insertTmq nent g = some (links, list) ∧ queue = before ++ after ∧
        Lists links list (before ++ nent :: after) ∧
        Spares g.tmLinks links (before ++ nent :: after) ∧ Place g nent before after := by
    intro place is
    obtain ⟨links, done, lists, spares⟩ := insertHead_spec listed fresh
    refine ⟨links, some nent, [], queue, by rw [is, done], rfl, lists, fun z notIn => ?_, place⟩
    exact spares z fun mem => notIn (by simp [List.mem_singleton.1 mem])
  cases queue with
  | nil =>
      have empty : g.tmQueue = none := listed.path
      exact atHead (.inl ⟨rfl, by simp⟩) (by rw [insertTmq, empty])
  | cons h r =>
      have head : g.tmQueue = some h := listed.path.1
      by_cases earlier : zbTimeGe (timeOf g h) (timeOf g nent)
      · refine atHead (.inl ⟨rfl, fun h' is => ?_⟩) ?_
        · obtain rfl : h = h' := Option.some.inj is
          exact earlier
        · simp only [insertTmq, head]
          rw [if_pos (by exact earlier)]
      · have scanned := alarmScan_spec (timeOf g nent) listed.path room
        obtain ⟨before, after, split, drops, upto, behind⟩ := scan_split g (timeOf g nent) (h :: r)
        rw [drops] at scanned
        rw [head] at scanned
        have notEarlier : ¬ zbTimeGe (g.tmBuffer h).runTime (g.tmBuffer nent).runTime := earlier
        have scanned : alarmScan g (g.tmBuffer nent).runTime zbSchedulerQSize (some h) =
            some after.head? := scanned
        cases after with
        | nil =>
            -- none is later
            obtain ⟨links, list, done, lists, spares⟩ := insertTail_spec listed fresh
            rw [List.append_nil] at split
            have entered : insertTmq nent g = some (links, list) := by
              simp [insertTmq, head, notEarlier, scanned, ← done]
            exact ⟨links, list, h :: r, [], entered, by simp, lists, spares,
              .inr (.inl ⟨split ▸ upto, by simp⟩)⟩
        | cons ent v =>
            rcases List.eq_nil_or_concat before with rfl | ⟨s, w, rfl⟩
            · -- the head is neither earlier nor later: its `prev` is the tail
              obtain ⟨last, is⟩ := exists_last h r
              obtain ⟨s, concat⟩ := List.getLast?_eq_some_iff.1 is
              obtain ⟨rfl, rfl⟩ : h = ent ∧ r = v := List.cons.inj split
              have prev : g.tmLinks.prev h = some last := listed.prev_head.trans is
              rw [concat] at listed fresh
              obtain ⟨links, list, done, lists, spares⟩ := insertAfter_spec listed fresh
              have entered : insertTmq nent g = some (links, list) := by
                simp [insertTmq, head, notEarlier, scanned, prev, ← done]
              have here : s ++ [last, nent] = h :: r ++ [nent] := by simp [concat]
              rw [here] at lists spares
              exact ⟨links, list, h :: r, [], entered, by simp, lists, spares,
                .inr (.inr ⟨h, rfl, earlier, behind h rfl⟩)⟩
            · rw [List.concat_eq_append] at split upto
              have listed' : Lists g.tmLinks g.tmQueue (s ++ w :: ent :: v) := by
                rw [split, List.append_assoc] at listed
                exact listed
              have fresh' : nent ∉ s ++ w :: ent :: v := by
                rw [split, List.append_assoc] at fresh
                exact fresh
              obtain ⟨links, list, done, lists, spares⟩ := insertAfter_spec listed' fresh'
              have entered : insertTmq nent g = some (links, list) := by
                simp [insertTmq, head, notEarlier, scanned, listed'.prev_eq, ← done]
              have here : s ++ w :: nent :: ent :: v = s ++ [w] ++ nent :: ent :: v := by simp
              rw [here] at lists spares
              exact ⟨links, list, s ++ [w], ent :: v, entered, split, lists, spares,
                .inr (.inl ⟨upto, behind⟩)⟩

/-- **Scheduling** takes the first free entry and links it in; without one it fails
and changes nothing. -/
theorem scheduleAlarm_spec (func : F) (param : UInt8) (runAfter t : ZbTime)
    (parts : Parts g firing queue free) :
    (free = [] → zbScheduleAlarm func param runAfter t g = some (g, .error .overflow)) ∧
      ∀ nent rest, free = nent :: rest →
        ∃ g' before after, zbScheduleAlarm func param runAfter t g = some (g', .ok ()) ∧
          queue = before ++ after ∧ Parts g' firing (before ++ nent :: after) rest ∧
          g'.tmBuffer = Function.update g.tmBuffer nent ⟨func, param, t + runAfter⟩ ∧
          Place g' nent before after := by
  refine ⟨fun empty => ?_, fun nent rest some_ => ?_⟩
  · have none_ : g.tmFreelist = none := (path_eq_nil_iff parts.freed).1 empty
    simp [zbScheduleAlarm, none_, zbStkPop]
  · have freed := parts.freed
    subst some_
    have head : g.tmFreelist = some nent := freed.1
    have fresh : nent ∉ queue := parts.apart nent List.mem_cons_self
    have room : queue.length ≤ zbSchedulerQSize := by
      have := parts.length
      omega
    obtain ⟨links, list, before, after, inserted, split, lists, spares, place⟩ :=
      insertTmq_spec (g := { g with
        tmFreelist := g.tmLinks.next nent
        tmBuffer := Function.update g.tmBuffer nent ⟨func, param, t + runAfter⟩ })
        parts.listed fresh room
    refine ⟨{ g with
      tmFreelist := g.tmLinks.next nent
      tmBuffer := Function.update g.tmBuffer nent ⟨func, param, t + runAfter⟩
      tmLinks := links
      tmQueue := list }, before, after, ?_, split, ⟨lists, ?_, ?_⟩, rfl, place⟩
    · simp only [zbScheduleAlarm, head, zbStkPop, inserted, Option.bind_eq_bind, Option.bind_some]
      rfl
    · refine spares.stacked (fun z mem mem' => ?_) freed.2
      have apart := parts.apart z (List.mem_cons_of_mem nent mem)
      rw [split] at apart
      have nodup := (List.nodup_cons.1 parts.free_nodup).1
      simp only [List.mem_append, List.mem_cons, not_or] at apart mem'
      rcases mem' with mem' | rfl | mem'
      · exact apart.1 mem'
      · exact nodup mem
      · exact apart.2 mem'
    · refine List.Perm.trans ?_ parts.parted
      rw [split]
      refine List.Perm.append_right firing ?_
      simp only [List.append_assoc, List.cons_append]
      refine List.Perm.append_left before ?_
      exact List.perm_middle.symm

/-- The queue stays in order where the times, with the new one, fit half the range. -/
theorem inOrder_insert {base : ZbTime}
    (within : ∀ x ∈ before ++ nent :: after, zbTimeGe (timeOf g x) base)
    (place : Place g nent before after) (ordered : InOrder g (before ++ after)) :
    InOrder g (before ++ nent :: after) := by
  let key : Nat → Nat := fun x => (timeOf g x - base).toNat
  have later : ∀ x ∈ before ++ nent :: after, ∀ y ∈ before ++ nent :: after,
      (zbTimeGe (timeOf g x) (timeOf g y) ↔ key y ≤ key x) := fun x hx y hy =>
    timeGe_iff (within x hx) (within y hy)
  have new : nent ∈ before ++ nent :: after := by simp
  have inBefore : ∀ x ∈ before, x ∈ before ++ nent :: after := fun x mem =>
    List.mem_append_left _ mem
  have inAfter : ∀ x ∈ after, x ∈ before ++ nent :: after := fun x mem =>
    List.mem_append_right _ (List.mem_cons_of_mem nent mem)
  obtain ⟨orderBefore, orderAfter, across⟩ := List.pairwise_append.1 ordered
  -- all of `after` is at least as late as its head
  have fromHead : ∀ h ∈ after.head?, ∀ y ∈ after, key h ≤ key y := by
    intro h is y mem
    cases after with
    | nil => cases is
    | cons h' v =>
        obtain rfl : h' = h := Option.some.inj is
        rcases List.mem_cons.1 mem with rfl | mem'
        · exact Nat.le_refl _
        · have pair := (List.pairwise_cons.1 orderAfter).1 y mem'
          exact (later y (inAfter y mem) h' (inAfter h' List.mem_cons_self)).1 pair
  have bounds : (∀ x ∈ before, key x ≤ key nent) ∧ ∀ y ∈ after, key nent ≤ key y := by
    have headIn : ∀ h ∈ after.head?, h ∈ after := fun h is => List.mem_of_mem_head? is
    rcases place with ⟨rfl, head⟩ | ⟨upto, behind⟩ | ⟨h, is, notGe, notLe⟩
    · refine ⟨by simp, fun y mem => ?_⟩
      obtain ⟨h, is⟩ : ∃ h, after.head? = some h :=
        Option.isSome_iff_exists.1 (by cases after <;> simp_all)
      exact ((later h (inAfter h (headIn h is)) nent new).1 (head h is)).trans (fromHead h is y mem)
    · refine ⟨fun x mem => (later nent new x (inBefore x mem)).1 (upto x mem), fun y mem => ?_⟩
      obtain ⟨h, is⟩ : ∃ h, after.head? = some h :=
        Option.isSome_iff_exists.1 (by cases after <;> simp_all)
      have lt := mt (later nent new h (inAfter h (headIn h is))).2 (behind h is)
      exact (Nat.le_of_lt (Nat.lt_of_not_le lt)).trans (fromHead h is y mem)
    · have mem : h ∈ before ++ nent :: after := by
        have := List.mem_of_mem_head? is
        simp only [List.mem_append, List.mem_cons] at this ⊢
        tauto
      rw [later h mem nent new] at notGe
      rw [later nent new h mem] at notLe
      omega
  refine List.pairwise_append.2 ⟨orderBefore, List.pairwise_cons.2 ⟨fun y mem => ?_, orderAfter⟩,
    fun x mem y mem' => ?_⟩
  · exact (later y (inAfter y mem) nent new).2 (bounds.2 y mem)
  · rcases List.mem_cons.1 mem' with rfl | mem'
    · exact (later y new x (inBefore x mem)).2 (bounds.1 x mem)
    · exact across x mem y mem'

/-! ## Cancelling -/

variable [DecidableEq F] {func : F} {param : UInt8}

/-- The entries of `l` that a cancel leaves. -/
def left (g : ZbSchedGlobals F) (func : F) (param : UInt8) (l : List Nat) : List Nat :=
  if param = zbAlarmAllCb then l.filter fun x => !decide (Cancels func param (g.tmBuffer x))
  else l.eraseP fun x => decide (Cancels func param (g.tmBuffer x))

omit [DecidableEq F] in
theorem removed_spec {ent : Nat} {pre post : List Nat}
    (parts : Parts g firing (pre ++ ent :: post) free) :
    ∃ links list, zbListRemove g.tmLinks g.tmQueue ent = some (links, list) ∧
      Parts (freeTmEnt ent { g with tmLinks := links, tmQueue := list }) firing (pre ++ post)
        (ent :: free) := by
  obtain ⟨links, list, removed, lists, spares⟩ := remove_spec parts.listed
  have nodup := parts.listed.nodup
  have notIn : ent ∉ pre ++ post := by
    have perm : (pre ++ ent :: post).Perm (ent :: (pre ++ post)) := List.perm_middle
    exact (List.nodup_cons.1 (perm.nodup_iff.1 nodup)).1
  have notFree : ent ∉ free := fun mem => parts.apart ent mem (by simp)
  have freed : Stacked links g.tmFreelist free :=
    spares.stacked (fun z mem mem' => parts.apart z mem (List.mem_append_left _ mem')) parts.freed
  refine ⟨links, list, removed, ⟨stkPush_lists lists notIn, stkPush_spec freed notFree, ?_⟩⟩
  · refine List.Perm.trans (List.Perm.append_right firing ?_) parts.parted
    rw [List.append_assoc, List.append_assoc]
    refine List.Perm.append_left pre ?_
    simp

theorem left_cons (ent : Nat) (post : List Nat) :
    left g func param (ent :: post) =
      if Cancels func param (g.tmBuffer ent) then
        if param = zbAlarmAllCb then left g func param post else post
      else ent :: left g func param post := by
  unfold left
  by_cases names : Cancels func param (g.tmBuffer ent) <;>
    rcases eq_or_ne param zbAlarmAllCb with rfl | all <;> simp [*]

/-- **Cancelling** takes out the first entry that is named, or all of them. -/
theorem cancelScan_spec (func : F) (param : UInt8) (ret : Except ZbRet Unit) {n : Nat}
    {pre post : List Nat} (parts : Parts g firing (pre ++ post) free) (room : post.length ≤ n) :
    ∃ g' ret' free', cancelScan func param n post.head? ret g = some (g', ret') ∧
      Parts g' firing (pre ++ left g func param post) free' ∧ g'.tmBuffer = g.tmBuffer ∧
      ret' = if ∃ x ∈ post, Cancels func param (g.tmBuffer x) then .ok () else ret := by
  induction post generalizing n pre g free ret with
  | nil =>
      refine ⟨g, ret, free, by cases n <;> rfl, ?_, rfl, by simp⟩
      unfold left
      split <;> simpa using parts
  | cons ent post ih =>
      cases n with
      | zero => simp at room
      | succ n =>
          have room := Nat.le_of_succ_le_succ room
          have next : g.tmLinks.next ent = post.head? := parts.listed.next_eq
          by_cases names : Cancels func param (g.tmBuffer ent)
          · obtain ⟨links, list, removed, parts'⟩ := removed_spec parts
            have ret' : (if ∃ x ∈ ent :: post, Cancels func param (g.tmBuffer x) then .ok ()
                else ret) = (.ok () : Except ZbRet Unit) :=
              if_pos ⟨ent, List.mem_cons_self, names⟩
            rw [left_cons, if_pos names, ret']
            by_cases all : param = zbAlarmAllCb
            · obtain ⟨g', ret', free', scanned, parts', same, is⟩ := ih (.ok ()) parts' room
              refine ⟨g', ret', free', ?_, ?_, same, is.trans (ite_self _)⟩
              · simp only [List.head?_cons, cancelScan, if_pos names, removed, next,
                  Option.bind_eq_bind, Option.bind_some, ne_eq, if_neg (not_not.2 all)]
                exact scanned
              · rw [if_pos all]
                exact parts'
            · refine ⟨freeTmEnt ent { g with tmLinks := links, tmQueue := list }, .ok (), ent :: free,
                ?_, ?_, rfl, rfl⟩
              · simp only [List.head?_cons, cancelScan, if_pos names, removed,
                  Option.bind_eq_bind, Option.bind_some, ne_eq, all, not_false_eq_true, if_true]
                rfl
              · rw [if_neg all]
                exact parts'
          · have parts' : Parts g firing (pre ++ [ent] ++ post) free := by
              simpa using parts
            obtain ⟨g', ret', free', scanned, parts', same, is⟩ := ih ret parts' room
            refine ⟨g', ret', free', ?_, ?_, same, ?_⟩
            · simp only [List.head?_cons, cancelScan, if_neg names, next]
              exact scanned
            · rw [left_cons, if_neg names]
              simpa using parts'
            · rw [is]
              simp [names]

end Parts

/-! ## The queue of a state -/

/-- The timer queue as a list of entries. -/
def queueOf (s : SchedState F) : List Nat :=
  walk s.sched.tmLinks.next zbSchedulerQSize s.sched.tmQueue

def freeOf (s : SchedState F) : List Nat :=
  walk s.sched.tmLinks.next zbSchedulerQSize s.sched.tmFreelist

/-- The entry whose callback is running. -/
def firingOf (s : SchedState F) : List Nat :=
  match s.loopAt with
  | .firing _ ent => [ent]
  | _ => []

/-- The lists are well formed and share out `tm_buffer`. -/
abbrev PartsOk (s : SchedState F) : Prop := Parts s.sched (firingOf s) (queueOf s) (freeOf s)

/-- **The representation of the timer queue.** -/
structure TimerQueueOk (s : SchedState F) : Prop where
  parts : PartsOk s
  ordered : InOrder s.sched (queueOf s)

/-- The pending times lie within half the range of the timer, from one of them on. -/
def WithinHalf (s : SchedState F) : Prop :=
  queueOf s = [] ∨
    ∃ x ∈ queueOf s, ∀ y ∈ queueOf s, zbTimeGe (timeOf s.sched y) (timeOf s.sched x)

instance (s : SchedState F) : Decidable (WithinHalf s) := inferInstanceAs (Decidable (_ ∨ _))

section Steps

variable {s t : SchedState F}

theorem lists_of_parts {firing queue free : List Nat} (parts : Parts s.sched firing queue free) :
    queueOf s = queue ∧ freeOf s = free := by
  have length := parts.length
  exact ⟨walk_of_path parts.listed.path (by omega), walk_of_path parts.freed (by omega)⟩

theorem partsOk_of {queue free : List Nat} (parts : Parts s.sched (firingOf s) queue free) :
    PartsOk s := by
  obtain ⟨queues, frees⟩ := lists_of_parts parts
  rw [PartsOk, queues, frees]
  exact parts

variable [DecidableEq F]

/-- What each call has to do to the queue. -/
def QueueStep (s : SchedState F) : SchedCall F → Prop
  | .alarm func param runAfter =>
      -- fails only when no entry is free, and changes nothing then
      (freeOf s = [] →
        zbScheduleAlarm func param runAfter s.timer s.sched = some (s.sched, .error .overflow)) ∧
      ∀ nent rest, freeOf s = nent :: rest →
        ∃ t before after,
          zbScheduleAlarm func param runAfter s.timer s.sched = some (t.sched, .ok ()) ∧
          schedStep s (.alarm func param runAfter) = some t ∧
          queueOf s = before ++ after ∧ queueOf t = before ++ nent :: after ∧ freeOf t = rest ∧
          t.sched.tmBuffer =
            Function.update s.sched.tmBuffer nent ⟨func, param, s.timer + runAfter⟩
  | .cancel func param =>
      -- the first entry named, or all of them, and nothing else
      ∃ t ret, zbScheduleAlarmCancel func param s.sched = some (t.sched, ret) ∧
        schedStep s (.cancel func param) = some t ∧
        queueOf t = left s.sched func param (queueOf s) ∧
        t.sched.tmBuffer = s.sched.tmBuffer ∧
        (ret = .ok () ↔ ∃ x ∈ queueOf s, Cancels func param (s.sched.tmBuffer x))
  | .loop brk =>
      -- only the head is taken, when it is due
      (queueOf (schedLoop brk s) = queueOf s ∨
        ∃ time ent, queueOf s = ent :: queueOf (schedLoop brk s) ∧
          (schedLoop brk s).loopAt = .firing time ent ∧ zbTimeGe time (timeOf s.sched ent)) ∧
      (schedLoop brk s).sched.tmBuffer = s.sched.tmBuffer
  | .callback .. | .tick .. => True

/-- A step does what it has to, and keeps the representation. -/
def Keeps (s : SchedState F) (call : SchedCall F) : Prop :=
  QueueStep s call ∧ ∀ t, schedStep s call = some t →
    PartsOk t ∧ (InOrder s.sched (queueOf s) → WithinHalf t → InOrder t.sched (queueOf t))

theorem alarm_keeps (parts : PartsOk s) (func : F) (param : UInt8) (runAfter : ZbTime) :
    Keeps s (.alarm func param runAfter) := by
  obtain ⟨full, room⟩ := scheduleAlarm_spec func param runAfter s.timer parts
  cases free : freeOf s with
  | nil =>
      have called := full free
      refine ⟨⟨full, fun nent rest is => absurd (free.symm.trans is) (by simp)⟩,
        fun t taken => ?_⟩
      simp only [schedStep, called, Option.map_some, Option.some.injEq] at taken
      subst taken
      exact ⟨parts, fun ordered _ => ordered⟩
  | cons nent rest =>
      obtain ⟨g, before, after, called, split, parts', buffer, place⟩ := room nent rest free
      obtain ⟨queue', free'⟩ := lists_of_parts (s := { s with sched := g }) parts'
      have step : schedStep s (.alarm func param runAfter) = some { s with sched := g } := by
        simp only [schedStep, called, Option.map_some]
      refine ⟨⟨full, fun nent' rest' is => ?_⟩, fun t taken => ?_⟩
      · obtain ⟨rfl, rfl⟩ := List.cons.inj (free.symm.trans is)
        exact ⟨_, before, after, called, step, split, queue', free', buffer⟩
      · obtain rfl := Option.some.inj (step.symm.trans taken)
        refine ⟨partsOk_of parts', fun ordered within => ?_⟩
        have within := within.resolve_left (by rw [queue']; simp)
        rw [queue'] at within ⊢
        obtain ⟨x, -, within⟩ := within
        refine inOrder_insert within place ?_
        -- the times of the other entries are what they were
        have fresh : nent ∉ queueOf s := parts.apart nent (by rw [free]; exact List.mem_cons_self)
        rw [split] at ordered fresh
        refine ordered.imp_of_mem fun {x y} hx hy ge => ?_
        have kept : ∀ z ∈ before ++ after, timeOf g z = timeOf s.sched z := by
          intro z mem
          have ne : z ≠ nent := fun same => fresh (same ▸ mem)
          simp only [timeOf, buffer, Function.update_of_ne ne]
        show zbTimeGe (timeOf g y) (timeOf g x)
        rw [kept x hx, kept y hy]
        exact ge

theorem cancel_keeps (parts : PartsOk s) (func : F) (param : UInt8) :
    Keeps s (.cancel func param) := by
  have room : (queueOf s).length ≤ zbSchedulerQSize := by
    have := parts.length
    omega
  have whole : Parts s.sched (firingOf s) ([] ++ queueOf s) (freeOf s) := parts
  obtain ⟨g, ret, free, scanned, parts', same, is⟩ :=
    cancelScan_spec func param (.error .notFound) whole room
  rw [parts.listed.head_eq] at scanned
  have parts' : Parts g (firingOf { s with sched := g }) (left s.sched func param (queueOf s)) free :=
    parts'
  obtain ⟨queue', -⟩ := lists_of_parts (s := { s with sched := g }) parts'
  have called : zbScheduleAlarmCancel func param s.sched = some (g, ret) := scanned
  have step : schedStep s (.cancel func param) = some { s with sched := g } := by
    simp only [schedStep, called, Option.map_some]
  refine ⟨⟨_, ret, called, step, queue', same, ?_⟩, fun t taken => ?_⟩
  · rw [is]
    split <;> simp_all
  · obtain rfl := Option.some.inj (step.symm.trans taken)
    refine ⟨partsOk_of parts', fun ordered _ => ?_⟩
    have sub : (left s.sched func param (queueOf s)).Sublist (queueOf s) := by
      unfold left
      split
      · exact List.filter_sublist
      · exact List.eraseP_sublist
    rw [queue']
    simp only [InOrder, timeOf, same]
    exact ordered.sublist sub

omit [DecidableEq F] in
/-- Cutting the head for its callback. -/
theorem cutHead_parts {ent : Nat} {queue free : List Nat}
    (parts : Parts s.sched [] (ent :: queue) free) :
    ∃ links list, zbListCutHead s.sched.tmLinks s.sched.tmQueue = (links, list) ∧
      Parts { s.sched with tmLinks := links, tmQueue := list } [ent] queue free := by
  obtain ⟨links, list, cut, lists, spares⟩ := cutHead_spec parts.listed
  refine ⟨links, list, cut, lists, spares.stacked (by simp) parts.freed, ?_⟩
  refine List.Perm.trans ?_ parts.parted
  rw [List.append_nil, List.cons_append]
  exact List.perm_append_singleton ent (queue ++ free)

omit [DecidableEq F] in
/-- Freeing the entry after its callback. -/
theorem fired_parts {ent : Nat} {queue free : List Nat} (parts : Parts s.sched [ent] queue free) :
    Parts (freeTmEnt ent s.sched) [] queue (ent :: free) := by
  obtain ⟨notQueued, notFree⟩ := parts.notFiring ent List.mem_cons_self
  refine ⟨stkPush_lists parts.listed notQueued, stkPush_spec parts.freed notFree, ?_⟩
  refine List.Perm.trans ?_ parts.parted
  rw [List.append_nil, List.append_assoc]
  refine List.Perm.append_left queue ?_
  exact (List.perm_append_singleton ent free).symm

omit [DecidableEq F] in
/-- The loop cuts a head that is due. -/
theorem schedLoop_fire {time : ZbTime} {ent : Nat} (place : s.loopAt = .alarms time)
    (head : s.sched.tmQueue = some ent) (due : zbTimeGe time (timeOf s.sched ent)) :
    schedLoop false s =
      ⟨{ s.sched with
          tmLinks := (zbListCutHead s.sched.tmLinks s.sched.tmQueue).1
          tmQueue := (zbListCutHead s.sched.tmLinks s.sched.tmQueue).2 },
        s.timer, .firing time ent⟩ := by
  simp only [schedLoop, place, head]
  rw [if_pos (by exact due)]
  rfl

omit [DecidableEq F] in
/-- A stretch of the loop, as far as the timer queue is concerned: it leaves it
alone, cuts the head when that is due, or frees the entry that was fired. -/
theorem schedLoop_timer (brk : Bool) :
    ((schedLoop brk s).timer = s.timer ∧ firingOf s = [] ∧ firingOf (schedLoop brk s) = [] ∧
        (∀ time, (schedLoop brk s).loopAt = .alarms time → time = s.timer) ∧
        ∃ cbQ, (schedLoop brk s).sched = { s.sched with cbQ }) ∨
      (∃ time ent links list, s.loopAt = .alarms time ∧ s.sched.tmQueue = some ent ∧
        zbTimeGe time (timeOf s.sched ent) ∧
        zbListCutHead s.sched.tmLinks s.sched.tmQueue = (links, list) ∧
        schedLoop brk s =
          ⟨{ s.sched with tmLinks := links, tmQueue := list }, s.timer, .firing time ent⟩) ∨
      ∃ time ent, s.loopAt = .firing time ent ∧
        schedLoop brk s = ⟨freeTmEnt ent s.sched, s.timer, .alarms time⟩ := by
  have toAlarms_idle : (toAlarms s).timer = s.timer ∧ firingOf (toAlarms s) = [] ∧
      (∀ time, (toAlarms s).loopAt = .alarms time → time = s.timer) ∧
      ∃ cbQ, (toAlarms s).sched = { s.sched with cbQ } := by
    refine ⟨rfl, ?_, fun time is => ?_, s.sched.cbQ, rfl⟩
    · simp only [toAlarms, firingOf]
      split
      · split at * <;> simp_all
      · rfl
    · simp only [toAlarms] at is
      split at is
      · cases is
        rfl
      · cases is
  obtain ⟨timer, idle, latest, cbQ⟩ := toAlarms_idle
  cases place : s.loopAt with
  | callbacks =>
      have quiet : firingOf s = [] := by rw [firingOf, place]
      cases peeked : s.sched.cbQ.peek with
      | none =>
          have is : schedLoop brk s = toAlarms s := by simp only [schedLoop, place, peeked]
          exact .inl ⟨is ▸ timer, quiet, is ▸ idle, is ▸ latest, is ▸ cbQ⟩
      | some ent =>
          cases brk with
          | true =>
              have is : schedLoop true s = toAlarms s := by
                simp only [schedLoop, place, peeked, if_true]
              exact .inl ⟨is ▸ timer, quiet, is ▸ idle, is ▸ latest, is ▸ cbQ⟩
          | false =>
              have is : schedLoop false s = { s with loopAt := .calling } := by
                simp [schedLoop, place, peeked]
              rw [is]
              exact .inl ⟨rfl, quiet, rfl, fun _ is => absurd is (by simp), s.sched.cbQ, rfl⟩
  | calling =>
      have is : schedLoop brk s =
          { s with sched := { s.sched with cbQ := s.sched.cbQ.flushGet }, loopAt := .callbacks } := by
        simp only [schedLoop, place]
      rw [is]
      refine .inl ⟨rfl, ?_, rfl, fun _ is => absurd is (by simp), _, rfl⟩
      rw [firingOf, place]
  | alarms time =>
      have quiet : firingOf s = [] := by rw [firingOf, place]
      by_cases fires : ∃ ent, s.sched.tmQueue = some ent ∧ zbTimeGe time (timeOf s.sched ent) ∧
          brk = false
      · obtain ⟨ent, head, due, rfl⟩ := fires
        exact .inr (.inl ⟨time, ent, _, _, rfl, head, due, rfl, schedLoop_fire place head due⟩)
      · have is : schedLoop brk s = { s with loopAt := .callbacks } := by
          simp only [schedLoop, place]
          split
          · rename_i ent head
            split
            · rename_i due
              have brk : brk = true := by
                by_contra goesOn
                exact fires ⟨ent, head, due, by simpa using goesOn⟩
              rw [if_pos brk]
            · rfl
          · rfl
        rw [is]
        exact .inl ⟨rfl, quiet, rfl, fun _ is => absurd is (by simp), s.sched.cbQ, rfl⟩
  | firing time ent =>
      refine .inr (.inr ⟨time, ent, rfl, ?_⟩)
      simp only [schedLoop, place]

theorem loop_keeps (parts : PartsOk s) (brk : Bool) : Keeps s (.loop brk) := by
  have step : ∀ t, schedStep s (.loop brk) = some t → t = schedLoop brk s := fun t taken =>
    (Option.some.inj taken).symm
  rcases schedLoop_timer (s := s) brk with ⟨-, quiet, idle, -, cbQ, is⟩ |
    ⟨time, ent, links, list, place, head, due, cut, is⟩ | ⟨time, ent, place, is⟩
  · have parts' : Parts (schedLoop brk s).sched (firingOf (schedLoop brk s)) (queueOf s)
        (freeOf s) := by
      rw [idle, is, ← quiet]
      exact ⟨parts.listed, parts.freed, parts.parted⟩
    obtain ⟨queue', -⟩ := lists_of_parts parts'
    refine ⟨⟨.inl queue', by rw [is]⟩, fun t taken => ?_⟩
    rw [step t taken]
    refine ⟨partsOk_of parts', fun ordered _ => ?_⟩
    rw [queue', is]
    exact ordered
  · have quiet : firingOf s = [] := by rw [firingOf, place]
    obtain ⟨queue, split⟩ : ∃ queue, queueOf s = ent :: queue := by
      have first := parts.listed.head_eq
      rw [head] at first
      exact List.head?_eq_some_iff.1 first
    have parts : Parts s.sched [] (ent :: queue) (freeOf s) := by
      rw [← split, ← quiet]
      exact parts
    obtain ⟨links', list', cut', parts'⟩ := cutHead_parts parts
    obtain ⟨rfl, rfl⟩ := Prod.mk.inj (cut.symm.trans cut')
    have parts' : Parts (schedLoop brk s).sched (firingOf (schedLoop brk s)) queue (freeOf s) := by
      rw [is]
      exact parts'
    obtain ⟨queue', -⟩ := lists_of_parts parts'
    refine ⟨⟨.inr ⟨time, ent, by rw [queue', split], by rw [is], due⟩, by rw [is]⟩,
      fun t taken => ?_⟩
    rw [step t taken]
    refine ⟨partsOk_of parts', fun ordered _ => ?_⟩
    rw [queue', is]
    rw [split] at ordered
    exact (List.pairwise_cons.1 ordered).2
  · have firing : firingOf s = [ent] := by rw [firingOf, place]
    have parts' : Parts (schedLoop brk s).sched (firingOf (schedLoop brk s)) (queueOf s)
        (ent :: freeOf s) := by
      rw [is]
      exact fired_parts (firing ▸ parts)
    obtain ⟨queue', -⟩ := lists_of_parts parts'
    refine ⟨⟨.inl queue', by rw [is]; rfl⟩, fun t taken => ?_⟩
    rw [step t taken]
    refine ⟨partsOk_of parts', fun ordered _ => ?_⟩
    rw [queue', is]
    exact ordered

/-- **Every step keeps the representation and does what it has to.** -/
theorem step_keeps (parts : PartsOk s) (call : SchedCall F) : Keeps s call := by
  cases call with
  | callback func param =>
      refine ⟨trivial, fun t taken => ?_⟩
      obtain ⟨⟨cbQ, ret⟩, -, rfl⟩ := Option.map_eq_some_iff.1 taken
      exact ⟨⟨parts.listed, parts.freed, parts.parted⟩, fun ordered _ => ordered⟩
  | alarm func param runAfter => exact alarm_keeps parts func param runAfter
  | cancel func param => exact cancel_keeps parts func param
  | tick ticks =>
      refine ⟨trivial, fun t taken => ?_⟩
      cases taken
      exact ⟨⟨parts.listed, parts.freed, parts.parted⟩, fun ordered _ => ordered⟩
  | loop brk => exact loop_keeps parts brk

end Steps

/-! ## Runs -/

/-- `zb_sched_init` puts every entry to the freelist, the last one on top. -/
theorem init_parts (null : F) : Parts (zbSchedInit (.zero null)) [] []
    (List.range zbSchedulerQSize).reverse := by
  have pushed : ∀ n, let g := (List.range n).foldl (fun g i => freeTmEnt i g) (.zero null)
      g.tmQueue = none ∧ Stacked g.tmLinks g.tmFreelist (List.range n).reverse := by
    intro n
    induction n with
    | zero => exact ⟨rfl, rfl⟩
    | succ n ih =>
        rw [List.range_succ, List.foldl_append, List.reverse_append]
        exact ⟨ih.1, stkPush_spec ih.2 (by simp)⟩
  obtain ⟨empty, freed⟩ := pushed zbSchedulerQSize
  have listed : Lists (zbSchedInit (.zero null)).tmLinks (zbSchedInit (.zero null)).tmQueue [] :=
    (congrArg (fun head => Lists _ head []) empty).mpr linked_nil
  exact ⟨listed, freed, by simp⟩

theorem start_ok (null : F) (timer : ZbTime) : TimerQueueOk (.start null timer) := by
  have parts : Parts (SchedState.start null timer).sched (firingOf (.start null timer)) []
      (List.range zbSchedulerQSize).reverse := init_parts null
  refine ⟨partsOk_of parts, ?_⟩
  rw [(lists_of_parts parts).1]
  exact List.Pairwise.nil

variable [DecidableEq F]

/-- **The representation of the timer queue holds in every run** whose pending times
stay within half the range, and every call does to the queue what it has to. -/
theorem timerQueue_of_run {null : F} {timer : ZbTime} {calls : List (SchedCall F)}
    (within : Along schedStep (fun s call => ∀ t, schedStep s call = some t → WithinHalf t)
      (.start null timer) calls) :
    Along schedStep QueueStep (.start null timer) calls ∧
      ∀ s, run schedStep (.start null timer) calls = some s → TimerQueueOk s := by
  have keeps : ∀ s call t, TimerQueueOk (F := F) s →
      (∀ t, schedStep s call = some t → WithinHalf t) → schedStep s call = some t →
      TimerQueueOk t := by
    intro s call t ok within taken
    obtain ⟨parts, ordered⟩ := (step_keeps ok.parts call).2 t taken
    exact ⟨parts, ordered ok.ordered (within t taken)⟩
  exact ⟨along_of_invariant keeps (fun s call ok _ => (step_keeps ok.parts call).1)
      (start_ok null timer) within,
    fun s ran => run_invariant keeps (start_ok null timer) within ran⟩

instance (s : SchedState F) (call : SchedCall F) :
    Decidable (∀ t, schedStep s call = some t → WithinHalf t) :=
  match schedStep s call with
  | some t => decidable_of_iff (WithinHalf t) (by simp)
  | none => isTrue (by simp)

/-- Three alarms across the wrap of the timer, one cancelled from the callback of
another. -/
def acrossTheWrap : List (SchedCall Nat) :=
  [.alarm 1 7 40, .alarm 2 3 10, .alarm 1 5 20, .loop false, .tick 12, .loop false, .loop false,
    .cancel 1 255, .alarm 3 0 30000, .loop false]

theorem timerQueue_of_acrossTheWrap :
    Along schedStep QueueStep (.start 0 65530) acrossTheWrap ∧
      ∀ s, run schedStep (.start 0 65530) acrossTheWrap = some s → TimerQueueOk s :=
  timerQueue_of_run (by decide)

end Zboss.Common.TimerQueue
