/-
# Common.BufpoolOverflow -- the callback queue is full when a buffer is due

`zb_get_buf_delayed` takes the buffer and only then schedules the callback; on
`RET_OVERFLOW` it returns the error, and the buffer is in nobody's hands.
`zb_free_buf` cuts the waiter, takes the buffer again, and does not look at the
result: buffer and waiter are both gone.  The counters count the lost buffer as
allocated, for good.

A state is described by the buffers the program holds and those lost before
(`Short`).  Without an overflow a call keeps the lost buffers (`short_of_roomy`),
with one it adds a buffer to them (`short_of_overflow`).

* `nothingLost_iff`: from every state a run reaches, a call loses neither buffer
  nor waiter exactly when the callback queue does not overflow in it.

Pole: `overflow_takes_both`.
-/
import Mathlib
import Zboss.Common.BufpoolRun

namespace Zboss.Common.BufpoolOverflow

open Zboss.Theory.Run
open Zboss.Theory.LinkedList
open Zboss.Common.Types
open Zboss.Common.RingBuffer
open Zboss.Common.ListMacros
open Zboss.Common.Scheduler
open Zboss.Common.CallbackQueue
open Zboss.Common.Bufpool
open Zboss.Common.BufpoolRun

set_option autoImplicit false

variable {F : Type}

/-! ## What must not get lost -/

/-- The buffers met from `head` on. -/
def freeList (s : ZbBufpool F) : List Nat :=
  walk (fun i => (s.pool i).next) zbIobufPoolSize s.head

/-- The program frees and writes only what it holds. -/
def Disciplined (s : Pooled F) : BufCall F → Prop
  | .free buf => buf ∈ s.allocated
  | .fill buf _ => buf ∈ s.allocated
  | _ => True

instance (s : Pooled F) : (call : BufCall F) → Decidable (Disciplined s call)
  | .free buf => inferInstanceAs (Decidable (buf ∈ s.allocated))
  | .fill buf _ => inferInstanceAs (Decidable (buf ∈ s.allocated))
  | .getIn | .getOut | .getInDelayed _ | .getOutDelayed _ | .rxNeedBuf _ | .schedule _ _
  | .done => isTrue trivial

/-- A step that loses nothing: a buffer on the free list or held by the program is so
afterwards, who waited or joined is served or still waits, and the buffers not counted
as allocated are on the free list. -/
structure NothingLost (s t : Pooled F) (call : BufCall F) : Prop where
  buffers : ∀ buf, buf ∈ freeList s.bufpool ++ s.allocated →
    buf ∈ freeList t.bufpool ++ t.allocated
  waiters : ∀ k, waits k s.bufpool ++ enters k s call = serves k s call ++ waits k t.bufpool
  counted : t.bufpool.bufsAllocated false + t.bufpool.bufsAllocated true +
    (freeList t.bufpool).length = zbIobufPoolSize

/-- The call loses nothing. -/
def LossFree (s : Pooled F) (call : BufCall F) : Prop :=
  ∀ t, pooledStep s call = some t → NothingLost s t call

/-! ## Pools that have lost buffers -/

/-- **The invariant**: apart from the buffers in `lost` the pool is in order. -/
def Short (s : Pooled F) (lost : List Nat) : Prop := BufpoolOk s.bufpool (s.allocated ++ lost)

section Parts

variable {s : ZbBufpool F} {free allocated allocated' : List Nat}

theorem PoolParts.perm (parts : PoolParts s free allocated) (perm : allocated.Perm allocated') :
    PoolParts s free allocated' where
  path := parts.path
  parts := (perm.symm.append_left free).trans parts.parts
  counted := fun k => (parts.counted k).trans (perm.countP_eq _)
  limited := parts.limited

theorem PoolParts.freeList_eq (parts : PoolParts s free allocated) : freeList s = free := by
  have length := parts.length
  exact walk_of_path parts.path (by omega)

end Parts

section Steps

variable {s t : Pooled F} {lost : List Nat} {call : BufCall F} {buf : Nat}

/-- Every buffer of the pool is free, held or lost, and only one of them. -/
theorem Short.parts (short : Short s lost) :
    PoolParts s.bufpool (freeList s.bufpool) (s.allocated ++ lost) := by
  obtain ⟨free, parts⟩ := short.pool
  rwa [PoolParts.freeList_eq parts]

theorem Short.mem_iff (short : Short s lost) :
    buf ∈ freeList s.bufpool ++ s.allocated ↔ buf < zbIobufPoolSize ∧ buf ∉ lost := by
  have all := short.parts.parts
  have nodup := short.parts.nodup
  rw [← List.append_assoc] at all nodup
  have inside : buf ∈ freeList s.bufpool ++ s.allocated ++ lost ↔ buf < zbIobufPoolSize := by
    rw [all.mem_iff, List.mem_range]
  rw [← inside, List.mem_append (s := _ ++ _)]
  constructor
  · intro kept
    exact ⟨.inl kept, fun gone => (List.nodup_append.1 nodup).2.2 buf kept buf gone rfl⟩
  · rintro ⟨kept | gone, notLost⟩
    · exact kept
    · exact absurd gone notLost

/-! ## A call without an overflow -/

/-- **Room in the callback queue**: the lost buffers stay the same ones. -/
theorem short_of_roomy (short : Short s lost) (disciplined : Disciplined s call)
    (roomy : overflows s.bufpool call = false) (taken : pooledStep s call = some t) :
    Short t lost ∧
      ∀ k, waits k s.bufpool ++ enters k s call = serves k s call ++ waits k t.bufpool := by
  -- the pool does not know that the program no longer holds the lost buffers
  let s' : Pooled F := ⟨s.bufpool, s.allocated ++ lost⟩
  obtain ⟨bufpool, step, rfl⟩ := Option.map_eq_some_iff.1 taken
  have allowed : Allowed s' call := by
    refine ⟨roomy, ?_⟩
    cases call with
    | free buf => exact List.mem_append_left lost disciplined
    | fill buf first => exact List.mem_append_left lost disciplined
    | _ => trivial
  have taken' : pooledStep s' call = some ⟨bufpool, given s.bufpool call ++ kept s'.allocated call⟩ :=
    Option.map_eq_some_iff.2 ⟨bufpool, step, rfl⟩
  have short' : BufpoolOk s'.bufpool s'.allocated := short
  obtain ⟨ok, balance⟩ := step_spec short' allowed taken'
  have same : kept s'.allocated call = kept s.allocated call ++ lost := by
    cases call with
    | free buf => exact List.erase_append_left lost disciplined
    | _ => rfl
  refine ⟨?_, balance⟩
  rw [same, ← List.append_assoc] at ok
  exact ok

/-! ## A call with an overflow -/

/-- A full queue stays as it is. -/
theorem schedule_full (callback : F) (param : UInt8) {cbQ : ZbCbQ F} (full : cbQ.isFull = true) :
    zbScheduleCallback callback param cbQ = some (cbQ, .error .overflow) := by
  unfold zbScheduleCallback
  rw [if_pos full]

/-- **A request when the queue is full**: the error is returned, the buffer is taken. -/
theorem getDelayed_overflow {isIn : Bool} (callback : F) (short : Short s lost)
    (full : s.bufpool.cbQ.isFull = true) (below : s.bufpool.bufsAllocated isIn < zbBufsLimit) :
    ∃ buf u, zbGetBufDelayed callback isIn s.bufpool = some (u, .error .overflow) ∧
      u.cbQ = s.bufpool.cbQ ∧ buf ∈ freeList s.bufpool ++ s.allocated ∧
      BufpoolOk u (s.allocated ++ buf :: lost) := by
  obtain ⟨-, ⟨waiters, spare, wait⟩, ring⟩ := id short
  obtain ⟨many, -⟩ | ⟨-, buf, rest, pool, head, counts, first, got, parts, -⟩ :=
    zbGetBuf_spec isIn short.parts
  · exact absurd below (Nat.not_lt.2 many)
  have lost' : (buf :: (s.allocated ++ lost)).Perm (s.allocated ++ buf :: lost) :=
    List.perm_middle.symm
  refine ⟨buf, { s.bufpool with pool, head, bufsAllocated := counts }, ?_, rfl, ?_, ?_, ?_, ring⟩
  · simp only [zbGetBufDelayed, got, Option.bind_eq_bind, Option.bind_some, schedule_full _ _ full]
    rfl
  · rw [first]
    exact List.mem_append_left _ List.mem_cons_self
  · exact ⟨rest, PoolParts.perm parts lost'⟩
  · exact ⟨waiters, spare, wait.congr rfl (fun _ => rfl) rfl⟩

/-- **Freeing when the queue is full and somebody waits**: the buffer is taken again. -/
theorem free_overflow (short : Short s lost) (holds : buf ∈ s.allocated)
    (full : s.bufpool.cbQ.isFull = true)
    (waiter : (cutWaiter (s.bufpool.pool buf).isInBuf s.bufpool).1.isSome = true) :
    ∃ u, zbFreeBuf buf s.bufpool = some u ∧ u.cbQ = s.bufpool.cbQ ∧
      BufpoolOk u (s.allocated.erase buf ++ buf :: lost) := by
  obtain ⟨-, ⟨waiters, spare, wait⟩, ring⟩ := id short
  unfold cutWaiter at waiter
  have unneeded : ((s.bufpool.pool buf).isInBuf && s.bufpool.rxNeedBuf) = false := by
    by_contra needed
    simp [Bool.not_eq_false _ ▸ needed] at waiter
  simp only [unneeded, Bool.false_eq_true, if_false] at waiter
  have queues := wait.queues (s.bufpool.pool buf).isInBuf
  cases first : waiters (s.bufpool.pool buf).isInBuf with
  | nil =>
      rw [first] at queues
      rw [slCutHead_nil queues] at waiter
      cases waiter
  | cons ent rest =>
      obtain ⟨u, is, cbQ, parts, waits', -⟩ :=
        zbFreeBuf_handsOver short.parts wait (List.mem_append_left lost holds) unneeded first
          (schedule_full _ _ full)
      have perm : (buf :: (s.allocated ++ lost).erase buf).Perm
          (s.allocated.erase buf ++ buf :: lost) := by
        rw [List.erase_append_left lost holds]
        exact List.perm_middle.symm
      exact ⟨u, is, cbQ, ⟨_, PoolParts.perm parts perm⟩, waits', cbQ ▸ ring⟩

/-- **An overflow loses a buffer**: it was free or held, and is now in nobody's hands. -/
theorem short_of_overflow (short : Short s lost) (disciplined : Disciplined s call)
    (full : overflows s.bufpool call = true) :
    ∃ t buf, pooledStep s call = some t ∧ buf ∈ freeList s.bufpool ++ s.allocated ∧
      Short t (buf :: lost) := by
  have delayed (isIn : Bool) (callback : F) (isFull : s.bufpool.cbQ.isFull = true)
      (below : s.bufpool.bufsAllocated isIn < zbBufsLimit) :=
    getDelayed_overflow callback short isFull below
  cases call with
  | getInDelayed callback =>
      obtain ⟨isFull, below⟩ : _ ∧ _ := by simpa [overflows] using full
      obtain ⟨buf, u, is, same, was, ok⟩ := delayed true callback isFull below
      have step : bufStep s.bufpool (.getInDelayed callback) = some u := by simp [bufStep, is]
      have nothing : passed s.bufpool (.getInDelayed callback) = [] := by
        simp [passed, step, scheduled_nil same]
      refine ⟨⟨u, s.allocated⟩, buf, ?_, was, ok⟩
      simp [pooledStep, step, given, kept, nothing]
  | getOutDelayed callback =>
      obtain ⟨isFull, below⟩ : _ ∧ _ := by simpa [overflows] using full
      obtain ⟨buf, u, is, same, was, ok⟩ := delayed false callback isFull below
      have step : bufStep s.bufpool (.getOutDelayed callback) = some u := by simp [bufStep, is]
      have nothing : passed s.bufpool (.getOutDelayed callback) = [] := by
        simp [passed, step, scheduled_nil same]
      refine ⟨⟨u, s.allocated⟩, buf, ?_, was, ok⟩
      simp [pooledStep, step, given, kept, nothing]
  | free buf =>
      obtain ⟨isFull, waiter⟩ : _ ∧ _ := by simpa [overflows] using full
      obtain ⟨u, is, same, ok⟩ := free_overflow short disciplined isFull waiter
      have step : bufStep s.bufpool (.free buf) = some u := is
      have nothing : passed s.bufpool (.free buf) = [] := by
        simp [passed, step, scheduled_nil same]
      refine ⟨⟨u, s.allocated.erase buf⟩, buf, ?_, List.mem_append_right _ disciplined, ok⟩
      simp [pooledStep, step, given, kept, nothing]
  | _ => cases full

/-! ## Runs -/

/-- A call keeps the pool in order but for the buffers it loses. -/
theorem short_step (short : Short s lost) (disciplined : Disciplined s call)
    (taken : pooledStep s call = some t) : ∃ lost', Short t lost' := by
  cases room : overflows s.bufpool call with
  | false => exact ⟨lost, (short_of_roomy short disciplined room taken).1⟩
  | true =>
      obtain ⟨t', buf, taken', -, short'⟩ := short_of_overflow short disciplined room
      obtain rfl : t' = t := Option.some.inj (taken'.symm.trans taken)
      exact ⟨buf :: lost, short'⟩

theorem lossFree_iff (short : Short s lost) (disciplined : Disciplined s call) :
    LossFree s call ↔ overflows s.bufpool call = false := by
  constructor
  · intro lossFree
    by_contra full
    rw [Bool.not_eq_false] at full
    obtain ⟨t, buf, taken, was, short'⟩ := short_of_overflow short disciplined full
    have kept := (lossFree t taken).buffers buf was
    exact (short'.mem_iff.1 kept).2 List.mem_cons_self
  · intro room t taken
    obtain ⟨short', balance⟩ := short_of_roomy short disciplined room taken
    refine ⟨fun buf was => short'.mem_iff.2 (short.mem_iff.1 was), balance, short'.parts.length⟩

end Steps

/-- **When nothing is lost.**  In every state a run of a disciplined program reaches, with
overflows on the way or not, a call loses no buffer and no waiter exactly when the callback
queue is not full while a buffer is due. -/
theorem nothingLost_iff {null : F} {calls : List (BufCall F)} {s : Pooled F} {call : BufCall F}
    (ran : run pooledStep (.start null) calls = some s)
    (before : Along pooledStep Disciplined (.start null) calls)
    (disciplined : Disciplined s call) :
    LossFree s call ↔ overflows s.bufpool call = false := by
  have keeps : ∀ s call t, (∃ lost, Short s lost) → Disciplined s call →
      pooledStep s call = some t → ∃ lost, Short (F := F) t lost :=
    fun _ _ _ ⟨_, short⟩ disciplined taken => short_step short disciplined taken
  have start : ∃ lost, Short (Pooled.start null) lost := ⟨[], (start_ok null).1⟩
  obtain ⟨lost, short⟩ := run_invariant keeps start before ran
  exact lossFree_iff short disciplined

/-- All output buffers are out, somebody waits for one, and the callback queue is full. -/
def fullHouse : List (BufCall Nat) :=
  List.replicate zbBufsLimit .getOut ++ [.getOutDelayed 1] ++
    List.replicate zbSchedulerQSize (.schedule 2 0)

theorem nothingLost_fullHouse :
    ∃ s, run pooledStep (.start 0) fullHouse = some s ∧
      (LossFree s (.free 0) ↔ overflows s.bufpool (.free 0) = false) := by
  have there : ((run pooledStep (.start 0) fullHouse).any fun s => decide (0 ∈ s.allocated)) =
      true := by decide +kernel
  obtain ⟨s, ran, held⟩ := (Option.any_eq_true _ _).1 there
  have holds : Disciplined s (.free 0) := of_decide_eq_true held
  exact ⟨s, ran, nothingLost_iff ran (by decide +kernel) holds⟩

/-- **Both are gone**: buffer 0 is freed while somebody waits for it and the callback queue is
full.  Afterwards it is neither free nor held, nobody waits, and nobody has been served. -/
theorem overflow_takes_both :
    ∃ s t, run pooledStep (.start 0) fullHouse = some s ∧ pooledStep s (.free 0) = some t ∧
      (0 ∈ s.allocated ∧ 0 ∉ freeList t.bufpool ++ t.allocated) ∧
      (waits false s.bufpool = [1] ∧ waits false t.bufpool = [] ∧ serves false s (.free 0) = []) ∧
      ¬ LossFree s (.free 0) := by
  have there : ((run pooledStep (.start 0) fullHouse).any fun s =>
      (pooledStep s (.free 0)).any fun t =>
        decide ((0 ∈ s.allocated ∧ 0 ∉ freeList t.bufpool ++ t.allocated) ∧
          waits false s.bufpool = [1] ∧ waits false t.bufpool = [] ∧
          serves false s (.free 0) = [])) = true := by decide +kernel
  obtain ⟨s, ran, stepped⟩ := (Option.any_eq_true _ _).1 there
  obtain ⟨t, taken, seen⟩ := (Option.any_eq_true _ _).1 stepped
  obtain ⟨⟨held, gone⟩, waiter⟩ := of_decide_eq_true seen
  refine ⟨s, t, ran, taken, ⟨held, gone⟩, waiter, fun lossFree => ?_⟩
  exact gone ((lossFree t taken).buffers 0 (List.mem_append_right _ held))

end Zboss.Common.BufpoolOverflow
